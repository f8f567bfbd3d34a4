import BuzzerScript.NoteSymbol
import BuzzerScript.Settings

/-!
# Scripts

A script is a list of tracks that play together, with settings for all of them.  A track is a
melody with a name, a delay and settings of its own.
-/

namespace BuzzerScript

/-- What sounds for the duration of a melody token. -/
inductive Sound where
  | rest
  | note (pitch : Pitch)
  deriving DecidableEq, Repr

/-- The sound of a note symbol. -/
def NoteSymbol.sound (symbol : NoteSymbol) : Sound :=
  match symbol.pitch? with
  | some pitch => .note pitch
  | none => .rest

/-- A note or a rest with its duration. -/
structure MelodyToken where
  sound : Sound
  /-- The part of a whole note that it lasts: 4 for a quarter, 8 for an eighth. -/
  denominator : Nat
  deriving DecidableEq, Repr

/-- The duration in beats; a quarter note is one beat. -/
def MelodyToken.beats (token : MelodyToken) : Binary64 := 4 / Binary64.ofNat token.denominator

/-- A melody that plays on its own. -/
structure Track where
  name : String
  delayBeats : Binary64 := 0
  settings : Settings := {}
  tokens : List MelodyToken := []
  deriving DecidableEq

/-- The length of the melody in beats, without the delay. -/
def Track.lengthBeats (track : Track) : Binary64 :=
  track.tokens.foldl (fun sum token => sum + token.beats) 0

/-- A script as it is written, with the settings of its directives. -/
structure Script where
  globals : Settings := {}
  tracks : List Track := []
  deriving DecidableEq

end BuzzerScript
