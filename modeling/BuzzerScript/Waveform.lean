import BuzzerScript.Text.Case

/-!
# Waveforms

The oscillator shapes that a track can ask for.  Scripts and the command line name them in any
case of letters, an options file in lower case only.
-/

namespace BuzzerScript

/-- An oscillator shape. -/
inductive Waveform where
  | sine | square | sawtooth | triangle
  deriving DecidableEq, Repr

namespace Waveform

/-- All shapes, in the order in which they are offered. -/
def all : List Waveform := [.sine, .square, .sawtooth, .triangle]

/-- The lower-case name. -/
def name : Waveform → String
  | .sine => "sine"
  | .square => "square"
  | .sawtooth => "sawtooth"
  | .triangle => "triangle"

/-- The shape with exactly this name. -/
def ofExactName? (text : String) : Option Waveform :=
  all.find? fun w => w.name = text

/-- The shape with this name, whatever the case of its ASCII letters. -/
def ofName? (text : String) : Option Waveform :=
  ofExactName? (Text.lowerCase text)

/-- What is said about a text that names no shape. -/
def unknownMessage (text : String) : String :=
  "Unknown waveform '" ++ text ++ "'. Expected: sine, square, sawtooth, or triangle"

end Waveform

end BuzzerScript
