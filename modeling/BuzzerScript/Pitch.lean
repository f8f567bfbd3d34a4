import BuzzerScript.Binary64

/-!
# Pitches

A pitch is a letter, an optional accidental and an octave.  It sounds in equal temperament:
each semitone above or below the `A` of octave 4, which has 440 Hz, multiplies or divides the
frequency by the twelfth root of two.

## Main definitions

* `Pitch.semitones`: the signed distance from the `A` of octave 4.
* `Pitch.frequency`: the frequency in Hz.
* `Pitch.text`: the letter, accidental and octave as they are written.
-/

namespace BuzzerScript

/-- The letter of a note. -/
inductive NoteLetter where
  | c | d | e | f | g | a | b
  deriving DecidableEq, Repr

namespace NoteLetter

/-- The letter that a character spells. -/
def ofChar? : Char → Option NoteLetter
  | 'C' => some .c
  | 'D' => some .d
  | 'E' => some .e
  | 'F' => some .f
  | 'G' => some .g
  | 'A' => some .a
  | 'B' => some .b
  | _ => none

/-- The character that spells a letter. -/
def char : NoteLetter → Char
  | .c => 'C'
  | .d => 'D'
  | .e => 'E'
  | .f => 'F'
  | .g => 'G'
  | .a => 'A'
  | .b => 'B'

/-- Semitones from the `A` of the same octave; an octave runs from `C` to `B`. -/
def semitones : NoteLetter → Int
  | .c => -9
  | .d => -7
  | .e => -5
  | .f => -4
  | .g => -2
  | .a => 0
  | .b => 2

end NoteLetter

/-- A sign that moves a note by a semitone. -/
inductive Accidental where
  | sharp | flat
  deriving DecidableEq, Repr

namespace Accidental

/-- The accidental that a character spells. -/
def ofChar? : Char → Option Accidental
  | '#' => some .sharp
  | 'b' => some .flat
  | _ => none

/-- The character that spells an accidental. -/
def char : Accidental → Char
  | .sharp => '#'
  | .flat => 'b'

/-- The move in semitones. -/
def semitones : Accidental → Int
  | .sharp => 1
  | .flat => -1

end Accidental

/-- A pitch with its octave resolved. -/
structure Pitch where
  letter : NoteLetter
  accidental : Option Accidental
  octave : Nat
  deriving DecidableEq, Repr

namespace Pitch

/-- The octave of a note that is written without one, and of the reference pitch. -/
def referenceOctave : Nat := 4

/-- The signed distance in semitones from the `A` of octave 4. -/
def semitones (p : Pitch) : Int :=
  p.letter.semitones + (p.accidental.map Accidental.semitones).getD 0
    + 12 * ((p.octave : Int) - referenceOctave)

/-- The frequency in Hz. -/
def frequency (p : Pitch) : Binary64 :=
  440 * Binary64.twoPow (Binary64.ofInt p.semitones / 12)

/-- The pitch as it is written, always with its octave. -/
def text (p : Pitch) : String :=
  String.ofList (p.letter.char :: (p.accidental.toList.map Accidental.char ++
    Nat.toDigits 10 p.octave))

end Pitch

end BuzzerScript
