import BuzzerScript.Pitch

/-!
# Note symbols

A note symbol is what a script writes for a note before its duration: `R` for a rest, or a
letter from `A` to `G`, an optional `#` or `b`, and an optional octave digit.
-/

namespace BuzzerScript

/-- A note or a rest as written, without a duration. -/
inductive NoteSymbol where
  | rest
  | note (letter : NoteLetter) (accidental : Option Accidental) (octave : Option (Fin 10))
  deriving DecidableEq, Repr

namespace NoteSymbol

/-- The octave that a digit spells. -/
def octaveOfChar? (c : Char) : Option (Fin 10) :=
  if h : 48 ≤ c.toNat ∧ c.toNat < 58 then some ⟨c.toNat - 48, by omega⟩ else none

/-- Take one character off a text if `read?` knows it. -/
def takeOptional {α : Type} (read? : Char → Option α) : List Char → Option α × List Char
  | [] => (none, [])
  | c :: tail =>
    match read? c with
    | some a => (some a, tail)
    | none => (none, c :: tail)

/-- The longest note symbol at the start of a text, with its length.  All its characters are
ASCII, so the length counts bytes and characters alike. -/
def scan? : List Char → Option (NoteSymbol × Nat)
  | [] => none
  | first :: afterLetter =>
    if first = 'R' then some (.rest, 1)
    else
      (NoteLetter.ofChar? first).map fun letter =>
        let (accidental, afterAccidental) := takeOptional Accidental.ofChar? afterLetter
        let (octave, _) := takeOptional octaveOfChar? afterAccidental
        (.note letter accidental octave, 1 + accidental.toList.length + octave.toList.length)

theorem scan?_pos {text : List Char} {symbol : NoteSymbol} {n : Nat}
    (h : scan? text = some (symbol, n)) : 0 < n := by
  cases text with
  | nil => simp [scan?] at h
  | cons first afterLetter =>
    simp only [scan?] at h
    split at h
    · simp only [Option.some.injEq, Prod.mk.injEq] at h; omega
    · simp only [Option.map_eq_some_iff, Prod.mk.injEq] at h
      obtain ⟨_, _, _, h⟩ := h
      omega

/-- A text that is a note symbol from its first character to its last. -/
def ofChars? (text : List Char) : Option NoteSymbol :=
  match scan? text with
  | some (symbol, length) => if length = text.length then some symbol else none
  | none => none

/-- A note symbol as it is written. -/
def chars : NoteSymbol → List Char
  | .rest => ['R']
  | .note letter accidental octave =>
    letter.char :: (accidental.toList.map Accidental.char ++
      octave.toList.map fun digit => Nat.digitChar digit.val)

/-- The pitch of a note, in octave 4 unless it is written with another one; a rest has none. -/
def pitch? : NoteSymbol → Option Pitch
  | .rest => none
  | .note letter accidental octave =>
    some ⟨letter, accidental, (octave.map Fin.val).getD Pitch.referenceOctave⟩

/-- What is said about a text that is no note symbol. -/
def malformedMessage (text : String) : String :=
  "'" ++ text ++
    "' is not a note symbol (expected R or A-G, optional #/b, optional octave 0-9)"

end NoteSymbol

end BuzzerScript
