import BuzzerScript.Token
import BuzzerScript.Token.Cursor
import BuzzerScript.Decimal

/-!
# Lexemes

The words, numerals and signs that tokens are read from.  At each place the longest lexeme
counts, and a word that is both a note symbol and an identifier is a note.

Lengths are in bytes.  A lexeme consists of ASCII characters, so they are its lengths
in characters as well.

## Main definitions

* `identifierLength`, `numeralLength`, `barLength`: the longest lexeme of a class at
  the start of a text.
* `readLexeme`: the token at the start of a text, with the length of its lexeme.
-/

namespace BuzzerScript

/-! ## Identifiers -/

/-- A letter or an underscore. -/
def isIdentifierStart (c : Char) : Bool := c.isAlpha || c == '_'

/-- A letter, a digit, an underscore or a hyphen. -/
def isIdentifierPart (c : Char) : Bool := c.isAlphanum || c == '_' || c == '-'

/-- The length of the longest identifier at the start of a text. -/
def identifierLength : List Char → Nat
  | [] => 0
  | c :: tail =>
    if isIdentifierStart c then 1 + (tail.takeWhile isIdentifierPart).length else 0

/-! ## Numerals -/

/-- The digits of the longest numeral at the start of a text, before and after the point.  A
point without a digit after it is not part of the numeral. -/
def numeral (text : List Char) : List Char × List Char :=
  let whole := text.takeWhile Char.isDigit
  match text.dropWhile Char.isDigit with
  | '.' :: tail => (whole, tail.takeWhile Char.isDigit)
  | _ => (whole, [])

/-- The length of the longest numeral at the start of a text. -/
def numeralLength (text : List Char) : Nat :=
  let (whole, fraction) := numeral text
  if fraction = [] then whole.length else whole.length + 1 + fraction.length

/-- The number that a numeral stands for. -/
def numeralValue (text : List Char) : Binary64 :=
  let (whole, fraction) := numeral text
  (Decimal.ofDigits whole fraction).nearest false

/-! ## Signs, blanks and comments -/

/-- The length of the longest run of bars at the start of a text. -/
def barLength (text : List Char) : Nat := (text.takeWhile (· == '|')).length

/-- The word that opens a track header. -/
def trackWord : List Char := ['@', 't', 'r', 'a', 'c', 'k']

/-- A character that separates tokens and is none. -/
def isBlank (c : Char) : Bool := c == ' ' || c == '\t' || c == '\r'

/-- The length of a comment: all up to the end of the line. -/
def commentLength (text : List Char) : Nat := utf8Length (text.takeWhile (· != '\n'))

/-! ## Tokens -/

/-- The note or identifier at the start of a text, whichever is longer; of equal length it is a
note. -/
def readWord (text : List Char) : Token × Nat :=
  let identifierEnd := identifierLength text
  match NoteSymbol.scan? text with
  | some (_, noteEnd) =>
    if identifierEnd ≤ noteEnd then
      (.note (String.ofList (takeBytes noteEnd text)), noteEnd)
    else (.identifier (String.ofList (takeBytes identifierEnd text)), identifierEnd)
  | none => (.identifier (String.ofList (takeBytes identifierEnd text)), identifierEnd)

/-- The token that starts with the character `c`, which `tail` follows, with the length of its
lexeme. -/
def readLexeme (c : Char) (tail : List Char) : Except LexicalFault (Token × Nat) :=
  let text := c :: tail
  if c = '\n' then .ok (.newline, 1)
  else if c = '=' then .ok (.equal, 1)
  else if c = '|' then .ok (.bar, barLength text)
  else if c = '@' then
    if trackWord.isPrefixOf text then .ok (.track, trackWord.length) else .error .strayAtSign
  else if c.isDigit then
    let length := numeralLength text
    let value := numeralValue text
    if value.isFinite then .ok (.number value, length)
    else .error (.numberOutOfRange (String.ofList (takeBytes length text)))
  else if isIdentifierStart c then .ok (readWord text)
  else .error (.unexpectedCharacter c)

/-! ## No lexeme is empty -/

theorem identifierLength_pos {c : Char} {tail : List Char} (h : isIdentifierStart c) :
    0 < identifierLength (c :: tail) := by
  simp only [identifierLength, h, if_true]
  omega

theorem numeralLength_pos {c : Char} {tail : List Char} (h : c.isDigit) :
    0 < numeralLength (c :: tail) := by
  have whole : 0 < (numeral (c :: tail)).1.length := by
    unfold numeral
    split <;> simp [h]
  simp only [numeralLength]
  split <;> omega

theorem barLength_pos (tail : List Char) : 0 < barLength ('|' :: tail) := by
  simp [barLength]

theorem commentLength_pos (tail : List Char) : 0 < commentLength ('#' :: tail) := by
  have := Char.utf8Size_pos '#'
  rw [commentLength, List.takeWhile_cons_of_pos (by decide), utf8Length]
  omega

theorem readWord_pos {c : Char} {tail : List Char} (h : isIdentifierStart c) :
    0 < (readWord (c :: tail)).2 := by
  have := @identifierLength_pos c tail h
  simp only [readWord]
  split
  · split
    · exact NoteSymbol.scan?_pos ‹_›
    · exact this
  · exact this

theorem readLexeme_pos {c : Char} {tail : List Char} {token : Token} {n : Nat}
    (h : readLexeme c tail = .ok (token, n)) : 0 < n := by
  simp only [readLexeme] at h
  split at h
  · simp_all; omega
  split at h
  · simp_all; omega
  split at h
  · subst_vars
    simp only [Except.ok.injEq, Prod.mk.injEq] at h
    exact h.2 ▸ barLength_pos tail
  split at h
  · split at h <;> simp only [Except.ok.injEq, Prod.mk.injEq, reduceCtorEq] at h
    exact h.2 ▸ (by decide)
  split at h
  · split at h <;> simp only [Except.ok.injEq, Prod.mk.injEq, reduceCtorEq] at h
    exact h.2 ▸ numeralLength_pos ‹_›
  split at h
  · simp only [Except.ok.injEq] at h
    have := @readWord_pos c tail ‹_›
    rwa [h] at this
  · simp at h

end BuzzerScript
