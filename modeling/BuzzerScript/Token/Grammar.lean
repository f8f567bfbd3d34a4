import BuzzerScript.Token.Stream

/-!
# The grammar of tokens

What the texts of tokens look like, said without reading them.  A text is cut from left to
right into blanks, comments and lexemes; a lexeme is as long as any lexeme at its place can be,
and if it is both a note symbol and an identifier, it is a note.

`tokenize` does not use these definitions; they say which tokens it has to find.
-/

namespace BuzzerScript

/-! ## Classes of lexemes -/

/-- A letter or underscore, then letters, digits, underscores and hyphens. -/
def IsIdentifier : List Char → Prop
  | [] => False
  | c :: tail => isIdentifierStart c = true ∧ ∀ d ∈ tail, isIdentifierPart d = true

/-- At least one digit, and nothing else. -/
def IsDigits (text : List Char) : Prop := text ≠ [] ∧ ∀ c ∈ text, c.isDigit = true

/-- Digits, and possibly a point with digits after it. -/
def IsNumeral (text : List Char) : Prop :=
  IsDigits text ∨ ∃ whole fraction, IsDigits whole ∧ IsDigits fraction ∧
    text = whole ++ '.' :: fraction

/-- The classes of lexemes. -/
inductive LexemeClass where
  | note | identifier | number | track | equal | bar | newline
  deriving DecidableEq, Repr

/-- The texts of a class. -/
def LexemeClass.Spells (text : List Char) : LexemeClass → Prop
  | .note => ∃ symbol : NoteSymbol, text = symbol.chars
  | .identifier => IsIdentifier text
  | .number => IsNumeral text
  | .track => text = trackWord
  | .equal => text = ['=']
  | .bar => text ≠ [] ∧ ∀ c ∈ text, c = '|'
  | .newline => text = ['\n']

/-- Whether a token can be written as a text of the given class.  A number has to be finite. -/
inductive LexemeClass.Denotes : LexemeClass → List Char → Token → Prop
  | note (text : List Char) : Denotes .note text (.note (String.ofList text))
  | identifier (text : List Char) : Denotes .identifier text (.identifier (String.ofList text))
  | number (text : List Char) (d : Decimal) (value : Binary64)
      (read : Decimal.ofChars? text = some d)
      (rounded : d.nearest false = value) (finite : value.isFinite = true) :
      Denotes .number text (.number value)
  | track (text : List Char) : Denotes .track text .track
  | equal (text : List Char) : Denotes .equal text .equal
  | bar (text : List Char) : Denotes .bar text .bar
  | newline (text : List Char) : Denotes .newline text .newline

/-- A text of a class, in front of `rest`, that is as long as any lexeme which starts where it
starts; a text that is both a note symbol and an identifier is a note. -/
structure IsLexeme (kind : LexemeClass) (text rest : List Char) : Prop where
  spells : kind.Spells text
  longest : ∀ (other : LexemeClass) (candidate : List Char),
    other.Spells candidate → candidate <+: text ++ rest → candidate.length ≤ text.length
  note_first : kind = .identifier → ¬ LexemeClass.note.Spells text

/-! ## Texts -/

/-- A text, and the tokens that it is cut into from left to right. -/
inductive Cuts : List Char → List Token → Prop
  | done : Cuts [] []
  | blank {c : Char} {rest : List Char} {tokens : List Token} (blank : isBlank c = true)
      (cuts : Cuts rest tokens) : Cuts (c :: rest) tokens
  | comment {body rest : List Char} {tokens : List Token} (inLine : ∀ c ∈ body, c ≠ '\n')
      (ends : rest = [] ∨ rest.head? = some '\n') (cuts : Cuts rest tokens) :
      Cuts ('#' :: body ++ rest) tokens
  | lexeme {kind : LexemeClass} {text rest : List Char} {token : Token} {tokens : List Token}
      (lexeme : IsLexeme kind text rest) (denotes : kind.Denotes text token)
      (cuts : Cuts rest tokens) : Cuts (text ++ rest) (token :: tokens)

/-! ## Positions -/

/-- The position at the end of a text: the line ends in it are counted, and the characters
after the last of them. -/
def Position.atEnd (text : List Char) : Position :=
  ⟨1 + text.count '\n', 1 + (text.reverse.takeWhile (· ≠ '\n')).length⟩

end BuzzerScript
