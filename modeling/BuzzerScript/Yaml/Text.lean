/-!
# YAML text

The characters of a YAML stream and the place of each of them.
-/

namespace BuzzerScript.Yaml

/-- A character that may occur in a stream. -/
def isAllowed (c : Char) : Bool :=
  let n := c.toNat
  n = 0x09 || n = 0x0A || n = 0x0D || (0x20 ≤ n && n ≤ 0x7E) || n = 0x85 ||
    (0xA0 ≤ n && n ≤ 0xD7FF) || (0xE000 ≤ n && n ≤ 0xFFFD) || 0x10000 ≤ n

/-! ## Portions -/

/-- The most bytes in a portion. -/
def portionSize : Nat := 16384

/-- A stream is read in portions, each as long as it may be without a part of a character at
its end.  This is the text before the first portion with a character that may not occur, and
whether there is such a portion.  Of the portion that `text` starts in, `size` bytes were read,
and `portion` is its text, last character first. -/
def readablePartFrom (size : Nat) (portion : List Char) : List Char → List Char × Bool
  | [] => (portion.reverse, false)
  | c :: rest =>
    if ¬ isAllowed c then
      -- a character that starts a portion spoils that one only
      (if portionSize < size + c.utf8Size then portion.reverse else [], true)
    else if portionSize < size + c.utf8Size then
      let (text, isCut) := readablePartFrom c.utf8Size [c] rest
      (portion.reverse ++ text, isCut)
    else readablePartFrom (size + c.utf8Size) (c :: portion) rest

/-- The text before the first portion with a character that may not occur, and whether there
is such a portion. -/
def readablePart (text : List Char) : List Char × Bool := readablePartFrom 0 [] text

/-! ## Line breaks -/

/-- Write every line break as a line feed, except the separators of lines and paragraphs, which
are content when a line is folded. -/
def normalize : List Char → List Char
  | [] => []
  | '\r' :: '\n' :: rest => '\n' :: normalize rest
  | c :: rest => (if c = '\r' ∨ c.toNat = 0x85 then '\n' else c) :: normalize rest

/-- A line break. -/
def isBreak (c : Char) : Bool := c = '\n' || c.toNat = 0x2028 || c.toNat = 0x2029

/-- A space or a tab. -/
def isBlank (c : Char) : Bool := c = ' ' || c = '\t'

/-- A character of the names of anchors, directives and tag handles. -/
def isNameChar (c : Char) : Bool := c.isAlphanum || c = '_' || c = '-'

/-- Whether a text has ended, or goes on with a blank or a line break. -/
def startsBlank : List Char → Bool
  | [] => true
  | c :: _ => isBlank c || isBreak c

/-- Whether a text goes on with a line that separates documents: three hyphens or three points,
then a blank or nothing. -/
def startsDocumentMarker (text : List Char) : Bool :=
  match text with
  | a :: b :: c :: rest => (a = '-' || a = '.') && a = b && b = c && startsBlank rest
  | _ => false

/-! ## Places -/

/-- A place in a stream; all counts start at zero. -/
structure Mark where
  /-- The bytes before it. -/
  index : Nat := 0
  line : Nat := 0
  /-- The characters before it in its line. -/
  column : Nat := 0
  deriving DecidableEq, Repr

/-- The place after the character `c`. -/
def Mark.after (mark : Mark) (c : Char) : Mark :=
  if isBreak c then ⟨mark.index + c.utf8Size, mark.line + 1, 0⟩
  else ⟨mark.index + c.utf8Size, mark.line, mark.column + 1⟩

/-- The rest of a stream and the place where it starts. -/
structure Input where
  mark : Mark := {}
  rest : List Char

namespace Input

/-- Leave the first `n` characters behind. -/
def drop (n : Nat) (input : Input) : Input :=
  ⟨(input.rest.take n).foldl Mark.after input.mark, input.rest.drop n⟩

/-- Leave the longest run of characters in a class behind. -/
def dropWhile (p : Char → Bool) (input : Input) : Input :=
  input.drop (input.rest.takeWhile p).length

/-- The longest run of characters in a class, and what comes after it. -/
def span (p : Char → Bool) (input : Input) : List Char × Input :=
  (input.rest.takeWhile p, input.dropWhile p)

/-- Leave a line break behind, if there is one. -/
def dropBreak (input : Input) : Input :=
  match input.rest with
  | c :: _ => if isBreak c then input.drop 1 else input
  | [] => input

end Input

end BuzzerScript.Yaml
