import BuzzerScript.Yaml.Text

/-!
# YAML scalars

The five ways to write a scalar: plain, in single or double quotes, and as a literal or folded
block.  Each reader works through the text character by character.  It keeps the content so far
with the last character first, and the line breaks and blanks that it has seen since the last
word as a `Gap`, because what they stand for depends on what comes after them.

## Main definitions

* `Yaml.readPlain`, `Yaml.readQuoted`, `Yaml.readBlock`: the content of a scalar and the input
  after it; `none` if the text is malformed.
* `Yaml.Gap.fold`: what a gap between two words stands for.
-/

namespace BuzzerScript.Yaml

/-- How a scalar is written. -/
inductive ScalarStyle where
  | plain | singleQuoted | doubleQuoted | literal | folded
  deriving DecidableEq, Repr

/-- What line breaks fold to.  A single line feed is a space, and the first of several line
feeds is dropped; a separator of lines or paragraphs is kept. -/
def foldBreaks : List Char → List Char
  | '\n' :: [] => [' ']
  | '\n' :: more => more
  | breaks => breaks

/-- Blanks and line breaks between two words. -/
structure Gap where
  /-- The blanks before the first line break. -/
  blanks : List Char := []
  /-- Whether the gap starts with a line break that a backslash hides. -/
  hidden : Bool := false
  breaks : List Char := []

namespace Gap

/-- Whether the gap reaches over the end of a line. -/
def isBroken (gap : Gap) : Bool := gap.hidden || gap.breaks ≠ []

/-- Whether there is nothing between the words. -/
def isEmpty (gap : Gap) : Bool := gap.blanks = [] && !gap.isBroken

/-- Add a blank; those after a line break are indentation. -/
def addBlank (gap : Gap) (c : Char) : Gap :=
  if gap.isBroken then gap else { gap with blanks := gap.blanks ++ [c] }

/-- Add a line break; the blanks before it are dropped. -/
def addBreak (gap : Gap) (c : Char) : Gap :=
  { gap with blanks := [], breaks := gap.breaks ++ [c] }

/-- What a gap stands for. -/
def fold (gap : Gap) : List Char :=
  if gap.hidden then gap.breaks
  else if gap.breaks = [] then gap.blanks
  else foldBreaks gap.breaks

/-- Add what a gap stands for to a text that is kept with its last character first. -/
def foldOnto (gap : Gap) (text : List Char) : List Char := gap.fold.reverseAux text

end Gap

/-! ## Plain scalars -/

/-- A comma or a bracket, which ends a plain scalar inside a flow collection. -/
def isFlowIndicator (c : Char) : Bool :=
  c = ',' || c = '[' || c = ']' || c = '\x7b' || c = '\x7d'

/-- The content of a plain scalar, whether a line break follows it, and the input after it and
its trailing blanks.  A plain scalar ends before a colon with a blank after it, a comment, a
document marker, a line that is indented less than `indent`, and inside a flow collection
before a flow indicator. -/
def readPlain (inFlow : Bool) (indent : Nat) (text : List Char) (gap : Gap) (mark : Mark) :
    List Char → Option (List Char × Bool × Input)
  | [] => some (text.reverse, gap.isBroken, ⟨mark, []⟩)
  | c :: rest =>
    if isBlank c then
      if gap.isBroken ∧ mark.column < indent ∧ c = '\t' then none
      else readPlain inFlow indent text (gap.addBlank c) (mark.after c) rest
    else if isBreak c then readPlain inFlow indent text (gap.addBreak c) (mark.after c) rest
    else if
      (¬ gap.isEmpty ∧
        ((inFlow = false ∧ mark.column < indent) ∨ c = '#' ∨
          (mark.column = 0 ∧ startsDocumentMarker (c :: rest)))) ∨
      (c = ':' ∧ startsBlank rest) ∨ (inFlow ∧ isFlowIndicator c) then
      some (text.reverse, gap.isBroken, ⟨mark, c :: rest⟩)
    else if inFlow ∧ c = ':' ∧
      (rest.head?.any fun next => isFlowIndicator next || next = '?') then none
    else readPlain inFlow indent (c :: gap.foldOnto text) {} (mark.after c) rest

/-! ## Quoted scalars -/

/-- The value of a hexadecimal digit. -/
def hexDigit? (c : Char) : Option Nat :=
  if c.isDigit then some (c.toNat - 48)
  else if 'a' ≤ c ∧ c ≤ 'f' then some (c.toNat - 87)
  else if 'A' ≤ c ∧ c ≤ 'F' then some (c.toNat - 55)
  else none

/-- The number that hexadecimal digits spell. -/
def hexNumber? (digits : List Char) : Option Nat :=
  digits.foldl (fun n c => n.bind fun n => (hexDigit? c).map (16 * n + ·)) (some 0)

/-- The character with a code point that is written with `n` hexadecimal digits at
the start of a text. -/
def hexChar? (n : Nat) (text : List Char) : Option Char :=
  if (text.take n).length = n then
    (hexNumber? (text.take n)).bind fun code =>
      if h : code.isValidChar then some (Char.ofNatAux code h) else none
  else none

/-- The character that an escape stands for and the length of the escape, both without the
backslash. -/
def escape? : List Char → Option (Char × Nat)
  | [] => none
  | c :: rest =>
    match c with
    | '0' => some ('\x00', 1)
    | 'a' => some ('\x07', 1)
    | 'b' => some ('\x08', 1)
    | 't' => some ('\t', 1)
    | '\t' => some ('\t', 1)
    | 'n' => some ('\n', 1)
    | 'v' => some ('\x0b', 1)
    | 'f' => some ('\x0c', 1)
    | 'r' => some ('\r', 1)
    | 'e' => some ('\x1b', 1)
    | ' ' => some (' ', 1)
    | '"' => some ('"', 1)
    | '/' => some ('/', 1)
    | '\\' => some ('\\', 1)
    | 'N' => some ('\u0085', 1)
    | '_' => some ('\u00a0', 1)
    | 'L' => some ('\u2028', 1)
    | 'P' => some ('\u2029', 1)
    | 'x' => (hexChar? 2 rest).map (·, 3)
    | 'u' => (hexChar? 4 rest).map (·, 5)
    | 'U' => (hexChar? 8 rest).map (·, 9)
    | _ => none

/-- The content of a quoted scalar and the input after its closing quote.  A quote is written
twice between single quotes, and with a backslash between double quotes. -/
def readQuoted (double : Bool) (text : List Char) (gap : Gap) (input : Input) :
    Option (List Char × Input) :=
  match _h : input.rest with
  | [] => none
  | c :: rest =>
    let next := input.drop 1
    if isBlank c then readQuoted double text (gap.addBlank c) next
    else if isBreak c then readQuoted double text (gap.addBreak c) next
    else if input.mark.column = 0 ∧ startsDocumentMarker input.rest then none
    else
      let text := gap.foldOnto text
      if double then
        if c = '"' then some (text.reverse, next)
        else if c = '\\' then
          if rest.head?.any isBreak then
            readQuoted double text { hidden := true } (input.drop 2)
          else
            match escape? rest with
            | some (escaped, length) =>
              readQuoted double (escaped :: text) {} (input.drop (length + 1))
            | none => none
        else readQuoted double (c :: text) {} next
      else if c = '\'' then
        if rest.head? = some '\'' then readQuoted double (c :: text) {} (input.drop 2)
        else some (text.reverse, next)
      else readQuoted double (c :: text) {} next
termination_by input.rest.length
decreasing_by all_goals simp [Input.drop, _h]; try omega

/-! ## Block scalars -/

/-- What becomes of the line breaks at the end of a block scalar. -/
inductive Chomping where
  | strip | clip | keep
  deriving DecidableEq, Repr

/-- A block scalar that is being read. -/
structure Block where
  /-- The indentation of the content; not known before the first line that is not empty. -/
  indent : Option Nat
  /-- The deepest column seen before that line. -/
  deepest : Nat := 0
  /-- The content so far, the last character first. -/
  text : List Char := []
  inLine : Bool := false
  /-- The break that ended the last line. -/
  lineEnd : List Char := []
  /-- The breaks of the empty lines since. -/
  emptyLines : List Char := []
  /-- Whether the last line starts with a blank; such lines are not folded. -/
  startedBlank : Bool := false

/-- The content with its trailing line breaks. -/
def Block.finish (block : Block) (chomping : Chomping) : List Char :=
  match chomping with
  | .strip => block.text.reverse
  | .clip => block.text.reverse ++ block.lineEnd
  | .keep => block.text.reverse ++ block.lineEnd ++ block.emptyLines

/-- Start a line with the character `c`.  In a folded scalar a line feed between two lines that
start with no blank folds. -/
def Block.startLine (block : Block) (literal : Bool) (indent : Nat) (c : Char) : Block :=
  let between :=
    if ¬ literal ∧ block.lineEnd = ['\n'] ∧ ¬ block.startedBlank ∧ ¬ isBlank c then
      if block.emptyLines = [] then [' '] else block.emptyLines
    else block.lineEnd ++ block.emptyLines
  { block with
    indent := some indent
    text := c :: between.reverseAux block.text
    inLine := true
    lineEnd := []
    emptyLines := []
    startedBlank := isBlank c }

/-- The content of a block scalar from the line after its header on, and the input after it.
The content is indented at least as far as `least`. -/
def readBlock (literal : Bool) (chomping : Chomping) (least : Nat) (block : Block)
    (mark : Mark) :
    List Char → Option (List Char × Input)
  | [] => some (block.finish chomping, ⟨mark, []⟩)
  | c :: rest =>
    if block.inLine then
      let block :=
        if isBreak c then { block with inLine := false, lineEnd := [c] }
        else { block with text := c :: block.text }
      readBlock literal chomping least block (mark.after c) rest
    else
      let indenting := block.indent.all (mark.column < ·)
      if indenting ∧ c = ' ' then
        let block := { block with deepest := max block.deepest (mark.column + 1) }
        readBlock literal chomping least block (mark.after c) rest
      else if indenting ∧ c = '\t' then none
      else if isBreak c then
        let block := { block with emptyLines := block.emptyLines ++ [c] }
        readBlock literal chomping least block (mark.after c) rest
      else
        let indent := block.indent.getD (max block.deepest least)
        if mark.column = indent then
          readBlock literal chomping least (block.startLine literal indent c) (mark.after c)
            rest
        else some (block.finish chomping, ⟨mark, c :: rest⟩)

end BuzzerScript.Yaml
