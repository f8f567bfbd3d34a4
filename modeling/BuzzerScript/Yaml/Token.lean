import BuzzerScript.Yaml.Scalar

/-!
# YAML tokens

A stream is first cut into tokens.  Some of them are not written: the start of a block
collection and its end follow from the indentation, and that a scalar is a key is known
only when the colon after it is seen.  Until then its place in the list of tokens is
remembered as a `PossibleKey`.

A reader of tokens gets to see a token only once it is settled that it is no key.  So when the
text turns out to be malformed, what was read before is the list up to the first possible key.

## Main definitions

* `Yaml.Token`: what a stream consists of.
* `Yaml.Scanner`: a stream that is being cut into tokens.
* `Yaml.tokensOf`: the tokens of a stream, up to its end or to the place where it is malformed.
-/

namespace BuzzerScript.Yaml

/-- The text of a tag in bytes; an escape in a tag need not stand for a character. -/
abbrev TagText := List UInt8

/-- A token of a stream. -/
inductive Token where
  | streamEnd
  | version (major minor : Nat)
  | tagDirective (handle : List Char) (uri : TagText)
  | documentStart
  | documentEnd
  | blockSequenceStart
  | blockMappingStart
  | blockEnd
  | flowSequenceStart
  | flowSequenceEnd
  | flowMappingStart
  | flowMappingEnd
  | blockEntry
  | flowEntry
  | key
  | value
  | alias (name : List Char)
  | anchor (name : List Char)
  | tag (handle : List Char) (suffix : TagText)
  | scalar (content : List Char) (style : ScalarStyle)
  deriving DecidableEq

/-- A token and the place of its first character. -/
structure MarkedToken where
  token : Token
  mark : Mark
  deriving DecidableEq

/-- A token that is a key if a colon follows its node. -/
structure PossibleKey where
  /-- The number of tokens before it. -/
  tokenIndex : Nat
  mark : Mark
  /-- Whether nothing but a key makes sense at its place. -/
  required : Bool

/-- A stream that is being cut into tokens. -/
structure Scanner where
  input : Input
  /-- Whether the stream goes on after the input with what cannot be read. -/
  isCut : Bool := false
  /-- The tokens so far, the last one first. -/
  newest : List MarkedToken := []
  /-- The number of tokens so far. -/
  count : Nat := 0
  /-- The number of tokens that are settled. -/
  settled : Nat := 0
  /-- The column of the innermost block collection, none outside of all of them. -/
  indent : Option Nat := none
  /-- The columns of the block collections around it. -/
  outerIndents : List (Option Nat) := []
  /-- Whether a key may start at this place. -/
  keyAllowed : Bool := true
  /-- The possible key of this level. -/
  possibleKey : Option PossibleKey := none
  /-- The possible keys of the levels around the flow collections that are open. -/
  outerKeys : List (Option PossibleKey) := []

namespace Scanner

/-- Whether a flow collection is open. -/
def inFlow (s : Scanner) : Bool := s.outerKeys ≠ []

/-- Add a token that starts at the current place and reaches up to `input`. -/
def push (s : Scanner) (token : Token) (input : Input) : Scanner :=
  { s with newest := ⟨token, s.input.mark⟩ :: s.newest, count := s.count + 1, input }

/-- Put a token in front of the one with the given index. -/
def insert (s : Scanner) (index : Nat) (token : MarkedToken) : Scanner :=
  let after := s.count - index
  { s with
    newest := s.newest.take after ++ token :: s.newest.drop after
    count := s.count + 1 }

/-- The settled tokens. -/
def settledTokens (s : Scanner) : List MarkedToken :=
  (s.newest.drop (s.count - s.settled)).reverse

/-! ## Keys -/

/-- Whether a possible key can no longer be one: a key stands on one line and is at
most 1024 bytes long. -/
def isStale (mark : Mark) (key : PossibleKey) : Bool :=
  key.mark.line < mark.line || key.mark.index + 1024 < mark.index

/-- Give up a possible key; fails if it is required. -/
def dropKey (key : Option PossibleKey) : Option Unit :=
  if key.any PossibleKey.required then none else some ()

/-- Give up all possible keys that are stale. -/
def dropStaleKeys (s : Scanner) : Option Scanner :=
  let stale (key : Option PossibleKey) : Bool := key.any (isStale s.input.mark)
  if (s.possibleKey :: s.outerKeys).any fun key =>
      stale key && key.any PossibleKey.required then
    none
  else
    let keep (key : Option PossibleKey) : Option PossibleKey := if stale key then none else key
    some { s with possibleKey := keep s.possibleKey, outerKeys := s.outerKeys.map keep }

/-- Give up the possible key of this level. -/
def removeKey (s : Scanner) : Option Scanner :=
  (dropKey s.possibleKey).map fun _ => { s with possibleKey := none }

/-- Remember the next token as a possible key, where one may start. -/
def saveKey (s : Scanner) : Option Scanner :=
  if s.keyAllowed then
    s.removeKey.map fun s =>
      { s with
        possibleKey := some {
          tokenIndex := s.count
          mark := s.input.mark
          required := !s.inFlow && s.indent = some s.input.mark.column } }
  else some s

/-- Settle all tokens before the first possible key.  Keys that have become stale are given up
first. -/
def settle (s : Scanner) : Option Scanner :=
  (if s.settled < s.count then s.dropStaleKeys else some s).map fun s =>
    let pending := (s.possibleKey :: s.outerKeys).filterMap fun key =>
      key.map PossibleKey.tokenIndex
    { s with settled := max s.settled (pending.foldl min s.count) }

/-! ## Indentation -/

/-- Whether a column lies to the right of an indentation. -/
def deeper (indent : Option Nat) (column : Nat) : Bool := indent.all (· < column)

/-- Open a block collection with the token `start` if a column is indented more than the
innermost one; the token goes in front of the token with the given index. -/
def openBlock (s : Scanner) (column : Nat) (index : Nat) (start : Token) (mark : Mark) :
    Scanner :=
  if !s.inFlow && deeper s.indent column then
    { s.insert index ⟨start, mark⟩ with
      indent := some column
      outerIndents := s.indent :: s.outerIndents }
  else s

/-- Close `count` block collections. -/
def closeInnermost (s : Scanner) (indent : Option Nat) (outer : List (Option Nat))
    (count : Nat) : Scanner :=
  { s with
    indent
    outerIndents := outer
    newest := List.replicate count ⟨.blockEnd, s.input.mark⟩ ++ s.newest
    count := s.count + count }

/-- The indentations that remain when all that `closes` holds of are left, and the number of
those that are left. -/
def unwind (closes : Nat → Bool) (indent : Option Nat) :
    List (Option Nat) → Option Nat × List (Option Nat) × Nat
  | [] => (indent, [], 0)
  | outer :: rest =>
    if indent.any closes then
      let (indent, outers, count) := unwind closes outer rest
      (indent, outers, count + 1)
    else (indent, outer :: rest, 0)

/-- Close the block collections whose column `closes` holds of. -/
def closeBlocks (s : Scanner) (closes : Nat → Bool) : Scanner :=
  if s.inFlow then s
  else
    let (indent, outer, count) := unwind closes s.indent s.outerIndents
    s.closeInnermost indent outer count

/-! ## Blanks and comments -/

/-- Leave blanks, comments and line breaks behind.  A tab may stand where no key can start, or
in a flow collection, and a byte order mark at the start of a line. -/
def skipBlanks (inFlow keyAllowed : Bool) (inComment : Bool) (mark : Mark) :
    List Char → Bool × Input
  | [] => (keyAllowed, ⟨mark, []⟩)
  | c :: rest =>
    if isBreak c then skipBlanks inFlow (keyAllowed || !inFlow) false (mark.after c) rest
    else if inComment ∨ c = ' ' ∨ (c = '\t' ∧ (inFlow ∨ ¬ keyAllowed)) ∨
        (mark.column = 0 ∧ c.toNat = 0xFEFF) then
      skipBlanks inFlow keyAllowed inComment (mark.after c) rest
    else if c = '#' then skipBlanks inFlow keyAllowed true (mark.after c) rest
    else (keyAllowed, ⟨mark, c :: rest⟩)

/-- Leave all behind that stands before the next token. -/
def skipToToken (s : Scanner) : Scanner :=
  let (keyAllowed, input) := skipBlanks s.inFlow s.keyAllowed false s.input.mark s.input.rest
  { s with keyAllowed, input }

/-! ## Names and tags -/

/-- Blanks and a comment up to the end of a line, which is left behind too. -/
def endLine? (input : Input) : Option Input :=
  let input := input.dropWhile isBlank
  let input := if input.rest.head? = some '#' then input.dropWhile (!isBreak ·) else input
  if input.rest.head?.all isBreak then some input.dropBreak else none

/-- The name of an anchor or alias, after its sign. -/
def anchorName? (input : Input) : Option (List Char × Input) :=
  let (name, after) := input.span isNameChar
  let ends : Bool :=
    startsBlank after.rest || after.rest.head?.any fun c =>
      c ∈ ['?', ':', ',', ']', '\x7d', '%', '@', '`']
  if name ≠ [] ∧ ends then some (name, after) else none

/-- A character of a tag that needs no escape. -/
def isTagChar (inUri : Bool) (c : Char) : Bool :=
  isNameChar c ||
    c ∈ [';', '/', '?', ':', '@', '&', '=', '+', '$', '.', '!', '~', '*', '\'', '(', ')'] ||
    (inUri && c ∈ [',', '[', ']'])

/-- The byte that a percent sign and two hexadecimal digits stand for. -/
def escapedByte? : List Char → Option UInt8
  | '%' :: a :: b :: _ => (hexNumber? [a, b]).map Nat.toUInt8
  | _ => none

/-- The count of bytes that a first byte announces, as in UTF-8. -/
def announced (byte : UInt8) : Nat :=
  let n := byte.toNat
  if n < 0x80 then 1
  else if 0xC0 ≤ n ∧ n < 0xE0 then 2
  else if 0xE0 ≤ n ∧ n < 0xF0 then 3
  else if 0xF0 ≤ n ∧ n < 0xF8 then 4
  else 0

/-- The bytes of the first `count` escapes of a text, which have to continue what another one
announced. -/
def continuation? (count : Nat) (text : List Char) : Option TagText :=
  match count with
  | 0 => some []
  | count + 1 => do
    let byte ← escapedByte? text
    if 0x80 ≤ byte.toNat ∧ byte.toNat < 0xC0 then
      (continuation? count (text.drop 3)).map (byte :: ·)
    else none

/-- The bytes of the escapes for a single character at the start of a text. -/
def escapedBytes? (text : List Char) : Option TagText := do
  let byte ← escapedByte? text
  if announced byte = 0 then none
  else (continuation? (announced byte - 1) (text.drop 3)).map (byte :: ·)

/-- The bytes of a tag, after those in `text`. -/
def tagText? (inUri : Bool) (text : TagText) (input : Input) : Option (TagText × Input) :=
  match _h : input.rest with
  | [] => some (text, input)
  | c :: _ =>
    if c = '%' then
      match escapedBytes? input.rest with
      | none => none
      | some bytes => tagText? inUri (text ++ bytes) (input.drop (max 1 (3 * bytes.length)))
    else if isTagChar inUri c then tagText? inUri (text ++ [c.toUInt8]) (input.drop 1)
    else some (text, input)
termination_by input.rest.length
decreasing_by all_goals simp [Input.drop, _h]; try omega

/-- The part of a tag before a zero byte; what comes after it does not count. -/
def upToZero (text : TagText) : TagText := text.takeWhile (· ≠ 0)

/-- A tag handle: an exclamation mark, name characters, and another exclamation mark, if
any. -/
def tagHandle? (input : Input) : Option (List Char × Input) :=
  if input.rest.head? = some '!' then
    let (name, after) := (input.drop 1).span isNameChar
    if after.rest.head? = some '!' then some ('!' :: name ++ ['!'], after.drop 1)
    else some ('!' :: name, after)
  else none

/-- A tag that is not empty as it is written. -/
def nonempty? (result : Option (TagText × Input)) : Option (TagText × Input) :=
  result.bind fun r => if r.1 = [] then none else some (upToZero r.1, r.2)

/-- A tag at the start of the input. -/
def readTag? (inFlow : Bool) (input : Input) : Option (Token × Input) := do
  let (tag, after) ←
    if (input.rest.drop 1).head? = some '<' then do
      let (uri, after) ← nonempty? (tagText? true [] (input.drop 2))
      if after.rest.head? = some '>' then some (Token.tag [] uri, after.drop 1) else none
    else do
      let (handle, after) ← tagHandle? input
      if 2 ≤ handle.length ∧ handle.getLast? = some '!' then do
        let (suffix, after) ← nonempty? (tagText? false [] after)
        some (Token.tag handle suffix, after)
      else do
        let (suffix, after) ← tagText? false ((handle.drop 1).map Char.toUInt8) after
        if upToZero suffix = [] then some (Token.tag [] ['!'.toUInt8], after)
        else some (Token.tag ['!'] (upToZero suffix), after)
  if startsBlank after.rest ∨ (inFlow ∧ after.rest.head? = some ',') then some (tag, after)
  else none

/-- A number of a version, of at most nine digits. -/
def versionNumber? (input : Input) : Option (Nat × Input) :=
  let (digits, after) := input.span Char.isDigit
  if digits ≠ [] ∧ digits.length ≤ 9 then some (Nat.ofDigitChars 10 digits 0, after) else none

/-- A directive at the start of the input, with its line. -/
def readDirective? (input : Input) : Option (Token × Input) := do
  let (name, after) := (input.drop 1).span isNameChar
  if ¬ startsBlank after.rest then none
  else if name = ['Y', 'A', 'M', 'L'] then do
    let (major, after) ← versionNumber? (after.dropWhile isBlank)
    if after.rest.head? ≠ some '.' then none
    else do
      let (minor, after) ← versionNumber? (after.drop 1)
      let after ← endLine? after
      return (.version major minor, after)
  else if name = ['T', 'A', 'G'] then do
    let (handle, after) ← tagHandle? (after.dropWhile isBlank)
    if handle.getLast? ≠ some '!' ∨ ¬ after.rest.head?.any isBlank then none
    else do
      let (uri, after) ← nonempty? (tagText? true [] (after.dropWhile isBlank))
      if ¬ startsBlank after.rest then none
      else do
        let after ← endLine? after
        return (.tagDirective handle uri, after)
  else none

/-- The header of a block scalar after its sign: the sign for line breaks at the end and the
number of columns that the content is indented, in any order, and the rest of the line. -/
def blockHeader? (input : Input) : Option (Chomping × Option Nat × Input) :=
  let chomping? (input : Input) : Option Chomping :=
    match input.rest with
    | '+' :: _ => some .keep
    | '-' :: _ => some .strip
    | _ => none
  let columns? (input : Input) : Option Nat :=
    match input.rest with
    | c :: _ => if c.isDigit then some (c.toNat - 48) else none
    | [] => none
  let first := chomping? input
  let input := if first.isSome then input.drop 1 else input
  let columns := columns? input
  let input := if columns.isSome then input.drop 1 else input
  let second := if first.isNone ∧ columns.isSome then chomping? input else none
  let input := if second.isSome then input.drop 1 else input
  if columns = some 0 then none
  else (endLine? input).map fun input => ((first <|> second).getD .clip, columns, input)

/-! ## Tokens -/

/-- An indicator of one character. -/
def pushSign (s : Scanner) (token : Token) : Scanner := s.push token (s.input.drop 1)

/-- The end of the stream, which stands at the start of a line. -/
def fetchEnd (s : Scanner) : Option Scanner := do
  let mark := s.input.mark
  let mark := if mark.column = 0 then mark else ⟨mark.index, mark.line + 1, 0⟩
  let s := { s with input := { s.input with mark } }
  let s ← (s.closeBlocks fun _ => true).removeKey
  return { s.push .streamEnd s.input with keyAllowed := false }

/-- A directive, or a line that separates documents; all block collections end before it. -/
def fetchAtMargin (s : Scanner) (read? : Input → Option (Token × Input)) : Option Scanner := do
  let s ← (s.closeBlocks fun _ => true).removeKey
  let (token, after) ← read? s.input
  return { s.push token after with keyAllowed := false }

/-- The start of a flow collection. -/
def fetchFlowStart (s : Scanner) (token : Token) : Option Scanner := do
  let s ← s.saveKey
  return { s.pushSign token with
    outerKeys := s.possibleKey :: s.outerKeys, possibleKey := none, keyAllowed := true }

/-- The end of a flow collection. -/
def fetchFlowEnd (s : Scanner) (token : Token) : Option Scanner := do
  let s ← s.removeKey
  let s := { s.pushSign token with keyAllowed := false }
  match s.outerKeys with
  | [] => return s
  | key :: outer => return { s with possibleKey := key, outerKeys := outer }

/-- A comma in a flow collection. -/
def fetchFlowEntry (s : Scanner) : Option Scanner := do
  let s ← s.removeKey
  return { s.pushSign .flowEntry with keyAllowed := true }

/-- Open a block collection at the current column for a sign, which has to stand where
a key could start. -/
def openBlockHere (s : Scanner) (start : Token) : Option Scanner :=
  if s.inFlow then some s
  else if s.keyAllowed then
    some (s.openBlock s.input.mark.column s.count start s.input.mark)
  else none

/-- The hyphen of an entry of a block sequence. -/
def fetchBlockEntry (s : Scanner) : Option Scanner := do
  let s ← s.openBlockHere .blockSequenceStart
  let s ← s.removeKey
  return { s.pushSign .blockEntry with keyAllowed := true }

/-- The question mark of a key. -/
def fetchKey (s : Scanner) : Option Scanner := do
  let s ← s.openBlockHere .blockMappingStart
  let s ← s.removeKey
  return { s.pushSign .key with keyAllowed := !s.inFlow }

/-- The colon of a value.  If there is a possible key, it is one, and a block mapping starts in
front of it unless there is one at its column. -/
def fetchValue (s : Scanner) : Option Scanner :=
  match s.possibleKey with
  | some key =>
    let s := { s.insert key.tokenIndex ⟨.key, key.mark⟩ with possibleKey := none }
    let s := s.openBlock key.mark.column key.tokenIndex .blockMappingStart key.mark
    some { s.pushSign .value with keyAllowed := false }
  | none =>
    (s.openBlockHere .blockMappingStart).map fun s =>
      { s.pushSign .value with keyAllowed := !s.inFlow }

/-- A token that a node starts with, and that may be a key. -/
def fetchNode (s : Scanner) (read? : Input → Option (Token × Input)) : Option Scanner := do
  let s ← s.saveKey
  let (token, after) ← read? s.input
  return { s.push token after with keyAllowed := false }

/-- A block scalar. -/
def fetchBlockScalar (s : Scanner) (literal : Bool) : Option Scanner := do
  let s ← s.removeKey
  let (chomping, columns, after) ← blockHeader? (s.input.drop 1)
  let indent := columns.map (s.indent.getD 0 + ·)
  let least := (s.indent.map (· + 1)).getD 1
  let (content, after) ← readBlock literal chomping least { indent } after.mark after.rest
  let style : ScalarStyle := if literal then .literal else .folded
  return { s.push (.scalar content style) after with keyAllowed := true }

/-- A quoted scalar. -/
def readQuoted? (double : Bool) (input : Input) : Option (Token × Input) :=
  (readQuoted double [] {} (input.drop 1)).map fun (content, after) =>
    (.scalar content (if double then .doubleQuoted else .singleQuoted), after)

/-- A plain scalar.  If it ends with a line, a key may start after it. -/
def fetchPlain (s : Scanner) : Option Scanner := do
  let s ← s.saveKey
  let indent := (s.indent.map (· + 1)).getD 0
  let (content, broken, after) ←
    readPlain s.inFlow indent [] {} s.input.mark s.input.rest
  return { s.push (.scalar content .plain) after with keyAllowed := broken }

/-- A character that is an indicator at the start of a token. -/
def isIndicator (c : Char) : Bool :=
  c ∈ ['-', '?', ':', ',', '[', ']', '\x7b', '\x7d', '#', '&', '*', '!', '|', '>', '\'', '"',
    '%', '@', '`']

/-- Whether a plain scalar can start with `c`, which `rest` follows. -/
def startsPlain (inFlow : Bool) (c : Char) (rest : List Char) : Bool :=
  !(isIndicator c || isBlank c || isBreak c) ||
    (c = '-' && !rest.head?.any isBlank) ||
    (!inFlow && (c = '?' || c = ':') && !startsBlank rest)

/-- The next token, which starts with `c`. -/
def fetchAt (s : Scanner) (c : Char) (rest : List Char) : Option Scanner :=
  let atMargin := s.input.mark.column = 0
  let named (token : List Char → Token) (input : Input) : Option (Token × Input) :=
    (anchorName? (input.drop 1)).map fun (name, after) => (token name, after)
  if atMargin ∧ c = '%' then s.fetchAtMargin readDirective?
  else if atMargin ∧ startsDocumentMarker (c :: rest) then
    s.fetchAtMargin fun input =>
      some (if c = '-' then .documentStart else .documentEnd, input.drop 3)
  else if c = '[' then s.fetchFlowStart .flowSequenceStart
  else if c = '\x7b' then s.fetchFlowStart .flowMappingStart
  else if c = ']' then s.fetchFlowEnd .flowSequenceEnd
  else if c = '\x7d' then s.fetchFlowEnd .flowMappingEnd
  else if c = ',' then s.fetchFlowEntry
  else if c = '-' ∧ startsBlank rest then s.fetchBlockEntry
  else if c = '?' ∧ (s.inFlow ∨ startsBlank rest) then s.fetchKey
  else if c = ':' ∧ (s.inFlow ∨ startsBlank rest) then s.fetchValue
  else if c = '*' then s.fetchNode (named .alias)
  else if c = '&' then s.fetchNode (named .anchor)
  else if c = '!' then s.fetchNode (readTag? s.inFlow)
  else if c = '|' ∧ ¬ s.inFlow then s.fetchBlockScalar true
  else if c = '>' ∧ ¬ s.inFlow then s.fetchBlockScalar false
  else if c = '\'' then s.fetchNode (readQuoted? false)
  else if c = '"' then s.fetchNode (readQuoted? true)
  else if startsPlain s.inFlow c rest then s.fetchPlain
  else none

/-- Cut the next token off.  Block collections that are indented more than it end before it.
Four characters are looked at to tell what it is, and one after it to tell where it ends. -/
def fetch (s : Scanner) : Option Scanner := do
  let s ← s.skipToToken.dropStaleKeys
  if s.isCut ∧ s.input.rest.length < 4 then none
  else
    let next ←
      match s.input.rest with
      | [] => s.fetchEnd
      | c :: rest => (s.closeBlocks (s.input.mark.column < ·)).fetchAt c rest
    if next.isCut ∧ next.input.rest = [] then none else some next

/-- Whether the last token has been cut off. -/
def isDone (s : Scanner) : Bool := s.newest.head?.any fun t => t.token = .streamEnd

/-- Cut all tokens off.  The result ends with the end of the stream unless the text is
malformed, in which case only the settled tokens remain. -/
def run (s : Scanner) : List MarkedToken :=
  match s.fetch with
  | none => s.settledTokens
  | some next =>
    match next.settle with
    | none => next.settledTokens
    | some settled =>
      if settled.isDone then settled.newest.reverse
      else if settled.input.rest.length < s.input.rest.length then run settled
      else settled.settledTokens
termination_by s.input.rest.length

end Scanner

/-- The tokens of a stream. -/
def tokensOf (text : List Char) : List MarkedToken :=
  let (readable, isCut) := readablePart text
  if isCut ∧ readable = [] then []
  else Scanner.run { input := { rest := normalize readable }, isCut }

end BuzzerScript.Yaml
