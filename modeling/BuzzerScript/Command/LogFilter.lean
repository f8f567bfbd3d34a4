import BuzzerScript.Command.Log
import BuzzerScript.Text.Case
import BuzzerScript.Text.Classes

/-!
# Log filters

Which records are shown is set by directives between commas: `info` for a level, `bzs=debug`
for the level of a target, `[{tracks}]=info` for the level of the records with a field.  Of all
directives that apply to a record the most specific one decides.
-/

namespace BuzzerScript.LogFilter

/-- The highest rank that is shown, zero for nothing. -/
abbrev Threshold := Nat

/-- The threshold of a number. -/
def thresholdOfNumber? (text : String) : Option Threshold :=
  let digits :=
    match text.toList with
    | '+' :: digits => digits
    | digits => digits
  if digits ≠ [] ∧ digits.all Char.isDigit ∧
      Nat.ofDigitChars 10 digits 0 ≤ LogLevel.trace.rank then
    some (Nat.ofDigitChars 10 digits 0)
  else none

/-- The threshold with this name, whatever the case of its letters, or number. -/
def threshold? (text : String) : Option Threshold :=
  match Text.lowerCase text with
  | "off" => some 0
  | "error" => some LogLevel.error.rank
  | "warn" => some LogLevel.warn.rank
  | "info" => some LogLevel.info.rank
  | "debug" => some LogLevel.debug.rank
  | "trace" => some LogLevel.trace.rank
  | _ => thresholdOfNumber? text

/-- What is shown of the records that a directive applies to. -/
structure Directive where
  /-- What the target of a record starts with. -/
  target : Option String := none
  /-- A field that a record has. -/
  field : Option String := none
  /-- Whether the directive asks for a span or for the value of a field of one.  No record is
  written inside a span, so it never applies. -/
  ofSpans : Bool := false
  threshold : Threshold := LogLevel.trace.rank
  deriving DecidableEq, Repr

namespace Directive

/-! ## Reading

A directive is read without the blanks around it.  What it says is cut out of the text with its
blanks, though, at places that do not count them: a blank in front spoils a directive, and one
at the end becomes part of the level or target there.  Below, `whole` is the text with its
blanks, and `place` is where the rest of the text starts that remains to be read. -/

/-- The end of a directive: nothing, or an equal sign and a level.  Without a level
everything is shown. -/
def readLevel? (whole : List Char) (directive : Directive) (place : Nat) :
    List Char → Option Directive
  | [] => some directive
  | '=' :: _ =>
    let level := whole.drop (place + 1)
    if level = [] then some directive
    else
      (threshold? (String.ofList level)).map fun threshold => { directive with threshold }
  | _ => none

/-- Ask for a field, and for its value if there is an equal sign. -/
def withField (directive : Directive) (text : List Char) : Directive :=
  { directive with
    field := some (String.ofList (text.takeWhile (· ≠ '=')))
    ofSpans := directive.ofSpans || text.any (· = '=') }

/-- What comes after an opening bracket: the name of a span, a field between braces, or both,
and a closing bracket. -/
def readSpan? (whole : List Char) (directive : Directive) (place : Nat) (rest : List Char) :
    Option Directive :=
  let isName (c : Char) : Bool := c ≠ ']' && c ≠ '\x7b'
  let name := rest.takeWhile isName
  let afterName := place + name.length + 1
  match rest.dropWhile isName with
  | ']' :: rest => readLevel? whole { directive with ofSpans := true } afterName rest
  | _ :: rest =>
    let field := rest.takeWhile (· ≠ '\x7d')
    match rest.dropWhile (· ≠ '\x7d') with
    | _ :: ']' :: rest =>
      if field = [] then none
      else
        let directive := { directive with ofSpans := name ≠ [] }
        let directive := directive.withField ((whole.drop afterName).take field.length)
        readLevel? whole directive (afterName + field.length + 2) rest
    | _ => none
  | [] => none

/-- A character that a level or target starts with. -/
def startsTarget (c : Char) : Bool := c = '-' || c = ':' || c = '_' || Text.isAlphanumeric c

/-- A directive without the blanks around it. -/
def read? (whole text : List Char) : Option Directive :=
  match text with
  | [] => none
  | '[' :: span => readSpan? whole {} 1 span
  | c :: _ =>
    let isTarget (c : Char) : Bool := c ≠ '=' && c ≠ '['
    let length := (text.takeWhile isTarget).length
    let target := String.ofList (whole.take length)
    if ¬ startsTarget c then none
    else
      match text.dropWhile isTarget with
      | [] =>
        match threshold? (String.ofList whole) with
        | some threshold => some { threshold }
        | none => some { target := some (String.ofList whole) }
      | '[' :: span => readSpan? whole { target := some target } (length + 1) span
      | level => readLevel? whole { target := some target } length level

/-- A directive as it is written. -/
def ofString? (text : String) : Option Directive :=
  let whole := text.toList
  let unindented := whole.dropWhile Text.isSpace
  read? whole (unindented.reverse.dropWhile Text.isSpace).reverse

/-! ## Choice -/

/-- Whether a directive applies to a record. -/
def appliesTo (directive : Directive) (record : LogRecord) : Bool :=
  !directive.ofSpans &&
    directive.target.all (fun target => target.toList.isPrefixOf LogRecord.target.toList) &&
    directive.field.all (· ∈ record.fieldNames)

/-- Whether the first directive gives way to the second: a longer target is more specific, then
a field is, and then the later field in the order of the alphabet. -/
def givesWayTo (a b : Directive) : Bool :=
  let length (d : Directive) : Nat := (d.target.map String.length).getD 0
  let field (d : Directive) : String := d.field.getD ""
  length a < length b || (length a = length b && field a ≤ field b)

end Directive

/-- The directives of a setting, between commas, unless one of them makes no sense. -/
def directives? (setting : String) : Option (List Directive) :=
  ((setting.splitOn ",").filter (· ≠ "")).mapM Directive.ofString?

/-- The directives of a setting.  Warnings are shown without a setting and with one
that makes no sense. -/
def ofSetting (setting : Option String) : List Directive :=
  (setting.bind directives?).getD [{ threshold := LogLevel.warn.rank }]

/-- The threshold for a record.  Without a directive that applies to it, it is not shown. -/
def threshold (directives : List Directive) (record : LogRecord) : Threshold :=
  let best := (directives.filter (·.appliesTo record)).foldl (fun best d =>
    match best with
    | some b => if b.givesWayTo d then some d else some b
    | none => some d) none
  (best.map Directive.threshold).getD 0

/-- Whether directives show a record. -/
def shows (directives : List Directive) (record : LogRecord) : Bool :=
  record.level.rank ≤ threshold directives record

end BuzzerScript.LogFilter
