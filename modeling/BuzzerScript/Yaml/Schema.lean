import BuzzerScript.Decimal
import BuzzerScript.OptionsFile.Fault
import BuzzerScript.Yaml.Event

/-!
# Values of YAML scalars

What a scalar stands for.  Without a tag, a plain scalar is null, a boolean, a whole number, a
number or a text, whichever its spelling allows first; a scalar in quotes or a block is a text.
A tag of the core schema asks for one of these.

Where a number is wanted, a plain scalar is read as one directly, so that spellings which stand
for texts by themselves, such as `012`, are numbers there.
-/

namespace BuzzerScript.Yaml

/-! ## Spellings -/

/-- A spelling of null. -/
def isNull (text : String) : Bool := text ∈ ["null", "Null", "NULL", "~"]

/-- The boolean with this spelling. -/
def boolean? (text : String) : Option Bool :=
  if text ∈ ["true", "True", "TRUE"] then some true
  else if text ∈ ["false", "False", "FALSE"] then some false
  else none

/-- A text without its plus sign; a second sign must not follow. -/
def withoutPlus? : List Char → Option (List Char)
  | '+' :: rest => if rest.head? = some '+' ∨ rest.head? = some '-' then none else some rest
  | text => some text

/-- The number with this spelling: an infinity or NaN with a point in front, or a numeral
within the range of doubles. -/
def float? (text : String) : Option Binary64 :=
  (withoutPlus? text.toList).bind fun body =>
    let unsigned := String.ofList body
    if unsigned ∈ [".inf", ".Inf", ".INF"] then some (.infinite false)
    else if text ∈ ["-.inf", "-.Inf", "-.INF"] then some (.infinite true)
    else if text ∈ [".nan", ".NaN", ".NAN"] then some (.nan (.canonical false))
    else (Binary64.ofChars? body).filter Binary64.isFinite

/-- Whether a numeral starts with a zero that means nothing; such a spelling is a text. -/
def hasLeadingZero (text : List Char) : Bool :=
  let digits :=
    match text with
    | '-' :: rest => rest
    | '+' :: rest => rest
    | _ => text
  2 ≤ digits.length && digits.head? = some '0' && digits.all Char.isDigit

/-- The natural number with these digits in a base up to sixteen; there has to be one digit at
least. -/
def naturalInBase? (base : Nat) (digits : List Char) : Option Nat :=
  if digits = [] then none
  else
    digits.foldl (fun n c => n.bind fun n =>
      ((hexDigit? c).filter (· < base)).map (base * n + ·)) (some 0)

/-- The natural number with this spelling: decimal, or in another base that a mark
announces. -/
def natural? (text : List Char) : Option Nat :=
  match text with
  | '0' :: 'x' :: digits => naturalInBase? 16 digits
  | '0' :: 'o' :: digits => naturalInBase? 8 digits
  | '0' :: 'b' :: digits => naturalInBase? 2 digits
  | _ => if hasLeadingZero text then none else naturalInBase? 10 text

/-- The whole number with this spelling. -/
def integer? (text : List Char) : Option Int :=
  match text with
  | '-' :: rest => (natural? rest).map fun n => -(n : Int)
  | '+' :: rest => (natural? rest).map Int.ofNat
  | _ => (natural? text).map Int.ofNat

/-- Whether a whole number fits into a number of bits, with one of them for the sign if it is
negative. -/
def fitsBits (bits : Nat) (n : Int) : Bool :=
  if n < 0 then n.natAbs ≤ 1 <<< (bits - 1) else n.natAbs < 1 <<< bits

/-- A whole number of at most 128 bits, as it is found in a file. -/
def foundInteger? (text : List Char) : Option FoundValue :=
  (integer? text).bind fun n =>
    if fitsBits 64 n then some (.integer n)
    else if fitsBits 128 n then some (.wideInteger n)
    else none

/-- What a plain scalar stands for. -/
def foundPlain (text : String) : FoundValue :=
  if text = "" ∨ isNull text then .unit
  else
    match boolean? text, foundInteger? text.toList with
    | some value, _ => .boolean value
    | none, some found => found
    | none, none =>
      match if hasLeadingZero text.toList then none else float? text with
      | some value => .floatingPoint value
      | none => .text text

/-! ## Scalars -/

/-- The tag of a type of the core schema. -/
def coreTag (name : String) : TagText := ("tag:yaml.org,2002:" ++ name).toUTF8.toList

namespace Scalar

/-- Whether the spelling of a scalar may stand for something else than a text, given the name
of what is wanted. -/
def isReadable (s : Scalar) (wanted : String) : Bool :=
  s.style = .plain || (s.style = .literal && s.tag = some (coreTag wanted))

/-- The number that a scalar stands for where a number is wanted. -/
def number? (s : Scalar) : Option Binary64 :=
  if s.isReadable "float" then float? s.content else none

/-- Whether a scalar stands for nothing where nothing is wanted. -/
def isUnit (s : Scalar) : Bool :=
  s.isReadable "null" && (s.content = "" || isNull s.content)

/-- What a scalar stands for by itself, or what its tag asks for if its spelling does not allow
it. -/
def found (s : Scalar) : Except ExpectedValue FoundValue :=
  let byStyle := if s.style = .plain then foundPlain s.content else .text s.content
  let asked (expected : ExpectedValue) (found? : Option FoundValue) :
      Except ExpectedValue FoundValue :=
    match found? with
    | some found => .ok found
    | none => .error expected
  match s.tag with
  | none => .ok byStyle
  | some tag =>
    if tag = coreTag "bool" then asked .boolean ((boolean? s.content).map .boolean)
    else if tag = coreTag "int" then asked .integer (foundInteger? s.content.toList)
    else if tag = coreTag "float" then
      asked .floatingPoint ((float? s.content).map .floatingPoint)
    else if tag = coreTag "null" then
      asked .null (if isNull s.content then some .unit else none)
    else if tag.head? = some '!'.toUInt8 then .ok byStyle
    else .ok (.text s.content)

end Scalar

end BuzzerScript.Yaml
