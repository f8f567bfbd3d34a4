import BuzzerScript.Error
import BuzzerScript.Text.Quoted

/-!
# Faults of options files

What can be wrong with an options file before its values are looked at: a key that is no field
or is there twice, a value of another sort than its field takes, more than one document, or a
text that is no YAML at all.  All but the last are worded here.
-/

namespace BuzzerScript

/-- A value of an options file that stands where another sort of value is needed. -/
inductive FoundValue where
  | text (value : String)
  | integer (value : Int)
  /-- A whole number that does not fit into 64 bits. -/
  | wideInteger (value : Int)
  | floatingPoint (value : Binary64)
  | boolean (value : Bool)
  | unit
  | sequence
  | map
  deriving DecidableEq

/-- The sort of value that is needed. -/
inductive ExpectedValue where
  | number
  | options
  | fieldName
  | nothing
  | boolean
  | integer
  | floatingPoint
  | null
  /-- A waveform, which as a collection would need a tag that names it. -/
  | taggedVariant
  deriving DecidableEq, Repr

/-- A place in an options file: the field whose value stands there, if any, and the
position. -/
structure OptionsPlace where
  field : Option String
  position : Position
  deriving DecidableEq, Repr

namespace OptionsFile

/-- Why an options file cannot be read. -/
inductive Fault where
  /-- A key that is no field. -/
  | unknownField (key : String) (place : OptionsPlace)
  | duplicateField (key : String) (place : OptionsPlace)
  /-- A waveform that is not among the names. -/
  | unknownVariant (text : String) (place : OptionsPlace)
  | invalidType (found : FoundValue) (expected : ExpectedValue) (place : OptionsPlace)
  /-- A spelling that cannot be what is needed. -/
  | invalidValue (text : String) (expected : ExpectedValue) (place : OptionsPlace)
  | severalDocuments
  /-- A text that is not well formed. -/
  | malformed
  deriving DecidableEq

end OptionsFile

/-! ## Wording -/

/-- Numbers in messages about types: never an exponent, and always a point. -/
def FoundValue.numberFormat : NumberFormat where
  tie := .away
  isPlain := fun _ => true
  pointOnWhole := true
  infinity := "inf"
  notANumber := "NaN"

/-- A word between backquotes. -/
def backquoted (text : String) : String := "`" ++ text ++ "`"

/-- The wording of a value that was found. -/
def FoundValue.message : FoundValue → String
  | .text value => "string " ++ Text.quoted value
  | .integer value => "integer " ++ backquoted (toString value)
  | .wideInteger value =>
    "integer " ++ backquoted (toString value) ++ (if value < 0 then " as i128" else " as u128")
  | .floatingPoint value => "floating point " ++ backquoted (numberFormat.render value)
  | .boolean value => "boolean " ++ backquoted (if value then "true" else "false")
  | .unit => "unit value"
  | .sequence => "sequence"
  | .map => "map"

/-- The wording of a value that is needed. -/
def ExpectedValue.message : ExpectedValue → String
  | .number => "f64"
  | .options => "struct PlayerOptions"
  | .fieldName => "field identifier"
  | .nothing => "unit"
  | .boolean => "a boolean"
  | .integer => "an integer"
  | .floatingPoint => "a float"
  | .null => "null"
  | .taggedVariant => "a YAML tag starting with '!'"

/-- Add the place to a fault of an options file.  The very first position of the file is not
worth mentioning. -/
def OptionsPlace.qualify (place : OptionsPlace) (text : String) : String :=
  let before :=
    match place.field with
    | some name => name ++ ": "
    | none => ""
  let after :=
    if place.position = ⟨1, 1⟩ then ""
    else " at line " ++ toString place.position.line ++ " column " ++
      toString place.position.column
  before ++ text ++ after

/-- The fields of an options file, in the order in which they are listed. -/
def OptionsFile.fieldNames : List String := ["tempo", "waveform", "volume"]

/-- A list of alternatives. -/
def oneOf (names : List String) : String :=
  "one of " ++ ", ".intercalate (names.map backquoted)

/-- The wording of a fault of an options file; `notWellFormed` is said of a text that
is not well formed. -/
def OptionsFile.Fault.message (notWellFormed : String) : OptionsFile.Fault → String
  | .unknownField key place =>
    place.qualify ("unknown field " ++ backquoted key ++ ", expected " ++ oneOf fieldNames)
  | .duplicateField key place => place.qualify ("duplicate field " ++ backquoted key)
  | .unknownVariant text place =>
    place.qualify ("unknown variant " ++ backquoted text ++ ", expected " ++
      oneOf (Waveform.all.map Waveform.name))
  | .invalidType found expected place =>
    place.qualify ("invalid type: " ++ found.message ++ ", expected " ++ expected.message)
  | .invalidValue text expected place =>
    place.qualify ("invalid value: " ++ (FoundValue.text text).message ++ ", expected " ++
      expected.message)
  | .severalDocuments =>
    "deserializing from YAML containing more than one document is not supported"
  | .malformed => notWellFormed

end BuzzerScript
