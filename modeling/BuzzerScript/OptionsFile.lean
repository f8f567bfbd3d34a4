import BuzzerScript.PlayerOptions
import BuzzerScript.Yaml.Document
import BuzzerScript.Yaml.Schema

/-!
# Options files

The options of a player can be kept in a file: a YAML mapping with the keys `tempo`, `waveform`
and `volume`, each of which may be missing.  An empty file is a mapping without keys.

Faults are reported in the order in which the file is read.  A part of the file that is not
well formed is a fault only once it is reached.
-/

namespace BuzzerScript

/-- A field of an options file. -/
inductive OptionsField where
  | tempo | waveform | volume
  deriving DecidableEq, Repr

namespace OptionsField

/-- The field with this name. -/
def ofName? : String → Option OptionsField
  | "tempo" => some .tempo
  | "waveform" => some .waveform
  | "volume" => some .volume
  | _ => none

/-- Whether a field has a value. -/
def isSet (field : OptionsField) (settings : Settings) : Bool :=
  match field with
  | .tempo => settings.tempo.isSome
  | .waveform => settings.waveform.isSome
  | .volume => settings.volume.isSome

end OptionsField

namespace OptionsFile

open Yaml

/-- The position of a mark, counted from one. -/
def position (mark : Mark) : Position := ⟨mark.line + 1, mark.column + 1⟩

/-- The fault of a value of another sort than the expected one. -/
def mismatch (item : Item) (field : Option String) (expected : ExpectedValue) : Fault :=
  let place : OptionsPlace := ⟨field, position item.mark⟩
  match item.event with
  | .scalar _ scalar =>
    match scalar.found with
    | .ok found => .invalidType found expected place
    | .error asked => .invalidValue scalar.content asked place
  | .sequenceStart _ => .invalidType .sequence expected place
  | .mappingStart _ => .invalidType .map expected place
  | _ => .malformed

/-- A tempo or volume. -/
def readNumber (item : Item) (field : String) : Except Fault Binary64 :=
  let number? : Option Binary64 :=
    match item.event with
    | .scalar _ scalar => scalar.number?
    | _ => none
  match number? with
  | some value => .ok value
  | none => .error (mismatch item field .number)

/-- The name that a tag gives to a value, if it is a tag of the file's own and a text. -/
def tagName? (tag : Option TagText) : Option String :=
  tag.bind fun tag =>
    if tag.head? = some '!'.toUInt8 then
      let name := if tag.length = 1 then tag else tag.tail
      String.fromUTF8? ⟨name.toArray⟩
    else none

/-- The tag of a node. -/
def tag? : Event → Option TagText
  | .scalar _ scalar => scalar.tag
  | .sequenceStart properties => properties.tag
  | .mappingStart properties => properties.tag
  | _ => none

/-- A waveform whose name is the tag of its value, which has to be nothing. -/
def readTaggedWaveform (item : Item) (name field : String) (start : Position) :
    Except Fault Waveform :=
  match Waveform.ofExactName? name with
  | none =>
    let place : OptionsPlace :=
      match item.aliasMark with
      | some mark => ⟨field, position mark⟩
      | none => ⟨none, start⟩
    .error (.unknownVariant name place)
  | some waveform =>
    match item.event with
    | .scalar _ scalar =>
      if scalar.isUnit then .ok waveform
      else .error (.invalidValue scalar.content .null ⟨field, position item.mark⟩)
    | _ => .error (mismatch item field .nothing)

/-- A waveform: a scalar that is its name, whatever else it might stand for, or a tag that is
its name with nothing after it. -/
def readWaveform (item : Item) (field : String) (start : Position) :
    Except Fault Waveform :=
  match tagName? (tag? item.event) with
  | some name => readTaggedWaveform item name field start
  | none =>
    match item.event with
    | .scalar _ scalar =>
      match Waveform.ofExactName? scalar.content with
      | some waveform => .ok waveform
      | none => .error (.unknownVariant scalar.content ⟨field, position item.mark⟩)
    | _ => .error (mismatch item field .taggedVariant)

/-- Read the value of a field. -/
def readField (settings : Settings) (field : OptionsField) (name : String) (start : Position)
    (item : Item) : Except Fault Settings :=
  match field with
  | .tempo => (readNumber item name).map fun x => { settings with tempo := some x }
  | .waveform =>
    (readWaveform item name start).map fun w => { settings with waveform := some w }
  | .volume => (readNumber item name).map fun x => { settings with volume := some x }

/-- Read the keys and values of the mapping that starts at `start`.  All values are single
items, since a collection is never a value. -/
def readFields (start : Position) (settings : Settings) : List Item → Except Fault Settings
  | [] => .error .malformed
  | key :: rest =>
    match key.event with
    | .mappingEnd => .ok settings
    | .scalar _ scalar =>
      match OptionsField.ofName? scalar.content with
      | none => .error (.unknownField scalar.content ⟨none, position key.mark⟩)
      | some field =>
        if field.isSet settings then .error (.duplicateField scalar.content ⟨none, start⟩)
        else
          match rest with
          | [] => .error .malformed
          | value :: rest =>
            let name := if key.aliasMark.isSome then "?" else scalar.content
            match readField settings field name start value with
            | .ok settings => readFields start settings rest
            | .error fault => .error fault
    | _ => .error (mismatch key none .fieldName)

/-- Read the mapping that a document consists of.  A document without a node, or with an empty
one, has no keys. -/
def readDocument (document : Document) : Except Fault Settings :=
  match document.items with
  | [] => if document.isComplete then .ok {} else .error .malformed
  | item :: rest =>
    match item.event with
    | .mappingStart _ => readFields (position item.mark) {} rest
    | .scalar _ ⟨"", .plain, _⟩ => .ok {}
    | _ => .error (mismatch item none .options)

/-- The settings that a text holds. -/
def settings (text : String) : Except Fault Settings := do
  let document := Document.first text.toList
  let settings ← readDocument document
  if ¬ document.isComplete then throw .malformed
  if ¬ document.isLast then throw .severalDocuments
  return settings

/-- The settings that a text holds, or what is said about its fault.  Nothing here
depends on the words in which a parser explains why a text is not well formed, so they
are given by `explain`. -/
def read (explain : String → String) (text : String) : Except String Settings :=
  (settings text).mapError (Fault.message (explain text))

/-- The settings that a text holds, with a bare remark on one that is not well formed. -/
def readUnexplained : String → Except String Settings := read fun _ => "not well formed"

end OptionsFile

/-- The options that a text holds. -/
def PlayerOptions.ofYaml : String → Except OptionsFault PlayerOptions :=
  ofText OptionsFile.readUnexplained

end BuzzerScript
