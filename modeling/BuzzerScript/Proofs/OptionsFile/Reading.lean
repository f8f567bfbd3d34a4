import BuzzerScript.OptionsFile
import BuzzerScript.Proofs.Options
import BuzzerScript.Proofs.Yaml.FlatDocument
import Mathlib.Tactic.SplitIfs

/-!
# Reading an options file

A flat mapping is read line by line.  Each line gives a value to a field that has none yet,
and the value has to be of the sort that the field takes: a numeral of a finite number, or
the name of a waveform.
-/

namespace BuzzerScript

open Yaml

/-! ## Values -/

/-- The double nearest to a numeral, if it is finite. -/
def Decimal.finite? (text : String) : Option Binary64 :=
  ((Decimal.ofChars? text.toList).map (Decimal.nearest false)).filter Binary64.isFinite

/-- What does not start with a digit or a point is no numeral. -/
theorem Decimal.ofChars?_of_isAlpha {c : Char} (h : c.isAlpha = true) (rest : List Char) :
    Decimal.ofChars? (c :: rest) = none := by
  have hcode := (isAlpha_iff_toNat c).mp h
  have hdigit : ¬ c.isDigit = true := fun hdigit => by
    have := toNat_of_isDigit hdigit
    omega
  have hpoint : c ≠ '.' := ne_of_toNat_ne (by simp; omega)
  simp [Decimal.ofChars?, hdigit, hpoint]

/-- A text that starts with a digit is none of the words that are numbers. -/
theorem Text.lowerCase_ne_of_isDigit {c : Char} (h : c.isDigit = true) (rest : List Char)
    (word : String) (hword : (word.toList.head?.any Char.isDigit) = false) :
    Text.lowerCase (String.ofList (c :: rest)) ≠ word := by
  have hlower : c.toLower = c := dif_neg fun hupper => by
    have hcode := toNat_of_isDigit h
    have : 65 ≤ c.toNat := UInt32.le_iff_toNat_le.mp hupper.1
    omega
  rintro rfl
  simp only [Text.lowerCase, String.toList_ofList, List.map_cons, List.head?_cons,
    Option.any_some, hlower, h] at hword
  cases hword

/-- What starts with a digit is read as a numeral. -/
theorem Binary64.ofChars?_of_isDigit {c : Char} (h : c.isDigit = true) (rest : List Char) :
    Binary64.ofChars? (c :: rest) =
      (Decimal.ofChars? (c :: rest)).map (Decimal.nearest false) := by
  have hminus : c ≠ '-' := by rintro rfl; cases h
  have hplus : c ≠ '+' := by rintro rfl; cases h
  have hne := Text.lowerCase_ne_of_isDigit h rest
  rw [Binary64.ofChars?.eq_3 _ (fun _ h => hminus (List.cons.inj h).1)
      fun _ h => hplus (List.cons.inj h).1,
    if_neg (not_or.mpr ⟨hne _ (by decide), hne _ (by decide)⟩), if_neg (hne _ (by decide))]

/-- The words for infinity and NaN are not finite, so that finite numbers have numerals. -/
theorem Binary64.filter_isFinite_ofChars? {c : Char} (h : c.isAlphanum = true)
    (rest : List Char) :
    (Binary64.ofChars? (c :: rest)).filter Binary64.isFinite =
      ((Decimal.ofChars? (c :: rest)).map (Decimal.nearest false)).filter
        Binary64.isFinite := by
  rw [Char.isAlphanum, Bool.or_eq_true] at h
  obtain hletter | hdigit := h
  · have hminus : c ≠ '-' := by rintro rfl; cases hletter
    have hplus : c ≠ '+' := by rintro rfl; cases hletter
    rw [Binary64.ofChars?.eq_3 _ (fun _ h => hminus (List.cons.inj h).1)
        fun _ h => hplus (List.cons.inj h).1, Decimal.ofChars?_of_isAlpha hletter]
    split_ifs <;> rfl
  · rw [Binary64.ofChars?_of_isDigit hdigit]

/-- Where a word is read as a number, the words for infinity and NaN are not numbers. -/
theorem Yaml.float?_of_isPlainWord {text : String} (h : IsPlainWord text.toList) :
    float? text = Decimal.finite? text := by
  obtain ⟨first, rest, hword, hfirst⟩ := h.head
  have hplus : first ≠ '+' := by
    rintro rfl
    cases hfirst
  have hnot : ∀ spellings : List String,
      (spellings.all fun word => !word.toList.head?.any Char.isAlphanum) = true →
      text ∉ spellings := by
    intro spellings hall hmem
    have hother := List.all_eq_true.mp hall text hmem
    simp [hword, hfirst] at hother
  have hbody : withoutPlus? text.toList = some text.toList := by
    rw [hword, withoutPlus?.eq_2 _ fun _ hc => hplus (List.cons.inj hc).1]
  rw [float?, hbody, Option.bind_some, String.ofList_toList, if_neg (hnot _ (by decide)),
    if_neg (hnot _ (by decide)), if_neg (hnot _ (by decide)), Decimal.finite?, hword]
  exact Binary64.filter_isFinite_ofChars? hfirst rest

/-! ## Fields -/

namespace OptionsField

/-- The name of a field. -/
def name : OptionsField → String
  | .tempo => "tempo"
  | .waveform => "waveform"
  | .volume => "volume"

theorem ofName?_name (field : OptionsField) : ofName? field.name = some field := by
  cases field <;> rfl

theorem ofName?_eq_some_iff {text : String} {field : OptionsField} :
    ofName? text = some field ↔ text = field.name := by
  constructor
  · intro h
    unfold ofName? at h
    split at h <;> cases h <;> rfl
  · rintro rfl
    exact ofName?_name field

theorem name_injective : Function.Injective name := by
  intro field other h
  have hname := ofName?_name field
  rw [h, ofName?_name] at hname
  exact (Option.some.inj hname).symm

theorem length_name_le (field : OptionsField) : field.name.toList.length ≤ maxKeyLength := by
  cases field <;> decide

/-- The settings that a value gives to this field alone, if it is of the sort that the field
takes. -/
def settings? (field : OptionsField) (value : String) : Option Settings :=
  match field with
  | .tempo => (Decimal.finite? value).map fun x => { tempo := some x }
  | .waveform => (Waveform.ofExactName? value).map fun w => { waveform := some w }
  | .volume => (Decimal.finite? value).map fun x => { volume := some x }

theorem isSet_orElse (field : OptionsField) (s t : Settings) :
    field.isSet (s.orElse t) = (field.isSet s || field.isSet t) := by
  cases field <;> simp [isSet, Settings.orElse_eq]

/-- A value sets its field and no other one. -/
theorem isSet_of_settings? {field other : OptionsField} {value : String} {one : Settings}
    (h : field.settings? value = some one) : other.isSet one = true ↔ other = field := by
  cases field with
  | tempo =>
    obtain ⟨x, -, rfl⟩ := Option.map_eq_some_iff.mp h
    cases other <;> simp [isSet]
  | waveform =>
    obtain ⟨w, -, rfl⟩ := Option.map_eq_some_iff.mp h
    cases other <;> simp [isSet]
  | volume =>
    obtain ⟨x, -, rfl⟩ := Option.map_eq_some_iff.mp h
    cases other <;> simp [isSet]

end OptionsField

/-! ## Reading a mapping -/

namespace OptionsFile

/-- Take over a line, unless its field is not known or has a value already. -/
def take (settings : Settings) (key value : String) : Option Settings :=
  (OptionsField.ofName? key).bind fun field =>
    if field.isSet settings then none else (field.settings? value).map settings.orElse

theorem take_eq_some_iff {s s' : Settings} {key value : String} :
    take s key value = some s' ↔
      ∃ field one, key = OptionsField.name field ∧ field.isSet s = false ∧
        field.settings? value = some one ∧ s.orElse one = s' := by
  simp [take, Option.bind_eq_some_iff, OptionsField.ofName?_eq_some_iff]

section Item

variable {mark : Mark} {value : List Char}

theorem readNumber_plainScalar (h : IsPlainWord value) (field : String) :
    readNumber (Document.itemOf ⟨plainScalar value, mark⟩) field =
      (Decimal.finite? (String.ofList value)).elim
        (.error (mismatch (Document.itemOf ⟨plainScalar value, mark⟩) field .number)) .ok := by
  have hnumber : Scalar.number? ⟨String.ofList value, .plain, none⟩ =
      Decimal.finite? (String.ofList value) :=
    float?_of_isPlainWord (by rwa [String.toList_ofList])
  cases hfinite : Decimal.finite? (String.ofList value) with
  | none => simp [readNumber, Document.itemOf, plainScalar, hnumber, hfinite]
  | some x => simp [readNumber, Document.itemOf, plainScalar, hnumber, hfinite]

theorem readWaveform_plainScalar (field : String) (start : Position) :
    readWaveform (Document.itemOf ⟨plainScalar value, mark⟩) field start =
      (Waveform.ofExactName? (String.ofList value)).elim
        (.error (.unknownVariant (String.ofList value) ⟨field, position mark⟩)) .ok := by
  cases hname : Waveform.ofExactName? (String.ofList value) with
  | none => simp [readWaveform, Document.itemOf, plainScalar, tag?, tagName?, hname]
  | some w => simp [readWaveform, Document.itemOf, plainScalar, tag?, tagName?, hname]

/-- A value is read as its field wants it. -/
theorem readField_toOption {s : Settings} {field : OptionsField} (h : IsPlainWord value)
    (hset : field.isSet s = false) (name : String) (start : Position) :
    (readField s field name start (Document.itemOf ⟨plainScalar value, mark⟩)).toOption =
      (field.settings? (String.ofList value)).map s.orElse := by
  cases field with
  | tempo =>
    simp only [readField, OptionsField.settings?, readNumber_plainScalar h]
    cases Decimal.finite? (String.ofList value) with
    | none => rfl
    | some x =>
      have hunset : s.tempo = none := by simpa [OptionsField.isSet] using hset
      simp [Except.map, Except.toOption, Settings.orElse_eq, hunset]
  | waveform =>
    simp only [readField, OptionsField.settings?, readWaveform_plainScalar]
    cases Waveform.ofExactName? (String.ofList value) with
    | none => rfl
    | some w =>
      have hunset : s.waveform = none := by simpa [OptionsField.isSet] using hset
      simp [Except.map, Except.toOption, Settings.orElse_eq, hunset]
  | volume =>
    simp only [readField, OptionsField.settings?, readNumber_plainScalar h]
    cases Decimal.finite? (String.ofList value) with
    | none => rfl
    | some x =>
      have hunset : s.volume = none := by simpa [OptionsField.isSet] using hset
      simp [Except.map, Except.toOption, Settings.orElse_eq, hunset]

end Item

/-- Take over a line of a flat mapping. -/
def takeLine (settings : Settings) (line : FlatLine) : Option Settings :=
  take settings (String.ofList line.key) (String.ofList line.value)

/-- No field has a name that is too long for a key. -/
theorem takeLine_of_long {line : FlatLine} (h : maxKeyLength < line.key.length)
    (s : Settings) : takeLine s line = none := by
  rw [Option.eq_none_iff_forall_ne_some]
  intro s' htake
  obtain ⟨field, one, hkey, -⟩ := take_eq_some_iff.mp htake
  have hlength := field.length_name_le
  rw [← hkey, String.toList_ofList] at hlength
  omega

/-- A key and its value are read as a line. -/
theorem readFields_cons_toOption {keyMark valueMark : Mark} (s : Settings) (line : FlatLine)
    (start : Position) (rest : List Item) :
    (readFields start s (Document.itemOf ⟨plainScalar line.key, keyMark⟩ ::
        Document.itemOf ⟨plainScalar line.value, valueMark⟩ :: rest)).toOption =
      (takeLine s line).bind fun next => (readFields start next rest).toOption := by
  rw [takeLine, take]
  cases hfield : OptionsField.ofName? (String.ofList line.key) with
  | none => simp [readFields, Document.itemOf, plainScalar, hfield, Except.toOption]
  | some field =>
    cases hset : field.isSet s with
    | true => simp [readFields, Document.itemOf, plainScalar, hfield, hset, Except.toOption]
    | false =>
      rw [Option.bind_some, if_neg (Bool.eq_false_iff.mp hset),
        ← readField_toOption line.isPlainWord_value hset (String.ofList line.key) start]
      generalize Document.itemOf ⟨plainScalar line.value, valueMark⟩ = value
      cases hread : readField s field (String.ofList line.key) start value with
      | error fault =>
        simp [readFields, Document.itemOf, plainScalar, hfield, hset, hread, Except.toOption]
      | ok next =>
        simp [readFields, Document.itemOf, plainScalar, hfield, hset, hread, Except.toOption]

variable {lines : List FlatLine} {events : List MarkedEvent} {isComplete : Bool}

/-- A mapping is read line by line. -/
theorem readFields_toOption (h : FlatEvents lines events isComplete) (s : Settings)
    (start : Position) :
    (readFields start s (events.map Document.itemOf)).toOption = lines.foldlM takeLine s := by
  induction h generalizing s with
  | close stop => rfl
  | long lines key => simp [readFields, takeLine_of_long key, Except.toOption]
  | cons key keyMark valueMark rest ih =>
    rw [List.map_cons, List.map_cons, readFields_cons_toOption, List.foldlM_cons]
    exact congrArg _ (funext ih)

/-- A mapping that can be read is complete. -/
theorem isComplete_of_foldlM {s s' : Settings} (h : FlatEvents lines events isComplete)
    (htake : lines.foldlM takeLine s = some s') : isComplete = true := by
  induction h generalizing s with
  | close stop => rfl
  | long lines key => simp [takeLine_of_long key] at htake
  | cons key keyMark valueMark rest ih =>
    obtain ⟨next, -, hrest⟩ := Option.bind_eq_some_iff.mp htake
    exact ih hrest

end OptionsFile

end BuzzerScript
