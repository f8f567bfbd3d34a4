import BuzzerScript.Proofs.OptionsFile.Reading
import Mathlib.Data.List.Nodup

/-!
# The lines of an options file

An options file with a line for each of its options holds options exactly if its lines name
different fields and each value is one that its field allows.  The lines may come in any order.

The file is looked at twice: each value has to be of the sort that its field takes, and once
all lines are read, the tempo has to be positive.  Only the first of this is up to whatever
reads YAML, and of that it is enough that a flat mapping is read line by line,
`OptionsFile.ReadsLines`.
-/

namespace BuzzerScript

open Yaml

namespace OptionsFile

/-! ## The lines of a file -/

/-- A word of ASCII letters. -/
def IsLetters (text : String) : Prop := text ≠ "" ∧ ∀ c ∈ text.toList, c.isAlpha = true

theorem isPlainWord_of_isLetters {text : String} (h : IsLetters text) :
    IsPlainWord text.toList := by
  have halphanum : ∀ c ∈ text.toList, c.isAlphanum = true := fun c hc => by
    rw [Char.isAlphanum, h.2 c hc]
    rfl
  obtain ⟨first, rest, hword⟩ : ∃ first rest, text.toList = first :: rest :=
    List.exists_cons_of_ne_nil fun hnil => h.1 (String.toList_eq_nil_iff.mp hnil)
  refine ⟨⟨first, rest, hword, halphanum first (by simp [hword])⟩, fun c hc => ?_⟩
  exact isWordChar_of_isAlphanum (halphanum c hc)

theorem isPlainWord_of_isDigits {text : List Char} (h : IsDigits text) : IsPlainWord text := by
  have halphanum : ∀ c ∈ text, c.isAlphanum = true := fun c hc => by
    rw [Char.isAlphanum, h.2 c hc, Bool.or_true]
  obtain ⟨first, rest, rfl⟩ := List.exists_cons_of_ne_nil h.1
  exact ⟨⟨first, rest, rfl, halphanum first List.mem_cons_self⟩,
    fun c hc => isWordChar_of_isAlphanum (halphanum c hc)⟩

theorem isPlainWord_append {word more : List Char} (h : IsPlainWord word)
    (hmore : ∀ c ∈ more, isWordChar c = true) : IsPlainWord (word ++ more) := by
  obtain ⟨first, rest, rfl, hfirst⟩ := h.head
  exact ⟨⟨first, rest ++ more, rfl, hfirst⟩, List.forall_mem_append.mpr ⟨h.all, hmore⟩⟩

theorem isPlainWord_of_isNumeral {text : List Char} (h : IsNumeral text) :
    IsPlainWord text := by
  obtain hdigits | ⟨whole, fraction, hwhole, hfraction, rfl⟩ := h
  · exact isPlainWord_of_isDigits hdigits
  · refine isPlainWord_append (isPlainWord_of_isDigits hwhole)
      (List.forall_mem_cons.mpr ⟨rfl, ?_⟩)
    exact (isPlainWord_of_isDigits hfraction).all

/-- A line of an options file: a word, and a numeral or another word. -/
structure Line where
  key : String
  value : String
  isLetters_key : IsLetters key
  isValue_value : IsNumeral value.toList ∨ IsLetters value

namespace Line

variable (line : Line)

/-- What a line consists of. -/
def text : String := line.key ++ ": " ++ line.value

theorem isPlainWord_value : IsPlainWord line.value.toList :=
  line.isValue_value.elim isPlainWord_of_isNumeral isPlainWord_of_isLetters

/-- The line of a flat mapping. -/
def flat : FlatLine :=
  ⟨line.key.toList, line.value.toList, isPlainWord_of_isLetters line.isLetters_key,
    line.isPlainWord_value⟩

theorem takeLine_flat (s : Settings) : takeLine s line.flat = take s line.key line.value := by
  rw [takeLine, flat, String.ofList_toList, String.ofList_toList]

/-- A word is not a number, so a number is a numeral. -/
theorem isNumeral_of_finite? {x : Binary64} (h : Decimal.finite? line.value = some x) :
    IsNumeral line.value.toList := by
  refine line.isValue_value.resolve_right fun hletters => ?_
  obtain ⟨first, rest, hword⟩ := (isPlainWord_of_isLetters hletters).head
  have hfirst := hletters.2 first (by simp [hword])
  rw [Decimal.finite?, hword.1, Decimal.ofChars?_of_isAlpha hfirst] at h
  cases h

end Line

/-- The text of a file with these lines. -/
def textOf (lines : List Line) : String := "\n".intercalate (lines.map Line.text)

theorem Line.text_flat (line : Line) : line.flat.text = line.text.toList := by
  simp [Line.text, FlatLine.text, Line.flat]

theorem toList_textOf (lines : List Line) :
    (textOf lines).toList = flatText (lines.map Line.flat) := by
  rw [textOf, String.toList_intercalate, List.map_map]
  cases lines with
  | nil => rfl
  | cons line lines =>
    rw [List.map_cons, List.map_cons, flatText, Line.text_flat]
    induction lines generalizing line with
    | nil => simp
    | cons next lines ih =>
      rw [List.map_cons, List.map_cons, List.intercalate_cons_cons, moreText_cons, ih,
        Line.text_flat]
      simp

/-! ## What lines set -/

/-- The value that the lines give to a field. -/
def given (lines : List Line) (field : OptionsField) : Option String :=
  (lines.find? (·.key = field.name)).map Line.value

/-- The settings that the lines hold. -/
def settingsOf (lines : List Line) : Settings where
  tempo := (given lines .tempo).bind Decimal.finite?
  waveform := (given lines .waveform).bind Waveform.ofExactName?
  volume := (given lines .volume).bind Decimal.finite?

/-- A line that names a field without a value, and has a value of the sort that the field
takes. -/
def Line.Fits (line : Line) (s : Settings) : Prop :=
  ∃ field : OptionsField, line.key = field.name ∧ field.isSet s = false ∧
    (field.settings? line.value).isSome = true

theorem given_cons (line : Line) (lines : List Line) (field : OptionsField) :
    given (line :: lines) field =
      if line.key = field.name then some line.value else given lines field := by
  rw [given, List.find?_cons]
  split <;> simp_all [given]

theorem settingsOf_cons {line : Line} {field : OptionsField} {one : Settings}
    (hkey : line.key = field.name) (hone : field.settings? line.value = some one)
    (lines : List Line) : settingsOf (line :: lines) = one.orElse (settingsOf lines) := by
  cases field with
  | tempo =>
    obtain ⟨x, hx, rfl⟩ := Option.map_eq_some_iff.mp hone
    simp [settingsOf, given_cons, hkey, OptionsField.name, hx, Settings.orElse_eq]
  | waveform =>
    obtain ⟨w, hw, rfl⟩ := Option.map_eq_some_iff.mp hone
    simp [settingsOf, given_cons, hkey, OptionsField.name, hw, Settings.orElse_eq]
  | volume =>
    obtain ⟨x, hx, rfl⟩ := Option.map_eq_some_iff.mp hone
    simp [settingsOf, given_cons, hkey, OptionsField.name, hx, Settings.orElse_eq]

/-- Once a field has a value, lines have to name other ones. -/
theorem Line.fits_orElse_iff {line : Line} {s one : Settings} {field : OptionsField}
    {value : String} (hone : field.settings? value = some one) :
    line.Fits (s.orElse one) ↔ line.Fits s ∧ line.key ≠ field.name := by
  have hset (other : OptionsField) :
      other.isSet (s.orElse one) = false ↔ other.isSet s = false ∧ other ≠ field := by
    rw [OptionsField.isSet_orElse, Bool.or_eq_false_iff, ← Bool.not_eq_true (other.isSet one),
      OptionsField.isSet_of_settings? hone]
  constructor
  · rintro ⟨other, hkey, hunset, hsome⟩
    obtain ⟨hunset, hother⟩ := (hset other).mp hunset
    refine ⟨⟨other, hkey, hunset, hsome⟩, fun hsame => hother ?_⟩
    exact OptionsField.name_injective (hkey.symm.trans hsame)
  · rintro ⟨⟨other, hkey, hunset, hsome⟩, hother⟩
    refine ⟨other, hkey, (hset other).mpr ⟨hunset, fun hsame => hother ?_⟩, hsome⟩
    rw [hkey, hsame]

/-- Lines can be read if they name different fields and each value is of the sort
that its field takes. -/
theorem foldlM_take_eq_some_iff {lines : List Line} {s s' : Settings} :
    lines.foldlM (fun s line => take s line.key line.value) s = some s' ↔
      (∀ line ∈ lines, line.Fits s) ∧ (lines.map Line.key).Nodup ∧
        s.orElse (settingsOf lines) = s' := by
  -- the settings stay arbitrary: the fields that are set stand for the keys of earlier lines
  induction lines generalizing s with
  | nil => simp [settingsOf, given, Settings.orElse_eq]
  | cons line lines ih =>
    rw [List.foldlM_cons, Option.bind_eq_bind, Option.bind_eq_some_iff, List.forall_mem_cons,
      List.map_cons, List.nodup_cons]
    constructor
    · rintro ⟨next, hnext, hrest⟩
      obtain ⟨field, one, hkey, hset, hone, rfl⟩ := take_eq_some_iff.mp hnext
      obtain ⟨hfits, hnodup, rfl⟩ := ih.mp hrest
      have hother := fun other hmem => (Line.fits_orElse_iff hone).mp (hfits other hmem)
      refine ⟨⟨⟨field, hkey, hset, by rw [hone]; rfl⟩,
        fun other hmem => (hother other hmem).1⟩, ⟨fun hmem => ?_, hnodup⟩, ?_⟩
      · obtain ⟨other, hmem, hsame⟩ := List.mem_map.mp hmem
        exact (hother other hmem).2 (hsame.trans hkey)
      · rw [settingsOf_cons hkey hone, Settings.orElse_assoc]
    · rintro ⟨⟨⟨field, hkey, hset, hsome⟩, hfits⟩, ⟨hfresh, hnodup⟩, rfl⟩
      obtain ⟨one, hone⟩ := Option.isSome_iff_exists.mp hsome
      refine ⟨_, take_eq_some_iff.mpr ⟨field, one, hkey, hset, hone, rfl⟩,
        ih.mpr ⟨fun other hmem => ?_, hnodup, ?_⟩⟩
      · refine (Line.fits_orElse_iff hone).mpr ⟨hfits other hmem, fun hsame => hfresh ?_⟩
        exact List.mem_map.mpr ⟨other, hmem, hsame.trans hkey.symm⟩
      · rw [settingsOf_cons hkey hone, Settings.orElse_assoc]

theorem key_of_find? {lines : List Line} {line : Line} {field : OptionsField}
    (h : lines.find? (·.key = field.name) = some line) : line.key = field.name := by
  simpa using List.find?_some h

/-- If no field is named twice, the value of a field is that of its line. -/
theorem given_eq_some_iff {lines : List Line} (hnodup : (lines.map Line.key).Nodup)
    {field : OptionsField} {value : String} :
    given lines field = some value ↔
      ∃ line ∈ lines, line.key = field.name ∧ line.value = value := by
  rw [given, Option.map_eq_some_iff]
  constructor
  · rintro ⟨line, hfind, rfl⟩
    exact ⟨line, List.mem_of_find?_eq_some hfind, key_of_find? hfind, rfl⟩
  · rintro ⟨line, hmem, hkey, rfl⟩
    obtain ⟨found, hfind⟩ : ∃ found, lines.find? (·.key = field.name) = some found :=
      Option.isSome_iff_exists.mp (List.find?_isSome.mpr ⟨line, hmem, decide_eq_true hkey⟩)
    obtain rfl : found = line := List.inj_on_of_nodup_map hnodup
      (List.mem_of_find?_eq_some hfind) hmem ((key_of_find? hfind).trans hkey.symm)
    exact ⟨found, hfind, rfl⟩

/-- The order of the lines does not matter. -/
theorem settingsOf_perm {lines order : List Line} (h : order.Perm lines)
    (hnodup : (lines.map Line.key).Nodup) : settingsOf order = settingsOf lines := by
  have hgiven : given order = given lines := by
    funext field
    refine Option.ext fun value => ?_
    rw [given_eq_some_iff ((h.map Line.key).nodup_iff.mpr hnodup), given_eq_some_iff hnodup]
    simp only [h.mem_iff]
  rw [settingsOf, settingsOf, hgiven]

/-! ## Accepted lines -/

end OptionsFile

/-- The numerals with a finite value. -/
def IsNumber (text : String) (value : Binary64) : Prop :=
  IsNumeral text.toList ∧ Decimal.finite? text = some value

/-- The values that can be used for a field. -/
def OptionsField.Allows : OptionsField → String → Prop
  | .tempo, text => ∃ value, IsNumber text value ∧ Binary64.lt 0 value = true
  | .waveform, text => text ∈ ["sine", "square", "sawtooth", "triangle"]
  | .volume, text => ∃ value, IsNumber text value

namespace OptionsFile

/-- Lines that name different fields, each of which allows its value. -/
structure Accepted (lines : List Line) : Prop where
  allows : ∀ line ∈ lines, ∃ field : OptionsField, line.key = field.name ∧
    field.Allows line.value
  nodup : (lines.map Line.key).Nodup

/-- The options that lines stand for, with the defaults where they do not name a field. -/
def optionsOf (lines : List Line) : PlayerOptions where
  tempo := (settingsOf lines).tempo.getD 120
  waveform := (settingsOf lines).waveform.getD .square
  volume := ((settingsOf lines).volume.map Binary64.clampUnit).getD
    ((⟨2, -1⟩ : Decimal).nearest false)

theorem isFinite_of_finite? {text : String} {x : Binary64}
    (h : Decimal.finite? text = some x) : x.isFinite = true :=
  (Option.filter_eq_some_iff.mp h).2

theorem isSome_ofExactName?_iff {text : String} :
    (Waveform.ofExactName? text).isSome = true ↔
      text ∈ ["sine", "square", "sawtooth", "triangle"] := by
  constructor
  · intro h
    obtain ⟨w, -, hname⟩ := List.find?_isSome.mp h
    obtain rfl : w.name = text := by simpa using hname
    cases w <;> decide
  · intro h
    simp only [List.mem_cons, List.not_mem_nil, or_false] at h
    obtain rfl | rfl | rfl | rfl := h <;> decide

/-- The values that a field allows are of the sort that it takes. -/
theorem isSome_settings?_of_allows {field : OptionsField} {text : String}
    (h : field.Allows text) : (field.settings? text).isSome = true := by
  cases field with
  | tempo =>
    obtain ⟨x, ⟨-, hx⟩, -⟩ := h
    simp [OptionsField.settings?, hx]
  | waveform => rwa [OptionsField.settings?, Option.isSome_map, isSome_ofExactName?_iff]
  | volume =>
    obtain ⟨x, -, hx⟩ := h
    simp [OptionsField.settings?, hx]

/-- Values of the sort that a field takes are allowed, except for a tempo that is not
positive. -/
theorem Line.allows_of_isSome {line : Line} {field : OptionsField}
    (h : (field.settings? line.value).isSome = true)
    (htempo : field = .tempo → ∀ x, Decimal.finite? line.value = some x →
      Binary64.lt 0 x = true) : field.Allows line.value := by
  cases field with
  | tempo =>
    rw [OptionsField.settings?, Option.isSome_map] at h
    obtain ⟨x, hx⟩ := Option.isSome_iff_exists.mp h
    exact ⟨x, ⟨line.isNumeral_of_finite? hx, hx⟩, htempo rfl x hx⟩
  | waveform => rwa [OptionsField.settings?, Option.isSome_map, isSome_ofExactName?_iff] at h
  | volume =>
    rw [OptionsField.settings?, Option.isSome_map] at h
    obtain ⟨x, hx⟩ := Option.isSome_iff_exists.mp h
    exact ⟨x, line.isNumeral_of_finite? hx, hx⟩

/-- A tempo is given by a line. -/
theorem tempo_settingsOf_eq_some_iff {lines : List Line} (hnodup : (lines.map Line.key).Nodup)
    {x : Binary64} :
    (settingsOf lines).tempo = some x ↔
      ∃ line ∈ lines, line.key = OptionsField.tempo.name ∧
      Decimal.finite? line.value = some x := by
  rw [settingsOf, Option.bind_eq_some_iff]
  constructor
  · rintro ⟨value, hgiven, hx⟩
    obtain ⟨line, hmem, hkey, rfl⟩ := (given_eq_some_iff hnodup).mp hgiven
    exact ⟨line, hmem, hkey, hx⟩
  · rintro ⟨line, hmem, hkey, hx⟩
    exact ⟨line.value, (given_eq_some_iff hnodup).mpr ⟨line, hmem, hkey, rfl⟩, hx⟩

/-- Accepted lines can be read, and then their tempo is positive. -/
theorem accepted_iff {lines : List Line} :
    Accepted lines ↔ (∀ line ∈ lines, line.Fits {}) ∧ (lines.map Line.key).Nodup ∧
      Settings.isTempo ((settingsOf lines).tempo.getD 120) = true := by
  constructor
  · rintro ⟨hallows, hnodup⟩
    refine ⟨fun line hmem => ?_, hnodup, ?_⟩
    · obtain ⟨field, hkey, hvalue⟩ := hallows line hmem
      exact ⟨field, hkey, by cases field <;> rfl, isSome_settings?_of_allows hvalue⟩
    · cases htempo : (settingsOf lines).tempo with
      | none => decide +kernel
      | some x =>
        obtain ⟨line, hmem, hkey, hx⟩ := (tempo_settingsOf_eq_some_iff hnodup).mp htempo
        obtain ⟨field, hname, hvalue⟩ := hallows line hmem
        obtain rfl := OptionsField.name_injective (hname.symm.trans hkey)
        obtain ⟨y, ⟨-, hy⟩, hlt⟩ := hvalue
        obtain rfl := Option.some.inj (hx.symm.trans hy)
        rw [Option.getD_some, Settings.isTempo, isFinite_of_finite? hx, hlt]
        rfl
  · rintro ⟨hfits, hnodup, htempo⟩
    refine ⟨fun line hmem => ?_, hnodup⟩
    obtain ⟨field, hkey, -, hsome⟩ := hfits line hmem
    refine ⟨field, hkey, Line.allows_of_isSome hsome ?_⟩
    rintro rfl x hx
    rw [(tempo_settingsOf_eq_some_iff hnodup).mpr ⟨line, hmem, hkey, hx⟩, Option.getD_some,
      Settings.isTempo, Bool.and_eq_true] at htempo
    exact htempo.2

theorem accepted_perm {lines order : List Line} (hperm : order.Perm lines)
    (h : Accepted lines) : Accepted order :=
  ⟨fun line hmem => h.allows line (hperm.mem_iff.mp hmem),
    (hperm.map Line.key).nodup_iff.mpr h.nodup⟩

theorem optionsOf_perm {lines order : List Line} (hperm : order.Perm lines)
    (hnodup : (lines.map Line.key).Nodup) : optionsOf order = optionsOf lines := by
  rw [optionsOf, settingsOf_perm hperm hnodup, optionsOf]

theorem isFinite_volume_settingsOf (lines : List Line) :
    ((settingsOf lines).resolve {}).volume.isFinite = true := by
  cases hvolume : (settingsOf lines).volume with
  | none => simp only [Settings.resolve, hvolume]; decide +kernel
  | some x =>
    obtain ⟨value, -, hx⟩ := Option.bind_eq_some_iff.mp hvolume
    simp only [Settings.resolve, hvolume, Option.getD_some]
    exact isFinite_of_finite? hx

/-- The default of the volume is in its range. -/
theorem clampUnit_resolve (lines : List Line) :
    { (settingsOf lines).resolve {} with
      volume := ((settingsOf lines).resolve {}).volume.clampUnit } = optionsOf lines := by
  obtain ⟨hlow, hhigh⟩ := PlayerOptions.inRange_default.volume
  cases hvolume : (settingsOf lines).volume with
  | none =>
    simp only [Settings.resolve, optionsOf, hvolume, Option.getD_none, Option.map_none]
    rw [Binary64.clampUnit_of_bounds hlow hhigh]
  | some x =>
    simp only [Settings.resolve, optionsOf, hvolume, Option.getD_some, Option.map_some]

/-- What has been read passes the check if the tempo is positive. -/
theorem validated_resolve (lines : List Line) (options : PlayerOptions) :
    ((settingsOf lines).resolve {}).validated = .ok options ↔
      Settings.isTempo ((settingsOf lines).tempo.getD 120) = true ∧
      optionsOf lines = options := by
  rw [PlayerOptions.validated_eq_ok_iff, clampUnit_resolve]
  simp only [isFinite_volume_settingsOf, true_and]
  rfl

/-! ## The file -/

/-- A reader of options files that takes a flat mapping over line by line: each key has to be a
field without a value, and each value of the sort that the field takes. -/
def ReadsLines (read : String → Except String Settings) : Prop :=
  ∀ lines settings, read (textOf lines) = .ok settings ↔
    lines.foldlM (fun s line => take s line.key line.value) {} = some settings

/-- The settings of a text whose document is the last one. -/
theorem settings_eq_ok_iff {text : String} {s : Settings}
    (hlast : (Document.first text.toList).isLast = true) :
    settings text = .ok s ↔ readDocument (Document.first text.toList) = .ok s ∧
      (Document.first text.toList).isComplete = true := by
  rw [settings]
  cases hread : readDocument (Document.first text.toList) with
  | error fault => simp [bind, Except.bind]
  | ok found =>
    cases hcomplete : (Document.first text.toList).isComplete with
    | false => simp [bind, Except.bind, throw, throwThe, MonadExceptOf.throw]
    | true => simp [bind, Except.bind, pure, Except.pure, hlast]

theorem read_eq_ok_iff {explain : String → String} {text : String} {s : Settings} :
    read explain text = .ok s ↔ settings text = .ok s := by
  rw [read]
  cases settings text <;> simp [Except.mapError]

theorem toOption_eq_some_iff {ε α : Type} {result : Except ε α} {a : α} :
    result.toOption = some a ↔ result = .ok a := by
  cases result <;> simp [Except.toOption]

/-- The document of a text, and what is read from it.  It is the last one. -/
theorem readDocument_textOf (lines : List Line) (settings : Settings) :
    (Document.first (textOf lines).toList).isLast = true ∧
      (readDocument (Document.first (textOf lines).toList) = .ok settings ∧
          (Document.first (textOf lines).toList).isComplete = true ↔
        lines.foldlM (fun s line => take s line.key line.value) {} = some settings) := by
  have hfold : lines.foldlM (fun s line => take s line.key line.value) {} =
      (lines.map Line.flat).foldlM takeLine {} := by
    rw [List.foldlM_map]
    simp only [Line.takeLine_flat]
  rw [toList_textOf, hfold]
  cases lines with
  | nil => simp [Document.first_nil, readDocument]
  | cons line lines =>
    rw [List.map_cons]
    obtain hkey | hkey := Nat.lt_or_ge maxKeyLength line.flat.key.length
    · -- the document is not complete, and no field has such a name
      simp [Document.first_flatText_long hkey, takeLine_of_long hkey]
    · obtain ⟨events, isComplete, hevents, hfirst⟩ :=
        Document.first_flatText hkey (lines.map Line.flat)
      have hfields := readFields_toOption hevents {} (position {})
      have hread :
          readDocument (Document.first (flatText (line.flat :: lines.map Line.flat))) =
            readFields (position {}) {} (events.map Document.itemOf) := by
        rw [hfirst]
        rfl
      rw [hread, hfirst, ← hfields, toOption_eq_some_iff]
      refine ⟨rfl, and_iff_left_of_imp fun hok => ?_⟩
      exact isComplete_of_foldlM hevents (hfields.symm.trans (toOption_eq_some_iff.mpr hok))

/-- The reader of this library is one. -/
theorem readsLines_read (explain : String → String) : ReadsLines (read explain) := by
  intro lines s
  obtain ⟨hlast, hread⟩ := readDocument_textOf lines s
  rw [read_eq_ok_iff, settings_eq_ok_iff hlast, hread]

section Reader

variable {read : String → Except String Settings} (hread : ReadsLines read)

include hread

/-- Which lines are accepted, and which options they stand for. -/
theorem ReadsLines.ofText_eq_ok_iff (lines : List Line) (options : PlayerOptions) :
    PlayerOptions.ofText read (textOf lines) = .ok options ↔
      Accepted lines ∧ optionsOf lines = options := by
  have hok : PlayerOptions.ofText read (textOf lines) = .ok options ↔
      ∃ settings, read (textOf lines) = .ok settings ∧
        (settings.resolve {}).validated = .ok options := by
    rw [PlayerOptions.ofText]
    cases read (textOf lines) <;> simp
  rw [hok, accepted_iff]
  constructor
  · rintro ⟨settings, hsettings, hvalid⟩
    have htake := (hread lines settings).mp hsettings
    obtain ⟨hfits, hnodup, rfl⟩ := foldlM_take_eq_some_iff.mp htake
    obtain ⟨htempo, hoptions⟩ := (validated_resolve lines options).mp hvalid
    exact ⟨⟨hfits, hnodup, htempo⟩, hoptions⟩
  · rintro ⟨⟨hfits, hnodup, htempo⟩, hoptions⟩
    have htake := foldlM_take_eq_some_iff.mpr ⟨hfits, hnodup, rfl⟩
    exact ⟨_, (hread lines _).mpr htake,
      (validated_resolve lines options).mpr ⟨htempo, hoptions⟩⟩

/-- What lines are as options, with any reader that takes them over one by one. -/
theorem ReadsLines.ofText_textOf (lines : List Line) :
    ((∃ options, PlayerOptions.ofText read (textOf lines) = .ok options) ↔ Accepted lines) ∧
      (∀ options, PlayerOptions.ofText read (textOf lines) = .ok options →
        options = optionsOf lines ∧ options.validated = .ok options ∧
          ∀ order : List Line, order.Perm lines →
            PlayerOptions.ofText read (textOf order) = .ok options) ∧
      (¬ Accepted lines → ∃ fault, PlayerOptions.ofText read (textOf lines) =
        .error fault) := by
  refine ⟨?_, fun options hoptions => ?_, fun hrefused => ?_⟩
  · simp only [hread.ofText_eq_ok_iff, exists_and_left, exists_eq', and_true]
  · obtain ⟨haccepted, rfl⟩ := (hread.ofText_eq_ok_iff lines options).mp hoptions
    refine ⟨rfl, ?_, fun order hperm => ?_⟩
    · have htempo := (accepted_iff.mp haccepted).2.2
      exact PlayerOptions.validated_validated ((validated_resolve lines _).mpr ⟨htempo, rfl⟩)
    · exact (hread.ofText_eq_ok_iff order _).mpr
        ⟨accepted_perm hperm haccepted, optionsOf_perm hperm haccepted.nodup⟩
  · cases hresult : PlayerOptions.ofText read (textOf lines) with
    | error fault => exact ⟨fault, rfl⟩
    | ok options => exact absurd ((hread.ofText_eq_ok_iff lines options).mp hresult).1 hrefused

end Reader

/-- Lines are options exactly if they name different fields and each field allows its value.
The options are the defaults with the given values in their place, whatever the order of the
lines, and they pass the check as they are.  All other lines are refused. -/
theorem ofYaml_textOf (lines : List Line) :
    ((∃ options, PlayerOptions.ofYaml (textOf lines) = .ok options) ↔ Accepted lines) ∧
      (∀ options, PlayerOptions.ofYaml (textOf lines) = .ok options →
        options = optionsOf lines ∧ options.validated = .ok options ∧
          ∀ order : List Line, order.Perm lines →
            PlayerOptions.ofYaml (textOf order) = .ok options) ∧
      (¬ Accepted lines → ∃ fault, PlayerOptions.ofYaml (textOf lines) = .error fault) :=
  (readsLines_read _).ofText_textOf lines

/-- A volume beyond its range in front of a tempo. -/
theorem ofYaml_textOf_volume_tempo : ∃ lines, textOf lines = "volume: 1.5\ntempo: 90" ∧
    PlayerOptions.ofYaml (textOf lines) = .ok ⟨90, .square, 1⟩ := by
  let volume : Line :=
    ⟨"volume", "1.5", ⟨by decide, List.all_eq_true.mp (by decide)⟩, .inl (.inr ⟨['1'], ['5'],
      ⟨by decide, List.all_eq_true.mp (by decide)⟩,
      ⟨by decide, List.all_eq_true.mp (by decide)⟩, rfl⟩)⟩
  let tempo : Line :=
    ⟨"tempo", "90", ⟨by decide, List.all_eq_true.mp (by decide)⟩,
      .inl (.inl ⟨by decide, List.all_eq_true.mp (by decide)⟩)⟩
  have hvolume : Decimal.finite? "1.5" = some ((⟨15, -1⟩ : Decimal).nearest false) := by
    decide +kernel
  have htempo : Decimal.finite? "90" = some 90 := by decide +kernel
  have haccepted : Accepted [volume, tempo] := by
    refine ⟨List.forall_mem_cons.mpr ⟨⟨.volume, rfl, ?_⟩, List.forall_mem_singleton.mpr
      ⟨.tempo, rfl, ?_⟩⟩, by decide⟩
    · exact ⟨_, volume.isNumeral_of_finite? hvolume, hvolume⟩
    · exact ⟨90, ⟨tempo.isNumeral_of_finite? htempo, htempo⟩, by decide +kernel⟩
  have hoptions : optionsOf [volume, tempo] = ⟨90, .square, 1⟩ := by decide +kernel
  obtain ⟨options, hread⟩ := (ofYaml_textOf [volume, tempo]).1.mpr haccepted
  refine ⟨[volume, tempo], by decide +kernel, ?_⟩
  rw [hread, ((ofYaml_textOf [volume, tempo]).2.1 options hread).1, hoptions]

end OptionsFile

end BuzzerScript
