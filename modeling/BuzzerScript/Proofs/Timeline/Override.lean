import BuzzerScript.Proofs.Script.Directive
import BuzzerScript.Proofs.Script.NoteTokens
import BuzzerScript.Proofs.Options

/-!
# Directives and options

A setting is looked up in the track, then in the directives of the script, and then in the
options.  A directive on top of a text is the last directive that is asked, so it says the same
as options that have its value.
-/

namespace BuzzerScript

/-! ## Settings and options -/

theorem Track.events_orElse (track : Track) (globals settings : Settings)
    (options : PlayerOptions) :
    track.events (globals.orElse settings) options =
      track.events globals (settings.resolve options) := by
  simp only [Track.events, ← Settings.orElse_assoc, Settings.resolve_orElse]

/-- Settings behind the directives of a script are settings in front of the options. -/
theorem Script.timeline_orElse (script : Script) (settings : Settings)
    (options : PlayerOptions) :
    Script.timeline { script with globals := script.globals.orElse settings } options =
      script.timeline (settings.resolve options) := by
  simp only [Script.timeline, Track.events_orElse]

/-! ## Words -/

/-- A word of more than three letters is an identifier, and longer than any note. -/
theorem word_of_letters {text : List Char} (hletters : text.all Char.isAlpha = true)
    (hlong : 3 < text.length) : IsIdentifier text ∧ ¬ LexemeClass.note.Spells text := by
  refine ⟨?_, not_note_of_length hlong⟩
  have hall : ∀ c ∈ text, isIdentifierStart c = true := by
    intro c hc
    simp [isIdentifierStart, List.all_eq_true.mp hletters c hc]
  cases text with
  | nil => simp at hlong
  | cons c tail =>
    refine ⟨hall c List.mem_cons_self, ?_⟩
    intro d hd
    exact LexemeClass.isIdentifierPart_of_isIdentifierStart
      (hall d (List.mem_cons_of_mem _ hd))

/-- What is a letter in lower case is a letter. -/
theorem isAlpha_of_toLower {c : Char} (h : c.toLower.isAlpha = true) : c.isAlpha = true := by
  by_cases hupper : 'A'.val ≤ c.val ∧ c.val ≤ 'Z'.val
  · rw [UInt32.le_iff_toNat_le, UInt32.le_iff_toNat_le] at hupper
    exact (isAlpha_iff_toNat c).mpr (.inl hupper)
  · have hsame : c.toLower = c := dif_neg hupper
    rwa [hsame] at h

/-- A name of a waveform is such a word. -/
theorem Waveform.word_of_ofName? {name : String} {waveform : Waveform}
    (h : Waveform.ofName? name = some waveform) :
    IsIdentifier name.toList ∧ ¬ LexemeClass.note.Spells name.toList := by
  have hlower : name.toList.map Char.toLower = waveform.name.toList := by
    have hname : waveform.name = Text.lowerCase name := by
      rw [ofName?, ofExactName?] at h
      simpa using List.find?_some h
    rw [hname, Text.lowerCase, String.toList_ofList]
  have hwords : waveform.name.toList.all Char.isAlpha = true ∧
      3 < waveform.name.toList.length := by
    cases waveform <;> decide
  obtain ⟨hletters, hlong⟩ := hwords
  rw [← hlower, List.all_map, List.all_eq_true] at hletters
  rw [← hlower, List.length_map] at hlong
  refine word_of_letters (List.all_eq_true.mpr ?_) hlong
  intro c hc
  exact isAlpha_of_toLower (hletters c hc)

/-! ## Directives -/

/-- A directive as it is written, with its line end, and the options that have its
value for one of their own.  A number is a numeral that is finite as a double, and a
tempo is positive. -/
inductive DirectiveFor (options : PlayerOptions) : String → PlayerOptions → Prop
  | tempo (numeral : String) (value : Binary64) (spells : IsNumeral numeral.toList)
      (denotes : LexemeClass.Denotes .number numeral.toList (.number value))
      (positive : Binary64.lt 0 value) :
      DirectiveFor options ("tempo = " ++ numeral ++ "\n") { options with tempo := value }
  | volume (numeral : String) (value : Binary64) (spells : IsNumeral numeral.toList)
      (denotes : LexemeClass.Denotes .number numeral.toList (.number value)) :
      DirectiveFor options ("volume = " ++ numeral ++ "\n") { options with volume := value }
  | waveform (name : String) (waveform : Waveform)
      (known : Waveform.ofName? name = some waveform) :
      DirectiveFor options ("waveform = " ++ name ++ "\n") { options with waveform }

theorem isFinite_of_denotes {text : List Char} {value : Binary64}
    (h : LexemeClass.Denotes .number text (.number value)) : value.isFinite := by
  cases h with
  | number _ _ _ _ _ hfinite => exact hfinite

/-- The keys of settings are words of letters in lower case. -/
theorem word_of_key {key : String} (h : key = "tempo" ∨ key = "volume" ∨ key = "waveform") :
    IsIdentifier key.toList ∧ ¬ LexemeClass.note.Spells key.toList ∧
    Text.lowerCase key = key := by
  have hwords : (key.toList.all Char.isAlpha = true ∧ 3 < key.toList.length) ∧
      Text.lowerCase key = key := by
    rcases h with rfl | rfl | rfl <;> decide
  obtain ⟨⟨hletters, hlong⟩, hlower⟩ := hwords
  obtain ⟨hkey, hnote⟩ := word_of_letters hletters hlong
  exact ⟨hkey, hnote, hlower⟩

/-- A directive on top of a text, as it is written. -/
theorem Script.ofString_setting {key text : String} {kind : LexemeClass} {token : Token}
    {value : SettingValue} (hkey : key = "tempo" ∨ key = "volume" ∨ key = "waveform")
    (hspells : kind.Spells text.toList)
    (hnote : kind = .identifier → ¬ LexemeClass.note.Spells text.toList)
    (hdenotes : kind.Denotes text.toList token) (hvalue : settingValue? token = some value)
    (source : String) :
    ofString (key ++ " = " ++ text ++ "\n" ++ source) =
      ((ofString source).map fun script =>
        { script with
          globals := script.globals.orElse (({} : Settings).apply key value) }).mapError
        (CompileError.relocate (Position.below 1)) := by
  obtain ⟨hidentifier, hword, hlower⟩ := word_of_key hkey
  have hcuts := cuts_directive hidentifier hword hspells hnote hdenotes
  have hdirective := ofString_directive hcuts hvalue source
  rwa [hlower] at hdirective

/-- The options that say the same as a directive are, once checked, the checked ones with the
setting of the directive in front of them. -/
theorem DirectiveFor.exists_settings {options validated replaced : PlayerOptions}
    {directive : String} (h : DirectiveFor options directive replaced)
    (hvalid : options.validated = .ok validated) :
    ∃ settings : Settings, replaced.validated = .ok (settings.resolve validated) ∧
      ∀ source, Script.ofString (directive ++ source) =
        ((Script.ofString source).map fun script =>
          { script with globals := script.globals.orElse settings }).mapError
          (CompileError.relocate (Position.below 1)) := by
  obtain ⟨htempo, hvolume, rfl⟩ := PlayerOptions.validated_eq_ok_iff.mp hvalid
  cases h with
  | tempo numeral value hspells hdenotes hpositive =>
    have hvalue : Settings.isTempo value := by
      rw [Settings.isTempo, isFinite_of_denotes hdenotes, hpositive]
      rfl
    have hset : ({} : Settings).apply "tempo" (.number value) = { tempo := some value } := by
      simp [Settings.apply, hvalue]
    refine ⟨{ tempo := some value }, ?_, ?_⟩
    · exact PlayerOptions.validated_eq_ok_iff.mpr ⟨hvalue, hvolume, rfl⟩
    · have hkey : "tempo = " = "tempo" ++ " = " := by decide
      have hnumber : LexemeClass.number.Spells numeral.toList := hspells
      rw [← hset, hkey]
      exact Script.ofString_setting (.inl rfl) hnumber (fun h => by cases h) hdenotes rfl
  | volume numeral value hspells hdenotes =>
    have hfinite := isFinite_of_denotes hdenotes
    have hset : ({} : Settings).apply "volume" (.number value) =
        { volume := some value.clampUnit } := by
      have hnan : value.isNaN = false := by
        cases value <;> simp_all [Binary64.isFinite, Binary64.isNaN]
      simp [Settings.apply, hnan]
    refine ⟨{ volume := some value.clampUnit }, ?_, ?_⟩
    · exact PlayerOptions.validated_eq_ok_iff.mpr ⟨htempo, hfinite, rfl⟩
    · have hkey : "volume = " = "volume" ++ " = " := by decide
      have hnumber : LexemeClass.number.Spells numeral.toList := hspells
      rw [← hset, hkey]
      exact Script.ofString_setting (.inr (.inl rfl)) hnumber (fun h => by cases h) hdenotes
        rfl
  | waveform name waveform hknown =>
    obtain ⟨hname, hword⟩ := Waveform.word_of_ofName? hknown
    have hset :
        ({} : Settings).apply "waveform" (.word name) = { waveform := some waveform } := by
      simp [Settings.apply, hknown]
    refine ⟨{ waveform := some waveform }, ?_, ?_⟩
    · exact PlayerOptions.validated_eq_ok_iff.mpr ⟨htempo, hvolume, rfl⟩
    · have hkey : "waveform = " = "waveform" ++ " = " := by decide
      rw [← hset, hkey]
      have hdenotes : LexemeClass.Denotes .identifier name.toList (.identifier name) := by
        simpa using LexemeClass.Denotes.identifier name.toList
      have hidentifier : LexemeClass.identifier.Spells name.toList := hname
      exact Script.ofString_setting (.inr (.inr rfl)) hidentifier (fun _ => hword) hdenotes rfl

/-- **Directives and options.**  A directive on top of a text says the same as options with its
value.  Either the same events come out, or the same error at the same column one line further
down; the options are never at fault. -/
theorem compileWith_directive {options validated replaced : PlayerOptions} {directive : String}
    (hvalid : options.validated = .ok validated) (h : DirectiveFor options directive replaced)
    (source : String) :
    match compileWith replaced source with
    | .ok events => compileWith options (directive ++ source) = .ok events
    | .error (.lexical position fault) =>
      compileWith options (directive ++ source) =
        .error (.lexical ⟨position.line + 1, position.column⟩ fault)
    | .error (.grammar position fault) =>
      compileWith options (directive ++ source) =
        .error (.grammar ⟨position.line + 1, position.column⟩ fault)
    | .error (.options _) => False := by
  obtain ⟨settings, hreplaced, hofString⟩ := h.exists_settings hvalid
  rw [compileWith_of_validated hreplaced, compileWith_of_validated hvalid, hofString]
  cases hscript : Script.ofString source with
  | ok script => exact congrArg Except.ok (script.timeline_orElse settings validated)
  | error e =>
    cases e with
    | lexical position fault => rfl
    | grammar position fault => rfl
    | options fault => exact Script.ofString_ne_options source fault hscript

/-- A tempo of 90 as a directive and in the options, on top of a rest and of a text that is no
script. -/
theorem compileWith_directive_tempo :
    (∃ events, compileWith { ({} : PlayerOptions) with tempo := 90 } "R 4" = .ok events ∧
      compileWith {} ("tempo = " ++ "90" ++ "\n" ++ "R 4") = .ok events) ∧
    compileWith {} ("tempo = " ++ "90" ++ "\n" ++ "R $") =
      .error (.lexical ⟨2, 3⟩ (.unexpectedCharacter '$')) := by
  have hvalid : ({} : PlayerOptions).validated = .ok {} :=
    PlayerOptions.validated_of_inRange PlayerOptions.inRange_default
  have hspells : IsNumeral "90".toList := .inl ⟨by decide, List.all_eq_true.mp (by decide)⟩
  have hdenotes : LexemeClass.Denotes .number "90".toList (.number 90) :=
    .number _ ⟨90, 0⟩ 90 (by decide) (by decide +kernel) (by decide +kernel)
  have hpositive : Binary64.lt 0 90 := by decide +kernel
  have hdirective := @DirectiveFor.tempo {} "90" 90 hspells hdenotes hpositive
  have hreplaced : PlayerOptions.validated { ({} : PlayerOptions) with tempo := 90 } =
      .ok { ({} : PlayerOptions) with tempo := 90 } := by
    decide +kernel
  -- no computation with the options is asked for from here on
  generalize { ({} : PlayerOptions) with tempo := 90 } = replaced at hdirective hreplaced ⊢
  constructor
  · have hofString : Script.ofString "R 4" = .ok
        { tracks := [{ name := "main", tokens := [⟨.rest, 4⟩] }] } := by
      decide +kernel
    have hevents := compileWith_eq_ok_iff.mpr ⟨_, _, hreplaced, hofString, rfl⟩
    have hsame := compileWith_directive hvalid hdirective "R 4"
    rw [hevents] at hsame
    exact ⟨_, hevents, hsame⟩
  · have hfails : compileWith replaced "R $" =
        .error (.lexical ⟨1, 3⟩ (.unexpectedCharacter '$')) := by
      have hofString : Script.ofString "R $" =
          .error (.lexical ⟨1, 3⟩ (.unexpectedCharacter '$')) := by
        decide +kernel
      rw [compileWith, hreplaced, hofString]
      rfl
    have hsame := compileWith_directive hvalid hdirective "R $"
    rw [hfails] at hsame
    exact hsame

end BuzzerScript
