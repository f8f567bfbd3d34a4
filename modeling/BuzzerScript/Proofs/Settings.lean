import BuzzerScript.Script.Line

/-!
# The last value counts

Settings are read one after the other, and each one that can be used takes the place of an
earlier one.  So of all the values for a setting the last usable one is left.
-/

namespace BuzzerScript

/-- The last of the values that `f` finds, seen from the front: a later value hides the
first. -/
theorem getLast?_filterMap_cons {α β : Type} (f : α → Option β) (a : α) (l : List α) :
    ((a :: l).filterMap f).getLast? = ((l.filterMap f).getLast?).or (f a) := by
  cases h : f a with
  | none => simp [h]
  | some b => simp [h, List.getLast?_cons, Option.or_some]

namespace Settings

theorem acceptedTempo?_number (key : String) (x : Binary64) :
    acceptedTempo? (key, .number x) = if key = "tempo" ∧ isTempo x then some x else none := by
  by_cases h : key = "tempo"
  · subst h; simp [acceptedTempo?]
  · simp [acceptedTempo?, h]

theorem acceptedVolume?_number (key : String) (x : Binary64) :
    acceptedVolume? (key, .number x) =
      if key = "volume" ∧ ¬ x.isNaN then some x.clampUnit else none := by
  by_cases h : key = "volume"
  · subst h; cases hx : x.isNaN <;> simp [acceptedVolume?, hx]
  · simp [acceptedVolume?, h]

theorem acceptedWaveform?_word (key text : String) :
    acceptedWaveform? (key, .word text) =
      if key = "waveform" then Waveform.ofName? text else none := by
  by_cases h : key = "waveform"
  · subst h; simp [acceptedWaveform?]
  · simp [acceptedWaveform?, h]

@[simp] theorem acceptedTempo?_word (key text : String) :
    acceptedTempo? (key, .word text) = none := by simp [acceptedTempo?]

@[simp] theorem acceptedVolume?_word (key text : String) :
    acceptedVolume? (key, .word text) = none := by simp [acceptedVolume?]

@[simp] theorem acceptedWaveform?_number (key : String) (x : Binary64) :
    acceptedWaveform? (key, .number x) = none := by simp [acceptedWaveform?]

/-- A setting that can be used takes the place of the one before. -/
theorem apply_eq (s : Settings) (key : String) (value : SettingValue) :
    s.apply key value =
      { tempo := (acceptedTempo? (key, value)).or s.tempo
        waveform := (acceptedWaveform? (key, value)).or s.waveform
        volume := (acceptedVolume? (key, value)).or s.volume } := by
  cases value with
  | number x =>
    rw [acceptedTempo?_number, acceptedVolume?_number, acceptedWaveform?_number]
    by_cases ht : key = "tempo"
    · subst ht
      cases hx : isTempo x <;> simp [apply, hx]
    · by_cases hv : key = "volume"
      · subst hv
        cases hx : x.isNaN <;> simp [apply, hx]
      · simp [apply, ht, hv]
  | word text =>
    rw [acceptedTempo?_word, acceptedVolume?_word, acceptedWaveform?_word]
    by_cases h : key = "waveform"
    · cases hw : Waveform.ofName? text <;> simp [apply, h, hw]
    · simp [apply, h]

theorem orElse_eq (s fallback : Settings) :
    s.orElse fallback =
      { tempo := s.tempo.or fallback.tempo
        waveform := s.waveform.or fallback.waveform
        volume := s.volume.or fallback.volume } := by
  simp [orElse]

@[simp] theorem orElse_empty (s : Settings) : s.orElse {} = s := by simp [orElse]

@[simp] theorem lastAccepted_nil : lastAccepted [] = {} := rfl

/-- Settings read one after the other: the last usable value of each, or the one from
before. -/
theorem foldl_apply (pairs : List (String × SettingValue)) (s : Settings) :
    pairs.foldl (fun s pair => s.apply pair.1 pair.2) s = (lastAccepted pairs).orElse s := by
  induction pairs generalizing s with
  | nil => simp [lastAccepted, orElse]
  | cons pair rest ih =>
    rw [List.foldl_cons, ih, apply_eq]
    simp only [lastAccepted, orElse_eq, getLast?_filterMap_cons, Option.or_assoc]

/-- One more key and value. -/
theorem lastAccepted_append_singleton (pairs : List (String × SettingValue))
    (pair : String × SettingValue) :
    lastAccepted (pairs ++ [pair]) = (lastAccepted pairs).apply pair.1 pair.2 := by
  rw [← orElse_empty (lastAccepted (pairs ++ [pair])), ← foldl_apply, List.foldl_append,
    foldl_apply pairs, orElse_empty]
  rfl

end Settings

namespace Track

theorem acceptedDelay?_number (key : String) (x : Binary64) :
    acceptedDelay? (key, .number x) =
      if key = "delay" ∧ x.isFinite ∧ Binary64.le 0 x then some x else none := by
  by_cases h : key = "delay"
  · subst h; simp [acceptedDelay?]
  · simp [acceptedDelay?, h]

@[simp] theorem acceptedDelay?_word (key text : String) :
    acceptedDelay? (key, .word text) = none := by simp [acceptedDelay?]

/-- A delay is no setting, so an option of a header is taken over as a delay and as
a setting at once. -/
theorem apply_eq (track : Track) (key : String) (value : SettingValue) :
    track.apply key value =
      { track with
        delayBeats := (acceptedDelay? (key, value)).getD track.delayBeats
        settings := track.settings.apply key value } := by
  cases value with
  | number x =>
    rw [acceptedDelay?_number]
    by_cases h : key = "delay" ∧ x.isFinite ∧ Binary64.le 0 x
    · have hs : track.settings.apply key (.number x) = track.settings := by
        rw [h.1]; simp [Settings.apply]
      rw [hs]
      simp [apply, h]
    · simp [apply, h]
  | word text => simp [apply]

/-- The options of a header read one after the other. -/
theorem foldl_apply (pairs : List (String × SettingValue)) (track : Track) :
    pairs.foldl (fun track pair => track.apply pair.1 pair.2) track =
      { track with
        delayBeats := (pairs.filterMap acceptedDelay?).getLast?.getD track.delayBeats
        settings := (Settings.lastAccepted pairs).orElse track.settings } := by
  rw [← Settings.foldl_apply]
  induction pairs generalizing track with
  | nil => rfl
  | cons pair rest ih =>
    rw [List.foldl_cons, ih, apply_eq, getLast?_filterMap_cons, Option.getD_or]
    rfl

end Track

/-! ## What is left of several values -/

/-- What is left of several values: the last one that is accepted, or nothing if none is. -/
inductive LastOf {α β : Type} (accepts : α → Option β) : List α → Option β → Prop
  | nothing {l : List α} (rejected : ∀ a ∈ l, accepts a = none) : LastOf accepts l none
  | value {before after : List α} {a : α} {b : β} (accepted : accepts a = some b)
      (rejected : ∀ c ∈ after, accepts c = none) :
      LastOf accepts (before ++ a :: after) (some b)

theorem lastOf_iff {α β : Type} (accepts : α → Option β) (l : List α) (left : Option β) :
    LastOf accepts l left ↔ (l.filterMap accepts).getLast? = left := by
  constructor
  · intro h
    cases h with
    | nothing rejected => simp [List.filterMap_eq_nil_iff.mpr rejected]
    | value accepted rejected =>
      simp [List.filterMap_cons_some accepted, List.filterMap_eq_nil_iff.mpr rejected]
  · intro h
    cases left with
    | none => exact .nothing (List.filterMap_eq_nil_iff.mp (List.getLast?_eq_none_iff.mp h))
    | some b =>
      obtain ⟨accepted, hb⟩ := List.getLast?_eq_some_iff.mp h
      obtain ⟨front, back, rfl, -, hback⟩ := List.filterMap_eq_append_iff.mp hb
      obtain ⟨skipped, a, after, rfl, -, ha, hafter⟩ := List.filterMap_eq_cons_iff.mp hback
      rw [← List.append_assoc]
      exact .value ha (List.filterMap_eq_nil_iff.mp hafter)

/-- Of two values side by side one is rejected, so they may change places. -/
theorem filterMap_exchange {α β : Type} {f : α → Option β} {a b : α}
    (h : f a = none ∨ f b = none) (front back : List α) :
    (front ++ a :: b :: back).filterMap f = (front ++ b :: a :: back).filterMap f := by
  rw [List.filterMap_append, List.filterMap_append]
  congr 1
  rcases h with h | h
  · rw [List.filterMap_cons_none h, List.filterMap_cons, List.filterMap_cons,
      List.filterMap_cons_none h]
  · rw [List.filterMap_cons, List.filterMap_cons_none h, List.filterMap_cons_none h,
      List.filterMap_cons]

/-- A value for a certain key is rejected under any other, so of two keys one is rejected. -/
theorem rejected_of_key_ne {β : Type} {accepts : String × SettingValue → Option β}
    {key : String} (hkey : ∀ pair, pair.1 ≠ key → accepts pair = none)
    {p q : String × SettingValue} (h : p.1 ≠ q.1) : accepts p = none ∨ accepts q = none := by
  by_cases hp : p.1 = key
  · exact .inr (hkey q fun hq => h (hp.trans hq.symm))
  · exact .inl (hkey p hp)

namespace Settings

/-- Settings that hold the last accepted value each. -/
structure IsLast (pairs : List (String × SettingValue)) (s : Settings) : Prop where
  tempo : LastOf acceptedTempo? pairs s.tempo
  waveform : LastOf acceptedWaveform? pairs s.waveform
  volume : LastOf acceptedVolume? pairs s.volume

theorem isLast_iff (pairs : List (String × SettingValue)) (s : Settings) :
    s.IsLast pairs ↔ lastAccepted pairs = s := by
  constructor
  · rintro ⟨tempo, waveform, volume⟩
    rw [lastOf_iff] at tempo waveform volume
    rw [lastAccepted, tempo, waveform, volume]
  · rintro rfl
    exact ⟨(lastOf_iff _ _ _).mpr rfl, (lastOf_iff _ _ _).mpr rfl, (lastOf_iff _ _ _).mpr rfl⟩

/-- A key and a value that set nothing. -/
structure Rejected (pair : String × SettingValue) : Prop where
  tempo : acceptedTempo? pair = none
  waveform : acceptedWaveform? pair = none
  volume : acceptedVolume? pair = none

theorem apply_of_rejected {pair : String × SettingValue} (h : Rejected pair) (s : Settings) :
    s.apply pair.1 pair.2 = s := by
  rw [apply_eq, h.tempo, h.waveform, h.volume]
  rfl

theorem lastAccepted_of_rejected {pair : String × SettingValue} (h : Rejected pair)
    (front back : List (String × SettingValue)) :
    lastAccepted (front ++ pair :: back) = lastAccepted (front ++ back) := by
  simp only [lastAccepted, List.filterMap_append, List.filterMap_cons_none h.tempo,
    List.filterMap_cons_none h.waveform, List.filterMap_cons_none h.volume]

theorem acceptedTempo?_of_key_ne (pair : String × SettingValue) (h : pair.1 ≠ "tempo") :
    acceptedTempo? pair = none := by
  obtain ⟨key, value⟩ := pair
  cases value with
  | number x => rw [acceptedTempo?_number, if_neg fun hkey => h hkey.1]
  | word text => rw [acceptedTempo?_word]

theorem acceptedWaveform?_of_key_ne (pair : String × SettingValue) (h : pair.1 ≠ "waveform") :
    acceptedWaveform? pair = none := by
  obtain ⟨key, value⟩ := pair
  cases value with
  | number x => rw [acceptedWaveform?_number]
  | word text => rw [acceptedWaveform?_word, if_neg h]

theorem acceptedVolume?_of_key_ne (pair : String × SettingValue) (h : pair.1 ≠ "volume") :
    acceptedVolume? pair = none := by
  obtain ⟨key, value⟩ := pair
  cases value with
  | number x => rw [acceptedVolume?_number, if_neg fun hkey => h hkey.1]
  | word text => rw [acceptedVolume?_word]

/-- Two neighbours with different keys may change places. -/
theorem lastAccepted_exchange {p q : String × SettingValue} (h : p.1 ≠ q.1)
    (front back : List (String × SettingValue)) :
    lastAccepted (front ++ p :: q :: back) = lastAccepted (front ++ q :: p :: back) := by
  simp only [lastAccepted]
  rw [filterMap_exchange (rejected_of_key_ne acceptedTempo?_of_key_ne h),
    filterMap_exchange (rejected_of_key_ne acceptedWaveform?_of_key_ne h),
    filterMap_exchange (rejected_of_key_ne acceptedVolume?_of_key_ne h)]

/-- Settings with different keys are taken over in any order. -/
theorem apply_comm {key other : String} (h : key ≠ other) (s : Settings)
    (value value' : SettingValue) :
    (s.apply key value).apply other value' = (s.apply other value').apply key value := by
  have hfold := foldl_apply [(key, value), (other, value')] s
  rw [← List.nil_append [(key, value), (other, value')],
    lastAccepted_exchange h, ← foldl_apply] at hfold
  exact hfold

end Settings

namespace Track

theorem acceptedDelay?_of_key_ne (pair : String × SettingValue) (h : pair.1 ≠ "delay") :
    acceptedDelay? pair = none := by
  obtain ⟨key, value⟩ := pair
  cases value with
  | number x => rw [acceptedDelay?_number, if_neg fun hkey => h hkey.1]
  | word text => rw [acceptedDelay?_word]

end Track

end BuzzerScript
