import BuzzerScript.Proofs.Compile
import BuzzerScript.Proofs.Options
import BuzzerScript.Proofs.Script.Ranges
import BuzzerScript.Proofs.Timeline.StableSort

/-!
# The times of a timeline

Every event of a script lasts some time.  It starts at zero or later, and no event stands
before one that starts earlier, with one exception: at a tempo so slow that a beat is
infinitely long, a track without a delay starts at zero times infinity, which is NaN.
-/

namespace BuzzerScript

/-! ## Lengths

A beat is never shorter than `2 ^ (-1019)` seconds and a note never shorter than `2 ^ (-30)`
beats, so that a duration does not vanish by rounding. -/

section Lengths

open Binary64

/-- The largest finite code. -/
def greatestCode : Fin finiteMagnitudes := ⟨finiteMagnitudes - 1, by decide⟩

/-- The code of `2 ^ (-1019)`. -/
def shortestBeat : Fin finiteMagnitudes := ⟨4 <<< 52, by decide⟩

/-- The code of `2 ^ (-30)`. -/
def fewestBeats : Fin finiteMagnitudes := ⟨993 <<< 52, by decide⟩

/-- The code of `2 ^ (-1049)`. -/
def shortestDuration : Fin finiteMagnitudes := ⟨1 <<< 25, by decide⟩

theorem bounds_of_isTempo {tempo : Binary64} (h : Settings.isTempo tempo) :
    lt 0 tempo ∧ tempo.le (ofCode greatestCode) := by
  rw [Settings.isTempo, Bool.and_eq_true] at h
  obtain ⟨c, -, rfl⟩ | rfl := pos_cases h.2
  · exact ⟨h.2, ofCode_le_ofCode.mpr (Nat.le_sub_one_of_lt c.isLt)⟩
  · cases h.1

theorem le_beatSeconds {tempo : Binary64} (h : Settings.isTempo tempo) :
    (ofCode shortestBeat).le (Track.beatSeconds tempo) := by
  obtain ⟨hpos, hgreatest⟩ := bounds_of_isTempo h
  -- the bound for 60 is 32, the power of two below it
  have hsixty : (ofCode ⟨1028 <<< 52, by decide⟩).le 60 := by decide +kernel
  exact le_div (by decide) hsixty hpos hgreatest (by decide +kernel)

/-- A whole number from one up to `2 ^ 32`, which have the codes `1023 <<< 52` and
`1055 <<< 52`, stays between them. -/
theorem ofNat_bounds {n : Nat} (hone : 1 ≤ n) (hmax : n ≤ 2 ^ 32) :
    (ofCode ⟨1023 <<< 52, by decide⟩).le (ofNat n) ∧
      (ofNat n).le (ofCode ⟨1055 <<< 52, by decide⟩) := by
  have hunits : units (1023 <<< 52) = 1 * unitsInOne := by decide +kernel
  have hunitsmax : units (1055 <<< 52) = 2 ^ 32 * unitsInOne := by decide +kernel
  refine ⟨le_ofUnits Nat.one_pos ?_, ofUnits_le Nat.one_pos ?_⟩
  · rw [Nat.mul_one, hunits]
    exact Nat.mul_le_mul_right _ hone
  · rw [Nat.mul_one, hunitsmax]
    exact Nat.mul_le_mul_right _ hmax

theorem le_beats {token : MelodyToken} (hone : 1 ≤ token.denominator)
    (hmax : token.denominator ≤ Script.maxDenominator) :
    (ofCode fewestBeats).le token.beats := by
  have hfour : (ofCode ⟨1025 <<< 52, by decide⟩).le 4 := by decide +kernel
  obtain ⟨hlower, hupper⟩ := ofNat_bounds hone (hmax.trans (by decide))
  exact le_div (by decide) hfour (pos_of_le (by decide) hlower) hupper (by decide +kernel)

/-- A duration is positive. -/
theorem seconds_pos {token : MelodyToken} {tempo : Binary64} (hone : 1 ≤ token.denominator)
    (hmax : token.denominator ≤ Script.maxDenominator) (htempo : Settings.isTempo tempo) :
    lt 0 (token.seconds (Track.beatSeconds tempo)) := by
  have hduration : (ofCode shortestDuration).le (token.seconds (Track.beatSeconds tempo)) :=
    le_mul (by decide) (by decide) (le_beats hone hmax) (le_beatSeconds htempo)
      (by decide +kernel)
  exact pos_of_le (by decide) hduration

end Lengths

/-! ## Times -/

/-- A clock that starts at zero or later stays there. -/
theorem clock_nonneg {beat elapsed : Binary64} {tokens : List MelodyToken}
    (helapsed : Binary64.le 0 elapsed)
    (hseconds : ∀ token ∈ tokens, Binary64.lt 0 (token.seconds beat)) (k : Nat) :
    Binary64.le 0 (clock beat elapsed tokens k) := by
  induction tokens generalizing elapsed k with
  | nil => simpa [clock] using helapsed
  | cons token tokens ih =>
    cases k with
    | zero => simpa using helapsed
    | succ k =>
      have hfirst := hseconds token List.mem_cons_self
      have hnext := Binary64.add_nonneg helapsed (Binary64.nonneg_of_pos hfirst)
      rw [clock_cons_succ]
      exact ih hnext (fun t ht => hseconds t (List.mem_cons_of_mem _ ht)) k

namespace Track

/-- A track without a delay at a tempo so slow that a beat is infinitely long. -/
def Untimed (track : Track) (globals : Settings) (options : PlayerOptions) : Prop :=
  track.delayBeats.le 0 ∧
    60 / (track.settings.tempo.or globals.tempo).getD options.tempo = .infinite false

variable {track : Track} {globals : Settings} {options : PlayerOptions}

theorem InRange.isTempo_voice (htrack : track.InRange)
    (hglobals : ∀ tempo, globals.tempo = some tempo → Settings.isTempo tempo)
    (hoptions : Settings.isTempo options.tempo) :
    Settings.isTempo (track.voice globals options).tempo := by
  rw [voice]
  cases hown : track.settings.tempo with
  | some tempo => exact htrack.settings.tempo tempo hown
  | none => cases hglobal : globals.tempo with
    | some tempo => exact hglobals tempo hglobal
    | none => exact hoptions

theorem InRange.exists_mem_events (htrack : track.InRange) (globals : Settings)
    (options : PlayerOptions) : ∃ event, event ∈ track.events globals options := by
  obtain ⟨token, rest, htokens⟩ := List.exists_cons_of_ne_nil htrack.tokens_ne_nil
  have hfirst := track.events_getElem? globals options 0
  rw [htokens, List.getElem?_cons_zero, Option.map_some] at hfirst
  exact ⟨_, List.mem_of_getElem? hfirst⟩

/-- Each token of a track lasts some time. -/
theorem InRange.seconds_pos (htrack : track.InRange)
    (htempo : Settings.isTempo (track.voice globals options).tempo) :
    ∀ token ∈ track.tokens,
      Binary64.lt 0 (token.seconds (beatSeconds (track.voice globals options).tempo)) := by
  intro token htoken
  have hdenominator := (htrack.tokens token htoken).denominator
  exact BuzzerScript.seconds_pos hdenominator.1 hdenominator.2 htempo

/-- The offset of a track is zero or more, but NaN if the track is untimed. -/
theorem InRange.offset_cases (htrack : track.InRange)
    (htempo : Settings.isTempo (track.voice globals options).tempo) :
    (track.Untimed globals options →
      track.delayBeats * beatSeconds (track.voice globals options).tempo = Binary64.invalid) ∧
    (¬ track.Untimed globals options →
      Binary64.le 0 (track.delayBeats * beatSeconds (track.voice globals options).tempo)) := by
  constructor
  · rintro ⟨hdelay, hinfinite⟩
    have hinfinite : beatSeconds (track.voice globals options).tempo = .infinite false :=
      hinfinite
    rw [hinfinite, Binary64.zero_mul_infinite htrack.delay_nonneg hdelay]
  · intro htimed
    have hbeat := Binary64.pos_of_le (by decide) (le_beatSeconds htempo)
    exact Binary64.mul_nonneg htrack.delay_nonneg htrack.delay_finite hbeat htimed

/-- The times of a track's events: each lasts some time, and it starts at zero or later unless
the track is untimed. -/
theorem InRange.times_of_mem_events (htrack : track.InRange)
    (htempo : Settings.isTempo (track.voice globals options).tempo) {event : SoundEvent}
    (h : event ∈ track.events globals options) :
    Binary64.lt 0 event.duration ∧
      (track.Untimed globals options → event.start = Binary64.invalid) ∧
      (¬ track.Untimed globals options → Binary64.le 0 event.start) := by
  obtain ⟨k, token, htoken, rfl⟩ := exists_token_of_mem_events h
  have hseconds := htrack.seconds_pos htempo
  have hclock := clock_nonneg Binary64.zero_nonneg hseconds k
  obtain ⟨huntimed, htimed⟩ := htrack.offset_cases htempo
  refine ⟨hseconds token (List.mem_of_getElem? htoken), ?_, ?_⟩
  · intro hcase
    change track.delayBeats * beatSeconds (track.voice globals options).tempo + _ = _
    rw [huntimed hcase, Binary64.invalid_add]
  · intro hcase
    exact Binary64.add_nonneg (htimed hcase) hclock

end Track

/-! ## Timelines -/

/-- Events whose times make sense. -/
structure IsSane (events : List SoundEvent) : Prop where
  start_nonneg : ∀ event ∈ events, Binary64.le 0 event.start
  duration_pos : ∀ event ∈ events, Binary64.lt 0 event.duration
  ordered : ∀ i a b, events[i]? = some a → events[i + 1]? = some b → a.start.le b.start

namespace Script

variable {script : Script} {options : PlayerOptions}
  (hscript : script.InRange) (hoptions : Settings.isTempo options.tempo)
include hscript hoptions

/-- The times of a timeline are those of its tracks. -/
theorem times_of_mem_timeline {event : SoundEvent} (h : event ∈ script.timeline options) :
    ∃ track ∈ script.tracks, Binary64.lt 0 event.duration ∧
      (track.Untimed script.globals options → event.start = Binary64.invalid) ∧
      (¬ track.Untimed script.globals options → Binary64.le 0 event.start) := by
  obtain ⟨track, htrack, hevent⟩ := (script.mem_timeline_iff options event).mp h
  have htempo := (hscript.tracks track htrack).isTempo_voice hscript.globals.tempo hoptions
  exact ⟨track, htrack, (hscript.tracks track htrack).times_of_mem_events htempo hevent⟩

theorem start_of_mem_timeline {event : SoundEvent} (h : event ∈ script.timeline options) :
    event.start = Binary64.invalid ∨ Binary64.le 0 event.start := by
  obtain ⟨track, -, -, huntimed, htimed⟩ := times_of_mem_timeline hscript hoptions h
  by_cases hcase : track.Untimed script.globals options
  · exact .inl (huntimed hcase)
  · exact .inr (htimed hcase)

/-- Neighbours are in the order of their starts, unless the first one has none. -/
theorem start_le_of_neighbours {i : Nat} {a b : SoundEvent}
    (ha : (script.timeline options)[i]? = some a)
    (hb : (script.timeline options)[i + 1]? = some b) :
    a.start.isNaN ∨ a.start.le b.start := by
  have hbefore : a.start.totalLe b.start := by
    obtain ⟨hi, rfl⟩ := List.getElem?_eq_some_iff.mp ha
    obtain ⟨hj, rfl⟩ := List.getElem?_eq_some_iff.mp hb
    exact List.pairwise_iff_getElem.mp (script.timeline_pairwise options) i (i + 1) hi hj
      (Nat.lt_succ_self i)
  have hstart := start_of_mem_timeline hscript hoptions (List.mem_of_getElem? hb)
  cases hnan : a.start.isNaN with
  | true => exact .inl rfl
  | false =>
    rcases hstart with hinvalid | hnonneg
    · rw [hinvalid] at hbefore
      rw [Binary64.isNaN_of_totalLe_invalid hbefore] at hnan
      cases hnan
    · exact .inr (Binary64.le_of_totalLe hnan (Binary64.isNaN_of_nonneg hnonneg) hbefore)

/-- The times of a timeline make sense exactly if no track is untimed. -/
theorem isSane_timeline_iff :
    IsSane (script.timeline options) ↔
      ∀ track ∈ script.tracks, ¬ track.Untimed script.globals options := by
  constructor
  · intro hsane track htrack huntimed
    -- an untimed track has events, and each of them starts at NaN
    obtain ⟨event, hevent⟩ :=
      (hscript.tracks track htrack).exists_mem_events script.globals options
    have htempo := (hscript.tracks track htrack).isTempo_voice hscript.globals.tempo hoptions
    obtain ⟨-, hinvalid, -⟩ := (hscript.tracks track htrack).times_of_mem_events htempo hevent
    have hmem := (script.mem_timeline_iff options event).mpr ⟨track, htrack, hevent⟩
    have hstart := hsane.start_nonneg event hmem
    rw [hinvalid huntimed] at hstart
    cases hstart
  · intro htimed
    have hstart : ∀ event ∈ script.timeline options, Binary64.le 0 event.start := by
      intro event hevent
      obtain ⟨track, htrack, -, -, hstart⟩ :=
        times_of_mem_timeline hscript hoptions hevent
      exact hstart (htimed track htrack)
    refine ⟨hstart, ?_, ?_⟩
    · intro event hevent
      obtain ⟨-, -, hduration, -⟩ := times_of_mem_timeline hscript hoptions hevent
      exact hduration
    · intro i a b ha hb
      have hnan := Binary64.isNaN_of_nonneg (hstart a (List.mem_of_getElem? ha))
      refine (start_le_of_neighbours hscript hoptions ha hb).resolve_left ?_
      simp [hnan]

end Script

/-- **Times make sense**, unless a track without a delay has a tempo so slow that a beat is
infinitely long.  Such a track starts at zero times infinity, which is NaN. -/
theorem compileWith_isSane_iff {options : PlayerOptions} {source : String}
    {events : List SoundEvent} (h : compileWith options source = .ok events) :
    (∀ event ∈ events, Binary64.lt 0 event.duration ∧
      (event.start.isNaN ∨ Binary64.le 0 event.start)) ∧
    (∀ i a b, events[i]? = some a → events[i + 1]? = some b →
      a.start.isNaN ∨ a.start.le b.start) ∧
    ∃ script, Script.ofString source = .ok script ∧
      (IsSane events ↔ ∀ track ∈ script.tracks, ¬ track.Untimed script.globals options) := by
  obtain ⟨validated, script, hvalidated, hofString, rfl⟩ := compileWith_eq_ok_iff.mp h
  obtain ⟨htempo, hoptions⟩ := PlayerOptions.tempo_of_validated hvalidated
  have hscript := Script.inRange_of_ofString hofString
  rw [← htempo] at hoptions
  refine ⟨fun event hevent => ⟨?_, ?_⟩, fun i a b ha hb => ?_, script, hofString, ?_⟩
  · obtain ⟨-, -, hduration, -⟩ := Script.times_of_mem_timeline hscript hoptions hevent
    exact hduration
  · rcases Script.start_of_mem_timeline hscript hoptions hevent with hinvalid | hnonneg
    · exact .inl (hinvalid ▸ rfl)
    · exact .inr hnonneg
  · exact Script.start_le_of_neighbours hscript hoptions ha hb
  · rw [Script.isSane_timeline_iff hscript hoptions]
    simp only [Track.Untimed, htempo]

/-- Two rests at the tempo of the default options. -/
theorem isSane_rests : ∃ events, compileWith {} "R 4 R 4" = .ok events ∧ IsSane events := by
  have hoptions : ({} : PlayerOptions).validated = .ok {} :=
    PlayerOptions.validated_of_inRange PlayerOptions.inRange_default
  have hofString : Script.ofString "R 4 R 4" = .ok
      { tracks := [{ name := "main", tokens := [⟨.rest, 4⟩, ⟨.rest, 4⟩] }] } := by
    decide +kernel
  have hevents := compileWith_eq_ok_iff.mpr ⟨_, _, hoptions, hofString, rfl⟩
  obtain ⟨-, -, script, hscript, hiff⟩ := compileWith_isSane_iff hevents
  obtain rfl := Except.ok.inj (hofString.symm.trans hscript)
  have hbeat : (60 : Binary64) / 120 ≠ .infinite false := by decide +kernel
  exact ⟨_, hevents, hiff.mpr (by simpa [Track.Untimed] using fun _ => hbeat)⟩

/-- The same rests at a tempo of `10 ^ (-307)`: both start at NaN. -/
theorem not_isSane_rests : ∃ event : SoundEvent, event.start = Binary64.invalid ∧
    compileWith { tempo := (⟨1, -307⟩ : Decimal).nearest false } "R 4 R 4" =
      .ok [event, event] ∧ ¬ IsSane [event, event] := by
  let rest : SoundEvent :=
    { start := Binary64.invalid, duration := .infinite false, frequency := none
      waveform := .square, volume := (⟨2, -1⟩ : Decimal).nearest false }
  let slow : PlayerOptions := { tempo := (⟨1, -307⟩ : Decimal).nearest false }
  let script : Script := { tracks := [{ name := "main", tokens := [⟨.rest, 4⟩, ⟨.rest, 4⟩] }] }
  have hoptions : slow.validated = .ok slow := by decide +kernel
  have hofString : Script.ofString "R 4 R 4" = .ok script := by decide +kernel
  have hevents : script.trackEvents slow = [rest, rest] := by decide +kernel
  have htimeline : script.timeline slow = [rest, rest] := by
    rw [← hevents]
    exact List.mergeSort_of_pairwise (by rw [← Script.trackEvents, hevents]; decide)
  refine ⟨rest, rfl, compileWith_eq_ok_iff.mpr ⟨_, _, hoptions, hofString, htimeline⟩, ?_⟩
  intro hsane
  have hstart := hsane.start_nonneg rest List.mem_cons_self
  cases hstart

end BuzzerScript
