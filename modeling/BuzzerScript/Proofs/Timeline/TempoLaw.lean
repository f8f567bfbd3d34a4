import BuzzerScript.Proofs.Halving
import BuzzerScript.Proofs.Timeline.Times
import BuzzerScript.Proofs.Timeline.TrackOrder

/-!
# The tempo law

A script that sets no tempo is played twice as fast at twice the tempo.  The length of a beat
is the only place where the tempo is used: it is halved, and the times of each track, which
are products with it and sums of such products, are halved with it.  The order of the
timeline stays as it is.

This is exact as long as everything that is computed is zero or normal at both tempos, but for
one normal number that has no half.

## Main definitions

* `Track.Computes`: the numbers that the events of a track are computed by.
* `SoundEvent.IsHalved`: an event with half the times of another one.

## Main statements

* `Track.events_isHalved`: the law for a track.
* `Script.timeline_isHalved_iff`: the law for a script, and the only exception to it.
-/

namespace BuzzerScript

open Binary64

/-- The first event has half the times of the second, and nothing else differs. -/
structure SoundEvent.IsHalved (half whole : SoundEvent) : Prop where
  start : half.start.IsHalf whole.start
  duration : half.duration.IsHalf whole.duration
  frequency : half.frequency = whole.frequency
  waveform : half.waveform = whole.waveform
  volume : half.volume = whole.volume

namespace SoundEvent

/-- The times of an event have halves. -/
def HasHalf (event : SoundEvent) : Prop := ¬ event.start.IsLastOdd ∧ ¬ event.duration.IsLastOdd

instance (event : SoundEvent) : Decidable event.HasHalf :=
  inferInstanceAs (Decidable (¬ event.start.IsLastOdd ∧ ¬ event.duration.IsLastOdd))

theorem IsHalved.hasHalf {half whole : SoundEvent} (h : half.IsHalved whole) : whole.HasHalf :=
  ⟨h.start.not_isLastOdd, h.duration.not_isLastOdd⟩

/-- Halved starts are the quotients by two. -/
theorem map_start_of_isHalved {fast slow : List SoundEvent}
    (h : List.Forall₂ IsHalved fast slow) :
    fast.map SoundEvent.start = slow.map fun event => event.start / 2 := by
  induction h with
  | nil => rfl
  | cons hhalf _ ih => rw [List.map_cons, List.map_cons, ih, hhalf.start.eq_div_two]

end SoundEvent

/-! ## A track -/

namespace Track

/-- The numbers that the events of a track are computed by at a tempo. -/
inductive Computes (track : Track) (tempo : Binary64) : Binary64 → Prop
  | beat : Computes track tempo (beatSeconds tempo)
  | offset : Computes track tempo (track.delayBeats * beatSeconds tempo)
  | duration {token : MelodyToken} (h : token ∈ track.tokens) :
      Computes track tempo (token.seconds (beatSeconds tempo))
  | clock {k : Nat} (h : k ≤ track.tokens.length) :
      Computes track tempo (clock (beatSeconds tempo) 0 track.tokens k)
  | start {k : Nat} (h : k < track.tokens.length) :
      Computes track tempo (track.delayBeats * beatSeconds tempo +
        BuzzerScript.clock (beatSeconds tempo) 0 track.tokens k)

/-- Whatever is computed at a tempo is zero or normal. -/
def IsRegularAt (track : Track) (tempo : Binary64) : Prop :=
  ∀ x, track.Computes tempo x → x.IsRegular

theorem isRegularAt_iff {track : Track} {tempo : Binary64} :
    track.IsRegularAt tempo ↔
      (beatSeconds tempo).IsRegular ∧ (track.delayBeats * beatSeconds tempo).IsRegular ∧
      (∀ token ∈ track.tokens, (token.seconds (beatSeconds tempo)).IsRegular) ∧
      (∀ k ≤ track.tokens.length, (clock (beatSeconds tempo) 0 track.tokens k).IsRegular) ∧
      ∀ k < track.tokens.length, (track.delayBeats * beatSeconds tempo +
        clock (beatSeconds tempo) 0 track.tokens k).IsRegular := by
  constructor
  · intro h
    exact ⟨h _ .beat, h _ .offset, fun _ htoken => h _ (.duration htoken),
      fun _ hk => h _ (.clock hk), fun _ hk => h _ (.start hk)⟩
  · rintro ⟨hbeat, hoffset, hduration, hclock, hstart⟩ x hx
    cases hx with
    | beat => exact hbeat
    | offset => exact hoffset
    | duration htoken => exact hduration _ htoken
    | clock hk => exact hclock _ hk
    | start hk => exact hstart _ hk

instance (track : Track) (tempo : Binary64) : Decidable (track.IsRegularAt tempo) :=
  decidable_of_iff' _ isRegularAt_iff

section Halves

variable {track : Track} {slow fast : Binary64} (hpos : lt 0 slow) (htempo : slow.IsHalf fast)
  (hfast : track.IsRegularAt fast) (hslow : track.IsRegularAt slow)

include hpos htempo in
/-- A beat is too long to have no half. -/
theorem not_isLastOdd_beatSeconds : ¬ (beatSeconds slow).IsLastOdd := by
  have hslow : Settings.isTempo slow := by
    rw [Settings.isTempo, hpos, htempo.isFinite]
    rfl
  obtain ⟨c, hcode, hbeat⟩ | hbeat := cases_of_le (by decide) (le_beatSeconds hslow)
  · rw [hbeat]
    intro hlast
    have hlast := isLastOdd_finite_iff.mp hlast
    have hshort : lastOdd < shortestBeat.val := by decide
    have hcode : shortestBeat.val ≤ c.val := hcode
    omega
  · rw [hbeat]
    intro hlast
    cases hlast

include hpos htempo hfast hslow

theorem isHalf_beatSeconds : (beatSeconds fast).IsHalf (beatSeconds slow) :=
  htempo.div_right (x := 60) (by decide +kernel) (hfast _ .beat) (hslow _ .beat)
    (not_isLastOdd_beatSeconds hpos htempo)

theorem isHalf_offset (hlast : ¬ (track.delayBeats * beatSeconds slow).IsLastOdd) :
    (track.delayBeats * beatSeconds fast).IsHalf (track.delayBeats * beatSeconds slow) :=
  (isHalf_beatSeconds hpos htempo hfast hslow).mul_left (hfast _ .offset) (hslow _ .offset)
    hlast

theorem isHalf_seconds {token : MelodyToken} (htoken : token ∈ track.tokens)
    (hlast : ¬ (token.seconds (beatSeconds slow)).IsLastOdd) :
    (token.seconds (beatSeconds fast)).IsHalf (token.seconds (beatSeconds slow)) :=
  (isHalf_beatSeconds hpos htempo hfast hslow).mul_left (hfast _ (.duration htoken))
    (hslow _ (.duration htoken)) hlast

/-- Each token moves both clocks on, by a duration and by half of it. -/
theorem isHalf_clock
    (hlast : ∀ token ∈ track.tokens, ¬ (token.seconds (beatSeconds slow)).IsLastOdd) {k : Nat}
    (hk : k ≤ track.tokens.length) :
    (clock (beatSeconds fast) 0 track.tokens k).IsHalf
      (clock (beatSeconds slow) 0 track.tokens k) := by
  induction k with
  | zero =>
    rw [clock_zero, clock_zero]
    exact IsHalf.zero_zero
  | succ k ih =>
    have htoken := List.getElem?_eq_getElem hk
    have hmem := List.getElem_mem hk
    have hsum := (hslow _ (.clock hk)).isFinite
    rw [clock_succ htoken] at hsum
    rw [clock_succ htoken, clock_succ htoken]
    exact (ih (Nat.le_of_lt hk)).add
      (isHalf_seconds hpos htempo hfast hslow hmem (hlast _ hmem)) hsum

end Halves

variable {track : Track} {globals : Settings}

/-- The events of a track at a tempo that is not set otherwise. -/
theorem events_getElem?_of_tempo (hglobals : globals.tempo = none)
    (htrack : track.settings.tempo = none) (options : PlayerOptions) (tempo : Binary64)
    (k : Nat) :
    (track.events globals { options with tempo })[k]? = track.tokens[k]?.map fun token =>
      { start := track.delayBeats * beatSeconds tempo +
        clock (beatSeconds tempo) 0 track.tokens k
        duration := token.seconds (beatSeconds tempo)
        frequency := token.sound.frequency?
        waveform := (track.settings.waveform.or globals.waveform).getD options.waveform
        volume := (track.settings.volume.or globals.volume).getD options.volume } := by
  have htempo : (track.voice globals { options with tempo }).tempo = tempo := by
    rw [voice, hglobals, htrack]
    rfl
  rw [events_getElem?]
  simp only [MelodyToken.event, htempo]
  rfl

/-- The first event starts where the track does. -/
theorem not_isLastOdd_offset {offset : Binary64} (h : ¬ (offset + 0).IsLastOdd) :
    ¬ offset.IsLastOdd := by
  intro hlast
  cases offset with
  | finite s c =>
    obtain rfl : c = ⟨lastOdd, by decide⟩ := Fin.ext (isLastOdd_finite_iff.mp hlast)
    refine h ?_
    cases s <;> decide +kernel
  | infinite s => cases hlast
  | nan s => cases hlast

/-- The events of a track are halved if the times they are made of are. -/
theorem events_isHalved_of_times (options : PlayerOptions) {slow fast : Binary64}
    (hglobals : globals.tempo = none) (htrack : track.settings.tempo = none)
    (hstart : ∀ k < track.tokens.length,
      (track.delayBeats * beatSeconds fast + clock (beatSeconds fast) 0 track.tokens k).IsHalf
        (track.delayBeats * beatSeconds slow + clock (beatSeconds slow) 0 track.tokens k))
    (hduration : ∀ token ∈ track.tokens,
      (token.seconds (beatSeconds fast)).IsHalf (token.seconds (beatSeconds slow))) :
    List.Forall₂ SoundEvent.IsHalved (track.events globals { options with tempo := fast })
      (track.events globals { options with tempo := slow }) := by
  have hevents := events_getElem?_of_tempo hglobals htrack options
  have hlength : ∀ player : PlayerOptions,
      (track.events globals player).length = track.tokens.length :=
    fun _ => length_eventsFrom ..
  refine List.forall₂_of_length_eq_of_get (by rw [hlength, hlength]) fun k hk hk' => ?_
  have hplace : k < track.tokens.length := by rwa [hlength] at hk
  have hfastEvent := hevents fast k
  have hslowEvent := hevents slow k
  rw [List.getElem?_eq_getElem hplace, Option.map_some] at hfastEvent hslowEvent
  rw [List.getElem?_eq_getElem hk, Option.some.injEq] at hfastEvent
  rw [List.getElem?_eq_getElem hk', Option.some.injEq] at hslowEvent
  rw [List.get_eq_getElem, List.get_eq_getElem, hfastEvent, hslowEvent]
  exact ⟨hstart k hplace, hduration _ (List.getElem_mem hplace), rfl, rfl, rfl⟩

/-- If the times of the events have halves, so do those that they are made of. -/
theorem not_isLastOdd_times {options : PlayerOptions} {tempo : Binary64}
    (hglobals : globals.tempo = none) (htrack : track.settings.tempo = none)
    (hhalf : ∀ event ∈ track.events globals { options with tempo }, event.HasHalf) :
    (∀ token ∈ track.tokens, ¬ (token.seconds (beatSeconds tempo)).IsLastOdd) ∧
      (0 < track.tokens.length → ¬ (track.delayBeats * beatSeconds tempo).IsLastOdd) := by
  have htimes : ∀ {k : Nat} {token : MelodyToken}, track.tokens[k]? = some token →
      ¬ (track.delayBeats * beatSeconds tempo +
        clock (beatSeconds tempo) 0 track.tokens k).IsLastOdd ∧
      ¬ (token.seconds (beatSeconds tempo)).IsLastOdd := by
    intro k token htoken
    have hevent := events_getElem?_of_tempo hglobals htrack options tempo k
    rw [htoken, Option.map_some] at hevent
    exact hhalf _ (List.mem_of_getElem? hevent)
  refine ⟨fun token hmem => ?_, fun hsome => ?_⟩
  · obtain ⟨k, htoken⟩ := List.mem_iff_getElem?.mp hmem
    exact (htimes htoken).2
  · have hfirst := List.getElem?_eq_getElem hsome
    exact not_isLastOdd_offset (htimes hfirst).1

/-- **The tempo law for a track**: twice the tempo halves the times of its events, if
they all have halves. -/
theorem events_isHalved (options : PlayerOptions) {slow fast : Binary64}
    (hglobals : globals.tempo = none) (htrack : track.settings.tempo = none)
    (hpos : lt 0 slow) (htempo : slow.IsHalf fast)
    (hfast : track.IsRegularAt fast) (hslow : track.IsRegularAt slow)
    (hhalf : ∀ event ∈ track.events globals { options with tempo := slow }, event.HasHalf) :
    List.Forall₂ SoundEvent.IsHalved (track.events globals { options with tempo := fast })
      (track.events globals { options with tempo := slow }) := by
  obtain ⟨hseconds, hoffset⟩ := not_isLastOdd_times hglobals htrack hhalf
  refine events_isHalved_of_times options hglobals htrack (fun k hk => ?_) fun token hmem => ?_
  · have hsome := hoffset (Nat.zero_lt_of_lt hk)
    exact (isHalf_offset hpos htempo hfast hslow hsome).add
      (isHalf_clock hpos htempo hfast hslow hseconds hk.le) (hslow _ (.start hk)).isFinite
  · exact isHalf_seconds hpos htempo hfast hslow hmem (hseconds token hmem)

end Track

/-! ## A script -/

namespace Script

variable {script : Script} {options : PlayerOptions}

/-- **The tempo law.**  A script that sets no tempo has its starts and durations halved by
twice the tempo, and nothing else in its timeline changes, if and only if none of its times at
the lower tempo is the number below twice the smallest normal one, which has no half. -/
theorem timeline_isHalved_iff (hglobals : script.globals.tempo = none)
    (htracks : ∀ track ∈ script.tracks, track.settings.tempo = none)
    (hpos : lt 0 options.tempo) (hdouble : (2 * options.tempo).isFinite)
    (hfast : ∀ track ∈ script.tracks, track.IsRegularAt (2 * options.tempo))
    (hslow : ∀ track ∈ script.tracks, track.IsRegularAt options.tempo) :
    List.Forall₂ SoundEvent.IsHalved
        (script.timeline { options with tempo := 2 * options.tempo })
        (script.timeline options) ↔
      ∀ event ∈ script.timeline options, event.HasHalf := by
  have htempo := IsHalf.double hdouble
  generalize 2 * options.tempo = fast at *
  constructor
  · intro h event hevent
    obtain ⟨k, hk, rfl⟩ := List.mem_iff_getElem.mp hevent
    exact ((List.forall₂_iff_get.mp h).2 k (h.length_eq ▸ hk) hk).hasHalf
  · intro hhalf
    refine forall₂_mergeSort (fun ha hb => ha.start.totalLe_eq hb.start) ?_
    have hsame :
        List.Forall₂ (fun a b => a = b ∧ b ∈ script.tracks) script.tracks script.tracks :=
      List.forall₂_same.mpr fun track htrack => ⟨rfl, htrack⟩
    refine List.rel_flatMap hsame ?_
    rintro track _ ⟨rfl, htrack⟩
    refine Track.events_isHalved options hglobals (htracks track htrack) hpos htempo
      (hfast track htrack) (hslow track htrack) fun event hevent => ?_
    exact hhalf event ((script.mem_timeline_iff options event).mpr ⟨track, htrack, hevent⟩)

/-- Three rests of a sixty-fourth. -/
def shortRests : Script where
  tracks := [{ name := "main", tokens := [⟨.rest, 64⟩, ⟨.rest, 64⟩, ⟨.rest, 64⟩] }]

theorem timeline_shortRests_of_pairwise (options : PlayerOptions)
    (h : (shortRests.trackEvents options).Pairwise fun a b => a.startsBefore b) :
    shortRests.timeline options = shortRests.trackEvents options :=
  List.mergeSort_of_pairwise h

theorem timeline_isHalved_shortRests :
    let options : PlayerOptions := {}
    lt 0 options.tempo ∧ (2 * options.tempo).isFinite ∧
    (∀ track ∈ shortRests.tracks, track.settings.tempo = none ∧
      track.IsRegularAt (2 * options.tempo) ∧ track.IsRegularAt options.tempo) ∧
    List.Forall₂ SoundEvent.IsHalved
      (shortRests.timeline { options with tempo := 2 * options.tempo })
      (shortRests.timeline options) := by
  intro options
  have hpos : lt 0 options.tempo := by decide +kernel
  have hdouble : (2 * options.tempo).isFinite := by decide +kernel
  have htracks : ∀ track ∈ shortRests.tracks, track.settings.tempo = none ∧
      track.IsRegularAt (2 * options.tempo) ∧ track.IsRegularAt options.tempo := by
    decide +kernel
  refine ⟨hpos, hdouble, htracks, ?_⟩
  refine (timeline_isHalved_iff rfl (fun track htrack => (htracks track htrack).1) hpos hdouble
    (fun track htrack => (htracks track htrack).2.1)
    fun track htrack => (htracks track htrack).2.2).mpr ?_
  rw [timeline_shortRests_of_pairwise options (by decide +kernel)]
  decide +kernel

/-- A tempo at which a sixty-fourth lasts for the number that has no half. -/
def oddTempo : Binary64 := ofCode ⟨(2045 <<< 52) + 7 * 2 ^ 49 + 1, by decide⟩

/-- Everything that is computed is normal at that tempo and at twice the tempo, but half of the
duration is rounded up, and the third rest starts later than it should. -/
theorem timeline_not_isHalved_shortRests :
    shortRests.globals.tempo = none ∧
    (∀ track ∈ shortRests.tracks, track.settings.tempo = none ∧
      track.IsRegularAt (2 * oddTempo) ∧ track.IsRegularAt oddTempo) ∧
    lt 0 oddTempo ∧ (2 * oddTempo).isFinite ∧
    (shortRests.timeline { tempo := 2 * oddTempo }).map SoundEvent.start ≠
      (shortRests.timeline { tempo := oddTempo }).map (fun event => event.start / 2) ∧
    ¬ List.Forall₂ SoundEvent.IsHalved (shortRests.timeline { tempo := 2 * oddTempo })
      (shortRests.timeline { tempo := oddTempo }) := by
  have hstarts : (shortRests.timeline { tempo := 2 * oddTempo }).map SoundEvent.start ≠
      (shortRests.timeline { tempo := oddTempo }).map fun event => event.start / 2 := by
    rw [timeline_shortRests_of_pairwise _ (by decide +kernel),
      timeline_shortRests_of_pairwise _ (by decide +kernel)]
    decide +kernel
  exact ⟨rfl, by decide +kernel, by decide +kernel, by decide +kernel, hstarts,
    fun h => hstarts (SoundEvent.map_start_of_isHalved h)⟩

end Script

end BuzzerScript
