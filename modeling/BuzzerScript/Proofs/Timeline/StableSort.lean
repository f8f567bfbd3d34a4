import BuzzerScript.Proofs.Timeline.TrackEvents
import BuzzerScript.Proofs.TotalOrder
import Mathlib.Data.List.Forall2

/-!
# The timeline is a stable sort

The timeline of a script has the events of its tracks, each as often as the tracks have it.
They stand in the total order of their starts, and events with the same start stand in the
order of the tracks, and of the melody within a track.
-/

namespace BuzzerScript

/-- Sorting leaves the order of elements alone that are equal in the order it sorts by. -/
theorem filter_mergeSort {α : Type} {le : α → α → Bool} {p : α → Bool}
    (htrans : ∀ a b c, le a b = true → le b c = true → le a c = true)
    (htotal : ∀ a b, (le a b || le b a) = true)
    (hequal : ∀ a b, p a = true → p b = true → le a b = true) (l : List α) :
    (l.mergeSort le).filter p = l.filter p := by
  have hsorted : (l.filter p).Pairwise fun a b => le a b = true :=
    List.pairwise_of_forall_mem_list fun a ha b hb =>
      hequal a b (List.mem_filter.mp ha).2 (List.mem_filter.mp hb).2
  have hsublist : (l.filter p).Sublist (l.mergeSort le) :=
    List.sublist_mergeSort htrans htotal hsorted List.filter_sublist
  have hfilter : (l.filter p).Sublist ((l.mergeSort le).filter p) := by
    have htwice := hsublist.filter p
    rwa [List.filter_filter, List.filter_congr fun a _ => Bool.and_self (p a)] at htwice
  have hlength : ((l.mergeSort le).filter p).length = (l.filter p).length :=
    ((List.mergeSort_perm l le).filter p).length_eq
  exact (hfilter.eq_of_length hlength.symm).symm

/-- Sorting puts elements to the same places that are in the same order. -/
theorem forall₂_mergeSort {α β : Type} {r : α → β → Prop} {le : α → α → Bool}
    {le' : β → β → Bool} (horder : ∀ {a b a' b'}, r a a' → r b b' → le a b = le' a' b')
    {l : List α} {l' : List β} (h : List.Forall₂ r l l') :
    List.Forall₂ r (l.mergeSort le) (l'.mergeSort le') := by
  obtain ⟨hlength, hpairs⟩ := List.forall₂_iff_zip.mp h
  -- both lists are sorted by sorting the pairs
  have hfst : ((l.zip l').mergeSort fun a b => le a.1 b.1).map Prod.fst = l.mergeSort le := by
    have hsort := List.map_mergeSort (f := Prod.fst) (s := le) (l := l.zip l')
      (r := fun a b => le a.1 b.1) fun _ _ _ _ => rfl
    rwa [List.map_fst_zip hlength.le] at hsort
  have hsnd :
      ((l.zip l').mergeSort fun a b => le a.1 b.1).map Prod.snd = l'.mergeSort le' := by
    have hsort := List.map_mergeSort (f := Prod.snd) (s := le') (l := l.zip l')
      (r := fun a b => le a.1 b.1) fun a ha b hb => horder (hpairs ha) (hpairs hb)
    rwa [List.map_snd_zip hlength.ge] at hsort
  rw [← hfst, ← hsnd, List.forall₂_map_left_iff, List.forall₂_map_right_iff, List.forall₂_same]
  exact fun pair hpair => hpairs (List.mem_mergeSort.mp hpair)

namespace SoundEvent

/-- The order of the timeline is that of the bit patterns of starts. -/
theorem startsBefore_iff (a b : SoundEvent) :
    a.startsBefore b = true ↔
      Binary64.bitPlace a.start.toBits ≤ Binary64.bitPlace b.start.toBits :=
  Binary64.totalLe_iff a.start b.start

theorem startsBefore_trans (a b c : SoundEvent) (hab : a.startsBefore b = true)
    (hbc : b.startsBefore c = true) : a.startsBefore c = true :=
  Binary64.totalLe_trans a.start b.start c.start hab hbc

theorem startsBefore_total (a b : SoundEvent) :
    (a.startsBefore b || b.startsBefore a) = true :=
  Binary64.totalLe_total a.start b.start

end SoundEvent

namespace Script

/-- The events of all tracks, track after track. -/
def trackEvents (script : Script) (options : PlayerOptions) : List SoundEvent :=
  script.tracks.flatMap fun track => track.events script.globals options

theorem timeline_perm (script : Script) (options : PlayerOptions) :
    (script.timeline options).Perm (script.trackEvents options) :=
  List.mergeSort_perm _ _

/-- The events of a timeline are those of its tracks. -/
theorem mem_timeline_iff (script : Script) (options : PlayerOptions) (event : SoundEvent) :
    event ∈ script.timeline options ↔
      ∃ track ∈ script.tracks, event ∈ track.events script.globals options := by
  rw [(script.timeline_perm options).mem_iff, trackEvents, List.mem_flatMap]

theorem timeline_pairwise (script : Script) (options : PlayerOptions) :
    (script.timeline options).Pairwise fun a b => a.startsBefore b = true :=
  List.pairwise_mergeSort SoundEvent.startsBefore_trans SoundEvent.startsBefore_total _

/-- Events with the same start keep their order. -/
theorem filter_timeline (script : Script) (options : PlayerOptions) (bits : UInt64) :
    (script.timeline options).filter (·.start.toBits = bits) =
      (script.trackEvents options).filter (·.start.toBits = bits) := by
  refine filter_mergeSort SoundEvent.startsBefore_trans SoundEvent.startsBefore_total ?_ _
  intro a b ha hb
  rw [decide_eq_true_eq] at ha hb
  exact (SoundEvent.startsBefore_iff a b).mpr (Int.le_of_eq (by rw [ha, hb]))

/-- **The timeline is a stable sort** of the events of the tracks.  The `k`th event of a track
starts where the durations before it add up to, after the delay of the track. -/
theorem timeline_stable (script : Script) (options : PlayerOptions) :
    (script.timeline options).Perm (script.trackEvents options) ∧
    (script.timeline options).Pairwise (fun a b =>
      Binary64.bitPlace a.start.toBits ≤ Binary64.bitPlace b.start.toBits) ∧
    (∀ bits : UInt64, (script.timeline options).filter (·.start.toBits = bits) =
      (script.trackEvents options).filter (·.start.toBits = bits)) ∧
    ∀ track : Track, ∃ (tempo beat : Binary64) (time : Nat → Binary64),
      tempo = (track.settings.tempo.or script.globals.tempo).getD options.tempo ∧
      beat = 60 / tempo ∧
      time 0 = 0 ∧
      (∀ k token, track.tokens[k]? = some token →
        time (k + 1) = time k + 4 / Binary64.ofNat token.denominator * beat) ∧
      ∀ k, (track.events script.globals options)[k]? = track.tokens[k]?.map fun token =>
        ({ start := track.delayBeats * beat + time k
           duration := 4 / Binary64.ofNat token.denominator * beat
           frequency := token.sound.frequency?
           waveform :=
             (track.settings.waveform.or script.globals.waveform).getD options.waveform
           volume := (track.settings.volume.or script.globals.volume).getD options.volume } :
          SoundEvent) := by
  refine ⟨script.timeline_perm options, ?_, script.filter_timeline options, ?_⟩
  · exact (script.timeline_pairwise options).imp fun {a b} h =>
      (SoundEvent.startsBefore_iff a b).mp h
  · intro track
    refine ⟨_, _, clock (Track.beatSeconds (track.voice script.globals options).tempo) 0
      track.tokens, rfl, rfl, clock_zero _ _ _, ?_, ?_⟩
    · intro k token htoken
      exact clock_succ htoken
    · intro k
      exact track.events_getElem? script.globals options k

end Script

end BuzzerScript
