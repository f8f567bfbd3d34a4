import BuzzerScript.Proofs.Timeline.StableSort

/-!
# Timelines are merged

The timeline of some tracks and others is the stable merge of both timelines: no event is
changed by the tracks beside its own, and of simultaneous events those of the first tracks
come first.  So a track that is taken away takes its own events along and leaves the
others as they were.

Equal events of several tracks cannot be told apart, so each event is put together with the
place that it comes from before anything is said about its way into the timeline.
-/

namespace BuzzerScript

/-! ## Lists in order

What a stable sort makes of a list is determined by two facts: the result is in order, and
elements that are equal in the order keep their places among each other. -/

section Order

variable {α : Type} {le : α → α → Bool}

/-- Equal in the order. -/
def tied (le : α → α → Bool) (a b : α) : Bool := le a b && le b a

variable (htrans : ∀ a b c, le a b = true → le b c = true → le a c = true)
  (htotal : ∀ a b, (le a b || le b a) = true)

include htotal in
theorem tied_refl (a : α) : tied le a a = true := by
  have hself := htotal a a
  rw [Bool.or_self] at hself
  rw [tied, hself, Bool.and_self]

include htrans in
theorem le_of_tied {a b c : α} (hb : tied le a b = true) (hc : tied le a c = true) :
    le b c = true := by
  rw [tied, Bool.and_eq_true] at hb hc
  exact htrans b a c hb.2 hc.1

include htotal in
/-- The head of a list in order is before all its elements. -/
theorem le_of_mem_cons {a b : α} {l : List α} (hl : (a :: l).Pairwise fun a b => le a b = true)
    (hb : b ∈ a :: l) : le a b = true := by
  rcases List.mem_cons.mp hb with rfl | hb
  · exact (Bool.or_self _).symm.trans (htotal b b)
  · exact (List.pairwise_cons.mp hl).1 b hb

include htotal in
theorem mem_iff_of_filter_tied {l l' : List α}
    (h : ∀ a, l.filter (tied le a) = l'.filter (tied le a)) (a : α) : a ∈ l ↔ a ∈ l' := by
  have hfilter : a ∈ l.filter (tied le a) ↔ a ∈ l'.filter (tied le a) := by rw [h a]
  simpa [tied_refl htotal a] using hfilter

include htotal in
/-- Lists in order are equal if equal elements stand in them in the same order. -/
theorem eq_of_filter_tied {l l' : List α} (hl : l.Pairwise fun a b => le a b = true)
    (hl' : l'.Pairwise fun a b => le a b = true)
    (h : ∀ a, l.filter (tied le a) = l'.filter (tied le a)) : l = l' := by
  have hmem := mem_iff_of_filter_tied htotal h
  induction l generalizing l' with
  | nil =>
    refine (List.eq_nil_iff_forall_not_mem.mpr fun a ha => ?_).symm
    exact List.not_mem_nil ((hmem a).mpr ha)
  | cons a l ih =>
    cases l' with
    | nil => exact absurd ((hmem a).mp List.mem_cons_self) List.not_mem_nil
    | cons b l' =>
      have hab : tied le a b = true := by
        have hle := le_of_mem_cons htotal hl ((hmem b).mpr List.mem_cons_self)
        have hge := le_of_mem_cons htotal hl' ((hmem a).mp List.mem_cons_self)
        rw [tied, hle, hge, Bool.and_self]
      -- both heads are the first of the elements that are tied with `a`
      have hheads := h a
      rw [List.filter_cons_of_pos (tied_refl htotal a), List.filter_cons_of_pos hab] at hheads
      obtain ⟨rfl, -⟩ := List.cons.inj hheads
      have htails : ∀ c, l.filter (tied le c) = l'.filter (tied le c) := by
        intro c
        have hc := h c
        rw [List.filter_cons, List.filter_cons] at hc
        split at hc
        · exact (List.cons.inj hc).2
        · exact hc
      rw [ih (List.pairwise_cons.mp hl).2 (List.pairwise_cons.mp hl').2 htails
        (mem_iff_of_filter_tied htotal htails)]

include htrans htotal in
/-- Of elements that are tied, a merge takes those of the first list first. -/
theorem filter_merge {l : List α} (hl : l.Pairwise fun a b => le a b = true) (l' : List α)
    (a : α) :
    (l.merge l' le).filter (tied le a) = l.filter (tied le a) ++ l'.filter (tied le a) := by
  induction l generalizing l' with
  | nil => simp
  | cons b l ih =>
    induction l' with
    | nil => simp
    | cons c l' ih' =>
      by_cases hbc : le b c = true
      · have hrest := ih (List.pairwise_cons.mp hl).2 (c :: l')
        rw [List.cons_merge_cons_pos _ _ _ hbc, List.filter_cons, List.filter_cons (x := b),
          hrest]
        split <;> rfl
      · rw [List.cons_merge_cons_neg _ _ _ hbc, List.filter_cons, List.filter_cons (x := c),
          ih']
        by_cases hc : tied le a c = true
        · -- what is tied with `c` comes before `b`, and so before all of the first list
          have hnone : (b :: l).filter (tied le a) = [] := by
            rw [List.filter_eq_nil_iff]
            intro d hd htied
            have hbd := le_of_mem_cons htotal hl hd
            exact hbc (htrans b d c hbd (le_of_tied htrans htied hc))
          rw [if_pos hc, if_pos hc, hnone]
          rfl
        · rw [if_neg hc, if_neg hc]

include htrans htotal in
/-- Sorting two lists is sorting each of them and merging the results. -/
theorem mergeSort_append (l l' : List α) :
    (l ++ l').mergeSort le = (l.mergeSort le).merge (l'.mergeSort le) le := by
  have hl := List.pairwise_mergeSort htrans htotal l
  have hl' := List.pairwise_mergeSort htrans htotal l'
  refine eq_of_filter_tied htotal (List.pairwise_mergeSort htrans htotal (l ++ l'))
    (List.pairwise_merge htrans htotal _ _ hl hl') fun a => ?_
  have hsame : ∀ b c, tied le a b = true → tied le a c = true → le b c = true :=
    fun b c => le_of_tied htrans
  rw [filter_merge htrans htotal hl, filter_mergeSort htrans htotal hsame,
    filter_mergeSort htrans htotal hsame, filter_mergeSort htrans htotal hsame,
      List.filter_append]

include htrans htotal in
/-- Sorting leaves out what is left out before. -/
theorem mergeSort_filter (p : α → Bool) (l : List α) :
    (l.filter p).mergeSort le = (l.mergeSort le).filter p := by
  refine eq_of_filter_tied htotal (List.pairwise_mergeSort htrans htotal _)
    ((List.pairwise_mergeSort htrans htotal l).filter p) fun a => ?_
  have hsame : ∀ b c, tied le a b = true → tied le a c = true → le b c = true :=
    fun b c => le_of_tied htrans
  have hswap :
      ∀ l : List α, (l.filter p).filter (tied le a) = (l.filter (tied le a)).filter p := by
    intro l
    simp only [List.filter_filter, Bool.and_comm]
  rw [filter_mergeSort htrans htotal hsame, hswap, hswap, filter_mergeSort htrans htotal hsame]

end Order

/-! ## Parts of a list by place -/

section Places

variable {α : Type}

/-- What stands at place `k`, of a list whose places are counted from `first` on. -/
theorem map_fst_filter_zipIdx_eq (l : List α) (first k : Nat) :
    ((l.zipIdx first).filter fun (_, i) => i = first + k).map Prod.fst = l[k]?.toList := by
  induction l generalizing first k with
  | nil => simp
  | cons a l ih =>
    cases k with
    | zero =>
      have hnone : (l.zipIdx (first + 1)).filter (fun (_, i) => i = first) = [] := by
        rw [List.filter_eq_nil_iff]
        intro pair hpair
        have := List.le_snd_of_mem_zipIdx hpair
        simp
        omega
      simp [hnone]
    | succ k =>
      have hrest := ih (first + 1) k
      rw [Nat.add_right_comm, Nat.add_assoc first] at hrest
      simpa using hrest

/-- All but what stands at place `k`. -/
theorem map_fst_filter_zipIdx_ne (l : List α) (first k : Nat) :
    ((l.zipIdx first).filter fun (_, i) => i ≠ first + k).map Prod.fst = l.eraseIdx k := by
  induction l generalizing first k with
  | nil => simp
  | cons a l ih =>
    cases k with
    | zero =>
      have hall : (l.zipIdx (first + 1)).filter (fun (_, i) => i ≠ first) =
          l.zipIdx (first + 1) := by
        rw [List.filter_eq_self]
        intro pair hpair
        have := List.le_snd_of_mem_zipIdx hpair
        simp
        omega
      simp only [List.zipIdx_cons, List.eraseIdx_cons_zero]
      rw [List.filter_cons_of_neg (by simp), Nat.add_zero, hall, List.zipIdx_map_fst]
    | succ k =>
      have hrest := ih (first + 1) k
      rw [Nat.add_right_comm, Nat.add_assoc first] at hrest
      simpa using hrest

end Places

/-! ## Events with their places -/

/-- An event with the track, and the token of the track's melody, that it comes from. -/
structure PlacedEvent where
  track : Nat
  token : Nat
  event : SoundEvent

/-- The order of the timeline. -/
def PlacedEvent.startsBefore (a b : PlacedEvent) : Bool := a.event.startsBefore b.event

theorem PlacedEvent.startsBefore_trans (a b c : PlacedEvent) (hab : a.startsBefore b = true)
    (hbc : b.startsBefore c = true) : a.startsBefore c = true :=
  SoundEvent.startsBefore_trans a.event b.event c.event hab hbc

theorem PlacedEvent.startsBefore_total (a b : PlacedEvent) :
    (a.startsBefore b || b.startsBefore a) = true :=
  SoundEvent.startsBefore_total a.event b.event

/-- The events of the track at place `i` with their places. -/
def Track.placedEvents (track : Track) (globals : Settings) (options : PlayerOptions)
    (i : Nat) : List PlacedEvent :=
  (track.events globals options).zipIdx.map fun (event, k) => ⟨i, k, event⟩

@[simp] theorem Track.map_event_placedEvents (track : Track) (globals : Settings)
    (options : PlayerOptions) (i : Nat) :
    (track.placedEvents globals options i).map PlacedEvent.event =
      track.events globals options := by
  rw [placedEvents, List.map_map]
  exact List.zipIdx_map_fst 0 _

theorem Track.track_of_mem_placedEvents {track : Track} {globals : Settings}
    {options : PlayerOptions} {i : Nat} {placed : PlacedEvent}
    (h : placed ∈ track.placedEvents globals options i) : placed.track = i := by
  obtain ⟨pair, -, rfl⟩ := List.mem_map.mp h
  rfl

/-- To select tracks is to take all events of a track or none. -/
theorem Track.filter_track_placedEvents (track : Track) (globals : Settings)
    (options : PlayerOptions) (i : Nat) (p : Nat → Bool) :
    (track.placedEvents globals options i).filter (fun placed => p placed.track) =
      if p i then track.placedEvents globals options i else [] := by
  split
  · next hp =>
    rw [List.filter_eq_self]
    intro placed hplaced
    rw [Track.track_of_mem_placedEvents hplaced, hp]
  · next hp =>
    rw [List.filter_eq_nil_iff]
    intro placed hplaced
    rwa [Track.track_of_mem_placedEvents hplaced]

namespace Script

/-- The events of all tracks with their places, track after track. -/
def placedEvents (script : Script) (options : PlayerOptions) : List PlacedEvent :=
  script.tracks.zipIdx.flatMap fun (track, i) => track.placedEvents script.globals options i

/-- The timeline with the places that its events come from. -/
def placedTimeline (script : Script) (options : PlayerOptions) : List PlacedEvent :=
  (script.placedEvents options).mergeSort PlacedEvent.startsBefore

/-- The script with the tracks at some places only. -/
def restrict (script : Script) (p : Nat → Bool) : Script :=
  { script with tracks := (script.tracks.zipIdx.filter fun (_, i) => p i).map Prod.fst }

/-- The events from some tracks are those of the script with these tracks only. -/
theorem map_event_filter_placedEvents (script : Script) (options : PlayerOptions)
    (p : Nat → Bool) :
    ((script.placedEvents options).filter fun placed => p placed.track).map PlacedEvent.event =
      (script.restrict p).trackEvents options := by
  rw [placedEvents, trackEvents, restrict]
  induction script.tracks.zipIdx with
  | nil => rfl
  | cons pair rest ih =>
    obtain ⟨track, i⟩ := pair
    rw [List.flatMap_cons, List.filter_append, List.map_append, ih,
      Track.filter_track_placedEvents]
    cases hp : p i <;> simp [hp]

/-- Places do not change the order. -/
theorem map_event_mergeSort (events : List PlacedEvent) :
    (events.mergeSort PlacedEvent.startsBefore).map PlacedEvent.event =
      (events.map PlacedEvent.event).mergeSort SoundEvent.startsBefore :=
  List.map_mergeSort fun _ _ _ _ => rfl

/-- The part of the timeline that comes from some tracks is the timeline of
these tracks alone. -/
theorem map_event_filter_placedTimeline (script : Script) (options : PlayerOptions)
    (p : Nat → Bool) :
    ((script.placedTimeline options).filter fun placed => p placed.track).map
        PlacedEvent.event = (script.restrict p).timeline options := by
  rw [placedTimeline, ← mergeSort_filter PlacedEvent.startsBefore_trans
    PlacedEvent.startsBefore_total, map_event_mergeSort, map_event_filter_placedEvents]
  rfl

/-- Without its places the placed timeline is the timeline. -/
theorem map_event_placedTimeline (script : Script) (options : PlayerOptions) :
    (script.placedTimeline options).map PlacedEvent.event = script.timeline options := by
  have hall := map_event_filter_placedTimeline script options fun _ => true
  have hrestrict : script.restrict (fun _ => true) = script := by
    rw [restrict, List.filter_eq_self.mpr fun _ _ => rfl, List.zipIdx_map_fst]
  rwa [List.filter_eq_self.mpr fun _ _ => rfl, hrestrict] at hall

/-- **Tracks are independent.**  The timeline of some tracks and others is the merge of both
timelines in the order of the bit patterns of starts, and of events with the same start those
of the first tracks come first.  To take a track away is to take its events out of the
timeline: what is left is the timeline of the other tracks, and what is taken out is the
timeline of the track alone. -/
theorem timeline_append_tracks (globals : Settings) (tracks others : List Track)
    (options : PlayerOptions) :
    timeline { globals, tracks := tracks ++ others } options =
      (timeline { globals, tracks } options).merge
        (timeline { globals, tracks := others } options)
        (fun a b => Binary64.bitPlace a.start.toBits ≤ Binary64.bitPlace b.start.toBits) ∧
    ∀ script : Script,
      (script.placedTimeline options).map PlacedEvent.event = script.timeline options ∧
      ∀ k,
        ((script.placedTimeline options).filter (·.track ≠ k)).map PlacedEvent.event =
          timeline { script with tracks := script.tracks.eraseIdx k } options ∧
        ((script.placedTimeline options).filter (·.track = k)).map PlacedEvent.event =
          timeline { script with tracks := script.tracks[k]?.toList } options := by
  constructor
  · have horder : (fun a b : SoundEvent =>
        decide (Binary64.bitPlace a.start.toBits ≤ Binary64.bitPlace b.start.toBits)) =
        SoundEvent.startsBefore := by
      funext a b
      rw [Bool.eq_iff_iff, decide_eq_true_iff, SoundEvent.startsBefore_iff]
    rw [horder, timeline, List.flatMap_append,
      mergeSort_append SoundEvent.startsBefore_trans SoundEvent.startsBefore_total]
    rfl
  · intro script
    refine ⟨script.map_event_placedTimeline options, fun k => ⟨?_, ?_⟩⟩
    · have hothers := map_fst_filter_zipIdx_ne script.tracks 0 k
      rw [Nat.zero_add] at hothers
      have hfilter := map_event_filter_placedTimeline script options fun i => i ≠ k
      rwa [restrict, hothers] at hfilter
    · have htrack := map_fst_filter_zipIdx_eq script.tracks 0 k
      rw [Nat.zero_add] at htrack
      have hfilter := map_event_filter_placedTimeline script options fun i => i = k
      rwa [restrict, htrack] at hfilter

end Script

end BuzzerScript
