import BuzzerScript.Proofs.SumOrder
import BuzzerScript.Proofs.Timeline.Merge
import BuzzerScript.Proofs.Timeline.Times

/-!
# A track is never reordered against itself

The clock of a track only moves on, and rounding keeps the order of times.  So the events of a
track are in order before they are sorted, and a stable sort leaves them in the order of the
melody.  If the offset of the track is NaN, then all of its events start at the same NaN.
-/

namespace BuzzerScript

namespace Track

/-- **A melody is played in order.**  From a time on that is a magnitude, no event starts
before that time, and none before an earlier one. -/
theorem eventsFrom_ordered {voice : PlayerOptions} {offset : Binary64}
    (hoffset : offset = Binary64.invalid ∨ Binary64.le 0 offset) {elapsed : Binary64}
    (helapsed : elapsed.IsMagnitude) {tokens : List MelodyToken}
    (hseconds : ∀ token ∈ tokens, Binary64.lt 0 (token.seconds (beatSeconds voice.tempo))) :
    (eventsFrom voice offset elapsed tokens).Pairwise (fun a b => a.startsBefore b = true) ∧
      ∀ event ∈ eventsFrom voice offset elapsed tokens,
        (offset + elapsed).totalLe event.start := by
  induction tokens generalizing elapsed with
  | nil => exact ⟨.nil, by simp [eventsFrom]⟩
  | cons token tokens ih =>
    have hduration := Binary64.isMagnitude_of_pos (hseconds token List.mem_cons_self)
    have hnext := helapsed.add hduration
    obtain ⟨hordered, hlater⟩ :=
      ih hnext fun t ht => hseconds t (List.mem_cons_of_mem token ht)
    have hstep : (offset + elapsed).totalLe
        (offset + (elapsed + token.seconds (beatSeconds voice.tempo))) := by
      rcases hoffset with rfl | hoffset
      · exact Binary64.totalLe_refl _
      · exact Binary64.add_totalLe_add hoffset helapsed hnext
          (Binary64.totalLe_add helapsed hduration)
    have hfirst : ∀ event ∈ eventsFrom voice offset
        (elapsed + token.seconds (beatSeconds voice.tempo)) tokens,
        (offset + elapsed).totalLe event.start := by
      intro event hevent
      exact Binary64.totalLe_trans _ _ _ hstep (hlater event hevent)
    rw [eventsFrom_cons]
    refine ⟨List.pairwise_cons.mpr ⟨hfirst, hordered⟩, ?_⟩
    intro event hevent
    rcases List.mem_cons.mp hevent with rfl | hevent
    · exact Binary64.totalLe_refl _
    · exact hfirst event hevent

variable {track : Track} {globals : Settings} {options : PlayerOptions}

/-- The events of a track are in order. -/
theorem InRange.events_ordered (htrack : track.InRange)
    (htempo : Settings.isTempo (track.voice globals options).tempo) :
    (track.events globals options).Pairwise fun a b => a.startsBefore b = true := by
  obtain ⟨huntimed, htimed⟩ := htrack.offset_cases htempo
  have hoffset : track.delayBeats * beatSeconds (track.voice globals options).tempo =
      Binary64.invalid ∨
      Binary64.le 0 (track.delayBeats * beatSeconds (track.voice globals options).tempo) := by
    by_cases hcase : track.Untimed globals options
    · exact .inl (huntimed hcase)
    · exact .inr (htimed hcase)
  have hzero : (0 : Binary64).IsMagnitude := .inl ⟨_, Binary64.zero_eq⟩
  rw [events, resolve_orElse]
  exact (eventsFrom_ordered hoffset hzero (htrack.seconds_pos htempo)).1

/-- Places do not change the order of a track's events. -/
theorem placedEvents_ordered (i : Nat)
    (h : (track.events globals options).Pairwise fun a b => a.startsBefore b = true) :
    (track.placedEvents globals options i).Pairwise fun a b => a.startsBefore b = true := by
  rw [← map_event_placedEvents track globals options i, List.pairwise_map] at h
  exact h

/-- A melody has an event for each of its tokens. -/
theorem length_eventsFrom (voice : PlayerOptions) (offset elapsed : Binary64)
    (tokens : List MelodyToken) :
    (eventsFrom voice offset elapsed tokens).length = tokens.length := by
  induction tokens generalizing elapsed with
  | nil => rfl
  | cons token tokens ih => rw [eventsFrom_cons, List.length_cons, ih, List.length_cons]

/-- The events of a track come from its tokens, one after another. -/
theorem map_token_placedEvents (track : Track) (globals : Settings) (options : PlayerOptions)
    (i : Nat) :
    (track.placedEvents globals options i).map PlacedEvent.token =
      List.range track.tokens.length := by
  rw [placedEvents, List.map_map, List.range_eq_range', events, ← length_eventsFrom]
  exact List.zipIdx_map_snd 0 _

/-- An event with its place is the event of the token at this place. -/
theorem exists_token_of_mem_placedEvents {i : Nat} {placed : PlacedEvent}
    (h : placed ∈ track.placedEvents globals options i) :
    ∃ token, track.tokens[placed.token]? = some token ∧
      placed.event = token.event (track.voice globals options) placed.event.start := by
  obtain ⟨⟨event, k⟩, hpair, rfl⟩ := List.mem_map.mp h
  have hevent := List.mk_mem_zipIdx_iff_getElem?.mp hpair
  rw [events_getElem?, Option.map_eq_some_iff] at hevent
  obtain ⟨token, htoken, rfl⟩ := hevent
  exact ⟨token, htoken, rfl⟩

end Track

namespace Script

/-- Of the placed events those of one track are the events of this track. -/
theorem filter_placedEvents (globals : Settings) (options : PlayerOptions)
    (tracks : List Track) (first : Nat) {k : Nat} {track : Track}
    (h : tracks[k]? = some track) :
    ((tracks.zipIdx first).flatMap fun (track, i) =>
        track.placedEvents globals options i).filter (·.track = first + k) =
      track.placedEvents globals options (first + k) := by
  induction tracks generalizing first k with
  | nil => simp at h
  | cons head tracks ih =>
    have hhead := head.filter_track_placedEvents globals options first (· = first + k)
    rw [List.zipIdx_cons, List.flatMap_cons, List.filter_append, hhead]
    cases k with
    | zero =>
      obtain rfl : head = track := by simpa using h
      -- the places of the other tracks are greater
      have hothers : ((tracks.zipIdx (first + 1)).flatMap fun (track, i) =>
          track.placedEvents globals options i).filter (·.track = first + 0) = [] := by
        rw [List.filter_eq_nil_iff]
        intro placed hplaced
        obtain ⟨pair, hpair, hmem⟩ := List.mem_flatMap.mp hplaced
        have hplace := List.le_snd_of_mem_zipIdx hpair
        rw [Track.track_of_mem_placedEvents hmem, decide_eq_true_iff]
        omega
      rw [hothers, List.append_nil]
      simp
    | succ k =>
      have hplace : first + (k + 1) = first + 1 + k := by omega
      rw [if_neg (by simp), List.nil_append, hplace]
      exact ih (first + 1) h

/-- Of a timeline the events of one track are those of the track, in the order of its
melody. -/
theorem filter_placedTimeline {script : Script} {options : PlayerOptions} {i : Nat}
    {track : Track}
    (htrack : script.tracks[i]? = some track)
    (hordered : (track.events script.globals options).Pairwise fun a b =>
      a.startsBefore b = true) :
    (script.placedTimeline options).filter (·.track = i) =
      track.placedEvents script.globals options i := by
  have hevents := filter_placedEvents script.globals options script.tracks 0 htrack
  rw [Nat.zero_add] at hevents
  rw [placedTimeline, ← mergeSort_filter PlacedEvent.startsBefore_trans
    PlacedEvent.startsBefore_total, placedEvents, hevents]
  exact List.mergeSort_of_pairwise (Track.placedEvents_ordered i hordered)

/-- **A track is never reordered against itself.**  The events of each track of a script are
in the order of the bit patterns of their starts before they are sorted.  In the timeline
the events of each track are all its events, one for each token of its melody and in the
order of the melody. -/
theorem timeline_keeps_tracks {tokens : List LocatedToken} {script : Script}
    {options validated : PlayerOptions} (hscript : ofTokens tokens = .ok script)
    (hoptions : options.validated = .ok validated) :
    (∀ track ∈ script.tracks, (track.events script.globals options).Pairwise fun a b =>
      Binary64.bitPlace a.start.toBits ≤ Binary64.bitPlace b.start.toBits) ∧
    (script.placedTimeline options).map PlacedEvent.event = script.timeline options ∧
    ∀ i track, script.tracks[i]? = some track →
      ((script.placedTimeline options).filter (·.track = i)).map PlacedEvent.event =
        track.events script.globals options ∧
      ((script.placedTimeline options).filter (·.track = i)).map PlacedEvent.token =
        List.range track.tokens.length ∧
      ∀ placed ∈ (script.placedTimeline options).filter (·.track = i),
        ∃ token, track.tokens[placed.token]? = some token ∧
          placed.event = token.event (track.voice script.globals options)
            placed.event.start := by
  have hrange := inRange_of_ofTokens hscript
  obtain ⟨-, htempo⟩ := PlayerOptions.tempo_of_validated hoptions
  have hordered : ∀ track ∈ script.tracks,
      (track.events script.globals options).Pairwise fun a b => a.startsBefore b = true :=
    fun track htrack => (hrange.tracks track htrack).events_ordered
      ((hrange.tracks track htrack).isTempo_voice hrange.globals.tempo htempo)
  refine ⟨?_, script.map_event_placedTimeline options, ?_⟩
  · intro track htrack
    exact (hordered track htrack).imp fun {a b} h => (SoundEvent.startsBefore_iff a b).mp h
  · intro i track htrack
    rw [filter_placedTimeline htrack (hordered track (List.mem_of_getElem? htrack))]
    refine ⟨track.map_event_placedEvents script.globals options i,
      track.map_token_placedEvents script.globals options i, fun placed hplaced => ?_⟩
    exact Track.exists_token_of_mem_placedEvents hplaced

/-- A rest with a tempo of its own and two rests without one. -/
def restTokens : List LocatedToken :=
  [.track, .identifier "tempo", .equal, .number 60, .newline, .note "R", .number 4, .newline,
    .track, .newline, .note "R", .number 4, .note "R", .number 8].map
    fun token => ⟨token, ⟨1, 1⟩⟩

/-- With a tempo of `10 ^ (-307)` in the options the second track starts at NaN, and its rests
stay in their order. -/
theorem timeline_keeps_tracks_untimed :
    ∃ (script : Script) (options : PlayerOptions) (track : Track),
      ofTokens restTokens = .ok script ∧ options.validated = .ok options ∧
      script.tracks[1]? = some track ∧ track.Untimed script.globals options ∧
      ((script.placedTimeline options).filter (·.track = 1)).map PlacedEvent.event =
        track.events script.globals options ∧
      ((script.placedTimeline options).filter (·.track = 1)).map PlacedEvent.token =
        [0, 1] := by
  let options : PlayerOptions := { tempo := (⟨1, -307⟩ : Decimal).nearest false }
  let track : Track := { name := "unnamed_1", tokens := [⟨.rest, 4⟩, ⟨.rest, 8⟩] }
  let script : Script :=
    { tracks := [
        { name := "unnamed_0", settings := { tempo := some 60 }, tokens := [⟨.rest, 4⟩] },
        track] }
  have hread : ofTokens restTokens = .ok script := by decide +kernel
  have hoptions : options.validated = .ok options := by decide +kernel
  have huntimed : track.Untimed script.globals options := by
    constructor <;> decide +kernel
  obtain ⟨-, -, htracks⟩ := timeline_keeps_tracks hread hoptions
  obtain ⟨hevents, hplaces, -⟩ := htracks 1 track rfl
  exact ⟨script, options, track, hread, hoptions, rfl, huntimed, hevents, hplaces⟩

end Script

end BuzzerScript
