import BuzzerScript.Proofs.Timeline.Merge

/-!
# Timetables

When something is played does not depend on what is played.  The times of a timeline follow
from the delay, the tempo and the denominators of each track: rests take their time as notes
do, and the sort looks at nothing but the times of starts.
-/

namespace BuzzerScript

/-- What the times of a track depend on. -/
structure Rhythm where
  delayBeats : Binary64
  /-- The tempo that the track is played in, wherever it is set. -/
  tempo : Binary64
  denominators : List Nat
  deriving DecidableEq

/-- The rhythm of a track.  Its tempo is its own, else that of the script, else that of the
options. -/
def Track.rhythm (track : Track) (globals : Settings) (options : PlayerOptions) : Rhythm where
  delayBeats := track.delayBeats
  tempo := (track.settings.tempo.or globals.tempo).getD options.tempo
  denominators := track.tokens.map MelodyToken.denominator

/-- When an event starts, and how long it lasts. -/
def SoundEvent.times (event : SoundEvent) : Binary64 × Binary64 :=
  (event.start, event.duration)

/-- The token at a place of a track's melody, with the time when it is played. -/
structure Slot where
  track : Nat
  token : Nat
  start : Binary64
  duration : Binary64

/-- The slot of an event. -/
def PlacedEvent.slot (placed : PlacedEvent) : Slot where
  track := placed.track
  token := placed.token
  start := placed.event.start
  duration := placed.event.duration

/-- The order of the timeline. -/
def Slot.startsBefore (a b : Slot) : Bool := a.start.totalLe b.start

/-! ## The times of a track -/

/-- The starts and durations of tokens with the given denominators. -/
def timesFrom (beat offset elapsed : Binary64) : List Nat → List (Binary64 × Binary64)
  | [] => []
  | denominator :: rest =>
    let duration := 4 / Binary64.ofNat denominator * beat
    (offset + elapsed, duration) :: timesFrom beat offset (elapsed + duration) rest

/-- The slots of the track at place `i`. -/
def Rhythm.slots (rhythm : Rhythm) (i : Nat) : List Slot :=
  let beat := Track.beatSeconds rhythm.tempo
  (timesFrom beat (rhythm.delayBeats * beat) 0 rhythm.denominators).zipIdx.map
    fun ((start, duration), k) => ⟨i, k, start, duration⟩

namespace Track

/-- A rest takes its time as a note does. -/
theorem map_times_eventsFrom (voice : PlayerOptions) (offset elapsed : Binary64)
    (tokens : List MelodyToken) :
    (eventsFrom voice offset elapsed tokens).map SoundEvent.times =
      timesFrom (beatSeconds voice.tempo) offset elapsed
        (tokens.map MelodyToken.denominator) := by
  induction tokens generalizing elapsed with
  | nil => rfl
  | cons token tokens ih =>
    rw [eventsFrom_cons, List.map_cons, List.map_cons, ih]
    rfl

theorem map_times_events (track : Track) (globals : Settings) (options : PlayerOptions) :
    (track.events globals options).map SoundEvent.times =
      timesFrom (beatSeconds (track.rhythm globals options).tempo)
        (track.delayBeats * beatSeconds (track.rhythm globals options).tempo) 0
        (track.rhythm globals options).denominators := by
  rw [events, resolve_orElse, map_times_eventsFrom]
  rfl

/-- The slots of a track follow from its rhythm. -/
theorem map_slot_placedEvents (track : Track) (globals : Settings) (options : PlayerOptions)
    (i : Nat) :
    (track.placedEvents globals options i).map PlacedEvent.slot =
      (track.rhythm globals options).slots i := by
  have htimes := track.map_times_events globals options
  rw [placedEvents, Rhythm.slots, List.map_map]
  change _ = (timesFrom _ (track.delayBeats * _) 0 _).zipIdx.map _
  rw [← htimes, List.zipIdx_map, List.map_map]
  rfl

end Track

/-! ## The timeline -/

/-- The slots of tracks with the given rhythms, in the order of the timeline. -/
def timetable (rhythms : List Rhythm) : List Slot :=
  (rhythms.zipIdx.flatMap fun (rhythm, i) => rhythm.slots i).mergeSort Slot.startsBefore

namespace Script

/-- A timeline has its times from the rhythms of the tracks. -/
theorem map_slot_placedTimeline (script : Script) (options : PlayerOptions) :
    (script.placedTimeline options).map PlacedEvent.slot =
      timetable (script.tracks.map fun track => track.rhythm script.globals options) := by
  have hsort : (script.placedTimeline options).map PlacedEvent.slot =
      ((script.placedEvents options).map PlacedEvent.slot).mergeSort Slot.startsBefore :=
    List.map_mergeSort fun _ _ _ _ => rfl
  rw [hsort, timetable, placedEvents, List.map_flatMap, List.zipIdx_map, List.flatMap_map]
  simp only [Track.map_slot_placedEvents]
  rfl

/-- Each event of a timeline is the one of the token at its place. -/
theorem event_of_mem_placedTimeline {script : Script} {options : PlayerOptions}
    {placed : PlacedEvent} (h : placed ∈ script.placedTimeline options) :
    ∃ track, script.tracks[placed.track]? = some track ∧
      (track.events script.globals options)[placed.token]? = some placed.event := by
  rw [placedTimeline, List.mem_mergeSort, placedEvents, List.mem_flatMap] at h
  obtain ⟨⟨track, i⟩, htrack, hplaced⟩ := h
  obtain ⟨⟨event, k⟩, hevent, rfl⟩ := List.mem_map.mp hplaced
  exact ⟨track, List.mk_mem_zipIdx_iff_getElem?.mp htrack,
    List.mk_mem_zipIdx_iff_getElem?.mp hevent⟩

/-- **What is played does not affect when it is played.**  If the tracks of two scripts have
the same rhythms one by one, both timelines have the same starts and durations at each place,
and the events there are those of the same token of the same track. -/
theorem timeline_timing {script other : Script} {options otherOptions : PlayerOptions}
    (h : script.tracks.map (fun track => track.rhythm script.globals options) =
      other.tracks.map fun track => track.rhythm other.globals otherOptions) :
    (script.timeline options).length = (other.timeline otherOptions).length ∧
    (script.timeline options).map SoundEvent.times =
      (other.timeline otherOptions).map SoundEvent.times ∧
    (script.placedTimeline options).map PlacedEvent.slot =
      (other.placedTimeline otherOptions).map PlacedEvent.slot ∧
    ∀ (played : Script) (player : PlayerOptions),
      (played.placedTimeline player).map PlacedEvent.event = played.timeline player ∧
      ∀ placed ∈ played.placedTimeline player, ∃ track,
        played.tracks[placed.track]? = some track ∧
          (track.events played.globals player)[placed.token]? = some placed.event := by
  have hslots : (script.placedTimeline options).map PlacedEvent.slot =
      (other.placedTimeline otherOptions).map PlacedEvent.slot := by
    rw [map_slot_placedTimeline, map_slot_placedTimeline, h]
  have htimes : ∀ (played : Script) (player : PlayerOptions),
      (played.timeline player).map SoundEvent.times =
        ((played.placedTimeline player).map PlacedEvent.slot).map
          fun slot => (slot.start, slot.duration) := by
    intro played player
    rw [← map_event_placedTimeline, List.map_map, List.map_map]
    rfl
  have hsame : (script.timeline options).map SoundEvent.times =
      (other.timeline otherOptions).map SoundEvent.times := by
    rw [htimes, htimes, hslots]
  refine ⟨by simpa using congrArg List.length hsame, hsame, hslots, ?_⟩
  intro played player
  exact ⟨played.map_event_placedTimeline player, fun _ => event_of_mem_placedTimeline⟩

/-- Two tracks whose first events start at once. -/
def duet : Script where
  tracks :=
    [{ name := "lead", tokens := [⟨.note ⟨.c, none, 4⟩, 4⟩, ⟨.rest, 8⟩] },
      { name := "bass", tokens := [⟨.rest, 2⟩] }]

/-- The same rhythms, with notes and rests exchanged and other names, waveforms and volumes. -/
def duetExchanged : Script where
  globals := { volume := some 0 }
  tracks :=
    [{ name := "drums"
       settings := { waveform := some .sine }
       tokens := [⟨.rest, 4⟩, ⟨.note ⟨.g, some .sharp, 2⟩, 8⟩] },
      { name := "", tokens := [⟨.note ⟨.a, none, 1⟩, 2⟩] }]

theorem timeline_timing_duet :
    duet.tracks.map (fun track => track.rhythm duet.globals {}) =
      duetExchanged.tracks.map (fun track => track.rhythm duetExchanged.globals {}) ∧
    duet.tracks ≠ duetExchanged.tracks ∧
    (duet.timeline {}).map SoundEvent.times =
      (duetExchanged.timeline {}).map SoundEvent.times := by
  have hrhythm : duet.tracks.map (fun track => track.rhythm duet.globals {}) =
      duetExchanged.tracks.map (fun track => track.rhythm duetExchanged.globals {}) := rfl
  exact ⟨hrhythm, by decide, (timeline_timing hrhythm).2.1⟩

end Script

end BuzzerScript
