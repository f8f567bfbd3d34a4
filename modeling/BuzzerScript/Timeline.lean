import BuzzerScript.PlayerOptions
import BuzzerScript.Script

/-!
# Timelines

The timeline of a script is the list of its sound events with absolute times, in order of their
start.  Each track runs on its own clock; the tracks are put together by a stable sort, so that
simultaneous events keep the order of their tracks.

Rests are events as well: they are seen by tools, and left out of what is played.

## Main definitions

* `Track.events`: the events of a single track, in the order of its melody.
* `Script.timeline`: the events of all tracks, in order of their start.
* `audible`: the events that are no rests.
* `endSeconds`: when the last event ends.
-/

namespace BuzzerScript

/-- A sound or a silence with its time in seconds. -/
structure SoundEvent where
  start : Binary64
  duration : Binary64
  /-- The frequency in Hz; a rest has none. -/
  frequency : Option Binary64
  waveform : Waveform
  volume : Binary64
  deriving DecidableEq

namespace SoundEvent

/-- Whether an event is silent. -/
def isRest (event : SoundEvent) : Bool := event.frequency.isNone

/-- When an event stops. -/
def finish (event : SoundEvent) : Binary64 := event.start + event.duration

/-- Whether an event may stand before another one: the total order of starts, which also places
NaN. -/
def startsBefore (a b : SoundEvent) : Bool := a.start.totalLe b.start

end SoundEvent

/-- The frequency of a sound; a rest has none. -/
def Sound.frequency? : Sound → Option Binary64
  | .rest => none
  | .note pitch => some pitch.frequency

namespace Track

/-- The length of a beat in seconds. -/
def beatSeconds (tempo : Binary64) : Binary64 := 60 / tempo

/-- The events of a melody.  Each starts where the durations before it add up to, which is
`elapsed` for the first one, after the `offset` of the track. -/
def eventsFrom (voice : PlayerOptions) (offset elapsed : Binary64) :
    List MelodyToken → List SoundEvent
  | [] => []
  | token :: rest =>
    let duration := token.beats * beatSeconds voice.tempo
    { start := offset + elapsed
      duration
      frequency := token.sound.frequency?
      waveform := voice.waveform
      volume := voice.volume } :: eventsFrom voice offset (elapsed + duration) rest

/-- The events of a track in the order of its melody. -/
def events (track : Track) (globals : Settings) (options : PlayerOptions) : List SoundEvent :=
  let voice := (track.settings.orElse globals).resolve options
  eventsFrom voice (track.delayBeats * beatSeconds voice.tempo) 0 track.tokens

end Track

/-- The events of all tracks in order of their start; simultaneous events keep the order of
tracks, and within a track the order of its melody. -/
def Script.timeline (script : Script) (options : PlayerOptions) : List SoundEvent :=
  (script.tracks.flatMap fun track => track.events script.globals options).mergeSort
    SoundEvent.startsBefore

/-- The events that are no rests. -/
def audible (events : List SoundEvent) : List SoundEvent :=
  events.filter fun event => !event.isRest

/-- When the last event ends, zero if there is none.  An end that is NaN does not count. -/
def endSeconds (events : List SoundEvent) : Binary64 :=
  events.foldl (fun latest event => latest.max event.finish) 0

end BuzzerScript
