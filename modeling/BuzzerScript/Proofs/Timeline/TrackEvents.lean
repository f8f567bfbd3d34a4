import BuzzerScript.Proofs.Settings
import BuzzerScript.Timeline

/-!
# The events of a track

A track plays its melody on one clock.  The clock starts at zero, each token moves it on by its
duration, and an event starts where the clock stands, after the delay of the track.
-/

namespace BuzzerScript

/-- The duration of a token at `beat` seconds for a beat. -/
def MelodyToken.seconds (beat : Binary64) (token : MelodyToken) : Binary64 :=
  token.beats * beat

/-- The event of a token that starts at a given time. -/
def MelodyToken.event (voice : PlayerOptions) (token : MelodyToken) (start : Binary64) :
    SoundEvent where
  start := start
  duration := token.seconds (Track.beatSeconds voice.tempo)
  frequency := token.sound.frequency?
  waveform := voice.waveform
  volume := voice.volume

/-- Where the clock stands before the token at place `k`. -/
def clock (beat elapsed : Binary64) (tokens : List MelodyToken) (k : Nat) : Binary64 :=
  (tokens.take k).foldl (fun time token => time + token.seconds beat) elapsed

@[simp] theorem clock_zero (beat elapsed : Binary64) (tokens : List MelodyToken) :
    clock beat elapsed tokens 0 = elapsed := by
  simp [clock]

@[simp] theorem clock_cons_succ (beat elapsed : Binary64) (token : MelodyToken)
    (tokens : List MelodyToken) (k : Nat) :
    clock beat elapsed (token :: tokens) (k + 1) =
      clock beat (elapsed + token.seconds beat) tokens k := rfl

/-- Each token moves the clock on by its duration. -/
theorem clock_succ {beat elapsed : Binary64} {tokens : List MelodyToken} {k : Nat}
    {token : MelodyToken} (h : tokens[k]? = some token) :
    clock beat elapsed tokens (k + 1) = clock beat elapsed tokens k + token.seconds beat := by
  rw [clock, List.take_add_one, h, List.foldl_append]
  rfl

namespace Track

theorem eventsFrom_cons (voice : PlayerOptions) (offset elapsed : Binary64)
    (token : MelodyToken) (tokens : List MelodyToken) :
    eventsFrom voice offset elapsed (token :: tokens) =
      token.event voice (offset + elapsed) ::
        eventsFrom voice offset (elapsed + token.seconds (beatSeconds voice.tempo)) tokens :=
  rfl

/-- The events of a melody one by one: each starts where the clock stands. -/
theorem eventsFrom_getElem? (voice : PlayerOptions) (offset elapsed : Binary64)
    (tokens : List MelodyToken) (k : Nat) :
    (eventsFrom voice offset elapsed tokens)[k]? = tokens[k]?.map fun token =>
      token.event voice (offset + clock (beatSeconds voice.tempo) elapsed tokens k) := by
  induction tokens generalizing elapsed k with
  | nil => rfl
  | cons token tokens ih =>
    rw [eventsFrom_cons]
    cases k with
    | zero => simp
    | succ k =>
      rw [List.getElem?_cons_succ, List.getElem?_cons_succ, clock_cons_succ]
      exact ih _ k

/-- What a track is played with: each setting is its own, else that of the script, else
that of the options. -/
def voice (track : Track) (globals : Settings) (options : PlayerOptions) : PlayerOptions where
  tempo := (track.settings.tempo.or globals.tempo).getD options.tempo
  waveform := (track.settings.waveform.or globals.waveform).getD options.waveform
  volume := (track.settings.volume.or globals.volume).getD options.volume

theorem resolve_orElse (track : Track) (globals : Settings) (options : PlayerOptions) :
    (track.settings.orElse globals).resolve options = track.voice globals options := by
  rw [Settings.orElse_eq]
  rfl

theorem events_getElem? (track : Track) (globals : Settings) (options : PlayerOptions)
    (k : Nat) :
    (track.events globals options)[k]? = track.tokens[k]?.map fun token =>
      token.event (track.voice globals options)
        (track.delayBeats * beatSeconds (track.voice globals options).tempo +
          clock (beatSeconds (track.voice globals options).tempo) 0 track.tokens k) := by
  rw [events, resolve_orElse, eventsFrom_getElem?]

/-- An event of a track is the event of one of its tokens. -/
theorem exists_token_of_mem_events {track : Track} {globals : Settings}
    {options : PlayerOptions} {event : SoundEvent} (h : event ∈ track.events globals options) :
    ∃ (k : Nat) (token : MelodyToken), track.tokens[k]? = some token ∧
      event = token.event (track.voice globals options)
        (track.delayBeats * beatSeconds (track.voice globals options).tempo +
          clock (beatSeconds (track.voice globals options).tempo) 0 track.tokens k) := by
  obtain ⟨k, hk⟩ := List.mem_iff_getElem?.mp h
  rw [events_getElem?, Option.map_eq_some_iff] at hk
  obtain ⟨token, htoken, rfl⟩ := hk
  exact ⟨k, token, htoken, rfl⟩

end Track

end BuzzerScript
