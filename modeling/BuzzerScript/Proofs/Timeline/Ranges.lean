import BuzzerScript.Proofs.Timeline.Times

/-!
# Ranges in a timeline

What an event is played with comes from its track, from the script or from the options.  What
is read into a script is in its range, and options are checked before anything is compiled,
so an event has a volume between zero and one and the times of a finite positive tempo,
wherever they come from.
-/

namespace BuzzerScript

/-- What a track is played with is in range, whichever of the track, the script and the
options it comes from. -/
theorem Track.InRange.voice {track : Track} {globals : Settings} {options : PlayerOptions}
    (htrack : track.InRange) (hglobals : globals.InRange) (hoptions : options.InRange) :
    (track.voice globals options).InRange := by
  constructor
  · exact htrack.isTempo_voice hglobals.tempo hoptions.tempo
  · rw [Track.voice]
    cases hown : track.settings.volume with
    | some volume => exact htrack.settings.volume volume hown
    | none =>
      cases hglobal : globals.volume with
      | some volume => exact hglobals.volume volume hglobal
      | none => exact hoptions.volume

/-- **Ranges.**  A script that is read from any tokens is in range, whatever numbers they have.
So an event that is compiled has a volume between zero and one, and it has the times of a
finite positive tempo: that of its track, else that of the script, else that of the options. -/
theorem compileWith_inRange :
    (∀ tokens script, Script.ofTokens tokens = .ok script → script.InRange) ∧
    ∀ options source events,
      (compileWith options source = .ok events ∨ compileAudible options source = .ok events) →
      ∃ script, Script.ofString source = .ok script ∧
        ∀ event ∈ events,
          (Binary64.le 0 event.volume ∧ event.volume.le 1) ∧
          ∃ track ∈ script.tracks, ∃ (k : Nat) (token : MelodyToken) (tempo : Binary64),
            track.tokens[k]? = some token ∧
            tempo = (track.settings.tempo.or script.globals.tempo).getD options.tempo ∧
            (tempo.isFinite ∧ Binary64.lt 0 tempo) ∧
            event.duration = 4 / Binary64.ofNat token.denominator * (60 / tempo) ∧
            event.start =
              track.delayBeats * (60 / tempo) + clock (60 / tempo) 0 track.tokens k := by
  constructor
  · intro tokens script h
    exact Script.inRange_of_ofTokens h
  · intro options source events h
    -- whichever of the two is run, its events are events of the timeline
    obtain ⟨all, hall, hmem⟩ : ∃ all, compileWith options source = .ok all ∧
        ∀ event ∈ events, event ∈ all := by
      rcases h with h | h
      · exact ⟨events, h, fun _ hevent => hevent⟩
      · obtain ⟨all, hall, rfl⟩ := compileAudible_eq_ok_iff.mp h
        exact ⟨all, hall, fun _ hevent => (List.mem_filter.mp hevent).1⟩
    obtain ⟨validated, script, hvalidated, hofString, rfl⟩ := compileWith_eq_ok_iff.mp hall
    have htempo := (PlayerOptions.tempo_of_validated hvalidated).1
    have hoptions := PlayerOptions.inRange_of_validated hvalidated
    have hscript := Script.inRange_of_ofString hofString
    refine ⟨script, hofString, fun event hevent => ?_⟩
    obtain ⟨track, htrack, hown⟩ :=
      (script.mem_timeline_iff validated event).mp (hmem event hevent)
    obtain ⟨k, token, htoken, rfl⟩ := Track.exists_token_of_mem_events hown
    have hvoice := (hscript.tracks track htrack).voice hscript.globals hoptions
    refine ⟨hvoice.volume, track, htrack, k, token, _, htoken, ?_, ?_, rfl, rfl⟩
    · rw [Track.voice, htempo]
    · have hpositive := hvoice.tempo
      rwa [Settings.isTempo, Bool.and_eq_true] at hpositive

/-- Tokens that no text has: an infinite tempo, a volume of minus infinity and a delay that is
NaN, before a note. -/
def wildTokens : List LocatedToken :=
  [⟨.identifier "tempo", ⟨1, 1⟩⟩, ⟨.equal, ⟨1, 7⟩⟩, ⟨.number (.infinite false), ⟨1, 9⟩⟩,
    ⟨.newline, ⟨1, 12⟩⟩, ⟨.identifier "volume", ⟨2, 1⟩⟩, ⟨.equal, ⟨2, 8⟩⟩,
    ⟨.number (.infinite true), ⟨2, 10⟩⟩, ⟨.newline, ⟨2, 14⟩⟩, ⟨.track, ⟨3, 1⟩⟩,
    ⟨.identifier "delay", ⟨3, 3⟩⟩, ⟨.equal, ⟨3, 9⟩⟩,
    ⟨.number (.nan (.canonical false)), ⟨3, 11⟩⟩, ⟨.newline, ⟨3, 14⟩⟩,
    ⟨.note "C", ⟨4, 1⟩⟩, ⟨.number 4, ⟨4, 3⟩⟩]

/-- Of these values only the volume is taken over, as zero.  A volume of seven in the options
is one in the events. -/
theorem inRange_wildTokens :
    (∃ script, Script.ofTokens wildTokens = .ok script ∧
      script.globals = { volume := some 0 } ∧ script.tracks.length = 1 ∧ script.InRange) ∧
    ∃ event, compileWith { volume := 7 } "R 4" = .ok [event] ∧
      event.volume = 1 ∧ Binary64.le 0 event.volume ∧ event.volume.le 1 := by
  constructor
  · let script : Script :=
      { globals := { volume := some 0 }
        tracks := [{ name := "unnamed_0", tokens := [⟨.note ⟨.c, none, 4⟩, 4⟩] }] }
    have hread : Script.ofTokens wildTokens = .ok script := by decide +kernel
    exact ⟨script, hread, rfl, rfl, compileWith_inRange.1 _ _ hread⟩
  · let script : Script := { tracks := [{ name := "main", tokens := [⟨.rest, 4⟩] }] }
    let event : SoundEvent :=
      { start := 0, duration := (⟨5, -1⟩ : Decimal).nearest false, frequency := none
        waveform := .square, volume := 1 }
    have hoptions : ({ volume := 7 } : PlayerOptions).validated = .ok { volume := 1 } := by
      decide +kernel
    have hofString : Script.ofString "R 4" = .ok script := by decide +kernel
    have htimeline : script.timeline { volume := 1 } = [event] := by decide +kernel
    have hevents := compileWith_eq_ok_iff.mpr ⟨_, _, hoptions, hofString, htimeline⟩
    obtain ⟨_, -, hrange⟩ := compileWith_inRange.2 _ _ _ (.inl hevents)
    exact ⟨event, hevents, rfl, (hrange event List.mem_cons_self).1⟩

end BuzzerScript
