import BuzzerScript.Proofs.NumericOrder
import BuzzerScript.Proofs.Script.Meaning

/-!
# Ranges in a script

What is read into a script is in its range: tempos are finite and positive, volumes are between
zero and one, delays are finite and not negative, a track has a melody, durations are parts of
a whole note, and octaves have one digit.  No value of a number token, an infinity or NaN
included, leads out of these ranges, since each setting that is taken over is checked or
brought into its range.
-/

namespace BuzzerScript

/-! ## Settings -/

namespace Settings

/-- Settings that can be used: a tempo is finite and positive, and a volume is between zero and
one. -/
structure InRange (settings : Settings) : Prop where
  tempo : ∀ tempo, settings.tempo = some tempo → isTempo tempo
  volume : ∀ volume, settings.volume = some volume → Binary64.le 0 volume ∧ volume.le 1

theorem isTempo_of_acceptedTempo? {pair : String × SettingValue} {tempo : Binary64}
    (h : acceptedTempo? pair = some tempo) : isTempo tempo := by
  obtain ⟨key, value | word⟩ := pair
  · rw [acceptedTempo?_number] at h
    split_ifs at h with hkey
    obtain rfl := Option.some.inj h
    exact hkey.2
  · simp at h

theorem volume_of_acceptedVolume? {pair : String × SettingValue} {volume : Binary64}
    (h : acceptedVolume? pair = some volume) : Binary64.le 0 volume ∧ volume.le 1 := by
  obtain ⟨key, value | word⟩ := pair
  · rw [acceptedVolume?_number] at h
    split_ifs at h with hkey
    obtain rfl := Option.some.inj h
    exact Binary64.clampUnit_bounds (Bool.eq_false_iff.mpr hkey.2)
  · simp at h

/-- One more setting that is read, whatever its value. -/
theorem InRange.apply {settings : Settings} (h : settings.InRange) (key : String)
    (value : SettingValue) : (settings.apply key value).InRange := by
  rw [apply_eq]
  constructor
  · intro tempo htempo
    rcases Option.or_eq_some_iff.mp htempo with haccepted | ⟨-, hset⟩
    · exact isTempo_of_acceptedTempo? haccepted
    · exact h.tempo tempo hset
  · intro volume hvolume
    rcases Option.or_eq_some_iff.mp hvolume with haccepted | ⟨-, hset⟩
    · exact volume_of_acceptedVolume? haccepted
    · exact h.volume volume hset

/-- All settings that are read, from the first to the last. -/
theorem inRange_lastAccepted (pairs : List (String × SettingValue)) :
    (lastAccepted pairs).InRange := by
  induction pairs using List.reverseRecOn with
  | nil => constructor <;> simp
  | append_singleton pairs pair ih =>
    rw [lastAccepted_append_singleton]
    exact ih.apply pair.1 pair.2

end Settings

/-! ## Melodies -/

/-- A melody token that can be written: a whole note or a part of one, in an
octave of one digit. -/
structure MelodyToken.InRange (token : MelodyToken) : Prop where
  denominator : 1 ≤ token.denominator ∧ token.denominator ≤ Script.maxDenominator
  octave : ∀ pitch, token.sound = .note pitch → pitch.octave ≤ 9

/-- A note symbol has an octave of one digit, or sounds in the octave of the reference
pitch. -/
theorem NoteSymbol.octave_le {symbol : NoteSymbol} {pitch : Pitch}
    (h : symbol.sound = .note pitch) : pitch.octave ≤ 9 := by
  cases symbol with
  | rest => cases h
  | note letter accidental octave =>
    obtain rfl := Sound.note.inj h
    have hreference : Pitch.referenceOctave ≤ 9 := by decide
    cases octave with
    | none => exact hreference
    | some digit => exact Nat.le_of_lt_succ digit.isLt

namespace Script

theorem denominator?_bounds {value : Binary64} {n : Nat} (h : denominator? value = some n) :
    1 ≤ n ∧ n ≤ maxDenominator := by
  rw [denominator?] at h
  split at h
  · split_ifs at h with hrange
    obtain rfl := Option.some.inj h
    exact hrange
  · cases h

theorem inRange_of_mem_lineMelody {line : Line} {token : MelodyToken}
    (h : token ∈ lineMelody line) : token.InRange := by
  obtain ⟨⟨text, value⟩, -, htoken⟩ := List.mem_filterMap.mp h
  obtain ⟨symbol, -, hsymbol⟩ := Option.bind_eq_some_iff.mp htoken
  obtain ⟨n, hn, hpure⟩ := Option.bind_eq_some_iff.mp hsymbol
  obtain rfl := Option.some.inj hpure
  exact ⟨denominator?_bounds hn, fun _ hsound => NoteSymbol.octave_le hsound⟩

end Script

/-! ## Tracks -/

/-- What is read of a track: a delay from zero on, settings of its own that can be used, and a
melody. -/
structure Track.InRange (track : Track) : Prop where
  delay_finite : track.delayBeats.isFinite
  delay_nonneg : Binary64.le 0 track.delayBeats
  settings : track.settings.InRange
  tokens_ne_nil : track.tokens ≠ []
  tokens : ∀ token ∈ track.tokens, token.InRange

theorem Track.delay_of_acceptedDelay? {pair : String × SettingValue} {delay : Binary64}
    (h : acceptedDelay? pair = some delay) : delay.isFinite ∧ Binary64.le 0 delay := by
  obtain ⟨key, value | word⟩ := pair
  · rw [acceptedDelay?_number] at h
    split_ifs at h with hkey
    obtain rfl := Option.some.inj h
    exact hkey.2
  · simp at h

namespace Script

/-- A delay is finite and not negative. -/
theorem Block.delay_track (block : Block) (trackCount : Nat) :
    (block.track trackCount).delayBeats.isFinite ∧
      Binary64.le 0 (block.track trackCount).delayBeats := by
  have hdelay : (block.track trackCount).delayBeats =
      (block.options.filterMap Track.acceptedDelay?).getLast?.getD 0 := rfl
  rw [hdelay]
  cases hlast : (block.options.filterMap Track.acceptedDelay?).getLast? with
  | none => decide
  | some delay =>
    obtain ⟨pair, -, hpair⟩ := List.mem_filterMap.mp (List.mem_of_getLast? hlast)
    exact Track.delay_of_acceptedDelay? hpair

theorem Block.track_inRange {block : Block} (h : block.melody ≠ []) (trackCount : Nat) :
    (block.track trackCount).InRange where
  delay_finite := (block.delay_track trackCount).1
  delay_nonneg := (block.delay_track trackCount).2
  settings := Settings.inRange_lastAccepted block.options
  tokens_ne_nil := h
  tokens := fun token htoken => by
    obtain ⟨line, -, hline⟩ := List.mem_flatMap.mp htoken
    exact inRange_of_mem_lineMelody hline

/-- Tracks come from blocks that have a melody. -/
theorem exists_block_of_mem_tracksFrom {trackCount : Nat} {blocks : List Block} {track : Track}
    (h : track ∈ tracksFrom trackCount blocks) :
    ∃ block ∈ blocks, ∃ k, block.melody ≠ [] ∧ track = block.track k := by
  induction blocks generalizing trackCount with
  | nil => cases h
  | cons block rest ih =>
    rw [tracksFrom] at h
    split_ifs at h with hmelody
    · obtain ⟨other, hother, hrest⟩ := ih h
      exact ⟨other, List.mem_cons_of_mem _ hother, hrest⟩
    · rcases List.mem_cons.mp h with rfl | h
      · exact ⟨block, List.mem_cons_self, trackCount, hmelody, rfl⟩
      · obtain ⟨other, hother, hrest⟩ := ih h
        exact ⟨other, List.mem_cons_of_mem _ hother, hrest⟩

/-! ## Scripts -/

/-- What is read of a script. -/
structure InRange (script : Script) : Prop where
  globals : script.globals.InRange
  tracks : ∀ track ∈ script.tracks, track.InRange

/-- Every script that is read is in range. -/
theorem inRange_of_ofTokens {tokens : List LocatedToken} {script : Script}
    (h : ofTokens tokens = .ok script) : script.InRange := by
  obtain ⟨-, rfl⟩ := free_of_ofTokens h
  refine ⟨Settings.inRange_lastAccepted _, fun track htrack => ?_⟩
  obtain ⟨block, -, k, hmelody, rfl⟩ := exists_block_of_mem_tracksFrom htrack
  exact block.track_inRange hmelody k

theorem inRange_of_ofString {source : String} {script : Script}
    (h : ofString source = .ok script) : script.InRange := by
  obtain ⟨tokens, -, htokens⟩ := ofString_eq_ok_iff.mp h
  exact inRange_of_ofTokens htokens

end Script

end BuzzerScript
