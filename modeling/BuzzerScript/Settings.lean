import BuzzerScript.Binary64
import BuzzerScript.Waveform

/-!
# Settings

Tempo, waveform and volume as a script may set them, for all tracks or for a single one.

## Main definitions

* `Settings`: each setting, or nothing where it is inherited.
* `Settings.orElse`: settings with the gaps filled from others.
* `Settings.apply`: a setting read from a script, if its value can be used.
-/

namespace BuzzerScript

/-- Settings of a script or of a track; `none` means that the setting is inherited. -/
structure Settings where
  /-- Beats per minute. -/
  tempo : Option Binary64 := none
  waveform : Option Waveform := none
  /-- The gain, between 0 and 1. -/
  volume : Option Binary64 := none
  deriving DecidableEq

/-- The right-hand side of `key = value`. -/
inductive SettingValue where
  | number (value : Binary64)
  | word (text : String)
  deriving DecidableEq

namespace Settings

/-- Fill unset fields from `fallback`. -/
def orElse (s fallback : Settings) : Settings where
  tempo := s.tempo <|> fallback.tempo
  waveform := s.waveform <|> fallback.waveform
  volume := s.volume <|> fallback.volume

/-- Whether a number can be a tempo: finite and positive. -/
def isTempo (x : Binary64) : Bool := x.isFinite && Binary64.lt 0 x

/-- Take over a setting.  A tempo has to be finite and positive, a volume is brought into
`[0, 1]` unless it is NaN, and a waveform has to be known by its name; anything else, an
unknown key included, leaves the settings as they are. -/
def apply (s : Settings) (key : String) (value : SettingValue) : Settings :=
  match value with
  | .number x =>
    if key = "tempo" ∧ isTempo x then { s with tempo := some x }
    else if key = "volume" ∧ ¬ x.isNaN then { s with volume := some x.clampUnit }
    else s
  | .word text =>
    if key = "waveform" then
      match Waveform.ofName? text with
      | some w => { s with waveform := some w }
      | none => s
    else s

end Settings

end BuzzerScript
