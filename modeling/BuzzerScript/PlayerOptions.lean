import BuzzerScript.Error
import BuzzerScript.Settings

/-!
# Player options

The settings that hold where neither a track nor the script has one of its own.
-/

namespace BuzzerScript

/-- A value for every setting. -/
structure PlayerOptions where
  /-- Beats per minute. -/
  tempo : Binary64 := 120
  waveform : Waveform := .square
  /-- The gain. -/
  volume : Binary64 := (⟨2, -1⟩ : Decimal).nearest false
  deriving DecidableEq

/-- Options with a finite positive tempo and a volume brought into `[0, 1]`.  The tempo is
looked at first; a volume that is infinite or NaN is refused. -/
def PlayerOptions.validated (options : PlayerOptions) : Except OptionsFault PlayerOptions :=
  if ¬ Settings.isTempo options.tempo then .error (.tempoNotPositive options.tempo)
  else if ¬ options.volume.isFinite then .error (.volumeNotFinite options.volume)
  else .ok { options with volume := options.volume.clampUnit }

/-- Fill the gaps of settings from options. -/
def Settings.resolve (s : Settings) (defaults : PlayerOptions) : PlayerOptions where
  tempo := s.tempo.getD defaults.tempo
  waveform := s.waveform.getD defaults.waveform
  volume := s.volume.getD defaults.volume

/-- The options that the text of an options file holds.  What the text says is found out by
`read`; the rest have their default, and the result is checked. -/
def PlayerOptions.ofText (read : String → Except String Settings) (text : String) :
    Except OptionsFault PlayerOptions :=
  match read text with
  | .ok settings => (settings.resolve {}).validated
  | .error reason => .error (.unreadable reason)

end BuzzerScript
