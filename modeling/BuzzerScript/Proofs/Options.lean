import BuzzerScript.PlayerOptions
import BuzzerScript.Proofs.NumericOrder
import BuzzerScript.Proofs.Settings

/-!
# Player options

Options are checked before they are used.  The check brings the volume into its range and
changes nothing else, so to check options again changes nothing.
-/

namespace BuzzerScript

namespace PlayerOptions

/-- Options that hold: a finite positive tempo, and a volume between zero and one. -/
structure InRange (options : PlayerOptions) : Prop where
  tempo : Settings.isTempo options.tempo
  volume : Binary64.le 0 options.volume ∧ options.volume.le 1

variable {options validated : PlayerOptions}

theorem validated_eq_ok_iff :
    options.validated = .ok validated ↔
      Settings.isTempo options.tempo ∧ options.volume.isFinite ∧
        { options with volume := options.volume.clampUnit } = validated := by
  rw [PlayerOptions.validated]
  by_cases htempo : Settings.isTempo options.tempo
  · by_cases hvolume : options.volume.isFinite
    · simp [htempo, hvolume]
    · simp [htempo, hvolume]
  · simp [htempo]

/-- Options are checked, but their tempo is left as it is. -/
theorem tempo_of_validated (h : options.validated = .ok validated) :
    validated.tempo = options.tempo ∧ Settings.isTempo options.tempo := by
  obtain ⟨htempo, -, rfl⟩ := validated_eq_ok_iff.mp h
  exact ⟨rfl, htempo⟩

/-- Options that have passed the check hold. -/
theorem inRange_of_validated (h : options.validated = .ok validated) : validated.InRange := by
  obtain ⟨htempo, hvolume, rfl⟩ := validated_eq_ok_iff.mp h
  have hnan : options.volume.isNaN = false := by
    cases hcase : options.volume with
    | nan negative => simp [hcase, Binary64.isFinite] at hvolume
    | finite negative code => rfl
    | infinite negative => rfl
  exact ⟨htempo, Binary64.clampUnit_bounds hnan⟩

/-- Options that hold pass the check as they are. -/
theorem validated_of_inRange (h : options.InRange) : options.validated = .ok options := by
  obtain ⟨hlow, hhigh⟩ := h.volume
  have hfinite : options.volume.isFinite := by
    obtain ⟨c, hvolume⟩ | hvolume | hvolume := Binary64.nonneg_cases hlow
    · rw [hvolume]
      rfl
    · rw [hvolume]
      rfl
    · rw [hvolume] at hhigh
      exact absurd hhigh (by decide +kernel)
  refine validated_eq_ok_iff.mpr ⟨h.tempo, hfinite, ?_⟩
  rw [Binary64.clampUnit_of_bounds hlow hhigh]

/-- The defaults hold. -/
theorem inRange_default : ({} : PlayerOptions).InRange :=
  ⟨by decide +kernel, by decide +kernel, by decide +kernel⟩

/-- To check options again changes nothing. -/
theorem validated_validated (h : options.validated = .ok validated) :
    validated.validated = .ok validated :=
  validated_of_inRange (inRange_of_validated h)

end PlayerOptions

namespace Settings

theorem orElse_assoc (s t u : Settings) : (s.orElse t).orElse u = s.orElse (t.orElse u) := by
  simp [orElse_eq, Option.or_assoc]

/-- Gaps are filled from the fallback before the options. -/
theorem resolve_orElse (s fallback : Settings) (options : PlayerOptions) :
    (s.orElse fallback).resolve options = s.resolve (fallback.resolve options) := by
  simp [resolve, orElse_eq, Option.getD_or]

end Settings

end BuzzerScript
