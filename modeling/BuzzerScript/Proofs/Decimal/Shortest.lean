import BuzzerScript.Decimal.Shortest
import BuzzerScript.Proofs.Halving

/-!
# Shortest decimals read back

A decimal is rounded by its value alone: the exponents that are answered at once are rounded to
the same double, and zeros that are moved between the coefficient and the power of ten change
nothing. So the decimal that the search hits upon still stands for its magnitude when its
trailing zeros are gone, and where the search finds none, all the digits of the magnitude do.
-/

namespace BuzzerScript

namespace Binary64

variable {num den num' den' : Nat}

/-- Fractions of the same value have the same nearest code. -/
theorem nearestCode_eq_of_mul_eq (hden : 0 < den) (hden' : 0 < den')
    (h : num * den' = num' * den) : nearestCode num den = nearestCode num' den' :=
  calc nearestCode num den = nearestCode (num * den') (den * den') :=
        (nearestCode_mul_right hden' num den).symm
    _ = nearestCode (num' * den) (den' * den) := by rw [h, Nat.mul_comm den]
    _ = nearestCode num' den' := nearestCode_mul_right hden num' den'

/-- Less than half a unit is rounded to zero. -/
theorem nearestCode_eq_zero (h : 2 * num < den) : nearestCode num den = 0 := by
  have hquot : num / den = 0 := Nat.div_eq_of_lt (by omega)
  have hrest : num % den = num := Nat.mod_eq_of_lt (by omega)
  rw [nearestCode_of_small (by omega), divNearestEven_of_div_mod hquot hrest, if_pos h]

end Binary64

namespace Decimal

open Binary64

/-- The numerator of a decimal in units. -/
def numerator (d : Decimal) : Nat := d.coefficient * tenPow d.exponent.toNat * unitsInOne

/-- The denominator of a decimal. -/
def denominator (d : Decimal) : Nat := tenPow (-d.exponent).toNat

/-- The code nearest to a decimal; that of an infinity is not below `finiteMagnitudes`. -/
def code (d : Decimal) : Nat := nearestCode d.numerator d.denominator

variable {d : Decimal} {c : Nat}

theorem tenPow_pos (n : Nat) : 0 < tenPow n := Nat.pow_pos (by decide)

theorem tenPow_zero : tenPow 0 = 1 := rfl

theorem tenPow_add (m n : Nat) : tenPow (m + n) = tenPow m * tenPow n := Nat.pow_add 10 m n

theorem tenPow_le_tenPow {m n : Nat} (h : m ≤ n) : tenPow m ≤ tenPow n :=
  Nat.pow_le_pow_right (by decide) h

theorem denominator_pos (d : Decimal) : 0 < d.denominator := tenPow_pos _

theorem denominator_of_nonneg (h : 0 ≤ d.exponent) : d.denominator = 1 := by
  rw [denominator, Int.toNat_of_nonpos (by omega), tenPow_zero]

theorem numerator_of_nonpos (h : d.exponent ≤ 0) :
    d.numerator = d.coefficient * unitsInOne := by
  rw [numerator, Int.toNat_of_nonpos h, tenPow_zero, Nat.mul_one]

/-! ## The nearest double -/

theorem code_of_coefficient_eq_zero (h : d.coefficient = 0) : d.code = 0 := by
  refine nearestCode_eq_zero ?_
  rw [numerator, h, Nat.zero_mul, Nat.zero_mul]
  exact d.denominator_pos

/-- From `10 ^ 401` on everything is rounded to infinity. -/
theorem le_code_of_large (hcoefficient : d.coefficient ≠ 0) (h : 400 < d.exponent) :
    finiteMagnitudes ≤ d.code := by
  refine le_nearestCode d.denominator_pos ?_
  have hlimit : units finiteMagnitudes ≤ tenPow 401 * unitsInOne := by decide +kernel
  rw [denominator_of_nonneg (by omega), Nat.mul_one, numerator]
  refine hlimit.trans (Nat.mul_le_mul_right _ ?_)
  calc tenPow 401 ≤ tenPow d.exponent.toNat := tenPow_le_tenPow (by omega)
    _ ≤ d.coefficient * tenPow d.exponent.toNat :=
        Nat.le_mul_of_pos_left _ (Nat.pos_of_ne_zero hcoefficient)

/-- Numbers below `10 ^ (-400)` are rounded to zero. -/
theorem code_of_small (h : d.exponent + d.coefficient.log2 < -400) : d.code = 0 := by
  refine nearestCode_eq_zero ?_
  obtain ⟨places, hplaces⟩ :
    ∃ places, (-d.exponent).toNat = d.coefficient.log2 + 401 + places :=
    Nat.exists_eq_add_of_le (by omega)
  have hlimit : 4 * unitsInOne < tenPow 401 := by decide +kernel
  rw [numerator_of_nonpos (by omega), denominator, hplaces]
  calc 2 * (d.coefficient * unitsInOne)
      ≤ 2 * (2 ^ (d.coefficient.log2 + 1) * unitsInOne) :=
        Nat.mul_le_mul_left _ (Nat.mul_le_mul_right _ Nat.lt_log2_self.le)
    _ = 2 ^ d.coefficient.log2 * (4 * unitsInOne) := by
        rw [Nat.pow_succ, Nat.mul_assoc, Nat.mul_left_comm 2, ← Nat.mul_assoc 2 2]
    _ < 2 ^ d.coefficient.log2 * tenPow 401 :=
        Nat.mul_lt_mul_of_pos_left hlimit (Nat.two_pow_pos _)
    _ ≤ tenPow d.coefficient.log2 * tenPow 401 :=
        Nat.mul_le_mul_right _ (Nat.pow_le_pow_left (by decide) _)
    _ ≤ tenPow (d.coefficient.log2 + 401 + places) := by
        rw [← tenPow_add]
        exact tenPow_le_tenPow (Nat.le_add_right _ _)

theorem ofUnits_eq_finite_iff_code {negative : Bool} {c : Fin finiteMagnitudes} :
    ofUnits negative d.numerator d.denominator = .finite negative c ↔ d.code = c :=
  ofUnits_eq_finite_iff

/-- The exponents that are answered at once are rounded like all others. -/
theorem nearest_eq (negative : Bool) (d : Decimal) :
    d.nearest negative = ofUnits negative d.numerator d.denominator := by
  unfold nearest
  split_ifs with hcoefficient hlarge hsmall
  · exact (ofUnits_eq_finite_iff_code.mpr (code_of_coefficient_eq_zero hcoefficient)).symm
  · have hcode := Nat.not_lt.mpr (le_code_of_large hcoefficient hlarge)
    rw [code] at hcode
    rw [ofUnits, dif_neg hcode]
  · exact (ofUnits_eq_finite_iff_code.mpr (code_of_small hsmall)).symm
  · cases hexponent : d.exponent with
    | ofNat e =>
      have hplaces : d.exponent.toNat = e := by rw [hexponent]; rfl
      rw [denominator_of_nonneg (by rw [hexponent]; exact Int.natCast_nonneg e), numerator,
        hplaces]
    | negSucc e =>
      have hplaces : (-d.exponent).toNat = e + 1 := by rw [hexponent]; rfl
      rw [numerator_of_nonpos (by rw [hexponent]; exact (Int.negSucc_lt_zero e).le),
        denominator, hplaces]

theorem nearest_eq_finite_iff {negative : Bool} {c : Fin finiteMagnitudes} :
    d.nearest negative = .finite negative c ↔ d.code = c := by
  rw [nearest_eq, ofUnits_eq_finite_iff_code]

/-! ## Trailing zeros -/

/-- The decimal with `k` zeros moved from its power of ten to the end of its coefficient. -/
def extend (d : Decimal) (k : Nat) : Decimal := ⟨d.coefficient * tenPow k, d.exponent - k⟩

theorem code_extend (d : Decimal) (k : Nat) : (d.extend k).code = d.code := by
  refine nearestCode_eq_of_mul_eq (denominator_pos _) d.denominator_pos ?_
  have hplaces : tenPow k * tenPow (d.exponent - k).toNat * tenPow (-d.exponent).toNat =
      tenPow d.exponent.toNat * tenPow (-(d.exponent - k)).toNat := by
    rw [← tenPow_add, ← tenPow_add, ← tenPow_add]
    congr 1
    omega
  simp only [numerator, denominator, extend]
  generalize unitsInOne = unit
  calc d.coefficient * tenPow k * tenPow (d.exponent - k).toNat * unit *
      tenPow (-d.exponent).toNat
      = d.coefficient * unit *
          (tenPow k * tenPow (d.exponent - k).toNat * tenPow (-d.exponent).toNat) := by ac_rfl
    _ = d.coefficient * tenPow d.exponent.toNat * unit * tenPow (-(d.exponent - k)).toNat := by
        rw [hplaces]
        ac_rfl

theorem code_trim (d : Decimal) : d.trim.code = d.code := by
  induction d using trim.induct with
  | case1 d hzero ih =>
    have hlast : (⟨d.coefficient / 10, d.exponent + 1⟩ : Decimal).extend 1 = d := by
      have hcoefficient : d.coefficient / 10 * tenPow 1 = d.coefficient :=
        Nat.div_mul_cancel (Nat.dvd_of_mod_eq_zero hzero.2)
      simp only [extend, hcoefficient, Int.natCast_one, Int.add_sub_cancel]
    rw [trim, dif_pos hzero, ih, ← code_extend _ 1, hlast]
  | case2 d hdone => rw [trim, dif_neg hdone]

/-! ## The search -/

theorem ReadsAs.code_eq (h : d.ReadsAs c) : d.code = c := by
  rw [ReadsAs, nearest_eq, ofUnits] at h
  by_cases hfinite : nearestCode d.numerator d.denominator < finiteMagnitudes
  · rw [dif_pos hfinite] at h
    exact h
  · rw [dif_neg hfinite] at h
    exact h.elim

/-- Whichever decimal of a grid is taken, it has been tested. -/
theorem readsAs_of_onGrid? {tie : Tie} {n : Nat} (h : onGrid? tie c n = some d) :
    d.ReadsAs c := by
  unfold onGrid? at h
  dsimp only at h
  split_ifs at h with hboth hnearer hbelow habove
  · exact Option.some.inj h ▸ hboth.2
  · exact Option.some.inj h ▸ hboth.1
  · exact Option.some.inj h ▸ hbelow
  · exact Option.some.inj h ▸ habove

theorem code_expansion (c : Nat) : (expansion c).code = c := by
  have hplaces : Nat.pow 5 1074 * unitsInOne = tenPow 1074 := by decide +kernel
  have hnumerator : (expansion c).numerator = units c * tenPow 1074 := by
    rw [numerator_of_nonpos (by decide : (-1074 : Int) ≤ 0), ← hplaces, expansion,
      Nat.mul_assoc]
  refine (nearestCode_eq_of_mul_eq (denominator_pos _) Nat.one_pos ?_).trans
    (nearestCode_units c)
  rw [Nat.mul_one, hnumerator]
  rfl

/-- The decimal that is written for a magnitude stands for it. -/
theorem code_shortest (tie : Tie) (c : Nat) : (shortest tie c).code = c := by
  rw [shortest, code_trim]
  cases hfound : (List.range 17).findSome? fun i => onGrid? tie c (i + 1) with
  | none => exact code_expansion c
  | some d =>
    obtain ⟨i, -, hgrid⟩ := List.exists_of_findSome?_eq_some hfound
    exact (readsAs_of_onGrid? hgrid).code_eq

end Decimal

end BuzzerScript
