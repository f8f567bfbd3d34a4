import BuzzerScript.Binary64
import Mathlib.Algebra.Order.Ring.Nat

/-!
# Rounding to nearest

A magnitude code spells a spacing and at most 53 binary digits, and codes are in the order of
their magnitudes.  Rounding to the nearest code never passes a magnitude: an exact value that
is at least, or at most, the magnitude of a code is rounded to at least, or at most, that code.

## Main statements

* `Binary64.units_strictMono`: codes are ordered as their magnitudes.
* `Binary64.le_nearestCode`, `Binary64.nearestCode_le`: rounding passes no magnitude.
* `Binary64.nearestCode_mono`: rounding keeps the order.
* `Binary64.nearestCode_units`: a magnitude is rounded to itself.
-/

namespace BuzzerScript.Binary64

/-! ## Codes and their magnitudes -/

/-- A carry out of 53 digits doubles the spacing. -/
theorem carry_eq (d : Nat) : 2 ^ 52 * 2 ^ (d + 1) = 2 ^ 53 * 2 ^ d := by
  have hdouble : 2 ^ (d + 1) = 2 ^ d * 2 := Nat.pow_succ 2 d
  omega

/-- The magnitude that a spacing and digits spell.  Where a carry has made `2 ^ 53` of the
digits, the code is the first one of the next spacing. -/
theorem units_add {d digits : Nat} (hdigits : digits ≤ 2 ^ 53)
    (hlead : d = 0 ∨ 2 ^ 52 ≤ digits) : units ((d <<< 52) + digits) = digits * 2 ^ d := by
  rw [units, spacing, Nat.shiftLeft_eq, Nat.shiftLeft_eq, Nat.shiftLeft_eq,
    Nat.shiftRight_eq_div_pow]
  by_cases hcarry : digits = 2 ^ 53
  · have hspacing : (d * 2 ^ 52 + digits) / 2 ^ 52 - 1 = d + 1 := by omega
    have hdigits : d * 2 ^ 52 + digits - (d + 1) * 2 ^ 52 = 2 ^ 52 := by omega
    rw [hspacing, hdigits, hcarry, carry_eq]
  · have hspacing : (d * 2 ^ 52 + digits) / 2 ^ 52 - 1 = d := by omega
    rw [hspacing, Nat.add_sub_cancel_left]

/-- The digits of a code: less than `2 ^ 53`, and at least `2 ^ 52` unless the spacing is one
unit. -/
theorem exists_digits (c : Nat) :
    ∃ digits, c = (spacing c <<< 52) + digits ∧ units c = digits * 2 ^ spacing c ∧
      digits < 2 ^ 53 ∧ (spacing c = 0 ∨ 2 ^ 52 ≤ digits) := by
  obtain ⟨digits, hcode, hlt, hlead⟩ : ∃ digits, c = (spacing c <<< 52) + digits ∧
      digits < 2 ^ 53 ∧ (spacing c = 0 ∨ 2 ^ 52 ≤ digits) := by
    refine ⟨c - (spacing c <<< 52), ?_⟩
    rw [spacing, Nat.shiftLeft_eq, Nat.shiftRight_eq_div_pow]
    omega
  have hunits := units_add hlt.le hlead
  rw [← hcode] at hunits
  exact ⟨digits, hcode, hunits, hlt, hlead⟩

/-- Magnitudes with a smaller spacing are smaller. -/
theorem units_lt_of_spacing_lt {c d digits : Nat} (h : spacing c < d)
    (hdigits : 2 ^ 52 ≤ digits) : units c < digits * 2 ^ d := by
  obtain ⟨own, -, hunits, hlt, -⟩ := exists_digits c
  calc units c = own * 2 ^ spacing c := hunits
    _ < 2 ^ 53 * 2 ^ spacing c := Nat.mul_lt_mul_of_pos_right hlt (Nat.two_pow_pos _)
    _ = 2 ^ 52 * 2 ^ (spacing c + 1) := (carry_eq _).symm
    _ ≤ digits * 2 ^ d := Nat.mul_le_mul hdigits (Nat.pow_le_pow_right (by decide) h)

/-- Codes are ordered as their magnitudes. -/
theorem units_strictMono : StrictMono units := by
  intro a b hab
  obtain ⟨own, hown, hunitsa, -, -⟩ := exists_digits a
  obtain ⟨digits, hdigits, hunitsb, -, hlead⟩ := exists_digits b
  have hspacing : spacing a ≤ spacing b := by
    rw [spacing, spacing, Nat.shiftRight_eq_div_pow, Nat.shiftRight_eq_div_pow]
    omega
  rw [hunitsb]
  rcases hspacing.lt_or_eq with hless | hsame
  · exact units_lt_of_spacing_lt hless (by omega)
  · rw [hsame] at hown hunitsa
    rw [hunitsa]
    exact Nat.mul_lt_mul_of_pos_right (by omega) (Nat.two_pow_pos _)

theorem units_zero : units 0 = 0 := by decide

theorem units_pos {c : Nat} (h : 0 < c) : 0 < units c := units_zero ▸ units_strictMono h

/-! ## The nearest whole number -/

variable {num den : Nat}

theorem le_divNearestEven {n : Nat} (hden : 0 < den) (h : n * den ≤ num) :
    n ≤ divNearestEven num den := by
  have hquot : n ≤ num / den := (Nat.le_div_iff_mul_le hden).mpr h
  unfold divNearestEven
  dsimp only
  split_ifs <;> omega

theorem divNearestEven_le {n : Nat} (hden : 0 < den) (h : num ≤ n * den) :
    divNearestEven num den ≤ n := by
  have hquot : num / den ≤ n := Nat.div_le_of_le_mul (by rwa [Nat.mul_comm])
  have hdiv := Nat.div_add_mod num den
  have hmod := Nat.mod_lt num hden
  unfold divNearestEven
  dsimp only
  -- a remainder is left only below `n`
  rcases hquot.lt_or_eq with hless | hsame
  · split_ifs <;> omega
  · have hrest : num % den = 0 := by
      rw [hsame, Nat.mul_comm] at hdiv
      omega
    rw [hrest, if_pos (by omega)]
    exact hsame.le

theorem divNearestEven_mono {num' : Nat} (den : Nat) (h : num ≤ num') :
    divNearestEven num den ≤ divNearestEven num' den := by
  have hquot : num / den ≤ num' / den := Nat.div_le_div_right h
  have hdiv := Nat.div_add_mod num den
  have hdiv' := Nat.div_add_mod num' den
  unfold divNearestEven
  dsimp only
  -- with the same quotient the order is that of the remainders
  rcases hquot.lt_or_eq with hless | hsame
  · split_ifs <;> omega
  · rw [← hsame] at hdiv' ⊢
    split_ifs <;> omega

/-! ## The nearest code -/

/-- The digits of a quotient that its nearest code does not keep. -/
def dropped (num den : Nat) : Nat := (num / den).log2 - 52

theorem le_dropped (num : Nat) (hden : 0 < den) :
    num ≤ 2 ^ 53 * (den * 2 ^ dropped num den) := by
  have hquot : num / den < 2 ^ (53 + dropped num den) :=
    Nat.lt_of_lt_of_le Nat.lt_log2_self
      (Nat.pow_le_pow_right (by decide) (by rw [dropped]; omega))
  have hnum : num < 2 ^ (53 + dropped num den) * den := (Nat.div_lt_iff_lt_mul hden).mp hquot
  rw [Nat.pow_add, Nat.mul_assoc, Nat.mul_comm (2 ^ dropped num den)] at hnum
  exact hnum.le

/-- Digits are dropped only from more than 53. -/
theorem dropped_le (num : Nat) (hden : 0 < den) (hpos : 0 < dropped num den) :
    2 ^ 52 * (den * 2 ^ dropped num den) ≤ num := by
  have hlog : (num / den).log2 = 52 + dropped num den := by
    rw [dropped] at hpos ⊢
    omega
  have hquot : 2 ^ (52 + dropped num den) ≤ num / den := by
    rw [← hlog]
    refine Nat.log2_self_le fun hzero => ?_
    rw [hzero, Nat.log2_zero] at hlog
    omega
  have hnum : 2 ^ (52 + dropped num den) * den ≤ num := (Nat.le_div_iff_mul_le hden).mp hquot
  rwa [Nat.pow_add, Nat.mul_assoc, Nat.mul_comm (2 ^ dropped num den)] at hnum

theorem dropped_mono {num' : Nat} (den : Nat) (h : num ≤ num') :
    dropped num den ≤ dropped num' den := by
  have hquot : num / den ≤ num' / den := Nat.div_le_div_right h
  have hlog : (num / den).log2 ≤ (num' / den).log2 := by
    rcases Nat.eq_zero_or_pos (num / den) with hzero | hpos
    · rw [hzero, Nat.log2_zero]
      exact Nat.zero_le _
    · exact (Nat.le_log2 (by omega)).mpr ((Nat.log2_self_le hpos.ne').trans hquot)
  exact Nat.sub_le_sub_right hlog 52

/-- The nearest magnitude has the digits that are kept. -/
theorem units_nearestCode (num : Nat) (hden : 0 < den) :
    units (nearestCode num den) =
      divNearestEven num (den * 2 ^ dropped num den) * 2 ^ dropped num den := by
  have hscaled : 0 < den * 2 ^ dropped num den := Nat.mul_pos hden (Nat.two_pow_pos _)
  have hlead : dropped num den = 0 ∨ 2 ^ 52 ≤ divNearestEven num (den * 2 ^ dropped num den) :=
    (Nat.eq_zero_or_pos _).imp_right fun hpos =>
      le_divNearestEven hscaled (dropped_le num hden hpos)
  rw [← units_add (divNearestEven_le hscaled (le_dropped num hden)) hlead, nearestCode,
    Nat.shiftLeft_eq den, dropped]

/-- With a spacing that is not less, a magnitude is made of smaller spacings too. -/
theorem exists_units_eq {c d : Nat} (h : d ≤ spacing c) : ∃ n, units c = n * 2 ^ d := by
  obtain ⟨digits, -, hunits, -⟩ := exists_digits c
  refine ⟨digits * 2 ^ (spacing c - d), ?_⟩
  rw [hunits, Nat.mul_assoc, ← Nat.pow_add, Nat.sub_add_cancel h]

variable {c : Nat}

/-- What is at least the magnitude of a code is not rounded below it. -/
theorem le_nearestCode (hden : 0 < den) (h : units c * den ≤ num) :
    c ≤ nearestCode num den := by
  have hscaled : 0 < den * 2 ^ dropped num den := Nat.mul_pos hden (Nat.two_pow_pos _)
  refine units_strictMono.le_iff_le.mp ?_
  rw [units_nearestCode num hden]
  rcases Nat.lt_or_ge (spacing c) (dropped num den) with hless | hmore
  · have hkept := le_divNearestEven hscaled (dropped_le num hden (by omega))
    exact (units_lt_of_spacing_lt hless hkept).le
  · obtain ⟨n, hn⟩ := exists_units_eq hmore
    rw [hn] at h ⊢
    refine Nat.mul_le_mul_right _ (le_divNearestEven hscaled ?_)
    rwa [Nat.mul_comm den, ← Nat.mul_assoc]

/-- What is at most the magnitude of a code is not rounded above it. -/
theorem nearestCode_le (hden : 0 < den) (h : num ≤ units c * den) :
    nearestCode num den ≤ c := by
  have hscaled : 0 < den * 2 ^ dropped num den := Nat.mul_pos hden (Nat.two_pow_pos _)
  refine units_strictMono.le_iff_le.mp ?_
  rw [units_nearestCode num hden]
  rcases Nat.lt_or_ge (spacing c) (dropped num den) with hless | hmore
  · -- so many digits are dropped only from a number above the magnitude
    have hlarge := (dropped_le num hden (by omega)).trans h
    have hsmall := units_lt_of_spacing_lt hless (Nat.le_refl _)
    rw [Nat.mul_comm den, ← Nat.mul_assoc] at hlarge
    exact absurd (Nat.le_of_mul_le_mul_right hlarge hden) (Nat.not_le.mpr hsmall)
  · obtain ⟨n, hn⟩ := exists_units_eq hmore
    rw [hn] at h ⊢
    refine Nat.mul_le_mul_right _ (divNearestEven_le hscaled ?_)
    rwa [Nat.mul_comm den, ← Nat.mul_assoc]

/-- Rounding keeps the order. -/
theorem nearestCode_mono {num' : Nat} (hden : 0 < den) (h : num ≤ num') :
    nearestCode num den ≤ nearestCode num' den := by
  have hscaled : ∀ n, 0 < den * 2 ^ dropped n den := fun n =>
    Nat.mul_pos hden (Nat.two_pow_pos _)
  refine units_strictMono.le_iff_le.mp ?_
  rw [units_nearestCode num hden, units_nearestCode num' hden]
  rcases (dropped_mono den h).lt_or_eq with hless | hsame
  · -- the binade of the larger number starts between both
    have hupper := divNearestEven_le (hscaled num) (le_dropped num hden)
    have hlower := le_divNearestEven (hscaled num') (dropped_le num' hden (by omega))
    calc divNearestEven num (den * 2 ^ dropped num den) * 2 ^ dropped num den
        ≤ 2 ^ 53 * 2 ^ dropped num den := Nat.mul_le_mul_right _ hupper
      _ = 2 ^ 52 * 2 ^ (dropped num den + 1) := (carry_eq _).symm
      _ ≤ divNearestEven num' (den * 2 ^ dropped num' den) * 2 ^ dropped num' den :=
          Nat.mul_le_mul hlower (Nat.pow_le_pow_right (by decide) hless)
  · rw [hsame]
    exact Nat.mul_le_mul_right _ (divNearestEven_mono _ h)

/-! ## What is kept as it is -/

/-- A magnitude is rounded to itself. -/
theorem nearestCode_units (c : Nat) : nearestCode (units c) 1 = c :=
  Nat.le_antisymm (nearestCode_le Nat.one_pos (Nat.mul_one _).ge)
    (le_nearestCode Nat.one_pos (Nat.mul_one _).le)

/-- A number that ends in zeros where digits are dropped is a magnitude. -/
theorem units_nearestCode_of_dvd (h : 2 ^ dropped num 1 ∣ num) :
    units (nearestCode num 1) = num := by
  obtain ⟨n, hn⟩ := h
  have hpos : 0 < 2 ^ dropped num 1 := Nat.two_pow_pos _
  have hnum : num = n * 2 ^ dropped num 1 := by rwa [Nat.mul_comm]
  have hkept : divNearestEven num (2 ^ dropped num 1) = n :=
    Nat.le_antisymm (divNearestEven_le hpos hnum.le) (le_divNearestEven hpos hnum.ge)
  rw [units_nearestCode num Nat.one_pos, Nat.one_mul, hkept, ← hnum]

/-- Digits are dropped from a number of 53 digits times a power of two only as far as the power
goes. -/
theorem dropped_mul_two_pow {n : Nat} (h : n < 2 ^ 53) (k : Nat) :
    dropped (n * 2 ^ k) 1 ≤ k := by
  rw [dropped, Nat.div_one]
  rcases Nat.eq_zero_or_pos n with rfl | hpos
  · simp
  · have hne : n * 2 ^ k ≠ 0 := (Nat.mul_pos hpos (Nat.two_pow_pos _)).ne'
    have hlog : (n * 2 ^ k).log2 < 53 + k := by
      rw [Nat.log2_lt hne, Nat.pow_add]
      exact Nat.mul_lt_mul_of_pos_right h (Nat.two_pow_pos _)
    omega

theorem units_nearestCode_shift {n : Nat} (h : n < 2 ^ 53) (k : Nat) :
    units (nearestCode (n * (1 <<< k)) 1) = n * (1 <<< k) := by
  rw [Nat.one_shiftLeft]
  exact units_nearestCode_of_dvd
    (Nat.dvd_mul_left_of_dvd (Nat.pow_dvd_pow 2 (dropped_mul_two_pow h k)) n)

end BuzzerScript.Binary64
