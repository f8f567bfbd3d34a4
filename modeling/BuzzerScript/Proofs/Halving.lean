import BuzzerScript.Proofs.SumOrder
import Mathlib.Tactic.SplitIfs

/-!
# Halving

Half of a double is a double with the same digits and the next smaller exponent.  So an
operation on halved operands has a halved result, as long as its rounding drops as many digits
of both exact results.  For sums it does.  A product or a quotient close to the smallest normal
number may lose one digit more when it is halved, and then its half is rounded.

The numbers that are no magnitudes of normal numbers show this, with one exception: the number
below twice the smallest normal one has no half, and what is rounded instead of it is normal.

## Main definitions

* `Binary64.IsHalf`: a double that is just half of another.
* `Binary64.IsRegular`: zero, or a normal number.
* `Binary64.IsLastOdd`: the number below twice the smallest normal one.

## Main statements

* `Binary64.units_nearestCode_double`: when the result of rounding is halved.
* `Binary64.IsHalf.add`, `Binary64.IsHalf.mul_left`, `Binary64.IsHalf.div_right`: operations on
  halved operands.
-/

namespace BuzzerScript.Binary64

/-- The first double is just half of the second. -/
inductive IsHalf : Binary64 → Binary64 → Prop
  | of_units (negative : Bool) {half whole : Fin finiteMagnitudes}
      (units : 2 * units half = units whole) :
      IsHalf (.finite negative half) (.finite negative whole)

/-- The code of zero, or of a normal number. -/
def IsRegularCode (c : Nat) : Prop := c = 0 ∨ 2 ^ 52 ≤ c

/-- Zero or a normal number: neither infinite, nor NaN, nor subnormal. -/
inductive IsRegular : Binary64 → Prop
  | finite (negative : Bool) {c : Fin finiteMagnitudes} (h : IsRegularCode c) :
      IsRegular (.finite negative c)

/-- The code of the number below twice the smallest normal one. -/
def lastOdd : Nat := 2 ^ 53 - 1

/-- The number below twice the smallest normal one.  It is normal.  Its half lies between two
doubles, of which the smallest normal number is the even one. -/
inductive IsLastOdd : Binary64 → Prop
  | finite (negative : Bool) {c : Fin finiteMagnitudes} (h : c.val = lastOdd) :
      IsLastOdd (.finite negative c)

theorem isRegular_finite_iff {s : Bool} {c : Fin finiteMagnitudes} :
    (finite s c).IsRegular ↔ IsRegularCode c := ⟨fun | .finite _ h => h, .finite s⟩

theorem isLastOdd_finite_iff {s : Bool} {c : Fin finiteMagnitudes} :
    (finite s c).IsLastOdd ↔ c.val = lastOdd := ⟨fun | .finite _ h => h, .finite s⟩

instance (c : Nat) : Decidable (IsRegularCode c) :=
  inferInstanceAs (Decidable (c = 0 ∨ 2 ^ 52 ≤ c))

instance (x : Binary64) : Decidable x.IsRegular :=
  match x with
  | .finite _ _ => decidable_of_iff _ isRegular_finite_iff.symm
  | .infinite _ => .isFalse nofun
  | .nan _ => .isFalse nofun

instance (x : Binary64) : Decidable x.IsLastOdd :=
  match x with
  | .finite _ _ => decidable_of_iff _ isLastOdd_finite_iff.symm
  | .infinite _ => .isFalse nofun
  | .nan _ => .isFalse nofun

/-! ## Rounding -/

section Rounding

variable {num den : Nat}

/-- What is multiplied on both sides does not change the nearest whole number. -/
theorem divNearestEven_mul_right {k : Nat} (hk : 0 < k) (num den : Nat) :
    divNearestEven (num * k) (den * k) = divNearestEven num den := by
  have hquot : num * k / (den * k) = num / den := Nat.mul_div_mul_right num den hk
  have hrest : num * k % (den * k) = num % den * k := Nat.mul_mod_mul_right k num den
  have hassoc : 2 * (num % den * k) = 2 * (num % den) * k := (Nat.mul_assoc _ _ _).symm
  rw [divNearestEven, divNearestEven]
  simp only [hquot, hrest, hassoc, Nat.mul_lt_mul_right hk]

theorem nearestCode_mul_right {k : Nat} (hk : 0 < k) (num den : Nat) :
    nearestCode (num * k) (den * k) = nearestCode num den := by
  have hquot : num * k / (den * k) = num / den := Nat.mul_div_mul_right num den hk
  rw [nearestCode, nearestCode]
  simp only [hquot, Nat.shiftLeft_eq, Nat.mul_right_comm den k, divNearestEven_mul_right hk]

/-- Where a number has 53 digits or more before its unit point, twice the number has one
more of them to drop. -/
theorem dropped_double (hlarge : 2 ^ 52 ≤ num / den) :
    dropped (2 * num) den = dropped num den + 1 := by
  have hhalf : 2 * num / den / 2 = num / den := by
    rw [Nat.div_div_eq_div_mul, Nat.mul_comm den, Nat.mul_div_mul_left num den (by decide)]
  have hlog : (2 * num / den).log2 = (num / den).log2 + 1 := by
    rw [Nat.log2_def, if_pos (by omega), hhalf]
  have hdigits : 52 ≤ (num / den).log2 := (Nat.le_log2 (by omega)).mpr hlarge
  rw [dropped, dropped, hlog]
  omega

/-- From a number with fewer digits before its unit point, and from twice that number, no
digit is dropped. -/
theorem dropped_eq_zero (hsmall : num / den < 2 ^ 53) : dropped num den = 0 := by
  rw [dropped]
  rcases Nat.eq_zero_or_pos (num / den) with hzero | hpos
  · rw [hzero, Nat.log2_zero]
  · have := (Nat.log2_lt hpos.ne').mpr hsmall
    omega

theorem nearestCode_of_small (hsmall : num / den < 2 ^ 53) :
    nearestCode num den = divNearestEven num den := by
  have hdropped := dropped_eq_zero hsmall
  rw [dropped] at hdropped
  rw [nearestCode, hdropped]
  simp

theorem units_nearestCode_of_small (hden : 0 < den) (hsmall : num / den < 2 ^ 53) :
    units (nearestCode num den) = divNearestEven num den := by
  rw [units_nearestCode num hden, dropped_eq_zero hsmall, Nat.pow_zero, Nat.mul_one,
    Nat.mul_one]

/-- Twice a number in quotient and rest. -/
theorem div_double (num : Nat) (hden : 0 < den) :
    2 * (num % den) < den ∧ 2 * num / den = 2 * (num / den) ∧ 2 * num % den = 2 * (num % den) ∨
    den ≤ 2 * (num % den) ∧ 2 * num / den = 2 * (num / den) + 1 ∧
      2 * num % den = 2 * (num % den) - den := by
  have hrest := Nat.mod_lt num hden
  have hdiv : 2 * num = 2 * (num % den) + den * (2 * (num / den)) := by
    have := Nat.mod_add_div num den
    rw [Nat.mul_left_comm]
    omega
  rcases Nat.lt_or_ge (2 * (num % den)) den with hless | hmore
  · refine .inl ⟨hless, ?_, ?_⟩
    · rw [hdiv, Nat.add_mul_div_left _ _ hden, Nat.div_eq_of_lt hless, Nat.zero_add]
    · rw [hdiv, Nat.add_mul_mod_self_left, Nat.mod_eq_of_lt hless]
  · have hcarry : 2 * num = (2 * (num % den) - den) + den * (2 * (num / den) + 1) := by
      rw [Nat.mul_succ]
      omega
    have hless : 2 * (num % den) - den < den := by omega
    refine .inr ⟨hmore, ?_, ?_⟩
    · rw [hcarry, Nat.add_mul_div_left _ _ hden, Nat.div_eq_of_lt hless, Nat.zero_add]
    · rw [hcarry, Nat.add_mul_mod_self_left, Nat.mod_eq_of_lt hless]

/-- Rounding by quotient and rest. -/
theorem divNearestEven_of_div_mod {q r : Nat} (hq : num / den = q) (hr : num % den = r) :
    divNearestEven num den =
      if 2 * r < den then q else if den < 2 * r then q + 1 else q + q % 2 := by
  subst hq hr
  rfl

/-- Close to the smallest normal number the result of rounding is halved if it is zero or
normal both times, and not the number that has no half. -/
theorem divNearestEven_double (hden : 0 < den) (hsmall : num / den < 2 ^ 52)
    (hhalf : IsRegularCode (divNearestEven num den))
    (hwhole : IsRegularCode (divNearestEven (2 * num) den))
    (hlast : divNearestEven (2 * num) den ≠ lastOdd) :
    divNearestEven (2 * num) den = 2 * divNearestEven num den := by
  have hrest := Nat.mod_lt num hden
  rw [IsRegularCode] at hhalf hwhole
  rw [lastOdd] at hlast
  have hone := divNearestEven_of_div_mod (Eq.refl (num / den)) (Eq.refl (num % den))
  -- one result is zero, or the quotient is the last one below the smallest normal number
  rcases div_double num hden with ⟨hless, hquot, hrem⟩ | ⟨hmore, hquot, hrem⟩
  · have htwo := divNearestEven_of_div_mod hquot hrem
    rw [if_pos hless] at hone
    split_ifs at htwo <;> omega
  · have htwo := divNearestEven_of_div_mod hquot hrem
    rw [if_neg (Nat.not_lt.mpr hmore)] at hone
    split_ifs at hone htwo <;> omega

theorem units_nearestCode_double_of_large (hden : 0 < den) (hlarge : 2 ^ 52 ≤ num / den) :
    units (nearestCode (2 * num) den) = 2 * units (nearestCode num den) := by
  have hdigits : divNearestEven (2 * num) (den * 2 ^ (dropped num den + 1)) =
      divNearestEven num (den * 2 ^ dropped num den) := by
    rw [Nat.pow_succ, ← Nat.mul_assoc, Nat.mul_comm 2 num,
      divNearestEven_mul_right (by decide)]
  rw [units_nearestCode _ hden, units_nearestCode _ hden, dropped_double hlarge, hdigits,
    Nat.pow_succ, ← Nat.mul_assoc, Nat.mul_comm _ 2]

/-- The result of rounding is halved if it is zero or normal both times, and not the number
that has no half. -/
theorem units_nearestCode_double (hden : 0 < den) (hhalf : IsRegularCode (nearestCode num den))
    (hwhole : IsRegularCode (nearestCode (2 * num) den))
    (hlast : nearestCode (2 * num) den ≠ lastOdd) :
    units (nearestCode (2 * num) den) = 2 * units (nearestCode num den) := by
  rcases Nat.lt_or_ge (num / den) (2 ^ 52) with hsmall | hlarge
  · have hhalfsmall : num / den < 2 ^ 53 := by omega
    have hwholesmall : 2 * num / den < 2 ^ 53 := by
      rcases div_double num hden with ⟨-, hquot, -⟩ | ⟨-, hquot, -⟩ <;> omega
    rw [nearestCode_of_small hhalfsmall] at hhalf
    rw [nearestCode_of_small hwholesmall] at hwhole hlast
    rw [units_nearestCode_of_small hden hhalfsmall,
      units_nearestCode_of_small hden hwholesmall]
    exact divNearestEven_double hden hsmall hhalf hwhole hlast
  · exact units_nearestCode_double_of_large hden hlarge

/-- Whole numbers of units are rounded only where they are large. -/
theorem units_nearestCode_one_double (num : Nat) :
    units (nearestCode (2 * num) 1) = 2 * units (nearestCode num 1) := by
  rcases Nat.lt_or_ge num (2 ^ 52) with hsmall | hlarge
  · have hwhole : divNearestEven (2 * num) 1 = 2 * num := by
      simp [divNearestEven_of_div_mod (Nat.div_one _) (Nat.mod_one _)]
    have hhalf : divNearestEven num 1 = num := by
      simp [divNearestEven_of_div_mod (Nat.div_one _) (Nat.mod_one _)]
    rw [units_nearestCode_of_small Nat.one_pos (by omega),
      units_nearestCode_of_small Nat.one_pos (by omega), hwhole, hhalf]
  · exact units_nearestCode_double_of_large Nat.one_pos (by rwa [Nat.div_one])

end Rounding

/-! ## Halves -/

section Halves

variable {half whole : Binary64} {num den num' den' : Nat}

theorem ofUnits_eq_finite_iff {s : Bool} {c : Fin finiteMagnitudes} :
    ofUnits s num den = .finite s c ↔ nearestCode num den = c := by
  rw [ofUnits]
  split
  · simp [Fin.ext_iff]
  · next hlarge =>
    have hcode : nearestCode num den ≠ c := fun hcode => hlarge (hcode ▸ c.isLt)
    simp [hcode]

theorem exists_ofUnits_of_isFinite {s : Bool} (h : (ofUnits s num den).isFinite) :
    ∃ c, ofUnits s num den = .finite s c ∧ nearestCode num den = c := by
  rw [ofUnits] at h ⊢
  split at h
  · next hsmall => exact ⟨⟨_, hsmall⟩, dif_pos hsmall, rfl⟩
  · cases h

theorem IsRegular.isFinite {x : Binary64} (h : x.IsRegular) : x.isFinite := by
  cases h
  rfl

/-- A result is halved if its units are. -/
theorem isHalf_ofUnits {s : Bool} (hfinite : (ofUnits s num' den').isFinite)
    (hunits : units (nearestCode num' den') = 2 * units (nearestCode num den)) :
    IsHalf (ofUnits s num den) (ofUnits s num' den') := by
  obtain ⟨c', hwhole, hcode'⟩ := exists_ofUnits_of_isFinite hfinite
  have hless : nearestCode num den ≤ c' := by
    rw [← hcode', ← units_strictMono.le_iff_le, hunits]
    omega
  have hhalf : ofUnits s num den = .finite s ⟨nearestCode num den, hless.trans_lt c'.isLt⟩ :=
    ofUnits_eq_finite_iff.mpr rfl
  rw [hwhole, hhalf]
  exact .of_units s (by simp only [← hcode', hunits])

/-- The result of rounding is halved if it is zero or normal both times, and not the number
that has no half. -/
theorem isHalf_ofUnits_double {s : Bool} (hden : 0 < den)
    (hhalf : (ofUnits s num den).IsRegular) (hwhole : (ofUnits s (2 * num) den).IsRegular)
    (hlast : ¬ (ofUnits s (2 * num) den).IsLastOdd) :
    IsHalf (ofUnits s num den) (ofUnits s (2 * num) den) := by
  refine isHalf_ofUnits hwhole.isFinite ?_
  obtain ⟨c, hc, hcode⟩ := exists_ofUnits_of_isFinite hhalf.isFinite
  obtain ⟨c', hc', hcode'⟩ := exists_ofUnits_of_isFinite hwhole.isFinite
  rw [hc, isRegular_finite_iff] at hhalf
  rw [hc', isRegular_finite_iff] at hwhole
  rw [hc', isLastOdd_finite_iff] at hlast
  refine units_nearestCode_double hden ?_ ?_ ?_
  · rwa [hcode]
  · rwa [hcode']
  · rwa [hcode']

/-- The code of two. -/
def two : Fin finiteMagnitudes := ⟨1024 <<< 52, by decide⟩

theorem two_eq : (2 : Binary64) = ofCode two := by decide +kernel

theorem units_two : units two = 2 * unitsInOne := by decide +kernel

namespace IsHalf

/-- The half of zero is zero. -/
theorem zero_zero : IsHalf 0 0 := by
  rw [zero_eq]
  exact .of_units false rfl

theorem isFinite (h : IsHalf half whole) : half.isFinite := by
  obtain ⟨s, -⟩ := h
  rfl

/-- The number below twice the smallest normal one has no half. -/
theorem not_isLastOdd (h : IsHalf half whole) : ¬ whole.IsLastOdd := by
  intro hlast
  obtain @⟨s, c, c', hunits⟩ := h
  have hodd : units c' = lastOdd := by
    rw [isLastOdd_finite_iff.mp hlast]
    decide +kernel
  rw [hodd, lastOdd] at hunits
  omega

theorem signedUnits_eq {s : Bool} {c c' : Fin finiteMagnitudes} (h : 2 * units c = units c') :
    signedUnits s c' = 2 * signedUnits s c := by
  cases s <;> simp [signedUnits] <;> omega

/-- Sums of halves are halves of sums. -/
theorem add {x x' y y' : Binary64} (hx : IsHalf x x') (hy : IsHalf y y')
    (hfinite : (x' + y').isFinite) : IsHalf (x + y) (x' + y') := by
  obtain @⟨s, a, a', ha⟩ := hx
  obtain @⟨t, b, b', hb⟩ := hy
  have htotal :
      signedUnits s a' + signedUnits t b' = 2 * (signedUnits s a + signedUnits t b) := by
    rw [signedUnits_eq ha, signedUnits_eq hb, Int.mul_add]
  rw [finite_add s t a' b', htotal] at hfinite ⊢
  rw [finite_add s t a b]
  generalize signedUnits s a + signedUnits t b = total at *
  by_cases hzero : total = 0
  · simp only [hzero, Int.mul_zero, if_true]
    exact .of_units _ rfl
  · have hsign : decide (2 * total < 0) = decide (total < 0) := decide_eq_decide.mpr (by omega)
    have habs : (2 * total).natAbs = 2 * total.natAbs := by omega
    have hdouble : 2 * total ≠ 0 := by omega
    rw [if_neg hdouble, hsign, habs] at hfinite ⊢
    rw [if_neg hzero]
    exact isHalf_ofUnits hfinite (units_nearestCode_one_double _)

/-- The half of a factor halves the product. -/
theorem mul_left {x : Binary64} (h : IsHalf half whole) (hhalf : (x * half).IsRegular)
    (hwhole : (x * whole).IsRegular) (hlast : ¬ (x * whole).IsLastOdd) :
    IsHalf (x * half) (x * whole) := by
  obtain @⟨t, b, b', hb⟩ := h
  cases x with
  | finite s a =>
    have hdouble : units a * units b' = 2 * (units a * units b) := by
      rw [← hb, Nat.mul_left_comm]
    rw [finite_mul_finite s t a b', hdouble] at hwhole hlast ⊢
    rw [finite_mul_finite s t a b] at hhalf ⊢
    exact isHalf_ofUnits_double unitsInOne_pos hhalf hwhole hlast
  | infinite s =>
    -- infinity times a number is infinite or NaN
    rw [mul_eq, mul] at hhalf
    split at hhalf <;> cases hhalf
  | nan s => cases hhalf

/-- A quotient is halved when its divisor is doubled. -/
theorem div_right {x : Binary64} (h : IsHalf half whole) (hx : x.isFinite)
    (hhalf : (x / whole).IsRegular) (hwhole : (x / half).IsRegular)
    (hlast : ¬ (x / half).IsLastOdd) : IsHalf (x / whole) (x / half) := by
  obtain @⟨t, b, b', hb⟩ := h
  cases x with
  | finite s a =>
    have hpos : 0 < b.val := by
      refine Nat.pos_of_ne_zero fun hzero => ?_
      change (div _ _).IsRegular at hwhole
      rw [div, if_pos hzero] at hwhole
      split at hwhole <;> cases hwhole
    have hpos' : 0 < b'.val := by
      refine Nat.pos_of_ne_zero fun hzero => ?_
      have := units_pos hpos
      rw [hzero, units_zero] at hb
      omega
    have hdouble (num : Nat) :
        ofUnits (s ^^ t) num (units b) = ofUnits (s ^^ t) (2 * num) (units b') := by
      have hcode : nearestCode (2 * num) (units b') = nearestCode num (units b) := by
        rw [← hb, Nat.mul_comm 2 num, Nat.mul_comm 2, nearestCode_mul_right (by decide)]
      rw [ofUnits, ofUnits]
      simp only [hcode]
    rw [finite_div_finite _ _ _ hpos, hdouble] at hwhole hlast ⊢
    rw [finite_div_finite _ _ _ hpos'] at hhalf ⊢
    exact isHalf_ofUnits_double (units_pos hpos') hhalf hwhole hlast
  | infinite s => cases hx
  | nan s => cases hx

/-- Halves are in the order of what they are halves of. -/
theorem codes_le_iff {c d c' d' : Nat} (hc : 2 * units c = units c')
    (hd : 2 * units d = units d') : c ≤ d ↔ c' ≤ d' := by
  have hhalf : units c ≤ units d ↔ c ≤ d := units_strictMono.le_iff_le
  have hwhole : units c' ≤ units d' ↔ c' ≤ d' := units_strictMono.le_iff_le
  rw [← hhalf, ← hwhole]
  omega

theorem totalLe_eq {x x' y y' : Binary64} (hx : IsHalf x x') (hy : IsHalf y y') :
    x.totalLe y = x'.totalLe y' := by
  obtain @⟨s, a, a', ha⟩ := hx
  obtain @⟨t, b, b', hb⟩ := hy
  have hless := codes_le_iff ha hb
  have hmore := codes_le_iff hb ha
  rw [totalLe, totalLe, decide_eq_decide]
  cases s <;> cases t <;> simp [totalRank] <;> omega

/-- A number that can be doubled is half of the double. -/
theorem double {x : Binary64} (hfinite : (2 * x).isFinite) : IsHalf x (2 * x) := by
  rw [two_eq] at hfinite ⊢
  cases x with
  | finite s c =>
    have hproduct : ofCode two * finite s c = ofUnits s (2 * units c) 1 := by
      have hcode := nearestCode_mul_right unitsInOne_pos (2 * units c) 1
      rw [Nat.one_mul, Nat.mul_right_comm] at hcode
      rw [finite_mul_finite, units_two, Bool.false_xor, ofUnits, ofUnits]
      simp only [hcode]
    have hself : finite s c = ofUnits s (units c) 1 :=
      (ofUnits_eq_finite_iff.mpr (nearestCode_units c)).symm
    rw [hproduct] at hfinite ⊢
    rw [hself]
    exact isHalf_ofUnits hfinite (units_nearestCode_one_double _)
  | infinite s => cases hfinite
  | nan s => cases hfinite

/-- A half is the quotient by two. -/
theorem eq_div_two (h : IsHalf half whole) : half = whole / 2 := by
  obtain @⟨s, c, c', hunits⟩ := h
  have hcode : nearestCode (units c' * unitsInOne) (units two) = c := by
    have hscale := nearestCode_mul_right (Nat.mul_pos two_pos unitsInOne_pos) (units c) 1
    rwa [Nat.one_mul, ← Nat.mul_assoc, Nat.mul_comm _ 2, hunits, ← units_two,
      nearestCode_units] at hscale
  have hquot := ofUnits_eq_finite_iff (s := s).mpr hcode
  rw [two_eq, finite_div_finite s false c' (by decide), Bool.xor_false, hquot]

end IsHalf

end Halves

end BuzzerScript.Binary64
