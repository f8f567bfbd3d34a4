import BuzzerScript.Proofs.Rounding
import BuzzerScript.Proofs.TotalOrder

/-!
# Arithmetic in the numeric order

Lower bounds of products and quotients of doubles, and signs of sums and products.  A bound is
the double of a code; an operation may round to infinity, which is above all of them.
-/

namespace BuzzerScript.Binary64

/-- The double that is not negative and has a given magnitude. -/
abbrev ofCode (c : Fin finiteMagnitudes) : Binary64 := finite false c

variable {x y z : Binary64} {a b c : Fin finiteMagnitudes}

/-! ## The numeric order -/

theorem zero_eq : (0 : Binary64) = zero false := by decide

theorem finiteMagnitudes_pos : (0 : Int) < finiteMagnitudes := by decide

theorem le_iff : x.le y ↔ ∃ r s, x.rank? = some r ∧ y.rank? = some s ∧ r ≤ s := by
  rw [le]
  cases x.rank? <;> cases y.rank? <;> simp

theorem lt_iff : x.lt y ↔ ∃ r s, x.rank? = some r ∧ y.rank? = some s ∧ r < s := by
  rw [lt]
  cases x.rank? <;> cases y.rank? <;> simp

/-- The rank of a number that is not NaN: negative numbers move up by one in it, so that the
zeros come together. -/
theorem rank?_eq (h : x.isNaN = false) :
    x.rank? = some (if x.totalRank < 0 then x.totalRank + 1 else x.totalRank) := by
  have hpos := finiteMagnitudes_pos
  cases x with
  | finite s c => cases s <;> simp only [rank?, totalRank] <;> split_ifs <;> simp <;> omega
  | infinite s => cases s <;> simp only [rank?, totalRank] <;> split_ifs <;> simp <;> omega
  | nan => cases h

/-- The total order is finer than the numeric one, NaN aside. -/
theorem le_of_totalLe (hx : x.isNaN = false) (hy : y.isNaN = false) (h : x.totalLe y) :
    x.le y := by
  rw [totalLe, decide_eq_true_eq] at h
  refine le_iff.mpr ⟨_, _, rank?_eq hx, rank?_eq hy, ?_⟩
  split_ifs <;> omega

/-- Of two numbers that are not NaN one is not above the other. -/
theorem le_of_not_lt (hx : x.isNaN = false) (hy : y.isNaN = false) (h : ¬ x.lt y) :
    y.le x := by
  refine le_iff.mpr ⟨_, _, rank?_eq hy, rank?_eq hx, ?_⟩
  by_contra hrank
  exact h (lt_iff.mpr ⟨_, _, rank?_eq hx, rank?_eq hy, not_le.mp hrank⟩)

theorem not_lt_of_le (h : y.le x) : ¬ x.lt y := by
  intro hlt
  obtain ⟨r, s, hy, hx, hrs⟩ := le_iff.mp h
  obtain ⟨r', s', hx', hy', hlt⟩ := lt_iff.mp hlt
  rw [hx, Option.some.injEq] at hx'
  rw [hy, Option.some.injEq] at hy'
  omega

theorem le_refl (h : x.isNaN = false) : x.le x :=
  le_iff.mpr ⟨_, _, rank?_eq h, rank?_eq h, Int.le_refl _⟩

theorem le_trans (hxy : x.le y) (hyz : y.le z) : x.le z := by
  obtain ⟨r, s, hx, hy, hrs⟩ := le_iff.mp hxy
  obtain ⟨s', t, hy', hz, hst⟩ := le_iff.mp hyz
  obtain rfl : s = s' := Option.some.inj (hy.symm.trans hy')
  exact le_iff.mpr ⟨r, t, hx, hz, Int.le_trans hrs hst⟩

theorem le_of_not_le (hx : x.isNaN = false) (hy : y.isNaN = false) (h : ¬ x.le y) :
    y.le x := by
  refine le_of_not_lt hx hy fun hlt => h ?_
  obtain ⟨r, s, hr, hs, hrs⟩ := lt_iff.mp hlt
  exact le_iff.mpr ⟨r, s, hr, hs, hrs.le⟩

/-- What is brought into `[0, 1]` is there, NaN aside. -/
theorem clampUnit_bounds (hx : x.isNaN = false) : le 0 x.clampUnit ∧ x.clampUnit.le 1 := by
  have hone : (1 : Binary64).isNaN = false := by decide +kernel
  rw [clampUnit]
  by_cases hlow : x.lt 0
  · rw [if_pos hlow]
    decide +kernel
  · by_cases hhigh : lt 1 x
    · rw [if_neg hlow, if_pos hhigh]
      decide +kernel
    · rw [if_neg hlow, if_neg hhigh]
      exact ⟨le_of_not_lt hx rfl hlow, le_of_not_lt hone hx hhigh⟩

/-- What is in `[0, 1]` stays as it is. -/
theorem clampUnit_of_bounds (hlow : le 0 x) (hhigh : x.le 1) : x.clampUnit = x := by
  rw [clampUnit, if_neg (not_lt_of_le hlow), if_neg (not_lt_of_le hhigh)]

/-- Nothing but a NaN precedes the NaN of an invalid operation in the total order. -/
theorem isNaN_of_totalLe_invalid (h : x.totalLe invalid) : x.isNaN := by
  have hpos := finiteMagnitudes_pos
  have hinvalid : invalid.totalRank = -(finiteMagnitudes : Int) - 2 ^ 51 - 1 := by decide
  rw [totalLe, hinvalid, decide_eq_true_eq] at h
  cases x with
  | finite s c =>
    have hc := c.isLt
    cases s <;> simp only [totalRank] at h <;> split_ifs at h <;> omega
  | infinite s => cases s <;> simp only [totalRank] at h <;> split_ifs at h <;> omega
  | nan => rfl

/-- What is not negative: a magnitude with the positive sign, negative zero, or infinity. -/
theorem nonneg_cases (h : le 0 x) :
    (∃ c, x = ofCode c) ∨ x = zero true ∨ x = infinite false := by
  obtain ⟨r, s, hzero, hx, hrs⟩ := le_iff.mp h
  obtain rfl : 0 = r := Option.some.inj (hzero ▸ rfl)
  cases x with
  | finite s c =>
    cases s with
    | false => exact .inl ⟨c, rfl⟩
    | true =>
      obtain rfl : -(c.val : Int) = s := Option.some.inj hx
      have hc : c.val = 0 := by omega
      exact .inr (.inl (congrArg (finite true) (Fin.ext hc)))
  | infinite s =>
    cases s with
    | false => exact .inr (.inr rfl)
    | true =>
      obtain rfl := Option.some.inj hx
      exact absurd hrs (by decide)
  | nan => cases hx

theorem zero_nonneg : le 0 0 := by decide

theorem isNaN_of_nonneg (h : le 0 x) : x.isNaN = false := by
  obtain ⟨c, rfl⟩ | rfl | rfl := nonneg_cases h <;> rfl

theorem nonneg_of_pos (h : lt 0 x) : le 0 x := by
  obtain ⟨r, s, hzero, hx, hrs⟩ := lt_iff.mp h
  exact le_iff.mpr ⟨r, s, hzero, hx, hrs.le⟩

/-- What is positive: a magnitude other than zero, or infinity. -/
theorem pos_cases (h : lt 0 x) : (∃ c, 0 < c.val ∧ x = ofCode c) ∨ x = infinite false := by
  obtain ⟨c, rfl⟩ | rfl | rfl := nonneg_cases (nonneg_of_pos h)
  · refine .inl ⟨c, ?_, rfl⟩
    simpa [zero_eq, lt, rank?, zero] using h
  · cases h
  · exact .inr rfl

theorem ofCode_le_ofCode : (ofCode a).le (ofCode b) ↔ a ≤ b := by
  rw [Fin.le_def]
  simp [le, rank?]

theorem ofCode_le_zero : (ofCode a).le 0 ↔ a.val = 0 := by
  simp [zero_eq, zero, le, rank?]

theorem pos_of_le (ha : 0 < a.val) (h : (ofCode a).le x) : lt 0 x := by
  obtain ⟨r, s, har, hx, hrs⟩ := le_iff.mp h
  obtain rfl : (a.val : Int) = r := Option.some.inj har
  exact lt_iff.mpr ⟨0, s, zero_eq ▸ rfl, hx, by omega⟩

/-- What a code bounds from below: the magnitude of a code that is not less, or infinity. -/
theorem cases_of_le (ha : 0 < a.val) (h : (ofCode a).le x) :
    (∃ c, a ≤ c ∧ x = ofCode c) ∨ x = infinite false := by
  obtain ⟨c, -, rfl⟩ | rfl := pos_cases (pos_of_le ha h)
  · exact .inl ⟨c, ofCode_le_ofCode.mp h, rfl⟩
  · exact .inr rfl

/-! ## Rounding -/

theorem le_infinite (a : Fin finiteMagnitudes) : (ofCode a).le (infinite false) :=
  le_iff.mpr ⟨_, _, rfl, rfl, Int.ofNat_le.mpr a.isLt.le⟩

theorem le_ofUnits {num den : Nat} (hden : 0 < den) (h : units a * den ≤ num) :
    (ofCode a).le (ofUnits false num den) := by
  have hcode := le_nearestCode hden h
  rw [ofUnits]
  split
  · exact le_iff.mpr ⟨_, _, rfl, rfl, Int.ofNat_le.mpr hcode⟩
  · exact le_infinite a

theorem ofUnits_le {num den : Nat} (hden : 0 < den) (h : num ≤ units b * den) :
    (ofUnits false num den).le (ofCode b) := by
  have hcode := nearestCode_le hden h
  rw [ofUnits, dif_pos (Nat.lt_of_le_of_lt hcode b.isLt)]
  exact le_iff.mpr ⟨_, _, rfl, rfl, Int.ofNat_le.mpr hcode⟩

/-! ## Lower bounds -/

theorem unitsInOne_pos : 0 < unitsInOne := by decide

theorem mul_eq (x y : Binary64) : x * y = mul x y := rfl

theorem finite_mul_finite (s t : Bool) (a b : Fin finiteMagnitudes) :
    finite s a * finite t b = ofUnits (s ^^ t) (units a * units b) unitsInOne := by
  rw [mul_eq, mul]

theorem finite_add (s t : Bool) (a b : Fin finiteMagnitudes) :
    finite s a + finite t b =
      if signedUnits s a + signedUnits t b = 0 then zero (s && t)
      else ofUnits (signedUnits s a + signedUnits t b < 0)
        (signedUnits s a + signedUnits t b).natAbs 1 := rfl

theorem finite_div_finite (s t : Bool) (a : Fin finiteMagnitudes) {b : Fin finiteMagnitudes}
    (hb : 0 < b.val) :
    finite s a / finite t b = ofUnits (s ^^ t) (units a * unitsInOne) (units b) :=
  if_neg hb.ne'

theorem infinite_mul_ofCode (hb : 0 < b.val) : infinite false * ofCode b = infinite false :=
  if_neg hb.ne'

theorem ofCode_mul_infinite (ha : 0 < a.val) : ofCode a * infinite false = infinite false :=
  if_neg ha.ne'

/-- A product is not below a code that the product of bounds of its factors reaches. -/
theorem le_mul (ha : 0 < a.val) (hb : 0 < b.val) (hx : (ofCode a).le x) (hy : (ofCode b).le y)
    (h : units c * unitsInOne ≤ units a * units b) : (ofCode c).le (x * y) := by
  obtain ⟨a', hxa, rfl⟩ | rfl := cases_of_le ha hx
  · obtain ⟨b', hyb, rfl⟩ | rfl := cases_of_le hb hy
    · rw [finite_mul_finite]
      refine le_ofUnits unitsInOne_pos (h.trans ?_)
      exact Nat.mul_le_mul (units_strictMono.monotone hxa) (units_strictMono.monotone hyb)
    · rw [ofCode_mul_infinite (ha.trans_le hxa)]
      exact le_infinite c
  · obtain ⟨b', hyb, rfl⟩ | rfl := cases_of_le hb hy
    · rw [infinite_mul_ofCode (hb.trans_le hyb)]
      exact le_infinite c
    · exact le_infinite c

/-- A quotient is not below a code that the quotient of a lower bound and an
upper bound reaches. -/
theorem le_div (ha : 0 < a.val) (hx : (ofCode a).le x) (hy : lt 0 y) (hyb : y.le (ofCode b))
    (h : units c * units b ≤ units a * unitsInOne) : (ofCode c).le (x / y) := by
  obtain ⟨b', hpos, rfl⟩ | rfl := pos_cases hy
  · have hb := ofCode_le_ofCode.mp hyb
    obtain ⟨a', hxa, rfl⟩ | rfl := cases_of_le ha hx
    · rw [finite_div_finite false false a' hpos]
      refine le_ofUnits (units_pos hpos) ?_
      calc units c * units b' ≤ units c * units b :=
            Nat.mul_le_mul_left _ (units_strictMono.monotone hb)
        _ ≤ units a * unitsInOne := h
        _ ≤ units a' * unitsInOne := Nat.mul_le_mul_right _ (units_strictMono.monotone hxa)
    · exact le_infinite c
  · obtain ⟨r, s, hr, hs, hrs⟩ := le_iff.mp hyb
    obtain rfl : (finiteMagnitudes : Int) = r := Option.some.inj hr
    obtain rfl : (b.val : Int) = s := Option.some.inj hs
    exact absurd b.isLt (by omega)

/-! ## Signs -/

theorem nonneg_ofUnits (num den : Nat) : le 0 (ofUnits false num den) := by
  rw [ofUnits]
  split
  · exact le_iff.mpr ⟨0, _, zero_eq ▸ rfl, rfl, Int.natCast_nonneg _⟩
  · exact le_iff.mpr ⟨0, _, zero_eq ▸ rfl, rfl, Int.natCast_nonneg _⟩

theorem add_finite_nonneg {s t : Bool} (h : 0 ≤ signedUnits s a + signedUnits t b) :
    le 0 (finite s a + finite t b) := by
  rw [finite_add, decide_eq_false (Int.not_lt.mpr h)]
  split
  · cases s && t <;> decide
  · exact nonneg_ofUnits _ _

/-- A sum of numbers that are not negative is not negative. -/
theorem add_nonneg (hx : le 0 x) (hy : le 0 y) : le 0 (x + y) := by
  have hzero : (0 : Int) ≤ signedUnits true 0 := by decide
  obtain ⟨a, rfl⟩ | rfl | rfl := nonneg_cases hx
  · obtain ⟨b, rfl⟩ | rfl | rfl := nonneg_cases hy
    · exact add_finite_nonneg (Int.add_nonneg (Int.natCast_nonneg _) (Int.natCast_nonneg _))
    · exact add_finite_nonneg (Int.add_nonneg (Int.natCast_nonneg _) hzero)
    · exact hy
  · obtain ⟨b, rfl⟩ | rfl | rfl := nonneg_cases hy
    · exact add_finite_nonneg (Int.add_nonneg hzero (Int.natCast_nonneg _))
    · exact add_finite_nonneg (Int.add_nonneg hzero hzero)
    · exact hy
  · obtain ⟨b, rfl⟩ | rfl | rfl := nonneg_cases hy <;> exact hx

/-- A finite number that is not negative, times a positive one, is not negative, unless it is
zero times infinity. -/
theorem mul_nonneg (hx : le 0 x) (hfinite : x.isFinite) (hy : lt 0 y)
    (h : ¬ (x.le 0 ∧ y = infinite false)) : le 0 (x * y) := by
  obtain ⟨b, hpos, rfl⟩ | rfl := pos_cases hy
  · obtain ⟨a, rfl⟩ | rfl | rfl := nonneg_cases hx
    · rw [finite_mul_finite]
      exact nonneg_ofUnits _ _
    · rw [zero, finite_mul_finite, units_zero, Nat.zero_mul]
      decide
    · cases hfinite
  · obtain ⟨a, rfl⟩ | rfl | rfl := nonneg_cases hx
    · have ha : 0 < a.val :=
        Nat.pos_of_ne_zero fun hzero => h ⟨ofCode_le_zero.mpr hzero, rfl⟩
      rw [ofCode_mul_infinite ha]
      exact hy
    · exact absurd ⟨by decide, rfl⟩ h
    · cases hfinite

/-- Zero times infinity has no value. -/
theorem zero_mul_infinite (hx : le 0 x) (hzero : x.le 0) : x * infinite false = invalid := by
  obtain ⟨a, rfl⟩ | rfl | rfl := nonneg_cases hx
  · exact if_pos (ofCode_le_zero.mp hzero)
  · rfl
  · cases hzero

theorem invalid_add (x : Binary64) : invalid + x = invalid := rfl

end BuzzerScript.Binary64
