import BuzzerScript.Proofs.NumericOrder
import BuzzerScript.Script.Reader

/-!
# Whole numbers

A whole number of at most 53 binary digits is a double, and reading it from the double gives it
back.  The durations of a script are among these numbers, so a number token is a duration
exactly if it is the double of one.
-/

namespace BuzzerScript

namespace Binary64

/-- A whole number below `2 ^ 53` is a double. -/
theorem exists_ofNat {n : Nat} (h : n < 2 ^ 53) :
    ∃ c : Fin finiteMagnitudes, ofNat n = ofCode c ∧ units c = n * unitsInOne := by
  have hunits : units (nearestCode (n * unitsInOne) 1) = n * unitsInOne :=
    units_nearestCode_shift h 1074
  have hlimit : units (1076 <<< 52) = 2 ^ 53 * unitsInOne := by decide +kernel
  have hcode : nearestCode (n * unitsInOne) 1 < finiteMagnitudes := by
    refine Nat.lt_of_le_of_lt (nearestCode_le (c := 1076 <<< 52) Nat.one_pos ?_) (by decide)
    rw [Nat.mul_one, hlimit]
    exact Nat.mul_le_mul_right _ h.le
  refine ⟨⟨_, hcode⟩, ?_, hunits⟩
  rw [ofNat, ofUnits, dif_pos hcode]

theorem toNat?_ofNat {n : Nat} (h : n < 2 ^ 53) : (ofNat n).toNat? = some n := by
  obtain ⟨c, hvalue, hunits⟩ := exists_ofNat h
  rw [hvalue, toNat?, hunits, if_pos ⟨Nat.mul_mod_left n unitsInOne, .inl rfl⟩,
    Nat.mul_div_cancel n unitsInOne_pos]

/-- A double that is a positive whole number is the one of that number. -/
theorem eq_ofNat_of_toNat? {x : Binary64} {n : Nat} (hpos : 0 < n) (h : x.toNat? = some n) :
    x = ofNat n := by
  cases x with
  | finite negative c =>
    rw [toNat?] at h
    split_ifs at h with hwhole
    obtain ⟨hmod, hsign⟩ := hwhole
    have hunits : units c = n * unitsInOne := by
      have hdiv := Nat.div_add_mod (units c) unitsInOne
      rw [hmod, Option.some.inj h, Nat.add_zero, Nat.mul_comm] at hdiv
      exact hdiv.symm
    have hne : c.val ≠ 0 := by
      intro hzero
      rw [hzero, units_zero] at hunits
      exact (Nat.mul_pos hpos unitsInOne_pos).ne hunits
    obtain rfl : negative = false := hsign.resolve_right hne
    have hcode : nearestCode (n * unitsInOne) 1 = c.val := by rw [← hunits, nearestCode_units]
    have hlt : nearestCode (n * unitsInOne) 1 < finiteMagnitudes := hcode ▸ c.isLt
    rw [ofNat, ofUnits, dif_pos hlt]
    exact congrArg (finite false) (Fin.ext hcode.symm)
  | infinite => cases h
  | nan => cases h

/-- A greater whole number than one of at most 53 digits has a greater double. -/
theorem ofNat_ne_of_lt {m n : Nat} (hm : m + 1 < 2 ^ 53) (h : m < n) : ofNat n ≠ ofNat m := by
  obtain ⟨c, hvalue, hunits⟩ := exists_ofNat (Nat.lt_of_succ_lt hm)
  -- the double of the next whole number stands between both
  obtain ⟨next, -, hnext⟩ := exists_ofNat hm
  have hlt : c.val < next.val := by
    refine units_strictMono.lt_iff_lt.mp ?_
    rw [hunits, hnext]
    exact Nat.mul_lt_mul_of_pos_right (Nat.lt_succ_self m) unitsInOne_pos
  have hle : next.val ≤ nearestCode (n * unitsInOne) 1 := by
    refine le_nearestCode Nat.one_pos ?_
    rw [hnext, Nat.mul_one]
    exact Nat.mul_le_mul_right _ h
  rw [hvalue, ofNat, ofUnits]
  split
  · intro hsame
    have hcode : nearestCode (n * unitsInOne) 1 = c.val :=
      congrArg Fin.val (finite.inj hsame).2
    omega
  · intro hsame
    cases hsame

/-- No other whole number rounds to one of at most 53 digits. -/
theorem eq_of_ofNat_eq {m n : Nat} (hm : m + 1 < 2 ^ 53) (h : ofNat n = ofNat m) : n = m := by
  rcases Nat.lt_trichotomy n m with hless | hsame | hmore
  · exact absurd h.symm (ofNat_ne_of_lt (by omega) hless)
  · exact hsame
  · exact absurd h (ofNat_ne_of_lt hm hmore)

/-- Whole numbers round to infinity from the first one on that does. -/
theorem isFinite_ofNat_iff_lt {limit : Nat}
    (hlimit : finiteMagnitudes ≤ nearestCode (limit * unitsInOne) 1)
    (hbelow : nearestCode ((limit - 1) * unitsInOne) 1 < finiteMagnitudes) (n : Nat) :
    (ofNat n).isFinite ↔ n < limit := by
  have hmono : ∀ m m' : Nat, m ≤ m' →
      nearestCode (m * unitsInOne) 1 ≤ nearestCode (m' * unitsInOne) 1 := fun _ _ h =>
    nearestCode_mono Nat.one_pos (Nat.mul_le_mul_right _ h)
  rw [ofNat, ofUnits]
  rcases Nat.lt_or_ge n limit with hless | hmore
  · have hcode := Nat.lt_of_le_of_lt (hmono n (limit - 1) (by omega)) hbelow
    rw [dif_pos hcode]
    exact ⟨fun _ => hless, fun _ => rfl⟩
  · have hcode := Nat.le_trans hlimit (hmono limit n hmore)
    rw [dif_neg (Nat.not_lt.mpr hcode)]
    exact iff_of_false Bool.false_ne_true (Nat.not_lt.mpr hmore)

/-- The whole numbers that do not round to infinity: those below the middle between the
greatest double and the power of two above it, where the even neighbour is the power. -/
theorem isFinite_ofNat_iff (n : Nat) : (ofNat n).isFinite ↔ n < 2 ^ 1024 - 2 ^ 970 :=
  isFinite_ofNat_iff_lt (by decide +kernel) (by decide +kernel) n

end Binary64

/-- A number is a duration exactly if it is a whole number in the range of durations. -/
theorem Script.denominator?_eq_some_iff {value : Binary64} {n : Nat} :
    denominator? value = some n ↔ (1 ≤ n ∧ n ≤ maxDenominator) ∧ value = .ofNat n := by
  constructor
  · intro h
    rw [denominator?] at h
    split at h
    · next m hm =>
      split_ifs at h with hrange
      obtain rfl := Option.some.inj h
      exact ⟨hrange, Binary64.eq_ofNat_of_toNat? hrange.1 hm⟩
    · cases h
  · rintro ⟨hrange, rfl⟩
    have hlimit : maxDenominator < 2 ^ 53 := by decide
    have hwhole := Binary64.toNat?_ofNat (Nat.lt_of_le_of_lt hrange.2 hlimit)
    rw [denominator?, hwhole]
    exact if_pos hrange

/-- A whole number is a duration if it is in the range of durations, and then it is its own
denominator; no other one is rounded into the range. -/
theorem Script.denominator?_ofNat (n : Nat) :
    denominator? (.ofNat n) = if 1 ≤ n ∧ n ≤ maxDenominator then some n else none := by
  refine Option.ext fun m => ?_
  rw [denominator?_eq_some_iff, Option.ite_none_right_eq_some, Option.some.injEq]
  have hlimit : maxDenominator + 1 < 2 ^ 53 := by decide
  constructor
  · rintro ⟨hrange, hsame⟩
    obtain rfl := Binary64.eq_of_ofNat_eq (by omega) hsame
    exact ⟨hrange, rfl⟩
  · rintro ⟨hrange, rfl⟩
    exact ⟨hrange, rfl⟩

end BuzzerScript
