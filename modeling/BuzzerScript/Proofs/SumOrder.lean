import BuzzerScript.Proofs.NumericOrder

/-!
# Sums in the total order

Rounding keeps the order of exact sums.  So a sum of magnitudes is not below its terms, and
does not get less when a term gets more.  This holds in the total order as well as in the
numeric one, up to infinity and with a negative zero as the first term.
-/

namespace BuzzerScript.Binary64

variable {x y : Binary64} {a b c : Fin finiteMagnitudes}

/-! ## Magnitudes -/

/-- A number without a sign: what is not negative, but for negative zero. -/
def IsMagnitude (x : Binary64) : Prop := (∃ c, x = ofCode c) ∨ x = infinite false

theorem totalLe_refl (x : Binary64) : x.totalLe x := by simp [totalLe]

theorem isMagnitude_of_pos (h : lt 0 x) : x.IsMagnitude := by
  obtain ⟨c, -, rfl⟩ | rfl := pos_cases h
  · exact .inl ⟨c, rfl⟩
  · exact .inr rfl

theorem totalLe_ofCode_iff : (ofCode a).totalLe (ofCode b) ↔ a ≤ b := by
  rw [Fin.le_def]
  simp [totalLe, totalRank]

theorem IsMagnitude.totalLe_infinite (h : x.IsMagnitude) : x.totalLe (infinite false) := by
  obtain ⟨c, rfl⟩ | rfl := h
  · have hc := c.isLt
    simp only [totalLe, totalRank, decide_eq_true_eq, if_false, Bool.false_eq_true]
    omega
  · exact totalLe_refl _

theorem not_infinite_totalLe (c : Fin finiteMagnitudes) :
    ¬ (infinite false).totalLe (ofCode c) := by
  have hc := c.isLt
  rw [totalLe, decide_eq_true_eq]
  simp only [totalRank, if_false, Bool.false_eq_true]
  omega

theorem isMagnitude_ofUnits (num den : Nat) : (ofUnits false num den).IsMagnitude := by
  rw [ofUnits]
  split
  · exact .inl ⟨_, rfl⟩
  · exact .inr rfl

/-- More units are not rounded to less. -/
theorem ofUnits_totalLe {num num' den : Nat} (hden : 0 < den) (h : num ≤ num') :
    (ofUnits false num den).totalLe (ofUnits false num' den) := by
  have hcode := nearestCode_mono hden h
  by_cases hfinite : nearestCode num' den < finiteMagnitudes
  · rw [ofUnits, ofUnits, dif_pos hfinite, dif_pos (Nat.lt_of_le_of_lt hcode hfinite)]
    exact totalLe_ofCode_iff.mpr hcode
  · have hinfinite : ofUnits false num' den = infinite false := by
      rw [ofUnits, dif_neg hfinite]
    rw [hinfinite]
    exact (isMagnitude_ofUnits num den).totalLe_infinite

/-- The number of units of a code is rounded to the code. -/
theorem ofUnits_units (c : Fin finiteMagnitudes) : ofUnits false (units c) 1 = ofCode c := by
  rw [ofUnits]
  simp only [nearestCode_units]
  rw [dif_pos c.isLt]

/-! ## Sums -/

/-- A sum of finite numbers that are not both negative, in units. -/
theorem finite_add_finite {s t : Bool} {n : Nat} (hsign : (s && t) = false)
    (h : signedUnits s a + signedUnits t b = n) :
    finite s a + finite t b = ofUnits false n 1 := by
  rw [finite_add, h, hsign]
  split
  · next hzero =>
    rw [Int.ofNat_eq_zero.mp hzero, ← units_zero]
    exact (ofUnits_units ⟨0, by decide⟩).symm
  · rw [decide_eq_false (Int.not_lt.mpr (Int.natCast_nonneg _)), Int.natAbs_natCast]

theorem ofCode_add_ofCode (a b : Fin finiteMagnitudes) :
    ofCode a + ofCode b = ofUnits false (units a + units b) 1 :=
  finite_add_finite rfl (by simp [signedUnits])

theorem infinite_add (h : x.IsMagnitude) : infinite false + x = infinite false := by
  obtain ⟨c, rfl⟩ | rfl := h <;> rfl

/-- Negative zero adds nothing. -/
theorem negative_zero_add (h : x.IsMagnitude) : zero true + x = x := by
  obtain ⟨c, rfl⟩ | rfl := h
  · have hunits : signedUnits true (⟨0, by decide⟩ : Fin finiteMagnitudes) +
        signedUnits false c = units c := by
      simp [signedUnits, units_zero]
    rw [zero, finite_add_finite rfl hunits, ofUnits_units]
  · rfl

theorem IsMagnitude.add (hx : x.IsMagnitude) (hy : y.IsMagnitude) : (x + y).IsMagnitude := by
  obtain ⟨a, rfl⟩ | rfl := hx
  · obtain ⟨b, rfl⟩ | rfl := hy
    · rw [ofCode_add_ofCode]
      exact isMagnitude_ofUnits _ _
    · exact .inr rfl
  · rw [infinite_add hy]
    exact .inr rfl

/-- A sum of magnitudes is not below its first term. -/
theorem totalLe_add (hx : x.IsMagnitude) (hy : y.IsMagnitude) : x.totalLe (x + y) := by
  obtain ⟨a, rfl⟩ | rfl := hx
  · obtain ⟨b, rfl⟩ | rfl := hy
    · have hsum := ofUnits_totalLe Nat.one_pos (Nat.le_add_right (units a) (units b))
      rwa [ofUnits_units, ← ofCode_add_ofCode] at hsum
    · exact IsMagnitude.totalLe_infinite (.inl ⟨a, rfl⟩)
  · rw [infinite_add hy]
    exact totalLe_refl _

/-- A sum does not get less when its second term gets more. -/
theorem add_totalLe_add {y' : Binary64} (hx : le 0 x) (hy : y.IsMagnitude)
    (hy' : y'.IsMagnitude) (h : y.totalLe y') : (x + y).totalLe (x + y') := by
  obtain ⟨a, rfl⟩ | rfl | rfl := nonneg_cases hx
  · obtain ⟨c, rfl⟩ | rfl := hy'
    · obtain ⟨b, rfl⟩ | rfl := hy
      · have hunits := units_strictMono.monotone (Fin.le_def.mp (totalLe_ofCode_iff.mp h))
        rw [ofCode_add_ofCode, ofCode_add_ofCode]
        exact ofUnits_totalLe Nat.one_pos (Nat.add_le_add_left hunits (units a))
      · exact absurd h (not_infinite_totalLe c)
    · exact (IsMagnitude.add (.inl ⟨a, rfl⟩) hy).totalLe_infinite
  · rwa [negative_zero_add hy, negative_zero_add hy']
  · rw [infinite_add hy, infinite_add hy']
    exact totalLe_refl _

end BuzzerScript.Binary64
