import BuzzerScript.Proofs.NumericOrder

/-!
# Maxima in the numeric order

In the numeric order two numbers of which neither is above the other are the same number, but
it may be a zero with either sign.  So a maximum of two numbers is determined up to the sign of
zero, and it may be either one of two numbers that are equal.
-/

namespace BuzzerScript.Binary64

variable {x y m : Binary64} {r : Int} {s : Bool}

/-! ## Numbers up to the sign of zero -/

/-- The same number, where the sign of a zero does not count. -/
inductive SameNumber : Binary64 → Binary64 → Prop
  | refl (x : Binary64) : SameNumber x x
  | zeros (s t : Bool) : SameNumber (zero s) (zero t)

/-- The rank of a finite number tells its magnitude, and its sign unless it is zero. -/
theorem code_of_rank {c : Fin finiteMagnitudes} (h : (finite s c).rank? = some r) :
    c.val = r.natAbs ∧ (c.val = 0 ∨ s = decide (r < 0)) := by
  cases s with
  | false =>
    obtain rfl : (c.val : Int) = r := Option.some.inj h
    simp
  | true =>
    obtain rfl : -(c.val : Int) = r := Option.some.inj h
    refine ⟨by omega, ?_⟩
    rcases Nat.eq_zero_or_pos c.val with hzero | hpos
    · exact .inl hzero
    · exact .inr (decide_eq_true (by omega)).symm

/-- The rank of an infinite number is beyond those of the finite ones, and tells its sign. -/
theorem sign_of_rank (h : (infinite s).rank? = some r) :
    r.natAbs = finiteMagnitudes ∧ s = decide (r < 0) := by
  cases s with
  | false =>
    obtain rfl : (finiteMagnitudes : Int) = r := Option.some.inj h
    decide
  | true =>
    obtain rfl : -(finiteMagnitudes : Int) = r := Option.some.inj h
    decide

/-- Only the zeros share a rank. -/
theorem sameNumber_of_rank (hx : x.rank? = some r) (hy : y.rank? = some r) :
    SameNumber x y := by
  cases x with
  | finite s a =>
    obtain ⟨ha, hs⟩ := code_of_rank hx
    cases y with
    | finite t b =>
      obtain ⟨hb, ht⟩ := code_of_rank hy
      obtain rfl : a = b := Fin.ext (ha.trans hb.symm)
      by_cases hzero : a.val = 0
      · obtain rfl : a = ⟨0, by decide⟩ := Fin.ext hzero
        exact .zeros s t
      · rw [hs.resolve_left hzero, ht.resolve_left hzero]
        exact .refl _
    | infinite t =>
      have := a.isLt
      have := (sign_of_rank hy).1
      omega
    | nan => cases hy
  | infinite s =>
    obtain ⟨hr, hs⟩ := sign_of_rank hx
    cases y with
    | finite t b =>
      have := b.isLt
      have := (code_of_rank hy).1
      omega
    | infinite t =>
      rw [hs, (sign_of_rank hy).2]
      exact .refl _
    | nan => cases hy
  | nan => cases hx

/-- Numbers of which neither is above the other are the same. -/
theorem sameNumber_of_le (hxy : x.le y) (hyx : y.le x) : SameNumber x y := by
  obtain ⟨r, s, hx, hy, hrs⟩ := le_iff.mp hxy
  obtain ⟨s', r', hy', hx', hsr⟩ := le_iff.mp hyx
  obtain rfl : r = r' := Option.some.inj (hx.symm.trans hx')
  obtain rfl : s = s' := Option.some.inj (hy.symm.trans hy')
  obtain rfl : r = s := Int.le_antisymm hrs hsr
  exact sameNumber_of_rank hx hy

/-! ## Maxima -/

/-- A maximum of two numbers: the larger one, or either of them if they are equal.  A NaN loses
against any number. -/
inductive IsMaximum (x y : Binary64) : Binary64 → Prop
  | first (h : y.isNaN ∨ y.le x) : IsMaximum x y x
  | second (h : x.isNaN ∨ x.le y) : IsMaximum x y y

theorem isMaximum_max (x y : Binary64) : IsMaximum x y (x.max y) := by
  rw [max]
  split
  · next h => exact .second (by simpa using h)
  · next h =>
    simp only [Bool.or_eq_true, not_or, Bool.not_eq_true] at h
    obtain ⟨hx, hxy⟩ := h
    refine .first ?_
    cases hy : y.isNaN with
    | true => exact .inl rfl
    | false => exact .inr (le_of_not_le hx hy (by simp [hxy]))

theorem IsMaximum.symm (h : IsMaximum x y m) : IsMaximum y x m := by
  cases h with
  | first h => exact .second h
  | second h => exact .first h

theorem IsMaximum.cases (h : IsMaximum x y m) : m = x ∨ m = y := by
  cases h with
  | first => exact .inl rfl
  | second => exact .inr rfl

/-- A maximum is not below a first number that is not NaN. -/
theorem IsMaximum.first_le (h : IsMaximum x y m) (hx : x.isNaN = false) : x.le m := by
  cases h with
  | first => exact le_refl hx
  | second h => exact h.resolve_left (by simp [hx])

theorem IsMaximum.second_le (h : IsMaximum x y m) (hy : y.isNaN = false) : y.le m := by
  cases h with
  | first h => exact h.resolve_left (by simp [hy])
  | second => exact le_refl hy

end BuzzerScript.Binary64
