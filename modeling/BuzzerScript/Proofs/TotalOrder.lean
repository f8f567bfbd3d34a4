import BuzzerScript.Binary64
import Mathlib.Algebra.Order.Ring.Nat
import Mathlib.Tactic.SplitIfs

/-!
# The total order of doubles

Doubles and their bit patterns are the same thing in two notations, NaNs and their payloads
included.  The total order is that of the bit patterns, read as sign and magnitude: a pattern
with its sign bit set precedes all without, and the order among them is the other way round.
-/

namespace BuzzerScript.Binary64

/-- The place of a bit pattern in the total order. -/
def bitPlace (bits : UInt64) : Int :=
  if bits.toNat < 2 ^ 63 then bits.toNat else 2 ^ 63 - 1 - (bits.toNat : Int)

theorem toNat_toUInt64 {n : Nat} (h : n < 2 ^ 64) : n.toUInt64.toNat = n :=
  UInt64.toNat_ofNat_of_lt' h

theorem toNat_pattern (negative : Bool) {magnitude : Nat} (h : magnitude < 1 <<< 63) :
    (pattern negative magnitude).toNat =
      if negative then (1 <<< 63) + magnitude else magnitude := by
  refine toNat_toUInt64 ?_
  cases negative <;> simp only [if_true, if_false, Bool.false_eq_true] <;> omega

theorem magnitude_nan_lt (n : NaN) : finiteMagnitudes + n.fraction < 1 <<< 63 :=
  Nat.add_lt_add_left n.fraction_lt finiteMagnitudes

/-! ## Bit patterns -/

theorem ofBits_pattern (negative : Bool) (magnitude : Fin (1 <<< 63)) :
    ofBits (pattern negative magnitude) = ofMagnitude negative magnitude := by
  have hlt : magnitude.val < 1 <<< 63 := magnitude.isLt
  have hsign : decide (1 <<< 63 ≤ (pattern negative magnitude).toNat) = negative := by
    rw [toNat_pattern negative hlt]
    cases negative with
    | false => exact decide_eq_false (Nat.not_le.mpr hlt)
    | true => exact decide_eq_true (Nat.le_add_right _ _)
  have hmagnitude : (pattern negative magnitude).toNat % (1 <<< 63) = magnitude := by
    rw [toNat_pattern negative hlt]
    cases negative with
    | false => exact Nat.mod_eq_of_lt hlt
    | true => exact (Nat.add_mod_left _ _).trans (Nat.mod_eq_of_lt hlt)
  rw [ofBits, hsign]
  exact congrArg (ofMagnitude negative) (Fin.ext hmagnitude)

theorem toBits_ofMagnitude (negative : Bool) (magnitude : Fin (1 <<< 63)) :
    (ofMagnitude negative magnitude).toBits = pattern negative magnitude := by
  rw [ofMagnitude]
  split_ifs with hfinite hinfinite
  · rfl
  · rw [hinfinite]
    rfl
  · exact congrArg (pattern negative) (Nat.add_sub_cancel' (Nat.not_lt.mp hfinite))

/-- A double is the number of its bit pattern. -/
theorem ofBits_toBits (x : Binary64) : ofBits x.toBits = x := by
  cases x with
  | finite s c =>
    have hlt : c.val < 1 <<< 63 := c.isLt.trans (by decide)
    refine (ofBits_pattern s ⟨c.val, hlt⟩).trans ?_
    rw [ofMagnitude, dif_pos c.isLt]
  | infinite s =>
    exact ofBits_pattern s ⟨finiteMagnitudes, by decide⟩
  | nan n =>
    have hpos := n.fraction_pos
    refine (ofBits_pattern n.negative ⟨_, magnitude_nan_lt n⟩).trans ?_
    rw [ofMagnitude, dif_neg (by simp), dif_neg (by simp; omega)]
    simp

/-- A bit pattern is that of its number. -/
theorem toBits_ofBits (bits : UInt64) : (ofBits bits).toBits = bits := by
  have hlt : bits.toNat < 2 ^ 64 := bits.toNat_lt
  refine (toBits_ofMagnitude _ _).trans (UInt64.toNat_inj.mp ?_)
  rw [toNat_pattern _ (Nat.mod_lt _ (by decide))]
  by_cases hsign : 1 <<< 63 ≤ bits.toNat
  · rw [decide_eq_true hsign, if_pos rfl]
    have hmod := Nat.mod_eq_sub_mod hsign
    rw [hmod, Nat.mod_eq_of_lt (by omega)]
    exact Nat.add_sub_cancel' hsign
  · rw [decide_eq_false hsign, if_neg Bool.false_ne_true]
    exact Nat.mod_eq_of_lt (Nat.not_le.mp hsign)

/-! ## The order -/

theorem bitPlace_pattern (negative : Bool) {magnitude : Nat} (h : magnitude < 1 <<< 63) :
    bitPlace (pattern negative magnitude) =
      if negative then -(magnitude : Int) - 1 else magnitude := by
  rw [bitPlace, toNat_pattern negative h]
  cases negative with
  | false => exact if_pos h
  | true =>
    rw [if_neg (by simp), if_pos rfl, if_pos rfl]
    omega

/-- The rank of a double is the place of its bit pattern. -/
theorem bitPlace_toBits (x : Binary64) : bitPlace x.toBits = x.totalRank := by
  cases x with
  | finite s c => exact bitPlace_pattern s (c.isLt.trans (by decide))
  | infinite s => exact bitPlace_pattern s (by decide)
  | nan n => exact bitPlace_pattern n.negative (magnitude_nan_lt n)

/-- `totalLe` compares the places of bit patterns. -/
theorem totalLe_iff (x y : Binary64) :
    x.totalLe y = true ↔ bitPlace x.toBits ≤ bitPlace y.toBits := by
  rw [totalLe, decide_eq_true_iff, bitPlace_toBits, bitPlace_toBits]

/-- Of two NaNs the one with the smaller payload comes first. -/
example :
    totalLe (ofBits 0x7FF8000000000001) (ofBits 0x7FF8000000000002) = true ∧
      totalLe (ofBits 0x7FF8000000000002) (ofBits 0x7FF8000000000001) = false := by
  decide +kernel

theorem totalLe_trans (x y z : Binary64) (hxy : x.totalLe y = true)
    (hyz : y.totalLe z = true) : x.totalLe z = true := by
  simp only [totalLe, decide_eq_true_eq] at hxy hyz ⊢
  omega

theorem totalLe_total (x y : Binary64) : (x.totalLe y || y.totalLe x) = true := by
  simp only [totalLe, Bool.or_eq_true, decide_eq_true_eq]
  omega

end BuzzerScript.Binary64
