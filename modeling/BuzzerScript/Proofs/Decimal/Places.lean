import BuzzerScript.Proofs.Decimal.Layout
import Mathlib.Data.List.Induction

/-!
# Numbers with a fixed count of places

A number that is written with a fixed count of decimal places is the exact value rounded to the
last of them.  Here this is said without the digits being computed: the digits spell a whole
number of last places that is nearest to the value, the even one of two that are equally near,
and the count of digits behind the point is the one that is asked for.
-/

namespace BuzzerScript

open Decimal

namespace Binary64

/-- The whole number nearest to `num / den`, and the even one of two. -/
structure IsNearestEven (num den n : Nat) : Prop where
  not_above : 2 * num ≤ (2 * n + 1) * den
  not_below : 2 * n * den ≤ 2 * num + den
  even : 2 * num = (2 * n + 1) * den ∨ 2 * n * den = 2 * num + den → n % 2 = 0

theorem isNearestEven_divNearestEven (num : Nat) {den : Nat} (hden : 0 < den) :
    IsNearestEven num den (divNearestEven num den) := by
  have hdiv := Nat.div_add_mod num den
  have hmod := Nat.mod_lt num hden
  rw [divNearestEven]
  generalize num / den = q at *
  generalize num % den = r at *
  obtain rfl := hdiv
  -- the rest is less than a half, more than a half, or a half
  split_ifs <;> constructor <;> grind

theorem IsNearestEven.le {num den m n : Nat} (hden : 0 < den) (hm : IsNearestEven num den m)
    (hn : IsNearestEven num den n) : m ≤ n := by
  by_contra hlt
  have hsucc : (2 * n + 2) * den = (2 * n + 1) * den + den := Nat.succ_mul (2 * n + 1) den
  have hstep : (2 * n + 2) * den ≤ 2 * m * den := Nat.mul_le_mul_right den (by omega)
  have hbelow := hn.not_above
  have habove := hm.not_below
  -- the value is half way between both, and they are neighbours
  have hn_even := hn.even (.inl (by omega))
  have hm_even := hm.even (.inr (by omega))
  have hnext : 2 * m = 2 * n + 2 := Nat.eq_of_mul_eq_mul_right hden (by omega)
  omega

theorem IsNearestEven.unique {num den m n : Nat} (hden : 0 < den)
    (hm : IsNearestEven num den m) (hn : IsNearestEven num den n) : m = n :=
  Nat.le_antisymm (hm.le hden hn) (hn.le hden hm)

/-- The text of a number with a count of decimal places. -/
inductive HasPlaces (places : Nat) : Binary64 → String → Prop
  | finite {negative : Bool} {c : Fin finiteMagnitudes} {n : Nat} {fraction : List Char}
      (nearest : IsNearestEven (units c * 10 ^ places) unitsInOne n)
      (length : fraction.length = places) (digits : ∀ d ∈ fraction, d.isDigit = true)
      (value : natOfDigits fraction = n % 10 ^ places) :
      HasPlaces places (.finite negative c)
        ((if negative then "-" else "") ++ toString (n / 10 ^ places) ++ "." ++
          String.ofList fraction)
  | infinite {negative : Bool} :
      HasPlaces places (.infinite negative) (if negative then "-inf" else "inf")
  | nan {n : NaN} : HasPlaces places (.nan n) "NaN"

/-- Zeros in front of digits count for nothing. -/
theorem natOfDigits_replicate_append (count : Nat) (digits : List Char) :
    natOfDigits (List.replicate count '0' ++ digits) = natOfDigits digits := by
  rw [natOfDigits, Nat.ofDigitChars_append, Nat.ofDigitChars_replicate_zero, Nat.mul_zero,
    natOfDigits]

theorem ofList_signed (negative : Bool) (text : List Char) :
    String.ofList (NumberFormat.signed negative text) =
      (if negative then "-" else "") ++ String.ofList text := by
  cases negative with
  | false => exact (String.empty_append).symm
  | true => exact String.toList_inj.mp (by simp [NumberFormat.signed])

/-- As many digits with the same value are the same digits. -/
theorem eq_of_natOfDigits_eq {digits others : List Char}
    (hlength : digits.length = others.length) (hdigits : ∀ d ∈ digits, d.isDigit = true)
    (hothers : ∀ d ∈ others, d.isDigit = true) (h : natOfDigits digits = natOfDigits others) :
    digits = others := by
  induction digits using List.reverseRecOn generalizing others with
  | nil => exact (List.length_eq_zero_iff.mp hlength.symm).symm
  | append_singleton digits d ih =>
    obtain rfl | ⟨others, d', rfl⟩ := others.eq_nil_or_concat
    · simp at hlength
    · rw [List.concat_eq_append] at *
      have hd := toNat_of_isDigit (hdigits d (by simp))
      have hd' := toNat_of_isDigit (hothers d' (by simp))
      have hstep : ∀ digits c, natOfDigits (digits ++ [c]) =
          10 * natOfDigits digits + (c.toNat - 48) := fun _ _ => by
        rw [natOfDigits, Nat.ofDigitChars_append]
        rfl
      rw [hstep, hstep] at h
      rw [ih (by simpa using hlength) (fun c hc => hdigits c (by simp [hc]))
        (fun c hc => hothers c (by simp [hc])) (by omega)]
      obtain rfl : d = d' := Char.toNat_inj.mp (by omega)
      rfl

/-- A number is written with the places that are asked for. -/
theorem hasPlaces_renderPlaces {places : Nat} (h : 0 < places) (x : Binary64) :
    HasPlaces places x (x.renderPlaces places) := by
  cases x with
  | finite negative c =>
    have hnearest := isNearestEven_divNearestEven (units c * tenPow places) unitsInOne_pos
    generalize hn : divNearestEven (units c * tenPow places) unitsInOne = n at hnearest
    have hlt : n % 10 ^ places < 10 ^ places := Nat.mod_lt _ (Nat.pow_pos (by decide))
    have hlength := (Nat.length_toDigits_le_iff (by decide) h).mpr hlt
    have htext : renderPlaces places (finite negative c) =
        (if negative then "-" else "") ++ toString (n / 10 ^ places) ++ "." ++
          String.ofList (List.replicate
            (places - (Nat.toDigits 10 (n % 10 ^ places)).length) '0' ++
            Nat.toDigits 10 (n % 10 ^ places)) := by
      simp only [renderPlaces, hn, ofList_signed]
      refine String.toList_inj.mp ?_
      simp [tenPow, toString, Nat.toList_repr]
    rw [htext]
    refine .finite hnearest ?_ ?_ ?_
    · simp only [List.length_append, List.length_replicate]
      omega
    · intro d hd
      obtain hzero | hdigit := List.mem_append.mp hd
      · obtain rfl := List.eq_of_mem_replicate hzero
        rfl
      · exact (isDigits_toDigits _).2 d hdigit
    · rw [natOfDigits_replicate_append, natOfDigits_toDigits]
  | infinite negative => cases negative <;> exact .infinite
  | nan n => exact .nan

/-- There is one text of a number with a count of places. -/
theorem HasPlaces.unique {places : Nat} {x : Binary64} {text other : String}
    (h : HasPlaces places x text) (h' : HasPlaces places x other) : text = other := by
  cases h with
  | finite nearest length digits value =>
    cases h' with
    | finite nearest' length' digits' value' =>
      obtain rfl := nearest.unique unitsInOne_pos nearest'
      rw [eq_of_natOfDigits_eq (length.trans length'.symm) digits digits'
        (value.trans value'.symm)]
  | infinite => cases h' with | infinite => rfl
  | nan => cases h' with | nan => rfl

end Binary64

end BuzzerScript
