import BuzzerScript.Decimal.Layout
import BuzzerScript.Proofs.Decimal.Shortest
import BuzzerScript.Proofs.OptionsFile.Reading
import BuzzerScript.Proofs.Token.LongestMatch

/-!
# Written numbers read back

Whatever the conventions of an output, the text of a finite number is a numeral, and the
numeral spells the shortest decimal of the number, with zeros appended to it where the point
stands behind its digits.  So reading the text gives the number back, with its sign.

## Main definitions

* `Decimal.Mantissa text d`: digits, perhaps with a point among them, that spell the decimal
  `d`.
* `Decimal.Numeral text d`: a mantissa, perhaps with an exponent.

## Main statements

* `Decimal.Numeral.ofChars?_eq`: a numeral is read as the decimal that it spells.
* `NumberFormat.exists_numeral_magnitude`: magnitudes are written as numerals of their codes.
* `Binary64.ofChars?_render`: finite numbers read back.
-/

namespace BuzzerScript

namespace Decimal

/-! ## Numerals -/

/-- Digits with at most one point, which has a digit before it. -/
inductive Mantissa : List Char → Decimal → Prop
  | digits {whole : List Char} (hwhole : IsDigits whole) : Mantissa whole (ofDigits whole [])
  | point {whole fraction : List Char} (hwhole : IsDigits whole)
      (hfraction : ∀ c ∈ fraction, c.isDigit = true) :
      Mantissa (whole ++ '.' :: fraction) (ofDigits whole fraction)

/-- A mantissa with the exponent that is written behind it, if any. -/
inductive Numeral : List Char → Decimal → Prop
  | plain {text : List Char} {d : Decimal} (h : Mantissa text d) : Numeral text d
  | scientific {text : List Char} {d : Decimal} (h : Mantissa text d) (e : Int) :
      Numeral (text ++ 'e' :: (toString e).toList) ⟨d.coefficient, d.exponent + e⟩

variable {text : List Char} {d : Decimal}

theorem isDigits_toDigits (n : Nat) : IsDigits (Nat.toDigits 10 n) :=
  ⟨Nat.toDigits_ne_nil, fun _ => Nat.isDigit_of_mem_toDigits (by decide) (by decide)⟩

theorem natOfDigits_toDigits (n : Nat) : natOfDigits (Nat.toDigits 10 n) = n :=
  Nat.ofDigitChars_toDigits (by decide) (by decide)

theorem toList_toString_natCast (n : Nat) :
    (toString (n : Int)).toList = Nat.toDigits 10 n := by
  rw [Int.toString_eq_repr]
  exact Nat.toList_repr

theorem toList_toString_negSucc (n : Nat) :
    (toString (Int.negSucc n)).toList = '-' :: Nat.toDigits 10 (n + 1) := by
  rw [Int.toString_eq_repr]
  change ("-" ++ (n + 1).repr).toList = _
  rw [String.toList_append, Nat.toList_repr]
  rfl

/-- A written exponent is read as it is. -/
theorem exponentOfChars?_toString (e : Int) :
    exponentOfChars? ('e' :: (toString e).toList) = some e := by
  cases e with
  | ofNat n =>
    obtain ⟨hne, hall⟩ := isDigits_toDigits n
    have hunsigned : ∀ sign, ¬ Char.isDigit sign = true →
        ∀ digits, Nat.toDigits 10 n ≠ sign :: digits := by
      intro sign hsign digits hdigits
      exact hsign (hall sign (hdigits ▸ List.mem_cons_self))
    rw [Int.ofNat_eq_natCast, toList_toString_natCast, exponentOfChars?, if_pos (.inl rfl)]
    · simp [hne, List.all_eq_true.mpr hall, natOfDigits_toDigits]
    · exact hunsigned _ (by decide)
    · exact hunsigned _ (by decide)
  | negSucc n =>
    obtain ⟨hne, hall⟩ := isDigits_toDigits (n + 1)
    rw [toList_toString_negSucc, exponentOfChars?, if_pos (.inl rfl)]
    simp [hne, List.all_eq_true.mpr hall, natOfDigits_toDigits, Int.negSucc_eq]

theorem Mantissa.ofChars?_eq (h : Mantissa text d) : Decimal.ofChars? text = some d := by
  cases h with
  | digits hwhole => exact ofChars?_digits hwhole
  | point hwhole hfraction => exact ofChars?_point hwhole hfraction

/-- A mantissa ends before the mark of an exponent. -/
theorem Mantissa.ofChars?_append (h : Mantissa text d) (exponent : List Char) :
    Decimal.ofChars? (text ++ 'e' :: exponent) =
      (exponentOfChars? ('e' :: exponent)).map fun e => ⟨d.coefficient, d.exponent + e⟩ := by
  have hmark : ¬ Char.isDigit 'e' = true := by decide
  cases h with
  | digits hwhole =>
    simp [Decimal.ofChars?, takeWhile_isDigit_stop hwhole.2 hmark,
      dropWhile_isDigit_stop hwhole.2 hmark, hwhole.1]
  | point hwhole hfraction =>
    rw [List.append_assoc, List.cons_append]
    simp [Decimal.ofChars?, takeWhile_isDigit_stop hwhole.2 not_isDigit_point,
      dropWhile_isDigit_stop hwhole.2 not_isDigit_point,
      takeWhile_isDigit_stop hfraction hmark,
      dropWhile_isDigit_stop hfraction hmark, hwhole.1]

/-- A numeral is read as the decimal that it spells. -/
theorem Numeral.ofChars?_eq (h : Numeral text d) : Decimal.ofChars? text = some d := by
  cases h with
  | plain h => exact h.ofChars?_eq
  | scientific h e => rw [h.ofChars?_append, exponentOfChars?_toString, Option.map_some]

/-! ## Characters of numerals -/

/-- A digit, a point, the mark of an exponent, or a minus sign. -/
def isNumeralChar (c : Char) : Bool := c.isDigit || c = '.' || c = 'e' || c = '-'

theorem isNumeralChar_of_isDigit {c : Char} (h : c.isDigit = true) :
    isNumeralChar c = true := by
  simp [isNumeralChar, h]

theorem Mantissa.isNumeralChar (h : Mantissa text d) : ∀ c ∈ text, isNumeralChar c = true := by
  cases h with
  | digits hwhole => exact fun c hc => isNumeralChar_of_isDigit (hwhole.2 c hc)
  | point hwhole hfraction =>
    simp only [List.mem_append, List.mem_cons]
    rintro c (hc | rfl | hc)
    · exact isNumeralChar_of_isDigit (hwhole.2 c hc)
    · rfl
    · exact isNumeralChar_of_isDigit (hfraction c hc)

theorem isNumeralChar_toString (e : Int) :
    ∀ c ∈ (toString e).toList, isNumeralChar c = true := by
  have hdigits : ∀ n, ∀ c ∈ Nat.toDigits 10 n, isNumeralChar c = true := fun n c hc =>
    isNumeralChar_of_isDigit ((isDigits_toDigits n).2 c hc)
  cases e with
  | ofNat n =>
    rw [Int.ofNat_eq_natCast, toList_toString_natCast]
    exact hdigits n
  | negSucc n =>
    rw [toList_toString_negSucc]
    exact List.forall_mem_cons.mpr ⟨rfl, hdigits (n + 1)⟩

theorem Numeral.isNumeralChar (h : Numeral text d) : ∀ c ∈ text, isNumeralChar c = true := by
  cases h with
  | plain h => exact h.isNumeralChar
  | scientific h e =>
    refine List.forall_mem_append.mpr ⟨h.isNumeralChar, ?_⟩
    exact List.forall_mem_cons.mpr ⟨rfl, isNumeralChar_toString e⟩

theorem Mantissa.exists_cons (h : Mantissa text d) :
    ∃ c rest, text = c :: rest ∧ c.isDigit = true := by
  obtain ⟨whole, tail, rfl, hwhole⟩ : ∃ whole tail, text = whole ++ tail ∧ IsDigits whole := by
    cases h with
    | digits hwhole => exact ⟨_, [], (List.append_nil _).symm, hwhole⟩
    | point hwhole hfraction => exact ⟨_, _, rfl, hwhole⟩
  obtain ⟨c, rest, rfl⟩ := List.exists_cons_of_ne_nil hwhole.1
  exact ⟨c, rest ++ tail, rfl, hwhole.2 c List.mem_cons_self⟩

theorem Numeral.exists_cons (h : Numeral text d) :
    ∃ c rest, text = c :: rest ∧ c.isDigit = true := by
  cases h with
  | plain h => exact h.exists_cons
  | scientific h e =>
    obtain ⟨c, rest, rfl, hc⟩ := h.exists_cons
    exact ⟨c, _, rfl, hc⟩

/-! ## Digits and zeros -/

theorem natOfDigits_zeros_append (n : Nat) (digits : List Char) :
    natOfDigits (List.replicate n '0' ++ digits) = natOfDigits digits := by
  rw [natOfDigits, Nat.ofDigitChars_append, Nat.ofDigitChars_replicate_zero, Nat.mul_zero,
    natOfDigits]

theorem natOfDigits_append_zeros (digits : List Char) (n : Nat) :
    natOfDigits (digits ++ List.replicate n '0') = natOfDigits digits * tenPow n := by
  rw [natOfDigits, Nat.ofDigitChars_append, Nat.ofDigitChars_replicate_zero, Nat.mul_comm]
  rfl

/-- Zeros behind the digits of a whole number, before and after the point. -/
theorem ofDigits_zeros (digits : List Char) (m n : Nat) :
    ofDigits (digits ++ List.replicate m '0') (List.replicate n '0') =
      extend ⟨natOfDigits digits, m⟩ (m + n) := by
  have hexponent : -(n : Int) = m - (m + n : Nat) := by omega
  rw [ofDigits, List.append_assoc, List.replicate_append_replicate, natOfDigits_append_zeros,
    List.length_replicate, hexponent, extend]

theorem extend_zero (d : Decimal) : d.extend 0 = d := by
  rw [extend, tenPow_zero, Nat.mul_one, Int.natCast_zero, Int.sub_zero]

/-- Zeros before the digits of a fraction. -/
theorem ofDigits_zero_point (digits : List Char) (n : Nat) :
    ofDigits ['0'] (List.replicate n '0' ++ digits) =
      ⟨natOfDigits digits, -n - digits.length⟩ := by
  have hexponent : -((n + digits.length : Nat) : Int) = -n - digits.length := by omega
  have hdigits :
      ['0'] ++ (List.replicate n '0' ++ digits) = List.replicate (n + 1) '0' ++ digits :=
    rfl
  rw [ofDigits, hdigits, natOfDigits_zeros_append, List.length_append, List.length_replicate,
    hexponent]

/-- A point between digits. -/
theorem ofDigits_take_drop {digits : List Char} {k : Nat} (h : k ≤ digits.length) :
    ofDigits (digits.take k) (digits.drop k) = ⟨natOfDigits digits, k - digits.length⟩ := by
  have hexponent : -((digits.length - k : Nat) : Int) = k - digits.length := by omega
  rw [ofDigits, List.take_append_drop, List.length_drop, hexponent]

theorem isDigits_append {digits zeros : List Char} (h : IsDigits digits)
    (hzeros : ∀ c ∈ zeros, c.isDigit = true) : IsDigits (digits ++ zeros) :=
  ⟨List.append_ne_nil_of_left_ne_nil h.1 _, List.forall_mem_append.mpr ⟨h.2, hzeros⟩⟩

theorem isDigits_take {digits : List Char} {k : Nat} (h : IsDigits digits) (hk : 0 < k) :
    IsDigits (digits.take k) :=
  ⟨mt List.take_eq_nil_iff.mp (not_or.mpr ⟨hk.ne', h.1⟩),
    fun c hc => h.2 c (List.mem_of_mem_take hc)⟩

theorem isDigit_zeros (n : Nat) : ∀ c ∈ List.replicate n '0', c.isDigit = true := by
  intro c hc
  rw [List.eq_of_mem_replicate hc]
  rfl

end Decimal

namespace NumberFormat

open Decimal

variable (format : NumberFormat) {digits : List Char}

/-- In plain notation there are zeros around the digits, of which those at their end count. -/
theorem exists_mantissa_plain (h : IsDigits digits) (k : Int) :
    ∃ zeros, Mantissa (format.plain digits k)
      (extend ⟨natOfDigits digits, k - digits.length⟩ zeros) := by
  have hzero : IsDigits ['0'] := ⟨by simp, isDigit_zeros 1⟩
  unfold plain
  split
  · next k =>
    split_ifs with hfirst hwhole hpoint
    · have hvalue :
        ofDigits ['0'] digits = ⟨natOfDigits digits, Int.ofNat 0 - digits.length⟩ :=
        ofDigits_zero_point digits 0
      refine ⟨0, ?_⟩
      rw [hfirst, extend_zero, ← hvalue]
      exact .point hzero h.2
    · obtain ⟨m, rfl⟩ := Nat.exists_eq_add_of_le hwhole
      have hexponent : Int.ofNat (digits.length + m) - digits.length = m := by simp
      rw [hexponent, Nat.add_sub_cancel_left]
      refine ⟨m + 1, ?_⟩
      rw [← ofDigits_zeros]
      exact .point (isDigits_append h (isDigit_zeros m)) (isDigit_zeros 1)
    · obtain ⟨m, rfl⟩ := Nat.exists_eq_add_of_le hwhole
      have hexponent : Int.ofNat (digits.length + m) - digits.length = m := by simp
      rw [hexponent, Nat.add_sub_cancel_left, List.append_nil]
      refine ⟨m + 0, ?_⟩
      rw [← ofDigits_zeros]
      exact .digits (isDigits_append h (isDigit_zeros m))
    · refine ⟨0, ?_⟩
      rw [extend_zero, Int.ofNat_eq_natCast, ← ofDigits_take_drop (by omega)]
      exact .point (isDigits_take h (Nat.pos_of_ne_zero hfirst))
        fun c hc => h.2 c (List.mem_of_mem_drop hc)
  · next k =>
    refine ⟨0, ?_⟩
    have hexponent : Int.negSucc k = -(k + 1 : Nat) := rfl
    rw [extend_zero, hexponent, ← ofDigits_zero_point]
    exact .point hzero (List.forall_mem_append.mpr ⟨isDigit_zeros _, h.2⟩)

/-- With an exponent there is one digit before the point. -/
theorem numeral_scientific (h : IsDigits digits) (k : Int) :
    Numeral (scientific digits k) ⟨natOfDigits digits, k - digits.length⟩ := by
  match digits, h with
  | [d], h =>
    have hexponent : k - 1 = 0 + (k - 1) := by omega
    exact hexponent ▸ .scientific (.digits h) (k - 1)
  | d :: e :: rest, h =>
    have hd : IsDigits [d] := isDigits_take h Nat.one_pos
    have hexponent : k - (d :: e :: rest).length = -((e :: rest).length : Int) + (k - 1) := by
      simp only [List.length_cons]
      omega
    rw [hexponent]
    exact .scientific (.point hd fun c hc => h.2 c (List.mem_cons_of_mem d hc)) (k - 1)

/-- A magnitude is written as a numeral of a decimal that stands for it. -/
theorem exists_numeral_magnitude (c : Nat) :
    ∃ d, Numeral (format.magnitude c) d ∧ d.code = c := by
  have hzero : IsDigits ['0'] := ⟨by simp, isDigit_zeros 1⟩
  have hshortest := code_shortest format.tie c
  unfold magnitude
  generalize shortest format.tie c = d at hshortest ⊢
  have hdigits := isDigits_toDigits d.coefficient
  dsimp only
  split_ifs with hcode hpoint hplain
  · exact ⟨_, .plain (.point hzero (isDigit_zeros 1)), hcode ▸ code_of_coefficient_eq_zero rfl⟩
  · exact ⟨_, .plain (.digits hzero), hcode ▸ code_of_coefficient_eq_zero rfl⟩
  · obtain ⟨zeros, hmantissa⟩ := format.exists_mantissa_plain hdigits
      (d.exponent + (Nat.toDigits 10 d.coefficient).length)
    rw [natOfDigits_toDigits, Int.add_sub_cancel] at hmantissa
    exact ⟨_, .plain hmantissa, (code_extend d zeros).trans hshortest⟩
  · have hnumeral := numeral_scientific hdigits
      (d.exponent + (Nat.toDigits 10 d.coefficient).length)
    rw [natOfDigits_toDigits, Int.add_sub_cancel] at hnumeral
    exact ⟨d, hnumeral, hshortest⟩

end NumberFormat

/-! ## Signs -/

/-- What starts with a digit is read as a numeral, with the sign before it. -/
theorem Binary64.ofChars?_signed {c : Char} (h : c.isDigit = true) (negative : Bool)
    (rest : List Char) :
    Binary64.ofChars? (NumberFormat.signed negative (c :: rest)) =
      (Decimal.ofChars? (c :: rest)).map (Decimal.nearest negative) := by
  cases negative with
  | false => exact ofChars?_of_isDigit h rest
  | true =>
    have hne := Text.lowerCase_ne_of_isDigit h rest
    rw [NumberFormat.signed, if_pos rfl, Binary64.ofChars?.eq_1,
      if_neg (not_or.mpr ⟨hne _ (by decide), hne _ (by decide)⟩), if_neg (hne _ (by decide))]

/-- Finite numbers read back. -/
theorem Binary64.ofChars?_render (format : NumberFormat) (negative : Bool)
    (c : Fin finiteMagnitudes) :
    Binary64.ofChars? (format.render (.finite negative c)).toList =
      some (.finite negative c) := by
  obtain ⟨d, hnumeral, hcode⟩ := format.exists_numeral_magnitude c
  obtain ⟨first, rest, htext, hfirst⟩ := hnumeral.exists_cons
  rw [NumberFormat.render, String.toList_ofList, htext, ofChars?_signed hfirst, ← htext,
    hnumeral.ofChars?_eq, Option.map_some, Decimal.nearest_eq_finite_iff.mpr hcode]

end BuzzerScript
