import BuzzerScript.Decimal

/-!
# Shortest decimals

Many decimals stand for the same double.  The one that is written has the fewest digits, and of
those with the fewest digits it is the nearest to the double.

The search goes over grids: for `n` digits the candidates are the multiples of one power
of ten, and if any of them reads back to the double, so does one of the two that enclose
it.  Candidates are tested by reading them, so that what is written is by construction
something that reads back.
-/

namespace BuzzerScript.Decimal

open Binary64

/-- Which of two equally near decimals of equal length is written. -/
inductive Tie where
  /-- The one whose last digit is even. -/
  | toEven
  /-- The larger one. -/
  | away
  deriving DecidableEq

/-- The count of decimal digits of a natural number, one for zero. -/
def digitCount (n : Nat) : Nat := (Nat.toDigits 10 n).length

/-- Strip the trailing zeros of a coefficient into the exponent. -/
def trim (d : Decimal) : Decimal :=
  if _h : 0 < d.coefficient ∧ d.coefficient % 10 = 0 then
    trim ⟨d.coefficient / 10, d.exponent + 1⟩
  else d
termination_by d.coefficient
decreasing_by exact Nat.div_lt_self (by omega) (by decide)

/-- The position of the decimal point before the first digit of a positive magnitude: the `k`
with `10 ^ (k - 1) ≤ value < 10 ^ k`.  Below one no magnitude is a power of ten, so the digits
of the whole part of the inverse count the zeros after the point. -/
def pointPosition (c : Nat) : Int :=
  if unitsInOne ≤ units c then digitCount (units c / unitsInOne)
  else 1 - (digitCount (unitsInOne / units c) : Int)

/-- A decimal that stands for the magnitude with code `c`. -/
def ReadsAs (d : Decimal) (c : Nat) : Prop :=
  match d.nearest false with
  | .finite _ c' => c'.val = c
  | _ => False

instance (d : Decimal) (c : Nat) : Decidable (d.ReadsAs c) := by
  unfold ReadsAs; split <;> infer_instance

/-- The better of the two decimals that enclose a magnitude on the grid of `n` digits, if any
of them reads back. -/
def onGrid? (tie : Tie) (c n : Nat) : Option Decimal :=
  let e := pointPosition c - n
  let (num, den) : Nat × Nat :=
    match e with
    | .ofNat k => (units c, unitsInOne * tenPow k)
    | .negSucc k => (units c * tenPow (k + 1), unitsInOne)
  let below : Decimal := ⟨num / den, e⟩
  let above : Decimal := ⟨num / den + 1, e⟩
  let twiceRest := 2 * (num % den)
  let aboveIsNearer : Bool :=
    den < twiceRest ∨ twiceRest = den ∧ (tie = .away ∨ num / den % 2 = 1)
  if below.ReadsAs c ∧ above.ReadsAs c then some (if aboveIsNearer then above else below)
  else if below.ReadsAs c then some below
  else if above.ReadsAs c then some above
  else none

/-- All the digits of a magnitude. -/
def expansion (c : Nat) : Decimal := ⟨units c * Nat.pow 5 1074, -1074⟩

/-- The decimal written for the magnitude with code `c`, without trailing zeros.  Seventeen
digits always suffice; the full expansion stands for a search that ends without a hit. -/
def shortest (tie : Tie) (c : Nat) : Decimal :=
  (((List.range 17).findSome? fun i => onGrid? tie c (i + 1)).getD (expansion c)).trim

end BuzzerScript.Decimal
