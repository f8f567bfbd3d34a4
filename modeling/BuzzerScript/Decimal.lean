import BuzzerScript.Binary64
import BuzzerScript.Text.Case

/-!
# Decimal numerals

A decimal is a coefficient times a power of ten.  This module says which double a decimal
stands for and reads decimals from text; which decimal is written for a double is the subject
of `BuzzerScript.Decimal.Shortest`.

## Main definitions

* `Decimal.nearest negative d`: the double nearest to the decimal `d`.
* `Decimal.ofChars?`: an unsigned numeral with an optional point and an optional exponent.
* `Binary64.ofChars?`: a signed numeral, or one of the words for infinity and NaN.
-/

namespace BuzzerScript

/-- The number `coefficient * 10 ^ exponent`. -/
structure Decimal where
  coefficient : Nat
  exponent : Int
  deriving DecidableEq, Repr

namespace Decimal

/-- A power of ten. -/
def tenPow (n : Nat) : Nat := Nat.pow 10 n

/-- The double nearest to a decimal, with the given sign.

An exponent far beyond the range of doubles is answered at once, so that its power of ten need
not be formed: a coefficient other than zero times `10 ^ 400` overflows, and a number below
`10 ^ (-400)` is nearer to zero than to any other double. -/
def nearest (negative : Bool) (d : Decimal) : Binary64 :=
  if d.coefficient = 0 then Binary64.zero negative
  else if 400 < d.exponent then .infinite negative
  else if d.exponent + d.coefficient.log2 < -400 then Binary64.zero negative
  else
    match d.exponent with
    | .ofNat e => Binary64.ofUnits negative (d.coefficient * tenPow e * Binary64.unitsInOne) 1
    | .negSucc e =>
      Binary64.ofUnits negative (d.coefficient * Binary64.unitsInOne) (tenPow (e + 1))

/-- The number that a run of digits spells. -/
def natOfDigits (digits : List Char) : Nat := Nat.ofDigitChars 10 digits 0

/-- The decimal with these digits before and after its point. -/
def ofDigits (whole fraction : List Char) : Decimal :=
  ⟨natOfDigits (whole ++ fraction), -fraction.length⟩

/-! ## Reading -/

/-- The exponent after a numeral: nothing, or `e` or `E`, an optional sign and at least one
digit. -/
def exponentOfChars? : List Char → Option Int
  | [] => some 0
  | mark :: rest =>
    if mark = 'e' ∨ mark = 'E' then
      let (negative, digits) : Bool × List Char :=
        match rest with
        | '-' :: digits => (true, digits)
        | '+' :: digits => (false, digits)
        | digits => (false, digits)
      if digits ≠ [] ∧ digits.all Char.isDigit then
        some (if negative then -(natOfDigits digits : Int) else natOfDigits digits)
      else none
    else none

/-- An unsigned numeral: digits with at most one point among, before or after them, at least
one digit in all, then an optional exponent. -/
def ofChars? (text : List Char) : Option Decimal :=
  let whole := text.takeWhile Char.isDigit
  let afterWhole := text.dropWhile Char.isDigit
  let (fraction, rest) : List Char × List Char :=
    match afterWhole with
    | '.' :: digits => (digits.takeWhile Char.isDigit, digits.dropWhile Char.isDigit)
    | rest => ([], rest)
  if whole = [] ∧ fraction = [] then none
  else
    (exponentOfChars? rest).map fun e =>
      let d := ofDigits whole fraction
      ⟨d.coefficient, d.exponent + e⟩

end Decimal

/-- A signed number: a numeral, or one of the words `inf`, `infinity` and `nan` in any case.  A
numeral beyond the range of doubles reads as an infinity. -/
def Binary64.ofChars? (text : List Char) : Option Binary64 :=
  let (negative, body) : Bool × List Char :=
    match text with
    | '-' :: body => (true, body)
    | '+' :: body => (false, body)
    | body => (false, body)
  let word := Text.lowerCase (String.ofList body)
  if word = "inf" ∨ word = "infinity" then some (.infinite negative)
  else if word = "nan" then some (.nan (.canonical negative))
  else (Decimal.ofChars? body).map (Decimal.nearest negative)

end BuzzerScript
