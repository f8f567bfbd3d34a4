import BuzzerScript.Decimal.Shortest

/-!
# Numbers as text

A double is written either with its shortest digits, in plain notation or with an exponent,
or with a fixed number of places.  What the outputs of this library differ in is collected
in a `NumberFormat`.

## Main definitions

* `NumberFormat`: the decisions of an output about its numbers.
* `NumberFormat.render`: a number with its shortest digits.
* `Binary64.renderPlaces`: a number rounded to a fixed number of decimal places.
-/

namespace BuzzerScript

/-- How an output writes its numbers. -/
structure NumberFormat where
  /-- Which of two equally near shortest decimals is written. -/
  tie : Decimal.Tie
  /-- Positions `k` of the decimal point (the number is `0.digits * 10 ^ k`) that are written
  in plain notation; all other numbers are written with an exponent. -/
  isPlain : Int → Bool
  /-- Whether a whole number in plain notation ends in `.0`. -/
  pointOnWhole : Bool
  /-- The text of positive infinity; the negative one has a minus sign in front. -/
  infinity : String
  /-- The text of both NaNs. -/
  notANumber : String

namespace NumberFormat

/-- The digits of a number with the point after the first `k` of them; zeros fill the places
between the digits and a point outside of them. -/
def plain (format : NumberFormat) (digits : List Char) (k : Int) : List Char :=
  match k with
  | .ofNat k =>
    if k = 0 then '0' :: '.' :: digits
    else if digits.length ≤ k then
      digits ++ List.replicate (k - digits.length) '0' ++
        (if format.pointOnWhole then ['.', '0'] else [])
    else digits.take k ++ '.' :: digits.drop k
  | .negSucc k => '0' :: '.' :: (List.replicate (k + 1) '0' ++ digits)

/-- One digit before the point, then the exponent without a plus sign. -/
def scientific (digits : List Char) (k : Int) : List Char :=
  let mantissa :=
    match digits with
    | [] => []
    | [d] => [d]
    | d :: rest => d :: '.' :: rest
  mantissa ++ 'e' :: (toString (k - 1)).toList

/-- The magnitude with code `c`. -/
def magnitude (format : NumberFormat) (c : Nat) : List Char :=
  if c = 0 then '0' :: (if format.pointOnWhole then ['.', '0'] else [])
  else
    let d := Decimal.shortest format.tie c
    let digits := Nat.toDigits 10 d.coefficient
    let k := d.exponent + digits.length
    if format.isPlain k then format.plain digits k else scientific digits k

/-- Put a minus sign in front of the text of a negative number. -/
def signed (negative : Bool) (text : List Char) : List Char :=
  if negative then '-' :: text else text

/-- A number with its shortest digits. -/
def render (format : NumberFormat) (x : Binary64) : String :=
  match x with
  | .finite s c => String.ofList (signed s (format.magnitude c))
  | .infinite s => String.ofList (signed s format.infinity.toList)
  | .nan _ => format.notANumber

end NumberFormat

/-- A number with a fixed count of decimal places, at least one: the exact value rounded to the
nearest multiple of the last place, a half going to the even one. -/
def Binary64.renderPlaces (places : Nat) (x : Binary64) : String :=
  match x with
  | .finite s c =>
    let scaled := divNearestEven (units c * Decimal.tenPow places) unitsInOne
    let whole := Nat.toDigits 10 (scaled / Decimal.tenPow places)
    let fraction := Nat.toDigits 10 (scaled % Decimal.tenPow places)
    let padded := List.replicate (places - fraction.length) '0' ++ fraction
    String.ofList (NumberFormat.signed s (whole ++ '.' :: padded))
  | .infinite s => String.ofList (NumberFormat.signed s "inf".toList)
  | .nan _ => "NaN"

end BuzzerScript
