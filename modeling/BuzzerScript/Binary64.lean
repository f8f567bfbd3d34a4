/-!
# Double precision numbers

The numbers of a score are IEEE 754 doubles.  A double is kept as a sign and a *magnitude
code*, the number that its exponent and fraction bits spell.  The code counts the finite
magnitudes from zero upwards, so the order of codes is the order of magnitudes, and nothing but
an integer has to be compared.

Each operation is the exact result in integer arithmetic followed by one rounding to nearest,
ties to the even code.  The exact arithmetic works in *units* of `2 ^ (-1074)`, the smallest
positive double: every finite double is a whole number of units.
-/

namespace BuzzerScript

/-- The number of finite magnitudes; as a code it would be the one of infinity. -/
abbrev finiteMagnitudes : Nat := 2047 <<< 52

/-- A bit pattern that is not a number: the sign, and the fraction bits, which
are not all zero. -/
structure NaN where
  negative : Bool
  fraction : Nat
  fraction_pos : 0 < fraction
  fraction_lt : fraction < 1 <<< 52
  deriving DecidableEq

namespace NaN

/-- The highest bit of the fraction, which tells a quiet NaN from a signalling one. -/
abbrev quietBit : Nat := 1 <<< 51

/-- The quiet NaN with an otherwise empty fraction. -/
def canonical (negative : Bool) : NaN where
  negative := negative
  fraction := quietBit
  fraction_pos := by decide
  fraction_lt := by decide

/-- The same NaN made quiet. -/
def quiet (n : NaN) : NaN :=
  if h : n.fraction < quietBit then
    { negative := n.negative
      fraction := quietBit + n.fraction
      fraction_pos := Nat.add_pos_left (by decide) n.fraction
      fraction_lt := Nat.add_lt_add_left h quietBit }
  else n

end NaN

/-- A double precision number.  Every bit pattern is one of these and is kept whole. -/
inductive Binary64 where
  | finite (negative : Bool) (code : Fin finiteMagnitudes)
  | infinite (negative : Bool)
  | nan (value : NaN)
  deriving DecidableEq

namespace Binary64

/-! ## Magnitudes in units -/

/-- The units in one. -/
abbrev unitsInOne : Nat := 1 <<< 1074

/-- Neighbouring magnitudes near the code `c` are `2 ^ spacing c` units apart.  The two lowest
binades, the subnormal one and the first normal one, share the spacing of one unit. -/
def spacing (c : Nat) : Nat := (c >>> 52) - 1

/-- The magnitude of a code, in units. -/
def units (c : Nat) : Nat := (c - (spacing c <<< 52)) <<< spacing c

/-- The whole number nearest to `num / den`, an exact half going to the even neighbour. -/
def divNearestEven (num den : Nat) : Nat :=
  let q := num / den
  let r := num % den
  if 2 * r < den then q
  else if den < 2 * r then q + 1
  else q + q % 2

/-- The code nearest to `num / den` units, ties to even.

Where the value has more than 53 binary digits before its unit point, the digits past the first
53 are rounded away, and the number of digits dropped is the spacing of its binade.  A carry to
`2 ^ 53` is the first code of the next binade, so that no second normalisation is needed; a
code of `finiteMagnitudes` or more means that the value rounds to infinity. -/
def nearestCode (num den : Nat) : Nat :=
  let dropped := (num / den).log2 - 52
  (dropped <<< 52) + divNearestEven num (den <<< dropped)

/-- The double nearest to `num / den` units with the given sign. -/
def ofUnits (negative : Bool) (num den : Nat) : Binary64 :=
  let c := nearestCode num den
  if h : c < finiteMagnitudes then .finite negative ⟨c, h⟩ else .infinite negative

/-- Zero with the given sign. -/
def zero (negative : Bool) : Binary64 := .finite negative ⟨0, by decide⟩

/-- The result of an operation that has no value, such as `0 / 0`.  The standard leaves its
sign open; it is negative on x86. -/
def invalid : Binary64 := .nan (.canonical true)

/-- The double nearest to a natural number. -/
def ofNat (n : Nat) : Binary64 := ofUnits false (n * unitsInOne) 1

/-- The double nearest to an integer. -/
def ofInt (i : Int) : Binary64 := ofUnits (i < 0) (i.natAbs * unitsInOne) 1

instance (n : Nat) : OfNat Binary64 n := ⟨ofNat n⟩

instance : Inhabited Binary64 := ⟨zero false⟩

/-! ## Arithmetic

A NaN operand, made quiet, is the result of every operation on it.  Of two NaNs the standard
lets either be the result; it is the first one on x86. -/

/-- A number of units with a sign. -/
def signedUnits (negative : Bool) (c : Nat) : Int :=
  if negative then -(units c : Int) else (units c : Int)

/-- The rounded sum.  An exact sum of zero is `-0` only if both operands are negative zeros. -/
def add : Binary64 → Binary64 → Binary64
  | .nan n, _ => .nan n.quiet
  | _, .nan n => .nan n.quiet
  | .infinite s, .infinite t => if s = t then .infinite s else invalid
  | .infinite s, .finite _ _ => .infinite s
  | .finite _ _, .infinite t => .infinite t
  | .finite s a, .finite t b =>
    let total := signedUnits s a + signedUnits t b
    if total = 0 then zero (s && t) else ofUnits (total < 0) total.natAbs 1

/-- The rounded product. -/
def mul : Binary64 → Binary64 → Binary64
  | .nan n, _ => .nan n.quiet
  | _, .nan n => .nan n.quiet
  | .infinite s, .infinite t => .infinite (s ^^ t)
  | .infinite s, .finite t b => if b.val = 0 then invalid else .infinite (s ^^ t)
  | .finite s a, .infinite t => if a.val = 0 then invalid else .infinite (s ^^ t)
  | .finite s a, .finite t b => ofUnits (s ^^ t) (units a * units b) unitsInOne

/-- The rounded quotient. -/
def div : Binary64 → Binary64 → Binary64
  | .nan n, _ => .nan n.quiet
  | _, .nan n => .nan n.quiet
  | .infinite _, .infinite _ => invalid
  | .infinite s, .finite t _ => .infinite (s ^^ t)
  | .finite s _, .infinite t => zero (s ^^ t)
  | .finite s a, .finite t b =>
    if b.val = 0 then
      if a.val = 0 then invalid else .infinite (s ^^ t)
    else ofUnits (s ^^ t) (units a * unitsInOne) (units b)

instance : Add Binary64 := ⟨add⟩
instance : Mul Binary64 := ⟨mul⟩
instance : Div Binary64 := ⟨div⟩

/-! ## Classes and order -/

/-- Neither infinite nor NaN. -/
def isFinite : Binary64 → Bool
  | .finite _ _ => true
  | _ => false

/-- Not a number. -/
def isNaN : Binary64 → Bool
  | .nan _ => true
  | _ => false

/-- The place of a number in the numeric order; both zeros have the same place, and a NaN has
none. -/
def rank? : Binary64 → Option Int
  | .finite s c => some (if s then -(c.val : Int) else c.val)
  | .infinite s => some (if s then -(finiteMagnitudes : Int) else finiteMagnitudes)
  | .nan _ => none

/-- The numeric `<`, false if either side is NaN. -/
def lt (x y : Binary64) : Bool :=
  match x.rank?, y.rank? with
  | some a, some b => a < b
  | _, _ => false

/-- The numeric `≤`, false if either side is NaN. -/
def le (x y : Binary64) : Bool :=
  match x.rank?, y.rank? with
  | some a, some b => a ≤ b
  | _, _ => false

/-- The place of a number in the order of bit patterns, in which every two numbers differ. -/
def totalRank : Binary64 → Int
  | .finite s c => if s then -(c.val : Int) - 1 else c.val
  | .infinite s => if s then -(finiteMagnitudes : Int) - 1 else finiteMagnitudes
  | .nan n =>
    if n.negative then -(finiteMagnitudes + n.fraction : Int) - 1
    else finiteMagnitudes + n.fraction

/-- The total order of bit patterns. -/
def totalLe (x y : Binary64) : Bool := x.totalRank ≤ y.totalRank

/-- The larger of two numbers, and of equal ones the second, which tells zeros apart.  A NaN
loses against any number. -/
def max (best x : Binary64) : Binary64 :=
  if best.isNaN || best.le x then x else best

/-- The nearest number in `[0, 1]`.  A NaN and a negative zero are left as they are. -/
def clampUnit (x : Binary64) : Binary64 :=
  if x.lt 0 then 0 else if lt 1 x then 1 else x

/-- The number as a natural number, if it is a whole number that is not negative. -/
def toNat? : Binary64 → Option Nat
  | .finite s c =>
    if units c % unitsInOne = 0 ∧ (s = false ∨ c.val = 0) then some (units c / unitsInOne)
    else none
  | _ => none

/-! ## Bit patterns and powers -/

/-- The bit pattern of a sign and the bits below it. -/
def pattern (negative : Bool) (magnitude : Nat) : UInt64 :=
  (if negative then (1 <<< 63) + magnitude else magnitude).toUInt64

/-- The IEEE bit pattern. -/
def toBits : Binary64 → UInt64
  | .finite s c => pattern s c
  | .infinite s => pattern s finiteMagnitudes
  | .nan n => pattern n.negative (finiteMagnitudes + n.fraction)

/-- The number of a sign and the bits below it. -/
def ofMagnitude (negative : Bool) (magnitude : Fin (1 <<< 63)) : Binary64 :=
  if h : magnitude < finiteMagnitudes then .finite negative ⟨magnitude, h⟩
  else if h' : magnitude = finiteMagnitudes then .infinite negative
  else
    .nan
      { negative := negative
        fraction := magnitude - finiteMagnitudes
        fraction_pos := by omega
        fraction_lt := Nat.sub_lt_left_of_lt_add (Nat.not_lt.mp h) magnitude.isLt }

/-- The number of an IEEE bit pattern. -/
def ofBits (bits : UInt64) : Binary64 :=
  ofMagnitude (1 <<< 63 ≤ bits.toNat) ⟨bits.toNat % (1 <<< 63), Nat.mod_lt _ (by decide)⟩

/-- Two to the power `x`, by the power function of the platform's mathematical library. -/
def twoPow (x : Binary64) : Binary64 :=
  ofBits (Float.pow 2 (Float.ofBits x.toBits)).toBits

end Binary64

end BuzzerScript
