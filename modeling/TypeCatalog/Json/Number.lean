/-!
# Numbers of a JSON text

A number is either an integer or a binary64 value, and the two kinds stay apart: `1` and `1.0` are
different numbers that have the same value. A binary64 value is a dyadic rational, or the negative
zero that the format adds to them. Infinities and not-a-number have no JSON text and are no values
here.

Rounding is exact arithmetic on natural numbers: `Binary64.roundRatio` is the binary64 value nearest
to a ratio, ties going to the even significand.
-/

set_option autoImplicit false

namespace TypeCatalog

/-- A finite binary64 value. -/
inductive Binary64 where
  /-- The value of a dyadic rational; the format's positive zero is `0`. -/
  | finite (x : Dyadic)
  /-- The zero with a sign bit. -/
  | negativeZero
deriving DecidableEq

namespace Binary64

instance : Inhabited Binary64 := ⟨.finite 0⟩

/-- The rational value, in which the sign of zero is lost. -/
def value : Binary64 → Dyadic
  | finite x => x
  | negativeZero => 0

/-- The sign bit. -/
def isNegative : Binary64 → Bool
  | finite x => decide (x < 0)
  | negativeZero => true

/-- The value with the opposite sign. -/
def negate : Binary64 → Binary64
  | finite x => if x = 0 then negativeZero else finite (-x)
  | negativeZero => finite 0

/-- The least exponent of a unit in the last place: subnormal values are multiples of `2 ^ (-1074)`.
-/
def leastExponent : Int := -1074

/-- The number of bits of a significand. -/
def precision : Nat := 53

/-- `num / den`, to the nearest integer; a half goes to the even neighbour. -/
def divRoundEven (num den : Nat) : Nat :=
  let q := num / den
  let twice := 2 * (num % den)
  if twice < den then q
  else if den < twice then q + 1
  else q + q % 2

/-- The greatest `e` with `2 ^ e ≤ num / den`, for positive `num` and `den`. -/
def binaryExponent (num den : Nat) : Int :=
  let e : Int := (num.log2 : Int) - den.log2
  if num * Nat.pow 2 (-e).toNat < den * Nat.pow 2 e.toNat then e - 1 else e

/-- The dyadic rational with a 53-bit significand that is nearest to `num / den`. The exponent is
bounded below, as for subnormal values, and not above: `isFinite` tells whether the format holds the
result. -/
def roundRatio (num den : Nat) : Dyadic :=
  if num = 0 ∨ den = 0 then 0 else
  let e := max leastExponent (binaryExponent num den - (precision - 1))
  .ofIntWithPrec (divRoundEven (num * Nat.pow 2 (-e).toNat) (den * Nat.pow 2 e.toNat)) (-e)

/-- Whether a rounded magnitude is within the format's range. -/
def isFinite (x : Dyadic) : Bool :=
  decide (x < .ofIntWithPrec 1 (-1024))

/-- The magnitude of a dyadic rational as a ratio. -/
def magnitude : Dyadic → Nat × Nat
  | .zero => (0, 1)
  | .ofOdd n k _ => (n.natAbs * Nat.pow 2 (-k).toNat, Nat.pow 2 k.toNat)

/-- The nearest binary64 value of an integer. -/
def ofInt (n : Int) : Binary64 :=
  finite (if n < 0 then -roundRatio n.natAbs 1 else roundRatio n.natAbs 1)

/-- The product of two magnitudes, rounded; `none` when it is beyond the format's range. -/
def mulMagnitude? (x y : Dyadic) : Option Dyadic :=
  let (a, b) := magnitude x
  let (c, d) := magnitude y
  let r := roundRatio (a * c) (b * d)
  if isFinite r then some r else none

/-- The quotient of two magnitudes, rounded; `none` when it is beyond the format's range. -/
def divMagnitude? (x y : Dyadic) : Option Dyadic :=
  let (a, b) := magnitude x
  let (c, d) := magnitude y
  let r := roundRatio (a * d) (b * c)
  if isFinite r then some r else none

/-- The largest integer that is not greater than a non-negative dyadic rational. -/
def floorMagnitude (x : Dyadic) : Nat :=
  let (a, b) := magnitude x
  a / b

/-- Whether a value has no fractional part. -/
def isIntegral (x : Dyadic) : Bool :=
  let (a, b) := magnitude x
  a % b == 0

end Binary64

/-- A JSON number. -/
inductive Number where
  /-- A number written without fraction and exponent. -/
  | integer (n : Int)
  /-- Any other number. -/
  | real (x : Binary64)
deriving DecidableEq

namespace Number

instance : Inhabited Number := ⟨.integer 0⟩

/-- The exact value of a number, whatever its kind. -/
def value : Number → Dyadic
  | integer n => Dyadic.ofInt n
  | real x => x.value

/-- The nearest binary64 value. -/
def toBinary64 : Number → Binary64
  | integer n => .ofInt n
  | real x => x

/-- Whether an integer fits a signed word of 64 bits. -/
def fitsInt64 (n : Int) : Bool := decide (-0x8000000000000000 ≤ n ∧ n < 0x8000000000000000)

/-- Whether an integer fits an unsigned word of 64 bits. -/
def fitsNat64 (n : Int) : Bool := decide (0 ≤ n ∧ n < 0x10000000000000000)

/-- Whether the value has no fractional part: `1` and `1.0` both are integral. -/
def isIntegral (n : Number) : Bool := Binary64.isIntegral n.value

end Number

end TypeCatalog
