import TypeCatalog.Json.Decimal

/-!
# Reals with infinities

The values of the binary64 format, the infinities and the undefined value among them, as they are
read from decimal digits outside JSON and shown in messages.
-/

set_option autoImplicit false

namespace TypeCatalog

/-- A value of the binary64 format. -/
inductive Real64 where
  | finite (x : Binary64)
  | infinite (negative : Bool)
  | undefined
deriving DecidableEq, Inhabited

namespace Real64

/-- The text of a value: never with an exponent, and without a fraction for a whole number. -/
def text : Real64 → String
  | finite x => x.plainText
  | infinite negative => if negative then "-inf" else "inf"
  | undefined => "NaN"

/-- Whether a value is one of the zeros. -/
def isZero : Real64 → Bool
  | finite x => decide (x.value = 0)
  | _ => false

/-- The value nearest to `significand * 10 ^ exponent`, with a sign. Beyond 309 digits in front of
the point it is infinite, and with 330 zeros behind the point it is zero. -/
def ofDecimal (negative : Bool) (significand : Nat) (exponent : Int) : Real64 :=
  let point : Int := Decimal.digitCount significand + exponent
  let signed (x : Binary64) : Real64 := finite (if negative then x.negate else x)
  if significand = 0 ∨ point < -330 then signed (.finite 0)
  else if 310 < point then infinite negative
  else
    let x := Binary64.roundRatio (significand * Nat.pow 10 exponent.toNat)
      (Nat.pow 10 (-exponent).toNat)
    if Binary64.isFinite x then signed (.finite x) else infinite negative

end Real64

end TypeCatalog
