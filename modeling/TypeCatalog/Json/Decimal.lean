import TypeCatalog.Json.Number

/-!
# Decimal text of binary64 values

`Decimal.shortest` finds the fewest digits that read back as the same value, and among those the
nearest. `Decimal.positional` and `Decimal.scientific` lay digits out. Two texts are made of them:

* `Binary64.text` is the text inside a JSON document. It keeps a fraction (`1.0`) and writes an
  exponent when the leading digit stands for less than `10 ^ (-5)` or for `10 ^ 16` and more.
* `Binary64.plainText` is the text inside a message. It never has an exponent, and a whole number
  has no fraction.
-/

set_option autoImplicit false

namespace TypeCatalog

/-- The positive value `significand * 10 ^ exponent`. -/
structure Decimal where
  significand : Nat
  exponent : Int
deriving DecidableEq, Inhabited

namespace Decimal

/-- The number of decimal digits. -/
def digitCount (n : Nat) : Nat := (Nat.toDigits 10 n).length

/-- The least `p` with `num / den < 10 ^ p`, for positive `num` and `den`. -/
def pointOf (num den : Nat) : Int :=
  if den ≤ num then digitCount (num / den)
  else
    let k := den.log2 + 1
    (digitCount (num * Nat.pow 10 k / den) : Int) - k

/-- The decimal as a ratio. -/
def ratio (d : Decimal) : Nat × Nat :=
  (d.significand * Nat.pow 10 d.exponent.toNat, Nat.pow 10 (-d.exponent).toNat)

/-- Whether the binary64 value nearest to the decimal is `x`. -/
def readsAs (x : Dyadic) (d : Decimal) : Bool :=
  decide (Binary64.roundRatio d.ratio.1 d.ratio.2 = x)

/-- The point of the grid of `10 ^ exponent` that is nearest to `num / den` among its two neighbours
that read as `x`. -/
def neighbour? (x : Dyadic) (num den : Nat) (exponent : Int) : Option Decimal :=
  let a := num * Nat.pow 10 (-exponent).toNat
  let b := den * Nat.pow 10 exponent.toNat
  let below : Decimal := ⟨a / b, exponent⟩
  let above : Decimal := ⟨a / b + 1, exponent⟩
  let nearest : Decimal := ⟨Binary64.divRoundEven a b, exponent⟩
  [nearest, below, above].find? fun d => d.significand != 0 && d.readsAs x

/-- Digits at the end that are zero move into the exponent. -/
def trim (fuel : Nat) (d : Decimal) : Decimal :=
  match fuel with
  | 0 => d
  | fuel + 1 =>
    if d.significand % 10 = 0 ∧ d.significand ≠ 0 then
      trim fuel ⟨d.significand / 10, d.exponent + 1⟩
    else d

/-- The shortest decimal that reads as the positive value `x`. No value needs more than seventeen
digits. -/
def shortest (x : Dyadic) : Decimal :=
  let (num, den) := Binary64.magnitude x
  let p := pointOf num den
  let found := (List.range' 1 17).findSome? fun n : Nat => neighbour? x num den (p - n)
  trim 20 (found.getD ⟨num / den, 0⟩)

/-- The digits of the significand. -/
def digits (d : Decimal) : String := toString d.significand

/-- The decimal exponent of the leading digit. -/
def leadingExponent (d : Decimal) : Int := digitCount d.significand + d.exponent - 1

/-- `n` zeros. -/
def zeros (n : Nat) : String := String.ofList (List.replicate n '0')

/-- Positional layout; `whole` follows a value without a fraction. -/
def positional (whole : String) (d : Decimal) : String :=
  let ds := d.digits.toList
  let point := d.leadingExponent + 1
  if point ≤ 0 then "0." ++ zeros (-point).toNat ++ String.ofList ds
  else if (ds.length : Int) ≤ point then
    String.ofList ds ++ zeros (point - ds.length).toNat ++ whole
  else String.ofList (ds.take point.toNat) ++ "." ++ String.ofList (ds.drop point.toNat)

/-- Scientific layout, with a sign on every exponent. -/
def scientific (d : Decimal) : String :=
  let e := d.leadingExponent
  let mark := (if e < 0 then "e-" else "e+") ++ toString e.natAbs
  match d.digits.toList with
  | [] => mark
  | [c] => c.toString ++ mark
  | c :: cs => c.toString ++ "." ++ String.ofList cs ++ mark

end Decimal

namespace Binary64

/-- The sign in front of a text. -/
def signText (x : Binary64) : String := if x.isNegative then "-" else ""

/-- The magnitude of a value. -/
def absValue (x : Binary64) : Dyadic := if x.value < 0 then -x.value else x.value

/-- The text inside a JSON document. -/
def text (x : Binary64) : String :=
  x.signText ++
    if x.value = 0 then "0.0"
    else
      let d := Decimal.shortest x.absValue
      if -5 ≤ d.leadingExponent ∧ d.leadingExponent < 16 then d.positional ".0" else d.scientific

/-- The text inside a message. -/
def plainText (x : Binary64) : String :=
  x.signText ++
    if x.value = 0 then "0" else (Decimal.shortest x.absValue).positional ""

end Binary64

namespace Number

/-- The text inside a JSON document. -/
def text : Number → String
  | integer n => toString n
  | real x => x.text

end Number

end TypeCatalog
