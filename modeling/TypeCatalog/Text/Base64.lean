/-!
# Bytes in 64 characters

`Base64.decode?` reads the bytes that a text of letters, digits, `+` and `/` stands for. Each three
bytes take four characters, and `=` fills the last four. Bits that stand for nothing are zero, so
that bytes have one text only.
-/

set_option autoImplicit false

namespace TypeCatalog.Text.Base64

/-- The six bits that a character stands for. -/
def value? (c : Char) : Option Nat :=
  let n := c.toNat
  if 'A' ≤ c ∧ c ≤ 'Z' then some (n - 65)
  else if 'a' ≤ c ∧ c ≤ 'z' then some (n - 97 + 26)
  else if '0' ≤ c ∧ c ≤ '9' then some (n - 48 + 52)
  else if c = '+' then some 62
  else if c = '/' then some 63
  else none

/-- The number that characters of six bits stand for. -/
def bits? (cs : List Char) : Option Nat :=
  cs.foldlM (fun n c => (value? c).map (64 * n + ·)) 0

/-- The bytes that a text stands for. -/
def decode? : List Char → Option (List UInt8)
  | [] => some []
  | [a, b, '=', '='] =>
    (bits? [a, b]).bind fun n => if n % 16 = 0 then some [UInt8.ofNat (n / 16)] else none
  | [a, b, c, '='] =>
    (bits? [a, b, c]).bind fun n =>
      if n % 4 = 0 then some [UInt8.ofNat (n / 1024), UInt8.ofNat (n / 4)] else none
  | a :: b :: c :: d :: rest => do
    let n ← bits? [a, b, c, d]
    let bytes ← decode? rest
    pure (UInt8.ofNat (n / 65536) :: UInt8.ofNat (n / 256) :: UInt8.ofNat n :: bytes)
  | _ => none

end TypeCatalog.Text.Base64
