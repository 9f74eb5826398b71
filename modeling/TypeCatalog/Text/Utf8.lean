/-!
# Bytes that are no text

`Utf8.fault?` finds the first place where bytes are no UTF-8. It is either a sequence that is wrong
from its first or a later byte on, or one that the end cuts off.
-/

set_option autoImplicit false

namespace TypeCatalog.Text.Utf8

/-- Where bytes are no UTF-8. -/
structure Fault where
  /-- The number of bytes in front of the sequence. -/
  index : Nat
  /-- The number of bytes that cannot be part of a character; none when bytes are missing. -/
  length : Option Nat
deriving DecidableEq, Inhabited

/-- The wording of a fault. -/
def Fault.message (f : Fault) : String :=
  match f.length with
  | some n =>
    "invalid utf-8 sequence of " ++ toString n ++ " bytes from index " ++ toString f.index
  | none => "incomplete utf-8 byte sequence from index " ++ toString f.index

/-- The ranges of the bytes that follow a first byte; none for a byte that begins no character. -/
def followers? (first : Nat) : Option (List (Nat × Nat)) :=
  let tail := (0x80, 0xBF)
  if first < 0x80 then some []
  else if first < 0xC2 then none
  else if first < 0xE0 then some [tail]
  else if first = 0xE0 then some [(0xA0, 0xBF), tail]
  else if first = 0xED then some [(0x80, 0x9F), tail]
  else if first < 0xF0 then some [tail, tail]
  else if first = 0xF0 then some [(0x90, 0xBF), tail, tail]
  else if first < 0xF4 then some [tail, tail, tail]
  else if first = 0xF4 then some [(0x80, 0x8F), tail, tail]
  else none

/-- The number of bytes at the front that are in some ranges, one after the other. -/
def matching : List (Nat × Nat) → List Nat → Nat
  | (low, high) :: rs, b :: bs => if low ≤ b ∧ b ≤ high then matching rs bs + 1 else 0
  | _, _ => 0

/-- The first place where bytes, behind some others, are no UTF-8. Each character takes a round. -/
def faultFrom : Nat → Nat → List Nat → Option Fault
  | 0, _, _ => none
  | _, _, [] => none
  | rounds + 1, index, b :: bs =>
    match followers? b with
    | none => some ⟨index, some 1⟩
    | some ranges =>
      let n := matching ranges bs
      if n = ranges.length then faultFrom rounds (index + n + 1) (bs.drop n)
      else if n = bs.length then some ⟨index, none⟩
      else some ⟨index, some (n + 1)⟩

/-- The first place where bytes are no UTF-8. -/
def fault? (bs : List UInt8) : Option Fault :=
  faultFrom (bs.length + 1) 0 (bs.map UInt8.toNat)

end TypeCatalog.Text.Utf8
