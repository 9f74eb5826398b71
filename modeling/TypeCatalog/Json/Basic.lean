import TypeCatalog.Json.Number

/-!
# JSON values

The members of an object keep the order in which they were written. A text that repeats a name gives
it once, so the names of a value that was read are distinct; `Json.Distinct` states that for values
from elsewhere.
-/

set_option autoImplicit false

namespace TypeCatalog

/-- A JSON value. -/
inductive Json where
  | null
  | bool (b : Bool)
  | number (n : Number)
  | string (s : String)
  | array (items : List Json)
  | object (members : List (String × Json))
deriving Inhabited

namespace Json

mutual
/-- Whether two values are the same, the order of members included. -/
def same : Json → Json → Bool
  | null, null => true
  | bool a, bool b => a == b
  | number a, number b => decide (a = b)
  | string a, string b => a == b
  | array xs, array ys => sameItems xs ys
  | object ms, object ns => sameMembers ms ns
  | _, _ => false

/-- `same` on lists of items. -/
def sameItems : List Json → List Json → Bool
  | [], [] => true
  | x :: xs, y :: ys => same x y && sameItems xs ys
  | _, _ => false

/-- `same` on lists of members. -/
def sameMembers : List (String × Json) → List (String × Json) → Bool
  | [], [] => true
  | (k, x) :: ms, (l, y) :: ns => k == l && same x y && sameMembers ms ns
  | _, _ => false
end

mutual
/-- `same` decides equality of values. The three theorems go by recursion on the first value
together, as `same` does with its helpers for items and members. -/
theorem same_iff : ∀ a b : Json, same a b = true ↔ a = b
  | null, b => by cases b <;> simp [same]
  | bool _, b => by cases b <;> simp [same]
  | number _, b => by cases b <;> simp [same]
  | string _, b => by cases b <;> simp [same]
  | array xs, b => by
      cases b <;> simp [same]
      exact sameItems_iff xs _
  | object ms, b => by
      cases b <;> simp [same]
      exact sameMembers_iff ms _

/-- `sameItems` decides equality of lists of values. -/
theorem sameItems_iff : ∀ xs ys : List Json, sameItems xs ys = true ↔ xs = ys
  | [], ys => by cases ys <;> simp [sameItems]
  | x :: xs, ys => by
      cases ys with
      | nil => simp [sameItems]
      | cons y ys => simp [sameItems, same_iff x y, sameItems_iff xs ys]

/-- `sameMembers` decides equality of lists of members, names and order included. -/
theorem sameMembers_iff : ∀ ms ns : List (String × Json), sameMembers ms ns = true ↔ ms = ns
  | [], ns => by cases ns <;> simp [sameMembers]
  | (k, x) :: ms, ns => by
      cases ns with
      | nil => simp [sameMembers]
      | cons n ns =>
          obtain ⟨l, y⟩ := n
          simp [sameMembers, same_iff x y, sameMembers_iff ms ns, and_assoc]
end

instance : DecidableEq Json := fun a b =>
  decidable_of_iff (same a b = true) (same_iff a b)

/-- The value of a member. -/
def member? (name : String) : Json → Option Json
  | object ms => ms.lookup name
  | _ => none

def members? : Json → Option (List (String × Json))
  | object ms => some ms
  | _ => none

def items? : Json → Option (List Json)
  | array xs => some xs
  | _ => none

def string? : Json → Option String
  | string s => some s
  | _ => none

def bool? : Json → Option Bool
  | bool b => some b
  | _ => none

def number? : Json → Option Number
  | number n => some n
  | _ => none

/-- An integer that fits a signed 64-bit word; `1.0` is none. -/
def int64? : Json → Option Int
  | number (.integer n) => if Number.fitsInt64 n then some n else none
  | _ => none

/-- A non-negative integer that fits an unsigned 64-bit word; `1.0` is none. -/
def nat64? : Json → Option Nat
  | number (.integer n) => if Number.fitsNat64 n then some n.toNat else none
  | _ => none

/-- The nearest binary64 value of a number. -/
def binary64? : Json → Option Binary64
  | number n => some n.toBinary64
  | _ => none

def isString (v : Json) : Bool := v.string?.isSome
def isBool (v : Json) : Bool := v.bool?.isSome
def isObject (v : Json) : Bool := v.members?.isSome

/-- The integer `n`. -/
def ofNat (n : Nat) : Json := number (.integer n)

/-- The binary64 value `x`. -/
def ofBinary64 (x : Binary64) : Json := number (.real x)

/-- A list of texts. -/
def ofStrings (xs : List String) : Json := array (xs.map string)

/-- Members with a value for a name: in its place when the name is there, and at the end when it is
not. -/
def put (name : String) (value : Json) : List (String × Json) → List (String × Json)
  | [] => [(name, value)]
  | (k, x) :: ms => if k = name then (k, value) :: ms else (k, x) :: put name value ms

mutual
/-- The names of every object inside the value are distinct. -/
def Distinct : Json → Prop
  | array xs => DistinctItems xs
  | object ms => (ms.map Prod.fst).Nodup ∧ DistinctMembers ms
  | _ => True

/-- `Distinct` for each item. -/
def DistinctItems : List Json → Prop
  | [] => True
  | x :: xs => Distinct x ∧ DistinctItems xs

/-- `Distinct` for the value of each member. -/
def DistinctMembers : List (String × Json) → Prop
  | [] => True
  | (_, x) :: ms => Distinct x ∧ DistinctMembers ms
end

end Json

end TypeCatalog
