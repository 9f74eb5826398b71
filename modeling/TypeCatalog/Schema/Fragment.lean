import TypeCatalog.Json.Basic

/-!
# References inside schema fragments

A fragment refers to other types by the text of a member `$ref`. `Fragment.references` lists the
references with their places, and `Fragment.mapReferences` gives them new texts. Both pass over the
members that hold data and not schemas, and both leave references within the fragment alone, which
start with a number sign.

`isDataMember` tells the members that hold data: `enum`, `const`, `default` and `examples`.
`isLocal` tells a reference within the fragment, and `splitPointer` divides any other one at its
number sign into the part that names a type and the pointer behind it.
-/

set_option autoImplicit false

namespace TypeCatalog.Fragment

/-- The members whose values are data. -/
def isDataMember (name : String) : Bool := ["enum", "const", "default", "examples"].contains name

/-- Whether a reference stays within the fragment. -/
def isLocal (reference : String) : Bool := reference.toList.head? = some '#'

/-- A reference without what follows the first number sign, and that, if there is one. -/
def splitPointer (reference : String) : String × Option String :=
  let (document, pointer) := reference.toList.span (· ≠ '#')
  match pointer with
  | [] => (reference, none)
  | _ :: cs => (String.ofList document, some (String.ofList cs))

mutual
/-- The references of a fragment that stands at a place, each with its own place. -/
def references (path : String) : Json → List (String × String)
  | .object ms => memberReferences path ms
  | .array xs => itemReferences path 0 xs
  | _ => []

/-- The references of members. -/
def memberReferences (path : String) : List (String × Json) → List (String × String)
  | [] => []
  | (k, v) :: ms =>
    (if isDataMember k then []
      else if k = "$ref" ∧ v.isString then
        (v.string?.filter fun r => !isLocal r).toList.map fun r => (path ++ ".$ref", r)
      else references (path ++ "." ++ k) v)
    ++ memberReferences path ms

/-- The references of the items from an index on. -/
def itemReferences (path : String) (i : Nat) : List Json → List (String × String)
  | [] => []
  | x :: xs => references (path ++ "[" ++ toString i ++ "]") x ++ itemReferences path (i + 1) xs
end

mutual
/-- The fragment with its references mapped to other texts. -/
def mapReferences (f : String → String) : Json → Json
  | .object ms => .object (mapMemberReferences f ms)
  | .array xs => .array (mapItemReferences f xs)
  | v => v

/-- `mapReferences` for members. -/
def mapMemberReferences (f : String → String) : List (String × Json) → List (String × Json)
  | [] => []
  | (k, v) :: ms =>
    (k,
      if isDataMember k then v
      else
        match k, v with
        | "$ref", .string r => .string (if isLocal r then r else f r)
        | _, v => mapReferences f v)
    :: mapMemberReferences f ms

/-- `mapReferences` for items. -/
def mapItemReferences (f : String → String) : List Json → List Json
  | [] => []
  | x :: xs => mapReferences f x :: mapItemReferences f xs
end

end TypeCatalog.Fragment
