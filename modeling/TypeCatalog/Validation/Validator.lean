import TypeCatalog.Validation.Registry
import TypeCatalog.Validation.Verdict

/-!
# Validators

A `Validator` is a schema with the schemas of all targets that its references lead to. It follows a
reference in a `Scope`, the documents that were gone through on the way, since the outermost of them
may decide where the reference leads.

A reference that leads back to a schema that is being followed for the same place of a value adds
nothing, and so every validation ends.

`Validator.follow` and `Validator.followHere` are the two directions of this: the first one goes
into a part of the value and forgets what is being followed, the second one stays at the same place
and remembers it in `opened`. `Validator.errors` starts both at the schema itself.
-/

set_option autoImplicit false

namespace TypeCatalog

mutual
/-- The number of levels of a value: a value without parts has one. -/
def Json.levels : Json → Nat
  | .array xs => Json.itemLevels xs + 1
  | .object ms => Json.memberLevels ms + 1
  | _ => 1

/-- The levels of the deepest item. -/
def Json.itemLevels : List Json → Nat
  | [] => 1
  | x :: xs => max (Json.levels x) (Json.itemLevels xs)

/-- The levels of the deepest member. -/
def Json.memberLevels : List (String × Json) → Nat
  | [] => 1
  | (_, x) :: ms => max (Json.levels x) (Json.memberLevels ms)
end

/-- The addresses of the documents that references led out of, the last one first. -/
abbrev Scope := List String

/-- The scope behind a reference from one document to another. The first reference always counts,
later ones only where they lead to another document. -/
def Scope.enter (σ : Scope) (here there : String) : Scope :=
  if σ.isEmpty || there ≠ here then here :: σ else σ

/-- Where a reference leads in a scope, and the scope there. -/
def Link.destination (l : Link) (registry : Registry) (σ : Scope) : Target × Scope :=
  match l.kind with
  | .fixed => (l.target, σ.enter l.base l.target.address)
  | .dynamic =>
    let τ := σ.enter l.base l.target.address
    match (τ.filter (registry.hasDynamic l.target.fragment)).getLast? with
    | some outermost => ({ l.target with owner := outermost }, τ)
    | none => (l.target, τ)
  | .recursive =>
    let address :=
      if registry.isRecursive l.base then
        ((σ.takeWhile registry.isRecursive).getLast?).getD l.base
      else l.base
    (.within address "", σ.enter l.base address)

/-- A schema with the targets of all references that are met on the way. -/
structure Validator where
  /-- The target that the schema itself is. -/
  self : Target
  schema : Schema
  definitions : List (Target × Schema)
  /-- The documents that the references lead to. -/
  registry : Registry
deriving Inhabited

namespace Validator

/-- Follows references at one place of a value, and at the places below by a given function. The
targets that are being followed there are `opened`. -/
def followHere (v : Validator) (below : Scope → Follow) : Nat → List Target → Scope → Follow
  | 0, _, _ => .nothing
  | steps + 1, opened, σ =>
    let arrive (l : Link) : Option (Schema × Follow × Follow) :=
      let (t, τ) := l.destination v.registry σ
      if t ∈ opened then none
      else (v.definitions.lookup t).map (·, v.followHere below steps (t :: opened) τ, below τ)
    { errors := fun l value =>
        match arrive l with
        | some (s, here, below) => s.errors here below value
        | none => []
      looksAt := fun l value =>
        match arrive l with
        | some (s, here, below) => s.looksAt here below value
        | none => [] }

/-- Follows references for a number of levels. No chain at one place is longer than the table. -/
def follow (v : Validator) : Nat → Scope → Follow
  | 0, _ => .nothing
  | levels + 1, σ => v.followHere (v.follow levels) (v.definitions.length + 1) [] σ

/-- What a value does not satisfy. -/
def errors (v : Validator) (value : Json) : List ValueError :=
  let below := v.follow value.levels
  v.schema.errors (v.followHere below (v.definitions.length + 1) [v.self] []) (below []) value

def validate (v : Validator) (value : Json) : Outcome := ⟨v.errors value⟩

/-- Whether a value satisfies the schema. -/
def accepts (v : Validator) (value : Json) : Bool := (v.errors value).isEmpty

end Validator

end TypeCatalog
