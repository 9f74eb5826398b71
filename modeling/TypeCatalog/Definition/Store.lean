import TypeCatalog.Definition.Encode

/-!
# The store of raw definitions

A store holds the definitions of a batch in the order in which they were added, before anything of
them is checked. `Store.bySystem` groups them by the system that they name.

`RawDefinition.label` is what a definition is called before it has a checked name. `Store.bySystem`
enters one definition after the other by `insertGrouped`, which keeps the keys in order, and
`Store.systems` are its keys.
-/

set_option autoImplicit false

namespace TypeCatalog

/-- A definition as it was loaded. -/
structure RawDefinition where
  /-- Where the definition comes from. -/
  source : Option String
  value : Json
deriving DecidableEq, Inhabited

namespace RawDefinition

def system? (d : RawDefinition) : Option String := (d.value.member? "system").bind Json.string?
def name? (d : RawDefinition) : Option String := (d.value.member? "name").bind Json.string?

/-- The qualified name that a definition declares. -/
def typeName? (d : RawDefinition) : Option String :=
  match d.system?, d.name? with
  | some s, some n => some (Name.qualify s n)
  | _, _ => none

/-- What a definition is called in messages: its qualified name, or its source, or its number. -/
def label (d : RawDefinition) (index : Nat) : String :=
  match d.typeName? with
  | some n => n
  | none => d.source.getD ("#" ++ toString index)

end RawDefinition

/-- The raw definitions of a batch. -/
structure Store where
  entries : List RawDefinition
deriving DecidableEq, Inhabited

namespace Store

def empty : Store := ⟨[]⟩

/-- The store with one more definition. -/
def push (s : Store) (d : RawDefinition) : Store := ⟨s.entries ++ [d]⟩

/-- Adds a definition of unknown origin. -/
def add (s : Store) (v : Json) : Store := s.push ⟨none, v⟩

/-- Adds a definition with its source. -/
def addFrom (s : Store) (source : String) (v : Json) : Store := s.push ⟨some source, v⟩

/-- Adds the written form of a definition. -/
def addDefinition (s : Store) (d : Definition) : Store := s.add d.toJson

def size (s : Store) : Nat := s.entries.length

/-- What each definition is called in messages. -/
def labels (s : Store) : List String := s.entries.zipIdx.map fun (d, i) => d.label i

/-- Groups in the order of their keys, with one more member. -/
def insertGrouped {α : Type} (key : String) (a : α) :
    List (String × List α) → List (String × List α)
  | [] => [(key, [a])]
  | (k, as) :: gs =>
    if key < k then (key, [a]) :: (k, as) :: gs
    else if key = k then (k, as ++ [a]) :: gs
    else (k, as) :: insertGrouped key a gs

/-- The definitions of each system, in the order of the systems. A definition that names no system
is in no group. -/
def bySystem (s : Store) : List (String × List RawDefinition) :=
  s.entries.foldl
    (fun gs d =>
      match d.system? with
      | some system => insertGrouped system d gs
      | none => gs)
    []

/-- The systems of the batch. -/
def systems (s : Store) : List String := s.bySystem.map (·.1)

end Store

end TypeCatalog
