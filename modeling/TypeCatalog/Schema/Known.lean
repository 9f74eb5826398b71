import TypeCatalog.Definition.Basic
import TypeCatalog.Schema.Similarity

/-!
# Known types

The types that references may name, with their kinds, in the order of their qualified names.

`KnownTypes.insert` keeps the table sorted (`insertSorted`), so that `KnownTypes.suggest` offers its
names to `Similarity.best?` in one order, whatever the order of the definitions was. `contains` is
asked for the targets of properties and fragments, `kind?` for the `dataType` of an enum.
-/

set_option autoImplicit false

namespace TypeCatalog

/-- The kinds of the known types. -/
structure KnownTypes where
  kinds : List (String × TypeKind)
deriving DecidableEq, Inhabited

namespace KnownTypes

def empty : KnownTypes := ⟨[]⟩

/-- Pairs in the order of their names, with one more pair, which replaces another of its name. -/
def insertSorted (name : String) (kind : TypeKind) :
    List (String × TypeKind) → List (String × TypeKind)
  | [] => [(name, kind)]
  | (n, k) :: ks =>
    if name < n then (name, kind) :: (n, k) :: ks
    else if name = n then (name, kind) :: ks
    else (n, k) :: insertSorted name kind ks

/-- Makes a type known. A type that is known already takes the new kind. -/
def insert (known : KnownTypes) (name : String) (kind : TypeKind) : KnownTypes :=
  ⟨insertSorted name kind known.kinds⟩

/-- The types of definitions. -/
def ofDefinitions (ds : List Definition) : KnownTypes :=
  ds.foldl (fun known d => known.insert d.typeName d.kind) empty

def kind? (known : KnownTypes) (name : String) : Option TypeKind := known.kinds.lookup name

def contains (known : KnownTypes) (name : String) : Bool := (known.kind? name).isSome

/-- The known type whose name resembles a name most. -/
def suggest (known : KnownTypes) (name : String) : Option String :=
  Similarity.best? (known.kinds.map (·.1)) name

end KnownTypes

end TypeCatalog
