import TypeCatalog.Diagnostic
import TypeCatalog.TypeMap.Basic

/-!
# Resolving names of a type map

`TypeMap.resolve` follows references until it comes to a stop, and adds up the lists on the way. It
stops at a name without a slash, which is a primitive; at a root that is a scalar, or an enum when
the caller accepts enums; at an object; and at a name that no node has. References that lead back to
a name of the walk are an error, which tells the names in the order of the walk.

`TypeMap.cycles` reports every cycle once, whatever leads into it.
-/

set_option autoImplicit false

namespace TypeCatalog

/-- What a resolved name stands for. -/
inductive Resolution where
  | primitive
  | scalar
  | enum
  | object
  | unknown
deriving DecidableEq, Inhabited

def Resolution.text : Resolution → String
  | primitive => "primitive"
  | scalar => "scalar"
  | enum => "enum"
  | object => "object"
  | unknown => "unknown"

/-- What a generator should use for a name. -/
structure Assignment where
  typeName : String
  arrayDepth : Nat
  resolution : Resolution
deriving DecidableEq, Inhabited

namespace Assignment

def isUnknown (a : Assignment) : Bool := a.resolution = .unknown

def isArray (a : Assignment) : Bool := 0 < a.arrayDepth

end Assignment

/-- References lead back to a name; the names from the start of the walk to that name. -/
structure Cycle where
  chain : List String
deriving DecidableEq, Inhabited

/-- The wording of a cycle. -/
def Cycle.message (c : Cycle) : String := "Cyclic type reference: " ++ " -> ".intercalate c.chain

/-- Names in their order, each once. -/
def Name.sortedDistinct (names : List String) : List String :=
  (names.mergeSort fun a b => a ≤ b).eraseDups

/-- The names that lie on a cycle, in their order; those that lead into it are left out. -/
def Cycle.members (c : Cycle) : List String :=
  match c.chain.getLast? with
  | none => []
  | some last => Name.sortedDistinct (c.chain.dropWhile (· ≠ last))

/-- The diagnostic for a cycle that a name leads to. -/
def Cycle.toDiagnostic (c : Cycle) (name : String) : Diagnostic :=
  .ofKind name .cyclicReference c.message (.object [("chain", .ofStrings c.chain)])

namespace TypeMap

/-- Whether a name is qualified. -/
def isQualified (name : String) : Bool := name.toList.contains Name.separator

/-- Where a walk stops at a reference. -/
def stopAt? (acceptEnums : Bool) (n : RefNode) : Option Resolution :=
  if n.isRoot && n.isScalar then some .scalar
  else if n.isRoot && n.isEnum && acceptEnums then some .enum
  else none

/-- The walk from a name on. `visited` holds the names before it, the last first. Every step but the
last visits another reference, so there are no more steps than references and one. -/
def walk (m : TypeMap) (acceptEnums : Bool) (steps : Nat) (visited : List String) (name : String)
    (depth : Nat) : Except Cycle Assignment :=
  if !isQualified name then .ok ⟨name, depth, .primitive⟩
  else if visited.contains name then .error ⟨(name :: visited).reverse⟩
  else
    match m.node? name with
    | none => .ok ⟨name, depth, .unknown⟩
    | some (.object n) => .ok ⟨name, depth + n.arrayCount, .object⟩
    | some (.ref n) =>
      match stopAt? acceptEnums n with
      | some r => .ok ⟨name, depth + n.arrayCount, r⟩
      | none =>
        match steps with
        | 0 => .error ⟨(name :: visited).reverse⟩
        | steps + 1 => walk m acceptEnums steps (name :: visited) n.target (depth + n.arrayCount)

/-- What a name stands for. `depth` counts the lists that are around it already. -/
def resolve (m : TypeMap) (acceptEnums : Bool) (name : String) (depth : Nat) :
    Except Cycle Assignment :=
  m.walk acceptEnums (m.refs.length + 1) [] name depth

/-- Reports for names, without the cycles that are reported already. -/
def cyclesFrom (m : TypeMap) (reported : List (List String)) : List String → List Diagnostic
  | [] => []
  | name :: names =>
    match m.resolve true name 0 with
    | .ok _ => cyclesFrom m reported names
    | .error c =>
      let members := c.members
      if reported.contains members then cyclesFrom m reported names
      else c.toDiagnostic name :: cyclesFrom m (members :: reported) names

/-- One report for each cycle. -/
def cycles (m : TypeMap) : List Diagnostic := m.cyclesFrom [] m.typeNames

end TypeMap

end TypeCatalog
