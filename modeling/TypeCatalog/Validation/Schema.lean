import TypeCatalog.Validation.Constraint

/-!
# Schemas

A `Schema` is a schema document that has been read: a boolean, or a list of keywords. A reference is
a keyword; it names its target, which stands in a table beside the schema, so that types may refer
to each other in a circle.
-/

set_option autoImplicit false

namespace TypeCatalog

/-- What a reference refers to. -/
structure Target where
  /-- The address of a document. -/
  address : String
  /-- The address of the document in which a named place is looked up, as a rule the same. -/
  owner : String
  /-- The place inside the document, empty for the whole. -/
  fragment : String
deriving DecidableEq, Inhabited

/-- A place inside the document at an address. -/
def Target.within (address fragment : String) : Target := ⟨address, address, fragment⟩

/-- How a reference finds its target. -/
inductive LinkKind where
  /-- The target is the one that the reference names. -/
  | fixed
  /-- The outermost document on the way that has a place of the same name gives the target. -/
  | dynamic
  /-- The outermost document on the way gives the target, of those that let it be so. -/
  | recursive
deriving DecidableEq, Inhabited

/-- A reference. -/
structure Link where
  /-- The base of the reference. -/
  base : String
  /-- What the reference refers to by itself. -/
  target : Target
  kind : LinkKind
deriving DecidableEq, Inhabited

mutual
/-- A schema that has been read. -/
inductive Schema where
  /-- Everything, or nothing. -/
  | boolean (all : Bool)
  /-- Everything that each of the keywords allows. -/
  | keywords (ks : List Keyword)

/-- A keyword of a schema. -/
inductive Keyword where
  /-- A condition on the value alone. -/
  | constraint (c : Constraint)
  | reference (l : Link)
  | allOf (ss : List Schema)
  | anyOf (ss : List Schema)
  | oneOf (ss : List Schema)
  /-- A schema that must not hold, with its text. -/
  | not (s : Schema) (written : Json)
  /-- A schema that decides which of two others has to hold. -/
  | conditional (condition consequent alternative : Schema)
  | properties (ps : List (String × Schema))
  | patternProperties (qs : List (Pattern.Search × Schema))
  /-- The declared properties, those of the patterns, and a schema for all others. -/
  | closed (ps : List (String × Schema)) (qs : List (Pattern.Search × Schema)) (rest : Schema)
  /-- No property at all. -/
  | noProperties
  /-- Any property beside the declared ones. -/
  | anyProperties
  | propertyNames (s : Schema)
  /-- Schemas that have to hold when a property is there. -/
  | dependencies (ps : List (String × Schema))
  | items (s : Schema)
  /-- A schema for each of the first items. -/
  | tuple (ss : List Schema)
  /-- A schema for the items behind the first `n`, which are no others than these where nothing
  satisfies it. -/
  | additionalItems (n : Nat) (s : Schema)
  /-- A schema for the items behind the first `n`. -/
  | itemsFrom (n : Nat) (s : Schema)
  /-- Any item behind the first ones. -/
  | anyItems
  /-- A schema that some number of items satisfy. These may count as looked at. -/
  | contains (least : Nat) (most : Option Nat) (looksAt : Bool) (s : Schema)
  /-- A schema for the properties that the keywords beside it do not look at. -/
  | unevaluatedProperties (siblings : List Keyword) (s : Schema)
  /-- A schema for the items that the keywords beside it do not look at. -/
  | unevaluatedItems (siblings : List Keyword) (s : Schema)
end

namespace Schema

instance : Inhabited Schema := ⟨.boolean true⟩

/-- Whether a schema is the one that nothing satisfies. -/
def isNothing : Schema → Bool
  | boolean false => true
  | _ => false

mutual
/-- The references of a schema. -/
def links : Schema → List Link
  | boolean _ => []
  | keywords ks => keywordListLinks ks

def keywordListLinks : List Keyword → List Link
  | [] => []
  | k :: ks => keywordLinks k ++ keywordListLinks ks

/-- The references of a keyword. -/
def keywordLinks : Keyword → List Link
  | .constraint _ => []
  | .reference l => [l]
  | .allOf ss => listLinks ss
  | .anyOf ss => listLinks ss
  | .oneOf ss => listLinks ss
  | .not s _ => links s
  | .conditional c t e => links c ++ links t ++ links e
  | .properties ps => namedLinks ps
  | .patternProperties qs => patternLinks qs
  | .closed ps qs rest => namedLinks ps ++ patternLinks qs ++ links rest
  | .noProperties => []
  | .anyProperties => []
  | .propertyNames s => links s
  | .dependencies ps => namedLinks ps
  | .items s => links s
  | .tuple ss => listLinks ss
  | .additionalItems _ s => links s
  | .itemsFrom _ s => links s
  | .anyItems => []
  | .contains _ _ _ s => links s
  | .unevaluatedProperties _ s => links s
  | .unevaluatedItems _ s => links s

def listLinks : List Schema → List Link
  | [] => []
  | s :: ss => links s ++ listLinks ss

def namedLinks : List (String × Schema) → List Link
  | [] => []
  | (_, s) :: ps => links s ++ namedLinks ps

def patternLinks : List (Pattern.Search × Schema) → List Link
  | [] => []
  | (_, s) :: qs => links s ++ patternLinks qs
end

end Schema

end TypeCatalog
