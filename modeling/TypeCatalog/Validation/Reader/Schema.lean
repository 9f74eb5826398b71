import TypeCatalog.Validation.Reader.Condition

/-!
# Reading schemas

`Reader.body` reads the JSON text of a schema. A reference is followed as soon as it is met, and so
the first thing that is wrong on the way through a schema and all that it refers to is the reason
why it is none.

Some keywords read others that stand beside them: `additionalProperties` takes the schemas of
`properties` and `patternProperties` with it, `if` those of `then` and `else`. For this the members
of a schema are first turned into the ways of reading each, and then read in their order.
-/

set_option autoImplicit false

namespace TypeCatalog

namespace Reader

/-- Where a schema stands. -/
structure Place where
  /-- The base of its references. -/
  base : Uri
  draft : Draft
  /-- The groups of keywords that count. -/
  vocabularies : List Vocabulary

/-- The place of a schema inside one at a place. -/
def Place.inside (p : Place) (schema : Json) : Except SchemaFault Place := do
  let draft := p.draft.within schema
  pure ⟨← Site.enter p.base ⟨draft, schema⟩, draft, p.vocabularies⟩

/-- The place of what a reference leads to. -/
def Place.ofSite (s : Site) : Place :=
  ⟨s.base, s.resource.draft, s.resource.draft.vocabulariesOf s.resource.schema⟩

/-- What has been read of the targets of references. -/
structure Progress where
  /-- The targets whose schemas are being read or have been read. -/
  opened : List Target
  definitions : List (Target × Schema)
deriving Inhabited

/-- Reading, which follows references on the way. -/
abbrev ReadM := StateT Progress (Except SchemaFault)

/-- A member of a schema with the ways of reading it. -/
structure Member where
  name : String
  written : Json
  /-- Reads the value as a schema. -/
  whole : ReadM Schema
  /-- Reads the items of the value, if it is an array. -/
  items : List (ReadM Schema)
  /-- The members of the value, if it is an object, and what reads them. -/
  named : List (String × Json × ReadM Schema)

namespace Member

def find? (members : List Member) (name : String) : Option Member :=
  members.find? (·.name = name)

/-- Whether the value is a schema that may exclude something. -/
def isRestriction (m : Member) : Bool := m.written = .bool false || m.written.isObject

/-- Reads a list of schemas. -/
def schemas (m : Member) : ReadM (List Schema) :=
  match m.written with
  | .array _ => m.items.mapM id
  | v => throw (.ofType [.array] v)

/-- Reads the values of an object, each in a way of its own. -/
def readNamed {α : Type} (m : Member) (read : String → Json → ReadM Schema → ReadM α) :
    ReadM (List α) :=
  match m.written with
  | .object _ => m.named.mapM fun (name, v, whole) => read name v whole
  | v => throw (.ofType [.object] v)

/-- Reads schemas with names. -/
def namedSchemas (m : Member) : ReadM (List (String × Schema)) :=
  m.readNamed fun name _ whole => do pure (name, ← whole)

/-- Reads schemas whose names are patterns. -/
def patternSchemas (m : Member) : ReadM (List (Pattern.Search × Schema)) :=
  m.readNamed fun name v whole => do pure (← search name v, ← whole)

end Member

/-- The schema of a list of names that an object has to have. -/
def requiredSchema (names : Json) : Except SchemaFault Schema := do
  pure (.keywords [.constraint (.required (← texts names))])

/-- Reads a schema that holds where a property is there, or the list of the names of properties that
then have to be there too. -/
def dependency (name : String) (v : Json) (whole : ReadM Schema) : ReadM (String × Schema) := do
  match v with
  | .array _ => pure (name, ← requiredSchema v)
  | _ => pure (name, ← whole)

/-- Reads the list of the names of properties that have to be there where a property is. -/
def requirement (name : String) (v : Json) (_ : ReadM Schema) : ReadM (String × Schema) := do
  match v with
  | .array xs =>
    if Json.allDifferent xs then pure (name, ← requiredSchema v)
    else throw (.rejected (Constraint.repetitionMessage v))
  | _ => throw (.ofType [.array] v)

/-! ## Keywords with schemas -/

/-- Reads the schema for all properties that are not declared and match no pattern. -/
def additionalProperties (members : List Member) (rest : Member) : ReadM Keyword := do
  let patterns := Member.find? members "patternProperties"
  if let some q := patterns then
    unless q.written.isObject do throw (.ofType [.object] rest.written)
  if rest.written = .bool true then return .anyProperties
  let qs ← patterns.mapM (·.patternSchemas)
  let ps ← (Member.find? members "properties").mapM fun p =>
    if p.written.isObject then p.namedSchemas else throw .unexpectedType
  let s ← rest.whole
  pure <|
    match ps, qs with
    | none, none => if s.isNothing then .noProperties else .closed [] [] s
    | _, _ => .closed (ps.getD []) (qs.getD []) s

/-- Reads a condition, if it decides anything. -/
def conditional? (members : List Member) (condition : Member) : ReadM (Option Keyword) := do
  let read (m : Option Member) : ReadM Schema := m.elim (pure (.boolean true)) (·.whole)
  match Member.find? members "then", Member.find? members "else" with
  | none, none => pure none
  | consequent, alternative => do
    pure (some (.conditional (← condition.whole) (← read consequent) (← read alternative)))

/-- Reads a schema for all items, or in the early versions a list of schemas for the first ones. -/
def itemsKeyword? (draft : Draft) (members : List Member) (m : Member) :
    ReadM (Option Keyword) := do
  if draft = .draft2020 then
    match Member.find? members "prefixItems" with
    | some ⟨_, .array xs, _, _, _⟩ => pure (some (.itemsFrom xs.length (← m.whole)))
    | _ => pure (some (.items (← m.whole)))
  else
    match m.written with
    | .array _ => pure (some (.tuple (← m.schemas)))
    | .object _ | .bool _ => pure (some (.items (← m.whole)))
    | _ => pure none

/-- Reads the schema for the items behind a list of schemas for the first ones. -/
def additionalItems? (members : List Member) (rest : Member) : ReadM (Option Keyword) := do
  let items : Option Json := (Member.find? members "items").map (·.written)
  match items with
  | none | some (.object _) | some (.bool _) => pure none
  | some (.array xs) =>
    if rest.isRestriction then
      pure (some (.additionalItems xs.length (← rest.whole)))
    else pure (some .anyItems)
  | some _ => throw (.ofType [.array, .boolean, .object] rest.written)

/-- Reads a schema that some items have to satisfy. -/
def containsKeyword (draft : Draft) (siblings : List (String × Json)) (m : Member) :
    ReadM Keyword := do
  if draft.isSince .draft2019 then
    let least ← count? "minContains" siblings
    let most ← count? "maxContains" siblings
    pure (.contains (least.getD 1) most (draft = .draft2020) (← m.whole))
  else pure (.contains 1 none false (← m.whole))

/-! ## References -/

/-- The reference that a text stands for at a base. Its target has to be there. -/
def link (r : Reader) (base : Uri) (reference : String) : Except SchemaFault Link := do
  let _ ← Site.resolve base reference
  let target ← Registry.target base reference
  let (_, isDynamic) ← r.registry.find target
  pure ⟨base.text, target, if isDynamic then .dynamic else .fixed⟩

/-- Reads a reference and follows it. -/
def reference (r : Reader) (follow : Target → ReadM Unit) (base : Uri) (v : Json) :
    ReadM Keyword := do
  match v with
  | .string s =>
    let l ← r.link base s
    follow l.target
    pure (.reference l)
  | v => throw (.ofType [.string] v)

/-- Reads a reference to the whole of a document, which one around may take the place of. -/
def recursiveReference (r : Reader) (follow : Target → ReadM Unit) (base : Uri) (v : Json) :
    ReadM Keyword := do
  match v with
  | .string _ =>
    let target : Target := .within base.text ""
    let _ ← r.registry.site target
    follow target
    pure (.reference ⟨base.text, target, .recursive⟩)
  | v => throw (.ofType [.string] v)

/-! ## Schemas -/

/-- Reads a member among the members of a schema at a place. One that is taken by another member
gives nothing. -/
def keyword? (r : Reader) (follow : Target → ReadM Unit) (place : Place)
    (siblings : List (String × Json)) (members : List Member) (m : Member) :
    ReadM (Option Keyword) := do
  let isTaken : Bool := (Member.find? members "additionalProperties").any (·.isRestriction)
  match m.name with
  | "$ref" | "$dynamicRef" => pure (some (← r.reference follow place.base m.written))
  | "$recursiveRef" => pure (some (← r.recursiveReference follow place.base m.written))
  | "allOf" => pure (some (.allOf (← m.schemas)))
  | "anyOf" => pure (some (.anyOf (← m.schemas)))
  | "oneOf" => pure (some (.oneOf (← m.schemas)))
  | "not" => pure (some (.not (← m.whole) m.written))
  | "if" => conditional? members m
  | "then" | "else" => pure none
  | "properties" => if isTaken then pure none else pure (some (.properties (← m.namedSchemas)))
  | "patternProperties" =>
    if isTaken then pure none else pure (some (.patternProperties (← m.patternSchemas)))
  | "additionalProperties" => pure (some (← additionalProperties members m))
  | "propertyNames" =>
    if m.isRestriction then pure (some (.propertyNames (← m.whole))) else pure none
  | "dependencies" => pure (some (.dependencies (← m.readNamed dependency)))
  | "dependentRequired" => pure (some (.dependencies (← m.readNamed requirement)))
  | "dependentSchemas" => pure (some (.dependencies (← m.namedSchemas)))
  | "items" => itemsKeyword? place.draft members m
  | "prefixItems" => pure (some (.tuple (← m.schemas)))
  | "additionalItems" => additionalItems? members m
  | "contains" => pure (some (← containsKeyword place.draft siblings m))
  | "unevaluatedProperties" => pure (some (.unevaluatedProperties [] (← m.whole)))
  | "unevaluatedItems" => pure (some (.unevaluatedItems [] (← m.whole)))
  | name => do
    let c ← r.constraint? place.draft siblings name m.written
    pure (c.map .constraint)

/-- The keywords of one schema, in which those for what no other keyword looks at know the others.
-/
def withSiblings (ks : List Keyword) : List Keyword :=
  let others := ks.filter fun k =>
    match k with
    | .unevaluatedProperties .. | .unevaluatedItems .. => false
    | _ => true
  ks.map fun k =>
    match k with
    | .unevaluatedProperties _ s => .unevaluatedProperties others s
    | .unevaluatedItems _ s => .unevaluatedItems others s
    | k => k

/-- Reads the members of a schema. In the early versions a reference hides all others. -/
def members (r : Reader) (follow : Target → ReadM Unit) (place : Place)
    (siblings : List (String × Json)) (ms : List Member) : ReadM Schema := do
  match Member.find? ms "$ref", place.draft.isSince .draft2019 with
  | some m, false => pure (.keywords [← r.reference follow place.base m.written])
  | _, _ => do
    let known := ms.filter fun m => place.draft.knows place.vocabularies m.name
    let found ← known.filterMapM (r.keyword? follow place siblings ms)
    pure (.keywords (withSiblings found))

mutual
/-- Reads a schema at its place. -/
def body (r : Reader) (follow : Target → ReadM Unit) (place : Place) : Json → ReadM Schema
  | .bool b => pure (.boolean b)
  | .object ms => r.members follow place ms (memberList r follow place ms)
  | v => throw (.ofType [.boolean, .object] v)

/-- The members of a schema at a place with the ways of reading them. -/
def memberList (r : Reader) (follow : Target → ReadM Unit) (place : Place) :
    List (String × Json) → List Member
  | [] => []
  | (name, v) :: ms =>
    { name
      written := v
      whole := do body r follow (← place.inside v) v
      items := itemsInside r follow place v
      named := namedInside r follow place v } :: memberList r follow place ms

/-- What reads the items of a value as schemas inside one at a place. -/
def itemsInside (r : Reader) (follow : Target → ReadM Unit) (place : Place) :
    Json → List (ReadM Schema)
  | .array xs => itemList r follow place xs
  | _ => []

def itemList (r : Reader) (follow : Target → ReadM Unit) (place : Place) :
    List Json → List (ReadM Schema)
  | [] => []
  | x :: xs => (do body r follow (← place.inside x) x) :: itemList r follow place xs

/-- What reads the members of a value as schemas inside one at a place. -/
def namedInside (r : Reader) (follow : Target → ReadM Unit) (place : Place) :
    Json → List (String × Json × ReadM Schema)
  | .object ms => namedList r follow place ms
  | _ => []

def namedList (r : Reader) (follow : Target → ReadM Unit) (place : Place) :
    List (String × Json) → List (String × Json × ReadM Schema)
  | [] => []
  | (name, x) :: ms =>
    (name, x, do body r follow (← place.inside x) x) :: namedList r follow place ms
end

/-- Reads the schema of a target and of all targets that it refers to, unless this is under way or
done. No chain of targets is longer than the number of rounds. -/
def follow (r : Reader) : Nat → Target → ReadM Unit
  | 0, _ => pure ()
  | rounds + 1, t => do
    if (← get).opened.contains t then return
    modify fun p => { p with opened := t :: p.opened }
    let site ← r.registry.site t
    let s ← r.body (follow r rounds) (.ofSite site) site.resource.schema
    modify fun p => { p with definitions := (t, s) :: p.definitions }

end Reader

end TypeCatalog
