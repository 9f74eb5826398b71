import TypeCatalog.Pattern.Search
import TypeCatalog.Proofs.Catalog.Names

/-!
# What definitions ask of values

A `Demand` is what a definition, or a variant of a record, asks of a value, read off the
definition and not off its schema document. `Demand.accepts` says which values satisfy it: the
demand of a record asks its properties of the members of an object, and each property asks the
demand that its type's name stands for of the value of the member.

The documents of a definition are its demands written down: the members of a document are those of a
header, which describe the type, and those of the demand.
-/

set_option autoImplicit false

namespace TypeCatalog

/-- What a type asks of a value. -/
inductive Demand where
  | bool
  | enum (values : List String)
  | int (minimum maximum : Int)
  | float (body : FloatBody)
  | string (body : StringBody)
  /-- Properties, of which those of some names are required. Their types are read inside a system.
  -/
  | record (system : String) (properties : List Property) (required : List String)

/-! ## Values -/

/-- Whether a number lies between the bounds, each of which may be excluded. -/
def FloatBody.accepts (b : FloatBody) (n : Number) : Bool :=
  (if b.isMinimumExclusive.getD false then decide (b.minimum.value < n.value)
    else decide (b.minimum.value ≤ n.value))
  && if b.isMaximumExclusive.getD false then decide (n.value < b.maximum.value)
    else decide (n.value ≤ b.maximum.value)

/-- Whether a pattern of the schemas' dialect is found somewhere in a text. -/
def Pattern.isFoundIn (pattern text : String) : Bool :=
  (Search.compile? pattern).any (·.matchesText text)

/-- Whether a text has as many characters as it should, and the pattern is found in it. -/
def StringBody.accepts (b : StringBody) (s : String) : Bool :=
  decide (b.minimumLength.getD 0 ≤ s.length) && decide (s.length ≤ b.maximumLength)
    && b.regex.all (Pattern.isFoundIn · s)

namespace Demand

/-- Whether a value that is no object satisfies a demand. -/
def acceptsAtom : Demand → Json → Bool
  | bool, .bool _ => true
  | enum values, .string s => values.contains s
  | int low high, .number n =>
    n.isIntegral && decide (Dyadic.ofInt low ≤ n.value) && decide (n.value ≤ Dyadic.ofInt high)
  | float b, .number n => b.accepts n
  | string b, .string s => b.accepts s
  | _, _ => false

/-- What the property of a name asks of its value, among some properties, and whether it asks this
of each item of a list. The demands of the types are given by their names. -/
def ofProperty? (meaning : String → Option Demand) (system : String) (properties : List Property)
    (name : String) : Option (Demand × Bool) :=
  (properties.find? (·.name = name)).bind fun p =>
    (meaning (Emitter.propertyTarget system p)).map (·, p.array)

mutual
/-- Whether a value satisfies a demand. -/
def accepts (meaning : String → Option Demand) (d : Demand) : Json → Bool
  | .object ms =>
    match d with
    | record system properties required =>
      acceptsMembers meaning system properties ms
        && required.all fun name => (ms.lookup name).isSome
    | _ => false
  | v => d.acceptsAtom v

/-- Whether each member is one of some properties, and its value satisfies what the property asks.
-/
def acceptsMembers (meaning : String → Option Demand) (system : String)
    (properties : List Property) : List (String × Json) → Bool
  | [] => true
  | (name, x) :: ms =>
    (match ofProperty? meaning system properties name with
      | none => false
      | some (d, false) => accepts meaning d x
      | some (d, true) =>
        match x with
        | .array xs => acceptsItems meaning d xs
        | _ => false)
    && acceptsMembers meaning system properties ms

/-- Whether each item satisfies a demand. -/
def acceptsItems (meaning : String → Option Demand) (d : Demand) : List Json → Bool
  | [] => true
  | x :: xs => accepts meaning d x && acceptsItems meaning d xs
end

/-- The names of the types that the properties of a record refer to. -/
def targets : Demand → List String
  | record system properties _ => properties.map (Emitter.propertyTarget system)
  | _ => []

/-- The properties of a record have different names, and the bounds of a text's length are words
of 64 bits. -/
def WellFormed : Demand → Prop
  | string b => b.WellFormed
  | record _ properties _ => (properties.map (·.name)).Nodup
  | _ => True

/-- Whether the pattern of a demand, if it has one, is one that can be searched for. -/
def isSearchable : Demand → Bool
  | string b => b.regex.all fun text => (Pattern.Search.compile? text).isSome
  | _ => true

end Demand

/-! ## Definitions -/

/-- The demands of a definition and its variants by their names; none of a schema that is given as
such. -/
def Definition.demands (d : Definition) : List (String × Demand) :=
  let system := d.header.system
  match d.body with
  | .bool _ => [(d.typeName, .bool)]
  | .enum b => [(d.typeName, .enum (b.items.map (·.value)))]
  | .int b => [(d.typeName, .int b.minimum b.maximum)]
  | .float b => [(d.typeName, .float b)]
  | .string b => [(d.typeName, .string b)]
  | .object _ => []
  | .record r =>
    (d.typeName, .record system r.properties r.requiredNames)
      :: r.variantList.map fun v =>
        (d.variantTypeName v, .record system (r.selected v) (r.requiredBy v))

/-- The names of the demands are those of the type and its variants. -/
theorem Definition.map_fst_demands {d : Definition} (h : d.kind ≠ .object) :
    d.demands.map Prod.fst = d.typeName :: d.variantTypeNames := by
  unfold kind at h
  unfold demands variantTypeNames variants
  cases hbody : d.body with
  | object b =>
      rw [hbody] at h
      exact absurd rfl h
  | record r =>
      dsimp only
      rw [List.map_cons, List.map_map]
      rfl
  | _ => rfl

/-- A demand of a well-formed definition is well formed. -/
theorem Definition.WellFormed.demand {d : Definition} (h : d.WellFormed) {entry : String × Demand}
    (hentry : entry ∈ d.demands) : entry.2.WellFormed := by
  -- Only strings and records have demands that have to be checked; the others hold whatever they
  -- are made of.
  unfold demands at hentry
  cases hbody : d.body with
  | object b =>
      rw [hbody] at hentry
      cases hentry
  | string b =>
      rw [hbody, List.mem_singleton] at hentry
      rw [hentry]
      exact h.string b hbody
  | record r =>
      rw [hbody] at hentry
      have hnodup := (h.record r hbody).properties
      rcases List.mem_cons.1 hentry with rfl | hentry
      · exact hnodup
      · obtain ⟨v, -, rfl⟩ := List.mem_map.1 hentry
        -- A variant keeps some of the properties, in their order.
        exact hnodup.sublist (List.filter_sublist.map _)
  | _ =>
      rw [hbody, List.mem_singleton] at hentry
      rw [hentry]
      exact trivial

/-- The names that the demand of a record requires are names of different properties. -/
theorem Definition.WellFormed.required_nodup {d : Definition} (h : d.WellFormed)
    {t system : String} {properties : List Property} {required : List String}
    (hentry : (t, .record system properties required) ∈ d.demands) : required.Nodup := by
  unfold demands at hentry
  cases hbody : d.body with
  | object b =>
      rw [hbody] at hentry
      cases hentry
  | record r =>
      rw [hbody] at hentry
      have hnodup := (h.record r hbody).properties
      rcases List.mem_cons.1 hentry with heq | hentry
      · cases heq
        exact hnodup.sublist (List.filter_sublist.map _)
      · obtain ⟨v, -, heq⟩ := List.mem_map.1 hentry
        cases heq
        exact hnodup.sublist ((List.filter_sublist.trans List.filter_sublist).map _)
  | _ =>
      rw [hbody, List.mem_singleton] at hentry
      cases hentry

/-- A demand refers to types that the definition refers to. -/
theorem Definition.Resolves.demand {d : Definition} {e : Emitter} {declared : Definition → Prop}
    (h : d.Resolves e declared) {entry : String × Demand} (hentry : entry ∈ d.demands) {t : String}
    (ht : t ∈ entry.2.targets) : ∃ u, declared u ∧ u.typeName = t := by
  unfold demands at hentry
  unfold Resolves at h
  cases hbody : d.body with
  | object b =>
      rw [hbody] at hentry
      cases hentry
  | record r =>
      rw [hbody] at hentry h
      rcases List.mem_cons.1 hentry with rfl | hentry
      · obtain ⟨p, hp, rfl⟩ := List.mem_map.1 ht
        exact h p hp
      · obtain ⟨v, -, rfl⟩ := List.mem_map.1 hentry
        obtain ⟨p, hp, rfl⟩ := List.mem_map.1 ht
        exact h p (List.mem_of_mem_filter hp)
  | _ =>
      rw [hbody, List.mem_singleton] at hentry
      rw [hentry] at ht
      cases ht

/-! ## Documents -/

namespace Emitter

variable (e : Emitter)

/-- The members that write a demand down. -/
def demandMembers : Demand → List (String × Json)
  | .bool => [("type", .string "boolean")]
  | .enum values => [("type", .string "string"), ("enum", .ofStrings values)]
  | .int low high =>
    [("type", .string "integer"), ("minimum", .number (.integer low)),
      ("maximum", .number (.integer high))]
  | .float b =>
    [("type", .string "number"),
      (if b.isMinimumExclusive.getD false then "exclusiveMinimum" else "minimum",
        .ofBinary64 b.minimum),
      (if b.isMaximumExclusive.getD false then "exclusiveMaximum" else "maximum",
        .ofBinary64 b.maximum)]
  | .string b =>
    [("type", .string "string")]
    ++ (match b.minimumLength.getD 0 with
        | 0 => []
        | n => [("minLength", .ofNat n)])
    ++ [("maxLength", .ofNat b.maximumLength)]
    ++ (match b.regex with
        | some r => [("pattern", .string r)]
        | none => [])
  | .record system properties required => e.recordMembers system properties required

/-- The schema document of a demand behind a header. -/
def demandSchema (typeName : String) (header : Header) (demand : Demand) : Json :=
  .object (e.headerMembers typeName header ++ e.demandMembers demand)

/-- Each document of a definition writes one of its demands down. -/
theorem exists_demand_of_mem_documentsOf {d : Definition} (hkind : d.kind ≠ .object)
    {document : Document} (h : document ∈ e.documentsOf d) : ∃ demand header,
      (document.typeName, demand) ∈ d.demands
        ∧ document.schema = e.demandSchema document.typeName header demand := by
  unfold Definition.kind at hkind
  rcases List.mem_cons.1 h with rfl | h
  · unfold typeDocument Definition.demands demandSchema
    cases hbody : d.body with
    | object b =>
        rw [hbody] at hkind
        exact absurd rfl hkind
    | record r => exact ⟨_, d.header, List.mem_cons_self, rfl⟩
    | string b =>
        have hassoc (header a b c d : List (String × Json)) :
            header ++ a ++ b ++ c ++ d = header ++ (a ++ b ++ c ++ d) := by
          simp only [List.append_assoc]
        exact ⟨_, d.header, List.mem_cons_self, congrArg Json.object (hassoc _ _ _ _ _)⟩
    | _ => exact ⟨_, d.header, List.mem_cons_self, rfl⟩
  · obtain ⟨r, v, hr, hv, rfl⟩ := (e.mem_variantDocuments d).1 h
    unfold Definition.demands
    rw [hr]
    exact ⟨_, variantHeader d.header v, .tail _ (List.mem_map.2 ⟨v, hv, rfl⟩), rfl⟩

end Emitter

end TypeCatalog
