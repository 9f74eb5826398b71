import TypeCatalog.Proofs.Validation.Readable
import TypeCatalog.Proofs.Validation.Tables

/-!
# Documents satisfy the schema of schemas

A schema document is checked against the schema of schemas before it is read. `IsSchema` says of a
value that it uses the keywords of the schema language as they are meant to be used, and
`check_of_isSchema` that such a value passes the check. The documents of a batch are of this form,
and so are the schemas of lists.

The schema of schemas refers to itself and to some parts of its own (`parts`). A part admits a value
when all that the part is read as has no errors for it, where references to parts are followed
without errors for what may stand there (`Fits`). There is a lemma for each way of writing parts,
and `Fits.admits` says that each part admits what may stand there. Since the table of a validator
holds what stands at its targets, references are then sound (`IsSound`): by induction on the levels
of the value, and on the steps at one place.

`exists_validator` says that there is a validator of the schema of schemas at all. It is not found
by evaluating `Reader.validator`. `CanFollowParts` says that the references to parts can be
followed, and a part `IsRead` when it can be read under this condition; each keyword that occurs has
a lemma on the members of its name. `canFollowParts` closes the circle by induction on the rounds of
`Reader.follow`: with no rounds left there is nothing to read, and with one more round the parts are
read by what holds of the rounds before.
-/

set_option autoImplicit false

namespace TypeCatalog

open Result

/-! ## Conditions -/

/-- Zero is a lower bound of the whole numbers that are not negative. -/
theorem Number.value_integer_nonneg (n : Nat) :
    (Number.integer 0).value ≤ (Number.integer n).value := by
  show ((0 : Int) : Dyadic) ≤ ((n : Int) : Dyadic)
  rw [← Dyadic.toRat_le_toRat_iff, Dyadic.toRat_intCast, Dyadic.toRat_intCast]
  exact Rat.intCast_le_intCast.2 (Int.natCast_nonneg n)

/-- What can be searched for is a pattern in form. -/
theorem Pattern.Search.isPattern_of_compile? {text : String}
    (h : (Pattern.Search.compile? text).isSome = true) : Pattern.Search.isPattern text = true := by
  unfold isPattern
  unfold compile? at h
  cases hspell : spell? text with
  | none =>
      rw [hspell] at h
      cases h
  | some spelled => rfl

/-- Texts that differ do not count as equal. -/
theorem Json.allDifferent_strings {names : List String} (h : names.Nodup) :
    allDifferent (names.map .string) = true := by
  induction h with
  | nil => rfl
  | @cons name names hname _ ih =>
      rw [List.map_cons, allDifferent, ih, Bool.and_true, Bool.not_eq_true', List.any_map,
        List.any_eq_false]
      intro other hother heq
      exact hname other hother (beq_iff_eq.1 heq)

/-! ## Errors of keywords -/

namespace Schema

variable {here below : Follow}

/-- The errors of each schema of a list, one list behind the other. -/
theorem eachErrors_eq (ss : List Schema) (v : Json) :
    eachErrors here below ss v = ss.map (·.errors here below v) := by
  induction ss with
  | nil => rfl
  | cons s ss ih => rw [eachErrors, ih, List.map_cons]

/-- The declared properties of an object have no errors when those that are there have none. -/
theorem declaredErrors_eq_nil {ps : List (String × Schema)} {ms : List (String × Json)}
    (h : ∀ entry ∈ ps, ∀ m ∈ ms, m.1 = entry.1 → entry.2.errors below below m.2 = []) :
    declaredErrors below ps ms = [] := by
  induction ps with
  | nil => rfl
  | cons entry ps ih =>
      rw [List.forall_mem_cons] at h
      obtain ⟨name, s⟩ := entry
      rw [declaredErrors, ih h.2, List.append_nil]
      cases hlookup : ms.lookup name with
      | none => rfl
      | some x => exact allInside_eq_nil_iff.2 (h.1 _ (Table.mem_of_lookup hlookup) rfl)

/-- An object has no errors under a schema for all its members when no member has one. -/
theorem errors_rest_eq_nil {rest : Schema} {ms : List (String × Json)}
    (hrest : rest.isNothing = false) (h : ∀ m ∈ ms, rest.errors below below m.2 = []) :
    keywordErrors here below (.closed [] [] rest) (.object ms) = [] := by
  unfold keywordErrors
  dsimp only [declaredErrors?, matchingErrors]
  rw [hrest]
  refine errors_members_eq_nil_iff.2 fun m hm => ?_
  rw [if_neg Bool.false_ne_true, h m hm]

end Schema

namespace MetaSchema

open Reader

/-! ## Parts of the schema of schemas -/

/-- The reader of the schema of schemas. -/
def reader : Reader := ⟨registry, [], true⟩

/-- The base of its references. -/
def base : Uri :=
  ⟨some "http".toList, some ⟨none, .name "json-schema.org".toList, none⟩,
    "/draft-07/schema".toList, none, none⟩

/-- Its parts, by the references that lead to them. -/
def parts : List (String × Json) :=
  ("#", Draft7.schema) ::
    (Draft7.definitions.members?.getD []).map fun m => ("#/definitions/" ++ m.1, m.2)

/-- What it asks of each keyword. -/
def declared : List (String × Json) := Draft7.properties.members?.getD []

/-- No keyword is declared twice. -/
theorem nodup_declared : (declared.map Prod.fst).Nodup := by decide

/-- What a reference to a part means. -/
def targetOf (reference : String) : Target :=
  .within base.text (String.ofList reference.toList.tail)

/-- What a reference to a part is read as. -/
def linkOf (reference : String) : Link := ⟨base.text, targetOf reference, .fixed⟩

/-- Each reference of the schema of schemas leads to the target of its text. -/
theorem link_eq : ∀ reference ∈ parts.map Prod.fst,
    reader.link base reference = .ok (linkOf reference) := by
  have hlinks : ∀ reference ∈ parts.map Prod.fst,
      (reader.link base reference).toOption = some (linkOf reference) := by decide +kernel
  exact fun reference hreference => toOption_eq_some.1 (hlinks reference hreference)

/-- At the target of each part stands the part. -/
theorem site_eq : ∀ part ∈ parts,
    registry.site (targetOf part.1) = .ok ⟨base, ⟨.draft7, part.2⟩⟩ := by
  have hsites : ∀ part ∈ parts, (registry.site (targetOf part.1)).toOption.any fun site =>
      decide (site.base = base ∧ site.resource.draft = .draft7
        ∧ site.resource.schema = part.2) := by decide +kernel
  intro part hpart
  obtain ⟨⟨b, ⟨d, s⟩⟩, hsite, hfound⟩ := (Option.any_eq_true _ _).1 (hsites part hpart)
  obtain ⟨rfl, rfl, rfl⟩ := of_decide_eq_true hfound
  exact toOption_eq_some.1 hsite

/-! ## Values of keywords -/

mutual
/-- Whether a value is a schema that uses keywords as the schema of schemas has them. -/
inductive IsSchema : Json → Prop where
  | boolean (b : Bool) : IsSchema (.bool b)
  | object {ms : List (String × Json)} (h : ∀ m ∈ ms, IsMember m.1 m.2) : IsSchema (.object ms)

/-- Whether a member with a value may stand in such a schema. -/
inductive IsMember : String → Json → Prop where
  /-- Other members may be anything. -/
  | other {name : String} (v : Json)
      (hname : declared.lookup name = none) : IsMember name v
  | version {s : String} (h : Format.isReference true false s = true) :
      IsMember "$schema" (.string s)
  | address {name s : String} (hname : name ∈ ["$id", "$ref"])
      (h : Format.isReference false false s = true) : IsMember name (.string s)
  | text {name : String} (s : String)
      (hname : name ∈ ["title", "description", "contentEncoding", "contentMediaType"]) :
      IsMember name (.string s)
  | list {name : String} (xs : List Json) (hname : name ∈ ["examples", "enum"]) :
      IsMember name (.array xs)
  | type {name : String} (h : (ValueType.ofName? name).isSome = true) :
      IsMember "type" (.string name)
  | bound {name : String} (n : Number)
      (hname : name ∈ ["minimum", "maximum", "exclusiveMinimum", "exclusiveMaximum"]) :
      IsMember name (.number n)
  | length {name : String} (n : Nat) (hname : name ∈ ["minLength", "maxLength"]) :
      IsMember name (.ofNat n)
  | pattern {s : String} (h : Pattern.Search.isPattern s = true) : IsMember "pattern" (.string s)
  | required {names : List String} (h : names.Nodup) : IsMember "required" (.ofStrings names)
  | schema {name : String} {v : Json} (hname : name ∈ ["additionalProperties", "items"])
      (h : IsSchema v) : IsMember name v
  | schemas {ms : List (String × Json)} (h : ∀ m ∈ ms, IsSchema m.2) :
      IsMember "properties" (.object ms)
end

/-- Whether a value may stand where the schema of schemas refers to one of its parts. -/
inductive Fits : String → Json → Prop where
  | schema {v : Json} (h : IsSchema v) : Fits "#" v
  | count (n : Nat) : Fits "#/definitions/nonNegativeInteger" (.ofNat n)
  | countOrZero (n : Nat) : Fits "#/definitions/nonNegativeIntegerDefault0" (.ofNat n)
  | typeName {name : String} (h : (ValueType.ofName? name).isSome = true) :
      Fits "#/definitions/simpleTypes" (.string name)
  | texts {names : List String} (h : names.Nodup) :
      Fits "#/definitions/stringArray" (.ofStrings names)

/-- Whether references to the parts are followed without errors where a value may stand. -/
def IsSound (f : Follow) : Prop :=
  ∀ reference v, Fits reference v → f.errors (linkOf reference) v = []

/-- Whether a schema has no errors for a value when the references in it have none. -/
def Allows (s : Schema) (v : Json) : Prop :=
  ∀ here below : Follow, IsSound here → IsSound below → s.errors here below v = []

/-- Whether all that a part of the schema of schemas is read as allows a value. -/
def Admits (part v : Json) : Prop :=
  ∀ follow vocabularies p q s,
    body reader follow ⟨base, .draft7, vocabularies⟩ part p = .ok (s, q) → Allows s v

/-! ## Parts -/

/-- A schema of keywords allows a value when no keyword has errors for it, whatever sound references
are followed. -/
theorem allows_keywords {ks : List Keyword} {v : Json}
    (h : ∀ k ∈ ks, ∀ here below : Follow, IsSound here → IsSound below →
      Schema.keywordErrors here below k v = []) : Allows (.keywords ks) v :=
  fun here below hhere hbelow =>
    Schema.keywordListErrors_eq_nil_iff.2 fun k hk => h k hk here below hhere hbelow

/-- A part that refers to nothing is read as the same schema wherever it stands. -/
theorem admits_of_read {part v : Json} {s : Schema}
    (hread : ∀ follow vocabularies p,
      body reader follow ⟨base, .draft7, vocabularies⟩ part p = .ok (s, p)) (hs : Allows s v) :
    Admits part v := by
  intro follow vocabularies p q s' h
  rw [hread] at h
  cases h
  exact hs

/-- What a value has to be of one type. -/
def typeKeyword (t : ValueType) : Keyword := .constraint (.type false false [t])

/-- What is asked of texts admits each text. -/
theorem admits_text (s : String) : Admits text (.string s) :=
  admits_of_read (s := .keywords [typeKeyword .string]) (fun _ _ _ => rfl) fun _ _ _ _ => rfl

/-- What is asked of numbers admits each number. -/
theorem admits_number (n : Number) : Admits number (.number n) :=
  admits_of_read (s := .keywords [typeKeyword .number]) (fun _ _ _ => rfl) fun _ _ _ _ => rfl

/-- What is asked of lists admits each list. -/
theorem admits_list (xs : List Json) : Admits list (.array xs) := by
  refine admits_of_read (s := .keywords [typeKeyword .array, .items (.boolean true)])
    (fun _ _ _ => rfl) (allows_keywords ?_)
  rw [List.forall_mem_cons, List.forall_mem_singleton]
  exact ⟨fun _ _ _ _ => rfl, fun _ _ _ _ => Schema.itemErrors_eq_nil_iff.2 fun _ _ => rfl⟩

/-- A format for texts admits those that are in form. -/
theorem admits_textOf {f : Format} {s : String}
    (hf : f ∈ [⟨"uri", Format.isReference true false⟩,
      ⟨"uri-reference", Format.isReference false false⟩, ⟨"regex", Pattern.Search.isPattern⟩])
    (h : f.accepts s = true) : Admits (textOf f.name) (.string s) := by
  simp only [List.mem_cons, List.not_mem_nil, or_false] at hf
  rcases hf with rfl | rfl | rfl
  all_goals
    refine admits_of_read (s := .keywords [typeKeyword .string, .constraint (.format _ _)])
      (fun _ _ _ => rfl) (allows_keywords ?_)
    rw [List.forall_mem_cons, List.forall_mem_singleton]
    exact ⟨fun _ _ _ _ => rfl, fun _ _ _ _ => Constraint.map_here_expect_eq_nil_iff.2 h⟩

/-- A part that refers to another one allows what may stand there. -/
theorem admits_referenceTo {reference : String} {v : Json} (h : Fits reference v)
    (hreference : reference ∈ parts.map Prod.fst) : Admits (referenceTo reference) v := by
  intro follow vocabularies p q s hbody
  obtain ⟨l, hl, -, rfl⟩ := of_body_reference rfl rfl hbody
  rw [link_eq reference hreference] at hl
  cases hl
  refine allows_keywords (List.forall_mem_singleton.2 fun here _ hhere _ => ?_)
  exact hhere reference v h

/-! ## Parts that hold schemas -/

/-- Whether a part names neither itself nor a version. -/
def IsUnnamed (part : Json) : Prop := part.member? "$id" = none ∧ part.member? "$schema" = none

instance (part : Json) : Decidable (IsUnnamed part) := instDecidableAnd

/-- A part inside of another one allows what it admits. -/
theorem allows_of_inside {part v : Json} (h : Admits part v) (hpart : IsUnnamed part)
    {follow : Target → ReadM Unit} {vocabularies : List Vocabulary} {p q : Progress} {s : Schema}
    (hread : inside reader follow ⟨base, .draft7, vocabularies⟩ part p = .ok (s, q)) :
    Allows s v :=
  h follow vocabularies p q s (of_inside_unnamed rfl hpart.1 hpart.2 hread)

/-- A list of parts under a keyword that stands alone is read part by part. -/
theorem of_body_schemas {name : String} {make : List Schema → Keyword}
    (hmake : (name = "allOf" ∧ make = .allOf) ∨ (name = "anyOf" ∧ make = .anyOf))
    {ms : List (String × Json)} {xs : List Json}
    (hms : ∀ vs, ms.filter (fun m => Draft.draft7.knows vs m.1) = [(name, .array xs)])
    (href : ms.find? (·.1 = "$ref") = none) {r : Reader} {follow : Target → ReadM Unit}
    {place : Place} (hdraft : place.draft = .draft7) {p q : Progress} {s : Schema}
    (h : body r follow place (.object ms) p = .ok (s, q)) :
    ∃ ss, s = .keywords [make ss]
      ∧ List.Forall₂ (fun x s => ∃ p q, inside r follow place x p = .ok (s, q)) xs ss := by
  obtain ⟨ks, hks, rfl⟩ := of_body_object hdraft href h
  rw [hms] at hks
  obtain ⟨k, p₁, rest, hk, hrest, rfl⟩ := ReadM.filterMapM_cons_eq_ok.1 hks
  obtain ⟨rfl, rfl⟩ := ReadM.filterMapM_nil_eq_ok.1 hrest
  rcases hmake with ⟨rfl, rfl⟩ | ⟨rfl, rfl⟩
  all_goals
    obtain ⟨ss, p₂, hss, hk⟩ := ReadM.bind_eq_ok.1 hk
    obtain ⟨rfl, rfl⟩ := ReadM.pure_eq_ok.1 hk
    rw [schemas_memberOf] at hss
    exact ⟨ss, rfl, List.forall₂_map_left_iff.1 (ReadM.forall₂_of_mapM hss)⟩

/-- A value is allowed where all of some parts admit it. -/
theorem admits_allOf {ms : List (String × Json)} {xs : List Json} {v : Json}
    (hms : ∀ vs, ms.filter (fun m => Draft.draft7.knows vs m.1) = [("allOf", .array xs)])
    (href : ms.find? (·.1 = "$ref") = none) (h : ∀ x ∈ xs, IsUnnamed x ∧ Admits x v) :
    Admits (.object ms) v := by
  intro follow vocabularies p q s hbody
  obtain ⟨ss, rfl, hss⟩ := of_body_schemas (.inl ⟨rfl, rfl⟩) hms href rfl hbody
  refine allows_keywords (List.forall_mem_singleton.2 fun here below hhere hbelow => ?_)
  rw [Schema.keywordErrors, Schema.eachErrors_eq, List.flatten_eq_nil_iff, List.forall_mem_map]
  intro s hs
  obtain ⟨x, hx, p, q, hread⟩ := exists_of_mem_forall₂ hss hs
  exact allows_of_inside (h x hx).2 (h x hx).1 hread here below hhere hbelow

/-- A value is allowed where the first one of some parts admits it. -/
theorem admits_anyOf {ms : List (String × Json)} {first v : Json} {others : List Json}
    (hms : ∀ vs, ms.filter (fun m => Draft.draft7.knows vs m.1)
      = [("anyOf", .array (first :: others))])
    (href : ms.find? (·.1 = "$ref") = none) (hfirst : IsUnnamed first) (h : Admits first v) :
    Admits (.object ms) v := by
  intro follow vocabularies p q s hbody
  obtain ⟨ss, rfl, hss⟩ := of_body_schemas (.inr ⟨rfl, rfl⟩) hms href rfl hbody
  refine allows_keywords (List.forall_mem_singleton.2 fun here below hhere hbelow => ?_)
  cases hss with
  | cons hread _ =>
      obtain ⟨p, q, hread⟩ := hread
      rw [Schema.keywordErrors, Schema.eachErrors,
        allows_of_inside h hfirst hread here below hhere hbelow]
      rfl

/-! ## The parts -/

/-- A whole number that is not negative is admitted as such. -/
theorem admits_nonNegativeInteger (n : Nat) : Admits nonNegativeInteger (.ofNat n) := by
  refine admits_of_read
    (s := .keywords [typeKeyword .integer, .constraint (.minimum (.integer 0))])
    (fun _ _ _ => rfl) (allows_keywords ?_)
  rw [List.forall_mem_cons, List.forall_mem_singleton]
  refine ⟨fun _ _ _ _ => rfl, fun _ _ _ _ => Constraint.map_here_expect_eq_nil_iff.2 ?_⟩
  exact decide_eq_true (Number.value_integer_nonneg n)

/-- The name of a simple type is admitted as such. -/
theorem admits_simpleTypes {name : String} (h : (ValueType.ofName? name).isSome = true) :
    Admits simpleTypes (.string name) := by
  refine admits_of_read
    (s := .keywords [.constraint (.enum ((ValueType.all.map (·.name)).map .string))])
    (fun _ _ _ => rfl) (allows_keywords (List.forall_mem_singleton.2 fun _ _ _ _ => ?_))
  refine Constraint.errors_enum_eq_nil_iff.2 (List.contains_iff_mem.2 ?_)
  obtain ⟨t, ht⟩ := Option.isSome_iff_exists.1 h
  have hname := List.find?_some ht
  exact List.mem_map.2 ⟨t, List.mem_of_find?_eq_some ht, of_decide_eq_true hname⟩

/-- A list of different texts is admitted as such. -/
theorem admits_stringArray {names : List String} (h : names.Nodup) :
    Admits stringArray (.ofStrings names) := by
  refine admits_of_read
    (s := .keywords [typeKeyword .array, .items (.keywords [typeKeyword .string]),
      .constraint .uniqueItems]) (fun _ _ _ => rfl) (allows_keywords ?_)
  rw [List.forall_mem_cons, List.forall_mem_cons, List.forall_mem_singleton]
  refine ⟨fun _ _ _ _ => rfl, fun _ _ _ _ => ?_, fun _ _ _ _ => ?_⟩
  · exact Schema.itemErrors_eq_nil_iff.2 (List.forall_mem_map.2 fun _ _ => rfl)
  · exact Constraint.map_here_expect_eq_nil_iff.2 (Json.allDifferent_strings h)

/-- So is a number whose default is zero. -/
theorem admits_countOrZero (n : Nat) :
    Admits (.object [("allOf", .array [Draft7.count, .object [default (.ofNat 0)]])])
      (.ofNat n) := by
  refine admits_allOf (fun _ => rfl) rfl ?_
  rw [List.forall_mem_cons, List.forall_mem_singleton]
  refine ⟨⟨by decide, admits_referenceTo (.count n) ?_⟩, by decide, ?_⟩
  · decide
  · exact admits_of_read (s := .keywords []) (fun _ _ _ => rfl) fun _ _ _ _ => rfl

/-- A schema for all properties, where none are declared. -/
theorem additionalProperties_alone {members : List Member} {rest : Member}
    (hpatterns : Member.find? members "patternProperties" = none)
    (hproperties : Member.find? members "properties" = none)
    (hrest : rest.written ≠ .bool true) :
    additionalProperties members rest = (do
      let s ← rest.whole
      pure (if s.isNothing then .noProperties else .closed [] [] s)) := by
  unfold additionalProperties
  rw [hpatterns, hproperties]
  dsimp only
  rw [if_neg hrest]
  rfl

/-- A map of schemas admits an object whose members are schemas. -/
theorem admits_mapOf {ms : List (String × Json)} (h : ∀ m ∈ ms, IsSchema m.2) :
    Admits (mapOf Draft7.anySchema) (.object ms) := by
  intro follow vocabularies p q s hbody
  obtain ⟨ks, hks, rfl⟩ := of_body_object rfl rfl hbody
  obtain ⟨first, p₁, others, hfirst, hothers, rfl⟩ := ReadM.filterMapM_cons_eq_ok.1 hks
  obtain ⟨second, p₂, none, hsecond, hnone, rfl⟩ := ReadM.filterMapM_cons_eq_ok.1 hothers
  obtain ⟨rfl, rfl⟩ := ReadM.filterMapM_nil_eq_ok.1 hnone
  obtain ⟨k, p₃, hk, hsecond⟩ := ReadM.bind_eq_ok.1 hsecond
  obtain ⟨rfl, rfl⟩ := ReadM.pure_eq_ok.1 hsecond
  rw [additionalProperties_alone rfl rfl (by intro h; cases h)] at hk
  obtain ⟨rest, p₄, hrest, hk⟩ := ReadM.bind_eq_ok.1 hk
  obtain ⟨rfl, rfl⟩ := ReadM.pure_eq_ok.1 hk
  cases hfirst
  have hbody := of_inside_unnamed rfl (by decide) (by decide) hrest
  obtain ⟨l, -, -, hreference⟩ := of_body_reference rfl rfl hbody
  have hclosed : rest.isNothing = false := by rw [hreference]; rfl
  rw [hclosed, if_neg Bool.false_ne_true]
  show Allows (.keywords [typeKeyword .object, .closed [] [] rest]) (.object ms)
  refine allows_keywords ?_
  -- The object has no other condition than the one on the members, all of which are additional.
  rw [List.forall_mem_cons, List.forall_mem_singleton]
  refine ⟨fun _ _ _ _ => rfl, fun here below _ hbelow => ?_⟩
  refine Schema.errors_rest_eq_nil hclosed fun m hm => ?_
  exact admits_referenceTo (.schema (h m hm)) (by decide) _ _ _ _ _ hbody below below hbelow hbelow

/-! ## The schema of schemas -/

/-- What is asked of a keyword has no address and no version of its own. -/
theorem isUnnamed_of_mem_declared : ∀ entry ∈ declared, IsUnnamed entry.2 := by decide

/-- What a keyword has to be admits its value. -/
theorem IsMember.admits {name : String} {v part : Json} (h : IsMember name v)
    (hpart : declared.lookup name = some part) : Admits part v := by
  -- The value is one of those that the keyword is meant to have, and the lookup gives what is asked
  -- of that keyword.
  cases h with
  | other v hname =>
      rw [hname] at hpart
      cases hpart
  | version h =>
      cases hpart
      exact admits_textOf (f := ⟨"uri", Format.isReference true false⟩) (by simp) h
  | address hname h =>
      rcases List.mem_pair.1 hname with rfl | rfl
      all_goals
        cases hpart
        exact admits_textOf (f := ⟨"uri-reference", Format.isReference false false⟩) (by simp) h
  | text s hname =>
      simp only [List.mem_cons, List.not_mem_nil, or_false] at hname
      rcases hname with rfl | rfl | rfl | rfl
      all_goals
        cases hpart
        exact admits_text s
  | list xs hname =>
      rcases List.mem_pair.1 hname with rfl | rfl
      all_goals
        cases hpart
        exact admits_list xs
  | type h =>
      cases hpart
      refine admits_anyOf (fun _ => rfl) rfl (by decide) ?_
      exact admits_referenceTo (.typeName h) (by decide)
  | bound n hname =>
      simp only [List.mem_cons, List.not_mem_nil, or_false] at hname
      rcases hname with rfl | rfl | rfl | rfl
      all_goals
        cases hpart
        exact admits_number n
  | length n hname =>
      rcases List.mem_pair.1 hname with rfl | rfl
      · cases hpart
        exact admits_referenceTo (.countOrZero n) (by decide)
      · cases hpart
        exact admits_referenceTo (.count n) (by decide)
  | pattern h =>
      cases hpart
      exact admits_textOf (f := ⟨"regex", Pattern.Search.isPattern⟩) (by simp) h
  | required h =>
      cases hpart
      exact admits_referenceTo (.texts h) (by decide)
  | schema hname h =>
      rcases List.mem_pair.1 hname with rfl | rfl
      · cases hpart
        exact admits_referenceTo (.schema h) (by decide)
      · cases hpart
        refine admits_anyOf (fun _ => rfl) rfl (by decide) ?_
        exact admits_referenceTo (.schema h) (by decide)
  | schemas h =>
      cases hpart
      exact admits_mapOf h

/-- The schema of schemas admits what uses its keywords as it says. -/
theorem admits_schema {v : Json} (h : IsSchema v) : Admits Draft7.schema v := by
  intro follow vocabularies p q s hbody
  obtain ⟨ks, hks, rfl⟩ := of_body_object rfl rfl hbody
  obtain ⟨first, p₁, others, hfirst, hothers, rfl⟩ := ReadM.filterMapM_cons_eq_ok.1 hks
  obtain ⟨second, p₂, none, hsecond, hnone, rfl⟩ := ReadM.filterMapM_cons_eq_ok.1 hothers
  obtain ⟨rfl, rfl⟩ := ReadM.filterMapM_nil_eq_ok.1 hnone
  cases hfirst
  obtain ⟨ps, p₃, hps, hsecond⟩ := ReadM.bind_eq_ok.1 hsecond
  obtain ⟨rfl, rfl⟩ := ReadM.pure_eq_ok.1 hsecond
  show Allows (.keywords [.constraint (.type false true [.boolean, .object]), .properties ps]) v
  refine allows_keywords ?_
  rw [List.forall_mem_cons, List.forall_mem_singleton]
  refine ⟨fun _ _ _ _ => ?_, fun here below _ hbelow => ?_⟩
  · cases h with
    | boolean b => rfl
    | object h => rfl
  · cases h with
    | boolean b => rfl
    | @object ms h =>
        refine Schema.declaredErrors_eq_nil fun entry hentry m hm hname => ?_
        -- The schema of a declared name was read of what is asked of the keyword of that name.
        rw [show Draft7.properties = .object declared from rfl, namedSchemas_memberOf] at hps
        obtain ⟨x, hx, p, q, hread⟩ := exists_of_mem_forall₂ (ReadM.forall₂_of_mapM hps) hentry
        obtain ⟨part, hpart, rfl⟩ := List.mem_map.1 hx
        obtain ⟨s, p₄, hs, hread⟩ := ReadM.bind_eq_ok.1 hread
        obtain ⟨rfl, rfl⟩ := ReadM.pure_eq_ok.1 hread
        have hlookup : declared.lookup m.1 = some part.2 := by
          rw [hname]
          exact Table.lookup_of_mem nodup_declared hpart
        exact allows_of_inside ((h m hm).admits hlookup) (isUnnamed_of_mem_declared part hpart) hs
          below below hbelow hbelow

/-- What may stand where a reference leads to a part is admitted by the part. -/
theorem Fits.admits {reference : String} {v : Json} (h : Fits reference v) :
    ∃ part, (reference, part) ∈ parts ∧ Admits part v := by
  cases h with
  | schema h => exact ⟨_, List.mem_cons_self, admits_schema h⟩
  | count n => exact ⟨nonNegativeInteger, by decide, admits_nonNegativeInteger n⟩
  | countOrZero n => exact ⟨_, by decide, admits_countOrZero n⟩
  | typeName h => exact ⟨simpleTypes, by decide, admits_simpleTypes h⟩
  | texts h => exact ⟨stringArray, by decide, admits_stringArray h⟩

/-! ## All parts are read -/

/-- Whether references to all parts can be followed. -/
def CanFollowParts (follow : Target → ReadM Unit) : Prop :=
  ∀ reference ∈ parts.map Prod.fst, Succeeds (follow (targetOf reference))

/-- Whether a part is read when the references to parts can be followed. -/
def IsRead (part : Json) : Prop :=
  ∀ follow vocabularies, CanFollowParts follow →
    Succeeds (body reader follow ⟨base, .draft7, vocabularies⟩ part)

/-- What reads one of the members of a part. -/
def readMember (follow : Target → ReadM Unit) (vocabularies : List Vocabulary)
    (ms : List (String × Json)) (m : String × Json) : ReadM (Option Keyword) :=
  let place : Place := ⟨base, .draft7, vocabularies⟩
  reader.keyword? follow place ms (ms.map (memberOf reader follow place))
    (memberOf reader follow place m)

/-- Whether a member of a part is read when the references to parts can be followed. -/
def IsMemberRead (ms : List (String × Json)) (m : String × Json) : Prop :=
  ∀ follow vocabularies, CanFollowParts follow → Succeeds (readMember follow vocabularies ms m)

/-- A part whose members are all read is read itself. -/
theorem isRead_object {ms : List (String × Json)} (href : ms.find? (·.1 = "$ref") = none)
    (h : ∀ m ∈ ms, IsMemberRead ms m) : IsRead (.object ms) :=
  fun follow vocabularies hfollow => succeeds_object rfl href fun m hm =>
    h m (List.mem_of_mem_filter hm) follow vocabularies hfollow

/-- A reference to a part is read by following it. -/
theorem isRead_referenceTo {reference : String} (hreference : reference ∈ parts.map Prod.fst) :
    IsRead (referenceTo reference) := by
  intro follow vocabularies hfollow
  unfold referenceTo MetaSchema.reference body members
  rw [memberList_eq]
  refine .bind ?_ fun k => .pure _
  exact .bind_lift (link_eq reference hreference)
    ((hfollow reference hreference).bind fun _ => .pure _)

/-- A part inside another one is read as it is by itself. -/
theorem IsRead.inside {part : Json} (h : IsRead part) (hpart : IsUnnamed part)
    {follow : Target → ReadM Unit} (hfollow : CanFollowParts follow)
    (vocabularies : List Vocabulary) :
    Succeeds (inside reader follow ⟨base, .draft7, vocabularies⟩ part) :=
  .bind_lift (Place.inside_unnamed _ hpart.1 hpart.2 rfl) (h follow vocabularies hfollow)

/-- The keywords `allOf` and `anyOf` are read when all of their schemas are. -/
theorem isMemberRead_schemas {ms : List (String × Json)} {name : String} {xs : List Json}
    (hname : name = "allOf" ∨ name = "anyOf") (h : ∀ x ∈ xs, IsUnnamed x ∧ IsRead x) :
    IsMemberRead ms (name, .array xs) := by
  intro follow vocabularies hfollow
  have hschemas : Succeeds
      (memberOf reader follow ⟨base, .draft7, vocabularies⟩ (name, .array xs)).schemas := by
    rw [schemas_memberOf]
    refine .mapM fun x hx => ?_
    obtain ⟨part, hpart, rfl⟩ := List.mem_map.1 hx
    exact (h part hpart).2.inside (h part hpart).1 hfollow vocabularies
  rcases hname with rfl | rfl
  · exact hschemas.bind fun ss => .pure _
  · exact hschemas.bind fun ss => .pure _

/-- The keyword `items` is read when its schema is. -/
theorem isMemberRead_items {ms ps : List (String × Json)} (hpart : IsUnnamed (.object ps))
    (h : IsRead (.object ps)) : IsMemberRead ms ("items", .object ps) :=
  fun _ vocabularies hfollow => (h.inside hpart hfollow vocabularies).bind fun _ => .pure _

/-- The keyword `additionalProperties` is read when its schema is. Without declared properties and
patterns beside it, it is about all members. -/
theorem isMemberRead_additionalProperties {ms : List (String × Json)} {part : Json}
    (hpatterns : ms.find? (·.1 = "patternProperties") = none)
    (hproperties : ms.find? (·.1 = "properties") = none) (hnotAll : part ≠ .bool true)
    (hpart : IsUnnamed part) (h : IsRead part) :
    IsMemberRead ms ("additionalProperties", part) := by
  intro follow vocabularies hfollow
  refine .bind ?_ fun k => .pure _
  rw [additionalProperties_alone (by rw [find?_memberOf, hpatterns]; rfl)
    (by rw [find?_memberOf, hproperties]; rfl) hnotAll]
  exact (h.inside hpart hfollow vocabularies).bind fun s => .pure _

/-- The keyword `properties` is read when the schemas of all properties are. -/
theorem isMemberRead_properties {ms ps : List (String × Json)}
    (hopen : ms.find? (·.1 = "additionalProperties") = none)
    (h : ∀ m ∈ ps, IsUnnamed m.2 ∧ IsRead m.2) : IsMemberRead ms ("properties", .object ps) := by
  intro follow vocabularies hfollow
  have hnamed : Succeeds (memberOf reader follow ⟨base, .draft7, vocabularies⟩
      ("properties", .object ps)).namedSchemas := by
    rw [namedSchemas_memberOf]
    refine .mapM fun x hx => ?_
    obtain ⟨m, hm, rfl⟩ := List.mem_map.1 hx
    exact ((h m hm).2.inside (h m hm).1 hfollow vocabularies).bind fun s => .pure _
  show Succeeds (if (Member.find? _ "additionalProperties").any (·.isRestriction) then _ else _)
  rw [find?_memberOf, hopen]
  exact hnamed.bind fun ps => .pure _

/-- A condition is read whatever can be followed. -/
theorem isMemberRead_condition {ms : List (String × Json)} {m : String × Json}
    (h : ∀ follow vocabularies p,
      (readMember follow vocabularies ms m p).toOption.isSome = true) : IsMemberRead ms m :=
  fun follow vocabularies _ => .of_isSome (h follow vocabularies)

/-- The parts that hold no references. -/
def conditions : List Json :=
  [text, number, list, flag, factor, nonNegativeInteger, simpleTypes, stringArray, textOf "uri",
    textOf "uri-reference", textOf "regex", .bool true, .object [default (.ofNat 0)]]

/-- The parts that are made of conditions only are read. -/
theorem isRead_condition {part : Json} (hpart : part ∈ conditions) : IsRead part := by
  simp only [conditions, List.mem_cons, List.not_mem_nil, or_false] at hpart
  intro follow vocabularies _
  rcases hpart with rfl | rfl | rfl | rfl | rfl | rfl | rfl | rfl | rfl | rfl | rfl | rfl | rfl
  all_goals exact .of_isSome fun _ => rfl

/-- The number with the default zero is read. -/
theorem isRead_countOrZero :
    IsRead (.object [("allOf", .array [Draft7.count, .object [default (.ofNat 0)]])]) := by
  refine isRead_object rfl (List.forall_mem_singleton.2 (isMemberRead_schemas (.inl rfl) ?_))
  rw [List.forall_mem_cons, List.forall_mem_singleton]
  exact ⟨⟨by decide, isRead_referenceTo (by decide)⟩, by decide, isRead_condition (by decide)⟩

/-- The list of schemas is read. -/
theorem isRead_listOf : IsRead (listOf Draft7.anySchema) := by
  refine isRead_object rfl ?_
  rw [List.forall_mem_cons, List.forall_mem_cons, List.forall_mem_singleton]
  refine ⟨isMemberRead_condition fun _ _ _ => rfl, isMemberRead_condition fun _ _ _ => rfl, ?_⟩
  exact isMemberRead_items (by decide) (isRead_referenceTo (by decide))

/-- A reference to a part has no address and no version of its own. -/
theorem isUnnamed_referenceTo (reference : String) : IsUnnamed (referenceTo reference) :=
  ⟨rfl, rfl⟩

/-- A choice between two references is read. -/
theorem isMemberRead_choice {ms : List (String × Json)} {first second : String}
    (hfirst : first ∈ parts.map Prod.fst) (hsecond : second ∈ parts.map Prod.fst) :
    IsMemberRead ms ("anyOf", .array [referenceTo first, referenceTo second]) := by
  refine isMemberRead_schemas (.inr rfl) ?_
  rw [List.forall_mem_cons, List.forall_mem_singleton]
  exact ⟨⟨isUnnamed_referenceTo first, isRead_referenceTo hfirst⟩,
    isUnnamed_referenceTo second, isRead_referenceTo hsecond⟩

/-- What is asked of `items` is read: a schema or a list of schemas. -/
theorem isRead_items :
    IsRead (.object [("anyOf", .array [Draft7.anySchema, Draft7.schemaList]),
      default (.bool true)]) := by
  refine isRead_object rfl ?_
  rw [List.forall_mem_cons, List.forall_mem_singleton]
  exact ⟨isMemberRead_choice (by decide) (by decide), isMemberRead_condition fun _ _ _ => rfl⟩

/-- What is asked of `type` is read. -/
theorem isRead_typesAt : IsRead (typesAt "#/definitions/simpleTypes") := by
  have hsimple : IsRead (referenceTo "#/definitions/simpleTypes") :=
    isRead_referenceTo (by decide)
  refine isRead_object rfl (List.forall_mem_singleton.2 (isMemberRead_schemas (.inr rfl) ?_))
  rw [List.forall_mem_cons, List.forall_mem_singleton]
  refine ⟨⟨by decide, hsimple⟩, by decide, isRead_object rfl ?_⟩
  simp only [List.forall_mem_cons]
  refine ⟨isMemberRead_condition fun _ _ _ => rfl, isMemberRead_items (by decide) hsimple,
    isMemberRead_condition fun _ _ _ => rfl, isMemberRead_condition fun _ _ _ => rfl, nofun⟩

/-- A map of schemas is read. -/
theorem isRead_mapOf : IsRead (mapOf Draft7.anySchema) := by
  refine isRead_object rfl ?_
  rw [List.forall_mem_cons, List.forall_mem_cons, List.forall_mem_singleton]
  refine ⟨isMemberRead_condition fun _ _ _ => rfl, ?_, isMemberRead_condition fun _ _ _ => rfl⟩
  exact isMemberRead_additionalProperties rfl rfl (by decide) (by decide)
    (isRead_referenceTo (by decide))

/-- So is one whose names are patterns. -/
theorem isRead_patternMapOf : IsRead (patternMapOf Draft7.anySchema) := by
  refine isRead_object rfl ?_
  rw [List.forall_mem_cons, List.forall_mem_cons, List.forall_mem_cons, List.forall_mem_singleton]
  refine ⟨isMemberRead_condition fun _ _ _ => rfl, ?_, isMemberRead_condition fun _ _ _ => rfl,
    isMemberRead_condition fun _ _ _ => rfl⟩
  exact isMemberRead_additionalProperties rfl rfl (by decide) (by decide)
    (isRead_referenceTo (by decide))

/-- What is asked of `dependencies` is read. -/
theorem isRead_dependencies : IsRead (.object [type "object",
    ("additionalProperties", anyOf [Draft7.anySchema, Draft7.definition "stringArray"])]) := by
  refine isRead_object rfl ?_
  rw [List.forall_mem_cons, List.forall_mem_singleton]
  refine ⟨isMemberRead_condition fun _ _ _ => rfl, ?_⟩
  refine isMemberRead_additionalProperties rfl rfl (by decide) (by decide) ?_
  refine isRead_object rfl (List.forall_mem_singleton.2 ?_)
  exact isMemberRead_choice (by decide) (by decide)

/-- Whatever is asked of a keyword is read. -/
theorem isRead_of_mem_declared : ∀ m ∈ declared, IsRead m.2 := by
  have hcases : ∀ m ∈ declared, m.2 ∈ conditions ++ (parts.map fun part => referenceTo part.1) ++
      [.object [("anyOf", .array [Draft7.anySchema, Draft7.schemaList]), default (.bool true)],
       mapOf Draft7.anySchema, patternMapOf Draft7.anySchema, .object [type "object",
         ("additionalProperties", anyOf [Draft7.anySchema, Draft7.definition "stringArray"])],
       typesAt "#/definitions/simpleTypes"] := by decide +kernel
  intro m hm
  have hpart := hcases m hm
  rw [List.mem_append, List.mem_append] at hpart
  -- Each of them is a condition, a reference to a part, or one of five others.
  rcases hpart with (hcondition | hreference) | hcomposite
  · exact isRead_condition hcondition
  · obtain ⟨part, hpart, heq⟩ := List.mem_map.1 hreference
    rw [← heq]
    exact isRead_referenceTo (List.mem_map_of_mem hpart)
  · simp only [List.mem_cons, List.not_mem_nil, or_false] at hcomposite
    rcases hcomposite with heq | heq | heq | heq | heq
    all_goals rw [heq]
    · exact isRead_items
    · exact isRead_mapOf
    · exact isRead_patternMapOf
    · exact isRead_dependencies
    · exact isRead_typesAt

/-- The schema of schemas is read, as all that it asks of keywords is. -/
theorem isRead_schema : IsRead Draft7.schema := by
  refine isRead_object rfl ?_
  simp only [List.forall_mem_cons]
  refine ⟨isMemberRead_condition fun _ _ _ => rfl, isMemberRead_condition fun _ _ _ => rfl,
    isMemberRead_condition fun _ _ _ => rfl, isMemberRead_condition fun _ _ _ => rfl,
    isMemberRead_condition fun _ _ _ => rfl, ?_, isMemberRead_condition fun _ _ _ => rfl, nofun⟩
  refine isMemberRead_properties rfl fun m hm => ?_
  exact ⟨isUnnamed_of_mem_declared m hm, isRead_of_mem_declared m hm⟩

/-- All parts are read. -/
theorem isRead_of_mem_parts : ∀ part ∈ parts, IsRead part.2 := by
  show ∀ part ∈ ([_, _, _, _, _, _] : List (String × Json)), IsRead part.2
  simp only [List.forall_mem_cons]
  exact ⟨isRead_schema, isRead_listOf, isRead_condition (by decide), isRead_countOrZero,
    isRead_condition (by decide), isRead_condition (by decide), nofun⟩

/-- References to parts can be followed for any number of rounds. -/
theorem canFollowParts (rounds : Nat) : CanFollowParts (reader.follow rounds) := by
  induction rounds with
  | zero => exact fun _ _ => .pure ()
  | succ rounds ih =>
      intro reference hreference
      obtain ⟨part, hpart, rfl⟩ := List.mem_map.1 hreference
      unfold Reader.follow
      refine .bind (fun p => ⟨p, p, rfl⟩) fun p => ?_
      split
      · exact .pure ()
      · refine .bind (fun p => ⟨(), _, rfl⟩) fun _ => ?_
        refine .bind_lift (site_eq part hpart) ?_
        exact (isRead_of_mem_parts part hpart _ _ ih).bind fun s p => ⟨(), _, rfl⟩

/-! ## Validators -/

variable {v : Validator} (hv : reader.IsTable v.definitions)

include hv

/-- References at one place of a value are followed without errors, when those below it are. -/
theorem isSound_followHere {below : Scope → Follow} (hbelow : ∀ σ, IsSound (below σ)) (steps : Nat)
    (opened : List Target) (σ : Scope) : IsSound (v.followHere below steps opened σ) := by
  induction steps generalizing opened σ with
  | zero => exact fun _ _ _ => rfl
  | succ steps ih =>
      intro reference x hfits
      obtain ⟨part, hpart, hadmits⟩ := hfits.admits
      rw [Validator.followHere]
      dsimp only [Link.destination, linkOf]
      -- What is open already, and what is not in the table, adds no errors.
      by_cases hopened : targetOf reference ∈ opened
      · rw [if_pos hopened]
      · rw [if_neg hopened]
        cases hlookup : v.definitions.lookup (targetOf reference) with
        | none => rfl
        | some s =>
            obtain ⟨follow, site, p, q, hsite, hbody⟩ := hv _ (Table.mem_of_lookup hlookup)
            have hfound := site_eq _ hpart
            rw [show registry = reader.registry from rfl, hsite] at hfound
            cases hfound
            exact hadmits follow _ p q s hbody _ _ (ih _ _) (hbelow _)

/-- References are followed soundly at any number of levels below. -/
theorem isSound_follow (levels : Nat) (σ : Scope) : IsSound (v.follow levels σ) := by
  induction levels generalizing σ with
  | zero => exact fun _ _ _ => rfl
  | succ levels ih => exact isSound_followHere hv ih _ _ _

omit hv

/-- The schema of schemas is entered at its own address. -/
theorem enter_schema : (Site.address ⟨.draft7, Draft7.schema⟩).bind
    (fun b => Site.enter b ⟨.draft7, Draft7.schema⟩) = .ok base :=
  toOption_eq_some.1 (by decide +kernel)

/-- The schema of schemas is a schema itself. -/
theorem exists_validator : ∃ v, validator = .ok v := by
  obtain ⟨b, hb, henter⟩ := bind_eq_ok.1 enter_schema
  obtain ⟨s, p, hread⟩ := isRead_schema _ (Draft.draft7.vocabulariesOf Draft7.schema)
    (canFollowParts reader.rounds) Inhabited.default
  exact ⟨_, bind_eq_ok.2 ⟨b, hb, bind_eq_ok.2 ⟨base, henter, bind_eq_ok.2 ⟨(s, p), hread, rfl⟩⟩⟩⟩

/-- No other base is found for it. -/
theorem entered_eq : ∀ base₁ base₂, Site.address ⟨.draft7, Draft7.schema⟩ = .ok base₁ →
    Site.enter base₁ ⟨.draft7, Draft7.schema⟩ = .ok base₂ → base₂ = base := by
  intro base₁ base₂ h₁ h₂
  obtain ⟨b, hb, henter⟩ := bind_eq_ok.1 enter_schema
  rw [hb] at h₁
  cases h₁
  rw [henter] at h₂
  cases h₂
  rfl

/-- What uses the keywords of schemas as the schema of schemas says satisfies it. -/
theorem check_of_isSchema {v : Json} (h : IsSchema v) : check v = .ok () := by
  obtain ⟨w, hw⟩ := exists_validator
  obtain ⟨htable, base₁, base₂, follow, p, q, h₁, h₂, hbody⟩ :=
    isTable_of_validator (r := reader) hw
  rw [entered_eq base₁ base₂ h₁ h₂] at hbody
  have herrors : w.errors v = [] := by
    have hbelow := isSound_follow htable v.levels
    exact admits_schema h _ _ _ _ _ hbody _ _ (isSound_followHere htable hbelow _ _ _) (hbelow _)
  unfold check
  rw [hw]
  refine bind_eq_ok.2 ⟨w, rfl, ?_⟩
  rw [herrors]

/-! ## Documents -/

/-- A reference that is in form is a schema. -/
theorem isSchema_reference {uri : String} (huri : Format.isReference false false uri = true) :
    IsSchema (.object [("$ref", .string uri)]) :=
  .object (List.forall_mem_singleton.2 (.address (by simp) huri))

/-- The version that all documents are written in is named by an address. -/
theorem isMember_version :
    IsMember "$schema" (.string Emitter.draft) := .version (by decide +kernel)

/-- A schema of lists satisfies the schema of schemas. -/
theorem isSchema_listSchema {uri : String} (huri : Format.isReference false false uri = true) :
    IsSchema (Engine.listSchema uri) := by
  refine .object ?_
  rw [List.forall_mem_cons, List.forall_mem_cons, List.forall_mem_singleton]
  exact ⟨isMember_version, .type (by decide), .schema (by simp) (isSchema_reference huri)⟩

section

variable {e : Emitter} {t : String}

/-- The members of a header use their keywords as they are meant to be. -/
theorem isMember_of_mem_headerMembers (huri : Format.isReference false false (e.uri t) = true)
    {header : Header} : ∀ m ∈ e.headerMembers t header, IsMember m.1 m.2 := by
  unfold Emitter.headerMembers
  rw [List.forall_mem_append, List.forall_mem_append, List.forall_mem_append]
  refine ⟨⟨⟨?_, ?_⟩, ?_⟩, ?_⟩
  · rw [List.forall_mem_cons, List.forall_mem_cons, List.forall_mem_singleton]
    exact ⟨isMember_version, .address (by simp) huri, .text _ (by simp)⟩
  · split
    · exact List.forall_mem_singleton.2 (.text _ (by simp))
    · exact nofun
  · split
    · exact List.forall_mem_singleton.2 (.other _ (by decide))
    · exact nofun
  · split
    · exact nofun
    · exact List.forall_mem_singleton.2 (.list _ (by simp))

/-- The schema of a property is a schema, when the address of its type is in form. -/
theorem isSchema_propertySchema {system : String} {p : Property}
    (huri : Format.isReference false false (e.uri (Emitter.propertyTarget system p)) = true) :
    IsSchema (e.propertySchema system p) := by
  rw [Emitter.propertySchema_eq]
  refine .object (List.forall_mem_append.2 ⟨?_, ?_⟩)
  · unfold Emitter.summaryMembers
    cases Emitter.nonEmpty p.summary with
    | none => exact nofun
    | some s => exact List.forall_mem_singleton.2 (.text s (by simp))
  · cases p.array with
    | true =>
        rw [if_pos rfl, List.forall_mem_cons, List.forall_mem_singleton]
        exact ⟨.type (by decide), .schema (by simp) (isSchema_reference huri)⟩
    | false => exact List.forall_mem_singleton.2 (.address (by simp) huri)

/-- So do the members of a demand that can be searched and whose addresses are in form. -/
theorem isMember_of_mem_demandMembers {demand : Demand} (hwellFormed : demand.WellFormed)
    (hsearch : demand.isSearchable = true)
    (hrequired : ∀ system properties required, demand = .record system properties required →
      required.Nodup)
    (huris : ∀ u ∈ demand.targets, Format.isReference false false (e.uri u) = true) :
    ∀ m ∈ e.demandMembers demand, IsMember m.1 m.2 := by
  cases demand with
  | bool => exact List.forall_mem_singleton.2 (.type (by decide))
  | enum values =>
      rw [Emitter.demandMembers, List.forall_mem_cons, List.forall_mem_singleton]
      exact ⟨.type (by decide), .list _ (by simp)⟩
  | int low high =>
      rw [Emitter.demandMembers, List.forall_mem_cons, List.forall_mem_cons,
        List.forall_mem_singleton]
      exact ⟨.type (by decide), .bound _ (by simp), .bound _ (by simp)⟩
  | float b =>
      rw [Emitter.demandMembers, List.forall_mem_cons, List.forall_mem_cons,
        List.forall_mem_singleton]
      refine ⟨.type (by decide), .bound _ ?_, .bound _ ?_⟩
      · dsimp only
        split <;> simp
      · dsimp only
        split <;> simp
  | string b =>
      unfold Emitter.demandMembers
      rw [List.forall_mem_append, List.forall_mem_append, List.forall_mem_append]
      refine ⟨⟨⟨List.forall_mem_singleton.2 (.type (by decide)), ?_⟩,
        List.forall_mem_singleton.2 (.length _ (by simp))⟩, ?_⟩
      · split
        · exact List.forall_mem_nil _
        · exact List.forall_mem_singleton.2 (.length _ (by simp))
      · split
        · next text hregex =>
            have hfound : (b.regex.all fun text => (Pattern.Search.compile? text).isSome) = true :=
              hsearch
            rw [hregex] at hfound
            exact List.forall_mem_singleton.2
              (.pattern (Pattern.Search.isPattern_of_compile? hfound))
        · exact List.forall_mem_nil _
  | record system properties required =>
      rw [Emitter.demandMembers_record hwellFormed, List.forall_mem_cons, List.forall_mem_cons,
        List.forall_mem_cons]
      refine ⟨.type (by decide), .schema (by simp) (.boolean false), .schemas ?_, ?_⟩
      · refine List.forall_mem_map.2 fun p hp => isSchema_propertySchema (huris _ ?_)
        exact List.mem_map_of_mem hp
      · unfold Emitter.requiredMembers
        split
        · exact List.forall_mem_nil _
        · exact List.forall_mem_singleton.2 (.required (hrequired _ _ _ rfl))

/-- The document of a type satisfies the schema of schemas, when all addresses in it are references
in form. -/
theorem isSchema_demandSchema {header : Header} {demand : Demand}
    (hwellFormed : demand.WellFormed) (hsearch : demand.isSearchable = true)
    (hrequired : ∀ system properties required, demand = .record system properties required →
      required.Nodup)
    (huris : ∀ u ∈ t :: demand.targets, Format.isReference false false (e.uri u) = true) :
    IsSchema (e.demandSchema t header demand) := by
  rw [List.forall_mem_cons] at huris
  exact .object (List.forall_mem_append.2 ⟨isMember_of_mem_headerMembers huris.1,
    isMember_of_mem_demandMembers hwellFormed hsearch hrequired huris.2⟩)

end

end MetaSchema

end TypeCatalog
