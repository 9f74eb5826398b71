import TypeCatalog.Definition.Defaults
import TypeCatalog.Definition.Store
import TypeCatalog.Proofs.Definition.Fields

/-!
# Definitions of a batch

A definition gets into a batch when the value that it was read of breaks no rule. This file says
what is true of it then, as far as its names and the lengths of texts matter:
`Definition.WellFormed`. System, type, properties and variants have identifiers for names, no two
properties and no two variants of a record have the same name, and what a property refers to is
written as a reference.

`wellFormed_of_decode` gives it for what was read, and `WellFormed.withDefaults` for the same with
its defaults.
-/

set_option autoImplicit false

namespace TypeCatalog

open Result

/-! ## Well-formed definitions -/

/-- What the names of a record's properties and variants have to be. -/
structure RecordBody.WellFormed (r : RecordBody) : Prop where
  property : ∀ p ∈ r.properties, Name.isIdentifier p.name = true
  reference : ∀ p ∈ r.properties, Name.isReference p.propertyType = true
  properties : (r.properties.map (·.name)).Nodup
  variant : ∀ v ∈ r.variantList, Name.isIdentifier v.name = true
  variants : (r.variantList.map (·.name)).Nodup

/-- The bounds of a text's length are words of 64 bits. -/
structure StringBody.WellFormed (b : StringBody) : Prop where
  minimum : ∀ n ∈ b.minimumLength, Number.fitsNat64 n = true
  maximum : Number.fitsNat64 b.maximumLength = true

/-- What the names and the bounds inside a definition have to be. -/
structure Definition.WellFormed (d : Definition) : Prop where
  system : Name.isIdentifier d.header.system = true
  name : Name.isIdentifier d.header.name = true
  record : ∀ r, d.body = .record r → r.WellFormed
  string : ∀ b, d.body = .string b → b.WellFormed

/-- Filling in leaves the name of a property as it is. -/
theorem Property.withDefaults_name (p : Property) : p.withDefaults.name = p.name := rfl

/-- The names that matter have no defaults. -/
theorem RecordBody.WellFormed.withDefaults {r : RecordBody} (h : r.WellFormed) :
    RecordBody.WellFormed { r with
      properties := r.properties.map Property.withDefaults
      required := orDefault [] r.required
      variants := orDefault [] r.variants
      invalidCases := orDefault [] r.invalidCases } := by
  refine ⟨?_, ?_, ?_, h.variant, h.variants⟩
  · exact List.forall_mem_map.2 fun p hp => h.property p hp
  · exact List.forall_mem_map.2 fun p hp => h.reference p hp
  · show ((r.properties.map Property.withDefaults).map (·.name)).Nodup
    rw [List.map_map]
    exact h.properties

/-- Where no least length is declared, it is zero. -/
theorem StringBody.WellFormed.withDefaults {b : StringBody} (h : b.WellFormed) :
    StringBody.WellFormed { b with
      minimumLength := orDefault 0 b.minimumLength
      cases := b.cases.withDefaults } := by
  refine ⟨fun n hn => ?_, h.maximum⟩
  cases Option.some.inj hn
  cases hminimum : b.minimumLength with
  | none => decide
  | some n => exact h.minimum n hminimum

/-- A well-formed definition stays so when its defaults are filled in. -/
theorem Definition.WellFormed.withDefaults {d : Definition} (h : d.WellFormed) :
    d.withDefaults.WellFormed := by
  obtain ⟨header, body⟩ := d
  refine ⟨h.system, h.name, fun r hr => ?_, fun b hb => ?_⟩
  · cases body with
    | record s =>
        cases hr
        exact (h.record s rfl).withDefaults
    | _ => cases hr
  · cases body with
    | string c =>
        cases hb
        exact (h.string c rfl).withDefaults
    | _ => cases hb

/-- And it keeps the name of its type. -/
@[simp]
theorem Definition.withDefaults_typeName (d : Definition) : d.withDefaults.typeName = d.typeName :=
  rfl

namespace Shape

open TypeCatalog.Field

/-- A text that passes the check of a name is an identifier. -/
theorem isIdentifier_of_checkIdentifier {rule : Rule} {field title s : String}
    {ms : List (String × Json)} (h : checkIdentifier rule field title ms = [])
    (hs : ms.lookup field = some (.string s)) : Name.isIdentifier s = true := by
  unfold checkIdentifier at h
  rw [hs] at h
  simpa [Json.string?] using h

/-! ## Properties -/

/-- The name and the type of a property are the texts of their members. -/
theorem lookup_of_decode_property {ms : List (String × Json)} {p : Property}
    (h : Property.decode (.object ms) = .ok p) :
    ms.lookup "name" = some (.string p.name)
      ∧ ms.lookup "propertyType" = some (.string p.propertyType) := by
  obtain ⟨hname, -, htype, -, -⟩ := Property.fields_of_decode h
  exact ⟨lookup_of_get_string hname, lookup_of_get_string htype⟩

/-- A name that passes the check of a property is an identifier that was not declared before. -/
theorem of_checkPropertyName_eq_nil {i : Nat} {declared : List String} {ms : List (String × Json)}
    {name : String} (h : checkPropertyName i declared ms = [])
    (hname : ms.lookup "name" = some (.string name)) :
    Name.isIdentifier name = true ∧ name ∉ declared := by
  unfold checkPropertyName at h
  rw [hname] at h
  simp only [Option.bind_some, Json.string?] at h
  split at h
  · next hidentifier =>
      split at h
      · cases h
      · next hnot => exact ⟨hidentifier, by simpa using hnot⟩
  · cases h

/-- The properties that were read of a list without violations. None has a name that is declared
before the list. -/
theorem properties_of_checkPropertyList {i : Nat} {declared : List String} {xs : List Json}
    {ps : List Property} (h : checkPropertyList false i declared xs = [])
    (hps : List.Forall₂ (fun x p => Property.decode x = .ok p) xs ps) :
    (∀ p ∈ ps, Name.isIdentifier p.name = true ∧ Name.isReference p.propertyType = true
      ∧ p.name ∉ declared) ∧ (ps.map (·.name)).Nodup := by
  induction hps generalizing i declared with
  | nil => exact ⟨nofun, .nil⟩
  | @cons x p xs ps hp _ ih =>
      cases x with
      | object ms =>
          simp only [checkPropertyList, List.append_eq_nil_iff] at h
          obtain ⟨⟨hname, hfields⟩, hrest⟩ := h
          obtain ⟨hpname, hptype⟩ := lookup_of_decode_property hp
          obtain ⟨hidentifier, hnew⟩ := of_checkPropertyName_eq_nil hname hpname
          have hreference : Name.isReference p.propertyType = true := by
            unfold checkPropertyFields at hfields
            simp only [List.append_eq_nil_iff, when_eq_nil] at hfields
            simpa [hptype, Json.string?] using hfields.1.1.1.1
          have hdeclared : declaredName? (.object ms) = some p.name := by
            rw [declaredName?, Json.member?, hpname]
            exact if_pos hidentifier
          rw [hdeclared] at hrest
          -- The name counts as declared for the properties behind it, so none of them has it.
          obtain ⟨hall, hnodup⟩ := ih hrest
          refine ⟨List.forall_mem_cons.2 ⟨⟨hidentifier, hreference, hnew⟩, fun q hq => ?_⟩, ?_⟩
          · obtain ⟨h₁, h₂, h₃⟩ := hall q hq
            exact ⟨h₁, h₂, fun hmem => h₃ (.tail _ hmem)⟩
          · rw [List.map_cons, List.nodup_cons]
            refine ⟨fun hmem => ?_, hnodup⟩
            obtain ⟨q, hq, heq⟩ := List.mem_map.1 hmem
            exact (hall q hq).2.2 (heq ▸ .head _)
      | _ => cases h

/-! ## Variants -/

/-- The name of a variant is the text of its member. -/
theorem lookup_of_decode_variant {ms : List (String × Json)} {v : Variant}
    (h : Variant.decode (.object ms) = .ok v) : ms.lookup "name" = some (.string v.name) :=
  lookup_of_get_string (Variant.fields_of_decode h).1

/-- The variants that were read of a list without violations. None has a name that was seen before
the list. -/
theorem variants_of_checkVariantList {i : Nat} {declared seen : List String} {xs : List Json}
    {vs : List Variant} (h : checkVariantList false declared i seen xs = [])
    (hvs : List.Forall₂ (fun x v => Variant.decode x = .ok v) xs vs) :
    (∀ v ∈ vs, Name.isIdentifier v.name = true ∧ v.name ∉ seen) ∧ (vs.map (·.name)).Nodup := by
  induction hvs generalizing i seen with
  | nil => exact ⟨nofun, .nil⟩
  | @cons x v xs vs hv _ ih =>
      cases x with
      | object ms =>
          simp only [checkVariantList, List.append_eq_nil_iff] at h
          obtain ⟨⟨hname, -⟩, hrest⟩ := h
          have hlookup := lookup_of_decode_variant hv
          have hmember : ((Json.object ms).member? "name").bind Json.string? = some v.name := by
            rw [Json.member?, hlookup]
            rfl
          have hidentifier : Name.isIdentifier v.name = true := by
            unfold checkVariantName declaredName? at hname
            rw [hmember] at hname
            cases hcase : Name.isIdentifier v.name with
            | true => rfl
            | false => simp [hcase] at hname
          have hdeclared : declaredName? (.object ms) = some v.name := by
            rw [declaredName?, hmember]
            exact if_pos hidentifier
          have hnew : v.name ∉ seen := by
            unfold checkVariantName at hname
            rw [hdeclared] at hname
            simpa using hname
          rw [hdeclared] at hrest
          -- The name counts as seen for the variants behind it, so none of them has it.
          obtain ⟨hall, hnodup⟩ := ih hrest
          refine ⟨List.forall_mem_cons.2 ⟨⟨hidentifier, hnew⟩, fun w hw => ?_⟩, ?_⟩
          · obtain ⟨h₁, h₂⟩ := hall w hw
            exact ⟨h₁, fun hmem => h₂ (.tail _ hmem)⟩
          · rw [List.map_cons, List.nodup_cons]
            refine ⟨fun hmem => ?_, hnodup⟩
            obtain ⟨w, hw, heq⟩ := List.mem_map.1 hmem
            exact (hall w hw).2 (heq ▸ .head _)
      | _ => cases h

/-! ## Definitions -/

/-- A count that was read fits into 64 bits. -/
theorem fitsNat64_of_nat64 {v : Json} {n : Nat} (h : Decoder.nat64 v = .ok n) :
    Number.fitsNat64 n = true := by
  unfold Decoder.nat64 at h
  split at h
  · next m =>
      split at h
      · next hfits =>
          cases h
          have hpos : 0 ≤ m := (of_decide_eq_true hfits).1
          rw [Int.toNat_of_nonneg hpos]
          exact hfits
      · cases h
  · cases h

/-- A text's bounds are read as words of 64 bits. -/
theorem wellFormed_of_decode_string {ms : List (String × Json)} {b : StringBody}
    (h : Body.decode .string ms = .ok (.string b)) : b.WellFormed := by
  obtain ⟨-, hminimum, hmaximum, -⟩ := StringBody.fields_of_decode h
  obtain ⟨v, -, hv⟩ := lookup_of_get hmaximum
  refine ⟨fun n hn => ?_, fitsNat64_of_nat64 hv⟩
  rw [Option.mem_def.1 hn] at hminimum
  obtain ⟨w, -, hw⟩ := lookup_of_get? hminimum
  exact fitsNat64_of_nat64 hw

/-- The names of the properties of a record that breaks no rule are identifiers and differ, and
their types are references in form. -/
theorem properties_of_checkProperties {ms : List (String × Json)} {ps : List Property}
    (h : checkProperties false ms = [])
    (hps : Field.get (Decoder.list Property.decode) "properties" ms = .ok ps) :
    (∀ p ∈ ps, Name.isIdentifier p.name = true ∧ Name.isReference p.propertyType = true)
      ∧ (ps.map (·.name)).Nodup := by
  obtain ⟨xs, hxs, hps⟩ := lookup_of_get_list hps
  unfold checkProperties at h
  rw [hxs] at h
  obtain ⟨hall, hnodup⟩ := properties_of_checkPropertyList (List.append_eq_nil_iff.1 h).2 hps
  exact ⟨fun p hp => ⟨(hall p hp).1, (hall p hp).2.1⟩, hnodup⟩

/-- The names of its variants are identifiers and differ. -/
theorem variants_of_checkVariants {ms : List (String × Json)} {declared : List String}
    {vs : Option (List Variant)} (h : checkVariants false declared ms = [])
    (hvs : Field.get? (Decoder.list Variant.decode) "variants" ms = .ok vs) :
    (∀ v ∈ vs.getD [], Name.isIdentifier v.name = true) ∧ ((vs.getD []).map (·.name)).Nodup := by
  unfold checkVariants at h
  unfold Field.get? at hvs
  cases hxs : ms.lookup "variants" with
  | none =>
      rw [hxs] at hvs
      cases hvs
      exact ⟨nofun, .nil⟩
  | some x =>
      rw [hxs] at h hvs
      cases x with
      | array xs =>
          obtain ⟨ws, hws, hvs⟩ := map_eq_ok.1 hvs
          cases hvs
          obtain ⟨hall, hnodup⟩ := variants_of_checkVariantList h (mapM_eq_ok.1 hws)
          exact ⟨fun v hv => (hall v hv).1, hnodup⟩
      | _ => cases h

/-- So a record that breaks no rule is well formed. -/
theorem wellFormed_of_checkRecord {ms : List (String × Json)} {r : RecordBody}
    (h : checkRecord false ms = [])
    (hproperties : Field.get (Decoder.list Property.decode) "properties" ms = .ok r.properties)
    (hvariants : Field.get? (Decoder.list Variant.decode) "variants" ms = .ok r.variants) :
    r.WellFormed := by
  unfold checkRecord at h
  simp only [List.append_eq_nil_iff] at h
  obtain ⟨⟨hps, -⟩, hvs⟩ := h
  obtain ⟨hps, hpsNodup⟩ := properties_of_checkProperties hps hproperties
  obtain ⟨hvs, hvsNodup⟩ := variants_of_checkVariants hvs hvariants
  exact ⟨fun p hp => (hps p hp).1, fun p hp => (hps p hp).2, hpsNodup, hvs, hvsNodup⟩

/-- A definition that was read of members has the system and the name that they hold. -/
theorem lookup_of_decode_header {ms : List (String × Json)} {header : Header}
    (h : Header.decode ms = .ok header) :
    ms.lookup "system" = some (.string header.system)
      ∧ ms.lookup "name" = some (.string header.name) := by
  obtain ⟨hsystem, hname, -⟩ := Header.fields_of_decode h
  exact ⟨lookup_of_get_string hsystem, lookup_of_get_string hname⟩

/-- What was read of a value that breaks no rule is well formed. -/
theorem wellFormed_of_decode {v : Json} {d : Definition} (h : violations v = [])
    (hd : Definition.decode v = .ok d) : d.WellFormed := by
  obtain ⟨ms, kind, rfl, hkind, hheader, hbody, -⟩ := exists_of_violations_eq_nil h
  obtain ⟨hdbody, hdheader⟩ := parts_of_decode hkind hd
  obtain ⟨hsystem, hname⟩ := lookup_of_decode_header hdheader
  unfold checkHeader at hheader
  simp only [List.append_eq_nil_iff] at hheader
  obtain ⟨⟨⟨⟨⟨⟨hsystemCheck, hnameCheck⟩, -⟩, -⟩, -⟩, -⟩, -⟩ := hheader
  refine ⟨isIdentifier_of_checkIdentifier hsystemCheck hsystem,
    isIdentifier_of_checkIdentifier hnameCheck hname, fun r hr => ?_, fun b hb => ?_⟩
  · rw [hr] at hdbody
    obtain rfl := kind_of_decode_body hdbody
    obtain ⟨hproperties, -, hvariants, -⟩ := RecordBody.fields_of_decode hdbody
    exact wellFormed_of_checkRecord (List.append_eq_nil_iff.1 hbody).1 hproperties hvariants
  · rw [hb] at hdbody
    obtain rfl := kind_of_decode_body hdbody
    exact wellFormed_of_decode_string hdbody

/-- A raw definition whose value can be read declares the name of what was read. -/
theorem typeName?_of_decode {raw : RawDefinition} {d : Definition}
    (h : violations raw.value = []) (hd : Definition.decode raw.value = .ok d) :
    raw.typeName? = some d.typeName := by
  obtain ⟨ms, kind, hms, hkind, -⟩ := exists_of_violations_eq_nil h
  rw [hms] at hd
  obtain ⟨-, hheader⟩ := parts_of_decode hkind hd
  obtain ⟨hsystem, hname⟩ := lookup_of_decode_header hheader
  unfold RawDefinition.typeName? RawDefinition.system? RawDefinition.name?
  rw [hms, Json.member?, Json.member?, hsystem, hname]
  rfl

end Shape

end TypeCatalog
