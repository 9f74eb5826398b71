import TypeCatalog.Proofs.Definition.Reading

/-!
# The fields of a definition

Two facts about a value and the definition that is read of it. Each part of the definition holds, at
each of its fields, what the reader gets of the member of that name; the `fields_of_decode` lemmas
say so, one for each part and each kind. And where the check of the shape finds nothing, the value
and its parts have no other members than these fields: `Definition.Covers`.
-/

set_option autoImplicit false

namespace TypeCatalog

open Result

/-! ## Values of fields -/

namespace Field

variable {α : Type} {ms ns : List (String × Json)} {name : String} {d : Decoder α}

/-- Members that passed the check of an object with known fields are the members that were given. -/
theorem eq_of_members {part : String} {fields : List Field}
    (h : members part fields (.object ms) = .ok ns) : ns = ms := by
  obtain ⟨_, -, h⟩ := bind_eq_ok.1 h
  cases h
  rfl

/-- What `get` reads of a required member is what its decoder makes of the value there. -/
theorem lookup_of_get {a : α} (h : get d name ms = .ok a) :
    ∃ v, ms.lookup name = some v ∧ d v = .ok a := by
  unfold get at h
  split at h
  · next v hv => exact ⟨v, hv, h⟩
  · cases h

/-- A required text is the value of its member. -/
theorem lookup_of_get_string {s : String} (h : get Decoder.string name ms = .ok s) :
    ms.lookup name = some (.string s) := by
  obtain ⟨v, hv, hs⟩ := lookup_of_get h
  cases v with
  | string t =>
      cases hs
      exact hv
  | _ => cases hs

/-- A required list is read item by item. -/
theorem lookup_of_get_list {item : Decoder α} {as : List α}
    (h : get (Decoder.list item) name ms = .ok as) :
    ∃ xs, ms.lookup name = some (.array xs) ∧ List.Forall₂ (fun x a => item x = .ok a) xs as := by
  obtain ⟨v, hv, has⟩ := lookup_of_get h
  cases v with
  | array xs => exact ⟨xs, hv, mapM_eq_ok.1 has⟩
  | _ => cases has

/-- An optional field that is there is read of a value. -/
theorem lookup_of_get? {a : α} (h : get? d name ms = .ok (some a)) :
    ∃ v, ms.lookup name = some v ∧ d v = .ok a := by
  unfold get? at h
  split at h
  · next v hv =>
      refine ⟨v, hv, ?_⟩
      unfold Decoder.optional at h
      split at h
      · cases h
      · obtain ⟨b, hb, heq⟩ := map_eq_ok.1 h
        cases heq
        exact hb
  · cases h

end Field

/-! ## What the fields hold -/

open TypeCatalog.Field

variable {ms : List (String × Json)}

/-- What `Example.decode` reads: `value` and `summary`. -/
theorem Example.fields_of_decode {e : Example} (h : Example.decode (.object ms) = .ok e) :
    get Decoder.any "value" ms = .ok e.value
      ∧ get? Decoder.string "summary" ms = .ok e.summary := by
  obtain ⟨ns, hns, h⟩ := bind_eq_ok.1 h
  cases eq_of_members hns
  obtain ⟨value, hvalue, h⟩ := bind_eq_ok.1 h
  obtain ⟨summary, hsummary, h⟩ := bind_eq_ok.1 h
  cases h
  exact ⟨hvalue, hsummary⟩

/-- What `EnumItem.decode` reads, member by member. -/
theorem EnumItem.fields_of_decode {item : EnumItem} (h : EnumItem.decode (.object ms) = .ok item) :
    get Decoder.string "value" ms = .ok item.value ∧ get Decoder.string "text" ms = .ok item.text
      ∧ get? Decoder.string "symbol" ms = .ok item.symbol
      ∧ get? Decoder.string "deprecated" ms = .ok item.deprecated
      ∧ get? Decoder.string "summary" ms = .ok item.summary
      ∧ get? Decoder.any "data" ms = .ok item.data := by
  obtain ⟨ns, hns, h⟩ := bind_eq_ok.1 h
  cases eq_of_members hns
  obtain ⟨value, hvalue, h⟩ := bind_eq_ok.1 h
  obtain ⟨text, htext, h⟩ := bind_eq_ok.1 h
  obtain ⟨symbol, hsymbol, h⟩ := bind_eq_ok.1 h
  obtain ⟨deprecated, hdeprecated, h⟩ := bind_eq_ok.1 h
  obtain ⟨summary, hsummary, h⟩ := bind_eq_ok.1 h
  obtain ⟨data, hdata, h⟩ := bind_eq_ok.1 h
  cases h
  exact ⟨hvalue, htext, hsymbol, hdeprecated, hsummary, hdata⟩

/-- What `Property.decode` reads, member by member. -/
theorem Property.fields_of_decode {p : Property} (h : Property.decode (.object ms) = .ok p) :
    get Decoder.string "name" ms = .ok p.name ∧ get? Decoder.string "summary" ms = .ok p.summary
      ∧ get Decoder.string "propertyType" ms = .ok p.propertyType
      ∧ get? Decoder.bool "isArray" ms = .ok p.isArray
      ∧ get? Decoder.bool "isRequired" ms = .ok p.isRequired := by
  obtain ⟨ns, hns, h⟩ := bind_eq_ok.1 h
  cases eq_of_members hns
  obtain ⟨name, hname, h⟩ := bind_eq_ok.1 h
  obtain ⟨summary, hsummary, h⟩ := bind_eq_ok.1 h
  obtain ⟨propertyType, htype, h⟩ := bind_eq_ok.1 h
  obtain ⟨isArray, harray, h⟩ := bind_eq_ok.1 h
  obtain ⟨isRequired, hrequired, h⟩ := bind_eq_ok.1 h
  cases h
  exact ⟨hname, hsummary, htype, harray, hrequired⟩

/-- What `Variant.decode` reads, member by member. -/
theorem Variant.fields_of_decode {v : Variant} (h : Variant.decode (.object ms) = .ok v) :
    get Decoder.string "name" ms = .ok v.name ∧ get? Decoder.string "summary" ms = .ok v.summary
      ∧ get? Decoder.strings "required" ms = .ok v.required
      ∧ get? Decoder.strings "includeProperties" ms = .ok v.includeProperties
      ∧ get? Decoder.strings "excludeProperties" ms = .ok v.excludeProperties := by
  obtain ⟨ns, hns, h⟩ := bind_eq_ok.1 h
  cases eq_of_members hns
  obtain ⟨name, hname, h⟩ := bind_eq_ok.1 h
  obtain ⟨summary, hsummary, h⟩ := bind_eq_ok.1 h
  obtain ⟨required, hrequired, h⟩ := bind_eq_ok.1 h
  obtain ⟨included, hincluded, h⟩ := bind_eq_ok.1 h
  obtain ⟨excluded, hexcluded, h⟩ := bind_eq_ok.1 h
  cases h
  exact ⟨hname, hsummary, hrequired, hincluded, hexcluded⟩

/-- What `Header.decode` reads: all fields but `kind` that every definition has. -/
theorem Header.fields_of_decode {header : Header} (h : Header.decode ms = .ok header) :
    get Decoder.string "system" ms = .ok header.system
      ∧ get Decoder.string "name" ms = .ok header.name
      ∧ get? Decoder.string "title" ms = .ok header.title
      ∧ get? Decoder.string "summary" ms = .ok header.summary
      ∧ get? Decoder.string "deprecated" ms = .ok header.deprecated
      ∧ get? Decoder.strings "tags" ms = .ok header.tags
      ∧ get? Decoder.strings "labels" ms = .ok header.labels
      ∧ get? Example.decodeList "examples" ms = .ok header.examples := by
  obtain ⟨_, -, h⟩ := bind_eq_ok.1 h
  obtain ⟨system, hsystem, h⟩ := bind_eq_ok.1 h
  obtain ⟨name, hname, h⟩ := bind_eq_ok.1 h
  obtain ⟨title, htitle, h⟩ := bind_eq_ok.1 h
  obtain ⟨summary, hsummary, h⟩ := bind_eq_ok.1 h
  obtain ⟨deprecated, hdeprecated, h⟩ := bind_eq_ok.1 h
  obtain ⟨tags, htags, h⟩ := bind_eq_ok.1 h
  obtain ⟨labels, hlabels, h⟩ := bind_eq_ok.1 h
  obtain ⟨examples, hexamples, h⟩ := bind_eq_ok.1 h
  cases h
  exact ⟨hsystem, hname, htitle, hsummary, hdeprecated, htags, hlabels, hexamples⟩

/-- What `TestCases.decode` reads: the two lists of cases, either of which may be missing. -/
theorem TestCases.fields_of_decode {cases : TestCases} (h : TestCases.decode ms = .ok cases) :
    get? Example.decodeList "validTestCases" ms = .ok cases.valid
      ∧ get? Example.decodeList "invalidTestCases" ms = .ok cases.invalid := by
  obtain ⟨valid, hvalid, h⟩ := bind_eq_ok.1 h
  obtain ⟨invalid, hinvalid, h⟩ := bind_eq_ok.1 h
  cases h
  exact ⟨hvalid, hinvalid⟩

/-- What is read of an enum: its items and the optional `dataType`. -/
theorem EnumBody.fields_of_decode {b : EnumBody} (h : Body.decode .enum ms = .ok (.enum b)) :
    get (Decoder.list EnumItem.decode) "items" ms = .ok b.items
      ∧ get? Decoder.string "dataType" ms = .ok b.dataType := by
  obtain ⟨_, -, h⟩ := bind_eq_ok.1 h
  obtain ⟨items, hitems, h⟩ := bind_eq_ok.1 h
  obtain ⟨dataType, hdata, h⟩ := bind_eq_ok.1 h
  cases h
  exact ⟨hitems, hdata⟩

/-- What is read of an int: both bounds and the cases. -/
theorem IntBody.fields_of_decode {b : IntBody} (h : Body.decode .int ms = .ok (.int b)) :
    get Decoder.int64 "minimum" ms = .ok b.minimum ∧ get Decoder.int64 "maximum" ms = .ok b.maximum
      ∧ TestCases.decode ms = .ok b.cases := by
  obtain ⟨_, -, h⟩ := bind_eq_ok.1 h
  obtain ⟨minimum, hminimum, h⟩ := bind_eq_ok.1 h
  obtain ⟨maximum, hmaximum, h⟩ := bind_eq_ok.1 h
  obtain ⟨cases, hcases, h⟩ := bind_eq_ok.1 h
  cases h
  exact ⟨hminimum, hmaximum, hcases⟩

/-- What is read of a float: both bounds, the two marks of exclusive bounds and the cases. -/
theorem FloatBody.fields_of_decode {b : FloatBody} (h : Body.decode .float ms = .ok (.float b)) :
    get Decoder.binary64 "minimum" ms = .ok b.minimum
      ∧ get Decoder.binary64 "maximum" ms = .ok b.maximum
      ∧ get? Decoder.bool "isMinimumExclusive" ms = .ok b.isMinimumExclusive
      ∧ get? Decoder.bool "isMaximumExclusive" ms = .ok b.isMaximumExclusive
      ∧ TestCases.decode ms = .ok b.cases := by
  obtain ⟨_, -, h⟩ := bind_eq_ok.1 h
  obtain ⟨minimum, hminimum, h⟩ := bind_eq_ok.1 h
  obtain ⟨maximum, hmaximum, h⟩ := bind_eq_ok.1 h
  obtain ⟨low, hlow, h⟩ := bind_eq_ok.1 h
  obtain ⟨high, hhigh, h⟩ := bind_eq_ok.1 h
  obtain ⟨cases, hcases, h⟩ := bind_eq_ok.1 h
  cases h
  exact ⟨hminimum, hmaximum, hlow, hhigh, hcases⟩

/-- What is read of a string: the optional pattern, the bounds of its length and the cases. -/
theorem StringBody.fields_of_decode {b : StringBody}
    (h : Body.decode .string ms = .ok (.string b)) :
    get? Decoder.string "regex" ms = .ok b.regex
      ∧ get? Decoder.nat64 "minimumLength" ms = .ok b.minimumLength
      ∧ get Decoder.nat64 "maximumLength" ms = .ok b.maximumLength
      ∧ TestCases.decode ms = .ok b.cases := by
  obtain ⟨_, -, h⟩ := bind_eq_ok.1 h
  obtain ⟨regex, hregex, h⟩ := bind_eq_ok.1 h
  obtain ⟨minimum, hminimum, h⟩ := bind_eq_ok.1 h
  obtain ⟨maximum, hmaximum, h⟩ := bind_eq_ok.1 h
  obtain ⟨cases, hcases, h⟩ := bind_eq_ok.1 h
  cases h
  exact ⟨hregex, hminimum, hmaximum, hcases⟩

/-- What is read of an object: the fragment `jsonSchema` and the cases. -/
theorem ObjectBody.fields_of_decode {b : ObjectBody}
    (h : Body.decode .object ms = .ok (.object b)) :
    get Decoder.any "jsonSchema" ms = .ok b.schema ∧ TestCases.decode ms = .ok b.cases := by
  obtain ⟨_, -, h⟩ := bind_eq_ok.1 h
  obtain ⟨schema, hschema, h⟩ := bind_eq_ok.1 h
  obtain ⟨cases, hcases, h⟩ := bind_eq_ok.1 h
  cases h
  exact ⟨hschema, hcases⟩

/-- What is read of a record. Its `validTestCases` are the only ones that have to be there. -/
theorem RecordBody.fields_of_decode {r : RecordBody}
    (h : Body.decode .record ms = .ok (.record r)) :
    get (Decoder.list Property.decode) "properties" ms = .ok r.properties
      ∧ get? Decoder.strings "required" ms = .ok r.required
      ∧ get? (Decoder.list Variant.decode) "variants" ms = .ok r.variants
      ∧ get Example.decodeList "validTestCases" ms = .ok r.validCases
      ∧ get? Example.decodeList "invalidTestCases" ms = .ok r.invalidCases := by
  obtain ⟨_, -, h⟩ := bind_eq_ok.1 h
  obtain ⟨properties, hproperties, h⟩ := bind_eq_ok.1 h
  obtain ⟨required, hrequired, h⟩ := bind_eq_ok.1 h
  obtain ⟨variants, hvariants, h⟩ := bind_eq_ok.1 h
  obtain ⟨valid, hvalid, h⟩ := bind_eq_ok.1 h
  obtain ⟨invalid, hinvalid, h⟩ := bind_eq_ok.1 h
  cases h
  exact ⟨hproperties, hrequired, hvariants, hvalid, hinvalid⟩

namespace Shape

/-- What is read for a kind is of the kind. -/
theorem kind_of_decode_body {kind : TypeKind} {body : Body}
    (h : Body.decode kind ms = .ok body) : body.kind = kind := by
  -- Every kind reads its own number of members, and only the last step builds the body.
  obtain ⟨_, -, h⟩ := bind_eq_ok.1 h
  cases kind with
  | bool =>
      obtain ⟨_, -, h⟩ := bind_eq_ok.1 h
      cases h
      rfl
  | enum =>
      obtain ⟨_, -, h⟩ := bind_eq_ok.1 h
      obtain ⟨_, -, h⟩ := bind_eq_ok.1 h
      cases h
      rfl
  | object =>
      obtain ⟨_, -, h⟩ := bind_eq_ok.1 h
      obtain ⟨_, -, h⟩ := bind_eq_ok.1 h
      cases h
      rfl
  | int =>
      obtain ⟨_, -, h⟩ := bind_eq_ok.1 h
      obtain ⟨_, -, h⟩ := bind_eq_ok.1 h
      obtain ⟨_, -, h⟩ := bind_eq_ok.1 h
      cases h
      rfl
  | string =>
      obtain ⟨_, -, h⟩ := bind_eq_ok.1 h
      obtain ⟨_, -, h⟩ := bind_eq_ok.1 h
      obtain ⟨_, -, h⟩ := bind_eq_ok.1 h
      obtain ⟨_, -, h⟩ := bind_eq_ok.1 h
      cases h
      rfl
  | float =>
      obtain ⟨_, -, h⟩ := bind_eq_ok.1 h
      obtain ⟨_, -, h⟩ := bind_eq_ok.1 h
      obtain ⟨_, -, h⟩ := bind_eq_ok.1 h
      obtain ⟨_, -, h⟩ := bind_eq_ok.1 h
      obtain ⟨_, -, h⟩ := bind_eq_ok.1 h
      cases h
      rfl
  | record =>
      obtain ⟨_, -, h⟩ := bind_eq_ok.1 h
      obtain ⟨_, -, h⟩ := bind_eq_ok.1 h
      obtain ⟨_, -, h⟩ := bind_eq_ok.1 h
      obtain ⟨_, -, h⟩ := bind_eq_ok.1 h
      obtain ⟨_, -, h⟩ := bind_eq_ok.1 h
      cases h
      rfl

/-- Reading a definition out of an object reads its kind, its body and its header. -/
theorem parts_of_decode {kind : TypeKind} {d : Definition}
    (hkind : Field.get TypeKind.decode "kind" ms = .ok kind)
    (h : Definition.decode (.object ms) = .ok d) :
    Body.decode kind ms = .ok d.body ∧ Header.decode ms = .ok d.header := by
  obtain ⟨kind', hkind', h⟩ := bind_eq_ok.1 h
  rw [hkind] at hkind'
  cases hkind'
  obtain ⟨body, hbody, h⟩ := bind_eq_ok.1 h
  obtain ⟨header, hheader, h⟩ := bind_eq_ok.1 h
  cases h
  exact ⟨hbody, hheader⟩

end Shape

/-! ## No other members -/

/-- The items of the list that a member holds, none when there is no such list. -/
def Json.itemsOf (name : String) (v : Json) : List Json := ((v.member? name).bind items?).getD []

/-- An item of a list is one of the array that the member of the name is. -/
theorem Json.exists_of_mem_itemsOf {name : String} {x : Json}
    (hx : x ∈ (Json.object ms).itemsOf name) :
    ∃ xs, ms.lookup name = some (.array xs) ∧ x ∈ xs := by
  unfold itemsOf at hx
  rw [member?] at hx
  cases hv : ms.lookup name with
  | none =>
      rw [hv] at hx
      cases hx
  | some v =>
      rw [hv] at hx
      cases v with
      | array xs => exact ⟨xs, rfl, hx⟩
      | _ => cases hx

/-- Whether a value has no other members than some fields. -/
def Field.Cover (fields : List Field) (v : Json) : Prop :=
  ∀ name x, v.member? name = some x → name ∈ fields.map (·.name)

/-- Whether a value that a definition is read of has no member that is passed over, and none of its
parts has one. -/
structure Definition.Covers (d : Definition) (v : Json) : Prop where
  members : ∀ name x, v.member? name = some x →
    name ∈ "kind" :: (Header.fields ++ Body.fields d.kind).map (·.name)
  examples : ∀ list ∈ ["examples", "validTestCases", "invalidTestCases"],
    ∀ x ∈ v.itemsOf list, Field.Cover Example.fields x
  items : ∀ x ∈ v.itemsOf "items", Field.Cover EnumItem.fields x
  properties : ∀ x ∈ v.itemsOf "properties", Field.Cover Property.fields x
  variants : ∀ x ∈ v.itemsOf "variants", Field.Cover Variant.fields x

namespace Shape

/-- Where `unknownFields` reports nothing, every member has the name of a field. -/
theorem cover_of_unknownFields {rule : Rule} {pathTo : String → String} {fields : List Field}
    {suffix : String}
    (h : unknownFields rule pathTo (fields.map (·.name)) suffix ms = []) :
    Field.Cover fields (.object ms) :=
  fun _ _ hx => unknownFields_eq_nil.1 h _ (Table.mem_of_lookup hx)

/-- An example whose check reports nothing has no members but the fields of `Example`. -/
theorem cover_example {path : String} {x : Json} (h : checkExample false path x = []) :
    Field.Cover Example.fields x := by
  cases x with
  | object ms =>
      unfold checkExample at h
      simp only [List.append_eq_nil_iff] at h
      exact cover_of_unknownFields h.1.2
  | _ => cases h

/-- An item of an enum has no others than those of `EnumItem`. -/
theorem cover_item {i : Nat} (h : checkItemFields false i ms = []) :
    Field.Cover EnumItem.fields (.object ms) := by
  unfold checkItemFields at h
  simp only [List.append_eq_nil_iff] at h
  exact cover_of_unknownFields h.1.2

/-- A property has no others than those of `Property`. -/
theorem cover_property {i : Nat} (h : checkPropertyFields false i ms = []) :
    Field.Cover Property.fields (.object ms) := by
  unfold checkPropertyFields at h
  simp only [List.append_eq_nil_iff] at h
  exact cover_of_unknownFields h.1.2

/-- A variant has no others than those of `Variant`. -/
theorem cover_variant {i : Nat} {declared : List String}
    (h : checkVariantFields false i declared ms = []) :
    Field.Cover Variant.fields (.object ms) := by
  unfold checkVariantFields at h
  simp only [List.append_eq_nil_iff] at h
  exact cover_of_unknownFields h.1.2

/-! ## Lists of parts -/

/-- Each item of a list without violations is an object that passes at its place. -/
theorem exists_of_checkItems_eq_nil {i : Nat} {seen : List (String × Nat)} {items : List Json}
    (h : checkItems false i seen items = []) :
    ∀ x ∈ items, ∃ ms j, x = .object ms ∧ checkItemFields false j ms = [] := by
  fun_induction checkItems false i seen items with
  | case1 => exact fun _ hx => absurd hx List.not_mem_nil
  | case2 i seen ms items ih =>
      simp only [List.append_eq_nil_iff] at h
      obtain ⟨⟨-, hfields⟩, hrest⟩ := h
      exact List.forall_mem_cons.2 ⟨⟨ms, i, rfl, hfields⟩, ih hrest⟩
  | case3 => cases h

/-- Where the check of a list of properties reports nothing, it reported nothing for any of them.
The index of a property is the one that its errors would have had. -/
theorem exists_of_checkPropertyList_eq_nil {i : Nat} {declared : List String}
    {properties : List Json} (h : checkPropertyList false i declared properties = []) :
    ∀ x ∈ properties, ∃ ms j, x = .object ms ∧ checkPropertyFields false j ms = [] := by
  fun_induction checkPropertyList false i declared properties with
  | case1 => exact fun _ hx => absurd hx List.not_mem_nil
  | case2 i declared ms properties ih =>
      simp only [List.append_eq_nil_iff] at h
      obtain ⟨⟨-, hfields⟩, hrest⟩ := h
      exact List.forall_mem_cons.2 ⟨⟨ms, i, rfl, hfields⟩, ih hrest⟩
  | case3 => cases h

/-- The same for a list of variants, of which each is checked among the names seen before. -/
theorem exists_of_checkVariantList_eq_nil {declared : List String} {i : Nat} {seen : List String}
    {variants : List Json} (h : checkVariantList false declared i seen variants = []) :
    ∀ x ∈ variants, ∃ ms j, x = .object ms ∧ checkVariantFields false j declared ms = [] := by
  fun_induction checkVariantList false declared i seen variants with
  | case1 => exact fun _ hx => absurd hx List.not_mem_nil
  | case2 i seen ms variants ih =>
      simp only [List.append_eq_nil_iff] at h
      obtain ⟨⟨-, hfields⟩, hrest⟩ := h
      exact List.forall_mem_cons.2 ⟨⟨ms, i, rfl, hfields⟩, ih hrest⟩
  | case3 => cases h

/-- Each entry of a list of examples passes at its place. -/
theorem exists_of_checkExamples_eq_nil {isRequired : Bool} {field : String} {xs : List Json}
    (h : checkExamples false isRequired field ms = []) (hxs : ms.lookup field = some (.array xs)) :
    ∀ x ∈ xs, ∃ path, checkExample false path x = [] := by
  intro x hx
  unfold checkExamples at h
  rw [hxs] at h
  obtain ⟨i, hi⟩ := exists_of_eachItem_eq_nil h hx
  exact ⟨itemPath field i, hi⟩

/-! ## Nothing is passed over -/

/-- The examples under a field of a checked object have no unknown members. -/
theorem cover_examples {isRequired : Bool} {field : String}
    (h : checkExamples false isRequired field ms = []) :
    ∀ x ∈ (Json.object ms).itemsOf field, Field.Cover Example.fields x := by
  intro x hx
  obtain ⟨xs, hxs, hx⟩ := Json.exists_of_mem_itemsOf hx
  obtain ⟨path, hpath⟩ := exists_of_checkExamples_eq_nil h hxs x hx
  exact cover_example hpath

/-- Nor have the cases of either list. -/
theorem cover_testCases {validRequired : Bool} (h : checkTestCases validRequired ms = []) :
    ∀ list ∈ ["validTestCases", "invalidTestCases"],
      ∀ x ∈ (Json.object ms).itemsOf list, Field.Cover Example.fields x := by
  obtain ⟨hvalid, hinvalid⟩ := List.append_eq_nil_iff.1 h
  simp only [List.forall_mem_cons]
  exact ⟨cover_examples hvalid, cover_examples hinvalid, nofun⟩

/-- A list whose name is none of a kind's fields is not there. -/
theorem forall_mem_itemsOf_of_notMem {names : List String} (hnames : ∀ m ∈ ms, m.1 ∈ names)
    {name : String} (hname : name ∉ names) (P : Json → Prop) :
    ∀ x ∈ (Json.object ms).itemsOf name, P x := by
  intro x hx
  obtain ⟨xs, hxs, -⟩ := Json.exists_of_mem_itemsOf hx
  exact absurd (hnames _ (Table.mem_of_lookup hxs)) hname

/-- Nor have the items of an enum. -/
theorem cover_items (h : checkEnum false ms = []) :
    ∀ x ∈ (Json.object ms).itemsOf "items", Field.Cover EnumItem.fields x := by
  intro x hx
  obtain ⟨xs, hxs, hx⟩ := Json.exists_of_mem_itemsOf hx
  obtain ⟨-, hitems⟩ := List.append_eq_nil_iff.1 h
  rw [hxs] at hitems
  obtain ⟨ns, j, rfl, hns⟩ := exists_of_checkItems_eq_nil (List.append_eq_nil_iff.1 hitems).2 x hx
  exact cover_item hns

/-- Nor have the properties of a record. -/
theorem cover_properties (h : checkProperties false ms = []) :
    ∀ x ∈ (Json.object ms).itemsOf "properties", Field.Cover Property.fields x := by
  intro x hx
  obtain ⟨xs, hxs, hx⟩ := Json.exists_of_mem_itemsOf hx
  unfold checkProperties at h
  rw [hxs] at h
  obtain ⟨ns, j, rfl, hns⟩ :=
    exists_of_checkPropertyList_eq_nil (List.append_eq_nil_iff.1 h).2 x hx
  exact cover_property hns

/-- Nor have its variants. -/
theorem cover_variants {declared : List String} (h : checkVariants false declared ms = []) :
    ∀ x ∈ (Json.object ms).itemsOf "variants", Field.Cover Variant.fields x := by
  intro x hx
  obtain ⟨xs, hxs, hx⟩ := Json.exists_of_mem_itemsOf hx
  unfold checkVariants at h
  rw [hxs] at h
  obtain ⟨ns, j, rfl, hns⟩ := exists_of_checkVariantList_eq_nil h x hx
  exact cover_variant hns

/-- The fields that the check knows are those that the reader reads. -/
theorem headerFields_append_kindFields (kind : TypeKind) :
    headerFields ++ kindFields kind
      = "kind" :: (Header.fields ++ Body.fields kind).map (·.name) := by
  cases kind <;> rfl

/-- Where no rule is broken, the reader passes nothing over. -/
theorem covers_of_decode {v : Json} {d : Definition} (h : violations v = [])
    (hd : Definition.decode v = .ok d) : d.Covers v := by
  obtain ⟨ms, kind, rfl, hkind, hheader, hbody, hnames⟩ := exists_of_violations_eq_nil h
  have hdkind : d.kind = kind := kind_of_decode_body (parts_of_decode hkind hd).1
  refine ⟨?_, ?_, ?_, ?_, ?_⟩
  · intro name x hx
    rw [hdkind, ← headerFields_append_kindFields]
    exact hnames _ (Table.mem_of_lookup hx)
  -- A kind without a list has no field of its name, so there is no such list.
  · refine List.forall_mem_cons.2 ⟨cover_examples (List.append_eq_nil_iff.1 hheader).2, ?_⟩
    cases kind with
    | enum =>
        simp only [List.forall_mem_cons]
        exact ⟨forall_mem_itemsOf_of_notMem hnames (by decide) _,
          forall_mem_itemsOf_of_notMem hnames (by decide) _, nofun⟩
    | bool => exact cover_testCases hbody
    | _ => exact cover_testCases (List.append_eq_nil_iff.1 hbody).2
  · cases kind with
    -- Only an enum has `items`, and only a record `properties` and `variants`: in another kind the
    -- name is unknown, and the check would have said so.
    | enum => exact cover_items hbody
    | _ => exact forall_mem_itemsOf_of_notMem hnames (by decide) _
  · cases kind with
    | record =>
        have hrecord := (List.append_eq_nil_iff.1 hbody).1
        unfold checkRecord at hrecord
        simp only [List.append_eq_nil_iff] at hrecord
        exact cover_properties hrecord.1.1
    | _ => exact forall_mem_itemsOf_of_notMem hnames (by decide) _
  · cases kind with
    | record =>
        have hrecord := (List.append_eq_nil_iff.1 hbody).1
        unfold checkRecord at hrecord
        simp only [List.append_eq_nil_iff] at hrecord
        exact cover_variants hrecord.2
    | _ => exact forall_mem_itemsOf_of_notMem hnames (by decide) _

end Shape

end TypeCatalog
