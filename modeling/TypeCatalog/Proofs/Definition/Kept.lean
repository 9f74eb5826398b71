import TypeCatalog.Definition.Encode
import TypeCatalog.Proofs.Definition.Fields
import TypeCatalog.Proofs.Json.Kept

/-!
# Nothing of a definition is lost

A value that breaks no rule is read into a definition. `keptBy_of_decode` says that the definition,
written down again, holds all that the value does. Reading and writing meet field by field: what is
read of the member of a name is written to the member of that name, and the check of the shape
leaves no other member.
-/

set_option autoImplicit false

namespace TypeCatalog

open Result TypeCatalog.Field

variable {ms : List (String × Json)}

namespace Shape

/-! ## Parts -/

/-- An example that breaks no rule is kept: both its members are read and written. -/
theorem keepsAt_example {path : String} {x : Json} (h : checkExample false path x = []) :
    Decoder.KeepsAt Example.decode Example.toJson x := by
  intro e he
  cases x with
  | object ms =>
      obtain ⟨hvalue, hsummary⟩ := Example.fields_of_decode he
      refine keptBy_object (cover_example h) ?_
      simp only [Example.fields, List.map_cons, required_name, optional_name, List.forall_mem_cons]
      exact ⟨keeps_of_get hvalue rfl fun _ _ => Decoder.keepsAt_any,
        keeps_of_get? hsummary (by simp [lookup_member]) fun _ _ => Decoder.keepsAt_string,
        List.forall_mem_nil _⟩
  | _ => cases h

/-- So is a list of examples, item by item. -/
theorem keepsAt_examples {isRequired : Bool} {field : String}
    (h : checkExamples false isRequired field ms = []) {x : Json} (hx : ms.lookup field = some x) :
    Decoder.KeepsAt Example.decodeList Example.listToJson x := by
  refine Decoder.keepsAt_list ?_
  intro xs hxs y hy
  rw [hxs] at hx
  obtain ⟨path, hpath⟩ := exists_of_checkExamples_eq_nil h hx y hy
  exact keepsAt_example hpath

/-- An item of an enum that breaks no rule is kept. -/
theorem keepsAt_item {i : Nat} (h : checkItemFields false i ms = []) :
    Decoder.KeepsAt EnumItem.decode EnumItem.toJson (.object ms) := by
  intro item hitem
  obtain ⟨hvalue, htext, hsymbol, hdeprecated, hsummary, hdata⟩ := EnumItem.fields_of_decode hitem
  refine keptBy_object (cover_item h) ?_
  simp only [EnumItem.fields, List.map_cons, required_name, optional_name, List.forall_mem_cons]
  refine ⟨keeps_of_get hvalue ?_ fun _ _ => Decoder.keepsAt_string,
    keeps_of_get htext ?_ fun _ _ => Decoder.keepsAt_string,
    keeps_of_get? hsymbol ?_ fun _ _ => Decoder.keepsAt_string,
    keeps_of_get? hdeprecated ?_ fun _ _ => Decoder.keepsAt_string,
    keeps_of_get? hsummary ?_ fun _ _ => Decoder.keepsAt_string,
    keeps_of_get? hdata ?_ fun _ _ => Decoder.keepsAt_any,
    List.forall_mem_nil _⟩
  all_goals simp [List.lookup_append, lookup_member]

/-- A property that breaks no rule is kept. -/
theorem keepsAt_property {i : Nat} (h : checkPropertyFields false i ms = []) :
    Decoder.KeepsAt Property.decode Property.toJson (.object ms) := by
  intro p hp
  obtain ⟨hname, hsummary, htype, harray, hrequired⟩ := Property.fields_of_decode hp
  refine keptBy_object (cover_property h) ?_
  simp only [Property.fields, List.map_cons, required_name, optional_name, List.forall_mem_cons]
  refine ⟨keeps_of_get hname ?_ fun _ _ => Decoder.keepsAt_string,
    keeps_of_get? hsummary ?_ fun _ _ => Decoder.keepsAt_string,
    keeps_of_get htype ?_ fun _ _ => Decoder.keepsAt_string,
    keeps_of_get? harray ?_ fun _ _ => Decoder.keepsAt_bool,
    keeps_of_get? hrequired ?_ fun _ _ => Decoder.keepsAt_bool,
    List.forall_mem_nil _⟩
  all_goals simp [List.lookup_append, lookup_member]

/-- A variant that breaks no rule is kept. -/
theorem keepsAt_variant {i : Nat} {declared : List String}
    (h : checkVariantFields false i declared ms = []) :
    Decoder.KeepsAt Variant.decode Variant.toJson (.object ms) := by
  intro v hv
  obtain ⟨hname, hsummary, hrequired, hincluded, hexcluded⟩ := Variant.fields_of_decode hv
  refine keptBy_object (cover_variant h) ?_
  simp only [Variant.fields, List.map_cons, required_name, optional_name, List.forall_mem_cons]
  refine ⟨keeps_of_get hname ?_ fun _ _ => Decoder.keepsAt_string,
    keeps_of_get? hsummary ?_ fun _ _ => Decoder.keepsAt_string,
    keeps_of_get? hrequired ?_ fun _ _ => Decoder.keepsAt_strings,
    keeps_of_get? hincluded ?_ fun _ _ => Decoder.keepsAt_strings,
    keeps_of_get? hexcluded ?_ fun _ _ => Decoder.keepsAt_strings,
    List.forall_mem_nil _⟩
  all_goals simp [List.lookup_append, lookup_member]

/-! ## Lists of parts -/

/-- The list of the items of an enum is kept. -/
theorem keepsAt_items (h : checkEnum false ms = []) {v : Json} (hv : ms.lookup "items" = some v) :
    Decoder.KeepsAt (Decoder.list EnumItem.decode)
      (fun is => .array (is.map EnumItem.toJson)) v := by
  refine Decoder.keepsAt_list ?_
  intro xs hxs x hx
  obtain ⟨-, hitems⟩ := List.append_eq_nil_iff.1 h
  rw [hv, hxs] at hitems
  obtain ⟨ns, j, rfl, hns⟩ := exists_of_checkItems_eq_nil (List.append_eq_nil_iff.1 hitems).2 x hx
  exact keepsAt_item hns

/-- The list of the properties of a record is kept. -/
theorem keepsAt_properties (h : checkProperties false ms = []) {v : Json}
    (hv : ms.lookup "properties" = some v) :
    Decoder.KeepsAt (Decoder.list Property.decode)
      (fun ps => .array (ps.map Property.toJson)) v := by
  refine Decoder.keepsAt_list ?_
  intro xs hxs x hx
  unfold checkProperties at h
  rw [hv, hxs] at h
  obtain ⟨ns, j, rfl, hns⟩ :=
    exists_of_checkPropertyList_eq_nil (List.append_eq_nil_iff.1 h).2 x hx
  exact keepsAt_property hns

/-- The list of the variants of a record is kept. -/
theorem keepsAt_variants {declared : List String} (h : checkVariants false declared ms = [])
    {v : Json} (hv : ms.lookup "variants" = some v) :
    Decoder.KeepsAt (Decoder.list Variant.decode) (fun vs => .array (vs.map Variant.toJson)) v := by
  refine Decoder.keepsAt_list ?_
  intro xs hxs x hx
  unfold checkVariants at h
  rw [hv, hxs] at h
  obtain ⟨ns, j, rfl, hns⟩ := exists_of_checkVariantList_eq_nil h x hx
  exact keepsAt_variant hns

/-! ## The header -/

/-- All members of a header are kept: each is read and written under the name of its field. -/
theorem keeps_header {header : Header} (h : checkHeader false ms = [])
    (hheader : Header.decode ms = .ok header) :
    ∀ name ∈ Header.fields.map (·.name), Keeps ms header.toMembers name := by
  obtain ⟨hsystem, hname, htitle, hsummary, hdeprecated, htags, hlabels, hexamples⟩ :=
    Header.fields_of_decode hheader
  simp only [Header.fields, List.map_cons, required_name, optional_name, List.forall_mem_cons]
  refine ⟨keeps_of_get hsystem ?_ fun _ _ => Decoder.keepsAt_string,
    keeps_of_get hname ?_ fun _ _ => Decoder.keepsAt_string,
    keeps_of_get? htitle ?_ fun _ _ => Decoder.keepsAt_string,
    keeps_of_get? hsummary ?_ fun _ _ => Decoder.keepsAt_string,
    keeps_of_get? hdeprecated ?_ fun _ _ => Decoder.keepsAt_string,
    keeps_of_get? htags ?_ fun _ _ => Decoder.keepsAt_strings,
    keeps_of_get? hlabels ?_ fun _ _ => Decoder.keepsAt_strings,
    keeps_of_get? hexamples ?_ fun _ hx => keepsAt_examples (List.append_eq_nil_iff.1 h).2 hx,
    List.forall_mem_nil _⟩
  all_goals simp [Header.toMembers, List.lookup_append, lookup_member]

/-! ## Bodies -/

/-- The test cases stand after the fields of a kind. -/
theorem keeps_testCases (front : List (String × Json)) {cases : TestCases} {validRequired : Bool}
    (h : checkTestCases validRequired ms = []) (hcases : TestCases.decode ms = .ok cases)
    (hfront : ∀ name ∈ TestCases.fields.map (·.name), front.lookup name = none) :
    ∀ name ∈ TestCases.fields.map (·.name), Keeps ms (front ++ cases.toMembers) name := by
  obtain ⟨hvalid, hinvalid⟩ := TestCases.fields_of_decode hcases
  obtain ⟨hvalidCheck, hinvalidCheck⟩ := List.append_eq_nil_iff.1 h
  simp only [TestCases.fields, List.map_cons, optional_name, List.forall_mem_cons] at hfront ⊢
  refine ⟨keeps_of_get? hvalid ?_ fun _ hx => keepsAt_examples hvalidCheck hx,
    keeps_of_get? hinvalid ?_ fun _ hx => keepsAt_examples hinvalidCheck hx,
    List.forall_mem_nil _⟩
  all_goals simp [TestCases.toMembers, List.lookup_append, hfront]

/-- The two lists of cases are all that a bool has of its own. -/
theorem keeps_bool {c : TestCases} (h : checkBody false .bool ms = [])
    (hb : Body.decode .bool ms = .ok (.bool c)) :
    ∀ name ∈ (Body.fields .bool).map (·.name), Keeps ms (Body.bool c).toMembers name := by
  obtain ⟨_, -, hb⟩ := bind_eq_ok.1 hb
  obtain ⟨cases, hcases, hb⟩ := bind_eq_ok.1 hb
  cases hb
  exact keeps_testCases [] h hcases fun _ _ => rfl

/-- An enum keeps its items and its `dataType`. -/
theorem keeps_enum {b : EnumBody} (h : checkBody false .enum ms = [])
    (hb : Body.decode .enum ms = .ok (.enum b)) :
    ∀ name ∈ (Body.fields .enum).map (·.name), Keeps ms (Body.enum b).toMembers name := by
  obtain ⟨hitems, hdata⟩ := EnumBody.fields_of_decode hb
  simp only [Body.fields, List.map_cons, required_name, optional_name, List.forall_mem_cons]
  exact ⟨keeps_of_get hitems rfl fun _ hv => keepsAt_items h hv,
    keeps_of_get? hdata (by simp [Body.toMembers, lookup_member])
      fun _ _ => Decoder.keepsAt_string,
      List.forall_mem_nil _⟩

/-- An int keeps its bounds and its cases. -/
theorem keeps_int {b : IntBody} (h : checkBody false .int ms = [])
    (hb : Body.decode .int ms = .ok (.int b)) :
    ∀ name ∈ (Body.fields .int).map (·.name), Keeps ms (Body.int b).toMembers name := by
  obtain ⟨hminimum, hmaximum, hcases⟩ := IntBody.fields_of_decode hb
  refine List.map_append ▸ List.forall_mem_append.2 ⟨?_, ?_⟩
  · simp only [List.map_cons, required_name, List.forall_mem_cons]
    exact ⟨keeps_of_get hminimum rfl fun _ _ => Decoder.keepsAt_int64,
      keeps_of_get hmaximum rfl fun _ _ => Decoder.keepsAt_int64,
      List.forall_mem_nil _⟩
  · exact keeps_testCases _ (List.append_eq_nil_iff.1 h).2 hcases
      (by simp [TestCases.fields, lookup_member])

/-- A float keeps its bounds up to rounding, the marks beside them and its cases. -/
theorem keeps_float {b : FloatBody} (h : checkBody false .float ms = [])
    (hb : Body.decode .float ms = .ok (.float b)) :
    ∀ name ∈ (Body.fields .float).map (·.name), Keeps ms (Body.float b).toMembers name := by
  obtain ⟨hminimum, hmaximum, hlow, hhigh, hcases⟩ := FloatBody.fields_of_decode hb
  refine List.map_append ▸ List.forall_mem_append.2 ⟨?_, ?_⟩
  · simp only [List.map_cons, required_name, optional_name, List.forall_mem_cons]
    refine ⟨keeps_of_get hminimum rfl fun _ _ => Decoder.keepsAt_binary64,
      keeps_of_get hmaximum rfl fun _ _ => Decoder.keepsAt_binary64,
      keeps_of_get? hlow ?_ fun _ _ => Decoder.keepsAt_bool,
      keeps_of_get? hhigh ?_ fun _ _ => Decoder.keepsAt_bool,
      List.forall_mem_nil _⟩
    all_goals simp [Body.toMembers, TestCases.toMembers, List.lookup_append, lookup_member]
  · exact keeps_testCases _ (List.append_eq_nil_iff.1 h).2 hcases
      (by simp [TestCases.fields, List.lookup_append, lookup_member])

/-- A string keeps its pattern, the bounds of its length and its cases. -/
theorem keeps_string {b : StringBody} (h : checkBody false .string ms = [])
    (hb : Body.decode .string ms = .ok (.string b)) :
    ∀ name ∈ (Body.fields .string).map (·.name), Keeps ms (Body.string b).toMembers name := by
  obtain ⟨hregex, hminimum, hmaximum, hcases⟩ := StringBody.fields_of_decode hb
  refine List.map_append ▸ List.forall_mem_append.2 ⟨?_, ?_⟩
  · simp only [List.map_cons, required_name, optional_name, List.forall_mem_cons]
    refine ⟨keeps_of_get? hregex ?_ fun _ _ => Decoder.keepsAt_string,
      keeps_of_get? hminimum ?_ fun _ _ => Decoder.keepsAt_nat64,
      keeps_of_get hmaximum ?_ fun _ _ => Decoder.keepsAt_nat64,
      List.forall_mem_nil _⟩
    all_goals simp [Body.toMembers, TestCases.toMembers, List.lookup_append, lookup_member]
  · exact keeps_testCases _ (List.append_eq_nil_iff.1 h).2 hcases
      (by simp [TestCases.fields, List.lookup_append, lookup_member])

/-- An object keeps its fragment as it stands, and its cases. -/
theorem keeps_object {b : ObjectBody} (h : checkBody false .object ms = [])
    (hb : Body.decode .object ms = .ok (.object b)) :
    ∀ name ∈ (Body.fields .object).map (·.name), Keeps ms (Body.object b).toMembers name := by
  obtain ⟨hschema, hcases⟩ := ObjectBody.fields_of_decode hb
  refine List.map_append ▸ List.forall_mem_append.2 ⟨?_, ?_⟩
  · simp only [List.map_cons, required_name, List.forall_mem_cons]
    exact ⟨keeps_of_get hschema rfl fun _ _ => Decoder.keepsAt_any,
      List.forall_mem_nil _⟩
  · exact keeps_testCases _ (List.append_eq_nil_iff.1 h).2 hcases
      (by simp [TestCases.fields, lookup_member])

/-- A record keeps its properties, required names, variants and cases. -/
theorem keeps_record {r : RecordBody} (h : checkBody false .record ms = [])
    (hr : Body.decode .record ms = .ok (.record r)) :
    ∀ name ∈ (Body.fields .record).map (·.name), Keeps ms (Body.record r).toMembers name := by
  obtain ⟨hproperties, hrequired, hvariants, hvalid, hinvalid⟩ := RecordBody.fields_of_decode hr
  simp only [checkBody, checkRecord, checkTestCases, List.append_eq_nil_iff] at h
  obtain ⟨⟨⟨hps, -⟩, hvs⟩, hvalidCheck, hinvalidCheck⟩ := h
  simp only [Body.fields, List.map_cons, required_name, optional_name, List.forall_mem_cons]
  refine ⟨keeps_of_get hproperties ?_ fun _ hv => keepsAt_properties hps hv,
    keeps_of_get? hrequired ?_ fun _ _ => Decoder.keepsAt_strings,
    keeps_of_get? hvariants ?_ fun _ hv => keepsAt_variants hvs hv,
    keeps_of_get hvalid ?_ fun _ hx => keepsAt_examples hvalidCheck hx,
    keeps_of_get? hinvalid ?_ fun _ hx => keepsAt_examples hinvalidCheck hx,
    List.forall_mem_nil _⟩
  all_goals simp [Body.toMembers, List.lookup_append, lookup_member]

/-- A body of any kind keeps the fields of its kind. -/
theorem keeps_body {kind : TypeKind} {body : Body} (h : checkBody false kind ms = [])
    (hbody : Body.decode kind ms = .ok body) :
    ∀ name ∈ (Body.fields kind).map (·.name), Keeps ms body.toMembers name := by
  obtain rfl := kind_of_decode_body hbody
  cases body with
  | bool c => exact keeps_bool h hbody
  | enum b => exact keeps_enum h hbody
  | int b => exact keeps_int h hbody
  | float b => exact keeps_float h hbody
  | string b => exact keeps_string h hbody
  | object b => exact keeps_object h hbody
  | record r => exact keeps_record h hbody

/-! ## Definitions -/

/-- The text of a kind is read to the kind and written as the same text. -/
theorem keepsAt_kind {x : Json} : Decoder.KeepsAt TypeKind.decode (fun k => .string k.text) x := by
  intro kind hkind
  unfold TypeKind.decode at hkind
  split at hkind
  · next s =>
      split at hkind
      · next k hk =>
          cases hkind
          obtain rfl : kind.text = s := by simpa using List.find?_some hk
          exact .same _
      · cases hkind
  · cases hkind

/-- The header writes no other members than its fields. -/
theorem lookup_header_of_notMem (header : Header) {name : String}
    (hname : name ∉ Header.fields.map (·.name)) : header.toMembers.lookup name = none := by
  simp only [Header.fields, List.map_cons, required_name, optional_name, List.mem_cons, not_or]
    at hname
  simp [Header.toMembers, List.lookup_append, lookup_member, hname]

/-- The body writes no other members than the fields of its kind. -/
theorem lookup_body_of_notMem (body : Body) {name : String}
    (hname : name ∉ (Body.fields body.kind).map (·.name)) : body.toMembers.lookup name = none := by
  cases body <;>
    simp_all [Body.fields, Body.kind, TestCases.fields, Body.toMembers, TestCases.toMembers,
      List.lookup_append, lookup_member]

/-- The fields of a kind are others than those of the header. -/
theorem notMem_headerFields (kind : TypeKind) :
    ∀ name ∈ (Body.fields kind).map (·.name), name ≠ "kind"
      ∧ name ∉ Header.fields.map (·.name) := by
  cases kind <;> decide

/-- What is written of a value that breaks no rule holds all that the value does. -/
theorem keptBy_of_decode {v : Json} {d : Definition} (h : violations v = [])
    (hd : Definition.decode v = .ok d) : v.KeptBy d.toJson := by
  obtain ⟨ms, kind, rfl, hkind, hheader, hbody, -⟩ := exists_of_violations_eq_nil h
  obtain ⟨hdbody, hdheader⟩ := parts_of_decode hkind hd
  obtain rfl : d.kind = kind := kind_of_decode_body hdbody
  refine keptBy_object (covers_of_decode h hd).members (List.forall_mem_cons.2 ⟨?_, ?_⟩)
  · exact keeps_of_get hkind rfl fun _ _ => keepsAt_kind
  · -- The kind, the header and the body are written one after the other, under different names.
    rw [List.map_append]
    refine List.forall_mem_append.2 ⟨?_, ?_⟩
    · intro name hname
      have hbody : name ∉ (Body.fields d.kind).map (·.name) :=
        fun hmem => (notMem_headerFields d.kind name hmem).2 hname
      have hne : name ≠ "kind" := by
        rintro rfl
        exact absurd hname (by decide)
      refine ((keeps_header hheader hdheader name hname).append_right ?_).append_left
        (lookup_body_of_notMem d.body hbody)
      simp [lookup_member, hne]
    · intro name hname
      obtain ⟨hne, hheader⟩ := notMem_headerFields d.kind name hname
      refine (keeps_body hbody hdbody name hname).append_right ?_
      simp [lookup_member, hne, lookup_header_of_notMem d.header hheader]

end Shape

end TypeCatalog
