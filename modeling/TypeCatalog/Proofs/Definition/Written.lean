import TypeCatalog.Proofs.Definition.Kept
import TypeCatalog.Proofs.Definition.WellFormed

/-!
# What is written of a definition is read again

`Definition.decode_toJson` says that a definition is read of what is written of it, as it was. It
holds for the definitions that a value can be read into: bounds that are words of 64 bits are
written as integers and have to fit, and the data of an enum's item is not `null`, since `null`
stands for data that is absent. `Body.IsReadable` says so, and `isReadable_of_decode` that
every definition that was read is of this sort.

Each part is written under the names of its fields, in their order, and no name twice. A field that
is there is read of the value that was written; one that was left out is absent again.
-/

set_option autoImplicit false

namespace TypeCatalog

open Result TypeCatalog.Field

/-! ## Values -/

/-- Whether a value is read again of what is written of it. What is written is not `null`, which
would be taken for an absent field. -/
structure Decoder.ReadsBack {α : Type} (d : Decoder α) (encode : α → Json) (a : α) : Prop where
  ne_null : encode a ≠ .null
  eq_ok : d (encode a) = .ok a

namespace Decoder

/-- A text is read back. -/
theorem readsBack_string (s : String) : string.ReadsBack Json.string s := ⟨nofun, rfl⟩

/-- A truth value is read back. -/
theorem readsBack_bool (b : Bool) : bool.ReadsBack Json.bool b := ⟨nofun, rfl⟩

/-- Any value but `null` is read back; `null` would be taken for a missing one. -/
theorem readsBack_any {v : Json} (h : v ≠ .null) : any.ReadsBack id v := ⟨h, rfl⟩

/-- A whole number that fits into 64 bits is read back. -/
theorem readsBack_int64 {n : Int} (h : Number.fitsInt64 n = true) :
    int64.ReadsBack (fun n => .number (.integer n)) n := by
  refine ⟨nofun, ?_⟩
  unfold int64
  dsimp only
  rw [if_pos h]

/-- A count that fits into 64 bits is read back. -/
theorem readsBack_nat64 {n : Nat} (h : Number.fitsNat64 n = true) : nat64.ReadsBack .ofNat n := by
  refine ⟨nofun, ?_⟩
  unfold nat64 Json.ofNat
  dsimp only
  rw [if_pos h, Int.toNat_natCast]

/-- A number is read back as the binary64 value that it was written from. -/
theorem readsBack_binary64 (x : Binary64) : binary64.ReadsBack .ofBinary64 x := ⟨nofun, rfl⟩

/-- A list is read again when its items are. -/
theorem readsBack_list {α : Type} {d : Decoder α} {encode : α → Json} {as : List α}
    (h : ∀ a ∈ as, d (encode a) = .ok a) :
    (list d).ReadsBack (fun as => .array (as.map encode)) as := by
  refine ⟨nofun, mapM_eq_ok.2 ?_⟩
  induction as with
  | nil => exact .nil
  | cons a as ih =>
    exact .cons (h a List.mem_cons_self) (ih fun b hb => h b (List.mem_cons_of_mem a hb))

/-- A list of texts is read back, text by text. -/
theorem readsBack_strings (names : List String) : strings.ReadsBack .ofStrings names :=
  readsBack_list fun _ _ => rfl

end Decoder

/-! ## Fields -/

namespace Field

variable {α : Type} {ms : List (String × Json)} {name : String} {d : Decoder α}

/-- A required field is read where its member holds what was written. -/
theorem get_of_lookup (encode : α → Json) {a : α} (hv : ms.lookup name = some (encode a))
    (h : d.ReadsBack encode a) : get d name ms = .ok a := by
  unfold get
  rw [hv]
  exact h.eq_ok

/-- An optional field is read where its member holds what was written, or is missing where nothing
was. -/
theorem get?_of_lookup (encode : α → Json) {o : Option α} (hv : ms.lookup name = o.map encode)
    (h : ∀ a ∈ o, d.ReadsBack encode a) : get? d name ms = .ok o := by
  unfold get?
  rw [hv]
  cases o with
  | none => rfl
  | some a =>
      obtain ⟨hne, hread⟩ := h a rfl
      show Decoder.optional d (encode a) = .ok (some a)
      unfold Decoder.optional
      split
      · next hnull => exact absurd hnull hne
      · exact map_eq_ok.2 ⟨a, hread, rfl⟩

/-- In particular so for texts. -/
theorem get?_string_of_lookup {o : Option String} (hv : ms.lookup name = o.map Json.string) :
    get? Decoder.string name ms = .ok o :=
  get?_of_lookup Json.string hv fun s _ => Decoder.readsBack_string s

/-- And for lists of texts. -/
theorem get?_strings_of_lookup {o : Option (List String)}
    (hv : ms.lookup name = o.map Json.ofStrings) : get? Decoder.strings name ms = .ok o :=
  get?_of_lookup Json.ofStrings hv fun names _ => Decoder.readsBack_strings names

/-- A field that is read fits. -/
theorem fits_of_get {a : α} (h : get d name ms = .ok a) : Fits ms (required name d) := by
  obtain ⟨v, hv, ha⟩ := lookup_of_get h
  exact fits_required hv ⟨a, ha⟩

/-- A field that can be read as an optional one fits. -/
theorem fits_of_get? {o : Option α} (h : get? d name ms = .ok o) : Fits ms (optional name d) := by
  unfold get? at h
  unfold Fits
  rw [optional_name]
  cases hv : ms.lookup name with
  | none => rfl
  | some v =>
      rw [hv] at h
      exact map_eq_ok.2 ⟨o, h, rfl⟩

/-- What is written of an optional field has its name. -/
theorem names_optionalMember (encode : α → Json) (o : Option α) :
    ((optionalMember name encode o).map Prod.fst).Sublist [name] := by
  cases o with
  | none => exact List.nil_sublist _
  | some a => exact List.Sublist.refl _

end Field

/-! ## Parts -/

namespace Example

def toMembers (e : Example) : List (String × Json) :=
  [("value", e.value)] ++ optionalMember "summary" .string e.summary

/-- A part is written under the names of its fields, in their order. -/
theorem names_toMembers (e : Example) :
    (e.toMembers.map Prod.fst).Sublist (fields.map (·.name)) := by
  unfold toMembers
  rw [List.map_append]
  exact (List.Sublist.refl _).append (names_optionalMember _ _)

/-- An example is read back. -/
theorem decode_toJson (e : Example) : decode e.toJson = .ok e := by
  have hvalue : get Decoder.any "value" e.toMembers = .ok e.value := rfl
  have hsummary : get? Decoder.string "summary" e.toMembers = .ok e.summary :=
    get?_string_of_lookup (by simp [toMembers, lookup_member])
  have hfits : ∀ f ∈ fields, Fits e.toMembers f := by
    simp only [fields, List.forall_mem_cons]
    exact ⟨fits_of_get hvalue, fits_of_get? hsummary, List.forall_mem_nil _⟩
  exact bind_eq_ok.2 ⟨_, members_of_fits _ (e.names_toMembers.nodup (by decide)) hfits,
    bind_eq_ok.2 ⟨_, hvalue, bind_eq_ok.2 ⟨_, hsummary, rfl⟩⟩⟩

/-- A list of examples is read back. -/
theorem readsBack_list (es : List Example) : Decoder.ReadsBack decodeList listToJson es :=
  Decoder.readsBack_list fun e _ => e.decode_toJson

end Example

namespace EnumItem

def toMembers (item : EnumItem) : List (String × Json) :=
  [("value", .string item.value), ("text", .string item.text)]
  ++ optionalMember "symbol" .string item.symbol
  ++ optionalMember "deprecated" .string item.deprecated
  ++ optionalMember "summary" .string item.summary
  ++ optionalMember "data" id item.data

/-- The members of an item are written in the order of its fields, and optional ones may be left
out. -/
theorem names_toMembers (item : EnumItem) :
    (item.toMembers.map Prod.fst).Sublist (fields.map (·.name)) := by
  unfold toMembers
  simp only [List.map_append]
  exact ((((List.Sublist.refl _).append (names_optionalMember _ _)).append
    (names_optionalMember _ _)).append (names_optionalMember _ _)).append (names_optionalMember _ _)

/-- An item is read again when its data is not `null`. -/
theorem decode_toJson {item : EnumItem} (h : ∀ v ∈ item.data, v ≠ .null) :
    decode item.toJson = .ok item := by
  have hvalue : get Decoder.string "value" item.toMembers = .ok item.value := rfl
  have htext : get Decoder.string "text" item.toMembers = .ok item.text := rfl
  have hsymbol : get? Decoder.string "symbol" item.toMembers = .ok item.symbol :=
    get?_string_of_lookup (by simp [toMembers, List.lookup_append, lookup_member])
  have hdeprecated : get? Decoder.string "deprecated" item.toMembers = .ok item.deprecated :=
    get?_string_of_lookup (by simp [toMembers, List.lookup_append, lookup_member])
  have hsummary : get? Decoder.string "summary" item.toMembers = .ok item.summary :=
    get?_string_of_lookup (by simp [toMembers, List.lookup_append, lookup_member])
  have hdata : get? Decoder.any "data" item.toMembers = .ok item.data :=
    get?_of_lookup id (by simp [toMembers, List.lookup_append, lookup_member])
      fun v hv => Decoder.readsBack_any (h v hv)
  have hfits : ∀ f ∈ fields, Fits item.toMembers f := by
    simp only [fields, List.forall_mem_cons]
    exact ⟨fits_of_get hvalue, fits_of_get htext, fits_of_get? hsymbol, fits_of_get? hdeprecated,
      fits_of_get? hsummary, fits_of_get? hdata, List.forall_mem_nil _⟩
  exact bind_eq_ok.2 ⟨_, members_of_fits _ (item.names_toMembers.nodup (by decide)) hfits,
    bind_eq_ok.2 ⟨_, hvalue, bind_eq_ok.2 ⟨_, htext, bind_eq_ok.2 ⟨_, hsymbol,
      bind_eq_ok.2 ⟨_, hdeprecated, bind_eq_ok.2 ⟨_, hsummary, bind_eq_ok.2 ⟨_, hdata, rfl⟩⟩⟩⟩⟩⟩⟩

end EnumItem

namespace Property

def toMembers (p : Property) : List (String × Json) :=
  [("name", .string p.name)]
  ++ optionalMember "summary" .string p.summary
  ++ [("propertyType", .string p.propertyType)]
  ++ optionalMember "isArray" .bool p.isArray
  ++ optionalMember "isRequired" .bool p.isRequired

/-- So are the members of a property. -/
theorem names_toMembers (p : Property) :
    (p.toMembers.map Prod.fst).Sublist (fields.map (·.name)) := by
  unfold toMembers
  simp only [List.map_append]
  exact ((((List.Sublist.refl _).append (names_optionalMember _ _)).append
    (List.Sublist.refl _)).append (names_optionalMember _ _)).append (names_optionalMember _ _)

/-- A property is read back. -/
theorem decode_toJson (p : Property) : decode p.toJson = .ok p := by
  have hname : get Decoder.string "name" p.toMembers = .ok p.name := rfl
  have hsummary : get? Decoder.string "summary" p.toMembers = .ok p.summary :=
    get?_string_of_lookup (by simp [toMembers, List.lookup_append, lookup_member])
  have htype : get Decoder.string "propertyType" p.toMembers = .ok p.propertyType :=
    get_of_lookup Json.string (by simp [toMembers, List.lookup_append, lookup_member])
      (Decoder.readsBack_string _)
  have harray : get? Decoder.bool "isArray" p.toMembers = .ok p.isArray :=
    get?_of_lookup Json.bool (by simp [toMembers, List.lookup_append, lookup_member])
      fun b _ => Decoder.readsBack_bool b
  have hrequired : get? Decoder.bool "isRequired" p.toMembers = .ok p.isRequired :=
    get?_of_lookup Json.bool (by simp [toMembers, List.lookup_append, lookup_member])
      fun b _ => Decoder.readsBack_bool b
  have hfits : ∀ f ∈ fields, Fits p.toMembers f := by
    simp only [fields, List.forall_mem_cons]
    exact ⟨fits_of_get hname, fits_of_get? hsummary, fits_of_get htype, fits_of_get? harray,
      fits_of_get? hrequired, List.forall_mem_nil _⟩
  exact bind_eq_ok.2 ⟨_, members_of_fits _ (p.names_toMembers.nodup (by decide)) hfits,
    bind_eq_ok.2 ⟨_, hname, bind_eq_ok.2 ⟨_, hsummary, bind_eq_ok.2 ⟨_, htype,
      bind_eq_ok.2 ⟨_, harray, bind_eq_ok.2 ⟨_, hrequired, rfl⟩⟩⟩⟩⟩⟩

end Property

namespace Variant

def toMembers (v : Variant) : List (String × Json) :=
  [("name", .string v.name)]
  ++ optionalMember "summary" .string v.summary
  ++ optionalMember "required" .ofStrings v.required
  ++ optionalMember "includeProperties" .ofStrings v.includeProperties
  ++ optionalMember "excludeProperties" .ofStrings v.excludeProperties

/-- The members of a variant are written in the order of its fields. -/
theorem names_toMembers (v : Variant) :
    (v.toMembers.map Prod.fst).Sublist (fields.map (·.name)) := by
  unfold toMembers
  simp only [List.map_append]
  exact ((((List.Sublist.refl _).append (names_optionalMember _ _)).append
    (names_optionalMember _ _)).append (names_optionalMember _ _)).append (names_optionalMember _ _)

/-- A variant is read back. -/
theorem decode_toJson (v : Variant) : decode v.toJson = .ok v := by
  have hname : get Decoder.string "name" v.toMembers = .ok v.name := rfl
  have hsummary : get? Decoder.string "summary" v.toMembers = .ok v.summary :=
    get?_string_of_lookup (by simp [toMembers, List.lookup_append, lookup_member])
  have hrequired : get? Decoder.strings "required" v.toMembers = .ok v.required :=
    get?_strings_of_lookup (by simp [toMembers, List.lookup_append, lookup_member])
  have hincluded : get? Decoder.strings "includeProperties" v.toMembers = .ok v.includeProperties :=
    get?_strings_of_lookup (by simp [toMembers, List.lookup_append, lookup_member])
  have hexcluded : get? Decoder.strings "excludeProperties" v.toMembers = .ok v.excludeProperties :=
    get?_strings_of_lookup (by simp [toMembers, List.lookup_append, lookup_member])
  have hfits : ∀ f ∈ fields, Fits v.toMembers f := by
    simp only [fields, List.forall_mem_cons]
    exact ⟨fits_of_get hname, fits_of_get? hsummary, fits_of_get? hrequired,
      fits_of_get? hincluded, fits_of_get? hexcluded, List.forall_mem_nil _⟩
  exact bind_eq_ok.2 ⟨_, members_of_fits _ (v.names_toMembers.nodup (by decide)) hfits,
    bind_eq_ok.2 ⟨_, hname, bind_eq_ok.2 ⟨_, hsummary, bind_eq_ok.2 ⟨_, hrequired,
      bind_eq_ok.2 ⟨_, hincluded, bind_eq_ok.2 ⟨_, hexcluded, rfl⟩⟩⟩⟩⟩⟩

end Variant

/-! ## Headers and bodies -/

variable {ms : List (String × Json)}

namespace Header

/-- So are the members of a header. -/
theorem names_toMembers (h : Header) :
    (h.toMembers.map Prod.fst).Sublist (fields.map (·.name)) := by
  unfold toMembers
  simp only [List.map_append]
  exact ((((((List.Sublist.refl _).append (names_optionalMember _ _)).append
    (names_optionalMember _ _)).append (names_optionalMember _ _)).append
    (names_optionalMember _ _)).append (names_optionalMember _ _)).append (names_optionalMember _ _)

/-- A header is read of members among which its own are found. -/
theorem decode_of_lookup {header : Header} (hnodup : (ms.map Prod.fst).Nodup)
    (hms : ∀ name ∈ fields.map (·.name), ms.lookup name = header.toMembers.lookup name) :
    decode ms = .ok header := by
  have hsystem : get Decoder.string "system" ms = .ok header.system :=
    get_of_lookup Json.string (hms _ (by decide)) (Decoder.readsBack_string _)
  have hname : get Decoder.string "name" ms = .ok header.name :=
    get_of_lookup Json.string (hms _ (by decide)) (Decoder.readsBack_string _)
  -- An optional text is written only where it is there, and is then found under its name alone.
  have htitle : get? Decoder.string "title" ms = .ok header.title := by
    refine get?_string_of_lookup ?_
    rw [hms _ (by decide)]
    simp [toMembers, List.lookup_append, lookup_member]
  have hsummary : get? Decoder.string "summary" ms = .ok header.summary := by
    refine get?_string_of_lookup ?_
    rw [hms _ (by decide)]
    simp [toMembers, List.lookup_append, lookup_member]
  have hdeprecated : get? Decoder.string "deprecated" ms = .ok header.deprecated := by
    refine get?_string_of_lookup ?_
    rw [hms _ (by decide)]
    simp [toMembers, List.lookup_append, lookup_member]
  have htags : get? Decoder.strings "tags" ms = .ok header.tags := by
    refine get?_strings_of_lookup ?_
    rw [hms _ (by decide)]
    simp [toMembers, List.lookup_append, lookup_member]
  have hlabels : get? Decoder.strings "labels" ms = .ok header.labels := by
    refine get?_strings_of_lookup ?_
    rw [hms _ (by decide)]
    simp [toMembers, List.lookup_append, lookup_member]
  have hexamples : get? Example.decodeList "examples" ms = .ok header.examples := by
    refine get?_of_lookup Example.listToJson ?_ fun es _ => Example.readsBack_list es
    rw [hms _ (by decide)]
    simp [toMembers, List.lookup_append, lookup_member]
  have hfits : ∀ f ∈ fields, Fits ms f := by
    simp only [fields, List.forall_mem_cons]
    exact ⟨fits_of_get hsystem, fits_of_get hname, fits_of_get? htitle, fits_of_get? hsummary,
      fits_of_get? hdeprecated, fits_of_get? htags, fits_of_get? hlabels, fits_of_get? hexamples,
      List.forall_mem_nil _⟩
  exact bind_eq_ok.2 ⟨(), checkAll_of_fits hnodup hfits, bind_eq_ok.2 ⟨_, hsystem,
    bind_eq_ok.2 ⟨_, hname, bind_eq_ok.2 ⟨_, htitle, bind_eq_ok.2 ⟨_, hsummary,
      bind_eq_ok.2 ⟨_, hdeprecated, bind_eq_ok.2 ⟨_, htags, bind_eq_ok.2 ⟨_, hlabels,
        bind_eq_ok.2 ⟨_, hexamples, rfl⟩⟩⟩⟩⟩⟩⟩⟩⟩

end Header

namespace TestCases

/-- The two lists of cases are written in their order. -/
theorem names_toMembers (c : TestCases) :
    (c.toMembers.map Prod.fst).Sublist (fields.map (·.name)) := by
  unfold toMembers
  rw [List.map_append]
  exact (names_optionalMember _ _).append (names_optionalMember _ _)

/-- Test cases are read of members among which their own are found. -/
theorem get?_of_lookup_toMembers {c : TestCases}
    (hms : ∀ name ∈ fields.map (·.name), ms.lookup name = c.toMembers.lookup name) :
    get? Example.decodeList "validTestCases" ms = .ok c.valid
      ∧ get? Example.decodeList "invalidTestCases" ms = .ok c.invalid := by
  constructor
  · refine get?_of_lookup Example.listToJson ?_ fun es _ => Example.readsBack_list es
    rw [hms _ (by decide)]
    simp [toMembers, List.lookup_append]
  · refine get?_of_lookup Example.listToJson ?_ fun es _ => Example.readsBack_list es
    rw [hms _ (by decide)]
    simp [toMembers, List.lookup_append]

/-- Cases are read of members among which their own are found. -/
theorem decode_of_lookup {c : TestCases}
    (hms : ∀ name ∈ fields.map (·.name), ms.lookup name = c.toMembers.lookup name) :
    decode ms = .ok c := by
  obtain ⟨hvalid, hinvalid⟩ := get?_of_lookup_toMembers hms
  exact bind_eq_ok.2 ⟨_, hvalid, bind_eq_ok.2 ⟨_, hinvalid, rfl⟩⟩

/-- And these members fit the two fields of cases. -/
theorem fits_of_lookup {c : TestCases}
    (hms : ∀ name ∈ fields.map (·.name), ms.lookup name = c.toMembers.lookup name) :
    ∀ f ∈ fields, Fits ms f := by
  obtain ⟨hvalid, hinvalid⟩ := get?_of_lookup_toMembers hms
  simp only [fields, List.forall_mem_cons]
  exact ⟨fits_of_get? hvalid, fits_of_get? hinvalid, List.forall_mem_nil _⟩

end TestCases

namespace Body

/-- What a body has to be for a value to be read into it. -/
def IsReadable : Body → Prop
  | enum b => ∀ item ∈ b.items, ∀ v ∈ item.data, v ≠ .null
  | int b => Number.fitsInt64 b.minimum = true ∧ Number.fitsInt64 b.maximum = true
  | string b => b.WellFormed
  | _ => True

/-- Whether members hold what is written of a body at the names of its fields. -/
def IsWrittenIn (body : Body) (ms : List (String × Json)) : Prop :=
  ∀ name ∈ (fields body.kind).map (·.name), ms.lookup name = body.toMembers.lookup name

/-- The members of a body are written in the order of the fields of its kind. -/
theorem names_toMembers (body : Body) :
    (body.toMembers.map Prod.fst).Sublist ((fields body.kind).map (·.name)) := by
  cases body with
  | bool c => exact c.names_toMembers
  | enum b => exact (List.Sublist.refl ["items"]).append (names_optionalMember _ _)
  | int b =>
      unfold toMembers
      rw [List.map_append]
      exact (List.Sublist.refl ["minimum", "maximum"]).append b.cases.names_toMembers
  | float b =>
      unfold toMembers
      simp only [List.map_append]
      exact (((List.Sublist.refl ["minimum", "maximum"]).append (names_optionalMember _ _)).append
        (names_optionalMember _ _)).append b.cases.names_toMembers
  | string b =>
      unfold toMembers
      simp only [List.map_append]
      exact (((names_optionalMember _ _).append (names_optionalMember _ _)).append
        (List.Sublist.refl ["maximumLength"])).append b.cases.names_toMembers
  | object b =>
      unfold toMembers
      rw [List.map_append]
      exact (List.Sublist.refl ["jsonSchema"]).append b.cases.names_toMembers
  | record r =>
      unfold toMembers
      simp only [List.map_append]
      exact ((((List.Sublist.refl ["properties"]).append (names_optionalMember _ _)).append
        (names_optionalMember _ _)).append (List.Sublist.refl ["validTestCases"])).append
        (names_optionalMember _ _)

/-- The test cases are written behind the other fields of a kind. -/
theorem IsWrittenIn.testCases {body : Body} {front : List (String × Json)} {c : TestCases}
    (h : body.IsWrittenIn ms) (hbody : body.toMembers = front ++ c.toMembers)
    (hfields : ∀ f ∈ TestCases.fields, f ∈ fields body.kind)
    (hfront : ∀ name ∈ TestCases.fields.map (·.name), front.lookup name = none) :
    ∀ name ∈ TestCases.fields.map (·.name), ms.lookup name = c.toMembers.lookup name := by
  intro name hname
  obtain ⟨f, hf, rfl⟩ := List.mem_map.1 hname
  rw [h _ (List.mem_map_of_mem (hfields f hf)), hbody, List.lookup_append, hfront _ hname,
    Option.none_or]

/-- A bool is read back: it has nothing but cases. -/
theorem decode_bool {c : TestCases} (hnodup : (ms.map Prod.fst).Nodup)
    (h : (bool c).IsWrittenIn ms) : decode .bool ms = .ok (bool c) :=
  bind_eq_ok.2 ⟨(), checkAll_of_fits hnodup (TestCases.fits_of_lookup h),
    bind_eq_ok.2 ⟨c, TestCases.decode_of_lookup h, rfl⟩⟩

/-- An enum is read back, when its items have no `null` for data. -/
theorem decode_enum {b : EnumBody} (hnodup : (ms.map Prod.fst).Nodup)
    (hreadable : (enum b).IsReadable) (h : (enum b).IsWrittenIn ms) :
    decode .enum ms = .ok (enum b) := by
  have hms : ∀ name ∈ (fields .enum).map (·.name), _ = _ := h
  have hitems : get (Decoder.list EnumItem.decode) "items" ms = .ok b.items :=
    get_of_lookup (fun items : List EnumItem => Json.array (items.map EnumItem.toJson))
      (hms "items" (by decide))
      (Decoder.readsBack_list fun item hitem => EnumItem.decode_toJson (hreadable item hitem))
  have hdata : get? Decoder.string "dataType" ms = .ok b.dataType := by
    refine get?_string_of_lookup ?_
    rw [hms "dataType" (by decide)]
    simp [toMembers, lookup_member]
  have hfits : ∀ f ∈ fields .enum, Fits ms f := by
    simp only [fields, List.forall_mem_cons]
    exact ⟨fits_of_get hitems, fits_of_get? hdata, List.forall_mem_nil _⟩
  exact bind_eq_ok.2 ⟨(), checkAll_of_fits hnodup hfits, bind_eq_ok.2 ⟨_, hitems,
    bind_eq_ok.2 ⟨_, hdata, rfl⟩⟩⟩

/-- An int is read back, when its bounds fit into 64 bits. -/
theorem decode_int {b : IntBody} (hnodup : (ms.map Prod.fst).Nodup)
    (hreadable : (int b).IsReadable) (h : (int b).IsWrittenIn ms) :
    decode .int ms = .ok (int b) := by
  have hms : ∀ name ∈ (fields .int).map (·.name), _ = _ := h
  have hminimum : get Decoder.int64 "minimum" ms = .ok b.minimum :=
    get_of_lookup (fun n => .number (.integer n)) (hms "minimum" (by decide))
      (Decoder.readsBack_int64 hreadable.1)
  have hmaximum : get Decoder.int64 "maximum" ms = .ok b.maximum :=
    get_of_lookup (fun n => .number (.integer n)) (hms "maximum" (by decide))
      (Decoder.readsBack_int64 hreadable.2)
  have hcases := h.testCases rfl (fun f hf => List.mem_append_right _ hf)
    (by simp [TestCases.fields, lookup_member])
  have hfits : ∀ f ∈ fields .int, Fits ms f := by
    refine List.forall_mem_append.2 ⟨?_, TestCases.fits_of_lookup hcases⟩
    simp only [List.forall_mem_cons]
    exact ⟨fits_of_get hminimum, fits_of_get hmaximum, List.forall_mem_nil _⟩
  exact bind_eq_ok.2 ⟨(), checkAll_of_fits hnodup hfits, bind_eq_ok.2 ⟨_, hminimum,
    bind_eq_ok.2 ⟨_, hmaximum, bind_eq_ok.2 ⟨_, TestCases.decode_of_lookup hcases, rfl⟩⟩⟩⟩

/-- A float is read back. -/
theorem decode_float {b : FloatBody} (hnodup : (ms.map Prod.fst).Nodup)
    (h : (float b).IsWrittenIn ms) : decode .float ms = .ok (float b) := by
  have hms : ∀ name ∈ (fields .float).map (·.name), _ = _ := h
  have hminimum : get Decoder.binary64 "minimum" ms = .ok b.minimum :=
    get_of_lookup Json.ofBinary64 (hms "minimum" (by decide)) (Decoder.readsBack_binary64 _)
  have hmaximum : get Decoder.binary64 "maximum" ms = .ok b.maximum :=
    get_of_lookup Json.ofBinary64 (hms "maximum" (by decide)) (Decoder.readsBack_binary64 _)
  have hlow : get? Decoder.bool "isMinimumExclusive" ms = .ok b.isMinimumExclusive := by
    refine get?_of_lookup Json.bool ?_ fun b _ => Decoder.readsBack_bool b
    rw [hms _ (by decide)]
    simp [toMembers, TestCases.toMembers, List.lookup_append, lookup_member]
  have hhigh : get? Decoder.bool "isMaximumExclusive" ms = .ok b.isMaximumExclusive := by
    refine get?_of_lookup Json.bool ?_ fun b _ => Decoder.readsBack_bool b
    rw [hms _ (by decide)]
    simp [toMembers, TestCases.toMembers, List.lookup_append, lookup_member]
  -- The members of the cases are found behind those of the bounds, under names of their own.
  have hcases := h.testCases rfl (fun f hf => List.mem_append_right _ hf)
    (by simp [TestCases.fields, List.lookup_append, lookup_member])
  have hfits : ∀ f ∈ fields .float, Fits ms f := by
    refine List.forall_mem_append.2 ⟨?_, TestCases.fits_of_lookup hcases⟩
    simp only [List.forall_mem_cons]
    exact ⟨fits_of_get hminimum, fits_of_get hmaximum, fits_of_get? hlow, fits_of_get? hhigh,
      List.forall_mem_nil _⟩
  exact bind_eq_ok.2 ⟨(), checkAll_of_fits hnodup hfits, bind_eq_ok.2 ⟨_, hminimum,
    bind_eq_ok.2 ⟨_, hmaximum, bind_eq_ok.2 ⟨_, hlow, bind_eq_ok.2 ⟨_, hhigh,
      bind_eq_ok.2 ⟨_, TestCases.decode_of_lookup hcases, rfl⟩⟩⟩⟩⟩⟩

/-- A string is read back, when its lengths fit into 64 bits. -/
theorem decode_string {b : StringBody} (hnodup : (ms.map Prod.fst).Nodup)
    (hreadable : (string b).IsReadable) (h : (string b).IsWrittenIn ms) :
    decode .string ms = .ok (string b) := by
  have hms : ∀ name ∈ (fields .string).map (·.name), _ = _ := h
  have hregex : get? Decoder.string "regex" ms = .ok b.regex := by
    refine get?_string_of_lookup ?_
    rw [hms _ (by decide)]
    simp [toMembers, TestCases.toMembers, List.lookup_append, lookup_member]
  have hminimum : get? Decoder.nat64 "minimumLength" ms = .ok b.minimumLength := by
    refine get?_of_lookup Json.ofNat ?_ fun n hn =>
      Decoder.readsBack_nat64 (hreadable.minimum n hn)
    rw [hms _ (by decide)]
    simp [toMembers, TestCases.toMembers, List.lookup_append, lookup_member]
  have hmaximum : get Decoder.nat64 "maximumLength" ms = .ok b.maximumLength := by
    refine get_of_lookup Json.ofNat ?_ (Decoder.readsBack_nat64 hreadable.maximum)
    rw [hms _ (by decide)]
    simp [toMembers, TestCases.toMembers, List.lookup_append]
  have hcases := h.testCases rfl (fun f hf => List.mem_append_right _ hf)
    (by simp [TestCases.fields, List.lookup_append, lookup_member])
  have hfits : ∀ f ∈ fields .string, Fits ms f := by
    refine List.forall_mem_append.2 ⟨?_, TestCases.fits_of_lookup hcases⟩
    simp only [List.forall_mem_cons]
    exact ⟨fits_of_get? hregex, fits_of_get? hminimum, fits_of_get hmaximum, List.forall_mem_nil _⟩
  exact bind_eq_ok.2 ⟨(), checkAll_of_fits hnodup hfits, bind_eq_ok.2 ⟨_, hregex,
    bind_eq_ok.2 ⟨_, hminimum, bind_eq_ok.2 ⟨_, hmaximum,
      bind_eq_ok.2 ⟨_, TestCases.decode_of_lookup hcases, rfl⟩⟩⟩⟩⟩

/-- An object is read back, with any fragment. -/
theorem decode_object {b : ObjectBody} (hnodup : (ms.map Prod.fst).Nodup)
    (h : (object b).IsWrittenIn ms) : decode .object ms = .ok (object b) := by
  have hms : ∀ name ∈ (fields .object).map (·.name), _ = _ := h
  have hschema : get Decoder.any "jsonSchema" ms = .ok b.schema := by
    have hlookup : ms.lookup "jsonSchema" = some b.schema := hms "jsonSchema" (by decide)
    unfold Field.get
    rw [hlookup]
    rfl
  have hcases := h.testCases rfl (fun f hf => List.mem_append_right _ hf)
    (by simp [TestCases.fields, lookup_member])
  have hfits : ∀ f ∈ fields .object, Fits ms f := by
    refine List.forall_mem_append.2 ⟨?_, TestCases.fits_of_lookup hcases⟩
    simp only [List.forall_mem_cons]
    exact ⟨fits_of_get hschema, List.forall_mem_nil _⟩
  exact bind_eq_ok.2 ⟨(), checkAll_of_fits hnodup hfits, bind_eq_ok.2 ⟨_, hschema,
    bind_eq_ok.2 ⟨_, TestCases.decode_of_lookup hcases, rfl⟩⟩⟩

/-- A record is read back with its properties and variants. -/
theorem decode_record {r : RecordBody} (hnodup : (ms.map Prod.fst).Nodup)
    (h : (record r).IsWrittenIn ms) : decode .record ms = .ok (record r) := by
  have hms : ∀ name ∈ (fields .record).map (·.name), _ = _ := h
  have hproperties : get (Decoder.list Property.decode) "properties" ms = .ok r.properties :=
    get_of_lookup (fun ps => Json.array (ps.map Property.toJson)) (hms _ (by decide))
      (Decoder.readsBack_list fun p _ => p.decode_toJson)
  have hrequired : get? Decoder.strings "required" ms = .ok r.required := by
    refine get?_of_lookup Json.ofStrings ?_ fun names _ => Decoder.readsBack_strings names
    rw [hms _ (by decide)]
    simp [toMembers, List.lookup_append, lookup_member]
  have hvariants : get? (Decoder.list Variant.decode) "variants" ms = .ok r.variants := by
    refine get?_of_lookup (fun vs => .array (vs.map Variant.toJson)) ?_ fun vs _ =>
      Decoder.readsBack_list fun v _ => v.decode_toJson
    rw [hms _ (by decide)]
    simp [toMembers, List.lookup_append, lookup_member]
  have hvalid : get Example.decodeList "validTestCases" ms = .ok r.validCases := by
    refine get_of_lookup Example.listToJson ?_ (Example.readsBack_list _)
    rw [hms _ (by decide)]
    simp [toMembers, List.lookup_append, lookup_member]
  have hinvalid : get? Example.decodeList "invalidTestCases" ms = .ok r.invalidCases := by
    refine get?_of_lookup Example.listToJson ?_ fun es _ => Example.readsBack_list es
    rw [hms _ (by decide)]
    simp [toMembers, List.lookup_append, lookup_member]
  -- All five members fit, so the reader goes through them in their order.
  have hfits : ∀ f ∈ fields .record, Fits ms f := by
    simp only [fields, List.forall_mem_cons]
    exact ⟨fits_of_get hproperties, fits_of_get? hrequired, fits_of_get? hvariants,
      fits_of_get hvalid, fits_of_get? hinvalid, List.forall_mem_nil _⟩
  exact bind_eq_ok.2 ⟨(), checkAll_of_fits hnodup hfits, bind_eq_ok.2 ⟨_, hproperties,
    bind_eq_ok.2 ⟨_, hrequired, bind_eq_ok.2 ⟨_, hvariants, bind_eq_ok.2 ⟨_, hvalid,
      bind_eq_ok.2 ⟨_, hinvalid, rfl⟩⟩⟩⟩⟩⟩

/-- A body is read of members that hold what is written of it. -/
theorem decode_of_isWrittenIn {body : Body} (hnodup : (ms.map Prod.fst).Nodup)
    (hreadable : body.IsReadable) (h : body.IsWrittenIn ms) :
    decode body.kind ms = .ok body := by
  cases body with
  | bool c => exact decode_bool hnodup h
  | enum b => exact decode_enum hnodup hreadable h
  | int b => exact decode_int hnodup hreadable h
  | float b => exact decode_float hnodup h
  | string b => exact decode_string hnodup hreadable h
  | object b => exact decode_object hnodup h
  | record r => exact decode_record hnodup h

/-! ## Bodies that were read -/

/-- The value of an optional field is not `null`. -/
theorem ne_null_of_get? {name : String} {v : Json} (h : get? Decoder.any name ms = .ok (some v)) :
    v ≠ .null := by
  rintro rfl
  unfold Field.get? at h
  split at h
  · next w hw =>
      unfold Decoder.optional at h
      split at h
      · cases h
      · next hnot =>
          cases h
          exact hnot rfl
  · cases h

/-- The data of an item that was read is not `null`, which would have been read as none. -/
theorem data_ne_null_of_decode {x : Json} {item : EnumItem} (h : EnumItem.decode x = .ok item) :
    ∀ v ∈ item.data, v ≠ .null := by
  obtain ⟨ms, -, h⟩ := bind_eq_ok.1 h
  obtain ⟨value, -, h⟩ := bind_eq_ok.1 h
  obtain ⟨text, -, h⟩ := bind_eq_ok.1 h
  obtain ⟨symbol, -, h⟩ := bind_eq_ok.1 h
  obtain ⟨deprecated, -, h⟩ := bind_eq_ok.1 h
  obtain ⟨summary, -, h⟩ := bind_eq_ok.1 h
  obtain ⟨data, hdata, h⟩ := bind_eq_ok.1 h
  cases h
  intro v hv
  obtain rfl : data = some v := hv
  exact ne_null_of_get? hdata

/-- A whole number that was read fits into 64 bits. -/
theorem fitsInt64_of_int64 {v : Json} {n : Int} (h : Decoder.int64 v = .ok n) :
    Number.fitsInt64 n = true := by
  unfold Decoder.int64 at h
  split at h
  · split at h
    · next hfits =>
        cases h
        exact hfits
    · cases h
  · cases h

/-- A body that was read can be read. -/
theorem isReadable_of_decode {kind : TypeKind} {body : Body} (h : Body.decode kind ms = .ok body) :
    body.IsReadable := by
  obtain rfl := Shape.kind_of_decode_body h
  cases body with
  | enum b =>
      obtain ⟨xs, -, hitems⟩ := lookup_of_get_list (EnumBody.fields_of_decode h).1
      intro item hitem
      obtain ⟨x, -, hx⟩ := exists_of_mem_forall₂ hitems hitem
      exact data_ne_null_of_decode hx
  | int b =>
      obtain ⟨hminimum, hmaximum, -⟩ := IntBody.fields_of_decode h
      obtain ⟨v, -, hv⟩ := lookup_of_get hminimum
      obtain ⟨w, -, hw⟩ := lookup_of_get hmaximum
      exact ⟨fitsInt64_of_int64 hv, fitsInt64_of_int64 hw⟩
  | string b => exact Shape.wellFormed_of_decode_string h
  | _ => trivial

/-- Defaults can be read. -/
theorem isReadable_withDefaults {body : Body} (h : body.IsReadable) :
    body.withDefaults.IsReadable := by
  cases body with
  | string b => exact StringBody.WellFormed.withDefaults h
  | _ => exact h

end Body

/-! ## Definitions -/

namespace Definition

variable (d : Definition)

/-- The members that a definition is written under. -/
def toMembers : List (String × Json) :=
  [("kind", .string d.kind.text)] ++ d.header.toMembers ++ d.body.toMembers

/-- The members of a definition are written in the order of the fields that the shape knows. -/
theorem names_toMembers : (d.toMembers.map Prod.fst).Sublist
    (Shape.headerFields ++ Shape.kindFields d.kind) := by
  rw [Shape.headerFields_append_kindFields, List.map_append]
  unfold toMembers
  simp only [List.map_append]
  exact ((List.Sublist.refl ["kind"]).append d.header.names_toMembers).append
    d.body.names_toMembers

/-- No name is written twice. -/
theorem nodup_toMembers : (d.toMembers.map Prod.fst).Nodup := by
  refine d.names_toMembers.nodup ?_
  cases d.kind <;> decide

/-- The header is found among the members. -/
theorem lookup_toMembers_header {name : String} (hname : name ∈ Header.fields.map (·.name)) :
    d.toMembers.lookup name = d.header.toMembers.lookup name := by
  have hbody : name ∉ (Body.fields d.kind).map (·.name) :=
    fun hmem => (Shape.notMem_headerFields d.kind name hmem).2 hname
  have hne : name ≠ "kind" := by
    rintro rfl
    exact absurd hname (by decide)
  unfold toMembers
  rw [List.lookup_append, Shape.lookup_body_of_notMem d.body hbody, Option.or_none,
    List.lookup_append]
  simp [lookup_member, hne]

/-- The body is found among the members. -/
theorem isWrittenIn_toMembers : d.body.IsWrittenIn d.toMembers := by
  intro name hname
  obtain ⟨hne, hheader⟩ := Shape.notMem_headerFields d.kind name hname
  unfold toMembers
  rw [List.lookup_append, List.lookup_append, Shape.lookup_header_of_notMem d.header hheader]
  simp [lookup_member, hne]

/-- The text of a kind is read as the kind. -/
theorem ofText?_text (kind : TypeKind) : TypeKind.ofText? kind.text = some kind := by
  cases kind <;> rfl

/-- A definition is read again of what is written of it. -/
theorem decode_toJson {d : Definition} (h : d.body.IsReadable) : decode d.toJson = .ok d := by
  have hkind : get TypeKind.decode "kind" d.toMembers = .ok d.kind := by
    show TypeKind.decode (.string d.kind.text) = .ok d.kind
    unfold TypeKind.decode
    dsimp only
    rw [ofText?_text]
  have hbody : Body.decode d.kind d.toMembers = .ok d.body :=
    Body.decode_of_isWrittenIn d.nodup_toMembers h d.isWrittenIn_toMembers
  have hheader : Header.decode d.toMembers = .ok d.header :=
    Header.decode_of_lookup d.nodup_toMembers fun name hname => d.lookup_toMembers_header hname
  exact bind_eq_ok.2 ⟨_, hkind, bind_eq_ok.2 ⟨_, hbody, bind_eq_ok.2 ⟨_, hheader, rfl⟩⟩⟩

end Definition

end TypeCatalog
