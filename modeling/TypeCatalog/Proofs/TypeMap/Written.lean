import TypeCatalog.Proofs.Definition.Written
import TypeCatalog.Proofs.TypeMap.Nodes
import TypeCatalog.TypeMap.Codec

/-!
# What is written of a type map is read again

`TypeMap.decode_toJson` says that a type map is read of what is written of it, as it was. Two things
may stand in a map that could not be read. The counts of lists are written as integers and read as
words of 64 bits. And the data of an enum's item must not be `null`, which would be read as data
that is absent. `TypeMap.IsReadable` rules both out, and `isReadable_of_decode` says that a map that
was read has neither.

An empty list of examples is left out and read as the default. Inside of a list, `null` is a value
like any other, so the examples of a node may be anything.

The proof follows the records of the map: `EnumEntry`, `RefNode`, `ObjectProperty` and `ObjectNode`
each have `toMembers`, which writes the fields in order and leaves out optional ones, and `decode`,
which reads them by name through `get`, `get?` and `getOr`.
-/

set_option autoImplicit false

namespace TypeCatalog

open Result TypeCatalog.Field

/-! ## Fields with a default -/

namespace Field

variable {α : Type} {ms : List (String × Json)} {name : String} {d : Decoder α}

/-- A list that is left out when it is empty is read again, with the empty list as the default. -/
theorem getOr_of_lookup {d : Decoder (List α)} (encode : List α → Json) {as : List α}
    (hv : ms.lookup name = if as.isEmpty then none else some (encode as))
    (h : d.ReadsBack encode as) : getOr [] d name ms = .ok as := by
  unfold getOr
  rw [hv]
  cases as with
  | nil => rfl
  | cons a as => exact h.eq_ok

/-- A field with a default fits where it can be read. -/
theorem fits_of_getOr {default a : α} (h : getOr default d name ms = .ok a) :
    Fits ms (defaulted name d) := by
  unfold getOr at h
  unfold Fits
  rw [show (defaulted name d).name = name from rfl]
  cases hv : ms.lookup name with
  | none => rfl
  | some v =>
      rw [hv] at h
      exact map_eq_ok.2 ⟨a, h, rfl⟩

end Field

/-! ## Parts -/

namespace EnumEntry

/-- Whether an item can be read: data that is there is not `null`. -/
def IsReadable (e : EnumEntry) : Prop := ∀ v ∈ e.data, v ≠ .null

def toMembers (e : EnumEntry) : List (String × Json) :=
  [("value", .string e.value), ("text", .string e.text)]
  ++ optionalMember "symbol" .string e.symbol
  ++ optionalMember "deprecated" .string e.deprecated
  ++ optionalMember "documentation" .string e.documentation
  ++ optionalMember "data" id e.data

/-- The members of an item are written in the order of its fields. -/
theorem names_toMembers (e : EnumEntry) :
    (e.toMembers.map Prod.fst).Sublist (fields.map (·.name)) := by
  unfold toMembers
  simp only [List.map_append]
  exact ((((List.Sublist.refl _).append (names_optionalMember _ _)).append
    (names_optionalMember _ _)).append (names_optionalMember _ _)).append (names_optionalMember _ _)

/-- An item of an enum is read back when its data is not `null`. -/
theorem decode_toJson {e : EnumEntry} (h : e.IsReadable) : decode e.toJson = .ok e := by
  have hvalue : get Decoder.string "value" e.toMembers = .ok e.value := rfl
  have htext : get Decoder.string "text" e.toMembers = .ok e.text := rfl
  have hsymbol : get? Decoder.string "symbol" e.toMembers = .ok e.symbol :=
    get?_string_of_lookup (by simp [toMembers, List.lookup_append, lookup_member])
  have hdeprecated : get? Decoder.string "deprecated" e.toMembers = .ok e.deprecated :=
    get?_string_of_lookup (by simp [toMembers, List.lookup_append, lookup_member])
  have hdocumentation : get? Decoder.string "documentation" e.toMembers = .ok e.documentation :=
    get?_string_of_lookup (by simp [toMembers, List.lookup_append, lookup_member])
  have hdata : get? Decoder.any "data" e.toMembers = .ok e.data :=
    get?_of_lookup id (by simp [toMembers, List.lookup_append, lookup_member])
      fun v hv => Decoder.readsBack_any (h v hv)
  -- No member has a name that is not one of a field, so the reader accepts the object.
  have hfits : ∀ f ∈ fields, Fits e.toMembers f := by
    simp only [fields, List.forall_mem_cons]
    exact ⟨fits_of_get hvalue, fits_of_get htext, fits_of_get? hsymbol, fits_of_get? hdeprecated,
      fits_of_get? hdocumentation, fits_of_get? hdata, List.forall_mem_nil _⟩
  exact bind_eq_ok.2 ⟨_, members_of_fits _ (e.names_toMembers.nodup (by decide)) hfits,
    bind_eq_ok.2 ⟨_, hvalue, bind_eq_ok.2 ⟨_, htext, bind_eq_ok.2 ⟨_, hsymbol,
      bind_eq_ok.2 ⟨_, hdeprecated, bind_eq_ok.2 ⟨_, hdocumentation,
        bind_eq_ok.2 ⟨_, hdata, rfl⟩⟩⟩⟩⟩⟩⟩

/-- An item that was read can be read. -/
theorem isReadable_of_decode {x : Json} {e : EnumEntry} (h : decode x = .ok e) :
    e.IsReadable := by
  obtain ⟨ms, -, h⟩ := bind_eq_ok.1 h
  obtain ⟨value, -, h⟩ := bind_eq_ok.1 h
  obtain ⟨text, -, h⟩ := bind_eq_ok.1 h
  obtain ⟨symbol, -, h⟩ := bind_eq_ok.1 h
  obtain ⟨deprecated, -, h⟩ := bind_eq_ok.1 h
  obtain ⟨documentation, -, h⟩ := bind_eq_ok.1 h
  obtain ⟨data, hdata, h⟩ := bind_eq_ok.1 h
  cases h
  intro v hv
  obtain rfl : data = some v := hv
  exact Body.ne_null_of_get? hdata

end EnumEntry

namespace RefNode

/-- Whether a reference can be read: the count is a word of 64 bits, and so can be its items. -/
structure IsReadable (n : RefNode) : Prop where
  count : Number.fitsNat64 n.arrayCount = true
  items : ∀ es ∈ n.enumItems, ∀ e ∈ es, e.IsReadable

def toMembers (n : RefNode) : List (String × Json) :=
  [("system", .string n.system), ("name", .string n.name), ("refTypeName", .string n.target),
    ("refTypeArrayCount", .ofNat n.arrayCount), ("isScalarRef", .bool n.isScalar),
    ("isEnumRef", .bool n.isEnum), ("isRootType", .bool n.isRoot)]
  ++ optionalMember "enumItems" (fun es => .array (es.map EnumEntry.toJson)) n.enumItems
  ++ optionalMember "enumItemDataTypeName" .string n.enumDataType
  ++ if n.examples.isEmpty then [] else [("examples", .array n.examples)]

/-- The members of a reference are written in the order of its fields. -/
theorem names_toMembers (n : RefNode) :
    (n.toMembers.map Prod.fst).Sublist (fields.map (·.name)) := by
  have hexamples : ((if n.examples.isEmpty then []
      else [("examples", Json.array n.examples)]).map Prod.fst).Sublist ["examples"] := by
    split
    · exact List.nil_sublist _
    · exact .refl _
  unfold toMembers
  simp only [List.map_append]
  exact (((List.Sublist.refl _).append (names_optionalMember _ _)).append
    (names_optionalMember _ _)).append hexamples

/-- A reference is read back when its count fits and its items can be read. -/
theorem decode_toJson {n : RefNode} (h : n.IsReadable) : decode n.toJson = .ok n := by
  have hsystem : get Decoder.string "system" n.toMembers = .ok n.system := rfl
  have hname : get Decoder.string "name" n.toMembers = .ok n.name := rfl
  have htarget : get Decoder.string "refTypeName" n.toMembers = .ok n.target := rfl
  have hcount : get Decoder.nat64 "refTypeArrayCount" n.toMembers = .ok n.arrayCount :=
    get_of_lookup Json.ofNat rfl (Decoder.readsBack_nat64 h.count)
  have hscalar : get Decoder.bool "isScalarRef" n.toMembers = .ok n.isScalar := rfl
  have henum : get Decoder.bool "isEnumRef" n.toMembers = .ok n.isEnum := rfl
  have hroot : get Decoder.bool "isRootType" n.toMembers = .ok n.isRoot := rfl
  have hitems : get? (Decoder.list EnumEntry.decode) "enumItems" n.toMembers = .ok n.enumItems := by
    refine get?_of_lookup (fun es => .array (es.map EnumEntry.toJson)) ?_ fun es hes =>
      Decoder.readsBack_list fun e he => EnumEntry.decode_toJson (h.items es hes e he)
    simp only [toMembers, List.lookup_append, lookup_member]
    cases n.examples.isEmpty <;> simp [lookup_member]
  have hdata : get? Decoder.string "enumItemDataTypeName" n.toMembers = .ok n.enumDataType := by
    refine get?_string_of_lookup ?_
    simp only [toMembers, List.lookup_append, lookup_member]
    cases n.examples.isEmpty <;> simp [lookup_member]
  have hexamples : getOr [] (Decoder.list Decoder.any) "examples" n.toMembers
      = .ok n.examples := by
    refine getOr_of_lookup Json.array ?_ ⟨nofun, ?_⟩
    · simp only [toMembers, List.lookup_append, lookup_member]
      cases n.examples.isEmpty <;> simp
    · -- Each example is read as it stands, `null` among them.
      exact mapM_eq_ok.2 (List.forall₂_same.2 fun _ _ => rfl)
  have hfits : ∀ f ∈ fields, Fits n.toMembers f := by
    simp only [fields, List.forall_mem_cons]
    exact ⟨fits_of_get hsystem, fits_of_get hname, fits_of_get htarget, fits_of_get hcount,
      fits_of_get hscalar, fits_of_get henum, fits_of_get hroot, fits_of_get? hitems,
      fits_of_get? hdata, fits_of_getOr hexamples, List.forall_mem_nil _⟩
  exact bind_eq_ok.2 ⟨_, members_of_fits _ (n.names_toMembers.nodup (by decide)) hfits,
    bind_eq_ok.2 ⟨_, hsystem, bind_eq_ok.2 ⟨_, hname, bind_eq_ok.2 ⟨_, htarget,
      bind_eq_ok.2 ⟨_, hcount, bind_eq_ok.2 ⟨_, hscalar, bind_eq_ok.2 ⟨_, henum,
        bind_eq_ok.2 ⟨_, hroot, bind_eq_ok.2 ⟨_, hitems, bind_eq_ok.2 ⟨_, hdata,
          bind_eq_ok.2 ⟨_, hexamples, rfl⟩⟩⟩⟩⟩⟩⟩⟩⟩⟩⟩

/-- A reference that was read can be read. -/
theorem isReadable_of_decode {x : Json} {n : RefNode} (h : decode x = .ok n) : n.IsReadable := by
  obtain ⟨ms, -, h⟩ := bind_eq_ok.1 h
  obtain ⟨system, -, h⟩ := bind_eq_ok.1 h
  obtain ⟨name, -, h⟩ := bind_eq_ok.1 h
  obtain ⟨target, -, h⟩ := bind_eq_ok.1 h
  obtain ⟨count, hcount, h⟩ := bind_eq_ok.1 h
  obtain ⟨isScalar, -, h⟩ := bind_eq_ok.1 h
  obtain ⟨isEnum, -, h⟩ := bind_eq_ok.1 h
  obtain ⟨isRoot, -, h⟩ := bind_eq_ok.1 h
  obtain ⟨items, hitems, h⟩ := bind_eq_ok.1 h
  obtain ⟨dataType, -, h⟩ := bind_eq_ok.1 h
  obtain ⟨examples, -, h⟩ := bind_eq_ok.1 h
  cases h
  obtain ⟨v, -, hv⟩ := lookup_of_get hcount
  refine ⟨Shape.fitsNat64_of_nat64 hv, fun es hes e he => ?_⟩
  obtain rfl : items = some es := hes
  obtain ⟨w, -, hw⟩ := lookup_of_get? hitems
  cases w with
  | array xs =>
      obtain ⟨x, -, hx⟩ := exists_of_mem_forall₂ (mapM_eq_ok.1 hw) he
      exact EnumEntry.isReadable_of_decode hx
  | _ => cases hw

end RefNode

namespace ObjectProperty

def toMembers (p : ObjectProperty) : List (String × Json) :=
  [("propertyName", .string p.name)]
  ++ optionalMember "documentation" .string p.documentation
  ++ [("refTypeName", .string p.target), ("isRequired", .bool p.isRequired)]

/-- The members of a property are written in the order of its fields. -/
theorem names_toMembers (p : ObjectProperty) :
    (p.toMembers.map Prod.fst).Sublist (fields.map (·.name)) := by
  unfold toMembers
  simp only [List.map_append]
  exact ((List.Sublist.refl _).append (names_optionalMember _ _)).append (List.Sublist.refl _)

/-- A property is read back. -/
theorem decode_toJson (p : ObjectProperty) : decode p.toJson = .ok p := by
  have hname : get Decoder.string "propertyName" p.toMembers = .ok p.name := rfl
  have hdocumentation : get? Decoder.string "documentation" p.toMembers = .ok p.documentation :=
    get?_string_of_lookup (by simp [toMembers, List.lookup_append, lookup_member])
  have htarget : get Decoder.string "refTypeName" p.toMembers = .ok p.target :=
    get_of_lookup Json.string (by simp [toMembers, List.lookup_append, lookup_member])
      (Decoder.readsBack_string _)
  have hrequired : get Decoder.bool "isRequired" p.toMembers = .ok p.isRequired :=
    get_of_lookup Json.bool (by simp [toMembers, List.lookup_append, lookup_member])
      (Decoder.readsBack_bool _)
  have hfits : ∀ f ∈ fields, Fits p.toMembers f := by
    simp only [fields, List.forall_mem_cons]
    exact ⟨fits_of_get hname, fits_of_get? hdocumentation, fits_of_get htarget,
      fits_of_get hrequired, List.forall_mem_nil _⟩
  exact bind_eq_ok.2 ⟨_, members_of_fits _ (p.names_toMembers.nodup (by decide)) hfits,
    bind_eq_ok.2 ⟨_, hname, bind_eq_ok.2 ⟨_, hdocumentation, bind_eq_ok.2 ⟨_, htarget,
      bind_eq_ok.2 ⟨_, hrequired, rfl⟩⟩⟩⟩⟩

end ObjectProperty

namespace ObjectNode

/-- Whether an object can be read: the count is a word of 64 bits. -/
def IsReadable (n : ObjectNode) : Prop := Number.fitsNat64 n.arrayCount = true

def toMembers (n : ObjectNode) : List (String × Json) :=
  [("system", .string n.system), ("name", .string n.name)]
  ++ optionalMember "documentation" .string n.documentation
  ++ [("objectTypeArrayCount", .ofNat n.arrayCount), ("isRootType", .bool n.isRoot),
      ("properties", .array (n.properties.map ObjectProperty.toJson))]

/-- The members of an object are written in the order of its fields. -/
theorem names_toMembers (n : ObjectNode) :
    (n.toMembers.map Prod.fst).Sublist (fields.map (·.name)) := by
  unfold toMembers
  simp only [List.map_append]
  exact ((List.Sublist.refl _).append (names_optionalMember _ _)).append (List.Sublist.refl _)

/-- An object is read back when its count fits. -/
theorem decode_toJson {n : ObjectNode} (h : n.IsReadable) : decode n.toJson = .ok n := by
  have hsystem : get Decoder.string "system" n.toMembers = .ok n.system := rfl
  have hname : get Decoder.string "name" n.toMembers = .ok n.name := rfl
  have hdocumentation : get? Decoder.string "documentation" n.toMembers = .ok n.documentation :=
    get?_string_of_lookup (by simp [toMembers, List.lookup_append, lookup_member])
  have hcount : get Decoder.nat64 "objectTypeArrayCount" n.toMembers = .ok n.arrayCount :=
    get_of_lookup Json.ofNat (by simp [toMembers, List.lookup_append, lookup_member])
      (Decoder.readsBack_nat64 h)
  have hroot : get Decoder.bool "isRootType" n.toMembers = .ok n.isRoot :=
    get_of_lookup Json.bool (by simp [toMembers, List.lookup_append, lookup_member])
      (Decoder.readsBack_bool _)
  have hproperties : get (Decoder.list ObjectProperty.decode) "properties" n.toMembers
      = .ok n.properties :=
    get_of_lookup (fun ps => .array (ps.map ObjectProperty.toJson))
      (by simp [toMembers, List.lookup_append, lookup_member])
      (Decoder.readsBack_list fun p _ => p.decode_toJson)
  have hfits : ∀ f ∈ fields, Fits n.toMembers f := by
    simp only [fields, List.forall_mem_cons]
    exact ⟨fits_of_get hsystem, fits_of_get hname, fits_of_get? hdocumentation,
      fits_of_get hcount, fits_of_get hroot, fits_of_get hproperties, List.forall_mem_nil _⟩
  exact bind_eq_ok.2 ⟨_, members_of_fits _ (n.names_toMembers.nodup (by decide)) hfits,
    bind_eq_ok.2 ⟨_, hsystem, bind_eq_ok.2 ⟨_, hname, bind_eq_ok.2 ⟨_, hdocumentation,
      bind_eq_ok.2 ⟨_, hcount, bind_eq_ok.2 ⟨_, hroot, bind_eq_ok.2 ⟨_, hproperties, rfl⟩⟩⟩⟩⟩⟩⟩

/-- An object that was read can be read. -/
theorem isReadable_of_decode {x : Json} {n : ObjectNode} (h : decode x = .ok n) :
    n.IsReadable := by
  obtain ⟨ms, -, h⟩ := bind_eq_ok.1 h
  obtain ⟨system, -, h⟩ := bind_eq_ok.1 h
  obtain ⟨name, -, h⟩ := bind_eq_ok.1 h
  obtain ⟨documentation, -, h⟩ := bind_eq_ok.1 h
  obtain ⟨count, hcount, h⟩ := bind_eq_ok.1 h
  obtain ⟨isRoot, -, h⟩ := bind_eq_ok.1 h
  obtain ⟨properties, -, h⟩ := bind_eq_ok.1 h
  cases h
  obtain ⟨v, -, hv⟩ := lookup_of_get hcount
  exact Shape.fitsNat64_of_nat64 hv

end ObjectNode

/-! ## Maps -/

/-- Whether a node can be read. -/
def Node.IsReadable : Node → Prop
  | .ref n => n.IsReadable
  | .object n => n.IsReadable

namespace TypeMap

/-- Whether the nodes of a map can be read. -/
def IsReadable (m : TypeMap) : Prop := ∀ n, m.Has n → n.IsReadable

/-- A map is read back when its nodes can be read. -/
theorem decode_toJson {m : TypeMap} (h : m.IsReadable) : decode m.toJson = .ok m := by
  let ms := [("objectTypes", Json.array (m.objects.map ObjectNode.toJson)),
    ("refTypes", Json.array (m.refs.map RefNode.toJson))]
  have hobjects : get (Decoder.list ObjectNode.decode) "objectTypes" ms = .ok m.objects :=
    get_of_lookup (fun ns => .array (ns.map ObjectNode.toJson)) rfl
      (Decoder.readsBack_list fun n hn => ObjectNode.decode_toJson (h (.object n) hn))
  have hrefs : get (Decoder.list RefNode.decode) "refTypes" ms = .ok m.refs :=
    get_of_lookup (fun ns => .array (ns.map RefNode.toJson)) rfl
      (Decoder.readsBack_list fun n hn => RefNode.decode_toJson (h (.ref n) hn))
  have hfits : ∀ f ∈ fields, Fits ms f := by
    simp only [fields, List.forall_mem_cons]
    exact ⟨fits_of_get hobjects, fits_of_get hrefs, List.forall_mem_nil _⟩
  have hnodup : (ms.map Prod.fst).Nodup := by
    show ["objectTypes", "refTypes"].Nodup
    decide
  exact bind_eq_ok.2 ⟨_, members_of_fits _ hnodup hfits,
    bind_eq_ok.2 ⟨_, hobjects, bind_eq_ok.2 ⟨_, hrefs, rfl⟩⟩⟩

/-- A map that was read can be read. -/
theorem isReadable_of_decode {v : Json} {m : TypeMap} (h : decode v = .ok m) : m.IsReadable := by
  obtain ⟨ms, -, h⟩ := bind_eq_ok.1 h
  obtain ⟨objects, hobjects, h⟩ := bind_eq_ok.1 h
  obtain ⟨refs, hrefs, h⟩ := bind_eq_ok.1 h
  cases h
  obtain ⟨xs, -, hxs⟩ := lookup_of_get_list hobjects
  obtain ⟨ys, -, hys⟩ := lookup_of_get_list hrefs
  intro n hn
  cases n with
  | ref n =>
      obtain ⟨y, -, hy⟩ := exists_of_mem_forall₂ hys hn
      exact RefNode.isReadable_of_decode hy
  | object n =>
      obtain ⟨x, -, hx⟩ := exists_of_mem_forall₂ hxs hn
      exact ObjectNode.isReadable_of_decode hx

end TypeMap

end TypeCatalog
