import TypeCatalog.Proofs.Definition.Filling
import TypeCatalog.Proofs.Definition.Notes
import TypeCatalog.Proofs.Definition.Soundness
import TypeCatalog.Proofs.Definition.Written

/-!
# Definitions with every default made explicit

A definition that a batch keeps has its defaults, and a batch takes what is written of it as it
takes any other value. `exists_normal_definition` says that nothing comes of it: what is written
breaks no rule, is read into the same definition, has no default left to fill, and lacks the same
documentation as the value that was read first.

The check of what was written goes the other way than the proofs about soundness do. There the
members are at hand and the definition is read of them; here each member is what was written of a
field, and the rule about it holds since the definition is sound.
-/

set_option autoImplicit false

namespace TypeCatalog

open Result TypeCatalog.Field

namespace Shape

variable {ms : List (String × Json)}

/-! ## Members that were written -/

/-- A value that was written of a field is not misused, when the check accepts whatever is written.
-/
theorem misused_map {α : Type} {accepts : Json → Bool} {encode : α → Json} {o : Option α}
    (h : ∀ a ∈ o, accepts (encode a) = true) : misused accepts (o.map encode) = false := by
  cases o with
  | none => rfl
  | some a =>
      show (!accepts (encode a)) = false
      rw [h a rfl, Bool.not_true]

/-- A list of names that was written is read as these names. -/
theorem strings?_ofStrings (names : List String) :
    strings? (.ofStrings names) = some names := by
  show (names.map Json.string).mapM Json.string? = some names
  induction names with
  | nil => rfl
  | cons name names ih =>
      rw [List.map_cons, List.mapM_cons, ih]
      rfl

/-- There are no unknown fields when the names of the members are some of the known ones, in their
order. -/
theorem unknownFields_of_sublist {rule : Rule} {pathTo : String → String} {fields : List String}
    {suffix : String} (h : (ms.map Prod.fst).Sublist fields) :
    unknownFields rule pathTo fields suffix ms = [] :=
  unknownFields_eq_nil.2 fun _ hm => h.subset (List.mem_map_of_mem hm)

/-- What `Example.toJson` writes breaks no rule. -/
theorem checkExample_toJson (path : String) (e : Example) :
    checkExample false path e.toJson = [] := by
  have hsummary : e.toMembers.lookup "summary" = e.summary.map .string := by
    simp [Example.toMembers, lookup_member]
  show checkExample false path (.object e.toMembers) = []
  unfold checkExample
  simp only [List.append_eq_nil_iff, when_eq_nil]
  refine ⟨⟨⟨rfl, ?_⟩, unknownFields_of_sublist e.names_toMembers⟩, rfl⟩
  rw [hsummary]
  exact misused_map fun s _ => rfl

/-- Nor does a list of examples. Where it is required it has to be there. -/
theorem checkExamples_of_lookup {isRequired : Bool} {field : String} {o : Option (List Example)}
    (hms : ms.lookup field = o.map Example.listToJson) (h : isRequired = true → o.isSome) :
    checkExamples false isRequired field ms = [] := by
  unfold checkExamples
  rw [hms]
  cases o with
  | none =>
      refine when_eq_nil.2 (Bool.eq_false_iff.2 fun hrequired => ?_)
      cases h hrequired
  | some es =>
      refine List.flatMap_eq_nil_iff.2 fun entry hentry => ?_
      obtain ⟨e, -, he⟩ := List.mem_map.1 (List.fst_mem_of_mem_zipIdx hentry)
      dsimp only
      rw [← he]
      exact checkExample_toJson _ e

/-- Nor do cases, both lists of which may be missing. -/
theorem checkTestCases_of_lookup {c : TestCases}
    (hms : ∀ name ∈ TestCases.fields.map (·.name), ms.lookup name = c.toMembers.lookup name) :
    checkTestCases false ms = [] := by
  have hvalid : ms.lookup "validTestCases" = c.valid.map Example.listToJson := by
    rw [hms _ (by decide)]
    simp [TestCases.toMembers, List.lookup_append]
  have hinvalid : ms.lookup "invalidTestCases" = c.invalid.map Example.listToJson := by
    rw [hms _ (by decide)]
    simp [TestCases.toMembers, List.lookup_append]
  exact List.append_eq_nil_iff.2
    ⟨checkExamples_of_lookup hvalid Bool.noConfusion,
      checkExamples_of_lookup hinvalid Bool.noConfusion⟩

/-! ## Headers -/

/-- A text that is an identifier passes the check of a name. -/
theorem checkIdentifier_of_lookup {rule : Rule} {field title s : String}
    (hms : ms.lookup field = some (.string s)) (h : Name.isIdentifier s = true) :
    checkIdentifier rule field title ms = [] := by
  unfold checkIdentifier
  rw [hms, Option.bind_some, Json.string?]
  exact when_eq_nil.2 (by rw [h, Bool.not_true])

/-- Members that hold what `Header.toMembers` writes pass the check of the header. -/
theorem checkHeader_of_lookup {header : Header}
    (hms : ∀ name ∈ Header.fields.map (·.name), ms.lookup name = header.toMembers.lookup name)
    (hsystem : Name.isIdentifier header.system = true)
    (hname : Name.isIdentifier header.name = true) : checkHeader false ms = [] := by
  have hstring {name : String} {o : Option String} (hname : ms.lookup name = o.map .string) :
      misused Json.isString (ms.lookup name) = false := by
    rw [hname]
    exact misused_map fun s _ => rfl
  have hstrings {name : String} {o : Option (List String)}
      (hname : ms.lookup name = o.map .ofStrings) :
      misused (fun v => (strings? v).isSome) (ms.lookup name) = false := by
    rw [hname]
    exact misused_map fun names _ => by rw [strings?_ofStrings, Option.isSome_some]
  -- What the check looks up under each name is what was written for the field.
  have htitle : ms.lookup "title" = header.title.map .string := by
    rw [hms _ (by decide)]
    simp [Header.toMembers, List.lookup_append, lookup_member]
  have hsummary : ms.lookup "summary" = header.summary.map .string := by
    rw [hms _ (by decide)]
    simp [Header.toMembers, List.lookup_append, lookup_member]
  have hdeprecated : ms.lookup "deprecated" = header.deprecated.map .string := by
    rw [hms _ (by decide)]
    simp [Header.toMembers, List.lookup_append, lookup_member]
  have htags : ms.lookup "tags" = header.tags.map .ofStrings := by
    rw [hms _ (by decide)]
    simp [Header.toMembers, List.lookup_append, lookup_member]
  have hlabels : ms.lookup "labels" = header.labels.map .ofStrings := by
    rw [hms _ (by decide)]
    simp [Header.toMembers, List.lookup_append, lookup_member]
  have hexamples : ms.lookup "examples" = header.examples.map Example.listToJson := by
    rw [hms _ (by decide)]
    simp [Header.toMembers, List.lookup_append, lookup_member]
  unfold checkHeader
  simp only [List.append_eq_nil_iff, List.flatMap_eq_nil_iff, List.forall_mem_cons, when_eq_nil]
  exact ⟨⟨⟨⟨⟨⟨checkIdentifier_of_lookup (hms _ (by decide)) hsystem,
    checkIdentifier_of_lookup (hms _ (by decide)) hname⟩,
    hstring htitle, hstring hsummary, List.forall_mem_nil _⟩, rfl⟩, hstring hdeprecated⟩,
    hstrings htags, hstrings hlabels, List.forall_mem_nil _⟩,
    checkExamples_of_lookup hexamples nofun⟩

/-! ## Numbers and texts -/

/-- A member that can be read passes the check that it has the right type. -/
theorem checkTyped_of_read {α : Type} {as : Json → Option α} {field expected : String} {a : α}
    (h : read as field ms = some a) : checkTyped as field expected ms = [] :=
  when_eq_nil.2 (by rw [h, Option.isNone_some])

/-- An integer that fits is read again. -/
theorem int64?_integer {n : Int} (h : Number.fitsInt64 n = true) :
    Json.int64? (.number (.integer n)) = some n :=
  if_pos h

/-- A count that fits into 64 bits is read back. -/
theorem nat64?_ofNat {n : Nat} (h : Number.fitsNat64 n = true) :
    Json.nat64? (.ofNat n) = some n := by
  show (if Number.fitsNat64 n then some (n : Int).toNat else none) = some n
  rw [if_pos h, Int.toNat_natCast]

/-- The bounds of a sound int pass: both are whole numbers, in their order. -/
theorem checkInt_of_isWrittenIn {b : IntBody} (hb : b.minimum ≤ b.maximum)
    (hreadable : (Body.int b).IsReadable) (h : (Body.int b).IsWrittenIn ms) :
    checkInt ms = [] := by
  have hms : ∀ name ∈ (Body.fields .int).map (·.name), _ = _ := h
  have hminimum : read Json.int64? "minimum" ms = some b.minimum := by
    rw [read, hms _ (by decide)]
    exact int64?_integer hreadable.1
  have hmaximum : read Json.int64? "maximum" ms = some b.maximum := by
    rw [read, hms _ (by decide)]
    exact int64?_integer hreadable.2
  unfold checkInt
  simp only [List.append_eq_nil_iff]
  refine ⟨⟨checkTyped_of_read hminimum, checkTyped_of_read hmaximum⟩, ?_⟩
  rw [hminimum, hmaximum]
  exact if_neg (Int.not_lt.2 hb)

/-- The range of a sound float is not empty, whether its bounds count or not. -/
theorem isEmptyRange_of_sound {b : FloatBody} (hb : b.Sound) :
    isEmptyRange b.minimum b.maximum
      (b.isMinimumExclusive.getD false || b.isMaximumExclusive.getD false) = false := by
  unfold isEmptyRange
  rw [Bool.or_eq_false_iff, decide_eq_false_iff_not]
  rcases hb with hlt | ⟨heq, hlow, hhigh⟩
  · refine ⟨Std.not_gt_of_lt hlt, ?_⟩
    rw [decide_eq_false (Std.ne_of_lt hlt), Bool.false_and]
  · refine ⟨heq ▸ Std.lt_irrefl, ?_⟩
    rw [hlow, hhigh, Bool.or_false, Bool.and_false]

/-- The bounds of a sound float pass, and so do the marks beside them. -/
theorem checkFloat_of_isWrittenIn {b : FloatBody} (hb : b.Sound)
    (h : (Body.float b).IsWrittenIn ms) : checkFloat ms = [] := by
  have hms : ∀ name ∈ (Body.fields .float).map (·.name), _ = _ := h
  -- Each field is read back as it was written, and the range that the check looks at is that of the
  -- body.
  have hminimum : read Json.binary64? "minimum" ms = some b.minimum := by
    rw [read, hms _ (by decide)]
    rfl
  have hmaximum : read Json.binary64? "maximum" ms = some b.maximum := by
    rw [read, hms _ (by decide)]
    rfl
  have hlow : ms.lookup "isMinimumExclusive" = b.isMinimumExclusive.map .bool := by
    rw [hms _ (by decide)]
    simp [Body.toMembers, TestCases.toMembers, List.lookup_append, lookup_member]
  have hhigh : ms.lookup "isMaximumExclusive" = b.isMaximumExclusive.map .bool := by
    rw [hms _ (by decide)]
    simp [Body.toMembers, TestCases.toMembers, List.lookup_append, lookup_member]
  have hread {name : String} {o : Option Bool} (hname : ms.lookup name = o.map .bool) :
      read Json.bool? name ms = o := by
    rw [read, hname]
    cases o <;> rfl
  unfold checkFloat
  simp only [List.append_eq_nil_iff, List.flatMap_eq_nil_iff, List.forall_mem_cons, when_eq_nil]
  refine ⟨⟨⟨checkTyped_of_read hminimum, checkTyped_of_read hmaximum⟩, ?_, ?_,
    List.forall_mem_nil _⟩, ?_⟩
  · rw [hlow]
    exact misused_map fun x _ => rfl
  · rw [hhigh]
    exact misused_map fun x _ => rfl
  · rw [hminimum, hmaximum]
    simp only [List.any_cons, List.any_nil, Bool.or_false, hread hlow, hread hhigh,
      isEmptyRange_of_sound hb]
    rfl

/-- The bounds of the length of a sound string pass, and so does its pattern. -/
theorem checkString_of_isWrittenIn {b : StringBody} (hb : b.Sound)
    (hreadable : (Body.string b).IsReadable) (h : (Body.string b).IsWrittenIn ms) :
    checkString ms = [] := by
  have hms : ∀ name ∈ (Body.fields .string).map (·.name), _ = _ := h
  have hregex : ms.lookup "regex" = b.regex.map .string := by
    rw [hms _ (by decide)]
    simp [Body.toMembers, TestCases.toMembers, List.lookup_append, lookup_member]
  have hminimum : ms.lookup "minimumLength" = b.minimumLength.map .ofNat := by
    rw [hms _ (by decide)]
    simp [Body.toMembers, TestCases.toMembers, List.lookup_append, lookup_member]
  have hmaximum : ms.lookup "maximumLength" = some (.ofNat b.maximumLength) := by
    rw [hms _ (by decide)]
    simp [Body.toMembers, TestCases.toMembers, List.lookup_append]
  -- The lengths were read from 64 bits, so they are read back.
  have hminimumRead : read Json.nat64? "minimumLength" ms = b.minimumLength := by
    rw [read, hminimum]
    cases hlength : b.minimumLength with
    | none => rfl
    | some n =>
        rw [Option.map_some, Option.bind_some]
        exact nat64?_ofNat (hreadable.minimum n hlength)
  have hmaximumRead : read Json.nat64? "maximumLength" ms = some b.maximumLength := by
    rw [read, hmaximum, Option.bind_some]
    exact nat64?_ofNat hreadable.maximum
  unfold checkString
  simp only [List.append_eq_nil_iff, when_eq_nil]
  refine ⟨⟨⟨checkTyped_of_read hmaximumRead, ?_⟩, ?_⟩, ?_⟩
  · rw [hminimum]
    exact misused_map fun n hn => by rw [nat64?_ofNat (hreadable.minimum n hn), Option.isSome_some]
  · rw [hminimumRead, hmaximumRead]
    -- Without a lower bound nothing is compared.
    cases hlength : b.minimumLength with
    | none => rfl
    | some n => exact when_eq_nil.2 (decide_eq_false (Nat.not_lt.2 (hb.bounds n hlength)))
  · unfold checkRegex
    rw [hregex]
    cases hpattern : b.regex with
    | none => rfl
    | some pattern =>
        obtain ⟨r, hr⟩ := hb.regex pattern hpattern
        dsimp only [Option.map_some]
        rw [hr]

/-! ## Enums -/

/-- The value of an item that is not empty is read back. -/
theorem itemValue?_toJson {item : EnumItem} (h : item.value ≠ "") :
    itemValue? item.toJson = some item.value := by
  have hempty : item.value.isEmpty = false := by
    rw [Bool.eq_false_iff]
    exact fun hempty => h (String.isEmpty_iff.1 hempty)
  show (if item.value.isEmpty then none else some item.value) = _
  rw [hempty]
  rfl

/-- The members of an item that was written are the known ones, of the right types. -/
theorem checkItemFields_toMembers (i : Nat) (item : EnumItem) :
    checkItemFields false i item.toMembers = [] := by
  have hstring {name : String} {o : Option String}
      (hname : item.toMembers.lookup name = o.map .string) :
      misused Json.isString (item.toMembers.lookup name) = false := by
    rw [hname]
    exact misused_map fun s _ => rfl
  have hsymbol : item.toMembers.lookup "symbol" = item.symbol.map .string := by
    simp [EnumItem.toMembers, List.lookup_append, lookup_member]
  have hdeprecated : item.toMembers.lookup "deprecated" = item.deprecated.map .string := by
    simp [EnumItem.toMembers, List.lookup_append, lookup_member]
  have hsummary : item.toMembers.lookup "summary" = item.summary.map .string := by
    simp [EnumItem.toMembers, List.lookup_append, lookup_member]
  unfold checkItemFields
  simp only [List.append_eq_nil_iff, List.flatMap_eq_nil_iff, List.forall_mem_cons, when_eq_nil]
  exact ⟨⟨⟨rfl, hstring hsymbol, hstring hdeprecated, hstring hsummary, List.forall_mem_nil _⟩,
    unknownFields_of_sublist item.names_toMembers⟩, rfl⟩

/-- The items of a list pass when their values differ, from each other and from those seen before
the list. -/
theorem checkItems_toJson {i : Nat} {seen : List (String × Nat)} {items : List EnumItem}
    (hvalue : ∀ item ∈ items, item.value ≠ "") (hnodup : (items.map (·.value)).Nodup)
    (hseen : ∀ item ∈ items, seen.lookup item.value = none) :
    checkItems false i seen (items.map EnumItem.toJson) = [] := by
  induction items generalizing i seen with
  | nil => rfl
  | cons item items ih =>
      obtain ⟨hvalueItem, hvalue⟩ := List.forall_mem_cons.1 hvalue
      obtain ⟨hseenItem, hseen⟩ := List.forall_mem_cons.1 hseen
      obtain ⟨hnew, hnodup⟩ := List.nodup_cons.1 hnodup
      have hread : itemValue? (.object item.toMembers) = some item.value :=
        itemValue?_toJson hvalueItem
      -- The values that follow differ from this one, so the table of those seen before may take it
      -- in.
      have hrest : ∀ other ∈ items, ((item.value, i) :: seen).lookup other.value = none := by
        intro other hother
        have hne : other.value ≠ item.value :=
          fun heq => hnew (List.mem_map.2 ⟨other, hother, heq⟩)
        rw [List.lookup_cons, beq_false_of_ne hne]
        exact hseen other hother
      show checkItems false i seen (.object item.toMembers :: items.map EnumItem.toJson) = []
      rw [checkItems, checkItemFields_toMembers, hread, ih hvalue hnodup hrest]
      unfold checkItemValue
      rw [hread, List.append_nil, List.append_nil]
      dsimp only
      rw [hseenItem]

/-- The items of a sound enum pass. -/
theorem checkEnum_of_isWrittenIn {b : EnumBody} (hb : b.Sound)
    (h : (Body.enum b).IsWrittenIn ms) : checkEnum false ms = [] := by
  have hms : ∀ name ∈ (Body.fields .enum).map (·.name), _ = _ := h
  have hdata : ms.lookup "dataType" = b.dataType.map .string := by
    rw [hms _ (by decide)]
    simp [Body.toMembers, lookup_member]
  have hitems : ms.lookup "items" = some (.array (b.items.map EnumItem.toJson)) :=
    hms _ (by decide)
  unfold checkEnum
  refine List.append_eq_nil_iff.2 ⟨?_, ?_⟩
  · rw [when_eq_nil, hdata]
    exact misused_map fun reference hreference => hb.dataType reference hreference
  · rw [hitems]
    refine List.append_eq_nil_iff.2 ⟨when_eq_nil.2 ?_, checkItems_toJson hb.value hb.values ?_⟩
    · rw [List.isEmpty_map, List.isEmpty_eq_false_iff]
      exact hb.items
    · exact fun item _ => rfl

/-! ## Records -/

/-- The members of a property that was written pass, when its type is a reference in form. -/
theorem checkPropertyFields_toMembers (i : Nat) {p : Property}
    (h : Name.isReference p.propertyType = true) :
    checkPropertyFields false i p.toMembers = [] := by
  -- A mark is written as a truth value or not at all.
  have hflag {name : String} {o : Option Bool} (hname : p.toMembers.lookup name = o.map .bool) :
      misused Json.isBool (p.toMembers.lookup name) = false := by
    rw [hname]
    exact misused_map fun x _ => rfl
  have htype : p.toMembers.lookup "propertyType" = some (.string p.propertyType) := by
    simp [Property.toMembers, List.lookup_append, lookup_member]
  have harray : p.toMembers.lookup "isArray" = p.isArray.map .bool := by
    simp [Property.toMembers, List.lookup_append, lookup_member]
  have hrequired : p.toMembers.lookup "isRequired" = p.isRequired.map .bool := by
    simp [Property.toMembers, List.lookup_append, lookup_member]
  have hsummary : p.toMembers.lookup "summary" = p.summary.map .string := by
    simp [Property.toMembers, List.lookup_append, lookup_member]
  unfold checkPropertyFields
  simp only [List.append_eq_nil_iff, List.flatMap_eq_nil_iff, List.forall_mem_cons, when_eq_nil]
  refine ⟨⟨⟨⟨?_, hflag harray, hflag hrequired, List.forall_mem_nil _⟩, ?_⟩,
    unknownFields_of_sublist p.names_toMembers⟩, rfl⟩
  · rw [htype, Option.bind_some, Json.string?, Option.any_some, h, Bool.not_true]
  · rw [hsummary]
    exact misused_map fun s _ => rfl

/-- The properties of a list pass when their names differ, from each other and from those declared
before the list. -/
theorem checkPropertyList_toJson {i : Nat} {declared : List String} {ps : List Property}
    (hidentifier : ∀ p ∈ ps, Name.isIdentifier p.name = true)
    (hreference : ∀ p ∈ ps, Name.isReference p.propertyType = true)
    (hnodup : (ps.map (·.name)).Nodup) (hnew : ∀ p ∈ ps, p.name ∉ declared) :
    checkPropertyList false i declared (ps.map Property.toJson) = [] := by
  induction ps generalizing i declared with
  | nil => rfl
  | cons p ps ih =>
      obtain ⟨hid, hidentifier⟩ := List.forall_mem_cons.1 hidentifier
      obtain ⟨href, hreference⟩ := List.forall_mem_cons.1 hreference
      obtain ⟨hnewName, hnew⟩ := List.forall_mem_cons.1 hnew
      obtain ⟨hne, hnodup⟩ := List.nodup_cons.1 hnodup
      have hname : p.toMembers.lookup "name" = some (.string p.name) := rfl
      -- The names that follow differ from this one, so it may count as declared before them.
      have hrest : ∀ q ∈ ps, q.name ∉ [p.name] ++ declared := by
        intro q hq hmem
        rcases List.mem_cons.1 hmem with heq | hmem
        · exact hne (List.mem_map.2 ⟨q, hq, heq⟩)
        · exact hnew q hq hmem
      show checkPropertyList false i declared (.object p.toMembers :: ps.map Property.toJson) = []
      rw [checkPropertyList, checkPropertyFields_toMembers i href, declaredName?_object hname hid]
      dsimp only [Option.toList]
      rw [ih hidentifier hreference hnodup hrest, List.append_nil, List.append_nil]
      unfold checkPropertyName
      rw [hname, Option.bind_some, Json.string?]
      dsimp only
      rw [if_pos hid, if_neg (by simpa using hnewName)]

/-- The members of a variant that was written pass, when its lists hold declared names and it either
includes or excludes some. -/
theorem checkVariantFields_toMembers (i : Nat) {declared : List String} {v : Variant}
    (hlisted : ∀ list ∈ [v.required, v.includeProperties, v.excludeProperties],
      ∀ names ∈ list, ∀ name ∈ names, name ∈ declared)
    (hselection : v.includeProperties.isSome ≠ v.excludeProperties.isSome) :
    checkVariantFields false i declared v.toMembers = [] := by
  have hrequired : v.toMembers.lookup "required" = v.required.map .ofStrings := by
    simp [Variant.toMembers, List.lookup_append, lookup_member]
  have hincluded : v.toMembers.lookup "includeProperties"
      = v.includeProperties.map .ofStrings := by
    simp [Variant.toMembers, List.lookup_append, lookup_member]
  have hexcluded : v.toMembers.lookup "excludeProperties"
      = v.excludeProperties.map .ofStrings := by
    simp [Variant.toMembers, List.lookup_append, lookup_member]
  have hsummary : v.toMembers.lookup "summary" = v.summary.map .string := by
    simp [Variant.toMembers, List.lookup_append, lookup_member]
  simp only [List.forall_mem_cons] at hlisted
  obtain ⟨hlistedRequired, hlistedIncluded, hlistedExcluded, -⟩ := hlisted
  -- The three lists are checked in one way.
  have hlist : ∀ k ∈ ["includeProperties", "excludeProperties", "required"],
      ∃ o : Option (List String), v.toMembers.lookup k = o.map .ofStrings
        ∧ ∀ names ∈ o, ∀ name ∈ names, name ∈ declared := by
    simp only [List.forall_mem_cons]
    exact ⟨⟨_, hincluded, hlistedIncluded⟩, ⟨_, hexcluded, hlistedExcluded⟩,
      ⟨_, hrequired, hlistedRequired⟩, List.forall_mem_nil _⟩
  unfold checkVariantFields
  simp only [List.append_eq_nil_iff, List.flatMap_eq_nil_iff, when_eq_nil, hincluded, hexcluded]
  refine ⟨⟨⟨⟨?_, fun k hk => ?_⟩, ?_⟩, unknownFields_of_sublist v.names_toMembers⟩, rfl⟩
  · rw [Option.isSome_map, Option.isSome_map]
    exact beq_false_of_ne hselection
  · obtain ⟨o, hlookup, ho⟩ := hlist k hk
    rw [hlookup]
    cases o with
    | none => rfl
    | some names =>
        dsimp only [Option.map_some]
        rw [strings?_ofStrings]
        exact undeclared_eq_nil.2 (ho names rfl)
  · rw [hsummary]
    exact misused_map fun s _ => rfl

/-- The variants of a list pass when their names differ, from each other and from those seen before
the list. -/
theorem checkVariantList_toJson {declared : List String} {i : Nat} {seen : List String}
    {vs : List Variant} (hidentifier : ∀ v ∈ vs, Name.isIdentifier v.name = true)
    (hlisted : ∀ v ∈ vs, ∀ list ∈ [v.required, v.includeProperties, v.excludeProperties],
      ∀ names ∈ list, ∀ name ∈ names, name ∈ declared)
    (hselection : ∀ v ∈ vs, v.includeProperties.isSome ≠ v.excludeProperties.isSome)
    (hnodup : (vs.map (·.name)).Nodup) (hnew : ∀ v ∈ vs, v.name ∉ seen) :
    checkVariantList false declared i seen (vs.map Variant.toJson) = [] := by
  induction vs generalizing i seen with
  | nil => rfl
  | cons v vs ih =>
      obtain ⟨hid, hidentifier⟩ := List.forall_mem_cons.1 hidentifier
      obtain ⟨hlist, hlisted⟩ := List.forall_mem_cons.1 hlisted
      obtain ⟨hselect, hselection⟩ := List.forall_mem_cons.1 hselection
      obtain ⟨hnewName, hnew⟩ := List.forall_mem_cons.1 hnew
      obtain ⟨hne, hnodup⟩ := List.nodup_cons.1 hnodup
      have hname : declaredName? (.object v.toMembers) = some v.name :=
        declaredName?_object rfl hid
      -- The names that follow differ from this one, so it may count as seen before them.
      have hrest : ∀ w ∈ vs, w.name ∉ [v.name] ++ seen := by
        intro w hw hmem
        rcases List.mem_cons.1 hmem with heq | hmem
        · exact hne (List.mem_map.2 ⟨w, hw, heq⟩)
        · exact hnew w hw hmem
      show checkVariantList false declared i seen (.object v.toMembers :: vs.map Variant.toJson)
        = []
      rw [checkVariantList, checkVariantFields_toMembers i hlist hselect, hname]
      dsimp only [Option.toList]
      rw [ih hidentifier hlisted hselection hnodup hrest, List.append_nil, List.append_nil]
      unfold checkVariantName
      rw [hname]
      dsimp only
      rw [if_neg (by simpa using hnewName)]

/-- The names that the check takes for declared are those that were written. -/
theorem filterMap_declaredName? {ps : List Property}
    (h : ∀ p ∈ ps, Name.isIdentifier p.name = true) :
    (ps.map Property.toJson).filterMap declaredName? = ps.map (·.name) := by
  induction ps with
  | nil => rfl
  | cons p ps ih =>
      obtain ⟨hid, hidentifier⟩ := List.forall_mem_cons.1 h
      have hname : declaredName? p.toJson = some p.name :=
        @declaredName?_object p.toMembers p.name rfl hid
      rw [List.map_cons, List.filterMap_cons_some hname, ih hidentifier, List.map_cons]

/-- A sound record passes in its three parts: properties, required names and variants. -/
theorem checkRecord_of_isWrittenIn {r : RecordBody} (hr : r.Sound)
    (h : (Body.record r).IsWrittenIn ms) : checkRecord false ms = [] := by
  have hms : ∀ name ∈ (Body.fields .record).map (·.name), _ = _ := h
  have hproperties : ms.lookup "properties" = some (.array (r.properties.map Property.toJson)) :=
    hms _ (by decide)
  have hrequired : ms.lookup "required" = r.required.map .ofStrings := by
    rw [hms _ (by decide)]
    simp [Body.toMembers, List.lookup_append, lookup_member]
  have hvariants : ms.lookup "variants"
      = r.variants.map fun vs => .array (vs.map Variant.toJson) := by
    rw [hms _ (by decide)]
    simp [Body.toMembers, List.lookup_append, lookup_member]
  -- The declared names are the names of the properties, since these are identifiers.
  have hdeclared : declaredNames ms = r.properties.map (·.name) := by
    unfold declaredNames
    rw [hproperties]
    exact filterMap_declaredName? hr.property
  unfold checkRecord
  simp only [List.append_eq_nil_iff, hdeclared]
  refine ⟨⟨?_, ?_⟩, ?_⟩
  · unfold checkProperties
    rw [hproperties]
    refine List.append_eq_nil_iff.2 ⟨when_eq_nil.2 ?_, ?_⟩
    · rw [List.isEmpty_map, List.isEmpty_eq_false_iff]
      exact hr.inhabited
    · exact checkPropertyList_toJson hr.property hr.reference hr.properties
        fun _ _ => List.not_mem_nil
  · unfold checkRequiredList
    rw [hrequired]
    cases hnames : r.required with
    | none => rfl
    | some names =>
        dsimp only [Option.map_some]
        rw [strings?_ofStrings]
        exact undeclared_eq_nil.2 (hr.required names hnames)
  · unfold checkVariants
    rw [hvariants]
    cases hvs : r.variants with
    | none => rfl
    | some vs =>
        have hlist : r.variantList = vs := by rw [RecordBody.variantList, hvs, Option.getD_some]
        subst hlist
        exact checkVariantList_toJson hr.variant hr.listed hr.selection hr.variants
          fun _ _ => List.not_mem_nil

/-! ## Definitions -/

/-- What was written of a sound body breaks no rule. -/
theorem checkBody_of_isWrittenIn {body : Body} (hsound : body.Sound) (hreadable : body.IsReadable)
    (h : body.IsWrittenIn ms) : checkBody false body.kind ms = [] := by
  cases body with
  -- Every kind has the check of its own fields before that of its cases.
  | bool c => exact checkTestCases_of_lookup h
  | enum b => exact checkEnum_of_isWrittenIn hsound h
  | int b =>
      refine List.append_eq_nil_iff.2 ⟨checkInt_of_isWrittenIn hsound hreadable h, ?_⟩
      exact checkTestCases_of_lookup (h.testCases rfl (fun f hf => List.mem_append_right _ hf)
        (by simp [TestCases.fields, lookup_member]))
  | float b =>
      refine List.append_eq_nil_iff.2 ⟨checkFloat_of_isWrittenIn hsound h, ?_⟩
      exact checkTestCases_of_lookup (h.testCases rfl (fun f hf => List.mem_append_right _ hf)
        (by simp [TestCases.fields, List.lookup_append, lookup_member]))
  | string b =>
      refine List.append_eq_nil_iff.2 ⟨checkString_of_isWrittenIn hsound hreadable h, ?_⟩
      exact checkTestCases_of_lookup (h.testCases rfl (fun f hf => List.mem_append_right _ hf)
        (by simp [TestCases.fields, List.lookup_append, lookup_member]))
  | object b =>
      have hms : ∀ name ∈ (Body.fields .object).map (·.name), _ = _ := h
      have hschema : ms.lookup "jsonSchema" = some b.schema := hms _ (by decide)
      refine List.append_eq_nil_iff.2 ⟨when_eq_nil.2 ?_, ?_⟩
      · have hobject : b.schema.isObject = true := hsound
        rw [hschema, Option.any_some, hobject, Bool.not_true]
      · exact checkTestCases_of_lookup (h.testCases rfl (fun f hf => List.mem_append_right _ hf)
          (by simp [TestCases.fields, lookup_member]))
  | record r =>
      have hms : ∀ name ∈ (Body.fields .record).map (·.name), _ = _ := h
      have hvalid : ms.lookup "validTestCases" = (some r.validCases).map Example.listToJson := by
        rw [hms _ (by decide)]
        simp [Body.toMembers, List.lookup_append, lookup_member]
      have hinvalid : ms.lookup "invalidTestCases" = r.invalidCases.map Example.listToJson := by
        rw [hms _ (by decide)]
        simp [Body.toMembers, List.lookup_append, lookup_member]
      refine List.append_eq_nil_iff.2 ⟨checkRecord_of_isWrittenIn hsound h, ?_⟩
      exact List.append_eq_nil_iff.2
        ⟨checkExamples_of_lookup hvalid fun _ => rfl,
          checkExamples_of_lookup hinvalid Bool.noConfusion⟩

/-- What is written of a sound definition breaks no rule. -/
theorem violations_toJson {d : Definition} (hsound : d.Sound) (hreadable : d.body.IsReadable) :
    violations d.toJson = [] := by
  have hlookup : d.toMembers.lookup "kind" = some (.string d.kind.text) := rfl
  have hkind : kind? d.toMembers = some d.kind := by
    unfold kind?
    rw [hlookup]
    exact Definition.ofText?_text d.kind
  show check false (.object d.toMembers) = []
  unfold check
  dsimp only
  rw [hkind]
  simp only [List.append_eq_nil_iff]
  refine ⟨⟨?_, ?_⟩, unknownFields_of_sublist d.names_toMembers,
    -- The check of the kind passes since its text is read back; header and body pass by the lemmas
    -- before.
    checkBody_of_isWrittenIn hsound.body hreadable d.isWrittenIn_toMembers⟩
  · unfold checkKind
    rw [hlookup, Option.bind_some, Json.string?]
    exact when_eq_nil.2 (by rw [Definition.ofText?_text, Option.isNone_some])
  · exact checkHeader_of_lookup (fun name hname => d.lookup_toMembers_header hname) hsound.system
      hsound.name

end Shape

/-! ## Defaults -/

/-- A sound record stays sound when its defaults are filled in: the lists that are added are empty.
-/
theorem RecordBody.Sound.withDefaults {r : RecordBody} (h : r.Sound) :
    RecordBody.Sound { r with
      properties := r.properties.map Property.withDefaults
      required := orDefault [] r.required
      variants := orDefault [] r.variants
      invalidCases := orDefault [] r.invalidCases } := by
  have hnames : (r.properties.map Property.withDefaults).map (·.name)
      = r.properties.map (·.name) := by
    rw [List.map_map]
    rfl
  refine ⟨h.toWellFormed.withDefaults, ?_, ?_, ?_, h.selection⟩
  -- Filling in adds no properties and takes none away, and so changes no name.
  · exact fun hnil => h.inhabited (List.map_eq_nil_iff.1 hnil)
  · intro names hmem name hname
    rw [hnames]
    cases Option.some.inj hmem
    cases hrequired : r.required with
    | none =>
        rw [hrequired] at hname
        cases hname
    | some names =>
        rw [hrequired] at hname
        exact h.required names hrequired name hname
  · intro v hv list hlist names hnames' name hname
    rw [hnames]
    exact h.listed v hv list hlist names hnames' name hname

/-- So does a sound body of any kind. -/
theorem Body.Sound.withDefaults {body : Body} (h : body.Sound) : body.withDefaults.Sound := by
  cases body with
  | string b =>
      obtain ⟨hbounds, hregex⟩ := h
      refine ⟨?_, hregex⟩
      intro n hn
      cases Option.some.inj hn
      cases hminimum : b.minimumLength with
      | none => exact Nat.zero_le _
      | some n => exact hbounds n hminimum
  | record r => exact RecordBody.Sound.withDefaults h
  | _ => exact h

/-- And so does a sound definition. -/
theorem Definition.Sound.withDefaults {d : Definition} (h : d.Sound) : d.withDefaults.Sound :=
  ⟨h.system, h.name, h.body.withDefaults⟩

namespace Shape

/-- A value that breaks no rule is read into a definition whose defaults can be filled in for good.
What is then written of it breaks no rule either, is read into the same definition, in which no
default is left to fill, and brings the same warnings as the value did. -/
theorem exists_normal_definition {v : Json} (hv : v.Distinct) (h : violations v = []) :
    ∃ d, (Definition.decode v).map Definition.withDefaults = .ok d
      ∧ violations d.toJson = [] ∧ Definition.decode d.toJson = .ok d ∧ d.withDefaults = d
      ∧ warnings (violations d.toJson) (documented d.toJson)
        = warnings (violations v) (documented v) := by
  obtain ⟨d, hd⟩ := exists_decode_of_violations_eq_nil hv h
  obtain ⟨ms, kind, rfl, hkind, -⟩ := exists_of_violations_eq_nil h
  have hbody := (parts_of_decode hkind hd).1
  have hreadable : d.withDefaults.body.IsReadable :=
    Body.isReadable_withDefaults (Body.isReadable_of_decode hbody)
  have hviolations : violations d.withDefaults.toJson = [] :=
    violations_toJson (sound_of_decode h hd).withDefaults hreadable
  have hdecode : Definition.decode d.withDefaults.toJson = .ok d.withDefaults :=
    Definition.decode_toJson hreadable
  refine ⟨d.withDefaults, map_eq_ok.2 ⟨d, hd, rfl⟩, hviolations, hdecode,
    d.withDefaults_withDefaults, ?_⟩
  rw [hviolations, h, documented_eq_notes hviolations hdecode, documented_eq_notes h hd,
    d.notes_withDefaults]

/-- A range that is declared with integers, with an example that has no summary. -/
def shareFloat : Json := .object [("kind", .string "float"), ("system", .string "test"),
  ("name", .string "share"),
  ("minimum", .number (.integer 0)), ("maximum", .number (.integer 1)),
  ("isMaximumExclusive", .bool true),
  ("examples", .array [.object [("value", .number (.integer 0))]])]

/-- An example: a float that declares its bounds and leaves the rest to the defaults. -/
theorem exists_normal_definition_shareFloat :
    shareFloat.Distinct ∧ violations shareFloat = []
      ∧ ∃ d, (Definition.decode shareFloat).map Definition.withDefaults = .ok d
        ∧ violations d.toJson = [] ∧ Definition.decode d.toJson = .ok d ∧ d.withDefaults = d
        ∧ warnings (violations d.toJson) (documented d.toJson)
          = warnings (violations shareFloat) (documented shareFloat) := by
  have hdistinct : shareFloat.Distinct := by
    simp [shareFloat, Json.Distinct, Json.DistinctMembers, Json.DistinctItems]
  have hviolations : violations shareFloat = [] := by decide +kernel
  exact ⟨hdistinct, hviolations, exists_normal_definition hdistinct hviolations⟩

end Shape

end TypeCatalog
