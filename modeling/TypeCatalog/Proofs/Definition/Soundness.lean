import TypeCatalog.Catalog
import TypeCatalog.Proofs.Definition.Kept
import TypeCatalog.Proofs.Definition.WellFormed

/-!
# What the shape check promises

A value that breaks no rule is read into a definition that can be relied on: `Definition.Sound`
says for each kind what the check asks for. `exists_sound_definition` puts it together with what is
known of the reading. The reader objects to nothing, passes nothing over and loses nothing, and what
it gives is sound.

The check works on the raw members and the reader on the same members, each in its own way. For each
field that both read, `read_of_get` and `read_of_get?` say that they read the same.
-/

set_option autoImplicit false

namespace TypeCatalog

open Result TypeCatalog.Field

variable {ms : List (String × Json)}

/-! ## Sound definitions -/

/-- There are items, their values are not empty and differ, and their data is of a type. -/
structure EnumBody.Sound (b : EnumBody) : Prop where
  items : b.items ≠ []
  value : ∀ item ∈ b.items, item.value ≠ ""
  values : (b.items.map (·.value)).Nodup
  dataType : ∀ reference ∈ b.dataType, Name.isReference reference = true

/-- Some number lies between the bounds. -/
def FloatBody.Sound (b : FloatBody) : Prop :=
  b.minimum.value < b.maximum.value
    ∨ b.minimum.value = b.maximum.value
      ∧ b.isMinimumExclusive.getD false = false ∧ b.isMaximumExclusive.getD false = false

/-- Some length lies between the bounds, and the pattern is one. -/
structure StringBody.Sound (b : StringBody) : Prop where
  bounds : ∀ n ∈ b.minimumLength, n ≤ b.maximumLength
  regex : ∀ pattern ∈ b.regex, ∃ r, Pattern.Strict.check pattern = .ok r

/-- There are properties, every name that a list gives is the name of one, and each variant either
includes properties or excludes some. -/
structure RecordBody.Sound (r : RecordBody) : Prop extends RecordBody.WellFormed r where
  inhabited : r.properties ≠ []
  required : ∀ names ∈ r.required, ∀ name ∈ names, name ∈ r.properties.map (·.name)
  listed : ∀ v ∈ r.variantList,
    ∀ list ∈ [v.required, v.includeProperties, v.excludeProperties],
      ∀ names ∈ list, ∀ name ∈ names, name ∈ r.properties.map (·.name)
  selection : ∀ v ∈ r.variantList, v.includeProperties.isSome ≠ v.excludeProperties.isSome

def Body.Sound : Body → Prop
  | bool _ => True
  | enum b => b.Sound
  | int b => b.minimum ≤ b.maximum
  | float b => b.Sound
  | string b => b.Sound
  | object b => b.schema.isObject = true
  | record r => r.Sound

/-- What the check of the shape promises of a definition. -/
structure Definition.Sound (d : Definition) : Prop where
  system : Name.isIdentifier d.header.system = true
  name : Name.isIdentifier d.header.name = true
  body : d.body.Sound

namespace Shape

/-! ## The check and the reader read the same -/

section

variable {α : Type} {as : Json → Option α} {d : Decoder α} {field : String}

/-- What the check reads of a required field is what the decoder read of it. -/
theorem read_of_get {expected : String} {a : α} (hd : ∀ {v a}, as v = some a → d v = .ok a)
    (h : checkTyped as field expected ms = []) (ha : get d field ms = .ok a) :
    read as field ms = some a := by
  obtain ⟨v, b, hv, hb⟩ := exists_of_checkTyped_eq_nil h
  obtain ⟨w, hw, ha⟩ := lookup_of_get ha
  obtain rfl : v = w := Option.some.inj (hv.symm.trans hw)
  obtain rfl : b = a := Except.ok.inj ((hd hb).symm.trans ha)
  rw [read, hv]
  exact hb

/-- An optional field that is not misused is read alike. `null` has to be a misuse, since the reader
takes it for an absent value. -/
theorem read_of_get? {o : Option α} (hd : ∀ {v a}, as v = some a → d v = .ok a)
    (hnull : as .null = none) (h : misused (fun v => (as v).isSome) (ms.lookup field) = false)
    (ho : get? d field ms = .ok o) : read as field ms = o := by
  unfold get? at ho
  unfold read
  cases hv : ms.lookup field with
  | none =>
      rw [hv] at ho
      exact Except.ok.inj ho
  | some v =>
      rw [hv] at h ho
      obtain ⟨a, ha⟩ : ∃ a, as v = some a := by
        simpa [misused, Option.isSome_iff_exists] using h
      show as v = o
      -- An absent value and `null` are both read as none, but only the first one passes the check.
      cases v with
      | null => exact absurd ha (by simp [hnull])
      | _ =>
          obtain ⟨b, hb, rfl⟩ := map_eq_ok.1 ho
          rw [ha, Except.ok.inj ((hd ha).symm.trans hb)]

end

/-! ## Numbers and texts -/

/-- The bounds of an int that breaks no rule are in order. -/
theorem sound_int {b : IntBody} (h : checkInt ms = [])
    (hb : Body.decode .int ms = .ok (.int b)) : b.minimum ≤ b.maximum := by
  obtain ⟨hminimum, hmaximum, -⟩ := IntBody.fields_of_decode hb
  unfold checkInt at h
  simp only [List.append_eq_nil_iff] at h
  obtain ⟨⟨hlow, hhigh⟩, hrange⟩ := h
  have hminimumRead := read_of_get Decoder.int64_of_int64? hlow hminimum
  have hmaximumRead := read_of_get Decoder.int64_of_int64? hhigh hmaximum
  rw [hminimumRead, hmaximumRead] at hrange
  dsimp only at hrange
  split at hrange
  · cases hrange
  · next hnot => exact Int.not_lt.1 hnot

/-- A range that is not empty is sound: in order, and without exclusive bounds that are equal. -/
theorem sound_of_isEmptyRange {b : FloatBody}
    (h : isEmptyRange b.minimum b.maximum
      (b.isMinimumExclusive.getD false || b.isMaximumExclusive.getD false) = false) : b.Sound := by
  unfold isEmptyRange at h
  rw [Bool.or_eq_false_iff, decide_eq_false_iff_not] at h
  obtain ⟨hnot, hequal⟩ := h
  by_cases heq : b.minimum.value = b.maximum.value
  · rw [decide_eq_true heq, Bool.true_and, Bool.or_eq_false_iff] at hequal
    exact .inr ⟨heq, hequal⟩
  · exact .inl (Std.lt_of_le_of_ne (Std.not_lt.1 hnot) heq)

/-- So are the bounds of a float that breaks no rule. -/
theorem sound_float {b : FloatBody} (h : checkFloat ms = [])
    (hb : Body.decode .float ms = .ok (.float b)) : b.Sound := by
  obtain ⟨hminimum, hmaximum, hlow, hhigh, -⟩ := FloatBody.fields_of_decode hb
  unfold checkFloat at h
  simp only [List.append_eq_nil_iff, List.flatMap_eq_nil_iff, List.forall_mem_cons, when_eq_nil]
    at h
  obtain ⟨⟨⟨hminimumCheck, hmaximumCheck⟩, hlowCheck, hhighCheck, -⟩, hrange⟩ := h
  have hminimumRead := read_of_get Decoder.binary64_of_binary64? hminimumCheck hminimum
  have hmaximumRead := read_of_get Decoder.binary64_of_binary64? hmaximumCheck hmaximum
  have hlowRead := read_of_get? Decoder.bool_of_bool? rfl hlowCheck hlow
  have hhighRead := read_of_get? Decoder.bool_of_bool? rfl hhighCheck hhigh
  rw [hminimumRead, hmaximumRead] at hrange
  -- The check asks whether any flag is set, over the list of both.
  simp only [List.any_cons, List.any_nil, Bool.or_false, hlowRead, hhighRead] at hrange
  split at hrange
  · cases hrange
  · next hnot => exact sound_of_isEmptyRange (Bool.not_eq_true _ ▸ hnot)

/-- The bounds of the length of a string are in order, and its pattern can be searched for. -/
theorem sound_string {b : StringBody} (h : checkString ms = [])
    (hb : Body.decode .string ms = .ok (.string b)) : b.Sound := by
  obtain ⟨hregex, hminimum, hmaximum, -⟩ := StringBody.fields_of_decode hb
  unfold checkString at h
  simp only [List.append_eq_nil_iff, when_eq_nil] at h
  obtain ⟨⟨⟨hmaximumCheck, hminimumCheck⟩, hbounds⟩, hregexCheck⟩ := h
  have hlow := read_of_get? Decoder.nat64_of_nat64? rfl hminimumCheck hminimum
  have hhigh := read_of_get Decoder.nat64_of_nat64? hmaximumCheck hmaximum
  constructor
  -- Where a lower bound was read, the check compared the same two numbers.
  · intro n hn
    rw [hlow, hhigh, Option.mem_def.1 hn] at hbounds
    simpa using hbounds
  -- Where a pattern was read, the check compiled the same text.
  · intro pattern hpattern
    rw [Option.mem_def.1 hpattern] at hregex
    obtain ⟨v, hv, hs⟩ := lookup_of_get? hregex
    cases v with
    | string s =>
        cases hs
        unfold checkRegex at hregexCheck
        rw [hv] at hregexCheck
        dsimp only at hregexCheck
        split at hregexCheck
        · next r hr => exact ⟨r, hr⟩
        · cases hregexCheck
    | _ => cases hs

/-! ## Enums -/

/-- The value of an item is the text under `value`. -/
theorem lookup_of_decode_item {item : EnumItem} (h : EnumItem.decode (.object ms) = .ok item) :
    ms.lookup "value" = some (.string item.value) :=
  lookup_of_get_string (EnumItem.fields_of_decode h).1

/-- A value that passes the check is not empty and was not seen before. -/
theorem of_checkItemValue_eq_nil {i : Nat} {seen : List (String × Nat)} {value : String}
    (h : checkItemValue i seen (.object ms) = [])
    (hvalue : ms.lookup "value" = some (.string value)) :
    itemValue? (.object ms) = some value ∧ value ≠ "" ∧ seen.lookup value = none := by
  have hitem : itemValue? (.object ms) = if value.isEmpty then none else some value := by
    rw [itemValue?, Json.member?, hvalue]
    rfl
  unfold checkItemValue at h
  rw [hitem] at h ⊢
  cases hempty : value.isEmpty with
  | true => simp [hempty] at h
  | false =>
      refine ⟨rfl, ?_, ?_⟩
      · intro heq
        rw [heq] at hempty
        cases hempty
      · rw [hempty] at h
        -- A value that was seen would have been reported as a repeat.
        cases hseen : seen.lookup value with
        | none => rfl
        | some j => simp [hseen] at h

/-- The items that were read of a list without violations. None has a value that was seen before the
list. -/
theorem items_of_checkItems {i : Nat} {seen : List (String × Nat)} {xs : List Json}
    {items : List EnumItem} (h : checkItems false i seen xs = [])
    (hitems : List.Forall₂ (fun x item => EnumItem.decode x = .ok item) xs items) :
    (∀ item ∈ items, item.value ≠ "" ∧ seen.lookup item.value = none)
      ∧ (items.map (·.value)).Nodup := by
  induction hitems generalizing i seen with
  | nil => exact ⟨nofun, .nil⟩
  | @cons x item xs items hitem _ ih =>
      cases x with
      | object ms =>
          simp only [checkItems, List.append_eq_nil_iff] at h
          obtain ⟨⟨hvalue, -⟩, hrest⟩ := h
          obtain ⟨hread, hnonempty, hnew⟩ :=
            of_checkItemValue_eq_nil hvalue (lookup_of_decode_item hitem)
          rw [hread] at hrest
          obtain ⟨hall, hnodup⟩ := ih hrest
          -- Behind this item, its own value counts as seen.
          have hother : ∀ other ∈ items,
              other.value ≠ item.value ∧ seen.lookup other.value = none := by
            intro other hmem
            have hlookup := (hall other hmem).2
            rw [List.lookup_cons] at hlookup
            split at hlookup
            · cases hlookup
            · next hne => exact ⟨ne_of_beq_false hne, hlookup⟩
          constructor
          · refine List.forall_mem_cons.2 ⟨⟨hnonempty, hnew⟩, ?_⟩
            intro other hmem
            exact ⟨(hall other hmem).1, (hother other hmem).2⟩
          · rw [List.map_cons, List.nodup_cons]
            refine ⟨?_, hnodup⟩
            intro hmem
            obtain ⟨other, hmem, heq⟩ := List.mem_map.1 hmem
            exact (hother other hmem).1 heq
      | _ => cases h

/-- An enum that breaks no rule is sound: it has items, whose values are there and differ, and
`dataType` is a reference in form. -/
theorem sound_enum {b : EnumBody} (h : checkEnum false ms = [])
    (hb : Body.decode .enum ms = .ok (.enum b)) : b.Sound := by
  obtain ⟨hitems, hdata⟩ := EnumBody.fields_of_decode hb
  obtain ⟨hdataCheck, hitemsCheck⟩ := List.append_eq_nil_iff.1 h
  obtain ⟨xs, hxs, hread⟩ := lookup_of_get_list hitems
  rw [hxs] at hitemsCheck
  obtain ⟨hsome, hlist⟩ := List.append_eq_nil_iff.1 hitemsCheck
  obtain ⟨hall, hnodup⟩ := items_of_checkItems hlist hread
  refine ⟨?_, fun item hitem => (hall item hitem).1, hnodup, ?_⟩
  -- An empty list of items is reported.
  · intro hnil
    rw [hnil] at hread
    cases hread
    cases hsome
  · intro reference hreference
    rw [Option.mem_def.1 hreference] at hdata
    obtain ⟨v, hv, hs⟩ := lookup_of_get? hdata
    rw [when_eq_nil, hv] at hdataCheck
    cases v with
    | string s =>
        cases hs
        simpa [misused, Json.string?] using hdataCheck
    | _ => cases hs

/-! ## Records -/

/-- Nothing is reported of names that are all declared, and only then. -/
theorem undeclared_eq_nil {rule : Rule} {path noun : String} {declared names : List String} :
    undeclared rule path noun declared names = [] ↔ ∀ name ∈ names, name ∈ declared := by
  unfold undeclared
  rw [List.flatMap_eq_nil_iff]
  constructor
  · intro h name hname
    obtain ⟨i, hi, rfl⟩ := List.mem_iff_getElem.1 hname
    have hmem : (names[i], i) ∈ names.zipIdx :=
      List.mk_mem_zipIdx_iff_getElem?.2 (List.getElem?_eq_getElem hi)
    simpa using h _ hmem
  · intro h entry hentry
    have hdeclared : entry.1 ∈ declared := h entry.1 (List.fst_mem_of_mem_zipIdx hentry)
    simp [hdeclared]

/-- The name of an object is declared when it is an identifier. -/
theorem declaredName?_object {name : String} (hms : ms.lookup "name" = some (.string name))
    (h : Name.isIdentifier name = true) : declaredName? (.object ms) = some name := by
  rw [declaredName?, Json.member?, hms]
  exact if_pos h

/-- The names that the check takes for declared are those of the properties. -/
theorem declaredNames_eq {ps : List Property} (h : checkProperties false ms = [])
    (hps : get (Decoder.list Property.decode) "properties" ms = .ok ps) :
    declaredNames ms = ps.map (·.name) := by
  obtain ⟨xs, hxs, hread⟩ := lookup_of_get_list hps
  have hidentifier : ∀ p ∈ ps, Name.isIdentifier p.name = true :=
    fun p hp => ((properties_of_checkProperties h hps).1 p hp).1
  unfold checkProperties at h
  rw [hxs] at h
  have hobjects := exists_of_checkPropertyList_eq_nil (List.append_eq_nil_iff.1 h).2
  unfold declaredNames
  rw [hxs]
  show xs.filterMap declaredName? = ps.map (·.name)
  clear h hxs hps
  -- Property by property, the check finds the name that the reader has read.
  induction hread with
  | nil => rfl
  | @cons x p xs ps hp _ ih =>
      obtain ⟨⟨ns, j, rfl, -⟩, hrest⟩ := List.forall_mem_cons.1 hobjects
      obtain ⟨hid, hids⟩ := List.forall_mem_cons.1 hidentifier
      have hname : declaredName? (.object ns) = some p.name :=
        declaredName?_object (lookup_of_decode_property hp).1 hid
      rw [List.filterMap_cons_some hname, List.map_cons, ih hids hrest]

/-- A list of names that is there is read, and what the check says of it holds of what is read. -/
theorem of_get?_strings {key : String} {P : List String → Prop} {o : Option (List String)}
    (h : ∀ v, ms.lookup key = some v → ∃ names, strings? v = some names ∧ P names)
    (ho : get? Decoder.strings key ms = .ok o) :
    o.isSome = (ms.lookup key).isSome ∧ ∀ names ∈ o, P names := by
  unfold get? at ho
  cases hv : ms.lookup key with
  | none =>
      rw [hv] at ho
      cases ho
      exact ⟨rfl, nofun⟩
  | some v =>
      rw [hv] at ho
      obtain ⟨names, hnames, hP⟩ := h v hv
      -- The check has read the list, so the value is one.
      cases v with
      | array xs =>
          obtain ⟨read, hread, rfl⟩ := map_eq_ok.1 ho
          obtain rfl := Except.ok.inj (hread.symm.trans (Decoder.strings_of_strings? hnames))
          refine ⟨rfl, ?_⟩
          intro names hmem
          cases hmem
          exact hP
      | _ => cases hnames

/-- The names under `required` are declared. -/
theorem required_of_checkRequiredList {declared : List String} {o : Option (List String)}
    (h : checkRequiredList declared ms = []) (ho : get? Decoder.strings "required" ms = .ok o) :
    ∀ names ∈ o, ∀ name ∈ names, name ∈ declared := by
  refine (of_get?_strings (fun v hv => ?_) ho).2
  unfold checkRequiredList at h
  rw [hv] at h
  dsimp only at h
  split at h
  · next names hnames => exact ⟨names, hnames, undeclared_eq_nil.1 h⟩
  · cases h

/-- A variant lists declared names only, and lists them in one way. -/
theorem of_checkVariantFields_eq_nil {i : Nat} {declared : List String} {v : Variant}
    (h : checkVariantFields false i declared ms = []) (hv : Variant.decode (.object ms) = .ok v) :
    (∀ list ∈ [v.required, v.includeProperties, v.excludeProperties],
        ∀ names ∈ list, ∀ name ∈ names, name ∈ declared)
      ∧ v.includeProperties.isSome ≠ v.excludeProperties.isSome := by
  obtain ⟨-, -, hrequired, hincluded, hexcluded⟩ := Variant.fields_of_decode hv
  unfold checkVariantFields at h
  simp only [List.append_eq_nil_iff, when_eq_nil] at h
  obtain ⟨⟨⟨⟨hselection, hlists⟩, -⟩, -⟩, -⟩ := h
  -- The check goes through the three lists in one way.
  have hnames : ∀ key ∈ ["includeProperties", "excludeProperties", "required"], ∀ x,
      ms.lookup key = some x →
        ∃ names, strings? x = some names ∧ ∀ name ∈ names, name ∈ declared := by
    intro key hkey x hx
    have hcheck := List.flatMap_eq_nil_iff.1 hlists key hkey
    rw [hx] at hcheck
    dsimp only at hcheck
    split at hcheck
    · cases hcheck
    · next names hnames => exact ⟨names, hnames, undeclared_eq_nil.1 hcheck⟩
  obtain ⟨hsomeIncluded, hincluded⟩ := of_get?_strings (hnames _ (by decide)) hincluded
  obtain ⟨hsomeExcluded, hexcluded⟩ := of_get?_strings (hnames _ (by decide)) hexcluded
  obtain ⟨-, hrequired⟩ := of_get?_strings (hnames _ (by decide)) hrequired
  constructor
  · simp only [List.forall_mem_cons]
    exact ⟨hrequired, hincluded, hexcluded, List.forall_mem_nil _⟩
  · rw [hsomeIncluded, hsomeExcluded]
    exact ne_of_beq_false hselection

/-- The variants that were read are sound: the names in their lists are declared, and each of them
either includes or excludes some. -/
theorem variants_sound_of_checkVariants {declared : List String} {vs : Option (List Variant)}
    (h : checkVariants false declared ms = [])
    (hvs : get? (Decoder.list Variant.decode) "variants" ms = .ok vs) :
    ∀ v ∈ vs.getD [], (∀ list ∈ [v.required, v.includeProperties, v.excludeProperties],
        ∀ names ∈ list, ∀ name ∈ names, name ∈ declared)
      ∧ v.includeProperties.isSome ≠ v.excludeProperties.isSome := by
  intro v hv
  cases vs with
  | none => cases hv
  | some ws =>
      obtain ⟨x, hx, hws⟩ := lookup_of_get? hvs
      cases x with
      | array xs =>
          obtain ⟨x, hmem, hread⟩ := exists_of_mem_forall₂ (mapM_eq_ok.1 hws) hv
          unfold checkVariants at h
          rw [hx] at h
          obtain ⟨ns, j, rfl, hns⟩ := exists_of_checkVariantList_eq_nil h x hmem
          exact of_checkVariantFields_eq_nil hns hread
      | _ => cases hws

/-- A record that breaks no rule is sound, in its properties, its required names and its variants.
-/
theorem sound_record {r : RecordBody} (h : checkRecord false ms = [])
    (hr : Body.decode .record ms = .ok (.record r)) : r.Sound := by
  obtain ⟨hproperties, hrequired, hvariants, -, -⟩ := RecordBody.fields_of_decode hr
  have hwellFormed := wellFormed_of_checkRecord h hproperties hvariants
  unfold checkRecord at h
  simp only [List.append_eq_nil_iff] at h
  obtain ⟨⟨hps, hrequiredCheck⟩, hvs⟩ := h
  rw [declaredNames_eq hps hproperties] at hrequiredCheck hvs
  have hall := variants_sound_of_checkVariants hvs hvariants
  refine ⟨hwellFormed, ?_, required_of_checkRequiredList hrequiredCheck hrequired,
    fun v hv => (hall v hv).1, fun v hv => (hall v hv).2⟩
  -- A list without properties is a violation of its own.
  intro hnil
  obtain ⟨xs, hxs, hread⟩ := lookup_of_get_list hproperties
  rw [hnil] at hread
  cases hread
  unfold checkProperties at hps
  rw [hxs] at hps
  cases hps

/-! ## Definitions -/

/-- So is a body of any kind. -/
theorem sound_body {kind : TypeKind} {body : Body} (h : checkBody false kind ms = [])
    (hbody : Body.decode kind ms = .ok body) : body.Sound := by
  obtain rfl := kind_of_decode_body hbody
  cases body with
  | bool c => trivial
  | enum b => exact sound_enum h hbody
  | int b => exact sound_int (List.append_eq_nil_iff.1 h).1 hbody
  | float b => exact sound_float (List.append_eq_nil_iff.1 h).1 hbody
  | string b => exact sound_string (List.append_eq_nil_iff.1 h).1 hbody
  | object b =>
      obtain ⟨v, hv, hschema⟩ := lookup_of_get (ObjectBody.fields_of_decode hbody).1
      cases hschema
      have hcheck := (List.append_eq_nil_iff.1 h).1
      rw [when_eq_nil, hv] at hcheck
      show b.schema.isObject = true
      simpa using hcheck
  | record r => exact sound_record (List.append_eq_nil_iff.1 h).1 hbody

/-- A value that breaks no rule is read as a sound definition. -/
theorem sound_of_decode {v : Json} {d : Definition} (h : violations v = [])
    (hd : Definition.decode v = .ok d) : d.Sound := by
  have hwellFormed := wellFormed_of_decode h hd
  obtain ⟨ms, kind, rfl, hkind, -, hbody, -⟩ := exists_of_violations_eq_nil h
  exact ⟨hwellFormed.system, hwellFormed.name, sound_body hbody (parts_of_decode hkind hd).1⟩

/-- A value that breaks no rule is read, by the reader as well as on the way into a batch, where
only a name that is taken stands against it. The reader passes no member over, of the value or of
its parts; what it gives holds all that the value does, and is sound. -/
theorem exists_sound_definition {v : Json} (hv : v.Distinct) (h : violations v = []) :
    ∃ d, Definition.decode v = .ok d
      ∧ (∀ taken index raw, raw.value = v → readEntry taken index raw =
          if d.typeName ∈ taken then .error [duplicateName d index raw.source]
          else .ok d.withDefaults)
      ∧ d.Covers v ∧ v.KeptBy d.toJson ∧ d.Sound := by
  obtain ⟨d, hd⟩ := exists_decode_of_violations_eq_nil hv h
  refine ⟨d, hd, ?_, covers_of_decode h hd, keptBy_of_decode h hd, sound_of_decode h hd⟩
  intro taken index raw hraw
  unfold readEntry
  rw [hraw, h, hd]
  simp

/-- A record with a list of properties, required names, a variant and a test case. -/
def personRecord : Json := .object [("kind", .string "record"), ("system", .string "test"),
  ("name", .string "person"),
  ("properties", .array [
    .object [("name", .string "fullName"), ("propertyType", .string "label")],
    .object [("name", .string "scores"), ("propertyType", .string "common/count"),
      ("isArray", .bool true)]]),
  ("required", .array [.string "fullName"]),
  ("variants", .array [
    .object [("name", .string "short"), ("includeProperties", .array [.string "fullName"])]]),
  ("validTestCases", .array [.object [("value", .object [("fullName", .string "Ada")])]])]

/-- An example: a record of two properties with a variant, which is read with all that it holds. -/
theorem exists_sound_definition_personRecord :
    personRecord.Distinct ∧ violations personRecord = []
      ∧ ∃ d, Definition.decode personRecord = .ok d ∧ d.Covers personRecord
        ∧ personRecord.KeptBy d.toJson ∧ d.Sound := by
  have hdistinct : personRecord.Distinct := by
    simp [personRecord, Json.Distinct, Json.DistinctMembers, Json.DistinctItems]
  have hviolations : violations personRecord = [] := by decide +kernel
  obtain ⟨d, hd, -, hcovers, hkept, hsound⟩ := exists_sound_definition hdistinct hviolations
  exact ⟨hdistinct, hviolations, d, hd, hcovers, hkept, hsound⟩

end Shape

end TypeCatalog
