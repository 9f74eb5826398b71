import TypeCatalog.Definition.Decode
import TypeCatalog.Definition.Shape
import TypeCatalog.Proofs.Definition.Passes
import TypeCatalog.Proofs.Result
import TypeCatalog.Proofs.Table

/-!
# What passes the shape check can be read

The check of the shape and the reading of a definition look at the same members in two ways. The
main statement, `exists_decode_of_violations_eq_nil`, says that a value without violations is
read: nothing is left for the reader to object to.

`Field.Fits` is what the reader asks of one field. Each part of the shape check gives it for the
fields of its part; the rest is putting fields together. Both sides take the first member of a
name, but the reader also looks at a second one, and so the names of an object have to be
distinct.
-/

set_option autoImplicit false

namespace TypeCatalog

open Result

/-! ## Distinct names -/

namespace Json

/-- The items of a list with distinct names inside have distinct names themselves. -/
theorem distinct_of_mem_items {xs : List Json} {x : Json} (h : DistinctItems xs) (hx : x ∈ xs) :
    x.Distinct := by
  induction xs with
  | nil => cases hx
  | cons y ys ih =>
      cases hx with
      | head => exact h.1
      | tail _ hx => exact ih h.2 hx

/-- So have the values of the members of such an object. -/
theorem distinct_of_mem_members {ms : List (String × Json)} {name : String} {v : Json}
    (h : DistinctMembers ms) (hv : (name, v) ∈ ms) : v.Distinct := by
  induction ms with
  | nil => cases hv
  | cons m ms ih =>
      cases hv with
      | head => exact h.1
      | tail _ hv => exact ih h.2 hv

/-- The names inside the value of a member are distinct, too. -/
theorem distinct_of_lookup {ms : List (String × Json)} {name : String} {v : Json}
    (h : (object ms).Distinct) (hv : ms.lookup name = some v) : v.Distinct :=
  distinct_of_mem_members h.2 (Table.mem_of_lookup hv)

end Json

/-! ## Fields -/

namespace Field

variable {α : Type} {ms : List (String × Json)} {name : String} {d : Decoder α}

/-- A field fits members when its value passes, or when it is absent and may be so. -/
def Fits (ms : List (String × Json)) (f : Field) : Prop :=
  match ms.lookup f.name with
  | some v => f.check v = .ok ()
  | none => f.isRequired = false

/-- A required field passes the check with a value that its decoder reads. -/
theorem check_required {v : Json} (h : ∃ a, d v = .ok a) : (required name d).check v = .ok () := by
  obtain ⟨a, ha⟩ := h
  exact map_eq_ok.2 ⟨a, ha, rfl⟩

/-- A value that is not absent passes an optional field when it can be read. -/
theorem exists_optional {v : Json} (h : v = .null ∨ ∃ a, d v = .ok a) :
    ∃ a, Decoder.optional d v = .ok a := by
  cases v with
  | null => exact ⟨none, rfl⟩
  | _ =>
      obtain ⟨a, ha⟩ := h.resolve_left (by simp)
      exact ⟨some a, map_eq_ok.2 ⟨a, ha, rfl⟩⟩

/-- A required field fits where its member is there and can be read. -/
theorem fits_required {v : Json} (hv : ms.lookup name = some v) (h : ∃ a, d v = .ok a) :
    Fits ms (required name d) := by
  unfold Fits
  rw [show (required name d).name = name from rfl, hv]
  exact check_required h

/-- An optional field fits where its member can be read, if it is there at all. -/
theorem fits_optional (h : ∀ v, ms.lookup name = some v → ∃ a, d v = .ok a) :
    Fits ms (optional name d) := by
  unfold Fits
  rw [show (optional name d).name = name from rfl]
  cases hv : ms.lookup name with
  | none => rfl
  | some v =>
      obtain ⟨a, ha⟩ := exists_optional (.inr (h v hv))
      exact map_eq_ok.2 ⟨a, ha, rfl⟩

/-- A field that is not misused fits, if what is accepted can be read. -/
theorem fits_optional_of_misused {accepts : Json → Bool}
    (hmisused : Shape.misused accepts (ms.lookup name) = false)
    (h : ∀ v, accepts v = true → ∃ a, d v = .ok a) : Fits ms (optional name d) := by
  refine fits_optional fun v hv => h v ?_
  rw [hv] at hmisused
  simpa [Shape.misused] using hmisused

/-- What fits a required field is read with `get`. -/
theorem exists_get (h : Fits ms (required name d)) : ∃ a, get d name ms = .ok a := by
  unfold Fits at h
  rw [show (required name d).name = name from rfl] at h
  unfold get
  cases hv : ms.lookup name with
  | none =>
      rw [hv] at h
      cases h
  | some v =>
      rw [hv] at h
      obtain ⟨a, ha, -⟩ := map_eq_ok.1 h
      exact ⟨a, ha⟩

/-- What fits an optional field is read with `get?`, a missing member as none. -/
theorem exists_get? (h : Fits ms (optional name d)) : ∃ a, get? d name ms = .ok a := by
  unfold Fits at h
  rw [show (optional name d).name = name from rfl] at h
  unfold get?
  cases hv : ms.lookup name with
  | none => exact ⟨none, rfl⟩
  | some v =>
      rw [hv] at h
      obtain ⟨a, ha, -⟩ := map_eq_ok.1 h
      exact ⟨a, ha⟩

/-- The members pass when every field fits: a member that is a field holds the value that the field
is checked with, since no other member has its name. -/
theorem checkMembers_of_fits {fields : List Field} (hnodup : (ms.map Prod.fst).Nodup)
    (h : ∀ f ∈ fields, Fits ms f) : checkMembers fields ms = .ok () := by
  suffices hsub : ∀ ns, (∀ m ∈ ns, m ∈ ms) → checkMembers fields ns = .ok () from
    hsub ms fun _ hm => hm
  intro ns hns
  induction ns with
  | nil => rfl
  | cons m ns ih =>
      obtain ⟨k, v⟩ := m
      have hrest := ih fun m hm => hns m (.tail _ hm)
      unfold checkMembers
      -- The names of the members differ, so the member is the one that its field was checked with.
      split
      · next f hf =>
          have hname : f.name = k := by simpa using List.find?_some hf
          have hfit := h f (List.mem_of_find?_eq_some hf)
          unfold Fits at hfit
          rw [hname, Table.lookup_of_mem hnodup (hns _ (.head _))] at hfit
          exact bind_eq_ok.2 ⟨(), hfit, hrest⟩
      · exact hrest

/-- No required field is missing where all fields fit. -/
theorem missing?_of_fits {fields : List Field} (h : ∀ f ∈ fields, Fits ms f) :
    missing? fields ms = none := by
  refine List.find?_eq_none.2 fun f hf => ?_
  have hfit := h f hf
  unfold Fits at hfit
  cases hv : ms.lookup f.name with
  | none =>
      rw [hv] at hfit
      simp [hfit]
  | some v => simp

/-- The check of all fields passes where they fit. -/
theorem checkAll_of_fits {fields : List Field} (hnodup : (ms.map Prod.fst).Nodup)
    (h : ∀ f ∈ fields, Fits ms f) : checkAll fields ms = .ok () := by
  refine bind_eq_ok.2 ⟨(), checkMembers_of_fits hnodup h, ?_⟩
  rw [missing?_of_fits h]

/-- The members of a part are handed on where its fields fit. -/
theorem members_of_fits (part : String) {fields : List Field} (hnodup : (ms.map Prod.fst).Nodup)
    (h : ∀ f ∈ fields, Fits ms f) : members part fields (.object ms) = .ok ms :=
  bind_eq_ok.2 ⟨(), checkAll_of_fits hnodup h, rfl⟩

end Field

/-! ## Values of one type -/

namespace Decoder

/-- A text is read as one. -/
theorem exists_string {v : Json} (h : v.isString = true) : ∃ s, string v = .ok s := by
  cases v with
  | string s => exact ⟨s, rfl⟩
  | _ => cases h

/-- A truth value is read as one. -/
theorem exists_bool {v : Json} (h : v.isBool = true) : ∃ b, bool v = .ok b := by
  cases v with
  | bool b => exact ⟨b, rfl⟩
  | _ => cases h

/-- What `Json.bool?` sees is what the decoder reads. -/
theorem bool_of_bool? {v : Json} {b : Bool} (h : v.bool? = some b) : bool v = .ok b := by
  cases v with
  | bool c =>
      cases h
      rfl
  | _ => cases h

/-- What `Json.int64?` sees is what the decoder reads. -/
theorem int64_of_int64? {v : Json} {n : Int} (h : v.int64? = some n) : int64 v = .ok n := by
  cases v with
  | number m =>
      cases m with
      | integer k =>
          obtain ⟨hfits, rfl⟩ : Number.fitsInt64 k = true ∧ k = n := by simpa [Json.int64?] using h
          exact if_pos hfits
      | real x => cases h
  | _ => cases h

/-- What `Json.nat64?` sees is what the decoder reads. -/
theorem nat64_of_nat64? {v : Json} {n : Nat} (h : v.nat64? = some n) : nat64 v = .ok n := by
  cases v with
  | number m =>
      cases m with
      | integer k =>
          obtain ⟨hfits, rfl⟩ : Number.fitsNat64 k = true ∧ k.toNat = n := by
            simpa [Json.nat64?] using h
          exact if_pos hfits
      | real x => cases h
  | _ => cases h

/-- What `Json.binary64?` sees is what the decoder reads. -/
theorem binary64_of_binary64? {v : Json} {x : Binary64} (h : v.binary64? = some x) :
    binary64 v = .ok x := by
  cases v with
  | number n =>
      cases h
      rfl
  | _ => cases h

/-- A list is read when each of its items is. -/
theorem exists_list {α : Type} {d : Decoder α} {xs : List Json} (h : ∀ x ∈ xs, ∃ a, d x = .ok a) :
    ∃ as, list d (.array xs) = .ok as :=
  mapM_ok_of_forall h

/-- A list of texts is read as the texts. -/
theorem strings_of_strings? {v : Json} {names : List String} (h : Shape.strings? v = some names) :
    strings v = .ok names := by
  cases v with
  | array xs =>
      refine mapM_eq_ok.2 ?_
      unfold Shape.strings? at h
      dsimp only at h
      -- Both go through the list item by item and give up at the first one that is no text.
      induction xs generalizing names with
      | nil =>
          cases h
          exact .nil
      | cons x xs ih =>
          rw [List.mapM_cons] at h
          obtain ⟨s, hs, h⟩ := Option.bind_eq_some_iff.1 h
          obtain ⟨rest, hrest, h⟩ := Option.bind_eq_some_iff.1 h
          cases h
          refine .cons ?_ (ih hrest)
          cases x with
          | string t =>
              cases hs
              rfl
          | _ => cases hs
  | _ => cases h

/-- A list that the check takes for texts is read. -/
theorem exists_strings {v : Json} (h : (Shape.strings? v).isSome = true) :
    ∃ names, strings v = .ok names := by
  obtain ⟨names, h⟩ := Option.isSome_iff_exists.1 h
  exact ⟨names, strings_of_strings? h⟩

end Decoder

/-! ## Parts without violations -/

namespace Shape

open TypeCatalog.Field

/-- A condition reports nothing exactly where it fails to hold. -/
@[simp]
theorem when_eq_nil {condition : Bool} {rule : Rule} {path message : String} :
    when condition rule path message = [] ↔ condition = false := by
  cases condition <;> simp [when]

/-- There is nothing unknown exactly where every member has the name of a field. -/
theorem unknownFields_eq_nil {rule : Rule} {pathTo : String → String} {fields : List String}
    {suffix : String} {ms : List (String × Json)} :
    unknownFields rule pathTo fields suffix ms = [] ↔ ∀ m ∈ ms, m.1 ∈ fields := by
  unfold unknownFields
  simp [List.filter_eq_nil_iff]

/-- Where no item of a list breaks a rule, each item passes at its place. -/
theorem exists_of_eachItem_eq_nil {check : Nat → Json → List Violation} {items : List Json}
    (h : eachItem check items = []) {x : Json} (hx : x ∈ items) : ∃ i, check i x = [] := by
  obtain ⟨i, hi, rfl⟩ := List.mem_iff_getElem.1 hx
  refine ⟨i, List.flatMap_eq_nil_iff.1 h (items[i], i) ?_⟩
  exact List.mk_mem_zipIdx_iff_getElem?.2 (List.getElem?_eq_getElem hi)

/-- An example that breaks no rule is read: its `value` is there and its `summary` is a text, if
there is one. -/
theorem exists_decode_example {path : String} {v : Json} (hv : v.Distinct)
    (h : checkExample false path v = []) : ∃ e, Example.decode v = .ok e := by
  cases v with
  | object ms =>
      unfold checkExample at h
      simp only [List.append_eq_nil_iff, when_eq_nil] at h
      obtain ⟨⟨⟨hvalue, hsummary⟩, -⟩, -⟩ := h
      obtain ⟨value, hvalue⟩ : ∃ value, ms.lookup "value" = some value := by
        cases hlookup : ms.lookup "value" with
        | none =>
            rw [hlookup] at hvalue
            cases hvalue
        | some value => exact ⟨value, rfl⟩
      have hfits : ∀ f ∈ Example.fields, Fits ms f := by
        simp only [Example.fields, List.forall_mem_cons]
        exact ⟨fits_required hvalue ⟨value, rfl⟩,
          fits_optional_of_misused hsummary fun _ => Decoder.exists_string, nofun⟩
      obtain ⟨value, hvalue⟩ := exists_get (hfits _ (.head _))
      obtain ⟨summary, hsummary⟩ := exists_get? (hfits _ (.tail _ (.head _)))
      exact ⟨⟨value, summary⟩, bind_eq_ok.2 ⟨ms, members_of_fits _ hv.1 hfits,
        bind_eq_ok.2 ⟨value, hvalue, bind_eq_ok.2 ⟨summary, hsummary, rfl⟩⟩⟩⟩
  | _ => cases h

/-- A list of examples or of test cases that is there can be read. -/
theorem exists_decodeList_examples {isRequired : Bool} {field : String}
    {ms : List (String × Json)} (hms : (Json.object ms).Distinct)
    (h : checkExamples false isRequired field ms = []) {v : Json} (hv : ms.lookup field = some v) :
    ∃ es, Example.decodeList v = .ok es := by
  have hdistinct := Json.distinct_of_lookup hms hv
  unfold checkExamples at h
  rw [hv] at h
  cases v with
  | array xs =>
      refine Decoder.exists_list fun x hx => ?_
      obtain ⟨i, hi⟩ := exists_of_eachItem_eq_nil h hx
      exact exists_decode_example (Json.distinct_of_mem_items hdistinct hx) hi
  | _ => cases h

/-- A list of examples that breaks no rule fits its optional field. -/
theorem fits_examples {field : String} {ms : List (String × Json)}
    (hms : (Json.object ms).Distinct) (h : checkExamples false false field ms = []) :
    Fits ms (.optional field Example.decodeList) :=
  fits_optional fun _ hv => exists_decodeList_examples hms h hv

/-- And it fits its required field, where the check asks for it. -/
theorem fits_requiredExamples {field : String} {ms : List (String × Json)}
    (hms : (Json.object ms).Distinct) (h : checkExamples false true field ms = []) :
    Fits ms (.required field Example.decodeList) := by
  cases hv : ms.lookup field with
  | some v => exact fits_required hv (exists_decodeList_examples hms h hv)
  | none =>
      unfold checkExamples at h
      rw [hv] at h
      cases h

/-! ## The header -/

/-- An identifier is a text, and so it fits the field of a name. -/
theorem fits_identifier {rule : Rule} {field title : String} {ms : List (String × Json)}
    (h : checkIdentifier rule field title ms = []) : Fits ms (.required field Decoder.string) := by
  unfold checkIdentifier at h
  cases hv : ms.lookup field with
  | none =>
      rw [hv] at h
      cases h
  | some v =>
      cases v with
      | string s => exact fits_required hv ⟨s, rfl⟩
      | _ =>
          rw [hv] at h
          cases h

/-- A header that breaks no rule is read. -/
theorem exists_decode_header {ms : List (String × Json)} (hms : (Json.object ms).Distinct)
    (h : checkHeader false ms = []) : ∃ header, Header.decode ms = .ok header := by
  unfold checkHeader at h
  simp only [List.append_eq_nil_iff, when_eq_nil, List.flatMap_eq_nil_iff, List.forall_mem_cons]
    at h
  obtain ⟨⟨⟨⟨⟨⟨hsystem, hname⟩, htitle, hsummary, -⟩, -⟩, hdeprecated⟩, htags, hlabels, -⟩,
    hexamples⟩ := h
  -- Each rule is about one field and says that its decoder will read what is there.
  have hfits : ∀ f ∈ Header.fields, Fits ms f := by
    simp only [Header.fields, List.forall_mem_cons]
    exact ⟨fits_identifier hsystem, fits_identifier hname,
      fits_optional_of_misused htitle fun _ => Decoder.exists_string,
      fits_optional_of_misused hsummary fun _ => Decoder.exists_string,
      fits_optional_of_misused hdeprecated fun _ => Decoder.exists_string,
      fits_optional_of_misused htags fun _ => Decoder.exists_strings,
      fits_optional_of_misused hlabels fun _ => Decoder.exists_strings,
      fits_examples hms hexamples, nofun⟩
  have hall := checkAll_of_fits hms.1 hfits
  simp only [Header.fields, List.forall_mem_cons] at hfits
  obtain ⟨h₁, h₂, h₃, h₄, h₅, h₆, h₇, h₈, -⟩ := hfits
  obtain ⟨system, h₁⟩ := exists_get h₁
  obtain ⟨name, h₂⟩ := exists_get h₂
  obtain ⟨title, h₃⟩ := exists_get? h₃
  obtain ⟨summary, h₄⟩ := exists_get? h₄
  obtain ⟨deprecated, h₅⟩ := exists_get? h₅
  obtain ⟨tags, h₆⟩ := exists_get? h₆
  obtain ⟨labels, h₇⟩ := exists_get? h₇
  obtain ⟨examples, h₈⟩ := exists_get? h₈
  refine ⟨⟨system, name, title, summary, deprecated, tags, labels, examples⟩, ?_⟩
  simp only [Header.decode, hall, h₁, h₂, h₃, h₄, h₅, h₆, h₇, h₈, bind, Except.bind, pure,
    Except.pure]

/-! ## Bodies -/

/-- Cases that break no rule fit their two fields. -/
theorem fits_testCases {ms : List (String × Json)} (hms : (Json.object ms).Distinct)
    (h : checkTestCases false ms = []) : ∀ f ∈ TestCases.fields, Fits ms f := by
  obtain ⟨hvalid, hinvalid⟩ := List.append_eq_nil_iff.1 h
  simp only [TestCases.fields, List.forall_mem_cons]
  exact ⟨fits_examples hms hvalid, fits_examples hms hinvalid, nofun⟩

/-- What fits the two fields is read as cases. -/
theorem exists_decode_testCases {ms : List (String × Json)}
    (hfits : ∀ f ∈ TestCases.fields, Fits ms f) : ∃ cases, TestCases.decode ms = .ok cases := by
  obtain ⟨valid, hvalid⟩ := exists_get? (hfits _ (.head _))
  obtain ⟨invalid, hinvalid⟩ := exists_get? (hfits _ (.tail _ (.head _)))
  exact ⟨⟨valid, invalid⟩, bind_eq_ok.2 ⟨valid, hvalid, bind_eq_ok.2 ⟨invalid, hinvalid, rfl⟩⟩⟩

/-- A field that has to be of a type is there, and its value is of the type. -/
theorem exists_of_checkTyped_eq_nil {α : Type} {as : Json → Option α} {field expected : String}
    {ms : List (String × Json)} (h : checkTyped as field expected ms = []) :
    ∃ v a, ms.lookup field = some v ∧ as v = some a := by
  unfold checkTyped at h
  rw [when_eq_nil] at h
  cases hread : read as field ms with
  | none =>
      rw [hread] at h
      cases h
  | some a =>
      obtain ⟨v, hv, ha⟩ := Option.bind_eq_some_iff.1 hread
      exact ⟨v, a, hv, ha⟩

/-- A field that is checked by reading it fits the decoder that reads the same. -/
theorem fits_typed {α : Type} {as : Json → Option α} {d : Decoder α} {field expected : String}
    {ms : List (String × Json)} (hd : ∀ {v a}, as v = some a → d v = .ok a)
    (h : checkTyped as field expected ms = []) : Fits ms (.required field d) := by
  obtain ⟨v, a, hv, ha⟩ := exists_of_checkTyped_eq_nil h
  exact fits_required hv ⟨a, hd ha⟩

/-- The fields of an int fit when its bounds and its cases break no rule. -/
theorem fits_int {ms : List (String × Json)} (hms : (Json.object ms).Distinct)
    (h : checkInt ms ++ checkTestCases false ms = []) : ∀ f ∈ Body.fields .int, Fits ms f := by
  obtain ⟨hint, hcases⟩ := List.append_eq_nil_iff.1 h
  unfold checkInt at hint
  simp only [List.append_eq_nil_iff] at hint
  obtain ⟨⟨hminimum, hmaximum⟩, -⟩ := hint
  refine List.forall_mem_append.2 ⟨?_, fits_testCases hms hcases⟩
  simp only [List.forall_mem_cons]
  exact ⟨fits_typed Decoder.int64_of_int64? hminimum, fits_typed Decoder.int64_of_int64? hmaximum,
    nofun⟩

/-- So do the fields of a float. -/
theorem fits_float {ms : List (String × Json)} (hms : (Json.object ms).Distinct)
    (h : checkFloat ms ++ checkTestCases false ms = []) : ∀ f ∈ Body.fields .float, Fits ms f := by
  obtain ⟨hfloat, hcases⟩ := List.append_eq_nil_iff.1 h
  unfold checkFloat at hfloat
  simp only [List.append_eq_nil_iff, List.flatMap_eq_nil_iff, List.forall_mem_cons, when_eq_nil]
    at hfloat
  obtain ⟨⟨⟨hminimum, hmaximum⟩, hlow, hhigh, -⟩, -⟩ := hfloat
  refine List.forall_mem_append.2 ⟨?_, fits_testCases hms hcases⟩
  simp only [List.forall_mem_cons]
  exact ⟨fits_typed Decoder.binary64_of_binary64? hminimum,
    fits_typed Decoder.binary64_of_binary64? hmaximum,
    fits_optional_of_misused hlow fun _ => Decoder.exists_bool,
    fits_optional_of_misused hhigh fun _ => Decoder.exists_bool, nofun⟩

/-- So do the fields of a string; its pattern is read as a text, whether it can be searched for or
not. -/
theorem fits_string {ms : List (String × Json)} (hms : (Json.object ms).Distinct)
    (h : checkString ms ++ checkTestCases false ms = []) :
    ∀ f ∈ Body.fields .string, Fits ms f := by
  obtain ⟨hstring, hcases⟩ := List.append_eq_nil_iff.1 h
  unfold checkString at hstring
  simp only [List.append_eq_nil_iff, when_eq_nil] at hstring
  obtain ⟨⟨⟨hmaximum, hminimum⟩, -⟩, hregex⟩ := hstring
  refine List.forall_mem_append.2 ⟨?_, fits_testCases hms hcases⟩
  simp only [List.forall_mem_cons]
  refine ⟨fits_optional fun v hv => ?_, fits_optional_of_misused hminimum fun v hv => ?_,
    fits_typed Decoder.nat64_of_nat64? hmaximum, nofun⟩
  · unfold checkRegex at hregex
    rw [hv] at hregex
    cases v with
    | string s => exact ⟨s, rfl⟩
    | _ => cases hregex
  · obtain ⟨n, hn⟩ := Option.isSome_iff_exists.1 hv
    exact ⟨n, Decoder.nat64_of_nat64? hn⟩

/-- So do the fields of an object, whose fragment is taken as it is. -/
theorem fits_object {ms : List (String × Json)} (hms : (Json.object ms).Distinct)
    (h : checkBody false .object ms = []) : ∀ f ∈ Body.fields .object, Fits ms f := by
  obtain ⟨hschema, hcases⟩ := List.append_eq_nil_iff.1 h
  refine List.forall_mem_append.2 ⟨?_, fits_testCases hms hcases⟩
  simp only [List.forall_mem_cons]
  refine ⟨?_, nofun⟩
  rw [when_eq_nil] at hschema
  cases hv : ms.lookup "jsonSchema" with
  | none =>
      rw [hv] at hschema
      cases hschema
  | some v => exact fits_required hv ⟨v, rfl⟩

/-! ## Enums -/

/-- An item of an enum that breaks no rule is read. -/
theorem exists_decode_item {i : Nat} {seen : List (String × Nat)} {ms : List (String × Json)}
    (hms : (Json.object ms).Distinct) (hvalue : checkItemValue i seen (.object ms) = [])
    (h : checkItemFields false i ms = []) : ∃ item, EnumItem.decode (.object ms) = .ok item := by
  unfold checkItemFields at h
  simp only [List.append_eq_nil_iff, when_eq_nil, List.flatMap_eq_nil_iff, List.forall_mem_cons]
    at h
  obtain ⟨⟨⟨htext, hsymbol, hdeprecated, hsummary, -⟩, -⟩, -⟩ := h
  have hfits : ∀ f ∈ EnumItem.fields, Fits ms f := by
    simp only [EnumItem.fields, List.forall_mem_cons]
    refine ⟨?_, ?_, fits_optional_of_misused hsymbol fun _ => Decoder.exists_string,
      fits_optional_of_misused hdeprecated fun _ => Decoder.exists_string,
      fits_optional_of_misused hsummary fun _ => Decoder.exists_string,
      fits_optional fun v _ => ⟨v, rfl⟩, nofun⟩
    -- The check of the value sees to it that it is a text.
    · unfold checkItemValue itemValue? at hvalue
      cases hv : (Json.object ms).member? "value" with
      | none =>
          rw [hv] at hvalue
          cases hvalue
      | some v =>
          cases v with
          | string s => exact fits_required hv ⟨s, rfl⟩
          | _ =>
              rw [hv] at hvalue
              cases hvalue
    · cases hv : ms.lookup "text" with
      | none =>
          rw [hv] at htext
          cases htext
      | some v =>
          rw [hv] at htext
          exact fits_required hv (Decoder.exists_string (by simpa using htext))
  -- All fields fit, so the decoder goes through them one by one.
  have hall := members_of_fits "struct EnumItemDef" hms.1 hfits
  simp only [EnumItem.fields, List.forall_mem_cons] at hfits
  obtain ⟨h₁, h₂, h₃, h₄, h₅, h₆, -⟩ := hfits
  obtain ⟨value, h₁⟩ := exists_get h₁
  obtain ⟨text, h₂⟩ := exists_get h₂
  obtain ⟨symbol, h₃⟩ := exists_get? h₃
  obtain ⟨deprecated, h₄⟩ := exists_get? h₄
  obtain ⟨summary, h₅⟩ := exists_get? h₅
  obtain ⟨data, h₆⟩ := exists_get? h₆
  refine ⟨⟨value, text, symbol, deprecated, summary, data⟩, ?_⟩
  simp only [EnumItem.decode, hall, h₁, h₂, h₃, h₄, h₅, h₆, bind, Except.bind, pure, Except.pure]

/-- So are all items of a list that breaks no rule. -/
theorem exists_decode_items {i : Nat} {seen : List (String × Nat)} {items : List Json}
    (hitems : Json.DistinctItems items) (h : checkItems false i seen items = []) :
    ∀ x ∈ items, ∃ item, EnumItem.decode x = .ok item := by
  fun_induction checkItems false i seen items with
  | case1 => exact fun _ hx => absurd hx List.not_mem_nil
  | case2 i seen ms items ih =>
      simp only [List.append_eq_nil_iff] at h
      obtain ⟨⟨hvalue, hfields⟩, hrest⟩ := h
      exact List.forall_mem_cons.2
        ⟨exists_decode_item hitems.1 hvalue hfields, ih hitems.2 hrest⟩
  | case3 => cases h

/-- The fields of an enum fit: `items` is a list of items, and `dataType` a text if it is there. -/
theorem fits_enum {ms : List (String × Json)} (hms : (Json.object ms).Distinct)
    (h : checkEnum false ms = []) : ∀ f ∈ Body.fields .enum, Fits ms f := by
  obtain ⟨hdata, hitems⟩ := List.append_eq_nil_iff.1 h
  rw [when_eq_nil] at hdata
  simp only [Body.fields, List.forall_mem_cons]
  refine ⟨?_, fits_optional_of_misused hdata fun v hv => ?_, nofun⟩
  · cases hv : ms.lookup "items" with
    | none =>
        rw [hv] at hitems
        cases hitems
    | some v =>
        have hdistinct := Json.distinct_of_lookup hms hv
        rw [hv] at hitems
        cases v with
        | array xs =>
            obtain ⟨-, hlist⟩ := List.append_eq_nil_iff.1 hitems
            exact fits_required hv (Decoder.exists_list (exists_decode_items hdistinct hlist))
        | _ => cases hitems
  · cases v with
    | string s => exact ⟨s, rfl⟩
    | _ => cases hv

/-! ## Records -/

/-- A property that breaks no rule is read. -/
theorem exists_decode_property {i : Nat} {declared : List String} {ms : List (String × Json)}
    (hms : (Json.object ms).Distinct) (hname : checkPropertyName i declared ms = [])
    (h : checkPropertyFields false i ms = []) : ∃ p, Property.decode (.object ms) = .ok p := by
  unfold checkPropertyFields at h
  simp only [List.append_eq_nil_iff, when_eq_nil, List.flatMap_eq_nil_iff, List.forall_mem_cons]
    at h
  obtain ⟨⟨⟨⟨htype, harray, hrequired, -⟩, hsummary⟩, -⟩, -⟩ := h
  have hfits : ∀ f ∈ Property.fields, Fits ms f := by
    simp only [Property.fields, List.forall_mem_cons]
    refine ⟨?_, fits_optional_of_misused hsummary fun _ => Decoder.exists_string, ?_,
      fits_optional_of_misused harray fun _ => Decoder.exists_bool,
      fits_optional_of_misused hrequired fun _ => Decoder.exists_bool, nofun⟩
    -- A missing name or type is reported, and so is one that is no text.
    · unfold checkPropertyName at hname
      cases hv : ms.lookup "name" with
      | none =>
          rw [hv] at hname
          cases hname
      | some v =>
          cases v with
          | string s => exact fits_required hv ⟨s, rfl⟩
          | _ =>
              rw [hv] at hname
              cases hname
    · cases hv : ms.lookup "propertyType" with
      | none =>
          rw [hv] at htype
          cases htype
      | some v =>
          cases v with
          | string s => exact fits_required hv ⟨s, rfl⟩
          | _ =>
              rw [hv] at htype
              cases htype
  have hall := members_of_fits "struct PropertyDef" hms.1 hfits
  simp only [Property.fields, List.forall_mem_cons] at hfits
  obtain ⟨h₁, h₂, h₃, h₄, h₅, -⟩ := hfits
  obtain ⟨name, h₁⟩ := exists_get h₁
  obtain ⟨summary, h₂⟩ := exists_get? h₂
  obtain ⟨propertyType, h₃⟩ := exists_get h₃
  obtain ⟨isArray, h₄⟩ := exists_get? h₄
  obtain ⟨isRequired, h₅⟩ := exists_get? h₅
  refine ⟨⟨name, summary, propertyType, isArray, isRequired⟩, ?_⟩
  simp only [Property.decode, hall, h₁, h₂, h₃, h₄, h₅, bind, Except.bind, pure, Except.pure]

/-- So are all properties of a list that breaks no rule. -/
theorem exists_decode_properties {i : Nat} {declared : List String} {properties : List Json}
    (hproperties : Json.DistinctItems properties)
    (h : checkPropertyList false i declared properties = []) :
    ∀ x ∈ properties, ∃ p, Property.decode x = .ok p := by
  fun_induction checkPropertyList false i declared properties with
  | case1 => exact fun _ hx => absurd hx List.not_mem_nil
  | case2 i declared ms properties ih =>
      simp only [List.append_eq_nil_iff] at h
      obtain ⟨⟨hname, hfields⟩, hrest⟩ := h
      exact List.forall_mem_cons.2
        ⟨exists_decode_property hproperties.1 hname hfields, ih hproperties.2 hrest⟩
  | case3 => cases h

/-- A list of names that breaks no rule can be read, if it is there. -/
theorem exists_strings_of_match {rule : Violation} {check : List String → List Violation} {v : Json}
    (h : (match strings? v with
      | none => [rule]
      | some names => check names) = []) : ∃ names, Decoder.strings v = .ok names := by
  cases hnames : strings? v with
  | none =>
      rw [hnames] at h
      cases h
  | some names => exact ⟨names, Decoder.strings_of_strings? hnames⟩

/-- A variant that breaks no rule is read. -/
theorem exists_decode_variant {i : Nat} {seen declared : List String} {ms : List (String × Json)}
    (hms : (Json.object ms).Distinct) (hname : checkVariantName i seen (.object ms) = [])
    (h : checkVariantFields false i declared ms = []) :
    ∃ v, Variant.decode (.object ms) = .ok v := by
  unfold checkVariantFields at h
  simp only [List.append_eq_nil_iff, when_eq_nil, List.flatMap_eq_nil_iff, List.forall_mem_cons]
    at h
  obtain ⟨⟨⟨⟨-, hinclude, hexclude, hrequired, -⟩, hsummary⟩, -⟩, -⟩ := h
  have hfits : ∀ f ∈ Variant.fields, Fits ms f := by
    simp only [Variant.fields, List.forall_mem_cons]
    refine ⟨?_, fits_optional_of_misused hsummary fun _ => Decoder.exists_string,
      fits_optional fun v hv => ?_, fits_optional fun v hv => ?_, fits_optional fun v hv => ?_,
      nofun⟩
    -- The name is looked at through `declaredName?`, and the three lists are checked in one way.
    · unfold checkVariantName declaredName? at hname
      cases hv : (Json.object ms).member? "name" with
      | none =>
          rw [hv] at hname
          cases hname
      | some v =>
          cases v with
          | string s => exact fits_required hv ⟨s, rfl⟩
          | _ =>
              rw [hv] at hname
              cases hname
    · rw [hv] at hrequired
      exact exists_strings_of_match hrequired
    · rw [hv] at hinclude
      exact exists_strings_of_match hinclude
    · rw [hv] at hexclude
      exact exists_strings_of_match hexclude
  have hall := members_of_fits "struct RecordVariantDef" hms.1 hfits
  simp only [Variant.fields, List.forall_mem_cons] at hfits
  obtain ⟨h₁, h₂, h₃, h₄, h₅, -⟩ := hfits
  obtain ⟨name, h₁⟩ := exists_get h₁
  obtain ⟨summary, h₂⟩ := exists_get? h₂
  obtain ⟨required, h₃⟩ := exists_get? h₃
  obtain ⟨included, h₄⟩ := exists_get? h₄
  obtain ⟨excluded, h₅⟩ := exists_get? h₅
  refine ⟨⟨name, summary, required, included, excluded⟩, ?_⟩
  simp only [Variant.decode, hall, h₁, h₂, h₃, h₄, h₅, bind, Except.bind, pure, Except.pure]

/-- So are all variants of a list that breaks no rule. -/
theorem exists_decode_variants {i : Nat} {seen declared : List String} {variants : List Json}
    (hvariants : Json.DistinctItems variants)
    (h : checkVariantList false declared i seen variants = []) :
    ∀ x ∈ variants, ∃ v, Variant.decode x = .ok v := by
  fun_induction checkVariantList false declared i seen variants with
  | case1 => exact fun _ hx => absurd hx List.not_mem_nil
  | case2 i seen ms variants ih =>
      simp only [List.append_eq_nil_iff] at h
      obtain ⟨⟨hname, hfields⟩, hrest⟩ := h
      exact List.forall_mem_cons.2
        ⟨exists_decode_variant hvariants.1 hname hfields, ih hvariants.2 hrest⟩
  | case3 => cases h

/-- The properties of a record fit their required field. -/
theorem fits_properties {ms : List (String × Json)} (hms : (Json.object ms).Distinct)
    (h : checkProperties false ms = []) :
    Fits ms (.required "properties" (Decoder.list Property.decode)) := by
  unfold checkProperties at h
  cases hv : ms.lookup "properties" with
  | none =>
      rw [hv] at h
      cases h
  | some v =>
      have hdistinct := Json.distinct_of_lookup hms hv
      rw [hv] at h
      cases v with
      | array xs =>
          obtain ⟨-, hlist⟩ := List.append_eq_nil_iff.1 h
          exact fits_required hv (Decoder.exists_list (exists_decode_properties hdistinct hlist))
      | _ => cases h

/-- The fields of a record fit when its parts and its cases break no rule. -/
theorem fits_record {ms : List (String × Json)} (hms : (Json.object ms).Distinct)
    (h : checkRecord false ms ++ checkTestCases true ms = []) :
    ∀ f ∈ Body.fields .record, Fits ms f := by
  unfold checkRecord checkTestCases at h
  simp only [List.append_eq_nil_iff] at h
  obtain ⟨⟨⟨hproperties, hrequired⟩, hvariants⟩, hvalid, hinvalid⟩ := h
  simp only [Body.fields, List.forall_mem_cons]
  refine ⟨fits_properties hms hproperties, fits_optional fun v hv => ?_,
    fits_optional fun v hv => ?_, fits_requiredExamples hms hvalid, fits_examples hms hinvalid,
    nofun⟩
  -- What is checked of `required` and `variants` is that they can be read, if they are there.
  · unfold checkRequiredList at hrequired
    rw [hv] at hrequired
    dsimp only at hrequired
    split at hrequired
    · next names hnames => exact ⟨names, Decoder.strings_of_strings? hnames⟩
    · cases hrequired
  · have hdistinct := Json.distinct_of_lookup hms hv
    unfold checkVariants at hvariants
    rw [hv] at hvariants
    cases v with
    | array xs => exact Decoder.exists_list (exists_decode_variants hdistinct hvariants)
    | _ => cases hvariants

/-! ## The definition -/

/-- The fields of a body of any kind fit. -/
theorem fits_body {kind : TypeKind} {ms : List (String × Json)} (hms : (Json.object ms).Distinct)
    (h : checkBody false kind ms = []) : ∀ f ∈ Body.fields kind, Fits ms f := by
  cases kind with
  | bool => exact fits_testCases hms h
  | enum => exact fits_enum hms h
  | int => exact fits_int hms h
  | float => exact fits_float hms h
  | string => exact fits_string hms h
  | object => exact fits_object hms h
  | record => exact fits_record hms h

/-- A body that breaks no rule is read as one of its kind. Every kind reads its own fields, which
all fit, and then puts the body together. -/
theorem exists_decode_body {kind : TypeKind} {ms : List (String × Json)}
    (hms : (Json.object ms).Distinct) (h : checkBody false kind ms = []) :
    ∃ body, Body.decode kind ms = .ok body := by
  have hfits := fits_body hms h
  have hall := checkAll_of_fits hms.1 hfits
  cases kind with
  | bool =>
      obtain ⟨cases, hcases⟩ := exists_decode_testCases hfits
      refine ⟨.bool cases, ?_⟩
      simp only [Body.decode, hall, hcases, bind, Except.bind, pure, Except.pure]
  | enum =>
      obtain ⟨items, hitems⟩ := exists_get (hfits _ (.head _))
      obtain ⟨dataType, hdata⟩ := exists_get? (hfits _ (.tail _ (.head _)))
      refine ⟨.enum ⟨items, dataType⟩, ?_⟩
      simp only [Body.decode, hall, hitems, hdata, bind, Except.bind, pure, Except.pure]
  | int =>
      -- Int, float, string and object have fields of their own before the two of their cases.
      obtain ⟨hown, hcases⟩ := List.forall_mem_append.1 hfits
      obtain ⟨cases, hcases⟩ := exists_decode_testCases hcases
      obtain ⟨minimum, hminimum⟩ := exists_get (hown _ (.head _))
      obtain ⟨maximum, hmaximum⟩ := exists_get (hown _ (.tail _ (.head _)))
      refine ⟨.int ⟨minimum, maximum, cases⟩, ?_⟩
      simp only [Body.decode, hall, hminimum, hmaximum, hcases, bind, Except.bind, pure,
        Except.pure]
  | float =>
      obtain ⟨hown, hcases⟩ := List.forall_mem_append.1 hfits
      obtain ⟨cases, hcases⟩ := exists_decode_testCases hcases
      simp only [List.forall_mem_cons] at hown
      obtain ⟨h₁, h₂, h₃, h₄, -⟩ := hown
      obtain ⟨minimum, h₁⟩ := exists_get h₁
      obtain ⟨maximum, h₂⟩ := exists_get h₂
      obtain ⟨low, h₃⟩ := exists_get? h₃
      obtain ⟨high, h₄⟩ := exists_get? h₄
      refine ⟨.float ⟨minimum, maximum, low, high, cases⟩, ?_⟩
      simp only [Body.decode, hall, h₁, h₂, h₃, h₄, hcases, bind, Except.bind, pure, Except.pure]
  | string =>
      obtain ⟨hown, hcases⟩ := List.forall_mem_append.1 hfits
      obtain ⟨cases, hcases⟩ := exists_decode_testCases hcases
      simp only [List.forall_mem_cons] at hown
      obtain ⟨h₁, h₂, h₃, -⟩ := hown
      obtain ⟨regex, h₁⟩ := exists_get? h₁
      obtain ⟨minimum, h₂⟩ := exists_get? h₂
      obtain ⟨maximum, h₃⟩ := exists_get h₃
      refine ⟨.string ⟨regex, minimum, maximum, cases⟩, ?_⟩
      simp only [Body.decode, hall, h₁, h₂, h₃, hcases, bind, Except.bind, pure, Except.pure]
  | object =>
      obtain ⟨hown, hcases⟩ := List.forall_mem_append.1 hfits
      obtain ⟨cases, hcases⟩ := exists_decode_testCases hcases
      obtain ⟨schema, hschema⟩ := exists_get (hown _ (.head _))
      refine ⟨.object ⟨schema, cases⟩, ?_⟩
      simp only [Body.decode, hall, hschema, hcases, bind, Except.bind, pure, Except.pure]
  | record =>
      -- A record reads its cases itself, since only the valid ones are required.
      simp only [Body.fields, List.forall_mem_cons] at hfits
      obtain ⟨h₁, h₂, h₃, h₄, h₅, -⟩ := hfits
      obtain ⟨properties, h₁⟩ := exists_get h₁
      obtain ⟨required, h₂⟩ := exists_get? h₂
      obtain ⟨variants, h₃⟩ := exists_get? h₃
      obtain ⟨valid, h₄⟩ := exists_get h₄
      obtain ⟨invalid, h₅⟩ := exists_get? h₅
      refine ⟨.record ⟨properties, required, variants, valid, invalid⟩, ?_⟩
      simp only [Body.decode, hall, h₁, h₂, h₃, h₄, h₅, bind, Except.bind, pure, Except.pure]

/-- A kind that breaks no rule is there and known. -/
theorem exists_kind_of_checkKind_eq_nil {ms : List (String × Json)} (h : checkKind ms = []) :
    ∃ s kind, ms.lookup "kind" = some (.string s) ∧ TypeKind.ofText? s = some kind := by
  unfold checkKind at h
  cases hv : ms.lookup "kind" with
  | none =>
      rw [hv] at h
      cases h
  | some v =>
      rw [hv] at h
      cases v with
      | string s =>
          obtain ⟨kind, hkind⟩ : ∃ kind, TypeKind.ofText? s = some kind := by
            -- The text of the kind is compared with the known ones.
            rw [Option.bind_some, Json.string?, when_eq_nil] at h
            cases hkind : TypeKind.ofText? s with
            | none =>
                rw [hkind] at h
                cases h
            | some kind => exact ⟨kind, rfl⟩
          exact ⟨s, kind, rfl, hkind⟩
      | _ => cases h

/-- What holds of the members of a definition that breaks no rule: the kind is known, the header and
the body break none either, and each member is a field. -/
theorem exists_of_violations_eq_nil {v : Json} (h : violations v = []) :
    ∃ ms kind, v = .object ms ∧ Field.get TypeKind.decode "kind" ms = .ok kind
      ∧ checkHeader false ms = [] ∧ checkBody false kind ms = []
      ∧ ∀ m ∈ ms, m.1 ∈ headerFields ++ kindFields kind := by
  unfold violations check at h
  split at h
  · next ms =>
      simp only [List.append_eq_nil_iff] at h
      obtain ⟨⟨hkind, hheader⟩, hrest⟩ := h
      -- The kind is found first, because what fields are known depends on it.
      obtain ⟨s, kind, hs, hkind⟩ := exists_kind_of_checkKind_eq_nil hkind
      have hknown : kind? ms = some kind := by
        rw [kind?, hs]
        exact hkind
      have hget : Field.get TypeKind.decode "kind" ms = .ok kind := by
        rw [Field.get, hs]
        show TypeKind.decode (.string s) = _
        rw [TypeKind.decode, hkind]
      rw [hknown] at hrest
      obtain ⟨hunknown, hbody⟩ := List.append_eq_nil_iff.1 hrest
      exact ⟨ms, kind, rfl, hget, hheader, hbody, unknownFields_eq_nil.1 hunknown⟩
  · cases h

/-- A value whose names are distinct and that breaks no rule can be read. -/
theorem exists_decode_of_violations_eq_nil {v : Json} (hv : v.Distinct) (h : violations v = []) :
    ∃ d, Definition.decode v = .ok d := by
  obtain ⟨ms, kind, rfl, hkind, hheader, hbody, -⟩ := exists_of_violations_eq_nil h
  obtain ⟨body, hbody⟩ := exists_decode_body hv hbody
  obtain ⟨header, hheader⟩ := exists_decode_header hv hheader
  exact ⟨⟨header, body⟩, bind_eq_ok.2 ⟨kind, hkind, bind_eq_ok.2 ⟨body, hbody,
    bind_eq_ok.2 ⟨header, hheader, rfl⟩⟩⟩⟩

end Shape

end TypeCatalog
