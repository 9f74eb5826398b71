import TypeCatalog.Proofs.Schema.Places
import TypeCatalog.Proofs.Validation.Forms

/-!
# Fragments with rewritten references

The emitter goes over a fragment twice. It lists the references to see whether their types are
known, and then it rewrites them. The two recursions go the same way: what is listed of the
rewritten fragment is what was listed before, reference by reference
(`Fragment.references_mapReferences`), and a fragment whose listed references stay is not changed
(`Fragment.mapReferences_eq_self`).

The document has the members of the header in front of those of the fragment.
`Emitter.emit_fragment` says when there is a document and what it carries: the references are
addresses of known types, which stay as they are when they are rewritten again, and nothing else of
the fragment is changed.

The two recursions are `Fragment.references` and `Fragment.mapReferences`, each mutual with one for
members and one for items. `referencesIn` and `mapMember` give what they do with a single member,
and every proof by induction on a fragment goes through them.
-/

set_option autoImplicit false

namespace TypeCatalog

/-! ## Outlines -/

/-- A value without what stands inside of its parts: the names of its members, the number of its
items, or all of it when it has no parts. -/
def Json.outline : Json → Json
  | .object ms => .object (ms.map fun m => (m.1, .null))
  | .array xs => .array (xs.map fun _ => .null)
  | v => v

namespace Fragment

variable {f : String → String} {path : String}

/-! ## Members -/

/-- The references that the value of a member holds, or that it is. -/
def referencesIn (path name : String) (v : Json) : List (String × String) :=
  if isDataMember name then []
  else if name = "$ref" ∧ v.isString then
    (v.string?.filter fun r => !isLocal r).toList.map fun r => (path ++ ".$ref", r)
  else references (path ++ "." ++ name) v

/-- The list of members is that of the first one and that of the rest. -/
theorem memberReferences_cons (name : String) (v : Json) (ms : List (String × Json)) :
    memberReferences path ((name, v) :: ms)
      = referencesIn path name v ++ memberReferences path ms := by
  rw [memberReferences]
  rfl

/-- The list of members that are joined is joined, too. -/
theorem memberReferences_append (ms ns : List (String × Json)) :
    memberReferences path (ms ++ ns) = memberReferences path ms ++ memberReferences path ns := by
  induction ms with
  | nil => rfl
  | cons m ms ih =>
      rw [List.cons_append, memberReferences_cons, memberReferences_cons, ih, List.append_assoc]

/-- Members that are left out take no more than their own references with them. -/
theorem memberReferences_sublist {ms ns : List (String × Json)} (h : ms.Sublist ns) :
    (memberReferences path ms).Sublist (memberReferences path ns) := by
  induction h with
  | slnil => exact .slnil
  | cons m _ ih =>
      rw [memberReferences_cons]
      exact ih.trans (List.sublist_append_right _ _)
  | cons_cons m _ ih =>
      rw [memberReferences_cons, memberReferences_cons]
      exact (List.Sublist.refl _).append ih

/-- The value of a member is data, or the text of a reference, or a fragment of its own. Both
recursions of the emitter tell the three apart. -/
theorem member_cases (name : String) (v : Json) :
    isDataMember name = true ∨ (∃ r, name = "$ref" ∧ v = .string r)
      ∨ isDataMember name = false ∧ ¬ (name = "$ref" ∧ v.isString = true) := by
  cases hdata : isDataMember name with
  | true => exact .inl rfl
  | false =>
      right
      by_cases href : name = "$ref" ∧ v.isString = true
      · left
        obtain ⟨rfl, hv⟩ := href
        cases v with
        | string r => exact ⟨r, rfl, rfl⟩
        | _ => cases hv
      · exact .inr ⟨rfl, href⟩

/-- Nothing is listed of a member for data. -/
theorem referencesIn_of_isDataMember {name : String} {v : Json} (h : isDataMember name = true) :
    referencesIn path name v = [] := if_pos h

/-- A reference is listed as it is, unless it is local. -/
theorem referencesIn_ref (path r : String) :
    referencesIn path "$ref" (.string r) = if isLocal r then [] else [(path ++ ".$ref", r)] := by
  unfold referencesIn
  rw [if_neg (by decide), if_pos ⟨rfl, rfl⟩]
  cases hlocal : isLocal r <;> simp [Json.string?, hlocal]

/-- Any other member is listed by what stands inside of it. -/
theorem referencesIn_of_not {name : String} {v : Json} (hdata : isDataMember name = false)
    (href : ¬ (name = "$ref" ∧ v.isString = true)) :
    referencesIn path name v = references (path ++ "." ++ name) v := by
  unfold referencesIn
  rw [if_neg (by simp [hdata]), if_neg href]

/-- And it is rewritten by what stands inside of it. -/
theorem mapMember_of_not {name : String} {v : Json} (hdata : isDataMember name = false)
    (href : ¬ (name = "$ref" ∧ v.isString = true)) : mapMember f name v = mapReferences f v := by
  unfold mapMember
  rw [if_neg (by simp [hdata])]
  split
  · exact absurd ⟨rfl, rfl⟩ href
  · rfl

/-- A reference within the fragment stays as it is. -/
theorem mapMember_of_isLocal {r : String} (h : isLocal r = true) :
    mapMember f "$ref" (.string r) = .string r := by
  show Json.string (if isLocal r then r else f r) = _
  rw [h]
  rfl

/-- A value stays a text, or stays none, when its references are rewritten. -/
@[simp]
theorem isString_mapReferences (v : Json) : (mapReferences f v).isString = v.isString := by
  cases v <;> rfl

/-! ## What is listed and what is rewritten -/

mutual
/-- A fragment whose references stay as they are is not changed. -/
theorem mapReferences_eq_self : ∀ {path : String} {v : Json},
    (∀ p ∈ references path v, f p.2 = p.2) → mapReferences f v = v
  | _, .object _, h => congrArg Json.object (mapMemberReferences_eq_self h)
  | _, .array _, h => congrArg Json.array (mapItemReferences_eq_self 0 h)
  | _, .null, _ | _, .bool _, _ | _, .number _, _ | _, .string _, _ => rfl

/-- `mapReferences_eq_self` for members. -/
theorem mapMemberReferences_eq_self : ∀ {path : String} {ms : List (String × Json)},
    (∀ p ∈ memberReferences path ms, f p.2 = p.2) → mapMemberReferences f ms = ms
  | _, [], _ => rfl
  | path, (name, v) :: ms, h => by
      rw [memberReferences_cons, List.forall_mem_append] at h
      rw [mapMemberReferences_cons, mapMemberReferences_eq_self h.2]
      rcases member_cases name v with hdata | ⟨r, rfl, rfl⟩ | ⟨hdata, href⟩
      · rw [mapMember_of_isDataMember hdata]
      · -- Only a reference to another type is listed, and the text of this one stays.
        cases hlocal : isLocal r with
        | true => rw [mapMember_of_isLocal hlocal]
        | false =>
            rw [referencesIn_ref, hlocal] at h
            have hr : f r = r := h.1 _ (.head _)
            rw [mapMember_ref hlocal, hr]
      · rw [referencesIn_of_not hdata href] at h
        rw [mapMember_of_not hdata href, mapReferences_eq_self h.1]

/-- `mapReferences_eq_self` for items. -/
theorem mapItemReferences_eq_self : ∀ {path : String} (i : Nat) {xs : List Json},
    (∀ p ∈ itemReferences path i xs, f p.2 = p.2) → mapItemReferences f xs = xs
  | _, _, [], _ => rfl
  | _, i, x :: xs, h => by
      rw [itemReferences, List.forall_mem_append] at h
      rw [mapItemReferences, mapReferences_eq_self h.1, mapItemReferences_eq_self (i + 1) h.2]
end

mutual
/-- The references of a rewritten fragment are those of the fragment, rewritten and each at its
place, as long as they still leave the fragment. -/
theorem references_mapReferences : ∀ {path : String} {v : Json},
    (∀ p ∈ references path v, isLocal (f p.2) = false) →
      references path (mapReferences f v) = (references path v).map fun p => (p.1, f p.2)
  | _, .object _, h => memberReferences_mapMemberReferences h
  | _, .array _, h => itemReferences_mapItemReferences 0 h
  | _, .null, _ | _, .bool _, _ | _, .number _, _ | _, .string _, _ => rfl

/-- `references_mapReferences` for members. -/
theorem memberReferences_mapMemberReferences : ∀ {path : String} {ms : List (String × Json)},
    (∀ p ∈ memberReferences path ms, isLocal (f p.2) = false) →
      memberReferences path (mapMemberReferences f ms)
        = (memberReferences path ms).map fun p => (p.1, f p.2)
  | _, [], _ => rfl
  | path, (name, v) :: ms, h => by
      rw [memberReferences_cons, List.forall_mem_append] at h
      rw [mapMemberReferences_cons, memberReferences_cons, memberReferences_cons, List.map_append,
        memberReferences_mapMemberReferences h.2]
      congr 1
      rcases member_cases name v with hdata | ⟨r, rfl, rfl⟩ | ⟨hdata, href⟩
      · rw [referencesIn_of_isDataMember hdata, referencesIn_of_isDataMember hdata, List.map_nil]
      · cases hlocal : isLocal r with
        | true =>
            -- A reference within the fragment is listed neither before nor after.
            rw [mapMember_of_isLocal hlocal, referencesIn_ref, hlocal]
            rfl
        | false =>
            rw [referencesIn_ref, hlocal] at h
            have hr : isLocal (f r) = false := h.1 _ (.head _)
            rw [mapMember_ref hlocal, referencesIn_ref, referencesIn_ref, hlocal, hr]
            rfl
      · rw [referencesIn_of_not hdata href] at h ⊢
        rw [mapMember_of_not hdata href, referencesIn_of_not hdata (by simpa using href),
          references_mapReferences h.1]

/-- `references_mapReferences` for items. -/
theorem itemReferences_mapItemReferences : ∀ {path : String} (i : Nat) {xs : List Json},
    (∀ p ∈ itemReferences path i xs, isLocal (f p.2) = false) →
      itemReferences path i (mapItemReferences f xs)
        = (itemReferences path i xs).map fun p => (p.1, f p.2)
  | _, _, [], _ => rfl
  | _, i, x :: xs, h => by
      rw [itemReferences, List.forall_mem_append] at h
      rw [mapItemReferences, itemReferences, itemReferences, List.map_append,
        references_mapReferences h.1, itemReferences_mapItemReferences (i + 1) h.2]
end

/-! ## What stays at a place -/

/-- What becomes of the value behind a step. -/
def mapStep (f : String → String) : Json.Step → Json → Json
  | .member name => mapMember f name
  | .item _ => mapReferences f

/-- A step into what was rewritten leads to what is rewritten of that step. -/
theorem value?_mapReferences_eq (step : Json.Step) (v : Json) :
    step.value? (mapReferences f v) = (step.value? v).map (mapStep f step) := by
  cases step with
  | member name =>
      cases v with
      | object ms => exact lookup_mapMemberReferences name ms
      | _ => rfl
  | item i =>
      cases v with
      | array xs => exact getElem?_mapItemReferences i xs
      | _ => rfl

/-- So does the first step of a place. -/
theorem at?_cons_mapReferences (step : Json.Step) (place : Json.Place) (v : Json) :
    (mapReferences f v).at? (step :: place)
      = (step.value? v).bind fun w => (mapStep f step w).at? place := by
  rw [Json.at?_cons, value?_mapReferences_eq, Option.bind_map]
  rfl

/-- A value behind a step is data, or the text of a reference, or a fragment of its own. -/
theorem mapStep_cases (step : Json.Step) (w : Json) :
    (isDataStep step = true ∧ mapStep f step w = w)
    ∨ (∃ r, step = .member "$ref" ∧ w = .string r)
    ∨ (isDataStep step = false ∧ mapStep f step w = mapReferences f w) := by
  cases step with
  | member name =>
      rcases member_cases name w with hdata | ⟨r, rfl, rfl⟩ | ⟨hdata, href⟩
      · exact .inl ⟨hdata, mapMember_of_isDataMember hdata⟩
      · exact .inr (.inl ⟨r, rfl, rfl⟩)
      · exact .inr (.inr ⟨hdata, mapMember_of_not hdata href⟩)
  | item i => exact .inr (.inr ⟨rfl, rfl⟩)

/-- Nothing inside of data is changed. -/
theorem at?_mapReferences_eq_of_isInData {place : Json.Place} (h : isInData place = true)
    (v : Json) : (mapReferences f v).at? place = v.at? place := by
  induction place generalizing v with
  | nil => cases h
  | cons step place ih =>
      rw [at?_cons_mapReferences, Json.at?_cons]
      refine Option.bind_congr fun w _ => ?_
      rcases mapStep_cases (f := f) step w with ⟨-, hw⟩ | ⟨r, rfl, rfl⟩ | ⟨hstep, hw⟩
      · rw [hw]
      · -- There is nothing inside of a text, and the place goes on, since it is not in data yet.
        cases place with
        | nil => cases h
        | cons next place =>
            show ((Json.string _).at? _ : Option Json) = _
            rw [Json.at?_cons, Json.value?_string, Json.at?_cons, Json.value?_string]
      · have hrest : isInData place = true := by
          unfold isInData at h
          rwa [List.any_cons, hstep, Bool.false_or] at h
        rw [hw, ih hrest]

/-- Whether the text at a place is a reference to another type, outside of data. -/
def IsReferenceAt (v : Json) (place : Json.Place) : Prop :=
  ∃ front r, place = front ++ [.member "$ref"] ∧ isInData front = false ∧ isLocal r = false
    ∧ referenceAt? v front = some r

/-- Rewriting leaves the outline of a value. -/
@[simp]
theorem outline_mapReferences (v : Json) : (mapReferences f v).outline = v.outline := by
  cases v with
  | object ms =>
      show Json.object ((mapMemberReferences f ms).map _) = .object (ms.map _)
      congr 1
      induction ms with
      | nil => rfl
      | cons m ms ih => rw [mapMemberReferences_cons, List.map_cons, List.map_cons, ih]
  | array xs =>
      show Json.array ((mapItemReferences f xs).map _) = .array (xs.map _)
      congr 1
      induction xs with
      | nil => rfl
      | cons x xs ih => rw [mapItemReferences, List.map_cons, List.map_cons, ih]
  | _ => rfl

/-- Wherever there is no reference to another type, the value keeps its outline. -/
theorem outline_at?_mapReferences {place : Json.Place} {v : Json} (h : ¬ IsReferenceAt v place) :
    ((mapReferences f v).at? place).map Json.outline = (v.at? place).map Json.outline := by
  induction place generalizing v with
  | nil => exact congrArg some (outline_mapReferences v)
  | cons step place ih =>
      rw [at?_cons_mapReferences, Json.at?_cons, Option.map_bind, Option.map_bind]
      -- A step leads to data, which stays, to a reference, which the hypothesis excludes, or to a
      -- value that is rewritten in the same way.
      refine Option.bind_congr fun w hw => ?_
      show ((mapStep f step w).at? place).map Json.outline = (w.at? place).map Json.outline
      rcases mapStep_cases (f := f) step w with ⟨-, hsame⟩ | ⟨r, rfl, rfl⟩ | ⟨hstep, hsame⟩
      · rw [hsame]
      · cases place with
        | nil =>
            cases hlocal : isLocal r with
            | true =>
                rw [show mapStep f (.member "$ref") (.string r) = .string r from
                  mapMember_of_isLocal hlocal]
            | false =>
                have href : referenceAt? v [] = some r := referenceAt?_eq_some.2 ⟨v, rfl, hw⟩
                exact absurd ⟨[], r, rfl, rfl, hlocal, href⟩ h
        | cons next place =>
            show ((Json.string _).at? _ : Option Json).map _ = _
            rw [Json.at?_cons, Json.value?_string, Json.at?_cons, Json.value?_string]
      · rw [hsame]
        refine ih ?_
        -- A reference inside of the value is one of the whole, one step further down.
        rintro ⟨front, r, rfl, hdata, hlocal, href⟩
        obtain ⟨x, hx, hr⟩ := referenceAt?_eq_some.1 href
        refine h ⟨step :: front, r, rfl, isInData_cons_eq_false.2 ⟨hstep, hdata⟩, hlocal, ?_⟩
        exact referenceAt?_eq_some.2 ⟨x, Json.at?_cons_eq_some.2 ⟨w, hw, hx⟩, hr⟩

/-! ## Members of a header -/

/-- Rewriting leaves the names of members. -/
@[simp]
theorem map_fst_mapMemberReferences (ms : List (String × Json)) :
    (mapMemberReferences f ms).map Prod.fst = ms.map Prod.fst := by
  induction ms with
  | nil => rfl
  | cons m ms ih => rw [mapMemberReferences_cons, List.map_cons, List.map_cons, ih]

/-- Members are chosen by their names before they are rewritten or afterwards. -/
theorem filter_mapMemberReferences (accepts : String → Bool) (ms : List (String × Json)) :
    (mapMemberReferences f ms).filter (fun m => accepts m.1)
      = mapMemberReferences f (ms.filter fun m => accepts m.1) := by
  induction ms with
  | nil => rfl
  | cons m ms ih =>
      obtain ⟨name, v⟩ := m
      rw [mapMemberReferences_cons, List.filter_cons, List.filter_cons, ih]
      cases accepts name with
      | true => rw [if_pos rfl, if_pos rfl, mapMemberReferences_cons]
      | false => rfl

/-- A header refers to nothing. -/
theorem memberReferences_headerMembers (e : Emitter) (typeName : String) (header : Header) :
    memberReferences path (e.headerMembers typeName header) = [] := by
  unfold Emitter.headerMembers
  simp only [memberReferences_append, List.append_eq_nil_iff]
  refine ⟨⟨⟨rfl, ?_⟩, ?_⟩, ?_⟩
  · split <;> rfl
  · split <;> rfl
  · split <;> rfl

end Fragment

/-! ## Emission -/

namespace Emitter

section

variable {domain : String} (hsign : '#' ∉ domain.toList) {t : String} (ht : Name.IsTypeName t)

include hsign ht

/-- The address of a type, with what stands behind it in some reference, is a reference to the type.
It is written down as it stands. -/
theorem emittedReference_uri_append (system reference : String) :
    (ofDomain domain).emittedReference system ((ofDomain domain).uri t ++ Fragment.behind reference)
      = (ofDomain domain).uri t ++ Fragment.behind reference := by
  have hfront := number_sign_notMem_uri hsign ht
  have hbehind := Fragment.behind_eq_or reference
  rw [emittedReference_eq, Fragment.behind_append hfront hbehind]
  unfold fragmentTarget
  rw [Fragment.splitPointer_fst_append hfront hbehind, Name.resolve_domain,
    Name.resolve_uri ht]

/-- What begins with an address of the web is not local. -/
theorem isLocal_uri_append (behind : String) :
    Fragment.isLocal ((ofDomain domain).uri t ++ behind) = false := by
  have hnot := number_sign_notMem_uri hsign ht
  refine decide_eq_false fun hhead => ?_
  rw [String.toList_append, toList_uri_ofDomain] at hhead
  rw [toList_uri_ofDomain] at hnot
  -- The address is not empty, so its first sign is the first one of the whole.
  cases hfront : Name.trimEndSlashes domain.toList with
  | nil =>
      rw [hfront] at hhead
      simp at hhead
  | cons c cs =>
      rw [hfront] at hhead hnot
      obtain rfl : c = '#' := by simpa using hhead
      exact hnot (.head _)

end

/-! ### What a document carries of a fragment -/

/-- The members of a fragment whose names the header does not take. -/
def carriedMembers (e : Emitter) (d : Definition) (fragment : Json) : List (String × Json) :=
  (fragment.members?.getD []).filter fun m =>
    !((e.headerMembers d.typeName d.header).map Prod.fst).contains m.1

/-- Whether a document has the address of a definition and carries its fragment. The members of the
header stand in front, and behind them, in their order, those of the fragment with other names. The
references are addresses of known types with what stood behind the types before, and they stay as
they are when the document is rewritten again. All else is what it is in the fragment: whatever
stands inside of data, and wherever there is no reference to another type. -/
structure Carries (e : Emitter) (known : KnownTypes) (d : Definition) (fragment : Json)
    (document : Document) : Prop where
  uri : document.uri = e.uri d.typeName
  id : document.schema.member? "$id" = some (.string document.uri)
  version : document.schema.member? "$schema" = some (.string draft)
  members : ∃ ms, document.schema = .object (e.headerMembers d.typeName d.header ++ ms)
    ∧ ms.map Prod.fst = (e.carriedMembers d fragment).map Prod.fst
  references : List.Forall₂ (fun p q => q.1 = p.1
      ∧ known.contains (e.fragmentTarget d.header.system p.2) = true
      ∧ q.2 = e.uri (e.fragmentTarget d.header.system p.2) ++ Fragment.behind p.2)
    (Fragment.memberReferences "jsonSchema" (e.carriedMembers d fragment))
    (Fragment.references "jsonSchema" document.schema)
  again : Fragment.mapReferences (e.emittedReference d.header.system) document.schema
    = document.schema
  data : ∀ name rest, name ∉ (e.headerMembers d.typeName d.header).map Prod.fst →
    Fragment.isInData (.member name :: rest) = true →
      document.schema.at? (.member name :: rest) = fragment.at? (.member name :: rest)
  others : ∀ name rest, name ∉ (e.headerMembers d.typeName d.header).map Prod.fst →
    ¬ Fragment.IsReferenceAt fragment (.member name :: rest) →
      (document.schema.at? (.member name :: rest)).map Json.outline
        = (fragment.at? (.member name :: rest)).map Json.outline

variable (e : Emitter) {known : KnownTypes} {d : Definition} {b : ObjectBody}

/-- The schema of an object has the members of its header in front of the carried ones, rewritten.
-/
theorem schema_typeDocument_carried (hbody : d.body = .object b) :
    (e.typeDocument d).schema = .object (e.headerMembers d.typeName d.header
      ++ Fragment.mapMemberReferences (e.emittedReference d.header.system)
        (e.carriedMembers d b.schema)) := by
  have hmembers :
      (Fragment.mapReferences (e.emittedReference d.header.system) b.schema).members?.getD []
      = Fragment.mapMemberReferences (e.emittedReference d.header.system)
        (b.schema.members?.getD []) := by
    cases b.schema <;> rfl
  have htaken (name : String) : ((e.headerMembers d.typeName d.header).lookup name).isNone
      = !((e.headerMembers d.typeName d.header).map Prod.fst).contains name := by
    rw [Bool.eq_iff_iff, Option.isNone_iff_eq_none, Table.lookup_eq_none_iff_forall]
    simp
  rw [e.schema_typeDocument_object hbody, withFragment, hmembers]
  simp only [htaken]
  rw [Fragment.filter_mapMemberReferences fun name =>
    !((e.headerMembers d.typeName d.header).map Prod.fst).contains name]
  rfl

/-- What is listed of the document is what was carried, rewritten. -/
theorem references_typeDocument (hbody : d.body = .object b) (path : String)
    (hleaves : ∀ p ∈ Fragment.memberReferences path (e.carriedMembers d b.schema),
      Fragment.isLocal (e.emittedReference d.header.system p.2) = false) :
    Fragment.references path (e.typeDocument d).schema
      = (Fragment.memberReferences path (e.carriedMembers d b.schema)).map fun p =>
          (p.1, e.emittedReference d.header.system p.2) := by
  rw [e.schema_typeDocument_carried hbody, Fragment.references, Fragment.memberReferences_append,
    Fragment.memberReferences_headerMembers, List.nil_append,
    Fragment.memberReferences_mapMemberReferences hleaves]

/-- What is carried refers to what the fragment refers to. -/
theorem memberReferences_carriedMembers_sublist (path : String) (fragment : Json) :
    (Fragment.memberReferences path (e.carriedMembers d fragment)).Sublist
      (Fragment.references path fragment) := by
  have hcarried : (e.carriedMembers d fragment).Sublist (fragment.members?.getD []) :=
    List.filter_sublist
  cases fragment with
  | object ms => exact Fragment.memberReferences_sublist hcarried
  | _ => exact List.nil_sublist _

/-- A member of another name than those of the header is the one of the rewritten fragment. -/
theorem at?_typeDocument (hbody : d.body = .object b) {name : String}
    (hname : name ∉ (e.headerMembers d.typeName d.header).map Prod.fst) (rest : Json.Place) :
    (e.typeDocument d).schema.at? (.member name :: rest)
      = (Fragment.mapReferences (e.emittedReference d.header.system) b.schema).at?
        (.member name :: rest) := by
  rw [e.schema_typeDocument_object hbody]
  exact congrArg (fun v : Option Json => v.bind (·.at? rest)) (lookup_withFragment _ hname)

/-- What becomes of a schema that is given as such, below a domain without number signs, when the
known types have names of types. It has a document exactly when all references that are listed of it
name known types. Otherwise there is one violation for each reference that names none, in the order
in which they are listed. The document carries the fragment. -/
theorem emit_fragment {domain : String} (hsign : '#' ∉ domain.toList)
    (hknown : ∀ t, known.contains t = true → Name.IsTypeName t) (hbody : d.body = .object b) :
    ((∃ emitted, (ofDomain domain).emit known d = .ok emitted)
      ↔ ∀ p ∈ Fragment.references "jsonSchema" b.schema,
        known.contains ((ofDomain domain).fragmentTarget d.header.system p.2) = true)
    ∧ (∀ vs, (ofDomain domain).emit known d = .error vs →
        vs = ((Fragment.references "jsonSchema" b.schema).filter fun p =>
            !known.contains ((ofDomain domain).fragmentTarget d.header.system p.2)).map fun p =>
          unresolved known .unknownPropertyType p.1
            ("Schema reference '" ++ p.2 ++ "' names unknown type '"
              ++ (ofDomain domain).fragmentTarget d.header.system p.2 ++ "'")
            ((ofDomain domain).fragmentTarget d.header.system p.2))
    ∧ ∀ emitted, (ofDomain domain).emit known d = .ok emitted →
        emitted.variants = [] ∧ (ofDomain domain).Carries known d b.schema emitted.document := by
  refine ⟨exists_emit_eq_ok_iff_references _ known hbody, ?_, ?_⟩
  · intro vs hvs
    -- The violations are those that `unresolvedReferences` lists.
    have hunresolved : (ofDomain domain).unresolvedReferences known d = vs := by
      unfold emit at hvs
      split at hvs
      · cases hvs
      · exact Except.error.inj hvs
    rw [← hunresolved, unresolvedReferences_object _ known hbody, ← List.filterMap_eq_map,
      List.filterMap_filter]
    refine List.filterMap_congr fun p _ => ?_
    dsimp only
    cases known.contains ((ofDomain domain).fragmentTarget d.header.system p.2) <;> rfl
  · intro emitted hemit
    obtain ⟨hnil, rfl⟩ := (emit_eq_ok_iff _ known).1 hemit
    have hall := (exists_emit_eq_ok_iff_references _ known hbody).1 ⟨_, hemit⟩
    -- What is carried is a part of the fragment, so its references are known as well.
    have hcarried : ∀ p ∈ Fragment.memberReferences "jsonSchema"
        ((ofDomain domain).carriedMembers d b.schema),
        known.contains ((ofDomain domain).fragmentTarget d.header.system p.2) = true := fun p hp =>
      hall p ((memberReferences_carriedMembers_sublist _ _ _).subset hp)
    have hreferences := references_typeDocument _ hbody "jsonSchema" fun p hp => by
      rw [emittedReference_eq]
      exact isLocal_uri_append hsign (hknown _ (hcarried p hp)) _
    have hschema := schema_typeDocument_carried (ofDomain domain) hbody
    refine ⟨?_, rfl, ?_, ?_, ⟨_, hschema, Fragment.map_fst_mapMemberReferences _⟩, ?_, ?_, ?_, ?_⟩
    · unfold variantDocuments
      rw [hbody]
    · rw [hschema]
      rfl
    · rw [hschema]
      rfl
    -- Every reference that is listed of the document comes from one of the fragment.
    · rw [hreferences, List.forall₂_map_right_iff, List.forall₂_same]
      exact fun p hp => ⟨rfl, hcarried p hp, emittedReference_eq _ _ _⟩
    · -- The addresses that were written are read as the same types.
      have hfixed :
          ∀ p ∈ Fragment.references "jsonSchema" ((ofDomain domain).typeDocument d).schema,
          (ofDomain domain).emittedReference d.header.system p.2 = p.2 := by
        rw [hreferences, List.forall_mem_map]
        intro p hp
        dsimp only
        rw [emittedReference_eq _ _ p.2,
          emittedReference_uri_append hsign (hknown _ (hcarried p hp))]
      exact Fragment.mapReferences_eq_self hfixed
    · intro name rest hname hdata
      rw [at?_typeDocument _ hbody hname, Fragment.at?_mapReferences_eq_of_isInData hdata]
    · intro name rest hname href
      rw [at?_typeDocument _ hbody hname, Fragment.outline_at?_mapReferences href]

/-- A fragment with an address of its own, a reference with a pointer behind it, one within the
fragment, and one inside of data to a type that does not exist. -/
def shelfSchema : Json := .object [("$id", .string "https://b.org/shelf"),
  ("type", .string "object"),
  ("properties", .object
    [("label", .object [("$ref", .string "label#/definitions/short")]),
      ("width", .object [("$ref", .string "#/definitions/width")])]),
  ("default", .object [("$ref", .string "missing")])]

def shelfDefinition : Definition :=
  ⟨⟨"test", "shelf", none, none, none, none, none, none⟩, .object ⟨shelfSchema, ⟨none, none⟩⟩⟩

/-- The document of the shelf has its own address, and refers to the label at that of the label. -/
theorem emit_shelfDefinition :
    ∃ emitted, (ofDomain "https://a.org/").emit ⟨[("test/label", .string)]⟩ shelfDefinition
        = .ok emitted
      ∧ emitted.document.schema.member? "$id" = some (.string "https://a.org/test/shelf")
      ∧ Fragment.references "jsonSchema" emitted.document.schema
        = [("jsonSchema.properties.label.$ref",
          "https://a.org/test/label#/definitions/short")]
      ∧ emitted.document.schema.at? [.member "default", .member "$ref"]
        = some (.string "missing") := by
  have hknown (t : String)
      (ht : KnownTypes.contains ⟨[("test/label", .string)]⟩ t = true) : Name.IsTypeName t := by
    obtain rfl : t = "test/label" := by
      simpa [KnownTypes.contains, KnownTypes.kind?] using ht
    exact ⟨"test", "label", by decide, by decide, rfl⟩
  have hsign : '#' ∉ "https://a.org/".toList := by decide
  obtain ⟨hiff, -, hcarries⟩ := emit_fragment hsign hknown (d := shelfDefinition) rfl
  obtain ⟨emitted, hemit⟩ := hiff.2 (by decide)
  obtain ⟨-, huri, hid, -, -, hreferences, -, hdata, -⟩ := hcarries emitted hemit
  refine ⟨emitted, hemit, ?_, ?_, hdata "default" [.member "$ref"] (by decide) rfl⟩
  · rw [hid, huri]
    rfl
  · have hlisted : Fragment.memberReferences "jsonSchema"
        ((ofDomain "https://a.org/").carriedMembers shelfDefinition shelfSchema)
        = [("jsonSchema.properties.label.$ref", "label#/definitions/short")] := by decide
    rw [hlisted] at hreferences
    obtain ⟨⟨path, text⟩, rest, ⟨rfl, -, rfl⟩, hnone, hall⟩ :=
      List.forall₂_cons_left_iff.1 hreferences
    obtain rfl := List.forall₂_nil_left_iff.1 hnone
    rw [hall]
    rfl

end Emitter

end TypeCatalog
