import TypeCatalog.Proofs.Json.Place
import TypeCatalog.Proofs.Schema.Reference
import TypeCatalog.Proofs.Validation.Document

/-!
# Where references are seen

A fragment may hold references wherever it holds schemas: at its root, under the names that
`properties`, `patternProperties` and `definitions` give, and behind the keywords that hold schemas.
The emitter goes down to every value of a fragment, whatever stands above it, with one exception:
it passes over the members whose name is that of a keyword for data. It cannot tell a keyword from a
name that an author chose, so it passes over a property of the name `default`, too.

`Emitter.emit_at_schemaPlace` says what follows for a reference at a place where schemas stand.
Where no step to the place has the name of a keyword for data, the reference is checked and
rewritten. Where one has, the reference is written as it stands, whatever it names.

`Emitter.unresolvedReferences` checks what `Fragment.references` lists, and `Emitter.typeDocument`
writes what `Fragment.mapReferences` makes of the fragment. Both ask `Fragment.isDataMember` of
every member name, which is the mechanism behind the exception. `mem_references` and
`exists_of_mem_references` describe the list by places, and `value?_mapReferences` follows one step
into what was rewritten.
-/

set_option autoImplicit false

namespace TypeCatalog

namespace Fragment

/-! ## Places -/

/-- Whether a step leads to a member that is taken for data. -/
def isDataStep : Json.Step → Bool
  | .member name => isDataMember name
  | .item _ => false

/-- Whether a place lies inside a member that is taken for data. -/
def isInData (place : Json.Place) : Bool := place.any isDataStep

/-- The keywords whose value gives schemas to names of the author's choice. -/
def namingKeywords : List String := ["properties", "patternProperties", "definitions"]

/-- The keywords whose value may be a schema. -/
def schemaKeywords : List String := ["items", "additionalProperties", "not"]

/-- The keywords whose value may be a list of schemas. -/
def listKeywords : List String := ["items", "allOf", "anyOf", "oneOf"]

/-- The places of a fragment where schemas stand. -/
inductive IsSchemaPlace : Json.Place → Prop where
  | root : IsSchemaPlace []
  | named {keyword name : String} {place : Json.Place} (hkeyword : keyword ∈ namingKeywords)
      (rest : IsSchemaPlace place) : IsSchemaPlace (.member keyword :: .member name :: place)
  | direct {keyword : String} {place : Json.Place} (hkeyword : keyword ∈ schemaKeywords)
      (rest : IsSchemaPlace place) : IsSchemaPlace (.member keyword :: place)
  | listed {keyword : String} {i : Nat} {place : Json.Place} (hkeyword : keyword ∈ listKeywords)
      (rest : IsSchemaPlace place) : IsSchemaPlace (.member keyword :: .item i :: place)

/-- The reference that the schema at a place is. -/
def referenceAt? (fragment : Json) (place : Json.Place) : Option String :=
  ((fragment.at? place).bind (·.member? "$ref")).bind Json.string?

/-- The reference at a place is the text of the member `$ref` of the value there. -/
theorem referenceAt?_eq_some {fragment : Json} {place : Json.Place} {reference : String} :
    referenceAt? fragment place = some reference
      ↔ ∃ v, fragment.at? place = some v ∧ v.member? "$ref" = some (.string reference) := by
  unfold referenceAt?
  rw [Option.bind_eq_some_iff]
  constructor
  · rintro ⟨w, hw, hstring⟩
    obtain ⟨v, hv, hmember⟩ := Option.bind_eq_some_iff.1 hw
    cases w <;> cases hstring
    exact ⟨v, hv, hmember⟩
  · rintro ⟨v, hv, hmember⟩
    exact ⟨_, Option.bind_eq_some_iff.2 ⟨v, hv, hmember⟩, rfl⟩

/-- A place is outside of data when each of its steps is. -/
theorem isInData_cons_eq_false {step : Json.Step} {place : Json.Place} :
    isInData (step :: place) = false ↔ isDataStep step = false ∧ isInData place = false := by
  unfold isInData
  rw [List.any_cons, Bool.or_eq_false_iff]

/-- A value that holds more than a text is no text. -/
theorem isString_of_at? {v x : Json} {place : Json.Place} (h : v.at? place = some x)
    (hx : x.isString = false) : v.isString = false := by
  cases v with
  | string s =>
      rw [Json.at?_string_eq_some h] at hx
      exact hx
  | _ => rfl

/-- A value with members is no text. -/
theorem isString_of_member? {v x : Json} {name : String} (h : v.member? name = some x) :
    v.isString = false := by
  cases v with
  | object ms => rfl
  | _ => cases h

/-! ## References that are collected -/

variable {path : String}

/-- A reference among members is collected. -/
theorem mem_memberReferences_of_ref {r : String} (hlocal : isLocal r = false) :
    ∀ {ms : List (String × Json)}, ms.lookup "$ref" = some (.string r) →
      (path ++ ".$ref", r) ∈ memberReferences path ms
  | [], h => by cases h
  | (k, v) :: ms, h => by
      rw [memberReferences, List.mem_append]
      rw [List.lookup_cons] at h
      split at h
      · next hk =>
          obtain rfl := beq_iff_eq.1 hk
          cases h
          left
          rw [if_neg (by decide), if_pos ⟨rfl, rfl⟩]
          simp [Json.string?, hlocal]
      · exact .inr (mem_memberReferences_of_ref hlocal h)

/-- What is collected inside a member is collected, if the member is neither taken for data nor a
reference itself. -/
theorem mem_memberReferences {name : String} {v : Json} (hdata : isDataMember name = false)
    (hv : v.isString = false) {p : String × String}
    (hp : p ∈ references (path ++ "." ++ name) v) :
    ∀ {ms : List (String × Json)}, ms.lookup name = some v → p ∈ memberReferences path ms
  | [], h => by cases h
  | (k, w) :: ms, h => by
      rw [memberReferences, List.mem_append]
      rw [List.lookup_cons] at h
      split at h
      · next hk =>
          obtain rfl := beq_iff_eq.1 hk
          cases h
          left
          rw [if_neg (by rw [hdata]; exact Bool.false_ne_true),
            if_neg fun hand => by rw [hv] at hand; cases hand.2]
          exact hp
      · exact .inr (mem_memberReferences hdata hv hp h)

/-- What is collected inside an item is collected. -/
theorem mem_itemReferences {v : Json} {p : String × String} :
    ∀ (start i : Nat) {xs : List Json}, xs[i]? = some v →
      p ∈ references (path ++ "[" ++ toString (start + i) ++ "]") v →
      p ∈ itemReferences path start xs
  | _, _, [], h, _ => by cases h
  | start, 0, x :: xs, h, hp => by
      cases h
      rw [itemReferences, List.mem_append]
      exact .inl hp
  | start, i + 1, x :: xs, h, hp => by
      rw [itemReferences, List.mem_append]
      right
      refine mem_itemReferences (start + 1) i h ?_
      rwa [Nat.add_assoc, Nat.add_comm 1 i]

/-- Every reference outside of data is collected, with its place. -/
theorem mem_references (path : String) {place : Json.Place} {v : Json} {r : String}
    (hdata : isInData place = false) (hlocal : isLocal r = false)
    (h : referenceAt? v place = some r) :
    (Json.placeText path place ++ ".$ref", r) ∈ references path v := by
  obtain ⟨x, hx, hr⟩ := referenceAt?_eq_some.1 h
  clear h
  -- The collection goes down as the place does, one step at a time.
  induction place generalizing v path with
  | nil =>
      cases hx
      cases x with
      | object ms => exact mem_memberReferences_of_ref hlocal hr
      | _ => cases hr
  | cons step place ih =>
      obtain ⟨hstep, hrest⟩ := isInData_cons_eq_false.1 hdata
      obtain ⟨w, hw, hat⟩ := Json.at?_cons_eq_some.1 hx
      have hp := ih (step.extend path) hrest hat
      have hstring : w.isString = false := isString_of_at? hat (isString_of_member? hr)
      cases step with
      | member name =>
          cases v with
          | object ms => exact mem_memberReferences hstep hstring hp hw
          | _ => cases hw
      | item i =>
          cases v with
          | array xs =>
              refine mem_itemReferences 0 i hw ?_
              rw [Nat.zero_add]
              exact hp
          | _ => cases hw

/-- A member in front of others of different names hides none of the references behind it. -/
theorem referenceAt?_cons_of_notMem {name : String} {v : Json} {ms : List (String × Json)}
    (hname : name ∉ ms.map Prod.fst) {place : Json.Place} {r : String}
    (h : referenceAt? (.object ms) place = some r) :
    referenceAt? (.object ((name, v) :: ms)) place = some r := by
  have hlookup {key : String} {x : Json} (hx : ms.lookup key = some x) :
      ((name, v) :: ms).lookup key = some x := by
    have hne : key ≠ name := by
      rintro rfl
      exact hname (List.mem_map.2 ⟨_, Table.mem_of_lookup hx, rfl⟩)
    rw [List.lookup_cons, beq_false_of_ne hne]
    exact hx
  obtain ⟨x, hx, hr⟩ := referenceAt?_eq_some.1 h
  -- The place is the root, where `$ref` is the member itself, or it goes through a member behind
  -- the first.
  cases place with
  | nil =>
      cases hx
      exact referenceAt?_eq_some.2 ⟨_, rfl, hlookup hr⟩
  | cons step place =>
      obtain ⟨w, hw, hrest⟩ := Json.at?_cons_eq_some.1 hx
      cases step with
      | member key =>
          exact referenceAt?_eq_some.2 ⟨x, Json.at?_cons_eq_some.2 ⟨w, hlookup hw, hrest⟩, hr⟩
      | item i => cases hw

mutual
/-- Whatever is collected stands at a place outside of data. -/
theorem exists_of_mem_references {p : String × String} :
    ∀ {path : String} {v : Json}, v.Distinct → p ∈ references path v →
      ∃ place, isInData place = false ∧ isLocal p.2 = false ∧ referenceAt? v place = some p.2
        ∧ p.1 = Json.placeText path place ++ ".$ref"
  | _, .object _, hdistinct, h => exists_of_mem_memberReferences hdistinct.2 hdistinct.1 h
  | path, .array xs, hdistinct, h => by
      obtain ⟨i, x, place, hx, hdata, hlocal, href, hpath⟩ :=
        exists_of_mem_itemReferences 0 hdistinct h
      obtain ⟨y, hy, hr⟩ := referenceAt?_eq_some.1 href
      refine ⟨.item i :: place, hdata, hlocal, ?_, ?_⟩
      · exact referenceAt?_eq_some.2 ⟨y, Json.at?_cons_eq_some.2 ⟨x, hx, hy⟩, hr⟩
      · rw [Nat.zero_add] at hpath
        exact hpath

/-- `exists_of_mem_references` for members. -/
theorem exists_of_mem_memberReferences {p : String × String} :
    ∀ {path : String} {ms : List (String × Json)}, Json.DistinctMembers ms →
      (ms.map Prod.fst).Nodup → p ∈ memberReferences path ms →
      ∃ place, isInData place = false ∧ isLocal p.2 = false
        ∧ referenceAt? (.object ms) place = some p.2
        ∧ p.1 = Json.placeText path place ++ ".$ref"
  | _, [], _, _, h => by cases h
  | path, (k, v) :: ms, hdistinct, hnodup, h => by
      rw [List.map_cons, List.nodup_cons] at hnodup
      rw [memberReferences, List.mem_append] at h
      rcases h with h | h
      -- Members for data are passed over, a `$ref` with a text is listed, and in anything else the
      -- list goes on.
      · by_cases hdata : isDataMember k = true
        · rw [if_pos hdata] at h
          cases h
        · rw [if_neg hdata] at h
          by_cases hand : k = "$ref" ∧ v.isString = true
          · obtain ⟨rfl, hv⟩ := hand
            rw [if_pos ⟨rfl, hv⟩] at h
            cases v with
            | string r =>
                obtain ⟨r', hr', rfl⟩ := List.mem_map.1 h
                obtain ⟨hr, hlocal⟩ := Option.filter_eq_some_iff.1 (Option.mem_toList.1 hr')
                cases hr
                refine ⟨[], rfl, by simpa using hlocal, ?_, rfl⟩
                have href : (("$ref", Json.string r) :: ms).lookup "$ref" = some (.string r) :=
                  List.lookup_cons_self
                exact referenceAt?_eq_some.2 ⟨_, rfl, href⟩
            | _ => cases hv
          · rw [if_neg hand] at h
            obtain ⟨place, hplace, hlocal, href, hpath⟩ := exists_of_mem_references hdistinct.1 h
            obtain ⟨x, hx, hr⟩ := referenceAt?_eq_some.1 href
            refine ⟨.member k :: place, ?_, hlocal, ?_, hpath⟩
            · exact isInData_cons_eq_false.2 ⟨Bool.eq_false_iff.2 hdata, hplace⟩
            · exact referenceAt?_eq_some.2
                ⟨x, Json.at?_cons_eq_some.2 ⟨v, List.lookup_cons_self, hx⟩, hr⟩
      · obtain ⟨place, hplace, hlocal, href, hpath⟩ :=
          exists_of_mem_memberReferences hdistinct.2 hnodup.2 h
        exact ⟨place, hplace, hlocal, referenceAt?_cons_of_notMem hnodup.1 href, hpath⟩

/-- `exists_of_mem_references` for items. -/
theorem exists_of_mem_itemReferences {p : String × String} :
    ∀ {path : String} (start : Nat) {xs : List Json}, Json.DistinctItems xs →
      p ∈ itemReferences path start xs →
      ∃ i x place, xs[i]? = some x ∧ isInData place = false ∧ isLocal p.2 = false
        ∧ referenceAt? x place = some p.2
        ∧ p.1 = Json.placeText (path ++ "[" ++ toString (start + i) ++ "]") place ++ ".$ref"
  | path, start, [], _, h => by cases h
  | path, start, x :: xs, hdistinct, h => by
      rw [itemReferences, List.mem_append] at h
      rcases h with h | h
      · obtain ⟨place, hplace, hlocal, href, hpath⟩ := exists_of_mem_references hdistinct.1 h
        exact ⟨0, x, place, rfl, hplace, hlocal, href, hpath⟩
      · obtain ⟨i, y, place, hy, hplace, hlocal, href, hpath⟩ :=
          exists_of_mem_itemReferences (start + 1) hdistinct.2 h
        rw [Nat.add_assoc, Nat.add_comm 1 i] at hpath
        exact ⟨i + 1, y, place, hy, hplace, hlocal, href, hpath⟩
end

/-! ## References that are rewritten -/

variable {f : String → String}

/-- What becomes of the value of a member. -/
def mapMember (f : String → String) (name : String) (v : Json) : Json :=
  if isDataMember name then v
  else
    match name, v with
    | "$ref", .string r => .string (if isLocal r then r else f r)
    | _, v => mapReferences f v

/-- The first member is rewritten, and so are the rest. -/
theorem mapMemberReferences_cons (name : String) (v : Json) (ms : List (String × Json)) :
    mapMemberReferences f ((name, v) :: ms)
      = (name, mapMember f name v) :: mapMemberReferences f ms := by
  rw [mapMemberReferences.eq_def]
  dsimp only
  unfold mapMember
  rfl

/-- The member of a name is rewritten and keeps its name. -/
theorem lookup_mapMemberReferences (name : String) (ms : List (String × Json)) :
    (mapMemberReferences f ms).lookup name = (ms.lookup name).map (mapMember f name) := by
  induction ms with
  | nil => rfl
  | cons m ms ih =>
      obtain ⟨k, v⟩ := m
      rw [mapMemberReferences_cons, List.lookup_cons, List.lookup_cons]
      split
      · next hk =>
          obtain rfl := beq_iff_eq.1 hk
          rfl
      · exact ih

/-- So is the item at an index. -/
theorem getElem?_mapItemReferences (i : Nat) (xs : List Json) :
    (mapItemReferences f xs)[i]? = xs[i]?.map (mapReferences f) := by
  induction xs generalizing i with
  | nil => rfl
  | cons x xs ih =>
      cases i with
      | zero => rfl
      | succ i => exact ih i

/-- A member that is data stays as it is. -/
theorem mapMember_of_isDataMember {name : String} {v : Json} (h : isDataMember name = true) :
    mapMember f name v = v := if_pos h

/-- A member that is neither data nor a text is rewritten as a fragment. -/
theorem mapMember_of_isString {name : String} {v : Json} (h : isDataMember name = false)
    (hv : v.isString = false) : mapMember f name v = mapReferences f v := by
  unfold mapMember
  rw [if_neg (by rw [h]; exact Bool.false_ne_true)]
  split
  · cases hv
  · rfl

/-- A reference that leaves the fragment is rewritten. -/
theorem mapMember_ref {r : String} (h : isLocal r = false) :
    mapMember f "$ref" (.string r) = .string (f r) := by
  show Json.string (if isLocal r then r else f r) = _
  rw [h]
  rfl

/-- One step into a fragment that was rewritten, to a value that is no text. -/
theorem value?_mapReferences {step : Json.Step} {v w : Json} (hw : step.value? v = some w)
    (hstring : w.isString = false) :
    step.value? (mapReferences f v)
      = some (if isDataStep step then w else mapReferences f w) := by
  cases step with
  | member name =>
      cases v with
      | object ms =>
          have hlookup : ms.lookup name = some w := hw
          show (mapMemberReferences f ms).lookup name = some (if isDataMember name then w else _)
          rw [lookup_mapMemberReferences, hlookup, Option.map_some]
          cases hdata : isDataMember name with
          | true => rw [mapMember_of_isDataMember hdata, if_pos rfl]
          | false => rw [mapMember_of_isString hdata hstring, if_neg Bool.false_ne_true]
      | _ => cases hw
  | item i =>
      cases v with
      | array xs =>
          have hitem : xs[i]? = some w := hw
          show (mapItemReferences f xs)[i]? = some (mapReferences f w)
          rw [getElem?_mapItemReferences, hitem, Option.map_some]
      | _ => cases hw

/-- What stands at a place outside of data is rewritten. -/
theorem at?_mapReferences {place : Json.Place} {v x : Json} (hdata : isInData place = false)
    (h : v.at? place = some x) (hx : x.isString = false) :
    (mapReferences f v).at? place = some (mapReferences f x) := by
  induction place generalizing v with
  | nil =>
      cases h
      rfl
  | cons step place ih =>
      obtain ⟨hstep, hrest⟩ := isInData_cons_eq_false.1 hdata
      obtain ⟨w, hw, hat⟩ := Json.at?_cons_eq_some.1 h
      have hstring : w.isString = false := isString_of_at? hat hx
      refine Json.at?_cons_eq_some.2 ⟨mapReferences f w, ?_, ih hrest hat⟩
      rw [value?_mapReferences hw hstring, hstep, if_neg Bool.false_ne_true]

/-- What stands at a place inside of data stays as it is. -/
theorem at?_mapReferences_of_isInData {place : Json.Place} {v x : Json}
    (hdata : isInData place = true) (h : v.at? place = some x) (hx : x.isString = false) :
    (mapReferences f v).at? place = some x := by
  induction place generalizing v with
  | nil => cases hdata
  | cons step place ih =>
      obtain ⟨w, hw, hat⟩ := Json.at?_cons_eq_some.1 h
      have hstring : w.isString = false := isString_of_at? hat hx
      cases hstep : isDataStep step with
      | true =>
          refine Json.at?_cons_eq_some.2 ⟨w, ?_, hat⟩
          rw [value?_mapReferences hw hstring, hstep, if_pos rfl]
      | false =>
          have hrest : isInData place = true := by
            unfold isInData at hdata
            rwa [List.any_cons, hstep, Bool.false_or] at hdata
          refine Json.at?_cons_eq_some.2 ⟨mapReferences f w, ?_, ih hrest hat⟩
          rw [value?_mapReferences hw hstring, hstep, if_neg Bool.false_ne_true]

/-- A reference outside of data is rewritten. -/
theorem referenceAt?_mapReferences {place : Json.Place} {v : Json} {r : String}
    (hdata : isInData place = false) (hlocal : isLocal r = false)
    (h : referenceAt? v place = some r) :
    referenceAt? (mapReferences f v) place = some (f r) := by
  obtain ⟨x, hx, hr⟩ := referenceAt?_eq_some.1 h
  refine referenceAt?_eq_some.2 ⟨_, at?_mapReferences hdata hx (isString_of_member? hr), ?_⟩
  cases x with
  | object ms =>
      have hlookup : ms.lookup "$ref" = some (.string r) := hr
      show (mapMemberReferences f ms).lookup "$ref" = some (.string (f r))
      rw [lookup_mapMemberReferences, hlookup, Option.map_some, mapMember_ref hlocal]
  | _ => cases hr

/-- A reference inside of data stays as it is. -/
theorem referenceAt?_mapReferences_of_isInData {place : Json.Place} {v : Json} {r : String}
    (hdata : isInData place = true) (h : referenceAt? v place = some r) :
    referenceAt? (mapReferences f v) place = some r := by
  obtain ⟨x, hx, hr⟩ := referenceAt?_eq_some.1 h
  exact referenceAt?_eq_some.2
    ⟨x, at?_mapReferences_of_isInData hdata hx (isString_of_member? hr), hr⟩

end Fragment

/-! ## Emission -/

namespace Emitter

variable (e : Emitter) (known : KnownTypes) {d : Definition} {b : ObjectBody}

/-- What is not resolved of an object are the listed references of its fragment whose types are not
known. -/
theorem unresolvedReferences_object (hbody : d.body = .object b) :
    e.unresolvedReferences known d
      = (Fragment.references "jsonSchema" b.schema).filterMap fun (path, reference) =>
          if known.contains (e.fragmentTarget d.header.system reference) then none
          else some <| unresolved known .unknownPropertyType path
            ("Schema reference '" ++ reference ++ "' names unknown type '"
              ++ e.fragmentTarget d.header.system reference ++ "'")
            (e.fragmentTarget d.header.system reference) := by
  unfold unresolvedReferences
  rw [hbody]

/-- A definition is emitted exactly when nothing is unresolved, and then as the documents of its
type and of its variants. -/
theorem emit_eq_ok_iff {emitted : Emitted} :
    e.emit known d = .ok emitted
      ↔ e.unresolvedReferences known d = []
        ∧ emitted = ⟨e.typeDocument d, e.variantDocuments d⟩ := by
  unfold emit
  cases e.unresolvedReferences known d with
  | nil => simp [eq_comm]
  | cons v vs => simp

/-- The document of a schema that is given as such: what the header leaves of the fragment with its
references rewritten. -/
theorem schema_typeDocument_object (hbody : d.body = .object b) :
    (e.typeDocument d).schema = .object (withFragment (e.headerMembers d.typeName d.header)
      (Fragment.mapReferences (e.emittedReference d.header.system) b.schema)) := by
  unfold typeDocument
  dsimp only
  rw [hbody]
  rfl

/-- What the header does not take is found in the fragment. -/
theorem lookup_withFragment {ms : List (String × Json)} {name : String} (fragment : Json)
    (hname : name ∉ ms.map Prod.fst) :
    (withFragment ms fragment).lookup name = fragment.member? name := by
  -- The header has no such member, so the ones that are filtered out of the fragment have other
  -- names.
  have hnone : ms.lookup name = none := Table.lookup_eq_none_iff_forall.2 hname
  have hfilter (ns : List (String × Json)) :
      (ns.filter fun m => (ms.lookup m.1).isNone).lookup name = ns.lookup name := by
    induction ns with
    | nil => rfl
    | cons n ns ih =>
        obtain ⟨k, v⟩ := n
        rw [List.filter_cons, List.lookup_cons]
        by_cases hk : name = k
        · subst hk
          rw [if_pos (by rw [hnone]; rfl), List.lookup_cons_self, beq_self_eq_true]
        · rw [beq_false_of_ne hk]
          split
          · rw [List.lookup_cons, beq_false_of_ne hk]
            exact ih
          · exact ih
  unfold withFragment
  rw [List.lookup_append, hnone, Option.none_or, hfilter]
  cases fragment <;> rfl

/-- No header has a member of a name that an author's schema uses to hold schemas or to refer. -/
theorem notMem_headerMembers {typeName name : String} {header : Header}
    (hname : name ∈ "$ref" :: Fragment.namingKeywords ++ Fragment.schemaKeywords
      ++ Fragment.listKeywords) : name ∉ (e.headerMembers typeName header).map Prod.fst := by
  have hapart : ∀ n ∈ "$ref" :: Fragment.namingKeywords ++ Fragment.schemaKeywords
      ++ Fragment.listKeywords,
      n ∉ ["$schema", "$id", "title", "description", "deprecated", "examples"] := by decide
  intro hmem
  obtain ⟨m, hm, rfl⟩ := List.mem_map.1 hmem
  exact hapart m.1 hname (fst_mem_of_mem_headerMembers hm)

/-- The references of the document, at the places of schemas, are those of the fragment that was
rewritten: the header hides none of them. -/
theorem referenceAt?_typeDocument (hbody : d.body = .object b) {place : Json.Place}
    (hplace : Fragment.IsSchemaPlace place) :
    Fragment.referenceAt? (e.typeDocument d).schema place
      = Fragment.referenceAt?
          (Fragment.mapReferences (e.emittedReference d.header.system) b.schema) place := by
  rw [e.schema_typeDocument_object hbody]
  generalize Fragment.mapReferences (e.emittedReference d.header.system) b.schema = fragment
  have hmember {name : String} (rest : Json.Place) (hname : name ∈ "$ref"
      :: Fragment.namingKeywords ++ Fragment.schemaKeywords ++ Fragment.listKeywords) :
      (Json.object (withFragment (e.headerMembers d.typeName d.header) fragment)).at?
        (.member name :: rest) = fragment.at? (.member name :: rest) :=
    congrArg (fun v : Option Json => v.bind (·.at? rest))
      (lookup_withFragment fragment (e.notMem_headerMembers hname))
  unfold Fragment.referenceAt?
  cases hplace with
  | root =>
      exact congrArg (Option.bind · Json.string?)
        (lookup_withFragment fragment (e.notMem_headerMembers (by simp)))
  | named hkeyword rest => rw [hmember _ (by simp [hkeyword])]
  | direct hkeyword rest => rw [hmember _ (by simp [hkeyword])]
  | listed hkeyword rest => rw [hmember _ (by simp [hkeyword])]

/-- A schema that is given as such has documents exactly when the types of all the references that
are listed of it are known. -/
theorem exists_emit_eq_ok_iff_references (hbody : d.body = .object b) :
    (∃ emitted, e.emit known d = .ok emitted)
      ↔ ∀ p ∈ Fragment.references "jsonSchema" b.schema,
        known.contains (e.fragmentTarget d.header.system p.2) = true := by
  simp only [e.emit_eq_ok_iff, exists_and_left, exists_eq, and_true]
  rw [e.unresolvedReferences_object known hbody, List.filterMap_eq_nil_iff]
  refine forall₂_congr fun p _ => ?_
  dsimp only
  by_cases hknown : known.contains (e.fragmentTarget d.header.system p.2) = true
  · rw [if_pos hknown]
    exact iff_of_true rfl hknown
  · rw [if_neg hknown]
    exact iff_of_false (Option.some_ne_none _) hknown

/-- A schema that is given as such has documents exactly when the types of all its references
outside of data are known. What stands inside of data makes no difference. -/
theorem exists_emit_eq_ok_iff (hbody : d.body = .object b) (hdistinct : b.schema.Distinct) :
    (∃ emitted, e.emit known d = .ok emitted)
      ↔ ∀ place r, Fragment.isInData place = false → Fragment.isLocal r = false →
          Fragment.referenceAt? b.schema place = some r →
          known.contains (e.fragmentTarget d.header.system r) = true := by
  rw [e.exists_emit_eq_ok_iff_references known hbody]
  constructor
  · intro h place r hdata hlocal href
    have hmem := Fragment.mem_references "jsonSchema" hdata hlocal href
    have hknown := h _ hmem
    exact hknown
  · intro h p hp
    obtain ⟨place, hdata, hlocal, href, -⟩ := Fragment.exists_of_mem_references hdistinct hp
    exact h place p.2 hdata hlocal href

/-- Where a definition has documents, the type of a reference outside of data is known, and the
document refers to the address of the type, with what stands behind it in the reference. -/
theorem referenceAt?_of_emit_eq_ok (hbody : d.body = .object b) {place : Json.Place}
    (hplace : Fragment.IsSchemaPlace place) (hdata : Fragment.isInData place = false) {r : String}
    (hlocal : Fragment.isLocal r = false) (href : Fragment.referenceAt? b.schema place = some r)
    {emitted : Emitted} (hemit : e.emit known d = .ok emitted) :
    known.contains (e.fragmentTarget d.header.system r) = true
      ∧ Fragment.referenceAt? emitted.document.schema place
        = some (e.uri (e.fragmentTarget d.header.system r) ++ Fragment.behind r) := by
  obtain ⟨hnil, rfl⟩ := (e.emit_eq_ok_iff known).1 hemit
  constructor
  · have hmem := Fragment.mem_references "jsonSchema" hdata hlocal href
    rw [e.unresolvedReferences_object known hbody, List.filterMap_eq_nil_iff] at hnil
    have hnone := hnil _ hmem
    dsimp only at hnone
    by_contra hunknown
    rw [if_neg hunknown] at hnone
    cases hnone
  · rw [e.referenceAt?_typeDocument hbody hplace,
      Fragment.referenceAt?_mapReferences hdata hlocal href, e.emittedReference_eq]

/-- A reference outside of data whose type is not known is a violation at its place. -/
theorem exists_violation_of_unknown (hbody : d.body = .object b) {place : Json.Place}
    (hdata : Fragment.isInData place = false) {r : String} (hlocal : Fragment.isLocal r = false)
    (href : Fragment.referenceAt? b.schema place = some r)
    (hunknown : known.contains (e.fragmentTarget d.header.system r) = false) :
    ∃ vs, e.emit known d = .error vs ∧ ∃ v ∈ vs, v.rule = .unknownPropertyType
      ∧ v.path = Json.placeText "jsonSchema" place ++ ".$ref"
      ∧ v.details.member? "reference" = some (.string (e.fragmentTarget d.header.system r)) := by
  have hmem := Fragment.mem_references "jsonSchema" hdata hlocal href
  have hviolation : unresolved known .unknownPropertyType
      (Json.placeText "jsonSchema" place ++ ".$ref")
      ("Schema reference '" ++ r ++ "' names unknown type '"
        ++ e.fragmentTarget d.header.system r ++ "'")
      (e.fragmentTarget d.header.system r) ∈ e.unresolvedReferences known d := by
    rw [e.unresolvedReferences_object known hbody]
    refine List.mem_filterMap.2 ⟨_, hmem, ?_⟩
    dsimp only
    rw [hunknown, if_neg Bool.false_ne_true]
  exact ⟨_, e.emit_eq_error d (List.ne_nil_of_mem hviolation), _, hviolation, rfl, rfl, rfl⟩

/-- A reference inside of data stays as it is. -/
theorem referenceAt?_of_isInData (hbody : d.body = .object b) {place : Json.Place}
    (hplace : Fragment.IsSchemaPlace place) (hdata : Fragment.isInData place = true) {r : String}
    (href : Fragment.referenceAt? b.schema place = some r) {emitted : Emitted}
    (hemit : e.emit known d = .ok emitted) :
    Fragment.referenceAt? emitted.document.schema place = some r := by
  obtain ⟨-, rfl⟩ := (e.emit_eq_ok_iff known).1 hemit
  rw [e.referenceAt?_typeDocument hbody hplace]
  exact Fragment.referenceAt?_mapReferences_of_isInData hdata href

/-- What becomes of a reference to another type, at a place of a fragment where schemas stand. Where
no step to the place has the name of a keyword for data, the definition has documents only if the
type is known, and then the document refers to the address of the type, with what stands behind it
in the reference; if the type is not known, there is a violation for the reference. Where a step has
such a name, the document refers to what the fragment does, and nothing is asked of it. -/
theorem emit_at_schemaPlace (hbody : d.body = .object b) {place : Json.Place}
    (hplace : Fragment.IsSchemaPlace place) {r : String} (hlocal : Fragment.isLocal r = false)
    (href : Fragment.referenceAt? b.schema place = some r) :
    (Fragment.isInData place = false →
      (∀ emitted, e.emit known d = .ok emitted →
        known.contains (e.fragmentTarget d.header.system r) = true
        ∧ Fragment.referenceAt? emitted.document.schema place
          = some (e.uri (e.fragmentTarget d.header.system r) ++ Fragment.behind r))
      ∧ (known.contains (e.fragmentTarget d.header.system r) = false →
        ∃ vs, e.emit known d = .error vs ∧ ∃ v ∈ vs, v.rule = .unknownPropertyType
          ∧ v.path = Json.placeText "jsonSchema" place ++ ".$ref"
          ∧ v.details.member? "reference" = some (.string (e.fragmentTarget d.header.system r))))
    ∧ (Fragment.isInData place = true → ∀ emitted, e.emit known d = .ok emitted →
        Fragment.referenceAt? emitted.document.schema place = some r) := by
  constructor
  · intro hdata
    constructor
    · intro emitted hemit
      exact e.referenceAt?_of_emit_eq_ok known hbody hplace hdata hlocal href hemit
    · intro hunknown
      exact e.exists_violation_of_unknown known hbody hdata hlocal href hunknown
  · intro hdata emitted hemit
    exact e.referenceAt?_of_isInData known hbody hplace hdata href hemit

/-- A box whose content is a property of the name `default`, of a type that does not exist. -/
def boxDefinition : Definition where
  header := ⟨"test", "box", none, none, none, none, none, none⟩
  body := .object ⟨.object [("type", .string "object"), ("additionalProperties", .bool false),
    ("properties", .object [("default", .object [("$ref", .string "missing")])])], ⟨none, none⟩⟩

/-- The box has a document, although no type is known, and the document refers to what no type
is. -/
theorem emit_boxDefinition_at_default :
    Fragment.IsSchemaPlace [.member "properties", .member "default"]
      ∧ KnownTypes.empty.contains ((ofDomain "https://a.org").fragmentTarget "test" "missing")
        = false
      ∧ ∃ emitted, (ofDomain "https://a.org").emit .empty boxDefinition = .ok emitted
        ∧ Fragment.referenceAt? emitted.document.schema [.member "properties", .member "default"]
          = some "missing" := by
  have hplace : Fragment.IsSchemaPlace [.member "properties", .member "default"] :=
    .named (by decide) .root
  have hemit : (ofDomain "https://a.org").emit .empty boxDefinition
      = .ok ⟨(ofDomain "https://a.org").typeDocument boxDefinition, []⟩ := rfl
  refine ⟨hplace, rfl, _, hemit, ?_⟩
  exact (emit_at_schemaPlace (ofDomain "https://a.org") .empty rfl hplace (by decide) rfl).2
    (by decide) _ hemit

end Emitter

end TypeCatalog
