import TypeCatalog.Proofs.Validation.Document
import TypeCatalog.Validation.Reader.Schema

/-!
# Reading the documents of a batch

What the reader makes of a document that was emitted. A reference becomes a link to the address of
its type, and the target of the link is followed at once; a condition on the value alone becomes a
constraint, and the properties of a record become a keyword that is closed to all other
properties. `Follows` lists the links of a document in the order in which they are followed.

`ReadM` threads a `Progress` and may fail, and the lemmas in front take a reading apart that gave a
result: `ReadM.bind_eq_ok`, `map_eq_ok` and those on lists. `Reader.keyword?` reads one member, with
the members beside it, and `of_filterMapM_atoms`, `of_filterMapM_list` and `of_filterMapM_record`
say what the members of the three kinds of schemas are read as.
-/

set_option autoImplicit false

namespace TypeCatalog.Reader

open Result

/-! ## Steps of a reading -/

namespace ReadM

variable {α β : Type} {p q : Progress}

/-- What two readings after each other give. -/
theorem bind_eq_ok {x : ReadM α} {f : α → ReadM β} {b : β} :
    (x >>= f) p = .ok (b, q) ↔ ∃ a p', x p = .ok (a, p') ∧ f a p' = .ok (b, q) := by
  show (x p >>= fun r => f r.1 r.2) = .ok (b, q) ↔ _
  rw [Result.bind_eq_ok, Prod.exists]

/-- What is returned, with nothing read. -/
theorem pure_eq_ok {a b : α} : (pure a : ReadM α) p = .ok (b, q) ↔ a = b ∧ p = q := by
  show (Except.ok (a, p) : Except SchemaFault (α × Progress)) = .ok (b, q) ↔ _
  rw [Except.ok.injEq, Prod.mk.injEq]

/-- What a reading gives whose result is mapped. -/
theorem map_eq_ok {x : ReadM α} {f : α → β} {b : β} :
    (f <$> x) p = .ok (b, q) ↔ ∃ a, x p = .ok (a, q) ∧ f a = b := by
  rw [map_eq_pure_bind, bind_eq_ok]
  constructor
  · rintro ⟨a, p', hx, h⟩
    obtain ⟨rfl, rfl⟩ := pure_eq_ok.1 h
    exact ⟨a, hx, rfl⟩
  · rintro ⟨a, hx, rfl⟩
    exact ⟨a, q, hx, rfl⟩

/-- A step that follows no reference leaves the progress as it is. -/
theorem lift_eq_ok {x : Except SchemaFault α} {a : α} :
    (liftM x : ReadM α) p = .ok (a, q) ↔ x = .ok a ∧ p = q := by
  show (x >>= fun a => Except.ok (a, p)) = .ok (a, q) ↔ _
  rw [Result.bind_eq_ok]
  constructor
  · rintro ⟨b, hb, h⟩
    cases h
    exact ⟨hb, rfl⟩
  · rintro ⟨hx, rfl⟩
    exact ⟨a, hx, rfl⟩

/-- What is read item by item has an item for each one that is read. -/
theorem forall₂_of_mapM {f : α → ReadM β} {xs : List α} {ys : List β}
    (h : xs.mapM f p = .ok (ys, q)) :
    List.Forall₂ (fun x y => ∃ p q, f x p = .ok (y, q)) xs ys := by
  induction xs generalizing p ys with
  | nil =>
      obtain ⟨rfl, -⟩ := pure_eq_ok.1 h
      exact .nil
  | cons x xs ih =>
      rw [List.mapM_cons] at h
      obtain ⟨y, p₁, hy, h⟩ := bind_eq_ok.1 h
      obtain ⟨rest, p₂, hrest, h⟩ := bind_eq_ok.1 h
      obtain ⟨rfl, rfl⟩ := pure_eq_ok.1 h
      exact .cons ⟨p, p₁, hy⟩ (ih hrest)

/-- What a list of readings gives, of which some may be left out. -/
theorem filterMapM_cons_eq_ok {f : α → ReadM (Option β)} {x : α} {xs : List α} {ys : List β} :
    (x :: xs).filterMapM f p = .ok (ys, q) ↔ ∃ y p' zs, f x p = .ok (y, p')
      ∧ xs.filterMapM f p' = .ok (zs, q) ∧ ys = y.toList ++ zs := by
  rw [List.filterMapM_cons, bind_eq_ok]
  refine exists_congr fun y => exists_congr fun p' => ?_
  cases y with
  | none =>
      constructor
      · rintro ⟨hx, hxs⟩
        exact ⟨ys, hx, hxs, rfl⟩
      · rintro ⟨zs, hx, hxs, rfl⟩
        exact ⟨hx, hxs⟩
  | some y =>
      rw [bind_eq_ok]
      constructor
      · rintro ⟨hx, zs, p', hxs, h⟩
        obtain ⟨rfl, rfl⟩ := pure_eq_ok.1 h
        exact ⟨zs, hx, hxs, rfl⟩
      · rintro ⟨zs, hx, hxs, rfl⟩
        exact ⟨hx, zs, q, hxs, rfl⟩

/-- An empty list gives nothing. -/
theorem filterMapM_nil_eq_ok {f : α → ReadM (Option β)} {ys : List β} :
    [].filterMapM f p = .ok (ys, q) ↔ ys = [] ∧ p = q := by
  rw [List.filterMapM_nil, pure_eq_ok, eq_comm]

end ReadM

/-! ## Members -/

variable (r : Reader) (follow : Target → ReadM Unit) (place : Place)

/-- What reads a schema inside one at a place. -/
def inside (v : Json) : ReadM Schema := do body r follow (← place.inside v) v

/-- A member of a schema with the ways of reading it. -/
def memberOf (m : String × Json) : Member where
  name := m.1
  written := m.2
  whole := inside r follow place m.2
  items := itemsInside r follow place m.2
  named := namedInside r follow place m.2

/-- The members of an object, in their order. -/
theorem memberList_eq (ms : List (String × Json)) :
    memberList r follow place ms = ms.map (memberOf r follow place) := by
  induction ms with
  | nil => rfl
  | cons m ms ih =>
      rw [memberList, ih]
      rfl

/-- The schemas inside of an array are those of its items. -/
theorem itemsInside_array (xs : List Json) :
    itemsInside r follow place (.array xs) = xs.map (inside r follow place) := by
  unfold itemsInside
  induction xs with
  | nil => rfl
  | cons x xs ih =>
      rw [itemList, ih]
      rfl

/-- The schemas inside of an object are those of its members, with their names. -/
theorem namedInside_object (ms : List (String × Json)) :
    namedInside r follow place (.object ms)
      = ms.map fun m => (m.1, m.2, inside r follow place m.2) := by
  unfold namedInside
  induction ms with
  | nil => rfl
  | cons m ms ih =>
      rw [namedList, ih]
      rfl

/-- So are they read with their names. -/
theorem namedSchemas_memberOf (name : String) (ms : List (String × Json)) :
    (memberOf r follow place (name, .object ms)).namedSchemas
      = (ms.map fun m => (m.1, m.2, inside r follow place m.2)).mapM
        (fun x => do pure (x.1, ← x.2.2)) := by
  rw [← namedInside_object]
  rfl

/-- And those of an array are read in their order. -/
theorem schemas_memberOf (name : String) (xs : List Json) :
    (memberOf r follow place (name, .array xs)).schemas
      = (xs.map (inside r follow place)).mapM id := by
  rw [← itemsInside_array]
  rfl

/-- A member is found by its name. -/
theorem find?_memberOf (ms : List (String × Json)) (name : String) :
    Member.find? (ms.map (memberOf r follow place)) name
      = (ms.find? (·.1 = name)).map (memberOf r follow place) := by
  unfold Member.find?
  rw [List.find?_map]
  rfl

/-- Members are chosen by their names, before or after they are prepared. -/
theorem filter_memberOf (ms : List (String × Json)) (keep : String → Bool) :
    (ms.map (memberOf r follow place)).filter (fun m => keep m.name)
      = (ms.filter fun m => keep m.1).map (memberOf r follow place) := by
  rw [List.filter_map]
  rfl

/-- A schema without a name of its own stands at the same place as the one around it. -/
theorem Place.inside_unnamed {v : Json} (hid : v.member? "$id" = none)
    (hschema : v.member? "$schema" = none) (hdraft : place.draft = .draft7) :
    place.inside v = .ok place := by
  obtain ⟨base, draft, vocabularies⟩ := place
  cases hdraft
  unfold Place.inside Draft.within
  dsimp only
  rw [Draft.detect_of_unnamed hschema]
  unfold Site.enter
  dsimp only
  rw [Draft.ownAddress?_of_unnamed hid]
  rfl

/-- A plain schema is in the same place as what stands around it. -/
theorem Place.inside_plain {e : Emitter} {v : Json} (h : Plain e v)
    (hdraft : place.draft = .draft7) : place.inside v = .ok place := by
  obtain ⟨hid, hschema, -, -⟩ := h
  exact place.inside_unnamed hid hschema hdraft

/-! ## Keywords -/

/-- The seventh version knows the keywords of documents, in which all groups count. -/
theorem knows_keyword (vs : List Vocabulary) :
    ∀ k ∈ "additionalProperties" :: "items" :: "properties" :: Emitter.atomKeywords,
      Draft.draft7.knows vs k = true := by
  intro k hk
  simp only [Emitter.atomKeywords, List.mem_cons, List.not_mem_nil, or_false] at hk
  rcases hk with rfl | rfl | rfl | rfl | rfl | rfl | rfl | rfl | rfl | rfl | rfl | rfl | rfl
  all_goals rfl

/-- It does not know the names of the members of a header. -/
theorem knows_header (vs : List Vocabulary) :
    ∀ k ∈ ["$schema", "$id", "title", "description", "deprecated", "examples"],
      Draft.draft7.knows vs k = false := by
  intro k hk
  simp only [List.mem_cons, List.not_mem_nil, or_false] at hk
  rcases hk with rfl | rfl | rfl | rfl | rfl | rfl
  all_goals rfl

/-- A keyword for the value alone is read as a constraint. -/
theorem keyword?_atom {siblings : List (String × Json)} {members : List Member} {m : Member}
    (h : m.name ∈ Emitter.atomKeywords) :
    r.keyword? follow place siblings members m = (do
      let c ← r.constraint? place.draft siblings m.name m.written
      pure (c.map .constraint)) := by
  obtain ⟨name, written, whole, items, named⟩ := m
  simp only [Emitter.atomKeywords, List.mem_cons, List.not_mem_nil, or_false] at h
  rcases h with rfl | rfl | rfl | rfl | rfl | rfl | rfl | rfl | rfl | rfl
  all_goals rfl

/-! ## Properties -/

variable {r follow place} {p q : Progress}

/-- Where there is no reference, the members that the version knows are read one after the other. -/
theorem of_body_object {ms : List (String × Json)} {s : Schema} (hdraft : place.draft = .draft7)
    (href : ms.find? (·.1 = "$ref") = none) (h : body r follow place (.object ms) p = .ok (s, q)) :
    ∃ ks, ((ms.filter fun m => Draft.draft7.knows place.vocabularies m.1).map
        (memberOf r follow place)).filterMapM
          (r.keyword? follow place ms (ms.map (memberOf r follow place))) p = .ok (ks, q)
      ∧ s = .keywords (withSiblings ks) := by
  unfold body members at h
  rw [memberList_eq, find?_memberOf, href] at h
  obtain ⟨ks, p', hks, h⟩ := ReadM.bind_eq_ok.1 h
  obtain ⟨rfl, rfl⟩ := ReadM.pure_eq_ok.1 h
  rw [hdraft, filter_memberOf r follow place ms (Draft.draft7.knows place.vocabularies)] at hks
  exact ⟨ks, hks, rfl⟩

/-- A schema that refers to a type is a link, which is followed. -/
theorem of_body_reference {ms : List (String × Json)} {u : String} {s : Schema}
    (hdraft : place.draft = .draft7)
    (hms : ms.find? (·.1 = "$ref") = some ("$ref", .string u))
    (h : body r follow place (.object ms) p = .ok (s, q)) :
    ∃ l, r.link place.base u = .ok l ∧ follow l.target p = .ok ((), q)
      ∧ s = .keywords [.reference l] := by
  unfold body members at h
  rw [memberList_eq, find?_memberOf, hms, hdraft] at h
  obtain ⟨k, p', hk, h⟩ := ReadM.bind_eq_ok.1 h
  obtain ⟨rfl, rfl⟩ := ReadM.pure_eq_ok.1 h
  obtain ⟨l, p', hlink, hk⟩ := ReadM.bind_eq_ok.1 hk
  obtain ⟨hl, rfl⟩ := ReadM.lift_eq_ok.1 hlink
  obtain ⟨_, p', hfollow, hk⟩ := ReadM.bind_eq_ok.1 hk
  obtain ⟨rfl, rfl⟩ := ReadM.pure_eq_ok.1 hk
  exact ⟨l, hl, hfollow, rfl⟩

/-- A schema without an address and a version is read as it is by itself. -/
theorem of_inside_unnamed {v : Json} {s : Schema} (hdraft : place.draft = .draft7)
    (hid : v.member? "$id" = none) (hschema : v.member? "$schema" = none)
    (h : inside r follow place v p = .ok (s, q)) : body r follow place v p = .ok (s, q) := by
  unfold inside at h
  obtain ⟨place', p', hplace, h⟩ := ReadM.bind_eq_ok.1 h
  obtain ⟨hplace, rfl⟩ := ReadM.lift_eq_ok.1 hplace
  rw [place.inside_unnamed hid hschema hdraft] at hplace
  cases hplace
  exact h

/-- So is a plain schema. -/
theorem of_inside_plain {e : Emitter} {v : Json} {s : Schema} (hdraft : place.draft = .draft7)
    (hplain : Plain e v) (h : inside r follow place v p = .ok (s, q)) :
    body r follow place v p = .ok (s, q) := by
  obtain ⟨hid, hschema, -, -⟩ := hplain
  exact of_inside_unnamed hdraft hid hschema h

/-- The keywords of a list of values: the type, and the schema of the items, which is followed. -/
theorem of_filterMapM_list {siblings : List (String × Json)} {members : List Member}
    {ns : List (String × Json)} {ks : List Keyword} (hdraft : place.draft = .draft7)
    (h : ([("type", .string "array"), ("items", .object ns)].map
      (memberOf r follow place)).filterMapM (r.keyword? follow place siblings members) p
        = .ok (ks, q)) :
    ∃ inner, inside r follow place (.object ns) p = .ok (inner, q)
      ∧ ks = [.constraint (.type false false [.array]), .items inner] := by
  obtain ⟨first, p₁, others, hfirst, hothers, rfl⟩ := ReadM.filterMapM_cons_eq_ok.1 h
  obtain ⟨second, p₂, rest, hsecond, hrest, rfl⟩ := ReadM.filterMapM_cons_eq_ok.1 hothers
  obtain ⟨rfl, rfl⟩ := ReadM.filterMapM_nil_eq_ok.1 hrest
  rw [keyword?_atom r follow place List.mem_cons_self] at hfirst
  obtain ⟨c, p₃, htype, hfirst⟩ := ReadM.bind_eq_ok.1 hfirst
  obtain ⟨hc, rfl⟩ := ReadM.lift_eq_ok.1 htype
  obtain ⟨rfl, rfl⟩ := ReadM.pure_eq_ok.1 hfirst
  rw [hdraft] at hc
  cases hc
  have hitems : itemsKeyword? place.draft members
      (memberOf r follow place ("items", .object ns)) p = .ok (second, p₂) := hsecond
  unfold itemsKeyword? at hitems
  rw [hdraft, if_neg (by decide)] at hitems
  obtain ⟨inner, p₃, hinner, hitems⟩ := ReadM.bind_eq_ok.1 hitems
  obtain ⟨rfl, rfl⟩ := ReadM.pure_eq_ok.1 hitems
  exact ⟨inner, hinner, rfl⟩

/-- What the schema of a property is read as, which is a list of values or a value of the type
that a link leads to. -/
def propertyReading : Bool → Link → Schema
  | true, l =>
    .keywords [.constraint (.type false false [.array]), .items (.keywords [.reference l])]
  | false, l => .keywords [.reference l]

/-- The schema of a property is read as a link to the document of its type, in a list if the
property is one. The description is not read. -/
theorem of_inside_propertySchema {e : Emitter} {system : String} {property : Property}
    {s : Schema} (hdraft : place.draft = .draft7)
    (htarget : Name.IsTypeName (Emitter.propertyTarget system property))
    (h : inside r follow place (e.propertySchema system property) p = .ok (s, q)) :
    ∃ l, r.link place.base (e.uri (Emitter.propertyTarget system property)) = .ok l
      ∧ follow l.target p = .ok ((), q) ∧ s = propertyReading property.array l := by
  have h := of_inside_plain hdraft (Plain.propertySchema htarget) h
  rw [Emitter.propertySchema_eq] at h
  cases harray : property.array with
  | false =>
      rw [harray, if_neg Bool.false_ne_true] at h
      refine of_body_reference hdraft ?_ h
      rw [Emitter.find?_summaryMembers_append _ _ fun _ => rfl]
      rfl
  | true =>
      rw [harray, if_pos rfl] at h
      have hknown : (fun m : String × Json => Draft.draft7.knows place.vocabularies m.1)
          ("description", .null) = false := knows_header place.vocabularies _ (by simp)
      obtain ⟨ks, hks, rfl⟩ := of_body_object hdraft
        (by rw [Emitter.find?_summaryMembers_append _ _ fun _ => rfl]; rfl) h
      rw [Emitter.filter_summaryMembers_append _ _ fun v => hknown] at hks
      have hfilter (v w : Json) : [("type", v), ("items", w)].filter
          (fun m => Draft.draft7.knows place.vocabularies m.1) = [("type", v), ("items", w)] := rfl
      rw [hfilter] at hks
      obtain ⟨inner, hinner, rfl⟩ := of_filterMapM_list hdraft hks
      have hinner := of_inside_plain hdraft (Plain.reference htarget) hinner
      obtain ⟨l, hl, hfollow, rfl⟩ := of_body_reference hdraft rfl hinner
      exact ⟨l, hl, hfollow, rfl⟩

/-! ## Documents -/

/-- The members of a document that the version knows are those that write the demand down. -/
theorem filter_knows_append {e : Emitter} {t : String} {header : Header} {demand : Demand}
    (vs : List Vocabulary) :
    (e.headerMembers t header ++ e.demandMembers demand).filter
      (fun m => Draft.draft7.knows vs m.1) = e.demandMembers demand := by
  rw [List.filter_append, List.filter_eq_nil_iff.2, List.filter_eq_self.2, List.nil_append]
  · intro m hm
    refine knows_keyword vs _ ?_
    rcases Emitter.mem_demandMembers hm with hatom | ⟨_, _, _, -, rfl | rfl⟩
    · exact .tail _ (.tail _ (.tail _ hatom))
    · simp
    · simp
  · intro m hm
    rw [knows_header vs _ (Emitter.fst_mem_of_mem_headerMembers hm)]
    exact Bool.false_ne_true

/-- No constraint is one that needs its siblings. -/
theorem withSiblings_constraints (cs : List Constraint) :
    withSiblings (cs.map .constraint) = cs.map .constraint := by
  unfold withSiblings
  dsimp only
  rw [List.map_map]
  rfl

/-- Conditions on the value alone are read one after the other, and follow nothing. -/
theorem of_filterMapM_atoms {siblings ms : List (String × Json)} {members : List Member}
    {ks : List Keyword} (hms : ∀ m ∈ ms, m.1 ∈ Emitter.atomKeywords)
    (h : (ms.map (memberOf r follow place)).filterMapM
      (r.keyword? follow place siblings members) p = .ok (ks, q)) :
    p = q ∧ ∃ cs, List.Forall₂ (fun m c => r.constraint? place.draft siblings m.1 m.2 = .ok c) ms cs
      ∧ ks = (cs.filterMap id).map .constraint := by
  induction ms generalizing p ks with
  | nil =>
      obtain ⟨rfl, rfl⟩ := ReadM.filterMapM_nil_eq_ok.1 h
      exact ⟨rfl, [], .nil, rfl⟩
  | cons m ms ih =>
      rw [List.forall_mem_cons] at hms
      obtain ⟨k, p₁, others, hk, hothers, rfl⟩ := ReadM.filterMapM_cons_eq_ok.1 h
      rw [keyword?_atom r follow place hms.1] at hk
      obtain ⟨c, p₂, hc, hk⟩ := ReadM.bind_eq_ok.1 hk
      obtain ⟨hconstraint, rfl⟩ := ReadM.lift_eq_ok.1 hc
      obtain ⟨rfl, rfl⟩ := ReadM.pure_eq_ok.1 hk
      obtain ⟨rfl, cs, hcs, rfl⟩ := ih hms.2 hothers
      refine ⟨rfl, c :: cs, .cons hconstraint hcs, ?_⟩
      cases c <;> rfl

/-- A document that is none of a record is read as conditions on the value alone. -/
theorem of_body_atom {e : Emitter} {t : String} {header : Header} {demand : Demand} {s : Schema}
    (hdraft : place.draft = .draft7)
    (hatom : ∀ system properties required, demand ≠ .record system properties required)
    (h : body r follow place (e.demandSchema t header demand) p = .ok (s, q)) :
    p = q ∧ ∃ siblings cs, List.Forall₂ (fun m c => r.constraint? .draft7 siblings m.1 m.2 = .ok c)
        (e.demandMembers demand) cs
      ∧ s = .keywords ((cs.filterMap id).map .constraint) := by
  have hkeywords : ∀ m ∈ e.demandMembers demand, m.1 ∈ Emitter.atomKeywords := fun m hm =>
    (Emitter.mem_demandMembers hm).resolve_right
      fun ⟨system, properties, required, heq, _⟩ => hatom system properties required heq
  unfold Emitter.demandSchema at h
  obtain ⟨ks, hks, rfl⟩ := of_body_object hdraft Emitter.find?_ref_demandSchema h
  rw [filter_knows_append] at hks
  obtain ⟨rfl, cs, hcs, rfl⟩ := of_filterMapM_atoms hkeywords hks
  rw [hdraft] at hcs
  exact ⟨rfl, _, cs, hcs, by rw [withSiblings_constraints]⟩

/-- The links of a document, followed one after the other. -/
inductive Follows (follow : Target → ReadM Unit) : List Link → Progress → Progress → Prop where
  | nil (p : Progress) : Follows follow [] p p
  | cons {l : Link} {ls : List Link} {p p' q : Progress} (hl : follow l.target p = .ok ((), p'))
      (hls : Follows follow ls p' q) : Follows follow (l :: ls) p q

/-- What the properties of a record are read as, when each has its link. -/
def propertyReadings (properties : List Property) (ls : List Link) : List (String × Schema) :=
  List.zipWith (fun property l => (property.name, propertyReading property.array l)) properties ls

/-- What the document of a record is read as. -/
def recordReading (properties : List Property) (ls : List Link) (required : List String) : Schema :=
  .keywords <|
    [.constraint (.type false false [.object]),
      .closed (propertyReadings properties ls) [] (.boolean false)]
    ++ if required.isEmpty then [] else [.constraint (.required required)]

/-- The properties are read in their order, each as the link to its type. -/
theorem of_mapM_properties {e : Emitter} {system : String} {properties : List Property}
    {ps : List (String × Schema)} (hdraft : place.draft = .draft7)
    (htargets : ∀ property ∈ properties, Name.IsTypeName (Emitter.propertyTarget system property))
    (h : ((properties.map fun property => (property.name, e.propertySchema system property,
        inside r follow place (e.propertySchema system property))).mapM
          (fun x => do pure (x.1, ← x.2.2)) : ReadM (List (String × Schema))) p = .ok (ps, q)) :
    ∃ ls, List.Forall₂ (fun property l => r.link place.base
          (e.uri (Emitter.propertyTarget system property)) = .ok l) properties ls
      ∧ Follows follow ls p q ∧ ps = propertyReadings properties ls := by
  induction properties generalizing p ps with
  | nil =>
      obtain ⟨rfl, rfl⟩ := ReadM.pure_eq_ok.1 h
      exact ⟨[], .nil, .nil p, rfl⟩
  | cons property properties ih =>
      rw [List.forall_mem_cons] at htargets
      rw [List.map_cons, List.mapM_cons] at h
      obtain ⟨first, p₁, hfirst, h⟩ := ReadM.bind_eq_ok.1 h
      obtain ⟨others, p₂, hothers, h⟩ := ReadM.bind_eq_ok.1 h
      obtain ⟨rfl, rfl⟩ := ReadM.pure_eq_ok.1 h
      obtain ⟨s, p₃, hs, hfirst⟩ := ReadM.bind_eq_ok.1 hfirst
      obtain ⟨rfl, rfl⟩ := ReadM.pure_eq_ok.1 hfirst
      obtain ⟨l, hl, hfollow, rfl⟩ := of_inside_propertySchema hdraft htargets.1 hs
      obtain ⟨ls, hls, hfollows, rfl⟩ := ih htargets.2 hothers
      exact ⟨l :: ls, .cons hl hls, .cons hfollow hfollows, rfl⟩

/-- A list of texts is read as the texts. -/
theorem texts_ofStrings (xs : List String) : texts (.ofStrings xs) = .ok xs := by
  unfold texts Json.ofStrings
  refine mapM_eq_ok.2 ?_
  rw [List.forall₂_map_left_iff]
  exact List.forall₂_same.2 fun _ _ => rfl

/-- The keywords of a record: the schemas of the properties are read where the keyword stands that
closes the record to all others. -/
theorem of_filterMapM_record {siblings fields : List (String × Json)} {required : List String}
    {members : List Member} {ks : List Keyword} (hdraft : place.draft = .draft7)
    (hpatterns : Member.find? members "patternProperties" = none)
    (hclosed : Member.find? members "additionalProperties"
      = some (memberOf r follow place ("additionalProperties", .bool false)))
    (hproperties : Member.find? members "properties"
      = some (memberOf r follow place ("properties", .object fields)))
    (h : ((("type", .string "object") :: ("additionalProperties", .bool false)
        :: ("properties", .object fields) :: Emitter.requiredMembers required).map
          (memberOf r follow place)).filterMapM
            (r.keyword? follow place siblings members) p = .ok (ks, q)) :
    ∃ ps, (memberOf r follow place ("properties", .object fields)).namedSchemas p = .ok (ps, q)
      ∧ ks = [.constraint (.type false false [.object]), .closed ps [] (.boolean false)]
        ++ if required.isEmpty then [] else [.constraint (.required required)] := by
  obtain ⟨first, p₁, others, hfirst, hothers, rfl⟩ := ReadM.filterMapM_cons_eq_ok.1 h
  obtain ⟨second, p₂, rest, hsecond, hrest, rfl⟩ := ReadM.filterMapM_cons_eq_ok.1 hothers
  obtain ⟨third, p₃, last, hthird, hlast, rfl⟩ := ReadM.filterMapM_cons_eq_ok.1 hrest
  have hrequired : ∀ m ∈ Emitter.requiredMembers required, m.1 ∈ Emitter.atomKeywords := by
    intro m hm
    unfold Emitter.requiredMembers at hm
    split at hm
    · cases hm
    · rw [List.mem_singleton.1 hm]
      simp [Emitter.atomKeywords]
  obtain ⟨rfl, cs, hcs, rfl⟩ := of_filterMapM_atoms hrequired hlast
  -- The type is a condition on the value alone.
  rw [keyword?_atom r follow place List.mem_cons_self] at hfirst
  obtain ⟨c, p₄, htype, hfirst⟩ := ReadM.bind_eq_ok.1 hfirst
  obtain ⟨hc, rfl⟩ := ReadM.lift_eq_ok.1 htype
  obtain ⟨rfl, rfl⟩ := ReadM.pure_eq_ok.1 hfirst
  rw [hdraft] at hc hcs
  cases hc
  -- The properties are taken by the keyword that closes the record.
  have htaken : r.keyword? follow place siblings members
      (memberOf r follow place ("properties", .object fields)) = pure none := by
    show (if (Member.find? members "additionalProperties").any (·.isRestriction) then _ else _) = _
    rw [hclosed]
    rfl
  rw [htaken] at hthird
  obtain ⟨rfl, rfl⟩ := ReadM.pure_eq_ok.1 hthird
  obtain ⟨k, p₄, hk, hsecond⟩ := ReadM.bind_eq_ok.1 hsecond
  obtain ⟨rfl, rfl⟩ := ReadM.pure_eq_ok.1 hsecond
  unfold additionalProperties at hk
  rw [hpatterns, hproperties] at hk
  have hnotAll : (memberOf r follow place ("additionalProperties", .bool false)).written
      ≠ .bool true := by simp [memberOf]
  dsimp only at hk
  rw [if_neg hnotAll] at hk
  obtain ⟨qs, p₅, hqs, hk⟩ := ReadM.bind_eq_ok.1 hk
  obtain ⟨rfl, rfl⟩ := ReadM.pure_eq_ok.1 hqs
  obtain ⟨ps, p₆, hps, hk⟩ := ReadM.bind_eq_ok.1 hk
  obtain ⟨s, p₇, hs, hk⟩ := ReadM.bind_eq_ok.1 hk
  obtain ⟨rfl, rfl⟩ := ReadM.pure_eq_ok.1 hk
  have hmap : (some <$> (memberOf r follow place ("properties", .object fields)).namedSchemas
      : ReadM _) p = .ok (ps, p₆) := hps
  obtain ⟨found, hfound, rfl⟩ := ReadM.map_eq_ok.1 hmap
  have hs := of_inside_plain (e := default) hdraft (.boolean false) hs
  obtain ⟨rfl, rfl⟩ := ReadM.pure_eq_ok.1 hs
  refine ⟨found, hfound, ?_⟩
  unfold Emitter.requiredMembers at hcs
  by_cases hempty : required.isEmpty = true
  · rw [if_pos hempty] at hcs ⊢
    cases hcs
    rfl
  · rw [if_neg hempty] at hcs ⊢
    obtain ⟨c, _, hc, hnone, rfl⟩ := List.forall₂_cons_left_iff.1 hcs
    cases hnone
    obtain ⟨names, hnames, hc⟩ := Result.bind_eq_ok.1 hc
    rw [texts_ofStrings] at hnames
    cases hnames
    cases hc
    rfl

/-- What is no member of a header is found among the members behind it. -/
theorem find?_memberOf_append {e : Emitter} {t name : String} {header : Header}
    (ms : List (String × Json))
    (hname : name ∉ ["$schema", "$id", "title", "description", "deprecated", "examples"]) :
    Member.find? ((e.headerMembers t header ++ ms).map (memberOf r follow place)) name
      = (ms.find? (·.1 = name)).map (memberOf r follow place) := by
  rw [find?_memberOf, Emitter.find?_headerMembers_append _ hname]

/-- The document of a record is read as a record of the links of its properties, which are followed
in their order. -/
theorem of_body_record {e : Emitter} {t system : String} {header : Header}
    {properties : List Property} {required : List String} {s : Schema}
    (hdraft : place.draft = .draft7) (hnodup : (properties.map (·.name)).Nodup)
    (htargets : ∀ property ∈ properties, Name.IsTypeName (Emitter.propertyTarget system property))
    (h : body r follow place (e.demandSchema t header (.record system properties required)) p
      = .ok (s, q)) :
    ∃ ls, List.Forall₂ (fun property l => r.link place.base
          (e.uri (Emitter.propertyTarget system property)) = .ok l) properties ls
      ∧ Follows follow ls p q ∧ s = recordReading properties ls required := by
  unfold Emitter.demandSchema at h
  obtain ⟨ks, hks, rfl⟩ := of_body_object hdraft Emitter.find?_ref_demandSchema h
  rw [filter_knows_append, Emitter.demandMembers_record hnodup] at hks
  obtain ⟨ps, hps, rfl⟩ := of_filterMapM_record hdraft
    (by rw [find?_memberOf_append _ (by decide)]; cases required <;> rfl)
    (by rw [find?_memberOf_append _ (by decide)]; rfl)
    (by rw [find?_memberOf_append _ (by decide)]; rfl) hks
  rw [namedSchemas_memberOf, List.map_map] at hps
  obtain ⟨ls, hls, hfollows, rfl⟩ := of_mapM_properties hdraft htargets hps
  exact ⟨ls, hls, hfollows, by cases required <;> rfl⟩

end TypeCatalog.Reader
