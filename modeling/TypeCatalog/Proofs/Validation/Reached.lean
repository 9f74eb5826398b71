import Mathlib.Logic.Relation
import TypeCatalog.Proofs.Validation.Course
import TypeCatalog.Proofs.Validation.Forwarding
import TypeCatalog.Proofs.Validation.Missing

/-!
# Documents that are reached

What `Validator.build` gives for a document depends on the documents that its references reach, and
on no others. `Emitter.Cites` is one step of the way: a document holds a `$ref`, anywhere inside it,
that points to a type. `Emitter.reachedTable` keeps the documents at the ends of such ways.

`Validator.build_reachedTable` proves the main fact. Where the documents that are reached from a
type are plain (`Emitter.IsPlainReach`), a validator of one of them is the same over `reachedTable`.
So what is known of plain tables holds of a type when the documents are plain that it reaches,
whatever other documents there are (`Validator.errors_of_build_listSchema_of_reach`,
`Validator.errors_of_build_of_reach`).

The proof is `Registry.collect_congr` along `Emitter.reachedCourse`: a survey that begins with a
plain document meets plain schemas alone, and their references are local or point to types that are
reached. Such a reference means an address of its type (`Emitter.isAddressOf_of_resolve_append`),
and an address belongs to one type, so the two tables agree wherever the survey looks.
-/

set_option autoImplicit false

namespace TypeCatalog

open Result

namespace Emitter

/-! ## Ways between documents -/

section

variable (e : Emitter) (documents : List (String × Json))

/-- Whether the document of a type has a reference inside it that points to another type. -/
def Cites (t u : String) : Prop :=
  Name.IsTypeName u ∧ ∃ v, documents.lookup (e.uri t) = some v
    ∧ ∃ s ∈ v.references, e.PointsTo u s

/-- Whether an address is that of a type which is reached from another one. -/
def IsReached (start address : String) : Prop :=
  ∃ t, Name.IsTypeName t ∧ Relation.ReflTransGen (e.Cites documents) start t ∧ address = e.uri t

open Classical in
/-- The documents of a table at the addresses of types that are reached from a type. -/
noncomputable def reachedTable (start : String) : List (String × Json) :=
  documents.filter fun entry => decide (e.IsReached documents start entry.1)

/-- What is asked of a table and a type: the documents stand at addresses of types, and those that
are reached from the type are plain and at no address of the schema language. -/
structure IsPlainReach (start : String) : Prop where
  named : e.IsNamedTable documents
  plain : ∀ t v, Name.IsTypeName t → Relation.ReflTransGen (e.Cites documents) start t →
    documents.lookup (e.uri t) = some v → e.IsOwn t ∧ e.IsPlainDocument t v

/-- Whether a text refers to a place in the same document, or points to a type that is reached. -/
def StaysReached (start s : String) : Prop :=
  Fragment.isLocal s = true ∨ ∃ t, Name.IsTypeName t
    ∧ Relation.ReflTransGen (e.Cites documents) start t ∧ e.PointsTo t s

/-- What a survey meets that begins with a document which is reached: schemas in the version of
documents, whose references are local or point to types that are reached. -/
def reachedCourse (start : String) : Survey.Course where
  base _ := True
  target u := ∃ t, Name.IsTypeName t ∧ Relation.ReflTransGen (e.Cites documents) start t
    ∧ IsAddressOf u.document.text t
  schema version v := version = .draft7 ∧ v.HasPlainParts (e.StaysReached documents start)
    ∧ ∀ s, v.member? "$schema" = some (.string s) → s = draft

end

variable {e : Emitter} {documents : List (String × Json)} {start t : String}

/-- An address that is reached has the same document in both tables, and any other one has none in
the table of what is reached. -/
theorem lookup_reachedTable {address : String} {v : Json} :
    (e.reachedTable documents start).lookup address = some v
      ↔ e.IsReached documents start address ∧ documents.lookup address = some v := by
  classical
  unfold reachedTable
  rw [Table.lookup_filter fun address => decide (e.IsReached documents start address)]
  simp only [decide_eq_true_eq, Option.ite_none_right_eq_some]

/-- A document that is reached is in the table of those that are. -/
theorem lookup_reachedTable_uri (ht : Name.IsTypeName t)
    (hreached : Relation.ReflTransGen (e.Cites documents) start t) {v : Json}
    (h : documents.lookup (e.uri t) = some v) :
    (e.reachedTable documents start).lookup (e.uri t) = some v :=
  lookup_reachedTable.2 ⟨⟨t, ht, hreached, rfl⟩, h⟩

/-- The documents that are reached make up a plain table. -/
theorem IsPlainReach.isPlainTable (h : e.IsPlainReach documents start) :
    e.IsPlainTable (e.reachedTable documents start) := by
  intro address v hlookup
  obtain ⟨⟨t, ht, hreached, rfl⟩, hv⟩ := lookup_reachedTable.1 hlookup
  obtain ⟨hown, hplain⟩ := h.plain t v ht hreached hv
  exact ⟨t, ht, hown, rfl, hplain⟩

/-! ## What a survey meets -/

/-- A plain value is met as a schema in the version of documents. -/
theorem schema_reachedCourse_of_isPlain {v : Json}
    (h : v.IsPlain (e.StaysReached documents start)) :
    (e.reachedCourse documents start).schema .draft7 v := by
  refine ⟨rfl, h.hasPlainParts, fun s hs => ?_⟩
  have hnone := h.text?_member?.2
  rw [hs] at hnone
  cases hnone

/-- So is the document of a type that is reached. -/
theorem IsPlainReach.schema_reachedCourse (h : e.IsPlainReach documents start)
    (ht : Name.IsTypeName t) (hreached : Relation.ReflTransGen (e.Cites documents) start t)
    {v : Json}
    (hv : documents.lookup (e.uri t) = some v) :
    (e.reachedCourse documents start).schema .draft7 v := by
  obtain ⟨-, hplain⟩ := h.plain t v ht hreached hv
  refine ⟨rfl, ?_, fun s hs => ?_⟩
  · -- What the document points to is one step further on the way.
    have hreferences : ∀ s ∈ v.references, e.IsReference s → e.StaysReached documents start s := by
      rintro s hs (hlocal | ⟨u, hu, -, hpoints⟩)
      · exact .inl hlocal
      · exact .inr ⟨u, hu, hreached.tail ⟨hu, v, hv, s, hs, hpoints⟩, hpoints⟩
    exact (hplain.parts.and hreferences).imp fun s hs => hs.2 hs.1
  · rw [hplain.version] at hs
    cases hs
    rfl

/-- The parts of what is met are met in the version of documents. -/
theorem schema_reachedCourse_of_part {version version' : Draft} {v part : Json}
    (h : (e.reachedCourse documents start).schema version v)
    (hpart : part = v ∨ part.IsPlain (e.StaysReached documents start))
    (hdetect : Draft.draft7.detect part = .ok version') :
    (e.reachedCourse documents start).schema version' part := by
  obtain ⟨rfl, hschema⟩ := h
  rcases hpart with rfl | hplain
  · rw [Draft.detect_of_version hschema.2] at hdetect
    cases hdetect
    exact ⟨rfl, hschema⟩
  · rw [Draft.detect_of_isPlain hplain] at hdetect
    cases hdetect
    exact schema_reachedCourse_of_isPlain hplain

end Emitter

section

variable {domain : String} {documents : List (String × Json)} {start t : String}
  (hdomain : IsAbsoluteDomain domain)
  (h : (Emitter.ofDomain domain).IsPlainReach documents start)

include hdomain h

/-- A survey that begins with a document which is reached meets nothing else. -/
theorem Emitter.IsPlainReach.isClosed : ((Emitter.ofDomain domain).reachedCourse documents
    start).IsClosed ((Emitter.ofDomain domain).reachedTable documents start) where
  enter := fun _ _ _ => trivial
  reference := by
    rintro base version v k s u - ⟨-, hparts, hversion⟩ hk hs hspecification hlocal hu
    rcases List.mem_pair.1 hk with rfl | rfl
    · -- A reference that is not local points to a type, and means an address of the type.
      obtain ⟨ms, rfl⟩ : ∃ ms, v = .object ms := by
        cases v with
        | object ms => exact ⟨ms, rfl⟩
        | _ => cases hs
      have htext : Json.text? ms "$ref" = some s := Option.bind_eq_some_iff.2 ⟨_, hs, rfl⟩
      rcases hparts.reference ms rfl s htext with htrue | ⟨t, ht, hreached, hpoints⟩
      · rw [hlocal] at htrue
        cases htrue
      · obtain ⟨tail, htail, rfl⟩ : ∃ tail : String,
            (tail.toList = [] ∨ tail.toList.head? = some '#')
              ∧ s = (Emitter.ofDomain domain).uri t ++ tail := by
          rcases hpoints with rfl | ⟨pointer, -, rfl⟩
          · exact ⟨"", .inl rfl, String.append_empty.symm⟩
          · exact ⟨"#" ++ pointer, .inr (by simp), String.append_assoc⟩
        exact ⟨t, ht, hreached,
          Emitter.isAddressOf_of_resolve_append hdomain ht htail hlocal hu⟩
    · rw [hversion s hs] at hspecification
      exact absurd hspecification (by decide)
  place := by
    rintro version whole v k s part hwhole - - - - hpart
    obtain ⟨rfl, hschema⟩ := id hwhole
    rcases Pointer.eq_or_isPlain_of_find? hschema.1 hpart with rfl | hplain
    · exact hwhole
    · exact Emitter.schema_reachedCourse_of_isPlain hplain
  inside := by
    rintro version version' v x ⟨rfl, hparts, -⟩ hx hdetect
    have hplain := Draft.isPlain_of_mem_subschemas hparts _ hx
    rw [Draft.detect_of_isPlain hplain] at hdetect
    cases hdetect
    exact Emitter.schema_reachedCourse_of_isPlain hplain
  document := by
    rintro u v version - hv hdetect
    obtain ⟨⟨t, ht, hreached, htext⟩, hv⟩ := Emitter.lookup_reachedTable.1 hv
    rw [htext] at hv
    exact ⟨trivial, Emitter.schema_reachedCourse_of_part (h.schema_reachedCourse ht hreached hv)
      (.inl rfl) hdetect⟩
  fragment := by
    rintro u v part version - hv hpart hdetect
    obtain ⟨⟨t, ht, hreached, htext⟩, hv⟩ := Emitter.lookup_reachedTable.1 hv
    rw [htext] at hv
    have hschema := h.schema_reachedCourse ht hreached hv
    obtain ⟨pointer, -, hpart⟩ := Option.bind_eq_some_iff.1 hpart
    exact ⟨trivial, Emitter.schema_reachedCourse_of_part hschema
      (Pointer.eq_or_isPlain_of_find? hschema.2.1 hpart) hdetect⟩

omit hdomain in
/-- The two tables agree at all addresses that such a survey looks at. -/
theorem Emitter.IsPlainReach.lookup_eq {u : Uri}
    (hu : ((Emitter.ofDomain domain).reachedCourse documents start).target u) :
    documents.lookup u.document.text
      = ((Emitter.ofDomain domain).reachedTable documents start).lookup u.document.text := by
  obtain ⟨t, ht, hreached, haddress⟩ := hu
  refine Option.ext fun v => ?_
  rw [Emitter.lookup_reachedTable, iff_and_self]
  intro hv
  obtain ⟨t', ht', htext⟩ := h.named _ _ hv
  rw [htext] at haddress
  obtain rfl := haddress.unique ht ht' (Emitter.isAddressOf_uri _ t')
  exact ⟨t, ht, hreached, htext⟩

/-- A validator of a schema that refers to nothing but what is reached is the same over the
documents that are reached alone. -/
theorem Validator.build_reachedTable {v : Json}
    (hv : ((Emitter.ofDomain domain).reachedCourse documents start).schema .draft7 v)
    (formats : List Format) (checksFormats : Bool) :
    Validator.build documents formats checksFormats v
      = Validator.build ((Emitter.ofDomain domain).reachedTable documents start) formats
          checksFormats v := by
  unfold Validator.build
  dsimp only
  rw [Registry.collect_congr (h.isClosed hdomain) (fun u hu => h.lookup_eq hu)
    (fun base _ => trivial) hv]

end

/-! ## Validators of what is reached -/

namespace Emitter

variable {e : Emitter} {documents : List (String × Json)} {start t : String}

/-- The schema of lists of a type refers to the type alone. -/
theorem schema_reachedCourse_listSchema (ht : Name.IsTypeName t) (hown : e.IsOwn t)
    (hreached : Relation.ReflTransGen (e.Cites documents) start t) :
    (e.reachedCourse documents start).schema .draft7 (Engine.listSchema (e.uri t)) := by
  have hreferences : ∀ s ∈ (Engine.listSchema (e.uri t)).references,
      e.StaysReached documents start s := by
    intro s hs
    obtain rfl : s = e.uri t := List.mem_singleton.1 hs
    exact .inr ⟨t, ht, hreached, .inl rfl⟩
  have htame : Survey.IsTame e documents (Engine.listSchema (e.uri t)) :=
    Engine.isTame_listSchema ht hown
  refine ⟨rfl, (htame.parts.and hreferences).imp fun s hs => hs.2, fun s hs => ?_⟩
  cases hs
  rfl

/-- A document that forwards to another one cites it. -/
theorem Forwards.cites {a b : String} (h : e.Forwards documents a b) : e.Cites documents a b := by
  obtain ⟨schema, hlookup, ms, rfl, hms⟩ := h.document
  refine ⟨h.target, _, hlookup, e.uri b, ?_, .inl rfl⟩
  refine Json.mem_references (Json.mem_objects_object.2 (.inl rfl)) ?_
  unfold Json.text?
  rw [Table.lookup_eq_map_find?, hms]
  rfl

/-- A document that forwards and is reached forwards in that table, too. -/
theorem Forwards.reachedTable {a b : String} (h : e.Forwards documents a b)
    (hreached : Relation.ReflTransGen (e.Cites documents) start a) :
    e.Forwards (e.reachedTable documents start) a b := by
  obtain ⟨schema, hlookup, hrefers⟩ := h.document
  exact ⟨h.name, h.target, schema, lookup_reachedTable_uri h.name hreached hlookup, hrefers⟩

/-- A chain of documents that forward is reached from its beginning. -/
theorem reflTransGen_cites_of_forwards {a : String}
    (h : Relation.TransGen (e.Forwards documents) a t) :
    Relation.ReflTransGen (e.Cites documents) a t :=
  h.to_reflTransGen.lift id fun _ _ => Forwards.cites

/-- So it is a chain in the table of what is reached, too. -/
theorem transGen_forwards_reachedTable {a : String}
    (h : Relation.TransGen (e.Forwards documents) a t) :
    Relation.TransGen (e.Forwards (e.reachedTable documents a)) a t := by
  induction h with
  | single hforwards => exact .single (hforwards.reachedTable .refl)
  | tail hchain hforwards ih =>
      exact .tail ih (hforwards.reachedTable (reflTransGen_cites_of_forwards hchain))

end Emitter

section

variable {domain : String} {documents : List (String × Json)} (hsign : '#' ∉ domain.toList)
  {formats : List Format} {checksFormats : Bool} {t : String} (ht : Name.IsTypeName t)
  {document : Json} (hlookup : documents.lookup ((Emitter.ofDomain domain).uri t) = some document)
  {v list : Validator}
  (hlist : Validator.build documents formats checksFormats
    (Engine.listSchema ((Emitter.ofDomain domain).uri t)) = .ok list)
  (hv : Validator.build documents formats checksFormats document = .ok v)

include hsign ht hlookup hlist

/-- A type has no validator of lists below a domain without a scheme. -/
theorem Emitter.IsPlainReach.isAbsoluteDomain {start : String}
    (h : (Emitter.ofDomain domain).IsPlainReach documents start)
    (hreached : Relation.ReflTransGen ((Emitter.ofDomain domain).Cites documents) start t) :
    IsAbsoluteDomain domain := by
  obtain ⟨r, hr, hread⟩ := bind_eq_ok.1 hlist
  obtain ⟨-, -, hread⟩ := bind_eq_ok.1 hread
  have hown := (h.plain t document ht hreached hlookup).1
  exact (Engine.reference_of_listSchema hsign h.named ht hown hr hread).1

include hv

/-- A validator of lists gives a list the errors that the validator of the type gives for its items,
and what is no list has an error, where the documents are plain that the type reaches. -/
theorem Validator.errors_of_build_listSchema_of_reach
    (h : (Emitter.ofDomain domain).IsPlainReach documents t) (hends : list.Ends) :
    (∀ xs, list.errors (.array xs) = Schema.itemErrors v.errors 0 xs)
      ∧ ∀ x, (∀ xs, x ≠ .array xs) → list.errors x ≠ [] := by
  have hdomain := h.isAbsoluteDomain hsign ht hlookup hlist .refl
  have hown := (h.plain t document ht .refl hlookup).1
  rw [build_reachedTable hdomain h (Emitter.schema_reachedCourse_listSchema ht hown .refl)] at hlist
  rw [build_reachedTable hdomain h (h.schema_reachedCourse ht .refl hlookup)] at hv
  exact errors_of_build_listSchema hsign h.isPlainTable ht
    (Emitter.lookup_reachedTable_uri ht .refl hlookup) hlist hv hends

/-- The validator of a type that forwards gives a value the errors that the validator of the type at
the end of the chain gives, where the documents are plain that the former reaches. -/
theorem Validator.errors_of_build_of_reach {a : String}
    (h : (Emitter.ofDomain domain).IsPlainReach documents a)
    (hchain : Relation.TransGen ((Emitter.ofDomain domain).Forwards documents) a t) {schema : Json}
    (hschema : documents.lookup ((Emitter.ofDomain domain).uri a) = some schema) {w : Validator}
    (hw : build documents formats checksFormats schema = .ok w) (hends : w.Ends) (x : Json) :
    w.errors x = v.errors x := by
  obtain ⟨b, hforwards, -⟩ := Relation.TransGen.head'_iff.1 hchain
  have ha := hforwards.name
  have hreached := Emitter.reflTransGen_cites_of_forwards hchain
  have hdomain := h.isAbsoluteDomain hsign ht hlookup hlist hreached
  have hown := (h.plain t document ht hreached hlookup).1
  rw [build_reachedTable hdomain h (Emitter.schema_reachedCourse_listSchema ht hown hreached)]
    at hlist
  rw [build_reachedTable hdomain h (h.schema_reachedCourse ht hreached hlookup)] at hv
  rw [build_reachedTable hdomain h (h.schema_reachedCourse ha .refl hschema)] at hw
  exact errors_of_build_of_forwards hsign h.isPlainTable
    (Emitter.transGen_forwards_reachedTable hchain) ht
    (Emitter.lookup_reachedTable_uri ht hreached hlookup)
    (Emitter.lookup_reachedTable_uri ha .refl hschema) hv hlist hw hends x

end

end TypeCatalog
