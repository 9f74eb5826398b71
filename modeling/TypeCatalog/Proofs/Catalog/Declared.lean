import TypeCatalog.Proofs.Catalog.Stages
import TypeCatalog.Proofs.Schema.Places
import TypeCatalog.Proofs.Validation.Missing

/-!
# Types that are declared and missing

A type that a definition refers to may be missing in two ways. Either no well-formed definition has
its name: then it is not known, and the reference is reported as one to an unknown type, even where
a definition of the name was there and broke a rule of its shape. Or a well-formed definition has
the name, but no document, since a reference of its own leads nowhere: then the type is known, the
documents that refer to it are written, and no validator can be built of them.

`unknown_or_blocked` says what is reported in each case. Its first part assumes no more than that
objects have no name twice. The second part is about references that the validator goes through: the
types of properties, in the document of a record and in those of its variants, and the references of
a schema that is given as such, where schemas stand.

The first way is `KnownTypes.ofDefinitions`, which has the names of the definitions that were read,
and `Emitter.unresolvedReferences`, which reports `unknownPropertyType` for a name that is not among
them. The second way is `Validator.build`, whose collection fails at a reference without a document
(`Emitter.exists_lookup_of_build`), and `schemaProblems`, which reports it as `schemaCompilation`.
-/

set_option autoImplicit false

namespace TypeCatalog

open Result Shape RawDefinition

/-! ## References of definitions -/

namespace Emitter

variable (e : Emitter)

/-- The types that a definition refers to: those of its properties, or those that its schema refers
to outside of data. -/
def targets (d : Definition) : List String :=
  match d.body with
  | .record r => r.properties.map (propertyTarget d.header.system)
  | .object b =>
    (Fragment.references "jsonSchema" b.schema).map fun p => e.fragmentTarget d.header.system p.2
  | _ => []

/-- Whether a document of a definition, its own or that of a variant, refers to a type where schemas
stand. -/
inductive AsksFor (d : Definition) (t : String) : Document → Prop where
  | property {r : RecordBody} {p : Property} (hbody : d.body = .record r) (hp : p ∈ r.properties)
      (htarget : propertyTarget d.header.system p = t) : AsksFor d t (e.typeDocument d)
  | selected {r : RecordBody} {v : Variant} {p : Property} (hbody : d.body = .record r)
      (hv : v ∈ r.variantList) (hp : p ∈ r.selected v)
      (htarget : propertyTarget d.header.system p = t) : AsksFor d t (e.variantDocument d r v)
  | reference {b : ObjectBody} {place : Json.Place} {reference : String}
      (hbody : d.body = .object b) (hplace : Fragment.IsSchemaPlace place)
      (hdata : Fragment.isInData place = false) (hlocal : Fragment.isLocal reference = false)
      (href : Fragment.referenceAt? b.schema place = some reference)
      (htarget : e.fragmentTarget d.header.system reference = t) : AsksFor d t (e.typeDocument d)

end Emitter

/-- Whether a diagnostic says that a type is unknown that something refers to. -/
structure Diagnostic.SaysUnknown (x : Diagnostic) (t : String) : Prop where
  kind : x.kind = .unresolvedReference
  rule : x.rule = some .unknownPropertyType
  reference : x.details.member? "reference" = some (.string t)

namespace Emitter

variable {e : Emitter} {known : KnownTypes} {d : Definition} {t label : String}

/-- What is reported of a list are the targets that are not known. -/
theorem exists_saysUnknown_of_filterMap {α : Type} {xs : List α}
    {target path message : α → String} :
    (∃ v ∈ xs.filterMap fun x => if known.contains (target x) then none
        else some (unresolved known .unknownPropertyType (path x) (message x) (target x)),
      (v.toDiagnostic label).SaysUnknown t)
      ↔ t ∈ xs.map target ∧ known.contains t = false := by
  constructor
  · rintro ⟨v, hv, hunknown⟩
    obtain ⟨x, hx, hv⟩ := List.mem_filterMap.1 hv
    split at hv
    · cases hv
    · next hcontains =>
        cases hv
        obtain rfl : target x = t := Json.string.inj (Option.some.inj hunknown.reference)
        exact ⟨List.mem_map_of_mem hx, Bool.eq_false_of_not_eq_true hcontains⟩
  · rintro ⟨ht, hcontains⟩
    obtain ⟨x, hx, rfl⟩ := List.mem_map.1 ht
    refine ⟨_, List.mem_filterMap.2 ⟨x, hx, if_neg ?_⟩, rfl, rfl, rfl⟩
    rw [hcontains]
    exact Bool.false_ne_true

/-- What a definition refers to is called unknown where it is not known. -/
theorem exists_saysUnknown_iff :
    (∃ v ∈ e.unresolvedReferences known d, (v.toDiagnostic label).SaysUnknown t)
      ↔ t ∈ e.targets d ∧ known.contains t = false := by
  unfold unresolvedReferences targets
  cases d.body with
  | record r =>
      have hmap : r.properties.zipIdx.map (fun p => propertyTarget d.header.system p.1)
          = r.properties.map (propertyTarget d.header.system) := by
        conv_rhs => rw [← List.zipIdx_map_fst 0 r.properties]
        rw [List.map_map]
        rfl
      dsimp only
      rw [← hmap]
      exact exists_saysUnknown_of_filterMap
  -- An enum refers to a type by its data type, which is reported under another rule.
  | object b => exact exists_saysUnknown_of_filterMap
  | enum b =>
      refine iff_of_false ?_ (fun h => List.not_mem_nil h.1)
      rintro ⟨v, hv, hunknown⟩
      dsimp only at hv
      split at hv
      · cases hv
      · split at hv
        · cases hv
        · rw [List.mem_singleton.1 hv] at hunknown
          cases hunknown.rule
  | _ => exact iff_of_false (fun ⟨v, hv, _⟩ => List.not_mem_nil hv) fun h => List.not_mem_nil h.1

/-- A type that a document asks for is one that its definition refers to. -/
theorem AsksFor.mem_targets {document : Document} (h : e.AsksFor d t document) :
    t ∈ e.targets d := by
  unfold targets
  cases h with
  | property hbody hp htarget =>
      rw [hbody]
      exact List.mem_map.2 ⟨_, hp, htarget⟩
  | selected hbody hv hp htarget =>
      rw [hbody]
      exact List.mem_map.2 ⟨_, List.mem_of_mem_filter hp, htarget⟩
  | reference hbody hplace hdata hlocal href htarget =>
      rw [hbody]
      exact List.mem_map.2 ⟨_, Fragment.mem_references "jsonSchema" hdata hlocal href, htarget⟩

end Emitter

/-! ## References of documents -/

/-- The schemas that a keyword holds are inside the schema that has the keyword. -/
theorem Draft.mem_subschemas_of_mem_schemasOf {v w x : Json} {keyword : String}
    (hw : v.member? keyword = some w) (hx : x ∈ draft7.schemasOf (keyword, w)) :
    x ∈ draft7.subschemas v := by
  cases v with
  | object ms => exact List.mem_flatMap.2 ⟨_, Table.mem_of_lookup hw, hx⟩
  | _ => cases hw

namespace Fragment

variable {keyword : String} {v x : Json}

/-- The schemas under a naming keyword are gone through by name. -/
theorem mem_schemasOf_named (hkeyword : keyword ∈ namingKeywords) {name : String}
    (hx : v.member? name = some x) : x ∈ Draft.draft7.schemasOf (keyword, v) := by
  have hholding : ∀ k ∈ namingKeywords, Draft.draft7.holding? k = some .named := by
    decide
  unfold Draft.schemasOf
  rw [hholding keyword hkeyword]
  cases v with
  | object ms => exact List.mem_map_of_mem (Table.mem_of_lookup hx)
  | _ => cases hx

/-- A keyword for one schema may hold a list of schemas instead. -/
theorem mem_schemasOf_direct (hkeyword : keyword ∈ schemaKeywords) (hlist : ∀ xs, v ≠ .array xs) :
    v ∈ Draft.draft7.schemasOf (keyword, v) := by
  have hholding : ∀ k ∈ schemaKeywords, Draft.draft7.holding? k = some .schema
      ∨ Draft.draft7.holding? k = some .schemaOrList := by
    decide
  unfold Draft.schemasOf
  rcases hholding keyword hkeyword with hk | hk
  · rw [hk]
    exact List.mem_singleton.2 rfl
  · rw [hk]
    cases v with
    | array xs => exact absurd rfl (hlist xs)
    | _ => exact List.mem_singleton.2 rfl

/-- So are those of a list. -/
theorem mem_schemasOf_listed (hkeyword : keyword ∈ listKeywords) {xs : List Json} (hx : x ∈ xs) :
    x ∈ Draft.draft7.schemasOf (keyword, .array xs) := by
  have hholding : ∀ k ∈ listKeywords, Draft.draft7.holding? k = some .list
      ∨ Draft.draft7.holding? k = some .schemaOrList := by
    decide
  unfold Draft.schemasOf
  rcases hholding keyword hkeyword with hk | hk
  · rw [hk]
    exact hx
  · rw [hk]
    exact hx

end Fragment

/-- A schema at a place where schemas stand is one that is gone through. -/
theorem mentions_of_referenceAt? {place : Json.Place} (hplace : Fragment.IsSchemaPlace place)
    {v : Json} {reference : String} (h : Fragment.referenceAt? v place = some reference) :
    Mentions reference v := by
  obtain ⟨x, hx, href⟩ := Fragment.referenceAt?_eq_some.1 h
  clear h
  induction hplace generalizing v with
  | root =>
      cases hx
      exact .here href
  | named hkeyword rest ih =>
      obtain ⟨w, hw, hx⟩ := Json.at?_cons_eq_some.1 hx
      obtain ⟨y, hy, hx⟩ := Json.at?_cons_eq_some.1 hx
      exact .inside
        (Draft.mem_subschemas_of_mem_schemasOf hw
          (Fragment.mem_schemasOf_named hkeyword hy)) (ih hx)
  | direct hkeyword rest ih =>
      obtain ⟨w, hw, hx⟩ := Json.at?_cons_eq_some.1 hx
      -- A list has no members, so neither the reference nor a place that leads on is in one.
      have hlist : ∀ xs, w ≠ .array xs := by
        rintro xs rfl
        cases rest with
        | root =>
            cases hx
            cases href
        | _ =>
            obtain ⟨y, hy, -⟩ := Json.at?_cons_eq_some.1 hx
            cases hy
      exact .inside
        (Draft.mem_subschemas_of_mem_schemasOf hw (Fragment.mem_schemasOf_direct hkeyword hlist))
        (ih hx)
  | listed hkeyword rest ih =>
      obtain ⟨w, hw, hx⟩ := Json.at?_cons_eq_some.1 hx
      obtain ⟨y, hy, hat⟩ := Json.at?_cons_eq_some.1 hx
      cases w with
      | array xs =>
          exact .inside (Draft.mem_subschemas_of_mem_schemasOf hw
            (Fragment.mem_schemasOf_listed hkeyword (List.mem_of_getElem? hy))) (ih hat)
      | _ => cases hy

namespace Emitter

variable {e : Emitter} {known : KnownTypes} {d : Definition} {t : String}

/-- The document that asks for a type is one of the definition. -/
theorem AsksFor.mem_documentsOf {document : Document} (h : e.AsksFor d t document) :
    document ∈ e.documentsOf d := by
  cases h with
  | selected hbody hv _ _ =>
      exact .tail _ ((e.mem_variantDocuments d).2 ⟨_, _, hbody, hv, rfl⟩)
  | _ => exact List.mem_cons_self

/-- The document of a record or a variant refers to the types of its properties. -/
theorem mentions_recordMembers {name system : String} {header : Header} {ps : List Property}
    {required : List String} (hnodup : (ps.map (·.name)).Nodup) {p : Property} (hp : p ∈ ps) :
    Mentions (e.uri (propertyTarget system p))
      (.object (e.headerMembers name header ++ e.recordMembers system ps required)) := by
  have hwellFormed : (Demand.record system ps required).WellFormed := hnodup
  have hinside : e.propertySchema system p ∈ Draft.draft7.subschemas
      (e.demandSchema name header (.record system ps required)) :=
    (Describes.mem_subschemas_demandSchema hwellFormed).2 ⟨_, _, _, rfl, .inr ⟨p, hp, rfl⟩⟩
  exact .inside hinside (refers_propertySchema_iff.2 rfl).mentions

/-- What a document asks for it refers to in its text, perhaps with a fragment behind. -/
theorem AsksFor.exists_mentions (hd : d.WellFormed) (hnil : e.unresolvedReferences known d = [])
    {document : Document} (h : e.AsksFor d t document) :
    ∃ tail : String, (tail.toList = [] ∨ tail.toList.head? = some '#')
      ∧ Mentions (e.uri t ++ tail) document.schema := by
  cases h with
  -- The document of a record asks by its properties, that of a variant by those that it selects,
  -- and a schema by its references.
  | @property r p hbody hp htarget =>
      refine ⟨"", .inl rfl, ?_⟩
      rw [String.append_empty, ← htarget]
      unfold typeDocument
      dsimp only
      rw [hbody]
      exact mentions_recordMembers (hd.record r hbody).properties hp
  | @selected r v p hbody hv hp htarget =>
      refine ⟨"", .inl rfl, ?_⟩
      rw [String.append_empty, ← htarget]
      exact mentions_recordMembers
        ((hd.record r hbody).properties.sublist (List.filter_sublist.map _)) hp
  | @reference b place reference hbody hplace hdata hlocal href htarget =>
      have hemit : e.emit known d = .ok ⟨e.typeDocument d, e.variantDocuments d⟩ :=
        (e.emit_eq_ok_iff known).2 ⟨hnil, rfl⟩
      obtain ⟨-, hreference⟩ :=
        e.referenceAt?_of_emit_eq_ok known hbody hplace hdata hlocal href hemit
      rw [htarget] at hreference
      refine ⟨Fragment.behind reference, ?_, mentions_of_referenceAt? hplace hreference⟩
      unfold Fragment.behind
      rw [String.toList_ofList]
      have hhead := List.head?_dropWhile_not (fun c => decide (c ≠ '#')) reference.toList
      cases hdrop : reference.toList.dropWhile (fun c => decide (c ≠ '#')) with
      | nil => exact .inl rfl
      | cons c cs =>
          rw [hdrop] at hhead
          exact .inr (by simpa using hhead)

end Emitter

namespace Catalog

variable {settings : Settings} {formats : List Format} {store : Store}

/-! ## What is known -/

/-- A name is read exactly when a well-formed definition has it. -/
theorem exists_typeName_readAll_iff {documentation : Bool} {entries : List RawDefinition}
    (hentries : ∀ raw ∈ entries, raw.value.Distinct) {taken : List String} {index : Nat}
    {t : String} (ht : t ∉ taken) :
    (∃ d ∈ (readAll documentation taken index entries).1, d.typeName = t)
      ↔ ∃ raw ∈ entries, raw.isWellFormed = true ∧ raw.typeName? = some t := by
  constructor
  · rintro ⟨d, hd, rfl⟩
    obtain ⟨raw, hraw, hviolations, e, he, rfl⟩ := exists_of_mem_readAll hd
    refine ⟨raw, hraw, List.isEmpty_iff.2 hviolations, ?_⟩
    rw [typeName?_of_decode hviolations he, Definition.withDefaults_typeName]
  · rintro ⟨raw, hraw, hwell, hname⟩
    induction entries generalizing taken index with
    | nil => cases hraw
    | cons other rest ih =>
        rw [List.forall_mem_cons] at hentries
        cases hentry : readEntry taken index other with
        | error es =>
            rw [readAll_cons_error hentry]
            refine ih hentries.2 ht ((List.mem_cons.1 hraw).resolve_left ?_)
            rintro rfl
            -- A well-formed definition is left out for its name alone, and the name is new.
            obtain ⟨d, hd, hlabel, -⟩ := exists_label hentries.1 (List.isEmpty_iff.1 hwell)
            rw [hname] at hlabel
            rw [readEntry_eq_ok (List.isEmpty_iff.1 hwell) hd
              (by rwa [← Option.some.inj hlabel])] at hentry
            cases hentry
        | ok d =>
            rw [readAll_cons_ok hentry]
            by_cases heq : d.typeName = t
            · exact ⟨d, List.mem_cons_self, heq⟩
            · have hrest : raw ∈ rest := by
                refine (List.mem_cons.1 hraw).resolve_left ?_
                rintro rfl
                obtain ⟨hviolations, -, e, he, rfl⟩ := of_readEntry_eq_ok hentry
                rw [typeName?_of_decode hviolations he] at hname
                exact heq ((Definition.withDefaults_typeName e).trans (Option.some.inj hname))
              have hnew : t ∉ d.typeName :: taken := by
                rw [List.mem_cons, not_or]
                exact ⟨Ne.symm heq, ht⟩
              obtain ⟨u, hu, hname⟩ := ih hentries.2 hnew hrest
              exact ⟨u, .tail _ hu, hname⟩

/-- A type is known where a well-formed definition has its name. -/
theorem contains_iff (hentries : ∀ raw ∈ store.entries, raw.value.Distinct) {t : String} :
    (KnownTypes.ofDefinitions (ofStore settings formats store).definitions).contains t = true
      ↔ ∃ raw ∈ store.entries, raw.isWellFormed = true ∧ raw.typeName? = some t := by
  rw [KnownTypes.contains_ofDefinitions typeNames_nodup, definitions_ofStore]
  exact exists_typeName_readAll_iff hentries List.not_mem_nil

/-- So a type is unknown exactly when no well-formed definition has its name. -/
theorem contains_eq_false_iff (hentries : ∀ raw ∈ store.entries, raw.value.Distinct) {t : String} :
    (KnownTypes.ofDefinitions (ofStore settings formats store).definitions).contains t = false
      ↔ ∀ raw ∈ store.entries, raw.typeName? = some t → raw.isWellFormed = false := by
  rw [← Bool.not_eq_true, contains_iff hentries]
  constructor
  · intro h raw hraw hname
    exact Bool.eq_false_of_not_eq_true fun hwell => h ⟨raw, hraw, hwell, hname⟩
  · rintro h ⟨raw, hraw, hwell, hname⟩
    exact Bool.false_ne_true ((h raw hraw hname).symm.trans hwell)

/-- Of all that is found in a store, only the second pass calls a type unknown. -/
theorem mem_unresolvedOf_of_saysUnknown {x : Diagnostic} {t : String} (hunknown : x.SaysUnknown t)
    (hx : x ∈ found settings formats store) :
    x ∈ unresolvedOf (emitAll (Emitter.ofDomain settings.domain)
      (ofStore settings formats store).definitions) := by
  unfold found problems at hx
  rw [List.mem_append, List.mem_append, List.mem_append] at hx
  rcases hx with hx | hx | hx | hx
  · obtain ⟨rule, hrule, -, hapart⟩ := isOfReading_of_mem_readAll hx
    rw [hunknown.rule] at hrule
    cases hrule
    exact absurd (.head _) hapart
  · exact hx
  · -- The later passes report other kinds of diagnostics.
    have hkind := kind_of_mem_schemaProblems hx
    rw [hunknown.kind] at hkind
    cases hkind
  · obtain ⟨d, -, hx⟩ := List.mem_flatMap.1 hx
    have hkind := (isOfValues_of_mem_valueProblems hx).kind
    rw [hunknown.kind] at hkind
    exact absurd hkind (by decide)

/-- What is called unknown in a report is an unresolved reference of a definition. -/
theorem mem_errors_iff_of_saysUnknown {x : Diagnostic} {t : String} (hunknown : x.SaysUnknown t) :
    x ∈ (ofStore settings formats store).report.errors
      ↔ ∃ d ∈ (ofStore settings formats store).definitions,
        ∃ v ∈ (Emitter.ofDomain settings.domain).unresolvedReferences
          (KnownTypes.ofDefinitions (ofStore settings formats store).definitions) d,
          v.toDiagnostic d.typeName = x := by
  have hfilter : x ∈ (ofStore settings formats store).report.errors
      ↔ x ∈ (found settings formats store).filter (·.severity = .error) := by
    rw [← errors_filter_eq, List.mem_filter, hunknown.kind]
    exact (and_iff_left rfl).symm
  rw [hfilter]
  constructor
  · intro hx
    have hx := mem_unresolvedOf_of_saysUnknown hunknown (List.mem_filter.1 hx).1
    rw [unresolvedOf_emitAll] at hx
    obtain ⟨d, hd, hx⟩ := List.mem_flatMap.1 hx
    exact ⟨d, hd, List.mem_map.1 hx⟩
  · rintro ⟨d, hd, v, hv, rfl⟩
    refine List.mem_filter.2 ⟨List.mem_append_right _ (List.mem_append_left _ ?_), ?_⟩
    · rw [unresolvedOf_emitAll]
      exact List.mem_flatMap.2 ⟨d, hd, List.mem_map_of_mem hv⟩
    · unfold Diagnostic.severity
      rw [hunknown.kind]
      rfl

/-- A reference is reported as one to an unknown type where no well-formed definition has the name.
-/
theorem exists_saysUnknown_errorsFor_iff (hentries : ∀ raw ∈ store.entries, raw.value.Distinct)
    {label t : String} :
    (∃ x ∈ (ofStore settings formats store).report.errorsFor label, x.SaysUnknown t)
      ↔ ∃ d ∈ (ofStore settings formats store).definitions, d.typeName = label
        ∧ t ∈ (Emitter.ofDomain settings.domain).targets d
        ∧ ∀ raw ∈ store.entries, raw.typeName? = some t → raw.isWellFormed = false := by
  rw [← @contains_eq_false_iff settings formats store hentries t]
  constructor
  · rintro ⟨x, hx, hunknown⟩
    obtain ⟨hx, hname⟩ := List.mem_filter.1 hx
    obtain ⟨d, hd, v, hv, rfl⟩ := (mem_errors_iff_of_saysUnknown hunknown).1 hx
    exact ⟨d, hd, of_decide_eq_true hname, Emitter.exists_saysUnknown_iff.1 ⟨v, hv, hunknown⟩⟩
  · rintro ⟨d, hd, rfl, ht⟩
    obtain ⟨v, hv, hunknown⟩ := Emitter.exists_saysUnknown_iff.2 ht
    have hx := (mem_errors_iff_of_saysUnknown hunknown).2 ⟨d, hd, v, hv, rfl⟩
    exact ⟨_, List.mem_filter.2 ⟨hx, decide_eq_true rfl⟩, hunknown⟩

/-! ## What is missing -/

/-- A definition that asks for types has documents where all types that it refers to are known. -/
theorem mem_resolved_of_asksFor {d : Definition}
    (hd : d ∈ (ofStore settings formats store).definitions) {t : String} {document : Document}
    (hasks : (Emitter.ofDomain settings.domain).AsksFor d t document)
    (hknown : ∀ u ∈ (Emitter.ofDomain settings.domain).targets d,
      (KnownTypes.ofDefinitions (ofStore settings formats store).definitions).contains u = true) :
    d ∈ resolved settings formats store := by
  have hdeclared : ∀ u ∈ (Emitter.ofDomain settings.domain).targets d,
      ∃ t, t ∈ (ofStore settings formats store).definitions ∧ t.typeName = u :=
    fun u hu => (KnownTypes.contains_ofDefinitions typeNames_nodup).1 (hknown u hu)
  refine mem_resolvedOf.2 ⟨hd, (Emitter.unresolvedReferences_eq_nil_iff typeNames_nodup).2 ?_⟩
  unfold Definition.Resolves
  unfold Emitter.targets at hdeclared
  cases hasks with
  | property hbody _ _ =>
      rw [hbody] at hdeclared ⊢
      exact fun p hp => hdeclared _ (List.mem_map_of_mem hp)
  | selected hbody _ _ _ =>
      rw [hbody] at hdeclared ⊢
      exact fun p hp => hdeclared _ (List.mem_map_of_mem hp)
  | reference hbody _ _ _ _ _ =>
      rw [hbody] at hdeclared ⊢
      exact fun path reference hmem => hdeclared _ (List.mem_map.2 ⟨_, hmem, rfl⟩)

/-- What a reference to a type leads to is held only where there is a document of the name. -/
theorem isEmitted_of_lookup {t address : String} (ht : Name.IsTypeName t)
    (haddress : IsAddressOf address t)
    (h : ((engineOf settings formats store).documents.lookup address).isSome = true) :
    (ofStore settings formats store).IsEmitted t := by
  obtain ⟨schema, hlookup⟩ := Option.isSome_iff_exists.1 h
  unfold engineOf at hlookup
  rw [Engine.ofDocuments_eq] at hlookup
  rcases Table.mem_of_lookup_foldl_insert hlookup with ⟨document, hmem, rfl, rfl⟩ | hnil
  · obtain ⟨system, name, hname, hs, hn⟩ := exists_of_mem_documents hmem
    rw [uri_of_mem_documents hmem] at haddress
    exact ⟨document, hmem,
      (Emitter.isAddressOf_uri _ _).unique ⟨system, name, hs, hn, hname⟩ ht haddress⟩
  · cases hnil

/-- No validator can be built of a document that asks for a type without a document. -/
theorem lookup_validators_eq_none (hweb : IsWebDomain settings.domain)
    (hdistinct : ((ofStore settings formats store).documents.map (·.typeName)).Nodup)
    {d : Definition} (hd : d ∈ resolved settings formats store) {t : String} {document : Document}
    (hasks : (Emitter.ofDomain settings.domain).AsksFor d t document)
    (hparts : document.schema.HasPlainParts fun _ => True) (ht : Name.IsTypeName t)
    (hforeign : (Emitter.ofDomain settings.domain).IsForeign t)
    (hmissing : ¬ (ofStore settings formats store).IsEmitted t) :
    (ofStore settings formats store).validators.lookup document.typeName = none := by
  obtain ⟨hdefinition, hnil⟩ := mem_resolvedOf.1 hd
  have hdocument : document ∈ (ofStore settings formats store).documents :=
    mem_documents.2 ⟨d, hd, hasks.mem_documentsOf⟩
  obtain ⟨system, name, hname, hs, hn⟩ := exists_of_mem_documents hdocument
  obtain ⟨header, rest, hschema⟩ :=
    (Emitter.ofDomain settings.domain).exists_header_of_mem_documentsOf d hasks.mem_documentsOf
  have hid : document.schema.member? "$id"
      = some (.string ((Emitter.ofDomain settings.domain).uri document.typeName)) := by
    rw [hschema]
    rfl
  obtain ⟨tail, htail, hmentions⟩ := hasks.exists_mentions (wellFormed_of_mem hdefinition) hnil
  have hne : t ≠ document.typeName := by
    rintro rfl
    exact hmissing ⟨document, hdocument, rfl⟩
  rw [Option.eq_none_iff_forall_ne_some]
  -- A validator would have been built of the document, and so of all that the document refers to.
  intro v hv
  obtain ⟨haddress, hlookup⟩ := lookup_engineOf hdistinct hdocument
  have hbuild := (build_of_compile_eq_ok haddress hlookup (lookup_validators.1 hv).2).1
  obtain ⟨address, hat, hheld⟩ := Emitter.exists_lookup_of_build hweb
    ⟨system, name, hs, hn, hname⟩ ht hne hforeign htail hid hparts hmentions
    (Engine.build_eq_ok.1 hbuild)
  exact hmissing (isEmitted_of_lookup ht hat hheld)

/-- A type that a definition refers to may be missing in two ways.

A reference is reported as one to an unknown type exactly where no well-formed definition has the
name, whether or not another one has it. And where all types that a definition refers to are known
in this way, none of its references is reported; but if one of its documents asks for a type that
has no document, then no validator can be built of that document, and this is one error. The second
part is said of documents with different names below a domain of the web, of a document that gives
no addresses inside, and of a type none of whose addresses the schema language has. -/
theorem unknown_or_blocked (hentries : ∀ raw ∈ store.entries, raw.value.Distinct) :
    (∀ label t, (∃ x ∈ (ofStore settings formats store).report.errorsFor label, x.SaysUnknown t)
      ↔ ∃ d ∈ (ofStore settings formats store).definitions, d.typeName = label
        ∧ t ∈ (Emitter.ofDomain settings.domain).targets d
        ∧ ∀ raw ∈ store.entries, raw.typeName? = some t → raw.isWellFormed = false)
    ∧ (IsWebDomain settings.domain →
      ((ofStore settings formats store).documents.map (·.typeName)).Nodup →
      ∀ d ∈ (ofStore settings formats store).definitions,
        (∀ t ∈ (Emitter.ofDomain settings.domain).targets d,
          ∃ raw ∈ store.entries, raw.isWellFormed = true ∧ raw.typeName? = some t) →
        (∀ x ∈ (ofStore settings formats store).report.errorsFor d.typeName, ∀ t,
          ¬ x.SaysUnknown t)
        ∧ ∀ document t, (Emitter.ofDomain settings.domain).AsksFor d t document →
          (document.schema.HasPlainParts fun _ => True) →
          (Emitter.ofDomain settings.domain).IsForeign t →
          ¬ (ofStore settings formats store).IsEmitted t →
          (ofStore settings formats store).validators.lookup document.typeName = none
          ∧ ((ofStore settings formats store).report.errorsFor document.typeName).countP
            (·.kind = .schemaCompilation) = 1) := by
  have hunknown := @exists_saysUnknown_errorsFor_iff settings formats store hentries
  refine ⟨@hunknown, fun hweb hdistinct d hd hdeclared => ⟨fun x hx t hsays => ?_, ?_⟩⟩
  · obtain ⟨e, he, hname, ht, hnone⟩ := hunknown.1 ⟨x, hx, hsays⟩
    -- Names of definitions differ, so the reference is one of the definition itself.
    obtain rfl := List.inj_on_of_nodup_map typeNames_nodup he hd hname
    obtain ⟨raw, hraw, hwell, hname⟩ := hdeclared t ht
    exact Bool.false_ne_true ((hnone raw hraw hname).symm.trans hwell)
  · intro document t hasks hparts hforeign hmissing
    have hknown : ∀ u ∈ (Emitter.ofDomain settings.domain).targets d,
        (KnownTypes.ofDefinitions (ofStore settings formats store).definitions).contains u = true :=
      fun u hu => (contains_iff hentries).2 (hdeclared u hu)
    have hresolved := mem_resolved_of_asksFor hd hasks hknown
    obtain ⟨target, htarget, hname⟩ :=
      (KnownTypes.contains_ofDefinitions typeNames_nodup).1 (hknown t hasks.mem_targets)
    have ht : Name.IsTypeName t := hname ▸ isTypeName_of_mem htarget
    have hnone :=
      lookup_validators_eq_none hweb hdistinct hresolved hasks hparts ht hforeign hmissing
    refine ⟨hnone, ?_⟩
    rw [count_schemaCompilation hdistinct (mem_documents.2 ⟨d, hresolved, hasks.mem_documentsOf⟩),
      hnone]
    rfl

/-- A store with a flag that breaks a rule of its shape and an enum whose data type is missing, and
two records that refer to one of them each. -/
def failedStore : Store := ⟨[
  ⟨none, .object [("kind", .string "bool"), ("system", .string "test"), ("name", .string "flag"),
    ("size", .null)]⟩,
  ⟨none, .object [("kind", .string "enum"), ("system", .string "test"), ("name", .string "role"),
    ("items", .array [.object [("value", .string "a"), ("text", .string "A")]]),
    ("dataType", .string "missing")]⟩,
  ⟨none, .object [("kind", .string "record"), ("system", .string "test"),
    ("name", .string "person"), ("properties", .array
      [.object [("name", .string "active"), ("propertyType", .string "flag")]]),
    ("validTestCases", .array [])]⟩,
  ⟨none, .object [("kind", .string "record"), ("system", .string "test"), ("name", .string "team"),
    ("properties", .array
      [.object [("name", .string "lead"), ("propertyType", .string "role")]]),
    ("validTestCases", .array [])]⟩]⟩

/-- The record that refers to the enum. -/
def teamDefinition : Definition :=
  Definition.withDefaults ⟨⟨"test", "team", none, none, none, none, none, none⟩,
    .record ⟨[⟨"lead", none, "role", none, none⟩], none, none, [], none⟩⟩

/-- The flag is called unknown, although a definition has its name; the enum is not, and blocks the
record that refers to it. -/
theorem unknown_or_blocked_failedStore :
    (∀ raw ∈ failedStore.entries, raw.value.Distinct)
    ∧ IsWebDomain Settings.standard.domain
    ∧ ((ofStore .standard [] failedStore).documents.map (·.typeName)).Nodup
    ∧ (Emitter.ofDomain Settings.standard.domain).IsForeign "test/role"
    ∧ (∃ x ∈ (ofStore .standard [] failedStore).report.errorsFor "test/person",
      x.SaysUnknown "test/flag")
    ∧ (∃ raw ∈ failedStore.entries, raw.typeName? = some "test/flag")
    ∧ (∀ x ∈ (ofStore .standard [] failedStore).report.errorsFor "test/team", ∀ t,
      ¬ x.SaysUnknown t)
    ∧ (ofStore .standard [] failedStore).validators.lookup "test/team" = none
    ∧ ((ofStore .standard [] failedStore).report.errorsFor "test/team").countP
      (·.kind = .schemaCompilation) = 1 := by
  have hentries : ∀ raw ∈ failedStore.entries, raw.value.Distinct := by
    simp [failedStore, Json.Distinct, Json.DistinctMembers, Json.DistinctItems]
  have hweb : IsWebDomain Settings.standard.domain :=
    ⟨⟨"https".toList, "jsonotron.org".toList, by decide, by decide⟩, by decide, by decide⟩
  have hdistinct : ((ofStore .standard [] failedStore).documents.map (·.typeName)).Nodup := by
    rw [(documents_perm_resolved.map (·.typeName)).nodup_iff]
    decide +kernel
  have hforeign : (Emitter.ofDomain Settings.standard.domain).IsForeign "test/role" := by
    decide +kernel
  have hteam : teamDefinition ∈ (ofStore .standard [] failedStore).definitions := by
    rw [definitions_ofStore]
    decide +kernel
  -- The data type of the enum is unknown, so the enum has no document.
  have hmissing : ¬ (ofStore .standard [] failedStore).IsEmitted "test/role" := by
    rw [isEmitted_ofStore_iff]
    decide +kernel
  have hasks : (Emitter.ofDomain Settings.standard.domain).AsksFor teamDefinition "test/role"
      ((Emitter.ofDomain Settings.standard.domain).typeDocument teamDefinition) :=
    .property rfl List.mem_cons_self (by decide)
  have hparts : ((Emitter.ofDomain Settings.standard.domain).typeDocument
      teamDefinition).schema.HasPlainParts fun _ => True := by
    have hobjects : ∀ x ∈ ((Emitter.ofDomain Settings.standard.domain).typeDocument
        teamDefinition).schema.children, ∀ ms ∈ x.objects,
          Json.text? ms "$id" = none ∧ Json.text? ms "$schema" = none := by
      decide +kernel
    refine ⟨fun _ _ _ _ => trivial, fun x hx ms hms => ?_⟩
    obtain ⟨haddress, hversion⟩ := hobjects x hx ms hms
    exact ⟨haddress, hversion, fun _ _ => trivial⟩
  obtain ⟨hunknown, hblocked⟩ := @unknown_or_blocked .standard [] failedStore hentries
  obtain ⟨hknown, hmissed⟩ := hblocked hweb hdistinct teamDefinition hteam (by decide +kernel)
  obtain ⟨hnone, hcount⟩ := hmissed _ _ hasks hparts hforeign hmissing
  refine ⟨hentries, hweb, hdistinct, hforeign, (hunknown _ _).2 ?_, by decide +kernel, hknown,
    hnone, hcount⟩
  rw [definitions_ofStore]
  decide +kernel

end Catalog

end TypeCatalog
