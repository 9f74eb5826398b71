import TypeCatalog.Proofs.Validation.Relocation
import TypeCatalog.Validation.Engine

/-!
# Validators of lists

The validator of lists of a type is built of a schema of its own, which refers to the document of
the type by its address. A survey of this schema fetches that document first, so that nothing is
found at the address unless the address is written in normal form (`Survey.IsUnfetched`).

What is read is a condition on the type of the value and a reference for the items, and each item is
checked at the first step of a place of its own. So the errors of a list are those that the
validator of the document gives for its items (`TwoWays.errors_array`).

The schema is `Engine.listSchema`, and `Site.address` gives it the address of schemas without a
name, since it has no `$id`. `Survey.IsUnfetched` is kept by each function of the survey until
`Survey.fetch` looks the address up. Behind that, `TwoWays.errors_array` follows `Schema.errors`
through `type` and `items`.
-/

set_option autoImplicit false

namespace TypeCatalog

open Result

namespace Engine

variable {uri : String}

/-- The schema of the items of a list. -/
def itemSchema (uri : String) : Json := .object [("$ref", .string uri)]

/-- The one schema inside a schema of lists is that of the items. -/
theorem subschemas_listSchema :
    Draft.draft7.subschemas (listSchema uri) = [itemSchema uri] := by rfl

/-- That of the items has none inside. -/
theorem subschemas_itemSchema : Draft.draft7.subschemas (itemSchema uri) = [] := by rfl

/-- A schema of lists has no name, and refers to a type alone. -/
theorem isTame_listSchema {e : Emitter} {documents : List (String × Json)} {t : String}
    (ht : Name.IsTypeName t) (hown : e.IsOwn t) :
    Survey.IsTame e documents (listSchema (e.uri t)) where
  parts := by
    refine ⟨fun ms hms s hs => ?_, fun x hx ms hms => ?_⟩
    · cases hms
      cases hs
    · simp only [listSchema, Json.children, List.map_cons, List.map_nil, List.mem_cons,
        List.not_mem_nil, or_false] at hx
      rcases hx with rfl | rfl | rfl
      · cases hms
      · cases hms
      · rcases Json.mem_objects_object.1 hms with rfl | ⟨m, hm, hms⟩
        · refine ⟨rfl, rfl, fun s hs => .inr ⟨t, ht, hown, .inl ?_⟩⟩
          cases hs
          rfl
        · cases List.mem_singleton.1 hm
          cases hms
  anchors := rfl
  address := .inl rfl

end Engine

/-! ## The survey -/

namespace Survey

/-- Whether a survey of a schema of lists has met the schema of the items alone, and has fetched
nothing. -/
structure IsUnfetched (uri : String) (s : Survey) : Prop where
  resources : s.registry.resources
    = (Site.rootBase.text, ⟨.draft7, Engine.listSchema uri⟩) :: MetaSchema.registry.resources
  waiting : ∀ site ∈ s.waiting,
    site ∈ [Engine.listSchema uri, Engine.itemSchema uri].map fun v => ⟨Site.rootBase, ⟨.draft7, v⟩⟩
  pending : ∀ u ∈ s.pending, Site.resolve Site.rootBase uri = .ok u

namespace IsUnfetched

variable {uri : String} (hlocal : Fragment.isLocal uri = false) {s s' : Survey}

include hlocal

/-- Noting a reference to the address or to the version of the language fetches nothing. -/
theorem note {follow : Json → Survey → Except SchemaFault Survey} {whole : Json}
    {reference : String} (href : reference = Emitter.draft ∨ reference = uri)
    (hs : s.IsUnfetched uri) (h : Survey.note follow Site.rootBase whole s reference = .ok s') :
    s'.IsUnfetched uri := by
  unfold Survey.note at h
  split at h
  · cases h
    exact hs
  · next hnew =>
      rcases href with rfl | rfl
      · have hspecification : Draft.isSpecification Emitter.draft = true := by decide
        rw [hspecification, Bool.true_or] at hnew
        exact absurd rfl hnew
      · dsimp only at h
        rw [hlocal, if_neg Bool.false_ne_true] at h
        obtain ⟨u, hu, rfl⟩ := map_eq_ok.1 h
        exact ⟨hs.resources, hs.waiting, List.forall_mem_cons.2 ⟨hu, hs.pending⟩⟩

/-- So does noting what the schema of lists or that of the items refers to. -/
theorem noteAll {schema : Json} (hschema : schema ∈ [Engine.listSchema uri, Engine.itemSchema uri])
    (hs : s.IsUnfetched uri) (h : Survey.noteAll Site.rootBase schema s = .ok s') :
    s'.IsUnfetched uri := by
  unfold Survey.noteAll at h
  rw [if_neg (by decide)] at h
  unfold noteOf at h
  refine foldlM_preserves (fun reference href b c hb hc => hb.note hlocal ?_ hc) hs h
  rcases List.mem_pair.1 hschema with rfl | rfl
  · exact .inl (List.mem_singleton.1 href)
  · exact .inr (List.mem_singleton.1 href)

/-- The schema of the items may begin to wait. -/
theorem enqueue (hs : s.IsUnfetched uri)
    (h : Survey.enqueue Site.rootBase .draft7 s (Engine.itemSchema uri) = .ok s') :
    s'.IsUnfetched uri := by
  unfold Survey.enqueue at h
  obtain ⟨draft, hdraft, h⟩ := bind_eq_ok.1 h
  cases hdraft
  obtain ⟨base, hbase, h⟩ := bind_eq_ok.1 h
  cases hbase
  obtain ⟨noted, hnoted, h⟩ := bind_eq_ok.1 h
  cases h
  have hnoted := hs.noteAll hlocal (List.mem_pair.2 (.inr rfl)) hnoted
  refine ⟨hnoted.resources, ?_, hnoted.pending⟩
  rw [List.forall_mem_append, List.forall_mem_singleton]
  exact ⟨hnoted.waiting, .tail _ (.head _)⟩

/-- Going through one of the two schemas fetches nothing. -/
theorem visit {schema : Json} (hschema : schema ∈ [Engine.listSchema uri, Engine.itemSchema uri])
    (hs : s.IsUnfetched uri)
    (h : Survey.visit s ⟨Site.rootBase, ⟨.draft7, schema⟩⟩ = .ok s') : s'.IsUnfetched uri := by
  unfold Survey.visit at h
  obtain ⟨base, hbase, h⟩ := bind_eq_ok.1 h
  obtain ⟨noted, hnoted, h⟩ := bind_eq_ok.1 h
  have hunnamed : Draft.draft7.ownAddress? schema = none := by
    rcases List.mem_pair.1 hschema with rfl | rfl <;> rfl
  unfold Site.enter at hbase
  dsimp only at hbase hnoted h
  rw [hunnamed] at hbase hnoted
  cases hbase
  have hnoted : noted.IsUnfetched uri := by
    refine noteAll hlocal hschema ?_ hnoted
    exact ⟨hs.resources, hs.waiting, hs.pending⟩
  refine foldlM_preserves (fun x hx b c hb hc => ?_) hnoted h
  rcases List.mem_pair.1 hschema with rfl | rfl
  · rw [Engine.subschemas_listSchema] at hx
    rw [List.mem_singleton.1 hx] at hc
    exact hb.enqueue hlocal hc
  · rw [Engine.subschemas_itemSchema] at hx
    cases hx

/-- So does going through all that wait. -/
theorem visitAll {rounds : Nat} (hs : s.IsUnfetched uri)
    (h : Survey.visitAll rounds s = .ok s') : s'.IsUnfetched uri := by
  induction rounds generalizing s with
  | zero =>
      cases h
      exact hs
  | succ rounds ih =>
      unfold Survey.visitAll at h
      split at h
      · cases h
        exact hs
      · next site rest hwaiting =>
          have hall := hs.waiting
          rw [hwaiting, List.forall_mem_cons] at hall
          obtain ⟨schema, hschema, rfl⟩ := List.mem_map.1 hall.1
          obtain ⟨visited, hvisited, h⟩ := bind_eq_ok.1 h
          refine ih (visit hlocal hschema ?_ hvisited) h
          exact ⟨hs.resources, hall.2, hs.pending⟩

/-- The first document that is fetched is the one at the address. -/
theorem run {documents : List (String × Json)} {rounds : Nat} (hs : s.IsUnfetched uri)
    (h : Survey.run documents rounds s = .ok s') :
    s'.IsUnfetched uri ∨ ∃ u schema, Site.resolve Site.rootBase uri = .ok u
      ∧ documents.lookup u.document.text = some schema := by
  induction rounds generalizing s with
  | zero =>
      cases h
      exact .inl hs
  | succ rounds ih =>
      unfold Survey.run at h
      obtain ⟨visited, hvisited, h⟩ := bind_eq_ok.1 h
      have hvisited := hs.visitAll hlocal hvisited
      -- Nothing is pending, and the survey ends as it began.
      split at h
      · cases h
        exact .inl hvisited
      · obtain ⟨fetched, hfetched, h⟩ := bind_eq_ok.1 h
        by_cases hlookup : ∃ u schema, Site.resolve Site.rootBase uri = .ok u
            ∧ documents.lookup u.document.text = some schema
        · exact .inr hlookup
        · -- All that is pending is the address, so without a document there nothing is fetched.
          refine ih (foldlM_preserves (fun u hu b c hb hc => ?_) ?_ hfetched) h
          · have hu := hvisited.pending u (List.mem_reverse.1 hu)
            unfold Survey.fetch at hc
            dsimp only at hc
            split at hc
            · cases hc
              exact hb
            · split at hc
              · next schema hschema => exact absurd ⟨u, schema, hu, hschema⟩ hlookup
              · cases hc
          · exact ⟨hvisited.resources, hvisited.waiting, fun u hu => absurd hu List.not_mem_nil⟩

end IsUnfetched

end Survey

/-- What is found at the address in a schema of lists is the document there, if it is neither one of
the schema language nor the schema itself. -/
theorem Registry.lookup_of_collect_listSchema {documents : List (String × Json)} {uri : String}
    {r : Registry} (hlocal : Fragment.isLocal uri = false)
    (h : Registry.collect MetaSchema.registry documents ⟨.draft7, Engine.listSchema uri⟩ = .ok r)
    {u : Uri} (hu : Site.resolve Site.rootBase uri = .ok u) (hfragment : u.fragment = none)
    (hroot : u.text ≠ Site.rootBase.text) (hreserved : ¬ Site.IsReserved u.text)
    (hfound : (r.resource? u.text).isSome = true) :
    ∃ schema, documents.lookup u.text = some schema := by
  unfold Registry.collect at h
  obtain ⟨base, hbase, h⟩ := bind_eq_ok.1 h
  cases hbase
  unfold Registry.addDocument at h
  obtain ⟨s, hs, h⟩ := bind_eq_ok.1 h
  cases h
  have hstart : Survey.IsUnfetched uri
      ⟨MetaSchema.registry.addResource Site.rootBase.text ⟨.draft7, Engine.listSchema uri⟩,
        [⟨Site.rootBase, ⟨.draft7, Engine.listSchema uri⟩⟩], [], []⟩ :=
    ⟨rfl, List.forall_mem_singleton.2 (.head _), nofun⟩
  rcases hstart.run hlocal hs with hunfetched | ⟨v, schema, hv, hschema⟩
  · refine absurd ?_ hreserved
    unfold Registry.resource? at hfound
    -- The registry holds the schema itself and what is reserved, and the address is neither.
    rw [hunfetched.resources, List.lookup_cons] at hfound
    rwa [beq_false_of_ne hroot] at hfound
  · cases hu.symm.trans hv
    refine ⟨schema, ?_⟩
    rw [← hschema]
    congr 2
    obtain ⟨scheme, authority, path, query, fragment⟩ := u
    cases hfragment
    rfl

/-! ## What is read -/

/-- A schema of lists is read as a condition on the type, and a reference for the items. -/
theorem Reader.schema_of_validator_listSchema {r : Reader} {uri : String} {w : Validator}
    (h : r.validator ⟨.draft7, Engine.listSchema uri⟩ = .ok w) :
    ∃ l, r.link Site.rootBase uri = .ok l ∧ w.schema = propertyReading true l := by
  obtain ⟨-, base, entered, follow, p, q, hbase, hentered, hbody⟩ := isTable_of_validator h
  cases hbase
  cases hentered
  obtain ⟨ks, hks, hschema⟩ := of_body_object rfl rfl hbody
  obtain ⟨inner, hinner, rfl⟩ := of_filterMapM_list rfl hks
  obtain ⟨l, hl, -, rfl⟩ := of_body_reference rfl rfl (of_inside_unnamed rfl rfl rfl hinner)
  exact ⟨l, hl, hschema⟩

namespace Validator

variable {w : Validator} {l : Link} (hschema : w.schema = Reader.propertyReading true l)

include hschema

/-- The items of a list are checked by following the reference. -/
theorem errors_array (xs : List Json) : w.errors (.array xs)
    = Schema.itemErrors ((w.follow (Json.array xs).levels []).errors l) 0 xs := by
  unfold errors
  dsimp only
  rw [hschema]
  show [] ++ (Schema.itemErrors
    (fun x => (w.follow (Json.array xs).levels []).errors l x ++ []) 0 xs
    ++ []) = _
  simp only [List.append_nil, List.nil_append]

/-- What is no list has an error. -/
theorem errors_ne_nil {v : Json} (hv : ∀ xs, v ≠ .array xs) : w.errors v ≠ [] := by
  intro h
  unfold errors at h
  dsimp only at h
  rw [hschema] at h
  have htype := (List.append_eq_nil_iff.1 h).1
  rw [Schema.keywordErrors, Constraint.errors_type_eq_nil_iff] at htype
  cases v with
  | array xs => exact hv xs rfl
  | _ => cases htype

end Validator

/-- The errors of a list are those that the validator of the document gives for its items. -/
theorem TwoWays.errors_array {e : Emitter} {documents : List (String × Json)} {t : String}
    {document start : Json} {r₁ r₂ : Registry} (h : TwoWays e documents t document start r₁ r₂)
    {formats : List Format} {checksFormats : Bool} {v w : Validator}
    (hv : Reader.validator ⟨r₁, formats, checksFormats⟩ ⟨.draft7, document⟩ = .ok v)
    (hw : Reader.validator ⟨r₂, formats, checksFormats⟩ ⟨.draft7, start⟩ = .ok w)
    {rank : Target → Nat} (hrank : w.EndsBy rank)
    {l : Link} (hschema : w.schema = Reader.propertyReading true l) (hkind : l.kind = .fixed)
    (htarget : l.target = .within (e.uri t) "") (xs : List Json) :
    w.errors (.array xs) = Schema.itemErrors v.errors 0 xs := by
  have hmem : l.target ∈ w.definitions.map Prod.fst := by
    have hclosed := Reader.isClosed_of_validator h.addresses h.table h.tame h.collected₂ hw
    exact (Schema.of_mem_links w.schema hclosed.schema l (by rw [hschema]; exact .head _)).2
  rw [w.errors_array hschema]
  refine Schema.itemErrors_congr (fun x hx => ?_) 0
  -- An item is a part of the list, so its check starts with nothing being followed.
  have hlevels := Json.levels_lt_of_mem_items hx
  obtain ⟨levels, hsucc⟩ := Nat.exists_eq_succ_of_ne_zero (Nat.ne_zero_of_lt hlevels)
  rw [hsucc] at hlevels ⊢
  rw [Validator.follow]
  exact h.errors_followHere hv hw hrank hkind htarget hmem
    (Nat.lt_succ_of_le (w.unopened_le_length _)) List.not_mem_nil
    (fun o ho => absurd ho List.not_mem_nil) [] (Nat.le_of_lt_succ hlevels)

/-! ## Validators of a table -/

/-- The whole of a document is a place whose place no other takes. -/
theorem Registry.isDynamic_of_find_whole {r : Registry} {address : String} {found : Site × Bool}
    (h : r.find (.within address "") = .ok found) : found.2 = false := by
  unfold find at h
  split at h
  · cases h
  · cases h
  · rw [if_pos (by rfl)] at h
    cases h
    rfl

section

variable {domain : String} {documents : List (String × Json)} {t : String} {document : Json}

/-- Where a validator of lists can be built, addresses have a scheme, and the one of the type is
written in normal form: else its document would not be found. -/
theorem Engine.reference_of_listSchema (hsign : '#' ∉ domain.toList)
    (htable : (Emitter.ofDomain domain).IsNamedTable documents) (ht : Name.IsTypeName t)
    (hown : (Emitter.ofDomain domain).IsOwn t) {registry : Registry} {formats : List Format}
    {checksFormats : Bool} {w : Validator}
    (hr : Registry.collect MetaSchema.registry documents
      ⟨.draft7, listSchema ((Emitter.ofDomain domain).uri t)⟩ = .ok registry)
    (hw : Reader.validator ⟨registry, formats, checksFormats⟩
      ⟨.draft7, listSchema ((Emitter.ofDomain domain).uri t)⟩ = .ok w) :
    IsAbsoluteDomain domain
      ∧ (∃ u, Site.resolve Site.rootBase ((Emitter.ofDomain domain).uri t) = .ok u
        ∧ u.text = (Emitter.ofDomain domain).uri t)
      ∧ ∃ l, w.schema = Reader.propertyReading true l ∧ l.kind = .fixed
        ∧ l.target = .within ((Emitter.ofDomain domain).uri t) "" := by
  obtain ⟨l, hl, hschema⟩ := Reader.schema_of_validator_listSchema hw
  obtain ⟨found, htarget, hfound, -, hkind⟩ := Reader.link_eq_ok hl
  rw [(Registry.target_of_noSign (Emitter.number_sign_notMem_uri hsign ht) _).1] at htarget
  obtain ⟨u, hu, hlink⟩ := map_eq_ok.1 htarget
  rw [← hlink] at hfound
  obtain ⟨haddress, hfragment⟩ := Emitter.isAddressOf_of_resolve_rootBase hsign ht hu
  have hreserved := (hown _ (Emitter.text_mem_forms_of_resolve hu)).1
  obtain ⟨resource, hresource⟩ := Registry.resource?_of_find hfound
  obtain ⟨schema, hschema'⟩ := Registry.lookup_of_collect_listSchema
    (Emitter.isLocal_uri_ofDomain hsign ht) hr hu hfragment
    (fun heq => not_isAddressOf_rootBase ht (heq ▸ haddress)) hreserved
    (Option.isSome_iff_exists.2 ⟨resource, hresource⟩)
  obtain ⟨t', ht', huri⟩ := htable _ _ hschema'
  have hdomain := IsAbsoluteDomain.of_resolve_rootBase hsign ht hu huri
  obtain rfl := (huri ▸ Emitter.isAddressOf_uri _ t' : IsAddressOf u.text t').unique ht' ht haddress
  refine ⟨hdomain, ⟨u, hu, huri⟩, l, hschema, ?_, ?_⟩
  · rw [hkind, Registry.isDynamic_of_find_whole hfound]
    rfl
  · rw [← hlink, huri]

end

section

variable {domain : String} {documents : List (String × Json)} (hsign : '#' ∉ domain.toList)
  (htable : (Emitter.ofDomain domain).IsPlainTable documents) {t : String}
  (ht : Name.IsTypeName t) {document : Json}
  (hlookup : documents.lookup ((Emitter.ofDomain domain).uri t) = some document)
  {formats : List Format} {checksFormats : Bool} {v w list : Validator}
  (hlist : Validator.build documents formats checksFormats
    (Engine.listSchema ((Emitter.ofDomain domain).uri t)) = .ok list)

include hsign htable ht hlookup hlist

/-- Where there is a validator of lists, all forms of addresses are addresses of their types. -/
theorem Engine.hasAddresses_of_build_listSchema : (Emitter.ofDomain domain).HasAddresses := by
  obtain ⟨r, hr, hread⟩ := bind_eq_ok.1 hlist
  obtain ⟨-, -, hread⟩ := bind_eq_ok.1 hread
  exact (Engine.reference_of_listSchema hsign htable.isNamedTable ht
    ((Emitter.Holds.of_lookup ht hlookup).isOwn htable) hr hread).1.hasAddresses

variable (hv : Validator.build documents formats checksFormats document = .ok v)

include hv

/-- Where there are validators of a type and of its lists, the document of the type is reached from
every schema without a name. -/
theorem TwoWays.of_build {start : Json} (htame : Survey.IsTame (.ofDomain domain) documents start)
    (hunnamed : Draft.draft7.ownAddress? start = none)
    (hw : Validator.build documents formats checksFormats start = .ok w) :
    ∃ r₁ r₂, TwoWays (.ofDomain domain) documents t document start r₁ r₂
      ∧ Reader.validator ⟨r₁, formats, checksFormats⟩ ⟨.draft7, document⟩ = .ok v
      ∧ Reader.validator ⟨r₂, formats, checksFormats⟩ ⟨.draft7, start⟩ = .ok w := by
  obtain ⟨r₁, hr₁, hv⟩ := bind_eq_ok.1 hv
  obtain ⟨-, -, hv⟩ := bind_eq_ok.1 hv
  obtain ⟨r₂, hr₂, hw⟩ := bind_eq_ok.1 hw
  obtain ⟨-, -, hw⟩ := bind_eq_ok.1 hw
  obtain ⟨r, hr, hlist⟩ := bind_eq_ok.1 hlist
  obtain ⟨-, -, hlist⟩ := bind_eq_ok.1 hlist
  have hholds := Emitter.Holds.of_lookup ht hlookup
  obtain ⟨hdomain, hnormal, -⟩ :=
    Engine.reference_of_listSchema hsign htable.isNamedTable ht (hholds.isOwn htable) hr hlist
  have haddresses := hdomain.hasAddresses
  have hdocument : Survey.IsTame (.ofDomain domain) documents document :=
    .of_lookup haddresses ht hlookup (hholds.isPlainDocument htable)
  exact ⟨r₁, r₂, ⟨haddresses, htable, ht, hlookup, hnormal, htame, hunnamed,
    Registry.isCollected_collect haddresses htable hdocument hr₁,
    Registry.isCollected_collect haddresses htable htame hr₂⟩, hv, hw⟩

/-- Over a table of plain documents, a validator of lists gives a list the errors that the validator
of the type gives for its items, and what is no list has an error. -/
theorem Validator.errors_of_build_listSchema (hends : list.Ends) :
    (∀ xs, list.errors (.array xs) = Schema.itemErrors v.errors 0 xs)
      ∧ ∀ x, (∀ xs, x ≠ .array xs) → list.errors x ≠ [] := by
  obtain ⟨rank, hrank⟩ := hends
  have hholds := Emitter.Holds.of_lookup ht hlookup
  obtain ⟨r₁, r₂, hways, hv', hlist'⟩ := TwoWays.of_build hsign htable ht hlookup hlist hv
    (Engine.isTame_listSchema ht (hholds.isOwn htable)) rfl hlist
  obtain ⟨r, hr, hread⟩ := bind_eq_ok.1 hlist
  obtain ⟨-, -, hread⟩ := bind_eq_ok.1 hread
  obtain ⟨-, -, l, hschema, hkind, htarget⟩ :=
    Engine.reference_of_listSchema hsign htable.isNamedTable ht (hholds.isOwn htable) hr hread
  exact ⟨hways.errors_array hv' hlist' hrank hschema hkind htarget,
    fun x => list.errors_ne_nil hschema⟩

end

end TypeCatalog
