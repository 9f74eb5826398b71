import TypeCatalog.Proofs.Validation.Closed
import TypeCatalog.Proofs.Validation.Simulation
import TypeCatalog.Proofs.Validation.Tables

/-!
# Documents that are reached

A validator may be built of the document of a type, and of a schema that refers to the type. In the
second one the document stands at the address of the type, wherever it stands in the first one: by
itself it stands at the address that it gives itself, and where a reference hides this, at no
address at all. `relocate` takes the targets of the first validator to those of the second one.

Both have read the same schemas there, but for references, and these lead to relocated targets
again. So a reference to the type gives the errors that the validator of the document gives
(`TwoWays.errors_followHere`).

The two validators come from `Validator.build` with the document itself and with a schema that
refers to it, such as `Engine.listSchema`. `TwoWays` holds what both registries collected, and
`simulation` is the `Simulation` between the two tables; the ranks of targets come from the type
graph without cycles.
-/

set_option autoImplicit false

namespace TypeCatalog

open Result

/-- The document of a type with what was collected from it, and a schema without an address with
what was collected from that. -/
structure TwoWays (e : Emitter) (documents : List (String × Json)) (t : String)
    (document start : Json) (r₁ r₂ : Registry) : Prop where
  addresses : e.HasAddresses
  table : e.IsPlainTable documents
  name : Name.IsTypeName t
  lookup : documents.lookup (e.uri t) = some document
  normal : ∃ u, Site.resolve Site.rootBase (e.uri t) = .ok u ∧ u.text = e.uri t
  tame : Survey.IsTame e documents start
  unnamed : Draft.draft7.ownAddress? start = none
  collected₁ : r₁.IsCollected e documents document
  collected₂ : r₂.IsCollected e documents start

/-- Whether the document of a type stands at an address when it is collected from. -/
def IsHome (t address : String) : Prop := address = Site.rootBase.text ∨ IsAddressOf address t

open Classical in
/-- Where the document at an address stands when it is reached. -/
noncomputable def relocateAddress (e : Emitter) (t address : String) : String :=
  if IsHome t address then e.uri t else address

/-- The target that takes the place of a target of the document's validator. -/
noncomputable def relocate (e : Emitter) (t : String) (o : Target) : Target :=
  .within (relocateAddress e t o.address) o.fragment

/-- Whether two bases are those of one document, where it was collected from and where it is
reached. -/
def IsBasePair (t : String) (base₁ base₂ : Uri) : Prop :=
  IsHome t base₁.text ∧ IsAddressOf base₂.text t
    ∨ ¬ IsHome t base₁.text ∧ base₁.text = base₂.text

/-- Whether a reference finds its target by itself, inside a document that is not reserved. -/
structure Link.IsPlain (l : Link) : Prop where
  kind : l.kind = .fixed
  target : ∃ address fragment, l.target = .within address fragment ∧ ¬ Site.IsReserved address

/-- Whether the schema at a target is known to both validators. -/
def IsKnown (e : Emitter) (t : String) (v w : Validator) (o : Target) : Prop :=
  (∃ address fragment, o = .within address fragment ∧ ¬ Site.IsReserved address)
    ∧ o ∈ v.definitions.map Prod.fst ∧ relocate e t o ∈ w.definitions.map Prod.fst

/-- The reference that stands in the place of a reference where the document is reached. -/
noncomputable def relocateLink (e : Emitter) (t base : String) (l : Link) : Link :=
  ⟨base, relocate e t l.target, l.kind⟩

namespace TwoWays

variable {e : Emitter} {documents : List (String × Json)} {t : String} {document start : Json}
  {r₁ r₂ : Registry} (h : TwoWays e documents t document start r₁ r₂)

include h

/-- No address is relocated to the root. -/
theorem relocateAddress_ne_rootBase (address : String) :
    relocateAddress e t address ≠ Site.rootBase.text := by
  unfold relocateAddress
  split
  · exact fun heq => not_isAddressOf_rootBase h.name (heq ▸ e.isAddressOf_uri t)
  · next hnot => exact fun heq => hnot (.inl heq)

/-- The document stands at the address of its type. -/
theorem holds : e.Holds documents t (e.uri t) ⟨.draft7, document⟩ :=
  .of_lookup h.name h.lookup

/-- The document is a plain one. -/
theorem isPlainDocument : e.IsPlainDocument t document :=
  h.holds.isPlainDocument h.table

/-- And the type is its own. -/
theorem isOwn : e.IsOwn t :=
  h.holds.isOwn h.table

/-- So the document is tame. -/
theorem tame₁ : Survey.IsTame e documents document :=
  .of_lookup h.addresses h.name h.lookup h.isPlainDocument

/-- The document that is reached stands at the address of the type alone. -/
theorem eq_uri {address : String} {found : Json}
    (hfrom : Registry.IsFrom e documents start address found) (haddress : IsAddressOf address t) :
    address = e.uri t := by
  rcases hfrom with ⟨rfl, -⟩ | ⟨t', hholds, hat⟩
  · exact absurd haddress (not_isAddressOf_rootBase h.name)
  · obtain rfl := (h.addresses.isAddressOf hholds.name hholds.address).unique hholds.name h.name
      haddress
    rcases hat with hnamed | heq | ⟨u, hu, rfl⟩
    · rw [h.unnamed] at hnamed
      cases hnamed
    · exact heq
    · obtain ⟨u', hu', htext⟩ := h.normal
      cases hu'.symm.trans hu
      exact htext

/-- The address of the type is not reserved. -/
theorem not_isReserved_uri : ¬ Site.IsReserved (e.uri t) :=
  (h.isOwn _ Emitter.uri_mem_forms).1

/-- Nor is any other address that is relocated from one that is not. -/
theorem not_isReserved_relocateAddress {address : String} (hreserved : ¬ Site.IsReserved address) :
    ¬ Site.IsReserved (relocateAddress e t address) := by
  unfold relocateAddress
  split
  · exact h.not_isReserved_uri
  · exact hreserved

/-- One document stands at an address and at the relocated one. -/
theorem eq_of_isFrom {address : String} {found₁ found₂ : Json}
    (h₁ : Registry.IsFrom e documents document address found₁)
    (h₂ : Registry.IsFrom e documents start (relocateAddress e t address) found₂) :
    found₁ = found₂ := by
  rcases h₂ with ⟨hroot, -⟩ | ⟨t₂, hholds₂, -⟩
  · exact absurd hroot (h.relocateAddress_ne_rootBase address)
  · have hat : IsAddressOf (relocateAddress e t address) t₂ :=
      h.addresses.isAddressOf hholds₂.name hholds₂.address
    unfold relocateAddress at hat
    split at hat
    · next hhome =>
        -- Both are the document itself.
        have hfound₂ := (h.holds.unique h.addresses hholds₂ hat).2
        rcases h₁ with ⟨-, rfl⟩ | ⟨t₁, hholds₁, -⟩
        · cases hfound₂
          rfl
        · have haddress₁ := h.addresses.isAddressOf hholds₁.name hholds₁.address
          rcases hhome with rfl | haddress
          · exact absurd haddress₁ (not_isAddressOf_rootBase hholds₁.name)
          · have hfound₁ := (hholds₁.unique h.addresses h.holds haddress).2
            cases hfound₁.trans hfound₂
            rfl
    · next hhome =>
        rcases h₁ with ⟨rfl, -⟩ | ⟨t₁, hholds₁, -⟩
        · exact absurd (.inl rfl) hhome
        · cases (hholds₁.unique h.addresses hholds₂ hat).2
          rfl

/-- At the address of the type the document is reached. -/
theorem eq_document {found : Json} (hfrom : Registry.IsFrom e documents start (e.uri t) found) :
    document = found := by
  have hhome : relocateAddress e t (e.uri t) = e.uri t := if_pos (.inr (e.isAddressOf_uri t))
  have hself : Registry.IsFrom e documents document (e.uri t) document :=
    .inr ⟨t, h.holds, .inr (.inl rfl)⟩
  exact h.eq_of_isFrom hself (hhome.symm ▸ hfrom)

/-! ## Bases -/

/-- The bases of a document and of where it is relocated to belong together. -/
theorem isBasePair_of_parse {address : String} {found : Json}
    (hfrom : Registry.IsFrom e documents document address found) {base₁ base₂ : Uri}
    (hparse₁ : Uri.parse address = .ok base₁)
    (hparse₂ : Uri.parse (relocateAddress e t address) = .ok base₂) :
    IsBasePair t base₁ base₂ := by
  unfold relocateAddress at hparse₂
  split at hparse₂
  · next hhome =>
      refine .inl ⟨?_, (e.isAddressOf_uri t).of_parse h.name hparse₂⟩
      rcases hhome with rfl | haddress
      · cases Site.parse_rootBase.symm.trans hparse₁
        exact .inl rfl
      · exact .inr (haddress.of_parse h.name hparse₁)
  · next hhome =>
      cases hparse₁.symm.trans hparse₂
      refine .inr ⟨?_, rfl⟩
      rcases hfrom with ⟨rfl, -⟩ | ⟨t₁, hholds₁, -⟩
      · exact absurd (.inl rfl) hhome
      · have haddress := h.addresses.isAddressOf hholds₁.name hholds₁.address
        have hbase := haddress.of_parse hholds₁.name hparse₁
        rintro (hroot | hbase')
        · exact not_isAddressOf_rootBase hholds₁.name (hroot ▸ hbase)
        · exact hhome (.inr (hbase.unique hholds₁.name h.name hbase' ▸ haddress))

/-- The base of the document itself. -/
theorem isHome_of_enter {base entered : Uri}
    (hbase : Site.address ⟨.draft7, document⟩ = .ok base)
    (hentered : Site.enter base ⟨.draft7, document⟩ = .ok entered) :
    IsHome t base.text ∧ IsHome t entered.text ∧ ¬ Site.IsReserved entered.text := by
  unfold Site.address at hbase
  unfold Site.enter at hentered
  dsimp only at hbase hentered
  rw [h.isPlainDocument.ownAddress? h.addresses h.name] at hbase hentered
  cases hhides : (document.member? "$ref").isSome with
  | true =>
      rw [hhides, if_pos rfl] at hbase hentered
      cases hbase
      cases hentered
      exact ⟨.inl rfl, .inl rfl, Site.not_isReserved_rootBase⟩
  | false =>
      rw [hhides, if_neg Bool.false_ne_true] at hbase hentered
      obtain ⟨haddress, -, hroot⟩ := h.addresses.resolve t base entered h.name hentered
      exact ⟨.inr (h.addresses.ofText t base h.name hbase), .inr haddress,
        (h.isOwn _ (Emitter.text_mem_forms_of_resolve hroot)).1⟩

/-! ## References -/

section

variable {formats : List Format} {checksFormats : Bool} {base₁ base₂ : Uri}
  (hpair : IsBasePair t base₁ base₂) (hbase₁ : ¬ Site.IsReserved base₁.text)
  (hbase₂ : ¬ Site.IsReserved base₂.text)

include hpair hbase₁ hbase₂

/-- A reference leads to the relocated target where the document is reached. -/
theorem eq_of_link {s : String} (hs : e.IsReference s) {l₁ l₂ : Link}
    (h₁ : Reader.link ⟨r₁, formats, checksFormats⟩ base₁ s = .ok l₁)
    (h₂ : Reader.link ⟨r₂, formats, checksFormats⟩ base₂ s = .ok l₂) :
    l₂ = relocateLink e t base₂.text l₁ ∧ l₁.IsPlain := by
  obtain ⟨address₁, found₁, rfl, hreserved₁, -, -, htarget₁, -⟩ :=
    Reader.stands_of_link h.addresses h.table h.tame₁ h.collected₁ hbase₁ hs h₁
  obtain ⟨address₂, found₂, rfl, -, -, hfrom₂, htarget₂, -⟩ :=
    Reader.stands_of_link h.addresses h.table h.tame h.collected₂ hbase₂ hs h₂
  refine ⟨?_, rfl, address₁, _, rfl, hreserved₁⟩
  suffices heq : address₂ = relocateAddress e t address₁ by
    rw [heq]
    rfl
  rcases hs with hlocal | ⟨t', ht', hown, hpoints⟩
  · -- A local reference stays in the document.
    rw [Registry.target_of_isLocal hlocal] at htarget₁ htarget₂
    obtain rfl : base₁.text = address₁ := congrArg Target.address (Except.ok.inj htarget₁)
    obtain rfl : base₂.text = address₂ := congrArg Target.address (Except.ok.inj htarget₂)
    -- Where the document stands at its own place, the local reference stays in it and is relocated
    -- with it.
    unfold relocateAddress
    rcases hpair with ⟨hhome, haddress⟩ | ⟨hnot, heq⟩
    · rw [if_pos hhome]
      exact h.eq_uri hfrom₂ haddress
    · rw [if_neg hnot]
      exact heq.symm
  · -- A reference to a type leads to one address from everywhere.
    rw [h.addresses.target ht' hpoints] at htarget₁ htarget₂
    obtain ⟨u₁, hu₁, htarget₁⟩ := map_eq_ok.1 htarget₁
    obtain ⟨u₂, hu₂, htarget₂⟩ := map_eq_ok.1 htarget₂
    obtain ⟨haddress, -, hroot₁⟩ := h.addresses.resolve t' base₁ u₁ ht' hu₁
    obtain ⟨-, -, hroot₂⟩ := h.addresses.resolve t' base₂ u₂ ht' hu₂
    cases hroot₁.symm.trans hroot₂
    obtain rfl : u₁.text = address₁ := congrArg Target.address htarget₁
    obtain rfl : u₁.text = address₂ := congrArg Target.address htarget₂
    unfold relocateAddress
    split
    · next hhome =>
        rcases hhome with hroot | hhome
        · exact absurd (hroot ▸ haddress) (not_isAddressOf_rootBase ht')
        · exact h.eq_uri hfrom₂ hhome
    · rfl

/-- A part of a document is read as the same in both places, but for references. -/
theorem eq_of_body {follow₁ follow₂ : Target → Reader.ReadM Unit} {vocabularies : List Vocabulary}
    {v : Json} (hv : v.HasPlainParts e.IsReference) {p₁ q₁ p₂ q₂ : Reader.Progress}
    {s₁ s₂ : Schema}
    (h₁ : Reader.body ⟨r₁, formats, checksFormats⟩ follow₁ ⟨base₁, .draft7, vocabularies⟩ v p₁
      = .ok (s₁, q₁))
    (h₂ : Reader.body ⟨r₂, formats, checksFormats⟩ follow₂ ⟨base₂, .draft7, vocabularies⟩ v p₂
      = .ok (s₂, q₂)) :
    s₂ = s₁.mapLinks (relocateLink e t base₂.text) ∧ s₁.Uses Link.IsPlain Link.IsPlain := by
  obtain ⟨heq, ls, -, hall, huses⟩ := Reader.agree_body
    (fun s hs l l' hl hl' => h.eq_of_link hpair hbase₁ hbase₂ hs hl hl') v hv h₁ h₂
  exact ⟨heq, huses hall⟩

end

/-! ## Validators -/

section

variable {formats : List Format} {checksFormats : Bool} {v w : Validator}

omit h in
/-- The references of what is read in both places match, if they stay in the tables. -/
theorem uses_matches {s : Schema} {base : String} {inside₁ inside₂ : Link → Prop}
    (hplain : s.Uses Link.IsPlain Link.IsPlain)
    (hclosed₁ : s.Uses (fun l => inside₁ l ∧ l.target ∈ v.definitions.map Prod.fst)
      fun l => inside₁ l ∧ l.target ∈ v.definitions.map Prod.fst)
    (hclosed₂ : (s.mapLinks (relocateLink e t base)).Uses
      (fun l => inside₂ l ∧ l.target ∈ w.definitions.map Prod.fst)
      fun l => inside₂ l ∧ l.target ∈ w.definitions.map Prod.fst)
    {rank : Target → Nat} {n : Nat}
    (hrank : (s.mapLinks (relocateLink e t base)).Uses (fun l => rank l.target < n)
      fun _ => True) :
    s.Uses
      (fun l => l.Matches (relocate e t) (IsKnown e t v w) (relocateLink e t base l)
        ∧ rank (relocate e t l.target) < n)
      fun l => l.Matches (relocate e t) (IsKnown e t v w) (relocateLink e t base l) := by
  rw [Schema.uses_mapLinks] at hclosed₂ hrank
  have hown : s.Uses (fun l => l.IsPlain ∧ l.target ∈ v.definitions.map Prod.fst)
      fun l => l.IsPlain ∧ l.target ∈ v.definitions.map Prod.fst :=
    Schema.uses_give s (fun l hl hl' => ⟨hl, hl'.2⟩) (fun l hl hl' => ⟨hl, hl'.2⟩) hplain hclosed₁
  have hmatches : Schema.Give (fun l => l.IsPlain ∧ l.target ∈ v.definitions.map Prod.fst)
      (fun l => inside₂ (relocateLink e t base l)
        ∧ (relocateLink e t base l).target ∈ w.definitions.map Prod.fst)
      fun l => l.Matches (relocate e t) (IsKnown e t v w) (relocateLink e t base l) :=
    fun l hl hl' => ⟨hl.1.kind, hl.1.kind, ⟨hl.1.target, hl.2, hl'.2⟩, rfl⟩
  exact Schema.uses_give s (fun l hl hl' => ⟨hl, hl'⟩) (fun l hl _ => hl)
    (Schema.uses_give s hmatches hmatches hown hclosed₂) hrank

variable (hv : Reader.validator ⟨r₁, formats, checksFormats⟩ ⟨.draft7, document⟩ = .ok v)
  (hw : Reader.validator ⟨r₂, formats, checksFormats⟩ ⟨.draft7, start⟩ = .ok w)
  {rank : Target → Nat} (hrank : w.EndsBy rank)

include hv hw hrank

/-- `relocate` is a simulation of the validator of the type's own document by the validator that
starts elsewhere: at targets that correspond the same document stands, and what is used there
corresponds again (`uses_matches`). -/
theorem simulation : Simulation (relocate e t) (IsKnown e t v w) rank v w where
  entry := by
    rintro o ⟨⟨address, fragment, rfl, hreserved⟩, hmem₁, hmem₂⟩
    obtain ⟨s₁, hs₁⟩ := Table.exists_lookup_of_mem hmem₁
    obtain ⟨s₂, hs₂⟩ := Table.exists_lookup_of_mem hmem₂
    obtain ⟨follow₁, site₁, p₁, q₁, hsite₁, hbody₁⟩ :=
      (Reader.isTable_of_validator hv).1 _ (Table.mem_of_lookup hs₁)
    obtain ⟨follow₂, site₂, p₂, q₂, hsite₂, hbody₂⟩ :=
      (Reader.isTable_of_validator hw).1 _ (Table.mem_of_lookup hs₂)
    obtain ⟨found₁, hfound₁, rfl⟩ := map_eq_ok.1 hsite₁
    obtain ⟨found₂, hfound₂, rfl⟩ := map_eq_ok.1 hsite₂
    obtain ⟨document₁, hstands₁, hfrom₁⟩ :=
      h.collected₁.stands_of_find h.addresses h.table h.tame₁ hfound₁ hreserved
    obtain ⟨document₂, hstands₂, hfrom₂⟩ :=
      h.collected₂.stands_of_find h.addresses h.table h.tame hfound₂
        (h.not_isReserved_relocateAddress hreserved)
    obtain rfl := h.eq_of_isFrom hfrom₁ hfrom₂
    obtain ⟨base₁, part, hparse₁, rfl, hpart, -, -, hall⟩ := hstands₁.find hfound₁
    obtain ⟨base₂, hparse₂, rfl⟩ := hall r₂ _ _ hstands₂ hfound₂
    -- The same document stands at both targets, and is read with relocated links.
    obtain ⟨rfl, hplain⟩ := h.eq_of_body (h.isBasePair_of_parse hfrom₁ hparse₁ hparse₂)
      (hfrom₁.not_isReserved_of_parse h.table hparse₁)
      (hfrom₂.not_isReserved_of_parse h.table hparse₂) hpart hbody₁ hbody₂
    have hclosed₁ := Reader.isClosed_of_validator h.addresses h.table h.tame₁ h.collected₁ hv
    have hclosed₂ := Reader.isClosed_of_validator h.addresses h.table h.tame h.collected₂ hw
    exact ⟨s₁, _, hs₁, hs₂, uses_matches hplain
      (hclosed₁.definitions _ (Table.mem_of_lookup hs₁))
      (hclosed₂.definitions _ (Table.mem_of_lookup hs₂)) (hrank _ (Table.mem_of_lookup hs₂))⟩

/-- Following a reference to a type gives the errors that the validator of its document gives. -/
theorem errors_followHere {l : Link} (hkind : l.kind = .fixed)
    (htarget : l.target = .within (e.uri t) "") (hmem : l.target ∈ w.definitions.map Prod.fst)
    {levels steps : Nat} {opened : List Target} (hsteps : w.unopened opened < steps)
    (hnew : l.target ∉ opened)
    (hopened : ∀ o ∈ opened, o.address ≠ Site.rootBase.text → rank l.target < rank o)
    (σ : Scope) {x : Json} (hx : x.levels ≤ levels) :
    (w.followHere (w.follow levels) steps opened σ).errors l x = v.errors x := by
  obtain ⟨s₂, hs₂⟩ := Table.exists_lookup_of_mem hmem
  obtain ⟨-, base, entered, follow₁, p₁, q₁, hbase, hentered, hbody₁⟩ :=
    Reader.isTable_of_validator hv
  obtain ⟨follow₂, site₂, p₂, q₂, hsite₂, hbody₂⟩ :=
    (Reader.isTable_of_validator hw).1 _ (Table.mem_of_lookup hs₂)
  obtain ⟨hhome, hhome', hreserved⟩ := h.isHome_of_enter hbase hentered
  -- The document stands at the address of the type.
  obtain ⟨base₂, hparse₂, hfrom₂, rfl⟩ : ∃ base₂, Uri.parse (e.uri t) = .ok base₂
      ∧ Registry.IsFrom e documents start (e.uri t) document
      ∧ site₂ = ⟨base₂, ⟨.draft7, document⟩⟩ := by
    rw [htarget] at hsite₂
    obtain ⟨found₂, hfound₂, rfl⟩ := map_eq_ok.1 hsite₂
    obtain ⟨document₂, hstands₂, hfrom₂⟩ :=
      h.collected₂.stands_of_find h.addresses h.table h.tame hfound₂ h.not_isReserved_uri
    obtain rfl := h.eq_document hfrom₂
    obtain ⟨base₂, part, hparse₂, rfl, -, -, hwhole, -⟩ := hstands₂.find hfound₂
    rw [hwhole rfl]
    exact ⟨base₂, hparse₂, hfrom₂, rfl⟩
  obtain ⟨rfl, hplain⟩ := h.eq_of_body
    (.inl ⟨hhome', (e.isAddressOf_uri t).of_parse h.name hparse₂⟩) hreserved
    (hfrom₂.not_isReserved_of_parse h.table hparse₂) h.isPlainDocument.parts hbody₁ hbody₂
  -- All that the two schemas refer to is in their tables.
  have hclosed₁ := Reader.isClosed_of_validator h.addresses h.table h.tame₁ h.collected₁ hv
  have hclosed₂ := Reader.isClosed_of_validator h.addresses h.table h.tame h.collected₂ hw
  refine (h.simulation hv hw hrank).errors_followHere hkind hs₂
    (uses_matches hplain hclosed₁.schema (hclosed₂.definitions _ (Table.mem_of_lookup hs₂))
      (hrank _ (Table.mem_of_lookup hs₂))) (fun _ => ?_) hsteps hnew (fun o ho hgiven => ?_) σ hx
  · rw [Reader.self_of_validator hv hbase, htarget]
    show Target.within (relocateAddress e t base.text) "" = _
    rw [relocateAddress, if_pos hhome]
  · obtain ⟨u, -, rfl⟩ := hgiven
    exact hopened _ ho (h.relocateAddress_ne_rootBase u.address)

end

end TwoWays

end TypeCatalog
