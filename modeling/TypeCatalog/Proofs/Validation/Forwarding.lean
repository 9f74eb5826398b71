import Mathlib.Logic.Relation
import TypeCatalog.Proofs.Validation.ListSchema

/-!
# Documents that forward

A document that refers to another one hides all that stands beside the reference, and so it says of
a value what the other one says. The chain from one document to another may have any length: by
induction along it, following a reference into the chain gives the errors that the validator of the
last document gives (`TwoWays.errors_followHere_of_forwards`).

In the library a `$ref` hides its siblings, so a document with one is read as `.keywords [.reference
l]`. `TwoWays` holds two validators, one built from the head of the chain and one from its end, with
the ranks of the targets that `Catalog.Acyclic` gives. The ranks say that a target on the way was
not opened before, so that a reference to it is followed and not taken as done.
-/

set_option autoImplicit false

namespace TypeCatalog

open Result

/-! ## References to types -/

namespace Emitter

/-- Whether a schema refers to a type. What stands beside the reference is of no account. -/
def RefersTo (e : Emitter) (b : String) (schema : Json) : Prop :=
  ∃ ms, schema = .object ms ∧ ms.find? (·.1 = "$ref") = some ("$ref", .string (e.uri b))

/-- A document that refers has a member `$ref`. -/
theorem RefersTo.isSome_member?_ref {e : Emitter} {b : String} {schema : Json}
    (h : e.RefersTo b schema) : (schema.member? "$ref").isSome = true := by
  obtain ⟨ms, rfl, hms⟩ := h
  show (ms.lookup "$ref").isSome = true
  rw [Table.lookup_eq_map_find?, hms]
  rfl

/-- Whether the document of a type refers to another type. -/
structure Forwards (e : Emitter) (documents : List (String × Json)) (a b : String) : Prop where
  name : Name.IsTypeName a
  target : Name.IsTypeName b
  document : ∃ schema, documents.lookup (e.uri a) = some schema ∧ e.RefersTo b schema

/-- Whether a reference leads by itself to what the address of a type means. -/
structure Reaches (e : Emitter) (b : String) (l : Link) : Prop where
  name : Name.IsTypeName b
  kind : l.kind = .fixed
  target : ∃ u, Site.resolve Site.rootBase (e.uri b) = .ok u ∧ l.target = .within u.text ""

/-- What is reached by the address of a type is not the root. -/
theorem Reaches.address_ne_rootBase {e : Emitter} (haddresses : e.HasAddresses) {b : String}
    {l : Link} (h : e.Reaches b l) : l.target.address ≠ Site.rootBase.text := by
  obtain ⟨u, hu, htarget⟩ := h.target
  rw [htarget]
  exact fun heq => not_isAddressOf_rootBase h.name (heq ▸ (haddresses.resolve b _ u h.name hu).1)

end Emitter

/-! ## What is read -/

namespace Reader

variable {e : Emitter} {documents : List (String × Json)} {start : Json} {registry : Registry}
  {formats : List Format} {checksFormats : Bool} {b c : String} {l : Link} {w : Validator}
  (haddresses : e.HasAddresses) (htable : e.IsPlainTable documents)
  (hstart : Survey.IsTame e documents start) (hr : registry.IsCollected e documents start)

include haddresses htable hstart hr

/-- A schema that refers to a type is read as a reference that leads there. -/
theorem of_body_refersTo {follow : Target → ReadM Unit} {base : Uri}
    (hbase : ¬ Site.IsReserved base.text) {vocabularies : List Vocabulary} {schema : Json}
    (hb : Name.IsTypeName b) (hschema : e.RefersTo b schema)
    (hparts : schema.HasPlainParts e.IsReference) {p q : Progress} {s : Schema}
    (h : body ⟨registry, formats, checksFormats⟩ follow ⟨base, .draft7, vocabularies⟩ schema p
      = .ok (s, q)) : ∃ l, e.Reaches b l ∧ s = .keywords [.reference l] := by
  obtain ⟨ms, rfl, hms⟩ := hschema
  obtain ⟨l, hl, -, rfl⟩ := of_body_reference rfl hms h
  have hreference : e.IsReference (e.uri b) := by
    refine hparts.reference ms rfl _ ?_
    unfold Json.text?
    rw [Table.lookup_eq_map_find?, hms]
    rfl
  obtain ⟨address, -, rfl, -, -, -, htarget, -⟩ :=
    stands_of_link haddresses htable hstart hr hbase hreference hl
  obtain ⟨htargetOf, hfragment⟩ := Registry.target_of_noSign (haddresses.noSign b hb) base
  rw [htargetOf, hfragment] at htarget
  obtain ⟨u, hu, hwithin⟩ := map_eq_ok.1 htarget
  refine ⟨_, ⟨hb, rfl, u, (haddresses.resolve b base u hb hu).2.2, ?_⟩, rfl⟩
  rw [hwithin, hfragment]

variable (hw : validator ⟨registry, formats, checksFormats⟩ ⟨.draft7, start⟩ = .ok w)

include hw

/-- In the table of a validator there is a reference to the next type where a document forwards. -/
theorem lookup_of_forwards (hforwards : e.Forwards documents b c) (hl : e.Reaches b l)
    (hmem : l.target ∈ w.definitions.map Prod.fst) :
    ∃ l', e.Reaches c l' ∧ w.definitions.lookup l.target = some (.keywords [.reference l'])
      ∧ l'.target ∈ w.definitions.map Prod.fst := by
  obtain ⟨schema, hlookup, hrefers⟩ := hforwards.document
  have hholds := Emitter.Holds.of_lookup hforwards.name hlookup
  obtain ⟨u, hu, htarget⟩ := hl.target
  obtain ⟨s, hs⟩ := Table.exists_lookup_of_mem hmem
  obtain ⟨follow, site, p, q, hsite, hbody⟩ :=
    (isTable_of_validator hw).1 _ (Table.mem_of_lookup hs)
  -- The document of the type stands at the target.
  obtain ⟨base, hbase, rfl⟩ : ∃ base, ¬ Site.IsReserved base.text
      ∧ site = ⟨base, ⟨.draft7, schema⟩⟩ := by
    obtain ⟨found, hfound, rfl⟩ := map_eq_ok.1 hsite
    dsimp only at hfound
    rw [htarget] at hfound
    obtain ⟨document, hstands, hfrom⟩ := hr.stands_of_find haddresses htable hstart hfound
      (hholds.isOwn htable _ (Emitter.text_mem_forms_of_resolve hu)).1
    obtain ⟨base, part, hparse, rfl, -, -, hwhole, -⟩ := hstands.find hfound
    have hbase := hfrom.not_isReserved_of_parse htable hparse
    have haddress := (haddresses.resolve b _ u hl.name hu).1
    -- The part is that of a document, and the document at this address is the one of the type.
    rcases hfrom with ⟨hroot, -⟩ | ⟨t, ht, -⟩
    · change u.text = _ at hroot
      exact absurd (hroot ▸ haddress) (not_isAddressOf_rootBase hl.name)
    · cases (ht.unique haddresses hholds haddress).2
      exact ⟨base, hbase, by rw [hwhole rfl]⟩
  obtain ⟨l', hl', rfl⟩ := of_body_refersTo haddresses htable hstart hr hbase
    hforwards.target hrefers
    (hholds.isPlainDocument htable).parts hbody
  have hclosed := isClosed_of_validator haddresses htable hstart hr hw
  exact ⟨l', hl', hs, (hclosed.definitions _ (Table.mem_of_lookup hs)).1.2⟩

end Reader

/-! ## Chains -/

namespace TwoWays

variable {e : Emitter} {documents : List (String × Json)} {t : String} {document start : Json}
  {r₁ r₂ : Registry} (h : TwoWays e documents t document start r₁ r₂)
  {formats : List Format} {checksFormats : Bool} {v w : Validator}
  (hv : Reader.validator ⟨r₁, formats, checksFormats⟩ ⟨.draft7, document⟩ = .ok v)
  (hw : Reader.validator ⟨r₂, formats, checksFormats⟩ ⟨.draft7, start⟩ = .ok w)
  {rank : Target → Nat} (hrank : w.EndsBy rank)

include h hv hw hrank

/-- Following a reference to the first document of a chain gives the errors that the validator of
the last one gives. -/
theorem errors_followHere_of_forwards {b : String}
    (hchain : Relation.ReflTransGen (e.Forwards documents) b t) {l : Link} (hl : e.Reaches b l)
    (hmem : l.target ∈ w.definitions.map Prod.fst) {levels steps : Nat} {opened : List Target}
    (hsteps : w.unopened opened < steps)
    (hopened : ∀ o ∈ opened, o.address ≠ Site.rootBase.text → rank l.target < rank o)
    (σ : Scope) {x : Json} (hx : x.levels ≤ levels) :
    (w.followHere (w.follow levels) steps opened σ).errors l x = v.errors x := by
  -- A target that is open ranks above the link, so the link leads to none of them.
  have hnew {b : String} {l : Link} {opened : List Target} (hl : e.Reaches b l)
      (hopened : ∀ o ∈ opened, o.address ≠ Site.rootBase.text → rank l.target < rank o) :
      l.target ∉ opened := fun hmem =>
    Nat.lt_irrefl _ (hopened _ hmem (hl.address_ne_rootBase h.addresses))
  induction hchain using Relation.ReflTransGen.head_induction_on generalizing l steps opened σ with
  | refl =>
      obtain ⟨u, hu, htarget⟩ := hl.target
      obtain ⟨u', hu', htext⟩ := h.normal
      cases hu.symm.trans hu'
      rw [htext] at htarget
      exact h.errors_followHere hv hw hrank hl.kind htarget hmem hsteps (hnew hl hopened) hopened σ
        hx
  | head hforwards _ ih =>
      obtain ⟨l', hl', hlookup, hmem'⟩ := Reader.lookup_of_forwards h.addresses h.table h.tame
        h.collected₂ hw hforwards hl hmem
      -- The next reference of the chain ranks below this one, which is being followed from now on.
      have hlt : rank l'.target < rank l.target := (hrank _ (Table.mem_of_lookup hlookup)).1
      -- There is a step left for each target that is not open, and the next target is one.
      cases steps with
      | zero => exact absurd hsteps (Nat.not_lt_zero _)
      | succ steps =>
          obtain ⟨τ, hτ⟩ := w.followHere_fixed (w.follow levels) steps σ hl.kind (hnew hl hopened)
            hlookup
          rw [(hτ x).1]
          refine (List.append_nil _).trans (ih hl' hmem' ?_ ?_ τ)
          · exact Nat.lt_of_lt_of_le (w.unopened_cons_lt hlookup (hnew hl hopened))
              (Nat.le_of_lt_succ hsteps)
          · rw [List.forall_mem_cons]
            exact ⟨fun _ => hlt, fun o ho hne => hlt.trans (hopened o ho hne)⟩

/-- A document that forwards to a chain has the errors of the last document. -/
theorem errors_of_forwards {b : String} (hb : Name.IsTypeName b) (hstart : e.RefersTo b start)
    (hchain : Relation.ReflTransGen (e.Forwards documents) b t) (x : Json) :
    w.errors x = v.errors x := by
  obtain ⟨-, base, entered, follow, p, q, hbase, hentered, hbody⟩ := Reader.isTable_of_validator hw
  have hself := Reader.self_of_validator hw hbase
  unfold Site.address at hbase
  unfold Site.enter at hentered
  dsimp only at hbase hentered
  rw [h.unnamed] at hbase hentered
  cases hbase
  cases hentered
  obtain ⟨l, hl, hschema⟩ := Reader.of_body_refersTo h.addresses h.table h.tame h.collected₂
    Site.not_isReserved_rootBase hb hstart h.tame.parts hbody
  have hclosed :=
    (Reader.isClosed_of_validator h.addresses h.table h.tame h.collected₂ hw).schema
  rw [hschema] at hclosed
  unfold Validator.errors
  dsimp only
  rw [hschema, hself]
  refine (List.append_nil _).trans ?_
  refine h.errors_followHere_of_forwards hv hw hrank hchain hl hclosed.1.2
    (Nat.lt_succ_of_le (w.unopened_le_length _)) ?_ [] (Nat.le_refl _)
  rw [List.forall_mem_singleton]
  exact fun hne => absurd rfl hne

end TwoWays

/-- Over a table of plain documents, the validator of a type that forwards gives a value the errors
that the validator of the type at the end of the chain gives. -/
theorem Validator.errors_of_build_of_forwards {domain : String} {documents : List (String × Json)}
    (hsign : '#' ∉ domain.toList) (htable : (Emitter.ofDomain domain).IsPlainTable documents)
    {a t : String} (hchain : Relation.TransGen ((Emitter.ofDomain domain).Forwards documents) a t)
    (ht : Name.IsTypeName t) {document schema : Json}
    (hlookup : documents.lookup ((Emitter.ofDomain domain).uri t) = some document)
    (hschema : documents.lookup ((Emitter.ofDomain domain).uri a) = some schema)
    {formats : List Format} {checksFormats : Bool} {v w list : Validator}
    (hv : build documents formats checksFormats document = .ok v)
    (hlist : build documents formats checksFormats
      (Engine.listSchema ((Emitter.ofDomain domain).uri t)) = .ok list)
    (hw : build documents formats checksFormats schema = .ok w) (hends : w.Ends) (x : Json) :
    w.errors x = v.errors x := by
  obtain ⟨b, hforwards, hrest⟩ := Relation.TransGen.head'_iff.1 hchain
  obtain ⟨found, hfound, hrefers⟩ := hforwards.document
  cases hschema.symm.trans hfound
  obtain ⟨rank, hrank⟩ := hends
  have hplain := (Emitter.Holds.of_lookup hforwards.name hschema).isPlainDocument htable
  have haddresses := Engine.hasAddresses_of_build_listSchema hsign htable ht hlookup hlist
  have hunnamed : Draft.draft7.ownAddress? schema = none := by
    rw [hplain.ownAddress? haddresses hforwards.name, hrefers.isSome_member?_ref]
    rfl
  obtain ⟨r₁, r₂, hways, hv', hw'⟩ := TwoWays.of_build hsign htable ht hlookup hlist hv
    (.of_lookup haddresses hforwards.name hschema hplain) hunnamed hw
  exact hways.errors_of_forwards hv' hw' hrank hforwards.target hrefers hrest x

end TypeCatalog
