import TypeCatalog.Proofs.Validation.Collected

/-!
# What stands at the targets of references

At an address of the batch a plain document stands (`Registry.IsCollected.stands`), and no place in
it has a name. So a reference that finds something in the document finds the whole of it or a part
that a pointer leads to, and it finds the same at every address at which the document stands
(`Registry.Stands.find`).

`Registry.find` looks the address of a `Target` up and walks along the fragment (`Site.walk`) when
it is a pointer, or looks for an anchor when it is not. `Registry.target` makes the target of a
reference: its base for a local one (`Fragment.isLocal`), and the resolved address for any other.
-/

set_option autoImplicit false

namespace TypeCatalog

open Result

/-! ## Documents at addresses -/

/-- Whether a document with plain parts stands at an address, and no place in it has a name. -/
structure Registry.Stands (r : Registry) (refers : String → Prop) (address : String)
    (document : Json) : Prop where
  resource : r.resource? address = some ⟨.draft7, document⟩
  parts : document.HasPlainParts refers
  anchors : ∀ name a, r.anchor address name ≠ .ok a

namespace Registry

variable {r : Registry} {refers : String → Prop} {address fragment : String} {document : Json}
  {found : Site × Bool}

/-- Where something is found, a resource is at the address. -/
theorem resource?_of_find {t : Target} (h : r.find t = .ok found) :
    ∃ resource, r.resource? t.address = some resource := by
  unfold find at h
  cases hresource : r.resource? t.address with
  | none =>
      rw [hresource] at h
      cases h
  | some resource => exact ⟨resource, rfl⟩

/-- What is found in a plain document is the whole of it or what a pointer leads to. -/
theorem Stands.walk_of_find (h : r.Stands refers address document)
    (hfound : r.find (.within address fragment) = .ok found) :
    ∃ base, Uri.parse address = .ok base ∧
      (fragment = "" ∧ found = (⟨base, ⟨.draft7, document⟩⟩, false)
        ∨ fragment ≠ "" ∧ ∃ site, Site.walk ⟨base, ⟨.draft7, document⟩⟩ fragment = .ok site
          ∧ found = (site, false)) := by
  unfold Registry.find at hfound
  rw [show (Target.within address fragment).address = address from rfl, h.resource] at hfound
  cases hparse : Uri.parse address with
  | error f =>
      rw [hparse] at hfound
      cases hfound
  | ok base =>
      refine ⟨base, rfl, ?_⟩
      rw [hparse] at hfound
      dsimp only at hfound
      -- Without a fragment the whole document is found, and with one the pointer is followed, as
      -- there are no anchors.
      split at hfound
      · next hempty =>
          cases hfound
          exact .inl ⟨String.isEmpty_iff.1 hempty, rfl⟩
      · next hempty =>
          split at hfound
          · obtain ⟨site, hsite, rfl⟩ := map_eq_ok.1 hfound
            exact .inr ⟨fun heq => hempty (String.isEmpty_iff.2 heq), site, hsite, rfl⟩
          · obtain ⟨a, ha, -⟩ := bind_eq_ok.1 hfound
            exact absurd ha (h.anchors fragment a)

/-- What is found in a plain document is a plain part of it, at the base that its address gives. The
same part is found wherever else the document stands. -/
theorem Stands.find (h : r.Stands refers address document)
    (hfound : r.find (.within address fragment) = .ok found) :
    ∃ base w, Uri.parse address = .ok base ∧ found = (⟨base, ⟨.draft7, w⟩⟩, false)
      ∧ w.HasPlainParts refers ∧ w.objects ⊆ document.objects ∧ (fragment = "" → w = document)
      ∧ ∀ (r' : Registry) (address' : String) (found' : Site × Bool),
        r'.Stands refers address' document → r'.find (.within address' fragment) = .ok found' →
          ∃ base', Uri.parse address' = .ok base' ∧ found' = (⟨base', ⟨.draft7, w⟩⟩, false) := by
  obtain ⟨base, hparse, ⟨hempty, rfl⟩ | ⟨hne, site, hwalk, rfl⟩⟩ := h.walk_of_find hfound
  · refine ⟨base, document, hparse, rfl, h.parts, List.Subset.refl _, fun _ => rfl,
      fun r' address' found' h' hfound' => ?_⟩
    obtain ⟨base', hparse', ⟨-, rfl⟩ | ⟨hne, -⟩⟩ := h'.walk_of_find hfound'
    · exact ⟨base', hparse', rfl⟩
    · exact absurd hempty hne
  · obtain ⟨w, rfl, hplain, hobjects, hall⟩ := Site.walk_of_hasPlainParts h.parts hwalk
    refine ⟨base, w, hparse, rfl, hplain.hasPlainParts, hobjects, fun hempty => absurd hempty hne,
      fun r' address' found' h' hfound' => ?_⟩
    obtain ⟨base', hparse', ⟨hempty, -⟩ | ⟨-, site', hwalk', rfl⟩⟩ :=
      h'.walk_of_find hfound'
    · exact absurd hempty hne
    · cases (hall base').symm.trans hwalk'
      exact ⟨base', hparse', rfl⟩

end Registry

/-- No name of a place belongs to an address that is not reserved. -/
theorem MetaSchema.lookup_anchors_of_not_isReserved {address name : String}
    (h : ¬ Site.IsReserved address) : registry.anchors.lookup (address, name) = none := by
  have hall : ∀ a ∈ registry.anchors, Site.IsReserved a.1.1 := by decide +kernel
  cases hfound : registry.anchors.lookup (address, name) with
  | none => rfl
  | some a => exact absurd (hall _ (Table.mem_of_lookup hfound)) h

section

variable {e : Emitter} {documents : List (String × Json)} {start : Json} {r : Registry}

/-- Whether a registry that was collected from a schema has a document of the batch at an address,
or the schema itself. -/
def Registry.IsFrom (e : Emitter) (documents : List (String × Json)) (start : Json)
    (address : String) (document : Json) : Prop :=
  address = Site.rootBase.text ∧ document = start
    ∨ ∃ t, e.Holds documents t address ⟨.draft7, document⟩
      ∧ ((Draft.draft7.ownAddress? start).isSome = true ∨ address = e.uri t
        ∨ ∃ u, Site.resolve Site.rootBase (e.uri t) = .ok u ∧ address = u.text)

variable (haddresses : e.HasAddresses) (htable : e.IsPlainTable documents)
  (hstart : Survey.IsTame e documents start)

include htable

/-- The base of a document of the batch is not reserved. -/
theorem Registry.IsFrom.not_isReserved_of_parse {address : String} {document : Json}
    (h : Registry.IsFrom e documents start address document) {base : Uri}
    (hparse : Uri.parse address = .ok base) : ¬ Site.IsReserved base.text := by
  rcases h with ⟨rfl, -⟩ | ⟨t, hholds, -⟩
  · cases Site.parse_rootBase.symm.trans hparse
    exact Site.not_isReserved_rootBase
  · exact (hholds.isOwn htable _ hholds.address).2 base (by rw [hparse]; rfl)

include haddresses hstart

/-- A document of which something is found is tame. -/
theorem Registry.IsFrom.isTame {address : String} {document : Json}
    (h : Registry.IsFrom e documents start address document) :
    Survey.IsTame e documents document := by
  rcases h with ⟨-, rfl⟩ | ⟨t, hholds, -⟩
  · exact hstart
  · exact .of_lookup haddresses hholds.name hholds.document (hholds.isPlainDocument htable)

/-- At an address that is not reserved, a plain document stands. -/
theorem Registry.IsCollected.stands (hr : r.IsCollected e documents start) {address : String}
    {resource : Resource} (hresource : r.resource? address = some resource)
    (hreserved : ¬ Site.IsReserved address) :
    ∃ document, resource = ⟨.draft7, document⟩ ∧ r.Stands e.IsReference address document
      ∧ Registry.IsFrom e documents start address document := by
  obtain ⟨document, rfl, hfrom⟩ : ∃ document, resource = ⟨.draft7, document⟩
      ∧ Registry.IsFrom e documents start address document := by
    rcases hr.resources _ _ (Table.mem_of_lookup hresource) with hbuiltIn | heq | ⟨t, hholds, hat⟩
    · have hnone := Option.not_isSome_iff_eq_none.1 hreserved
      exact absurd (List.mem_map_of_mem hbuiltIn) (Table.lookup_eq_none_iff_forall.1 hnone)
    · cases heq
      exact ⟨start, rfl, .inl ⟨rfl, rfl⟩⟩
    · obtain ⟨draft, document⟩ := resource
      obtain rfl : draft = .draft7 := hholds.draft
      exact ⟨document, rfl, .inr ⟨t, hholds, hat⟩⟩
  have htame := hfrom.isTame haddresses htable hstart
  refine ⟨document, rfl, ⟨hresource, htame.parts, fun name a ha => ?_⟩, hfrom⟩
  -- The registry has the places of the schema language, so it is asked under another address only
  -- for a document with a name of its own; and that name is not reserved either.
  unfold Registry.anchor at ha
  rw [hr.anchors, MetaSchema.lookup_anchors_of_not_isReserved hreserved, hresource] at ha
  rcases htame.address with hunnamed | ⟨t, ht, hlookup, hnamed⟩
  · rw [Option.bind_some, hunnamed] at ha
    cases ha
  · rw [Option.bind_some, hnamed] at ha
    dsimp only at ha
    obtain ⟨u, hu, ha⟩ := bind_eq_ok.1 ha
    obtain ⟨other, hother, ha⟩ := bind_eq_ok.1 ha
    cases hother
    have hown := ((Emitter.Holds.of_lookup ht hlookup).isOwn htable _
      (Emitter.text_mem_forms_of_ofText hu)).1
    rw [MetaSchema.lookup_anchors_of_not_isReserved hown] at ha
    cases ha

/-- Where something is found at an address that is not reserved, a plain document stands. -/
theorem Registry.IsCollected.stands_of_find (hr : r.IsCollected e documents start) {o : Target}
    {found : Site × Bool} (hfound : r.find o = .ok found)
    (hreserved : ¬ Site.IsReserved o.address) :
    ∃ document, r.Stands e.IsReference o.address document
      ∧ Registry.IsFrom e documents start o.address document := by
  obtain ⟨resource, hresource⟩ := Registry.resource?_of_find hfound
  obtain ⟨document, -, h⟩ := hr.stands haddresses htable hstart hresource hreserved
  exact ⟨document, h⟩

end

/-! ## References -/

/-- The place in a document that a reference names. -/
def Registry.fragmentOf (reference : String) : String :=
  if Fragment.isLocal reference then String.ofList reference.toList.tail
  else
    let (reversedFragment, reversedRest) := reference.toList.reverse.span (· ≠ '#')
    if reversedRest.isEmpty then "" else String.ofList reversedFragment.reverse

/-- A local reference stays at the address of its base. -/
theorem Registry.target_of_isLocal {base : Uri} {s : String} (h : Fragment.isLocal s = true) :
    Registry.target base s = .ok (.within base.text (Registry.fragmentOf s)) := by
  unfold Registry.target Registry.fragmentOf
  rw [if_pos h, if_pos h]

/-- The target of a text without a number sign is the whole of the document that it means. -/
theorem Registry.target_of_noSign {s : String} (hsign : '#' ∉ s.toList) (base : Uri) :
    Registry.target base s = (Site.resolve base s).map (fun u => .within u.text "")
      ∧ Registry.fragmentOf s = "" := by
  have hlocal : Fragment.isLocal s = false :=
    decide_eq_false fun hhead => hsign (List.mem_of_mem_head? hhead)
  have hall : ∀ c ∈ s.toList.reverse, decide (c ≠ '#') = true := fun c hc =>
    decide_eq_true fun heq => hsign (List.mem_reverse.1 (heq ▸ hc))
  have hspan : s.toList.reverse.span (fun c => decide (c ≠ '#')) = (s.toList.reverse, []) := by
    rw [List.span_eq_takeWhile_dropWhile, List.takeWhile_eq_self_iff.2 hall,
      List.dropWhile_eq_nil_iff.2 hall]
  unfold Registry.target Registry.fragmentOf
  rw [hlocal, hspan]
  exact ⟨rfl, rfl⟩

/-- A reference to a type leads to the resolved address, with the fragment that it has. -/
theorem Emitter.HasAddresses.target {e : Emitter} (haddresses : e.HasAddresses) {t s : String}
    (ht : Name.IsTypeName t) (h : e.PointsTo t s) (base : Uri) :
    Registry.target base s = (Site.resolve base (e.uri t)).map fun u =>
      .within u.text (Registry.fragmentOf s) := by
  have hsign := haddresses.noSign t ht
  rcases h with rfl | ⟨pointer, hpointer, rfl⟩
  · obtain ⟨htarget, hfragment⟩ := Registry.target_of_noSign hsign base
    rw [htarget, hfragment]
  · have hlocal : Fragment.isLocal (e.uri t ++ "#" ++ pointer) = false := by
      refine decide_eq_false fun hhead => hsign ?_
      rw [String.toList_append, String.toList_append, List.append_assoc] at hhead
      cases huri : (e.uri t).toList with
      | nil =>
          have hne : (e.uri t).toList ≠ [] := by
            unfold Emitter.uri
            rw [String.toList_append, String.toList_append, List.append_assoc]
            exact List.append_ne_nil_of_right_ne_nil _ (List.cons_ne_nil '/' _)
          exact absurd huri hne
      | cons c cs =>
          rw [huri] at hhead
          cases hhead
          exact List.mem_cons_self
    -- The fragment is what stands behind the last number sign, and the address has none.
    have hreverse : ∀ c ∈ pointer.toList.reverse, decide (c ≠ '#') = true := fun c hc =>
      decide_eq_true fun heq => hpointer (List.mem_reverse.1 (heq ▸ hc))
    have hspan : (e.uri t ++ "#" ++ pointer).toList.reverse.span (fun c => decide (c ≠ '#'))
        = (pointer.toList.reverse, '#' :: (e.uri t).toList.reverse) := by
      have htoList : (e.uri t ++ "#" ++ pointer).toList.reverse
          = pointer.toList.reverse ++ '#' :: (e.uri t).toList.reverse := by
        rw [String.toList_append, String.toList_append, List.reverse_append, List.reverse_append]
        rfl
      rw [htoList, List.span_eq_takeWhile_dropWhile, List.takeWhile_append_of_pos hreverse,
        List.dropWhile_append_of_pos hreverse, List.takeWhile_cons_of_neg (by decide),
        List.dropWhile_cons_of_neg (by decide), List.append_nil]
    unfold Registry.target Registry.fragmentOf
    rw [hlocal, hspan]
    dsimp only
    rw [if_neg Bool.false_ne_true, if_neg Bool.false_ne_true, List.isEmpty_cons,
      if_neg Bool.false_ne_true, if_neg Bool.false_ne_true, List.tail_cons, List.reverse_reverse,
      String.ofList_toList]

/-- What a link is. -/
theorem Reader.link_eq_ok {r : Reader} {base : Uri} {s : String} {l : Link}
    (h : r.link base s = .ok l) : ∃ found, Registry.target base s = .ok l.target
      ∧ r.registry.find l.target = .ok found ∧ l.base = base.text
      ∧ l.kind = if found.2 then .dynamic else .fixed := by
  unfold link at h
  obtain ⟨u, -, h⟩ := bind_eq_ok.1 h
  obtain ⟨target, htarget, h⟩ := bind_eq_ok.1 h
  obtain ⟨found, hfound, h⟩ := bind_eq_ok.1 h
  cases h
  exact ⟨found, htarget, hfound, rfl, rfl⟩

end TypeCatalog
