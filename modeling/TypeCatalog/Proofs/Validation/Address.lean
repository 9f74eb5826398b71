import Mathlib.Data.List.TakeDrop
import TypeCatalog.Proofs.Uri.NormalForm
import TypeCatalog.Schema.Emit
import TypeCatalog.Validation.Registry

/-!
# Addresses of types

Below a domain of the web, the address of a type is an absolute reference without a query and a
fragment. Resolved at any base it gives the same address, which ends with the qualified name of the
type; and so the normal forms of the addresses of two types differ.

The addresses are those of `Emitter.uri`, and `Site.resolve` is how the library reads one at a base:
`Uri.parse`, then `Uri.resolve`, then `Uri.normalized`. `IsWebDomain` asks of the domain that it
begins with a scheme of letters and a colon and has no question mark.
-/

set_option autoImplicit false

namespace TypeCatalog

/-! ## Names of types -/

/-- The qualified names that types and variants have. -/
def Name.IsTypeName (t : String) : Prop :=
  ∃ system name, Name.isIdentifier system = true ∧ Name.isIdentifier name = true
    ∧ t = Name.qualify system name

/-- Whether an address ends with a name, behind a slash. -/
def IsAddressOf (address typeName : String) : Prop :=
  ∃ front, address.toList = front ++ '/' :: typeName.toList

/-- An address belongs to one type. -/
theorem IsAddressOf.unique {address t t' : String} (ht : Name.IsTypeName t)
    (ht' : Name.IsTypeName t') (h : IsAddressOf address t) (h' : IsAddressOf address t') :
    t = t' := by
  obtain ⟨system, name, hs, hn, rfl⟩ := ht
  obtain ⟨system', name', hs', hn', rfl⟩ := ht'
  obtain ⟨front, hfront⟩ := h
  obtain ⟨front', hfront'⟩ := h'
  rw [hfront', Name.toList_qualify, Name.toList_qualify, ← List.cons_append, ← List.cons_append,
    ← List.append_assoc, ← List.append_assoc] at hfront
  -- The name stands behind the last slash, and the system behind the last one before it.
  have houter := congrArg Name.splitLastChars hfront
  rw [Name.splitLastChars_append (Name.separator_notMem hn'),
    Name.splitLastChars_append (Name.separator_notMem hn)] at houter
  obtain ⟨hinner, hname⟩ := Prod.mk.inj (Option.some.inj houter)
  have hsplit := congrArg Name.splitLastChars hinner
  erw [Name.splitLastChars_append (Name.separator_notMem hs'),
    Name.splitLastChars_append (Name.separator_notMem hs)] at hsplit
  obtain ⟨-, hsystem⟩ := Prod.mk.inj (Option.some.inj hsplit)
  rw [String.toList_inj.1 hname, String.toList_inj.1 hsystem]

/-- The address that the documents of a batch give a type is an address of the type. -/
theorem Emitter.isAddressOf_uri (e : Emitter) (t : String) : IsAddressOf (e.uri t) t := by
  refine ⟨e.domain.toList, ?_⟩
  rw [uri, String.toList_append, String.toList_append, List.append_assoc]
  rfl

/-- The base of schemas without an address is not the address of a type. -/
theorem not_isAddressOf_rootBase {t : String} (ht : Name.IsTypeName t) :
    ¬ IsAddressOf Site.rootBase.text t := by
  obtain ⟨system, name, -, hn, rfl⟩ := ht
  rintro ⟨front, hfront⟩
  rw [Name.toList_qualify, ← List.cons_append, ← List.append_assoc] at hfront
  have hsplit := congrArg Name.splitLastChars hfront
  rw [Name.splitLastChars_append (Name.separator_notMem hn)] at hsplit
  have hroot : Name.splitLastChars Site.rootBase.text.toList
      = some ("json-schema://".toList, []) := by decide +kernel
  rw [hroot] at hsplit
  exact Name.toList_ne_nil_of_isIdentifier hn (Prod.mk.inj (Option.some.inj hsplit)).2.symm

/-! ## Domains -/

/-- A domain of the web has the scheme `http` or `https`, in letters of any size, and neither a
query nor a fragment. -/
structure IsWebDomain (domain : String) : Prop where
  scheme : ∃ scheme rest, domain.toList = scheme ++ "://".toList ++ rest
    ∧ scheme.map Ascii.lower ∈ ["http".toList, "https".toList]
  noQuery : '?' ∉ domain.toList
  noFragment : '#' ∉ domain.toList

/-- A small letter comes from a letter. -/
theorem Ascii.isLetter_of_lower {c : Char} (h : Ascii.isLetter (Ascii.lower c) = true) :
    Ascii.isLetter c = true := by
  unfold Ascii.lower at h
  split at h
  · next hcapital => exact decide_eq_true (.inr hcapital)
  · exact h

/-- A sign that is no slash stays in front of what is trimmed. -/
theorem Name.trimEndSlashes_append {c : Char} (hc : c ≠ Name.separator) (cs ds : List Char) :
    Name.trimEndSlashes (cs ++ c :: ds) = cs ++ c :: Name.trimEndSlashes ds := by
  unfold Name.trimEndSlashes Name.dropSlashes
  have hstop : (c :: cs.reverse).dropWhile (fun x => decide (x = Name.separator))
      = c :: cs.reverse := List.dropWhile_cons_of_neg (by simpa using hc)
  rw [List.reverse_append, List.reverse_cons, List.append_assoc, List.singleton_append,
    List.dropWhile_append, hstop]
  split
  · next hempty =>
      rw [List.isEmpty_iff.1 hempty, List.reverse_cons, List.reverse_reverse]
      rfl
  · rw [List.reverse_append, List.reverse_cons, List.reverse_reverse, List.append_assoc,
      List.singleton_append]

/-- A domain without the slashes at its end does not end with one. -/
theorem Name.getLast?_trimEndSlashes (cs : List Char) :
    (Name.trimEndSlashes cs).getLast? ≠ some Name.separator := by
  unfold Name.trimEndSlashes Name.dropSlashes
  rw [List.getLast?_reverse]
  intro h
  have hhead := List.head?_dropWhile_not (fun x => decide (x = Name.separator)) cs.reverse
  rw [h] at hhead
  simp at hhead

/-- Nor does it have any other characters than the domain. -/
theorem Name.mem_of_mem_trimEndSlashes {c : Char} {cs : List Char}
    (h : c ∈ Name.trimEndSlashes cs) : c ∈ cs := by
  unfold Name.trimEndSlashes Name.dropSlashes at h
  exact List.mem_reverse.1 ((List.dropWhile_sublist _).subset (List.mem_reverse.1 h))

namespace IsWebDomain

/-- A scheme of the web consists of letters. -/
theorem isLetter_of_scheme {scheme : List Char}
    (h : scheme.map Ascii.lower ∈ ["http".toList, "https".toList]) :
    scheme ≠ [] ∧ scheme.all Ascii.isLetter = true := by
  have hlower : scheme.map Ascii.lower ≠ []
      ∧ (scheme.map Ascii.lower).all Ascii.isLetter = true := by
    rcases List.mem_pair.1 h with h | h
    · rw [h]
      decide
    · rw [h]
      decide
  refine ⟨fun hnil => hlower.1 (by rw [hnil]; rfl), List.all_eq_true.2 fun c hc => ?_⟩
  exact Ascii.isLetter_of_lower (List.all_eq_true.1 hlower.2 _ (List.mem_map_of_mem hc))

variable {domain : String} (hweb : IsWebDomain domain)

include hweb

/-- What the address of every document begins with: letters, a colon, and then neither a query nor a
fragment, and no slash at the end. -/
theorem exists_rest : ∃ scheme rest, scheme ≠ [] ∧ scheme.all Ascii.isLetter = true
    ∧ (Emitter.ofDomain domain).domain.toList = scheme ++ ':' :: rest
    ∧ '?' ∉ rest ∧ '#' ∉ rest ∧ rest.getLast? ≠ some '/' := by
  obtain ⟨scheme, rest, hdomain, hscheme⟩ := hweb.scheme
  have hletters := isLetter_of_scheme hscheme
  have hrest : domain.toList = scheme ++ ':' :: ('/' :: '/' :: rest) := by
    rw [hdomain, List.append_assoc]
    rfl
  have hmem {c : Char} (hc : c ∈ Name.trimEndSlashes ('/' :: '/' :: rest)) : c ∈ domain.toList := by
    rw [hrest]
    exact List.mem_append_right _ (.tail _ (Name.mem_of_mem_trimEndSlashes hc))
  refine ⟨scheme, Name.trimEndSlashes ('/' :: '/' :: rest), hletters.1, hletters.2, ?_,
    fun h => hweb.noQuery (hmem h), fun h => hweb.noFragment (hmem h),
    Name.getLast?_trimEndSlashes _⟩
  unfold Emitter.ofDomain
  rw [String.toList_ofList, hrest]
  exact Name.trimEndSlashes_append (by decide) scheme _

section

variable {t : String} (ht : Name.IsTypeName t)

include ht

/-- The text of an address: letters, a colon, and then neither a query nor a fragment. -/
theorem exists_toList_uri : ∃ scheme rest, scheme ≠ [] ∧ scheme.all Ascii.isLetter = true
    ∧ ((Emitter.ofDomain domain).uri t).toList = scheme ++ ':' :: (rest ++ '/' :: t.toList)
    ∧ '?' ∉ rest ++ '/' :: t.toList ∧ '#' ∉ rest ++ '/' :: t.toList
    ∧ rest.getLast? ≠ some '/' := by
  obtain ⟨scheme, rest, hne, hletters, hdomain, hquery, hfragment, hlast⟩ := hweb.exists_rest
  obtain ⟨system, name, hs, hn, rfl⟩ := ht
  have hmem {c : Char} (hrest : c ∉ rest) (hc : Name.isAlphanumeric c = false)
      (hslash : c ≠ '/') : c ∉ rest ++ '/' :: (Name.qualify system name).toList := by
    rw [List.mem_append, List.mem_cons, not_or, not_or]
    exact ⟨hrest, hslash, Name.notMem_qualify hs hn hc hslash⟩
  refine ⟨scheme, rest, hne, hletters, ?_, hmem hquery (by decide) (by decide),
    hmem hfragment (by decide) (by decide), hlast⟩
  unfold Emitter.uri
  rw [String.toList_append, String.toList_append, hdomain, List.append_assoc, List.append_assoc]
  rfl

/-- An address has no number sign. -/
theorem number_sign_notMem_uri : '#' ∉ ((Emitter.ofDomain domain).uri t).toList := by
  obtain ⟨scheme, rest, -, hletters, huri, -, hfragment, -⟩ := hweb.exists_toList_uri ht
  rw [huri, List.mem_append, List.mem_cons, not_or, not_or]
  refine ⟨fun h => ?_, by decide, hfragment⟩
  cases List.all_eq_true.1 hletters '#' h

/-- So a reference to it does not stay inside of a document. -/
theorem isLocal_uri : Fragment.isLocal ((Emitter.ofDomain domain).uri t) = false := by
  refine decide_eq_false fun h => ?_
  exact hweb.number_sign_notMem_uri ht (List.mem_of_mem_head? h)

/-- And no number sign is trimmed off it. -/
theorem trimNumberSigns_uri :
    Draft.trimNumberSigns ((Emitter.ofDomain domain).uri t) = (Emitter.ofDomain domain).uri t := by
  unfold Draft.trimNumberSigns
  rw [List.dropWhile_eq_self_iff.2, List.reverse_reverse, String.ofList_toList]
  intro hpos hsign
  refine hweb.number_sign_notMem_uri ht (List.mem_reverse.1 ?_)
  rw [← of_decide_eq_true hsign]
  exact List.getElem_mem hpos

/-- An address is read with a scheme, without a query and a fragment, and with a path that ends as
the address does. -/
theorem of_parse_uri {u : Uri} (h : Uri.parse ((Emitter.ofDomain domain).uri t) = .ok u) :
    u.scheme.isSome = true ∧ u.query = none ∧ u.fragment = none
      ∧ ∃ front, Uri.Octets front ∧ u.path = front ++ '/' :: t.toList := by
  obtain ⟨scheme, rest, hne, hletters, huri, hquery, hfragment, hlast⟩ :=
    hweb.exists_toList_uri ht
  obtain ⟨hscheme, hnoQuery, hnoFragment, hoctets, hpath⟩ :=
    Uri.parse_eq_ok hne hletters huri hquery hfragment h
  refine ⟨by rw [hscheme]; rfl, hnoQuery, hnoFragment, ?_⟩
  have hend : ∃ front, u.path = front ++ '/' :: t.toList := by
    -- The path is all that stands behind the colon, or it begins behind a host.
    rcases hpath with hpath | ⟨behind, hbehind, hpasses⟩
    · exact ⟨rest, hpath⟩
    · -- The two slashes in front of the host are not those in front of the type.
      rcases rest with _ | ⟨x, _ | ⟨y, rest⟩⟩
      · obtain ⟨system, name, hs, hn, rfl⟩ := ht
        have hhead := (List.cons.inj hbehind).2
        rw [Name.toList_qualify] at hhead
        obtain ⟨c, cs, hcs⟩ := List.exists_cons_of_ne_nil (Name.toList_ne_nil_of_isIdentifier hs)
        rw [hcs] at hhead
        refine absurd ?_ (Name.separator_notMem hs)
        rw [hcs, (List.cons.inj hhead).1]
        exact List.mem_cons_self
      · exact absurd (congrArg some (List.cons.inj hbehind).1) hlast
      · rw [← (List.cons.inj (List.cons.inj hbehind).2).2] at hpasses
        exact hpasses.append
  obtain ⟨front, hfront⟩ := hend
  rw [hfront] at hoctets
  exact ⟨front, hoctets.of_append.1, hfront⟩

/-- The scheme of an address is that of the domain. -/
theorem scheme_of_parse_uri {u : Uri} (h : Uri.parse ((Emitter.ofDomain domain).uri t) = .ok u) :
    ∃ scheme, u.scheme = some scheme
      ∧ scheme.map Ascii.lower ∈ ["http".toList, "https".toList] := by
  obtain ⟨scheme, rest, hne, hletters, huri, hquery, hfragment, -⟩ := hweb.exists_toList_uri ht
  obtain ⟨hscheme, -⟩ := Uri.parse_eq_ok hne hletters huri hquery hfragment h
  obtain ⟨front, behind, hdomain, hfront⟩ := hweb.scheme
  refine ⟨scheme, hscheme, ?_⟩
  -- Both begin the address, up to its first colon.
  have huri' : ((Emitter.ofDomain domain).uri t).toList
      = front ++ ':' :: (Name.trimEndSlashes ('/' :: '/' :: behind) ++ '/' :: t.toList) := by
    have hlist : domain.toList = front ++ ':' :: ('/' :: '/' :: behind) := by
      rw [hdomain, List.append_assoc]
      rfl
    unfold Emitter.uri Emitter.ofDomain
    rw [String.toList_append, String.toList_append, String.toList_ofList, hlist,
      Name.trimEndSlashes_append (by decide), List.append_assoc, List.append_assoc]
    rfl
  have hnoColon {cs : List Char} (hcs : cs.all Ascii.isLetter = true) : ':' ∉ cs :=
    fun hmem => Bool.false_ne_true (List.all_eq_true.1 hcs ':' hmem)
  rw [huri'] at huri
  rw [← (Name.append_cons_inj (hnoColon (isLetter_of_scheme hfront).2)
    (hnoColon hletters) huri).1]
  exact hfront

/-- To resolve an address is to read it, to resolve what was read, and to take the normal form. -/
theorem resolve_uri_eq_ok {base u : Uri} :
    Site.resolve base ((Emitter.ofDomain domain).uri t) = .ok u
      ↔ ∃ r v, Uri.parse ((Emitter.ofDomain domain).uri t) = .ok r ∧ base.resolve r = .ok v
        ∧ v.normalized = u := by
  unfold Site.resolve
  rw [hweb.isLocal_uri ht, Bool.false_and, if_neg Bool.false_ne_true]
  cases Uri.parse ((Emitter.ofDomain domain).uri t) with
  | error f => simp
  | ok r =>
      unfold Site.resolveAt
      cases hresolve : base.resolve r with
      | error f => simp [hresolve]
      | ok v => simp [hresolve]

/-- The address of a type means an address of the type at every base, and the same one. -/
theorem resolve_uri {base u : Uri}
    (h : Site.resolve base ((Emitter.ofDomain domain).uri t) = .ok u) :
    IsAddressOf u.text t ∧ u.fragment = none
      ∧ Site.resolve Site.rootBase ((Emitter.ofDomain domain).uri t) = .ok u := by
  obtain ⟨r, v, hparse, hresolve, rfl⟩ := (hweb.resolve_uri_eq_ok ht).1 h
  obtain ⟨hscheme, hquery, hfragment, hpath⟩ := hweb.of_parse_uri ht hparse
  have hv := Uri.eq_of_resolve_eq_ok hscheme hresolve
  have hroot : Site.rootBase.resolve r = .ok v := by
    rw [hv]
    exact Uri.resolve_of_scheme rfl hscheme
  have hvquery : v.query = none := by rw [hv]; exact hquery
  have hvfragment : v.fragment = none := by rw [hv]; exact hfragment
  refine ⟨?_, ?_, (hweb.resolve_uri_eq_ok ht).2 ⟨r, v, hparse, hroot, rfl⟩⟩
  · obtain ⟨system, name, hs, hn, rfl⟩ := ht
    rw [← Uri.typePath_eq] at hpath
    rw [IsAddressOf, ← Uri.typePath_eq]
    refine Uri.exists_text_normalized hs hn hvquery hvfragment ?_
    rw [hv]
    exact (Uri.EndsWith.removeDots hs hn hpath).guarded r.authority
  · show v.fragment.map _ = none
    rw [hvfragment]
    rfl

/-- The address of a type by itself is an address of the type. -/
theorem ofText_uri {u : Uri} (h : Site.ofText ((Emitter.ofDomain domain).uri t) = .ok u) :
    IsAddressOf u.text t := by
  unfold Site.ofText at h
  cases hparse : Uri.parse ((Emitter.ofDomain domain).uri t) with
  | error f =>
      rw [hparse] at h
      cases h
  | ok r =>
      obtain ⟨hscheme, hquery, hfragment, hpath⟩ := hweb.of_parse_uri ht hparse
      rw [hparse] at h
      dsimp only at h
      rw [if_pos hscheme] at h
      cases h
      obtain ⟨system, name, hs, hn, rfl⟩ := ht
      rw [← Uri.typePath_eq] at hpath
      rw [IsAddressOf, ← Uri.typePath_eq]
      exact Uri.exists_text_normalized hs hn hquery hfragment hpath

/-- The target of the address of a type is the whole of the document that it means. -/
theorem target_uri (base : Uri) : Registry.target base ((Emitter.ofDomain domain).uri t)
    = (Site.resolve base ((Emitter.ofDomain domain).uri t)).map fun u => .within u.text "" := by
  have hspan : ((Emitter.ofDomain domain).uri t).toList.reverse.span (fun c => decide (c ≠ '#'))
      = (((Emitter.ofDomain domain).uri t).toList.reverse, []) := by
    have hall : ∀ c ∈ ((Emitter.ofDomain domain).uri t).toList.reverse,
        decide (c ≠ '#') = true := fun c hc => decide_eq_true fun heq =>
      hweb.number_sign_notMem_uri ht (List.mem_reverse.1 (heq ▸ hc))
    rw [List.span_eq_takeWhile_dropWhile, List.takeWhile_eq_self_iff.2 hall,
      List.dropWhile_eq_nil_iff.2 hall]
  unfold Registry.target
  rw [hweb.isLocal_uri ht, hspan]
  rfl

end

end IsWebDomain

end TypeCatalog
