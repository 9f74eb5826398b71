import TypeCatalog.Proofs.Result
import TypeCatalog.Proofs.Uri.Endings
import TypeCatalog.Proofs.Validation.Address
import TypeCatalog.Validation.Build

/-!
# The forms of an address

The address of a type is looked up as it is written, as it is resolved and by itself. Below a domain
with a scheme and without a fragment all forms are addresses of the type, whatever the scheme is and
whether or not there is a query (`IsAbsoluteDomain.hasAddresses`).

The forms are `Emitter.uri`, what `Site.resolve` makes of it at the base of schemas without an
address, and what `Site.ofText` makes of it. `HasAddresses` collects what the proofs about
validators need of them, and `Uri.EndsWithType` is where it comes from.
-/

set_option autoImplicit false

namespace TypeCatalog

open Result

namespace Emitter

variable (e : Emitter)

/-- The forms of the address of a type: as it is written, as it is resolved and by itself. -/
def forms (t : String) : List String :=
  e.uri t :: ((Site.resolve Site.rootBase (e.uri t)).toOption.toList
    ++ (Site.ofText (e.uri t)).toOption.toList).map (·.text)

/-- Whether addresses end with the names of their types in all forms, and mean the same at every
base. -/
structure HasAddresses : Prop where
  noSign : ∀ t, Name.IsTypeName t → '#' ∉ (e.uri t).toList
  ofText : ∀ t u, Name.IsTypeName t → Site.ofText (e.uri t) = .ok u → IsAddressOf u.text t
  resolve : ∀ t base u, Name.IsTypeName t → Site.resolve base (e.uri t) = .ok u →
    IsAddressOf u.text t ∧ u.fragment = none ∧ Site.resolve Site.rootBase (e.uri t) = .ok u

variable {e} {t : String}

/-- The address as it is written is a form. -/
theorem uri_mem_forms : e.uri t ∈ e.forms t := List.mem_cons_self

/-- So is the address as it is resolved. -/
theorem text_mem_forms_of_resolve {u : Uri} (h : Site.resolve Site.rootBase (e.uri t) = .ok u) :
    u.text ∈ e.forms t := by
  unfold forms
  rw [h]
  exact .tail _ (.head _)

/-- And so is the address as it is read by itself. -/
theorem text_mem_forms_of_ofText {u : Uri} (h : Site.ofText (e.uri t) = .ok u) :
    u.text ∈ e.forms t := by
  refine .tail _ (List.mem_map_of_mem (List.mem_append_right _ ?_))
  rw [h]
  exact List.mem_singleton.2 rfl

/-- Each form is an address of the type. -/
theorem HasAddresses.isAddressOf (haddresses : e.HasAddresses) (ht : Name.IsTypeName t)
    {address : String} (h : address ∈ e.forms t) : IsAddressOf address t := by
  rcases List.mem_cons.1 h with rfl | h
  · exact e.isAddressOf_uri t
  · obtain ⟨u, hu, rfl⟩ := List.mem_map.1 h
    rcases List.mem_append.1 hu with hu | hu
    · exact (haddresses.resolve t _ u ht (toOption_eq_some.1 (Option.mem_toList.1 hu))).1
    · exact haddresses.ofText t u ht (toOption_eq_some.1 (Option.mem_toList.1 hu))

end Emitter

/-- An address of a type is a text that ends with the system and the name, each behind a slash. -/
theorem isAddressOf_qualify {address system name : String} :
    IsAddressOf address (Name.qualify system name)
      ↔ ∃ front, address.toList = front ++ Uri.typePath system name := by
  rw [IsAddressOf, Uri.typePath_eq]

/-- Reading an address of a type gives an address of the type. -/
theorem IsAddressOf.of_parse {address t : String} {u : Uri} (h : IsAddressOf address t)
    (ht : Name.IsTypeName t) (hparse : Uri.parse address = .ok u) : IsAddressOf u.text t := by
  obtain ⟨system, name, hs, -, rfl⟩ := ht
  obtain ⟨front, hfront⟩ := isAddressOf_qualify.1 h
  exact isAddressOf_qualify.2 (Uri.exists_text_of_parse hs hfront hparse)

/-- A reference that is no fragment is read, and then resolved. -/
theorem Site.resolve_eq_ok {base u : Uri} {reference : String}
    (h : Fragment.isLocal reference = false) : Site.resolve base reference = .ok u
      ↔ ∃ r v, Uri.parse reference = .ok r ∧ base.resolve r = .ok v ∧ v.normalized = u := by
  unfold resolve
  rw [h, Bool.false_and, if_neg Bool.false_ne_true]
  cases Uri.parse reference with
  | error f => simp
  | ok r =>
      unfold resolveAt
      cases hresolve : base.resolve r with
      | error f => simp [hresolve]
      | ok v => simp [hresolve]

/-! ## Domains with a scheme -/

/-- A domain that begins with a scheme and has no fragment. -/
structure IsAbsoluteDomain (domain : String) : Prop where
  scheme : ∃ scheme rest, domain.toList = scheme ++ ':' :: rest
    ∧ ∀ c ∈ scheme, Uri.isSchemeChar c = true
  noFragment : '#' ∉ domain.toList

/-- A domain of the web has a scheme and no fragment. -/
theorem IsWebDomain.isAbsoluteDomain {domain : String} (h : IsWebDomain domain) :
    IsAbsoluteDomain domain := by
  obtain ⟨scheme, rest, hdomain, hscheme⟩ := h.scheme
  refine ⟨⟨scheme, '/' :: '/' :: rest, ?_, fun c hc => ?_⟩, h.noFragment⟩
  · rw [hdomain, List.append_assoc]
    rfl
  · have hletter := List.all_eq_true.1 (IsWebDomain.isLetter_of_scheme hscheme).2 c hc
    unfold Uri.isSchemeChar Ascii.isAlphanumeric
    rw [hletter]
    rfl

/-- What is left without slashes at the end stands in front. -/
theorem Name.trimEndSlashes_prefix (cs : List Char) : Name.trimEndSlashes cs <+: cs := by
  unfold Name.trimEndSlashes Name.dropSlashes
  conv_rhs => rw [← List.reverse_reverse cs]
  exact List.reverse_prefix.2 (List.dropWhile_suffix _)

namespace Emitter

variable {domain t : String}

/-- An address is the domain without the slashes at its end, a slash and the type. -/
theorem toList_uri_ofDomain : ((ofDomain domain).uri t).toList
    = Name.trimEndSlashes domain.toList ++ '/' :: t.toList := by
  unfold uri ofDomain
  rw [String.toList_append, String.toList_append, String.toList_ofList, List.append_assoc]
  rfl

section

variable (hsign : '#' ∉ domain.toList) (ht : Name.IsTypeName t)

include hsign ht

/-- It has no number sign if the domain has none. -/
theorem number_sign_notMem_uri : '#' ∉ ((ofDomain domain).uri t).toList := by
  obtain ⟨system, name, hs, hn, rfl⟩ := ht
  rw [toList_uri_ofDomain, List.mem_append, List.mem_cons, not_or, not_or]
  exact ⟨fun hmem => hsign (Name.mem_of_mem_trimEndSlashes hmem), by decide,
    Name.notMem_qualify hs hn (by decide) (by decide)⟩

/-- So a reference to it leads to another document. -/
theorem isLocal_uri_ofDomain : Fragment.isLocal ((ofDomain domain).uri t) = false :=
  decide_eq_false fun hhead => number_sign_notMem_uri hsign ht (List.mem_of_mem_head? hhead)

/-- An address is read as one that ends with the type. -/
theorem endsWithType_of_parse_uri {system name : String} (hqualified : t = Name.qualify system name)
    (hs : Name.isIdentifier system = true) (hn : Name.isIdentifier name = true) {u : Uri}
    (hparse : Uri.parse ((ofDomain domain).uri t) = .ok u) : Uri.EndsWithType system name u := by
  have hnoSign := number_sign_notMem_uri hsign ht
  have huri := @toList_uri_ofDomain domain t
  subst hqualified
  rw [← Uri.typePath_eq] at huri
  exact Uri.endsWithType_of_parse hs hn huri (Name.getLast?_trimEndSlashes _) hnoSign hparse

/-- What an address means at a base, whose path is made of octets, is an address of the type. -/
theorem isAddressOf_of_resolve {base u : Uri} (hbase : Uri.Octets base.path)
    (h : Site.resolve base ((ofDomain domain).uri t) = .ok u) :
    IsAddressOf u.text t ∧ u.fragment = none := by
  obtain ⟨r, v, hparse, hresolve, rfl⟩ := (Site.resolve_eq_ok (isLocal_uri_ofDomain hsign ht)).1 h
  obtain ⟨system, name, hs, hn, hqualified⟩ := id ht
  have hends := (endsWithType_of_parse_uri hsign ht hqualified hs hn hparse).resolve hs hn hbase
    hresolve
  refine ⟨?_, ?_⟩
  · rw [hqualified]
    exact isAddressOf_qualify.2 (hends.exists_text_normalized hs hn)
  · show v.fragment.map _ = none
    rw [hends.fragment]
    rfl

/-- What an address means at the base of schemas without one is an address of the type. -/
theorem isAddressOf_of_resolve_rootBase {u : Uri}
    (h : Site.resolve Site.rootBase ((ofDomain domain).uri t) = .ok u) :
    IsAddressOf u.text t ∧ u.fragment = none :=
  isAddressOf_of_resolve hsign ht (.plain (by decide) .nil) h

end

end Emitter

namespace IsAbsoluteDomain

variable {domain : String}

/-- A domain has a scheme if an address below it does. -/
theorem of_toList_uri (hsign : '#' ∉ domain.toList) {t : String} {scheme rest : List Char}
    (hscheme : ∀ c ∈ scheme, Uri.isSchemeChar c = true)
    (h : ((Emitter.ofDomain domain).uri t).toList = scheme ++ ':' :: rest) :
    IsAbsoluteDomain domain := by
  refine ⟨?_, hsign⟩
  obtain ⟨slashes, hdomain⟩ := Name.trimEndSlashes_prefix domain.toList
  rw [Emitter.toList_uri_ofDomain] at h
  -- The colon stands in front of the slash behind the domain.
  rcases List.append_eq_append_iff.1 h with ⟨as, has, hrest⟩ | ⟨bs, hbs, hrest⟩
  · cases as with
    | nil => cases hrest
    | cons a as =>
        obtain ⟨rfl, -⟩ := List.cons.inj hrest
        have hslash := hscheme '/' (has ▸ List.mem_append_right _ List.mem_cons_self)
        cases hslash
  · cases bs with
    | nil => cases hrest
    | cons b bs =>
        obtain ⟨rfl, -⟩ := List.cons.inj hrest
        refine ⟨scheme, bs ++ slashes, ?_, hscheme⟩
        rw [← hdomain, hbs, List.append_assoc, List.cons_append]

/-- A domain has a scheme if an address below it means an address below it at the base of schemas
without one, which has a scheme itself. -/
theorem of_resolve_rootBase (hsign : '#' ∉ domain.toList) {t t' : String}
    (ht : Name.IsTypeName t) {u : Uri}
    (h : Site.resolve Site.rootBase ((Emitter.ofDomain domain).uri t) = .ok u)
    (hu : u.text = (Emitter.ofDomain domain).uri t') : IsAbsoluteDomain domain := by
  obtain ⟨r, v, hparse, hresolve, rfl⟩ :=
    (Site.resolve_eq_ok (Emitter.isLocal_uri_ofDomain hsign ht)).1 h
  obtain ⟨-, -, hchars, rest, htext, -⟩ := Uri.parts_of_parse hparse
  -- Without a scheme the address would be resolved to one of the base, whose scheme is
  -- `json-schema`.
  cases hscheme : r.scheme with
  | some scheme =>
      rw [hscheme, Option.map_some, Option.getD_some, List.append_assoc] at htext
      exact of_toList_uri hsign (hchars scheme hscheme) htext
  | none =>
      have hv : v.scheme = some "json-schema".toList := by
        unfold Uri.resolve at hresolve
        rw [hscheme] at hresolve
        split at hresolve
        · cases hresolve
        split at hresolve
        · cases hresolve
        cases hresolve
        unfold Uri.resolveParts
        rw [hscheme, if_neg (by decide)]
        dsimp only
        split
        · rfl
        split <;> rfl
      have hnormal : v.normalized.scheme = some "json-schema".toList := by
        show v.scheme.map _ = _
        rw [hv]
        decide
      obtain ⟨rest, huri⟩ : ∃ rest, ((Emitter.ofDomain domain).uri t').toList
          = "json-schema".toList ++ ':' :: rest := by
        rw [← hu, Uri.text, String.toList_ofList, Uri.chars_eq, hnormal, Option.map_some,
          Option.getD_some, List.append_assoc]
        exact ⟨_, rfl⟩
      exact of_toList_uri hsign (List.all_eq_true.1 (by decide)) huri

variable (h : IsAbsoluteDomain domain) {t : String}

include h

/-- An address is read with a scheme. -/
theorem isSome_scheme_of_parse_uri {u : Uri}
    (hparse : Uri.parse ((Emitter.ofDomain domain).uri t) = .ok u) : u.scheme.isSome = true := by
  obtain ⟨scheme, rest, hdomain, hscheme⟩ := h.scheme
  have huri := @Emitter.toList_uri_ofDomain domain t
  rw [hdomain, Name.trimEndSlashes_append (by decide), List.append_assoc] at huri
  exact Uri.isSome_scheme_of_parse hscheme huri hparse

/-- The forms of addresses are addresses of their types. -/
theorem hasAddresses : (Emitter.ofDomain domain).HasAddresses where
  noSign := fun t ht => Emitter.number_sign_notMem_uri h.noFragment ht
  ofText := by
    intro t u ht hu
    obtain ⟨system, name, hs, hn, hqualified⟩ := id ht
    unfold Site.ofText at hu
    split at hu
    · cases hu
    · next r hparse =>
        have hends := Emitter.endsWithType_of_parse_uri h.noFragment ht hqualified hs hn hparse
        rw [if_pos (h.isSome_scheme_of_parse_uri hparse)] at hu
        cases hu
        rw [hqualified]
        exact isAddressOf_qualify.2 (hends.exists_text_normalized hs hn)
  resolve := by
    intro t base u ht hu
    have hlocal := Emitter.isLocal_uri_ofDomain h.noFragment ht
    obtain ⟨r, v, hparse, hresolve, rfl⟩ := (Site.resolve_eq_ok hlocal).1 hu
    have hscheme := h.isSome_scheme_of_parse_uri hparse
    -- A reference with a scheme means the same at every base.
    have hroot : Site.resolve Site.rootBase ((Emitter.ofDomain domain).uri t)
        = .ok v.normalized := by
      refine (Site.resolve_eq_ok hlocal).2 ⟨r, v, hparse, ?_, rfl⟩
      rw [Uri.eq_of_resolve_eq_ok hscheme hresolve]
      exact Uri.resolve_of_scheme rfl hscheme
    obtain ⟨haddress, hfragment⟩ :=
      Emitter.isAddressOf_of_resolve_rootBase h.noFragment ht hroot
    exact ⟨haddress, hfragment, hroot⟩

end IsAbsoluteDomain

end TypeCatalog
