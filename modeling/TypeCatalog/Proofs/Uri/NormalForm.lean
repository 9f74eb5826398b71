import Mathlib.Data.List.SplitBy
import TypeCatalog.Proofs.Name
import TypeCatalog.Proofs.Uri.Reading
import TypeCatalog.Uri.Resolution

/-!
# Normal forms of addresses

The address of a type ends with its system and its name, each behind a slash. Whatever stands in
front of them, the normal form of such an address ends with them too: both are letters and digits,
which have no other form, and neither is a segment of dots. The same holds for what the address
means at a base.

`Uri.normalized` maps `normalOctets` over the path and takes its segments of dots away with
`removeDots`, which `guarded` may follow with a `.` in front. `segments` cuts the path in front of
each slash, and `withoutDots` is the loop over the segments, with those that it keeps behind it.
-/

set_option autoImplicit false

namespace TypeCatalog.Uri

/-! ## Octets -/

/-- A character that begins no octet is mapped by itself. -/
theorem normalOctets_plain (f : Char → Char) {c : Char} (hc : c ≠ '%') (cs : List Char) :
    normalOctets f (c :: cs) = f c :: normalOctets f cs := by
  rw [normalOctets]
  rintro _ _ _ rfl _
  exact hc rfl

/-- Octets can be cut between any two of them. -/
theorem normalOctets_append (f : Char → Char) {cs : List Char} (h : Octets cs) (ds : List Char) :
    normalOctets f (cs ++ ds) = normalOctets f cs ++ normalOctets f ds := by
  induction h with
  | nil => rfl
  | encoded ha hb _ ih =>
      simp only [List.cons_append, normalOctets, ih]
      split
      · rfl
      · rfl
  | plain hc _ ih =>
      rw [List.cons_append, normalOctets_plain f hc, normalOctets_plain f hc, ih, List.cons_append]

/-- Characters without a percent sign are their own normal form. -/
theorem normalOctets_of_notMem {cs : List Char} (h : '%' ∉ cs) : normalOctets id cs = cs := by
  induction cs with
  | nil => rfl
  | cons c cs ih =>
      rw [List.mem_cons, not_or] at h
      rw [normalOctets_plain id (Ne.symm h.1), ih h.2, id_eq]

/-! ## Segments -/

/-- A segment of a path that stays when the segments of dots are taken away. -/
def IsKept (segment : List Char) : Prop :=
  normalOctets id segment ≠ ['/', '.'] ∧ normalOctets id segment ≠ ['/', '.', '.']

/-- Two kept segments at the end of a path stay at its end. What stays in front of them are segments
of the path, and single slashes. -/
theorem withoutDots_append {a b : List Char} (ha : IsKept a) (hb : IsKept b)
    (kept segments : List (List Char)) : ∃ front,
      withoutDots kept (segments ++ [a, b]) = front ++ [a, b]
        ∧ ∀ segment ∈ front, segment ∈ kept ∨ segment ∈ segments ∨ segment = ['/'] := by
  induction segments generalizing kept with
  | nil =>
      refine ⟨kept.reverse, ?_, fun segment h => .inl (List.mem_reverse.1 h)⟩
      simp [withoutDots, ha.1, ha.2, hb.1, hb.2]
  | cons x segments ih =>
      rw [List.cons_append, withoutDots]
      have hne : (segments ++ [a, b]).isEmpty = false := by simp
      dsimp only
      rw [hne]
      -- The segment is a single dot, it is two dots and takes a kept one away, or it is kept.
      split
      · obtain ⟨front, hfront, hmem⟩ := ih kept
        refine ⟨front, hfront, fun segment h => ?_⟩
        exact (hmem segment h).imp_right (Or.imp_left (List.mem_cons_of_mem x))
      · split
        · obtain ⟨front, hfront, hmem⟩ := ih kept.tail
          refine ⟨front, hfront, fun segment h => ?_⟩
          exact (hmem segment h).imp List.mem_of_mem_tail (Or.imp_left (List.mem_cons_of_mem x))
        · obtain ⟨front, hfront, hmem⟩ := ih (x :: kept)
          refine ⟨front, hfront, fun segment h => ?_⟩
          rcases hmem segment h with hkept | hsegment | hslash
          · rcases List.mem_cons.1 hkept with rfl | hkept
            · exact .inr (.inl List.mem_cons_self)
            · exact .inl hkept
          · exact .inr (.inl (List.mem_cons_of_mem x hsegment))
          · exact .inr (.inr hslash)

/-- A slash begins a segment, so the path can be cut there. -/
theorem segments_append (cs ds : List Char) :
    segments (cs ++ '/' :: ds) = segments cs ++ segments ('/' :: ds) := by
  unfold segments
  refine List.splitBy_append_cons ds fun x _ => ?_
  exact decide_eq_false (not_not_intro rfl)

/-- What begins with the only slash is one segment. -/
theorem segments_of_notMem {cs : List Char} (h : '/' ∉ cs) :
    segments ('/' :: cs) = ['/' :: cs] := by
  refine List.splitBy_of_isChain (List.cons_ne_nil _ _) ?_
  have hchain (c : Char) : ∀ ds : List Char, '/' ∉ ds →
      (c :: ds).IsChain fun _ d => decide (d ≠ '/') = true := by
    intro ds
    induction ds generalizing c with
    | nil => exact fun _ => .singleton c
    | cons d ds ih =>
        intro hds
        rw [List.mem_cons, not_or] at hds
        exact .cons_cons (decide_eq_true (Ne.symm hds.1)) (ih d hds.2)
  exact hchain '/' cs h

/-- The segments of octets are octets. -/
theorem octets_of_mem_segments {cs segment : List Char} (h : Octets cs)
    (hsegment : segment ∈ segments cs) : Octets segment := by
  have key (css : List (List Char)) (hchain : css.IsChain fun a b =>
      ∃ (ha : a ≠ []) (hb : b ≠ []), (decide (b.head hb ≠ '/')) = false)
      (hoctets : Octets css.flatten) : ∀ m ∈ css, Octets m := by
    induction css with
    | nil => exact fun m hm => absurd hm List.not_mem_nil
    -- No segment but the first begins without a slash, so no octet is cut in two.
    | cons a css ih =>
        cases css with
        | nil =>
            intro m hm
            rw [List.mem_singleton.1 hm]
            simpa using hoctets
        | cons b css =>
            obtain ⟨⟨-, hb, hslash⟩, hrest⟩ := List.isChain_cons_cons.1 hchain
            have hhead : b.head hb = '/' := not_not.1 (of_decide_eq_false hslash)
            obtain ⟨ds, rfl⟩ : ∃ ds, b = '/' :: ds :=
              ⟨b.tail, by rw [← hhead, List.cons_head_tail]⟩
            obtain ⟨ha, hflatten⟩ := @Octets.of_append a (ds ++ css.flatten) hoctets
            rw [List.forall_mem_cons]
            exact ⟨ha, ih hrest hflatten⟩
  refine key (segments cs)
    (List.isChain_getLast_head_splitBy (fun _ c => decide (c ≠ '/')) cs) ?_ segment hsegment
  unfold segments
  rw [List.flatten_splitBy]
  exact h

/-! ## The path of a type -/

/-- What the path of a type's address ends with: the system and the name, each behind a slash. -/
def typePath (system name : String) : List Char := '/' :: system.toList ++ '/' :: name.toList

/-- The ending of a type is its qualified name behind a slash. -/
theorem typePath_eq (system name : String) :
    typePath system name = '/' :: (Name.qualify system name).toList := by
  rw [Name.toList_qualify]
  rfl

/-- Whether a path ends as the address of a type does, with octets in front. -/
def EndsWith (system name : String) (path : List Char) : Prop :=
  ∃ front, Octets front ∧ path = front ++ typePath system name

section

variable {system name : String} (hs : Name.isIdentifier system = true)
  (hn : Name.isIdentifier name = true)

include hs

/-- An identifier has no slash. -/
theorem slash_notMem : '/' ∉ system.toList := Name.separator_notMem hs

/-- An identifier has no percent sign. -/
theorem percent_notMem : '%' ∉ system.toList :=
  Name.notMem_of_all (Name.all_isAlphanumeric hs) (by decide)

/-- An identifier behind a slash is no segment of dots. -/
theorem isKept_of_isIdentifier : IsKept ('/' :: system.toList) := by
  have hdot : '.' ∉ system.toList := Name.notMem_of_all (Name.all_isAlphanumeric hs) (by decide)
  have hnormal : normalOctets id ('/' :: system.toList) = '/' :: system.toList := by
    refine normalOctets_of_notMem ?_
    rw [List.mem_cons, not_or]
    exact ⟨by decide, percent_notMem hs⟩
  unfold IsKept
  rw [hnormal]
  constructor
  · intro h
    exact hdot (by rw [(List.cons.inj h).2]; exact List.mem_cons_self)
  · intro h
    exact hdot (by rw [(List.cons.inj h).2]; exact List.mem_cons_self)

include hn

/-- The ending of a type is its own normal form. -/
theorem normalOctets_typePath :
    normalOctets id (typePath system name) = typePath system name := by
  refine normalOctets_of_notMem ?_
  simp only [typePath, List.cons_append, List.mem_cons, List.mem_append, not_or]
  exact ⟨by decide, percent_notMem hs, by decide, percent_notMem hn⟩

/-- So the normal form of a path that ends with a type ends with it. -/
theorem EndsWith.normalOctets {path : List Char} (h : EndsWith system name path) :
    ∃ front, normalOctets id path = front ++ typePath system name := by
  obtain ⟨front, hfront, rfl⟩ := h
  rw [normalOctets_append id hfront, normalOctets_typePath hs hn]
  exact ⟨_, rfl⟩

/-- The last two segments of such a path are the system and the name. -/
theorem segments_append_typePath (front : List Char) :
    segments (front ++ typePath system name)
      = segments front ++ ['/' :: system.toList, '/' :: name.toList] := by
  have hinner : segments ('/' :: (system.toList ++ '/' :: name.toList))
      = ['/' :: system.toList, '/' :: name.toList] := by
    rw [← List.cons_append, segments_append, segments_of_notMem (slash_notMem hs),
      segments_of_notMem (slash_notMem hn)]
    rfl
  rw [typePath, List.cons_append, segments_append, hinner]

/-- Without its segments of dots a path ends as before, and what stands in front is octets where it
was. -/
theorem removeDots_append (front : List Char) : ∃ left,
    removeDots (front ++ typePath system name) = left ++ typePath system name
      ∧ (Octets front → Octets left) := by
  unfold removeDots
  split
  · rw [segments_append_typePath hs hn]
    obtain ⟨kept, hkept, hmem⟩ := withoutDots_append (isKept_of_isIdentifier hs)
      (isKept_of_isIdentifier hn) [] (segments front)
    refine ⟨kept.flatten, ?_, fun hoctets => Octets.flatten fun segment h => ?_⟩
    · rw [hkept, List.flatten_append]
      simp [typePath]
    · rcases hmem segment h with hnil | hsegment | rfl
      · cases hnil
      · exact octets_of_mem_segments hoctets hsegment
      · exact .plain (by decide) .nil
  · exact ⟨front, rfl, id⟩

/-- Taking the segments of dots away leaves the type at the end. -/
theorem EndsWith.removeDots {path : List Char} (h : EndsWith system name path) :
    EndsWith system name (removeDots path) := by
  obtain ⟨front, hfront, rfl⟩ := h
  obtain ⟨left, hleft, hoctets⟩ := removeDots_append hs hn front
  exact ⟨left, hoctets hfront, hleft⟩

omit hs hn in
/-- What may be put in front of a path leaves its end. -/
theorem guarded_append (authority : Option Authority) (front ending : List Char) : ∃ left,
    guarded authority (front ++ ending) = left ++ ending ∧ (Octets front → Octets left) := by
  unfold guarded
  split
  · exact ⟨'/' :: '.' :: front, rfl, fun h => .plain (by decide) (.plain (by decide) h)⟩
  · exact ⟨front, rfl, id⟩

omit hs hn in
/-- So does it leave a type there. -/
theorem EndsWith.guarded {path : List Char} (h : EndsWith system name path)
    (authority : Option Authority) : EndsWith system name (guarded authority path) := by
  obtain ⟨front, hfront, rfl⟩ := h
  obtain ⟨left, hleft, hoctets⟩ := guarded_append authority front (typePath system name)
  exact ⟨left, hoctets hfront, hleft⟩

/-- The text of the normal form of an address that ends with a type ends with it too. -/
theorem exists_text_normalized {u : Uri} (hquery : u.query = none) (hfragment : u.fragment = none)
    (h : EndsWith system name u.path) :
    ∃ front, u.normalized.text.toList = front ++ typePath system name := by
  obtain ⟨front, hfront⟩ := h.normalOctets hs hn
  have hpath : ∃ left, u.normalized.path = left ++ typePath system name := by
    unfold normalized
    dsimp only
    rw [hfront]
    split
    · obtain ⟨left, hleft, -⟩ := removeDots_append hs hn front
      rw [hleft]
      obtain ⟨left, hleft, -⟩ := guarded_append u.authority left (typePath system name)
      exact ⟨left, hleft⟩
    · exact ⟨front, rfl⟩
  obtain ⟨left, hleft⟩ := hpath
  have hquery' : u.normalized.query = none := by
    rw [normalized, hquery]
    rfl
  have hfragment' : u.normalized.fragment = none := by
    rw [normalized, hfragment]
    rfl
  rw [text, String.toList_ofList, chars, hleft, hquery', hfragment']
  exact ⟨_, by
    rw [Option.map_none, Option.map_none, Option.getD_none, List.append_nil, List.append_nil,
      ← List.append_assoc]⟩

end

/-! ## Resolution -/

/-- A reference with a scheme means the same at every base without a fragment. -/
theorem resolve_of_scheme {base r : Uri} (hbase : base.fragment = none)
    (hscheme : r.scheme.isSome = true) :
    base.resolve r = .ok { r with path := guarded r.authority (removeDots r.path) } := by
  have hnone : r.scheme.isNone = false := by
    rw [← Option.not_isSome, hscheme]
    rfl
  unfold resolve
  rw [hbase, hnone, Bool.and_false, Bool.false_and, if_neg (by decide), if_neg (by decide)]
  unfold resolveParts
  rw [if_pos hscheme]

/-- An address with a scheme means itself at any base, but for the segments of dots. -/
theorem eq_of_resolve_eq_ok {base r u : Uri} (hscheme : r.scheme.isSome = true)
    (h : base.resolve r = .ok u) :
    u = { r with path := guarded r.authority (removeDots r.path) } := by
  by_cases hbase : base.fragment = none
  · rw [resolve_of_scheme hbase hscheme] at h
    cases h
    rfl
  · unfold resolve at h
    rw [if_pos (Option.isSome_iff_ne_none.2 hbase)] at h
    cases h

end TypeCatalog.Uri
