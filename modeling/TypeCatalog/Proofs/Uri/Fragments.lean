import TypeCatalog.Proofs.Uri.Endings

/-!
# Addresses with fragments

The first number sign of an address begins the fragment, since no other part may hold one. So an
address that ends with a type and has a fragment behind it is read as such: without the fragment it
still ends with the type (`endsWithType_document_of_parse`).

The characters of each part are those that `Uri.octetRun` allows, and `#` is none of them.
`notMem_of_octetRun` says so of a run, and `number_sign_notMem_of_parse` of the path and the query
that `Uri.parse` reads.
-/

set_option autoImplicit false

namespace TypeCatalog.Uri

/-! ## Number signs -/

/-- What is not allowed is not read, unless it may stand in an octet. -/
theorem notMem_of_octetRun {allowed : Char → Bool} {d : Char} (hd : allowed d = false)
    (hhex : Ascii.isHexDigit d = false) (hpercent : d ≠ '%') {index : Nat}
    {cs run rest : List Char} (h : octetRun allowed index cs = .ok (run, rest)) : d ∉ run := by
  fun_induction octetRun allowed index cs generalizing run rest with
  | case1 index =>
      cases h
      exact List.not_mem_nil
  -- The two digits of an octet are no signs.
  | case2 index a b cs hdigits ih =>
      obtain ⟨⟨run', rest'⟩, hrun, heq⟩ := Result.map_eq_ok.1 h
      cases heq
      obtain ⟨ha, hb⟩ := Bool.and_eq_true_iff.1 hdigits
      simp only [List.mem_cons, not_or]
      refine ⟨hpercent, ?_, ?_, ih hrun⟩
      · rintro rfl
        exact Bool.false_ne_true (hhex.symm.trans ha)
      · rintro rfl
        exact Bool.false_ne_true (hhex.symm.trans hb)
  | case3 => cases h
  | case4 => cases h
  | case5 index c cs _ hc hallowed ih =>
      obtain ⟨⟨run', rest'⟩, hrun, heq⟩ := Result.map_eq_ok.1 h
      cases heq
      rw [List.mem_cons, not_or]
      refine ⟨?_, ih hrun⟩
      rintro rfl
      exact Bool.false_ne_true (hd.symm.trans hallowed)
  | case6 index c cs =>
      cases h
      exact List.not_mem_nil

/-- A run that may not have a number sign has none. -/
theorem Cursor.number_sign_notMem_of_read {allowed : Char → Bool} (hallowed : allowed '#' = false)
    {c d : Cursor} {run : List Char} (h : c.read allowed = .ok (run, d)) : '#' ∉ run := by
  obtain ⟨⟨found, rest⟩, hrun, heq⟩ := Result.map_eq_ok.1 h
  cases heq
  exact notMem_of_octetRun hallowed (by decide) (by decide) hrun

/-- Neither a path nor a query has a number sign. -/
theorem number_sign_notMem_of_parse {text : String} {u : Uri} (h : parse text = .ok u) :
    '#' ∉ u.path ++ (u.query.map ('?' :: ·)).getD [] := by
  unfold parse parseWith at h
  obtain ⟨⟨scheme, c⟩, -, h⟩ := Result.bind_eq_ok.1 h
  obtain ⟨⟨authority, c₁⟩, -, h⟩ := Result.bind_eq_ok.1 h
  obtain ⟨⟨path, c₂⟩, hpath, h⟩ := Result.bind_eq_ok.1 h
  obtain ⟨⟨query, c₃⟩, hquery, h⟩ := Result.bind_eq_ok.1 h
  obtain ⟨⟨fragment, c₄⟩, -, h⟩ := Result.bind_eq_ok.1 h
  obtain ⟨-, h⟩ := Result.unless_eq_ok.1 h
  cases h
  rw [List.mem_append, not_or]
  constructor
  -- A path behind a slash, after an authority, or of a relative address is read by different rules,
  -- and none of them takes a number sign.
  · unfold readPath at hpath
    split at hpath
    · obtain ⟨⟨run, behind⟩, hrun, hpath⟩ := Result.bind_eq_ok.1 hpath
      obtain ⟨-, hpath⟩ := Result.unless_eq_ok.1 hpath
      cases hpath
      exact Cursor.number_sign_notMem_of_read (by decide) hrun
    · split at hpath
      · exact Cursor.number_sign_notMem_of_read (by decide) hpath
      · obtain ⟨⟨first, behind⟩, hfirst, hpath⟩ := Result.bind_eq_ok.1 hpath
        obtain ⟨-, hpath⟩ := Result.unless_eq_ok.1 hpath
        obtain ⟨⟨others, last⟩, hothers, hpath⟩ := Result.bind_eq_ok.1 hpath
        cases hpath
        rw [List.mem_append, not_or]
        exact ⟨Cursor.number_sign_notMem_of_read (by decide) hfirst,
          Cursor.number_sign_notMem_of_read (by decide) hothers⟩
  · unfold Cursor.readBehind at hquery
    split at hquery
    · cases hquery
      exact List.not_mem_nil
    · obtain ⟨⟨run, last⟩, hrun, heq⟩ := Result.map_eq_ok.1 hquery
      cases heq
      rw [Option.map_some, Option.getD_some, List.mem_cons, not_or]
      exact ⟨by decide, Cursor.number_sign_notMem_of_read (by decide) hrun⟩

/-! ## Endings -/

/-- An address with a type in front of the fragment ends with the type without the fragment. -/
theorem endsWithType_document_of_parse {system name : String}
    (hs : Name.isIdentifier system = true) (hn : Name.isIdentifier name = true) {text : String}
    {u : Uri} {front tail : List Char}
    (htext : text.toList = front ++ typePath system name ++ tail)
    (hfront : front.getLast? ≠ some '/') (hsign : '#' ∉ front)
    (htail : tail = [] ∨ tail.head? = some '#') (h : parse text = .ok u) :
    EndsWithType system name u.document := by
  obtain ⟨hpath, hquery, -⟩ := parts_of_parse h
  obtain ⟨passed, left, rfl, hbehind⟩ :=
    (exists_behind_of_parse hs htext h).resolve_right fun hlast => hfront hlast.1
  have hnoSign := number_sign_notMem_of_parse h
  have hleft : '#' ∉ left ++ typePath system name := by
    rw [List.mem_append, not_or] at hsign ⊢
    refine ⟨hsign.2, ?_⟩
    rw [typePath_eq, List.mem_cons, not_or]
    exact ⟨by decide, Name.notMem_qualify hs hn (by decide) (by decide)⟩
  -- The first number sign stands at the same place on both sides.
  have hparts : u.path ++ (u.query.map ('?' :: ·)).getD [] = left ++ typePath system name := by
    unfold behind at hbehind
    cases hfragment : u.fragment with
    | none =>
        rw [hfragment, Option.map_none, Option.getD_none, List.append_nil] at hbehind
        rcases htail with rfl | htail
        · rwa [List.append_nil] at hbehind
        · rw [hbehind] at hnoSign
          exact absurd (List.mem_append_right _ (List.mem_of_mem_head? htail)) hnoSign
    | some cs =>
        rw [hfragment, Option.map_some, Option.getD_some] at hbehind
        rcases htail with rfl | htail
        · rw [List.append_nil] at hbehind
          rw [← hbehind] at hleft
          exact absurd (List.mem_append_right _ List.mem_cons_self) hleft
        · rw [← List.cons_head?_tail htail] at hbehind
          exact (Name.append_cons_inj hnoSign hleft hbehind).1
  exact ⟨rfl, endsWith_of_parts hs hn hpath hquery hparts⟩

end TypeCatalog.Uri
