import TypeCatalog.Proofs.Uri.NormalForm

/-!
# What addresses end with

Reading an address takes the text apart, and what stands behind the authority is in its path, its
query and its fragment again. So an address that ends with a type still does so when it has been
read and written down (`exists_text_of_parse`). Without a fragment the type stands at the end of the
query if there is one, and of the path if there is none. There it stays in the normal form, and in
what the address means at a base.

`Uri.parse` reads the scheme, the authority, the path, the query and the fragment in this order,
each with a `Cursor` behind what it took. `parts_of_parse` puts the text together of them again, and
`Uri.behind` is what stands behind the authority. `EndsWithType` is about the parts, and is carried
through `normalized`, `Uri.resolve`, `guarded` and `removeDots`.
-/

set_option autoImplicit false

namespace TypeCatalog.Uri

/-! ## The parts of an address -/

/-- What stands behind the authority of an address. -/
def behind (u : Uri) : List Char :=
  u.path ++ (u.query.map ('?' :: ·)).getD [] ++ (u.fragment.map ('#' :: ·)).getD []

/-- The text of an address is its scheme, its authority, and what stands behind. -/
theorem chars_eq (u : Uri) : u.chars = (u.scheme.map (· ++ [':'])).getD []
    ++ ((u.authority.map fun a => '/' :: '/' :: a.chars).getD [] ++ u.behind) := by
  rw [chars, behind]
  simp only [List.append_assoc]

/-- A query or a fragment is read with the sign in front of it, and made of octets. -/
theorem Cursor.readBehind_eq_ok {c d : Cursor} {x : Char} {allowed : Char → Bool}
    {found : Option (List Char)} (h : c.readBehind x allowed = .ok (found, d)) :
    c.rest = (found.map (x :: ·)).getD [] ++ d.rest ∧ ∀ run ∈ found, Octets run := by
  unfold readBehind at h
  split at h
  · cases h
    exact ⟨rfl, nofun⟩
  · next next hpass =>
      obtain ⟨⟨run, last⟩, hrun, heq⟩ := Result.map_eq_ok.1 h
      cases heq
      obtain ⟨hrest, hoctets, -⟩ := read_eq_ok hrun
      refine ⟨?_, fun found hfound => ?_⟩
      · rw [pass?_eq_some hpass, hrest]
        rfl
      · cases hfound
        exact hoctets

/-- A scheme is read with the colon behind it, and has characters of a scheme only. -/
theorem readScheme_eq_ok {start c : Cursor} {scheme : Option (List Char)}
    (h : readScheme start = .ok (scheme, c)) :
    start.rest = (scheme.map (· ++ [':'])).getD [] ++ c.rest
      ∧ ∀ cs ∈ scheme, ∀ c ∈ cs, isSchemeChar c = true := by
  unfold readScheme at h
  dsimp only at h
  split at h
  · cases h
    exact ⟨rfl, nofun⟩
  · next next hpass =>
      split at h
      -- A run of characters with a colon behind it is a scheme, and any other run is left to be
      -- read as a path.
      · cases h
        have hrest : start.rest.drop (start.readPlain isSchemeChar).1.length = ':' :: c.rest :=
          Cursor.pass?_eq_some hpass
        have hprefix : (start.readPlain isSchemeChar).1 <+: start.rest := List.takeWhile_prefix _
        constructor
        · rw [Option.map_some, Option.getD_some, List.append_assoc, List.singleton_append, ← hrest]
          exact List.prefix_iff_eq_append.1 hprefix |>.symm
        · rintro cs hcs c hc
          cases hcs
          exact List.mem_takeWhile_imp hc
      · cases h

/-- A text with a colon behind characters of a scheme is read with a scheme. -/
theorem isSome_scheme_of_parse {text : String} {scheme rest : List Char} {u : Uri}
    (hscheme : ∀ c ∈ scheme, isSchemeChar c = true) (htext : text.toList = scheme ++ ':' :: rest)
    (h : parse text = .ok u) : u.scheme.isSome = true := by
  unfold parse parseWith at h
  obtain ⟨⟨found, c⟩, hfound, h⟩ := Result.bind_eq_ok.1 h
  obtain ⟨⟨authority, c₁⟩, -, h⟩ := Result.bind_eq_ok.1 h
  obtain ⟨⟨path, c₂⟩, -, h⟩ := Result.bind_eq_ok.1 h
  obtain ⟨⟨query, c₃⟩, -, h⟩ := Result.bind_eq_ok.1 h
  obtain ⟨⟨fragment, c₄⟩, -, h⟩ := Result.bind_eq_ok.1 h
  obtain ⟨-, h⟩ := Result.unless_eq_ok.1 h
  cases h
  -- The run that is read as the scheme stops at the colon.
  have hrun : (scheme ++ ':' :: rest).takeWhile isSchemeChar = scheme := by
    rw [List.takeWhile_append_of_pos hscheme, List.takeWhile_cons_of_neg (by decide),
      List.append_nil]
  have hplain : Cursor.readPlain isSchemeChar ⟨0, scheme ++ ':' :: rest⟩
      = (scheme, Cursor.skip ⟨0, scheme ++ ':' :: rest⟩ scheme) := by
    rw [Cursor.readPlain, hrun]
  rw [htext, readScheme, hplain] at hfound
  dsimp only at hfound
  rw [Cursor.pass?_of_rest (by rw [Cursor.rest_skip, List.drop_left])] at hfound
  dsimp only at hfound
  split at hfound
  · cases hfound
    rfl
  · cases hfound

/-- The text of an address in its parts. Where it has an authority, this was read behind two
slashes. -/
theorem parts_of_parse {text : String} {u : Uri} (h : parse text = .ok u) :
    Octets u.path ∧ (∀ query ∈ u.query, Octets query)
      ∧ (∀ cs ∈ u.scheme, ∀ c ∈ cs, isSchemeChar c = true)
      ∧ ∃ rest, text.toList = (u.scheme.map (· ++ [':'])).getD [] ++ rest
        ∧ (u.authority = none ∧ rest = u.behind
          ∨ ∃ a i inside c, u.authority = some a ∧ rest = '/' :: '/' :: inside
            ∧ readAuthority false ⟨i, inside⟩ = .ok (a, c) ∧ c.rest = u.behind) := by
  unfold parse parseWith at h
  obtain ⟨⟨scheme, c⟩, hscheme, h⟩ := Result.bind_eq_ok.1 h
  obtain ⟨⟨authority, c₁⟩, hauthority, h⟩ := Result.bind_eq_ok.1 h
  obtain ⟨⟨path, c₂⟩, hpath, h⟩ := Result.bind_eq_ok.1 h
  obtain ⟨⟨query, c₃⟩, hquery, h⟩ := Result.bind_eq_ok.1 h
  obtain ⟨⟨fragment, c₄⟩, hfragment, h⟩ := Result.bind_eq_ok.1 h
  obtain ⟨hempty, h⟩ := Result.unless_eq_ok.1 h
  cases h
  rw [Bool.not_eq_true, Bool.not_eq_false', List.isEmpty_iff] at hempty
  obtain ⟨htext, hchars⟩ := readScheme_eq_ok hscheme
  obtain ⟨hrest, hoctets⟩ := readPath_eq_ok hpath
  obtain ⟨hrest', hoctets'⟩ := Cursor.readBehind_eq_ok hquery
  obtain ⟨hrest'', -⟩ := Cursor.readBehind_eq_ok hfragment
  -- Nothing is left behind the fragment.
  have hbehind : c₁.rest = behind ⟨scheme, authority, path, query, fragment⟩ := by
    rw [hrest, hrest', hrest'', hempty, List.append_nil, behind, List.append_assoc]
  refine ⟨hoctets, hoctets', hchars, c.rest, htext, ?_⟩
  unfold readAuthority? at hauthority
  split at hauthority
  · next hslashes =>
      obtain ⟨⟨a, last⟩, ha, heq⟩ := Result.map_eq_ok.1 hauthority
      cases heq
      refine .inr ⟨a, _, c.rest.drop 2, _, rfl, ?_, ha, hbehind⟩
      conv_lhs => rw [← List.take_append_drop 2 c.rest, hslashes]
      rfl
  · cases hauthority
    exact .inl ⟨rfl, hbehind⟩

/-! ## Endings -/

/-- Characters that mean nothing else are read up to a slash. -/
theorem octetRun_of_all {allowed : Char → Bool} (hslash : allowed '/' = false) (index : Nat)
    {cs : List Char} (hcs : ∀ c ∈ cs, allowed c = true ∧ c ≠ '%') (ds : List Char) :
    octetRun allowed index (cs ++ '/' :: ds) = .ok (cs, '/' :: ds) := by
  have hstep {c : Char} {index : Nat} {rest : List Char} (hc : c ≠ '%') :
      octetRun allowed index (c :: rest) = if allowed c then
        (octetRun allowed (index + c.utf8Size) rest).map fun found => (c :: found.1, found.2)
      else .ok ([], c :: rest) := by
    rw [octetRun, if_neg hc]
    rintro _ _ _ rfl _
    exact hc rfl
  induction cs generalizing index with
  | nil => rw [List.nil_append, hstep (by decide), hslash, if_neg Bool.false_ne_true]
  | cons c cs ih =>
      rw [List.forall_mem_cons] at hcs
      rw [List.cons_append, hstep hcs.1.2, if_pos hcs.1.1, ih _ hcs.2]
      rfl

section

variable {system name : String} (hs : Name.isIdentifier system = true)

include hs

/-- Behind two slashes the system of a type is a host. -/
theorem readAuthority_identifier (index : Nat) (rest : List Char) :
    ∃ i, readAuthority false ⟨index, system.toList ++ '/' :: rest⟩
      = .ok (⟨none, .name system.toList, none⟩, ⟨i, '/' :: rest⟩) := by
  have hall := Name.all_isAlphanumeric hs
  -- The characters of the system may stand in a host, and the slash ends them.
  obtain ⟨i, hread⟩ : ∃ i, Cursor.read (fun d => isNameChar false d || d == ':')
      ⟨index, system.toList ++ '/' :: rest⟩ = .ok (system.toList, ⟨i, '/' :: rest⟩) := by
    refine ⟨index + Ascii.byteCount system.toList, ?_⟩
    unfold Cursor.read
    rw [octetRun_of_all (by decide)]
    · show Except.ok (system.toList, Cursor.mk _ (List.drop _ _)) = _
      rw [List.drop_left]
    · intro c hc
      refine ⟨?_, fun heq => Name.notMem_of_all hall (by decide) (heq ▸ hc)⟩
      have hletter : Ascii.isAlphanumeric c = true := by
        have hname := List.all_eq_true.1 hall c hc
        simp only [Name.isAlphanumeric, Name.isLowerCase, Name.isUpperCase, Name.isDigit,
          Bool.or_eq_true, decide_eq_true_eq] at hname
        simpa only [Ascii.isAlphanumeric, Ascii.isLetter, Ascii.isDigit, Bool.or_eq_true,
          decide_eq_true_eq] using hname
      unfold isNameChar isUnreserved
      rw [hletter]
      rfl
  have hne : system.toList.isEmpty = false :=
    List.isEmpty_eq_false_iff.2 (Name.toList_ne_nil_of_isIdentifier hs)
  refine ⟨i, ?_⟩
  unfold readAuthority
  rw [hread]
  show (if !system.toList.isEmpty then _ else _) = _
  rw [hne]
  show (splitPort _ system.toList >>= _) = _
  unfold splitPort
  dsimp only
  rw [if_pos (List.count_eq_zero.2 (Name.notMem_of_all hall (by decide)))]
  rfl

/-- What stands behind a type in a text stands behind it in what is read behind the authority. Where
the last slash of two in front of an authority belongs to the type, the authority is the system. -/
theorem exists_behind_of_parse {text : String} {u : Uri} {front tail : List Char}
    (htext : text.toList = front ++ typePath system name ++ tail) (h : parse text = .ok u) :
    (∃ passed left, front = passed ++ left ∧ u.behind = left ++ typePath system name ++ tail)
      ∨ front.getLast? = some '/'
        ∧ ∃ left, u.text.toList = left ++ typePath system name ++ tail := by
  obtain ⟨-, -, hchars, rest, hparts, hrest⟩ := parts_of_parse h
  have hslash : '/' ∉ (u.scheme.map (· ++ [':'])).getD [] := by
    cases hscheme : u.scheme with
    | none => exact List.not_mem_nil
    | some cs =>
        rw [Option.map_some, Option.getD_some, List.mem_append, not_or]
        exact ⟨fun hmem => Bool.false_ne_true (hchars cs hscheme '/' hmem), by decide⟩
  rw [typePath_eq, List.append_assoc, List.cons_append] at htext
  obtain ⟨middle, hmiddle⟩ :
      ∃ middle, rest = middle ++ '/' :: ((Name.qualify system name).toList ++ tail) :=
    Passes.append ⟨_, hslash, htext ▸ hparts⟩
  rw [htext, hmiddle, ← List.append_assoc] at hparts
  have hfront := List.append_cancel_right hparts
  rw [typePath_eq]
  -- Without an authority all of the rest is read as the path, and with one the two slashes in front
  -- of it have to be placed.
  rcases hrest with ⟨-, hbehind⟩ | ⟨a, i, inside, c, hsome, hslashes, ha, hbehind⟩
  · refine .inl ⟨_, middle, hfront, ?_⟩
    rw [← hbehind, hmiddle, List.append_assoc]
    rfl
  · rw [hmiddle] at hslashes
    -- The two slashes stand in front of the type, or the second one or both of them belong to it.
    rcases middle with _ | ⟨x, _ | ⟨y, middle⟩⟩
    · -- A system does not begin with a slash.
      obtain ⟨d, ds, hds⟩ := List.exists_cons_of_ne_nil (Name.toList_ne_nil_of_isIdentifier hs)
      rw [Name.toList_qualify, hds] at hslashes
      obtain rfl : d = '/' := (List.cons.inj (List.cons.inj hslashes).2).1
      exact absurd (hds ▸ List.mem_cons_self) (Name.separator_notMem hs)
    · obtain ⟨hx, hinside⟩ := List.cons.inj hslashes
      refine .inr ⟨by rw [hfront, hx, List.getLast?_concat], ?_⟩
      obtain rfl := (List.cons.inj hinside).2
      obtain ⟨j, hread⟩ := readAuthority_identifier hs i (name.toList ++ tail)
      rw [Name.toList_qualify, Name.separator, List.append_assoc, List.cons_append, hread] at ha
      cases ha
      rw [Uri.text, String.toList_ofList, chars_eq, hsome, ← hbehind, Option.map_some,
        Option.getD_some]
      refine ⟨(u.scheme.map (· ++ [':'])).getD [] ++ ['/'], ?_⟩
      rw [List.append_assoc, List.append_assoc, List.singleton_append, Name.toList_qualify]
      simp [Authority.chars, Host.chars, Name.separator]
    · obtain ⟨hx, hinside⟩ := List.cons.inj hslashes
      obtain ⟨hy, hinside⟩ := List.cons.inj hinside
      obtain ⟨passed, hpassed, heq⟩ := passes_of_readAuthority ha
      obtain ⟨left, hleft⟩ := Passes.append ⟨passed, hpassed, hinside.trans heq⟩
      have hmiddleParts : middle = passed ++ left := by
        have hall := hinside.trans (heq.trans (congrArg (passed ++ ·) hleft))
        rw [← List.append_assoc] at hall
        exact List.append_cancel_right hall
      refine .inl ⟨(u.scheme.map (· ++ [':'])).getD [] ++ x :: y :: passed, left, ?_, ?_⟩
      · rw [hfront, hmiddleParts, List.append_assoc]
        rfl
      · rw [← hbehind, hleft, List.append_assoc]
        rfl

/-- Reading an address keeps what it ends with, if that is a type. -/
theorem exists_text_of_parse {text : String} {u : Uri} {front : List Char}
    (htext : text.toList = front ++ typePath system name) (h : parse text = .ok u) :
    ∃ front, u.text.toList = front ++ typePath system name := by
  rw [← List.append_nil (front ++ typePath system name)] at htext
  rcases exists_behind_of_parse hs htext h with ⟨-, left, -, hleft⟩ | ⟨-, left, hleft⟩
  · rw [Uri.text, String.toList_ofList, chars_eq, hleft, List.append_nil, ← List.append_assoc,
      ← List.append_assoc]
    exact ⟨_, rfl⟩
  · rw [List.append_nil] at hleft
    exact ⟨left, hleft⟩

end

/-- Whether an address without a fragment ends with a type. -/
structure EndsWithType (system name : String) (u : Uri) : Prop where
  fragment : u.fragment = none
  ending : EndsWith system name (u.query.getD u.path)

section

variable {system name : String} (hs : Name.isIdentifier system = true)
  (hn : Name.isIdentifier name = true)

include hs hn

/-- Where the path and the query of an address end with a type, the query does, or the path if there
is no query. -/
theorem endsWith_of_parts {u : Uri} {left : List Char} (hpath : Octets u.path)
    (hquery : ∀ query ∈ u.query, Octets query)
    (h : u.path ++ (u.query.map ('?' :: ·)).getD [] = left ++ typePath system name) :
    EndsWith system name (u.query.getD u.path) := by
  cases hfound : u.query with
  | none =>
      rw [hfound, Option.map_none, Option.getD_none, List.append_nil] at h
      rw [Option.getD_none, h]
      rw [h, typePath, List.cons_append] at hpath
      exact ⟨left, hpath.of_append.1, rfl⟩
  | some cs =>
      have hcs := hquery cs hfound
      rw [hfound, Option.map_some, Option.getD_some] at h
      rw [Option.getD_some]
      -- The question mark in front of the query is none of the type.
      have hmark : '?' ∉ typePath system name := by
        rw [typePath, List.cons_append, List.mem_cons, List.mem_append, List.mem_cons,
          not_or, not_or,
          not_or]
        exact ⟨by decide, Name.notMem_of_all (Name.all_isAlphanumeric hs) (by decide), by decide,
          Name.notMem_of_all (Name.all_isAlphanumeric hn) (by decide)⟩
      rcases List.append_eq_append_iff.1 h with ⟨as, -, has⟩ | ⟨bs, -, hbs⟩
      · cases as with
        | nil =>
            rw [List.nil_append] at has
            exact absurd (has ▸ List.mem_cons_self) hmark
        | cons a as =>
            obtain ⟨-, rfl⟩ := List.cons.inj has
            rw [typePath, List.cons_append] at hcs
            exact ⟨as, hcs.of_append.1, rfl⟩
      · exact absurd (hbs ▸ List.mem_append_right _ List.mem_cons_self) hmark

/-- An address whose text ends with a type ends with it when it has been read, unless the system
stands behind two slashes. -/
theorem endsWithType_of_parse {text : String} {u : Uri} {front : List Char}
    (htext : text.toList = front ++ typePath system name) (hfront : front.getLast? ≠ some '/')
    (hsign : '#' ∉ text.toList) (h : parse text = .ok u) : EndsWithType system name u := by
  obtain ⟨hpath, hquery, -, rest, hparts, hrest⟩ := parts_of_parse h
  rw [← List.append_nil (front ++ typePath system name)] at htext
  obtain ⟨-, left, -, hleft⟩ :=
    (exists_behind_of_parse hs htext h).resolve_right fun hlast => hfront hlast.1
  rw [List.append_nil] at hleft
  have hnone : u.fragment = none := by
    cases hfragment : u.fragment with
    | none => rfl
    | some cs =>
        refine absurd ?_ hsign
        have hmem : '#' ∈ u.behind := by
          rw [behind, hfragment]
          exact List.mem_append_right _ List.mem_cons_self
        rw [hparts]
        refine List.mem_append_right _ ?_
        rcases hrest with ⟨-, hbehind⟩ | ⟨a, i, inside, c, -, hslashes, ha, hbehind⟩
        · rwa [hbehind]
        · obtain ⟨passed, -, hinside⟩ := passes_of_readAuthority ha
          rw [hslashes, show inside = _ from hinside, hbehind]
          exact .tail _ (.tail _ (List.mem_append_right _ hmem))
  rw [behind, hnone, Option.map_none, Option.getD_none, List.append_nil] at hleft
  exact ⟨hnone, endsWith_of_parts hs hn hpath hquery hleft⟩

/-- The normal form of an address that ends with a type is written with the type at its end. -/
theorem EndsWithType.exists_text_normalized {u : Uri} (h : EndsWithType system name u) :
    ∃ front, u.normalized.text.toList = front ++ typePath system name := by
  obtain ⟨hfragment, hending⟩ := h
  cases hquery : u.query with
  | none =>
      rw [hquery, Option.getD_none] at hending
      exact Uri.exists_text_normalized hs hn hquery hfragment hending
  | some cs =>
      rw [hquery, Option.getD_some] at hending
      obtain ⟨front, hfront⟩ := hending.normalOctets hs hn
      have hfragment' : u.normalized.fragment = none := by
        rw [normalized, hfragment]
        rfl
      have hquery' : u.normalized.query = some (front ++ typePath system name) := by
        rw [normalized, hquery, Option.map_some, hfront]
      rw [Uri.text, String.toList_ofList, chars, hquery', hfragment', Option.map_some,
        Option.getD_some, Option.map_none, Option.getD_none, List.append_nil, ← List.cons_append,
        ← List.append_assoc]
      exact ⟨_, rfl⟩

omit hs hn in
/-- An address with the same query ends with a type if its path does. -/
theorem EndsWithType.imp {u v : Uri} (h : EndsWithType system name u) (hquery : v.query = u.query)
    (hfragment : v.fragment = u.fragment)
    (hpath : EndsWith system name u.path → EndsWith system name v.path) :
    EndsWithType system name v := by
  refine ⟨hfragment.trans h.fragment, ?_⟩
  have hending := h.ending
  rw [hquery]
  cases hfound : u.query with
  | none =>
      rw [hfound, Option.getD_none] at hending
      exact hpath hending
  | some cs =>
      rw [hfound, Option.getD_some] at hending
      exact hending

omit hs hn in
/-- A relative path stands behind what is left of the path of the base. -/
theorem exists_mergePath (base : Uri) (path : List Char) : ∃ front,
    mergePath base path = front ++ path ∧ (Octets base.path → Octets front)
      ∧ ∀ c ∈ front, c = '/' ∨ c ∈ base.path := by
  unfold mergePath
  split
  · exact ⟨['/'], rfl, fun _ => .plain (by decide) .nil, fun c hc => .inl (List.mem_singleton.1 hc)⟩
  · have hfront : (base.path.reverse.dropWhile (· ≠ '/')).reverse <+: base.path := by
      rw [← List.reverse_reverse base.path, List.reverse_prefix, List.reverse_reverse]
      exact List.dropWhile_suffix _
    refine ⟨_, rfl, fun hoctets => ?_, fun c hc => .inr (hfront.subset hc)⟩
    -- What is left ends with a slash, which divides octets.
    obtain ⟨rest, hrest⟩ := hfront
    cases hleft : base.path.reverse.dropWhile (· ≠ '/') with
    | nil => exact .nil
    | cons c cs =>
        have hhead := List.head?_dropWhile_not (· ≠ '/') base.path.reverse
        rw [hleft] at hhead
        obtain rfl : c = '/' := by simpa using hhead
        rw [hleft, List.reverse_cons, List.append_assoc] at hrest
        rw [← hrest] at hoctets
        rw [List.reverse_cons]
        exact hoctets.of_append.1.append (.plain (by decide) .nil)

/-- What an address that ends with a type means at a base ends with it too, if the path of the base
is made of octets. -/
theorem EndsWithType.resolve {base u v : Uri} (hbase : Octets base.path)
    (h : EndsWithType system name u) (hresolve : base.resolve u = .ok v) :
    EndsWithType system name v := by
  unfold Uri.resolve at hresolve
  split at hresolve
  · cases hresolve
  split at hresolve
  · cases hresolve
  cases hresolve
  suffices hparts : EndsWithType system name (resolveParts base u) from
    hparts.imp rfl rfl fun hpath => hpath.guarded _
  -- The path is that of the address, or it is merged with the path of the base, whose parts stand
  -- in front.
  unfold resolveParts
  split
  · exact h.imp rfl rfl fun hpath => hpath.removeDots hs hn
  split
  · exact h.imp rfl rfl fun hpath => hpath.removeDots hs hn
  split
  · next hempty =>
      -- With an empty path it is the query that ends with the type.
      obtain ⟨cs, hcs⟩ : ∃ cs, u.query = some cs := by
        cases hquery : u.query with
        | some cs => exact ⟨cs, rfl⟩
        | none =>
            obtain ⟨front, -, hfront⟩ := h.ending
            rw [hquery, Option.getD_none, List.isEmpty_iff.1 hempty, eq_comm,
              List.append_eq_nil_iff] at hfront
            cases hfront.2
      refine h.imp ?_ rfl fun hpath => ?_
      · dsimp only
        rw [hcs, Option.isSome_some, if_pos rfl]
      · obtain ⟨front, -, hfront⟩ := hpath
        rw [List.isEmpty_iff.1 hempty, eq_comm, List.append_eq_nil_iff] at hfront
        cases hfront.2
  · refine h.imp rfl rfl fun hpath => EndsWith.removeDots hs hn ?_
    split
    · exact hpath
    · obtain ⟨front, hfront, heq⟩ := hpath
      obtain ⟨left, hleft, hoctets, -⟩ := exists_mergePath base u.path
      exact ⟨left ++ front, (hoctets hbase).append hfront, by rw [hleft, heq, List.append_assoc]⟩

end

end TypeCatalog.Uri
