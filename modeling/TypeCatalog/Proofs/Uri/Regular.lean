import TypeCatalog.Proofs.Uri.Fragments

/-!
# Number signs in addresses

A number sign stands in an address in front of the fragment and nowhere else. `Uri.IsRegular` says
this of the parts of an address, and that the path is made of octets. An address that was read is
regular, and so are its normal form and what it means at a regular base. So what documents are
fetched by has no number sign (`IsRegular.number_sign_notMem_text`).

The proof goes through the same readers as that of slashes, part by part, and then through what
makes new addresses: `Uri.normalized`, `Uri.resolve` with `mergePath`, `removeDots` and `guarded`,
and `Uri.document`, which drops the fragment.
-/

set_option autoImplicit false

namespace TypeCatalog

/-! ## Texts without number signs -/

/-- A written number has no number sign, whatever its base is. -/
theorem number_sign_notMem_toDigits (base n : Nat) : '#' ∉ Nat.toDigits base n := by
  have key (fuel n : Nat) (ds : List Char) (hds : '#' ∉ ds) :
      '#' ∉ Nat.toDigitsCore base fuel n ds := by
    induction fuel generalizing n ds with
    | zero => exact hds
    | succ fuel ih =>
        have hcons : '#' ∉ Nat.digitChar (n % base) :: ds := by
          rw [List.mem_cons, not_or]
          exact ⟨(Nat.digitChar_ne '#' rfl).symm, hds⟩
        rw [Nat.toDigitsCore]
        split
        · exact hcons
        · exact ih _ _ hcons
  exact key _ _ _ List.not_mem_nil

/-- What is put between texts is in the whole, or else one of the texts has to have it. -/
theorem notMem_intercalate {α : Type} {x : α} {sep : List α} {xss : List (List α)}
    (hsep : x ∉ sep) (h : ∀ xs ∈ xss, x ∉ xs) : x ∉ sep.intercalate xss := by
  unfold List.intercalate
  induction xss with
  | nil => exact List.not_mem_nil
  | cons xs xss ih =>
      rw [List.forall_mem_cons] at h
      cases xss with
      | nil => simpa using h.1
      | cons ys xss =>
          rw [List.intersperse_cons_cons, List.flatten_cons, List.flatten_cons, List.mem_append,
            List.mem_append, not_or, not_or]
          exact ⟨h.1, hsep, ih h.2⟩

/-- The groups of an address are digits with colons between them. -/
theorem Address6.number_sign_notMem_groupChars (groups : List Nat) :
    '#' ∉ Address6.groupChars groups := by
  refine notMem_intercalate (by decide) fun xs hxs => ?_
  obtain ⟨n, -, rfl⟩ := List.mem_map.1 hxs
  exact number_sign_notMem_toDigits 16 n

/-- So an address has no number sign. -/
theorem Address6.number_sign_notMem_chars (a : Address6) : '#' ∉ Address6.chars a := by
  unfold Address6.chars
  split
  · rw [List.mem_append, not_or]
    refine ⟨by decide, notMem_intercalate (by decide) fun xs hxs => ?_⟩
    obtain ⟨n, -, rfl⟩ := List.mem_map.1 hxs
    exact number_sign_notMem_toDigits 10 n
  · dsimp only
    split
    · exact number_sign_notMem_groupChars a
    · rw [List.mem_append, List.mem_append, not_or, not_or]
      exact ⟨⟨number_sign_notMem_groupChars _, by decide⟩, number_sign_notMem_groupChars _⟩

/-- A number sign is not the small form of another character. -/
theorem Ascii.lower_ne_number_sign {c : Char} (hc : c ≠ '#') : Ascii.lower c ≠ '#' := by
  unfold Ascii.lower
  split
  · next h =>
      intro heq
      have hn := congrArg Char.toNat heq
      have hlast : c.toNat ≤ 90 := h.2
      rw [Name.toNat_ofNat_of_lt (by omega)] at hn
      have hsign : c.toNat + 32 = 35 := hn
      have hfirst : 65 ≤ c.toNat := h.1
      omega
  · exact hc

/-- Nor is it the capital form of one. -/
theorem Ascii.upper_ne_number_sign {c : Char} (hc : c ≠ '#') : Ascii.upper c ≠ '#' := by
  unfold Ascii.upper
  split
  · next h =>
      intro heq
      have hn := congrArg Char.toNat heq
      have hlast : c.toNat ≤ 122 := h.2
      rw [Name.toNat_ofNat_of_lt (by omega)] at hn
      have hsign : c.toNat - 32 = 35 := hn
      have hfirst : 97 ≤ c.toNat := h.1
      omega
  · exact hc

/-- The capital form of a hexadecimal digit is one. -/
theorem Ascii.isHexDigit_upper {c : Char} (h : Ascii.isHexDigit c = true) :
    Ascii.isHexDigit (Ascii.upper c) = true := by
  unfold Ascii.upper
  split
  · next hsmall =>
      have hlast : c.toNat ≤ 102 := by
        unfold Ascii.isHexDigit Ascii.isDigit at h
        simp only [Bool.or_eq_true, decide_eq_true_eq] at h
        rcases h with ⟨-, hdigit⟩ | ⟨-, hlast⟩ | ⟨-, hcapital⟩
        · exact (show c.toNat ≤ 57 from hdigit).trans (by decide)
        · exact hlast
        · exact (show c.toNat ≤ 70 from hcapital).trans (by decide)
      have hfirst : 97 ≤ c.toNat := hsmall.1
      have hn : (Char.ofNat (c.toNat - 32)).toNat = c.toNat - 32 :=
        Name.toNat_ofNat_of_lt (by omega)
      unfold Ascii.isHexDigit
      simp only [Bool.or_eq_true, decide_eq_true_eq]
      refine .inr (.inr ⟨?_, ?_⟩)
      · show 65 ≤ (Char.ofNat (c.toNat - 32)).toNat
        omega
      · show (Char.ofNat (c.toNat - 32)).toNat ≤ 70
        omega
  · exact h

namespace Uri

/-- No other form of a text has a number sign if the text has none. -/
theorem number_sign_notMem_normalOctets {f : Char → Char} (hf : ∀ c, c ≠ '#' → f c ≠ '#')
    {cs : List Char} (h : '#' ∉ cs) : '#' ∉ normalOctets f cs := by
  fun_induction normalOctets f cs with
  | case1 a b cs c hc ih =>
      simp only [List.mem_cons, not_or] at h ⊢
      refine ⟨(hf c ?_).symm, ih h.2.2.2⟩
      intro heq
      rw [heq] at hc
      exact absurd hc (by decide)
  | case2 a b cs c hc ih =>
      simp only [List.mem_cons, not_or] at h ⊢
      exact ⟨by decide, (Ascii.upper_ne_number_sign (Ne.symm h.2.1)).symm,
        (Ascii.upper_ne_number_sign (Ne.symm h.2.2.1)).symm, ih h.2.2.2⟩
  | case3 c cs _ ih =>
      rw [List.mem_cons, not_or] at h ⊢
      exact ⟨(hf c (Ne.symm h.1)).symm, ih h.2⟩
  | case4 => exact List.not_mem_nil

/-! ## Authorities -/

/-- A run that may not have a number sign has none, read without octets. -/
theorem Cursor.number_sign_notMem_readPlain {allowed : Char → Bool} (hallowed : allowed '#' = false)
    (c : Cursor) : '#' ∉ (c.readPlain allowed).1 := by
  intro hmem
  have htrue := List.mem_takeWhile_imp hmem
  exact Bool.false_ne_true (hallowed.symm.trans htrue)

/-- An address of a future version has none. -/
theorem number_sign_notMem_of_readFuture {start c : Cursor} {host : Host}
    (h : readFuture start = .ok (host, c)) : '#' ∉ host.chars := by
  unfold readFuture at h
  obtain ⟨hversion, h⟩ := Result.unless_eq_ok.1 h
  obtain ⟨-, h⟩ := Result.unless_eq_ok.1 h
  obtain ⟨behindDot, hdot, h⟩ := Result.bind_eq_ok.1 h
  obtain ⟨-, h⟩ := Result.unless_eq_ok.1 h
  cases h
  -- The first character is the letter `v`, small or capital.
  have hfirst : '#' ∉ start.rest.take 1 := by
    rw [Bool.not_eq_true, Bool.not_eq_false', Bool.or_eq_true] at hversion
    rw [List.take_one]
    rcases hversion with hv | hv
    · rw [Cursor.head?_of_isAt hv]
      decide
    · rw [Cursor.head?_of_isAt hv]
      decide
  have hdigits := @Cursor.number_sign_notMem_readPlain Ascii.isHexDigit (by decide)
    (start.skip ['v'])
  have htext := @Cursor.number_sign_notMem_readPlain
    (fun d => isUnreserved d || isSubDelimiter d || d == ':') (by decide) behindDot
  simp only [Host.chars, List.cons_append, List.mem_cons, List.mem_append, not_or]
  exact ⟨by decide, ⟨⟨hfirst, hdigits⟩, by decide, htext⟩, by decide⟩

/-- A host in brackets has none. -/
theorem number_sign_notMem_of_readBracketed? {start c : Cursor} {host : Host}
    (h : readBracketed? start = .ok (some (host, c))) : '#' ∉ host.chars := by
  unfold readBracketed? at h
  split at h
  · cases h
  · next inner hinner =>
      dsimp only at h
      split at h
      · next a _ =>
          obtain ⟨found, hfound, h⟩ := Result.bind_eq_ok.1 h
          cases hfound
          obtain ⟨last, hlast, h⟩ := Result.bind_eq_ok.1 h
          cases h
          simpa [Host.chars] using Address6.number_sign_notMem_chars a
      · split at h
        · cases h
        · obtain ⟨⟨host', behind⟩, hfuture, h⟩ := Result.bind_eq_ok.1 h
          obtain ⟨last, hlast, h⟩ := Result.bind_eq_ok.1 h
          cases h
          exact number_sign_notMem_of_readFuture hfuture

/-- A port has none. -/
theorem number_sign_notMem_readPort (c : Cursor) :
    ∀ port ∈ (readPort c).1, '#' ∉ port := by
  unfold readPort
  split
  · exact nofun
  · rintro port hport
    cases hport
    exact Cursor.number_sign_notMem_readPlain (by decide) _

/-- A host with a port behind it has none, as the run that was split had none. -/
theorem number_sign_notMem_of_splitPort {start : Cursor} {run : List Char} {a : Authority}
    (hrun : '#' ∉ run) (h : splitPort start run = .ok a) : '#' ∉ a.chars := by
  unfold splitPort at h
  dsimp only at h
  split at h
  · cases h
    simpa [Authority.chars, Host.chars] using hrun
  · split at h
    · split at h
      · cases h
        have hhost : '#' ∉ run.takeWhile (· ≠ ':') :=
          fun hmem => hrun ((List.takeWhile_prefix _).subset hmem)
        have hport : '#' ∉ run.drop ((run.takeWhile (· ≠ ':')).length + 1) :=
          fun hmem => hrun (List.mem_of_mem_drop hmem)
        simp only [Authority.chars, Host.chars, Option.map_none, Option.getD_none, Option.map_some,
          Option.getD_some, List.nil_append, List.mem_append, List.mem_cons, not_or]
        exact ⟨hhost, by decide, hport⟩
      · cases h
    · cases h

/-- An authority has none if none of its parts has. -/
theorem number_sign_notMem_chars_mk {user port : Option (List Char)} {host : Host}
    (huser : ∀ cs ∈ user, '#' ∉ cs) (hhost : '#' ∉ host.chars) (hport : ∀ cs ∈ port, '#' ∉ cs) :
    '#' ∉ Authority.chars ⟨user, host, port⟩ := by
  unfold Authority.chars
  rw [List.mem_append, List.mem_append, not_or, not_or]
  refine ⟨⟨?_, hhost⟩, ?_⟩
  · cases user with
    | none => exact List.not_mem_nil
    | some cs =>
        rw [Option.map_some, Option.getD_some, List.mem_append, not_or]
        exact ⟨huser cs rfl, by decide⟩
  · cases port with
    | none => exact List.not_mem_nil
    | some cs =>
        rw [Option.map_some, Option.getD_some, List.mem_cons, not_or]
        exact ⟨by decide, hport cs rfl⟩

/-- Reading an authority takes no number sign. -/
theorem number_sign_notMem_of_readAuthority {start c : Cursor} {a : Authority}
    (h : readAuthority false start = .ok (a, c)) : '#' ∉ a.chars := by
  unfold readAuthority at h
  obtain ⟨⟨run, behindRun⟩, hrun, h⟩ := Result.bind_eq_ok.1 h
  have hnoSign : '#' ∉ run := Cursor.number_sign_notMem_of_read (by decide) hrun
  dsimp only at h
  -- The same cases as in the reading: a user with a host, a host by itself, and one in brackets.
  split at h
  · next behindSign hsign =>
      obtain ⟨bracketed, hbracketed, h⟩ := Result.bind_eq_ok.1 h
      have huser : ∀ cs ∈ some run, '#' ∉ cs := by
        rintro cs hcs
        cases hcs
        exact hnoSign
      split at h
      · next host behindHost =>
          cases h
          exact number_sign_notMem_chars_mk huser (number_sign_notMem_of_readBracketed? hbracketed)
            (number_sign_notMem_readPort _)
      · obtain ⟨⟨host, behindHost⟩, hhost, h⟩ := Result.bind_eq_ok.1 h
        obtain ⟨⟨name, behindName⟩, hname, heq⟩ := Result.map_eq_ok.1 hhost
        cases heq
        cases h
        exact number_sign_notMem_chars_mk huser
          (Cursor.number_sign_notMem_of_read (by decide) hname) (number_sign_notMem_readPort _)
  · split at h
    · obtain ⟨authority, hauthority, h⟩ := Result.bind_eq_ok.1 h
      cases h
      exact number_sign_notMem_of_splitPort hnoSign hauthority
    · obtain ⟨bracketed, hbracketed, h⟩ := Result.bind_eq_ok.1 h
      split at h
      · cases h
        exact number_sign_notMem_chars_mk nofun
          (number_sign_notMem_of_readBracketed? hbracketed) (number_sign_notMem_readPort _)
      · cases h
        exact List.not_mem_nil

/-- Another form of an authority has no number sign, either. -/
theorem Authority.number_sign_notMem_normalized {a : Authority} (h : '#' ∉ a.chars) :
    '#' ∉ a.normalized.chars := by
  obtain ⟨user, host, port⟩ := a
  unfold chars at h
  rw [List.mem_append, List.mem_append, not_or, not_or] at h
  obtain ⟨⟨huser, hhost⟩, hport⟩ := h
  refine number_sign_notMem_chars_mk ?_ ?_ ?_
  · rintro cs hcs
    obtain ⟨ds, rfl, rfl⟩ := Option.map_eq_some_iff.1 hcs
    rw [Option.map_some, Option.getD_some, List.mem_append, not_or] at huser
    exact number_sign_notMem_normalOctets (fun _ => id) huser.1
  -- A name is written in small letters, and so is an address of a future version.
  · cases host with
    | name cs => exact number_sign_notMem_normalOctets (fun _ => Ascii.lower_ne_number_sign) hhost
    | address6 a => exact hhost
    | future cs =>
        simp only [Host.normalized, Host.chars, List.cons_append, List.mem_cons, List.mem_append,
          not_or] at hhost ⊢
        refine ⟨hhost.1, fun hmem => ?_, hhost.2.2⟩
        obtain ⟨d, hd, heq⟩ := List.mem_map.1 hmem
        exact Ascii.lower_ne_number_sign (fun hsign => hhost.2.1 (hsign ▸ hd)) heq
  · rintro cs hcs
    obtain ⟨hport', -⟩ := Option.filter_eq_some_iff.1 hcs
    cases hport'
    rw [Option.map_some, Option.getD_some, List.mem_cons, not_or] at hport
    exact hport.2

/-! ## Paths -/

/-- Whether a path is made of octets and has no number sign. -/
structure IsRegularPath (path : List Char) : Prop where
  octets : Octets path
  noSign : '#' ∉ path

namespace IsRegularPath

variable {path : List Char}

/-- Segments without those of dots are segments of the path, or single slashes. -/
theorem mem_withoutDots {kept segments : List (List Char)} {segment : List Char}
    (h : segment ∈ withoutDots kept segments) :
    segment ∈ kept ∨ segment ∈ segments ∨ segment = ['/'] := by
  induction segments generalizing kept with
  | nil => exact .inl (List.mem_reverse.1 h)
  | cons x segments ih =>
      -- What two segments of dots leave at the end of a path is a single slash.
      have hslash {kept' : List (List Char)} (hkept : ∀ s ∈ kept', s ∈ kept)
          (h : segment ∈ (['/'] :: kept').reverse) :
          segment ∈ kept ∨ segment ∈ x :: segments ∨ segment = ['/'] := by
        rcases List.mem_cons.1 (List.mem_reverse.1 h) with rfl | hmem
        · exact .inr (.inr rfl)
        · exact .inl (hkept _ hmem)
      have hrest {kept' : List (List Char)} (hkept : ∀ s ∈ kept', s ∈ kept)
          (h : segment ∈ withoutDots kept' segments) :
          segment ∈ kept ∨ segment ∈ x :: segments ∨ segment = ['/'] :=
        (ih h).imp (hkept _) (Or.imp_left (List.mem_cons_of_mem x))
      rw [withoutDots] at h
      dsimp only at h
      split at h
      · split at h
        · exact hslash (fun _ => id) h
        · exact hrest (fun _ => id) h
      · split at h
        · split at h
          · exact hslash (fun _ => List.mem_of_mem_tail) h
          · exact hrest (fun _ => List.mem_of_mem_tail) h
        · rcases ih h with hmem | hmem
          · rcases List.mem_cons.1 hmem with rfl | hmem
            · exact .inr (.inl List.mem_cons_self)
            · exact .inl hmem
          · exact .inr (hmem.imp_left (List.mem_cons_of_mem x))

/-- Taking the segments of dots away keeps a path regular. -/
theorem removeDots (h : IsRegularPath path) : IsRegularPath (Uri.removeDots path) := by
  unfold Uri.removeDots
  split
  · have hsegment {segment : List Char} (hmem : segment ∈ withoutDots [] (segments path)) :
        Octets segment ∧ '#' ∉ segment := by
      rcases mem_withoutDots hmem with hnil | hsegment | rfl
      · cases hnil
      · refine ⟨octets_of_mem_segments h.octets hsegment, fun hsign => h.noSign ?_⟩
        have hflatten : (segments path).flatten = path := by
          unfold segments
          rw [List.flatten_splitBy]
        rw [← hflatten]
        exact List.mem_flatten.2 ⟨segment, hsegment, hsign⟩
      · exact ⟨.plain (by decide) .nil, by decide⟩
    refine ⟨Octets.flatten fun segment hmem => (hsegment hmem).1, fun hsign => ?_⟩
    obtain ⟨segment, hmem, hsign⟩ := List.mem_flatten.1 hsign
    exact (hsegment hmem).2 hsign
  · exact h

/-- So does what may be put in front of it. -/
theorem guarded (h : IsRegularPath path) (authority : Option Authority) :
    IsRegularPath (Uri.guarded authority path) := by
  unfold Uri.guarded
  split
  · refine ⟨.plain (by decide) (.plain (by decide) h.octets), ?_⟩
    rw [List.mem_cons, List.mem_cons, not_or, not_or]
    exact ⟨by decide, by decide, h.noSign⟩
  · exact h

/-- So does merging it with the path of a regular base. -/
theorem mergePath {base : Uri} (hbase : IsRegularPath base.path) (h : IsRegularPath path) :
    IsRegularPath (Uri.mergePath base path) := by
  obtain ⟨front, hfront, hoctets, hmem⟩ := exists_mergePath base path
  rw [hfront]
  refine ⟨(hoctets hbase.octets).append h.octets, ?_⟩
  rw [List.mem_append, not_or]
  exact ⟨fun hsign => (hmem _ hsign).elim (by decide) hbase.noSign, h.noSign⟩

/-- And so does its normal form. -/
theorem normalOctets (h : IsRegularPath path) : IsRegularPath (Uri.normalOctets id path) := by
  refine ⟨?_, number_sign_notMem_normalOctets (fun _ => id) h.noSign⟩
  have hoctets := h.octets
  clear h
  induction hoctets with
  | nil => exact .nil
  | @encoded a b cs ha hb _ ih =>
      rw [Uri.normalOctets]
      split
      · next hunreserved =>
          refine .plain (fun heq => ?_) ih
          rw [show Char.ofNat _ = '%' from heq] at hunreserved
          exact absurd hunreserved (by decide)
      · exact .encoded (Ascii.isHexDigit_upper ha) (Ascii.isHexDigit_upper hb) ih
  | plain hc _ ih =>
      rw [normalOctets_plain id hc]
      exact .plain hc ih

end IsRegularPath

/-! ## Addresses -/

/-- Whether an address has a regular path, and no number sign in front of its fragment. -/
structure IsRegular (u : Uri) : Prop where
  scheme : ∀ cs ∈ u.scheme, '#' ∉ cs
  authority : ∀ a ∈ u.authority, '#' ∉ a.chars
  path : IsRegularPath u.path
  query : ∀ cs ∈ u.query, '#' ∉ cs

/-- An address that was read is regular. -/
theorem isRegular_of_parse {text : String} {u : Uri} (h : parse text = .ok u) : u.IsRegular := by
  obtain ⟨hoctets, -, hscheme, rest, -, hrest⟩ := parts_of_parse h
  have hbehind := number_sign_notMem_of_parse h
  rw [List.mem_append, not_or] at hbehind
  refine ⟨fun cs hcs hmem => ?_, fun a ha => ?_, ⟨hoctets, hbehind.1⟩, fun cs hcs => ?_⟩
  · exact absurd (hscheme cs hcs '#' hmem) (by decide)
  · rcases hrest with ⟨hnone, -⟩ | ⟨b, i, inside, c, hsome, -, hread, -⟩
    · rw [hnone] at ha
      cases ha
    · cases hsome.symm.trans ha
      exact number_sign_notMem_of_readAuthority hread
  · have hquery := hbehind.2
    rw [show u.query = some cs from hcs, Option.map_some, Option.getD_some, List.mem_cons,
      not_or] at hquery
    exact hquery.2

namespace IsRegular

variable {base u v : Uri}

/-- An address without its fragment stays regular. -/
theorem document (h : u.IsRegular) : u.document.IsRegular :=
  ⟨h.scheme, h.authority, h.path, h.query⟩

/-- The text of a regular address without its fragment has no number sign. -/
theorem number_sign_notMem_text (h : u.IsRegular) : '#' ∉ u.document.text.toList := by
  obtain ⟨scheme, authority, path, query, fragment⟩ := u
  obtain ⟨hscheme, hauthority, hpath, hquery⟩ := h
  rw [text, String.toList_ofList, chars]
  simp only [Uri.document, List.mem_append, not_or]
  refine ⟨⟨⟨⟨?_, ?_⟩, hpath.noSign⟩, ?_⟩, List.not_mem_nil⟩
  · cases scheme with
    | none => exact List.not_mem_nil
    | some cs => simpa using hscheme cs rfl
  · cases authority with
    | none => exact List.not_mem_nil
    | some a => simpa using hauthority a rfl
  · cases query with
    | none => exact List.not_mem_nil
    | some cs => simpa using hquery cs rfl

/-- What a regular address means at a regular base is regular. -/
theorem resolve (hbase : base.IsRegular) (h : u.IsRegular) (hresolve : base.resolve u = .ok v) :
    v.IsRegular := by
  unfold Uri.resolve at hresolve
  split at hresolve
  · cases hresolve
  split at hresolve
  · cases hresolve
  cases hresolve
  suffices hparts : (resolveParts base u).IsRegular from
    ⟨hparts.scheme, hparts.authority, hparts.path.guarded _, hparts.query⟩
  unfold resolveParts
  -- The scheme, the authority, or the path of the base is taken where the address has none.
  split
  · exact ⟨h.scheme, h.authority, h.path.removeDots, h.query⟩
  split
  · exact ⟨hbase.scheme, h.authority, h.path.removeDots, h.query⟩
  split
  · refine ⟨hbase.scheme, hbase.authority, hbase.path, ?_⟩
    dsimp only
    split
    · exact h.query
    · exact hbase.query
  · refine ⟨hbase.scheme, hbase.authority, IsRegularPath.removeDots ?_, h.query⟩
    split
    · exact h.path
    · exact hbase.path.mergePath h.path

/-- The normal form of a regular address is regular. -/
theorem normalized (h : u.IsRegular) : u.normalized.IsRegular := by
  refine ⟨fun cs hcs => ?_, fun a ha => ?_, ?_, fun cs hcs => ?_⟩
  · obtain ⟨ds, hds, rfl⟩ := Option.map_eq_some_iff.1 hcs
    intro hmem
    obtain ⟨d, hd, heq⟩ := List.mem_map.1 hmem
    exact Ascii.lower_ne_number_sign (fun hsign => h.scheme ds hds (hsign ▸ hd)) heq
  · obtain ⟨b, hb, rfl⟩ := Option.map_eq_some_iff.1 ha
    exact Authority.number_sign_notMem_normalized (h.authority b hb)
  · show IsRegularPath (if _ then _ else _)
    split
    · exact h.path.normalOctets.removeDots.guarded _
    · exact h.path.normalOctets
  · obtain ⟨ds, hds, rfl⟩ := Option.map_eq_some_iff.1 hcs
    exact number_sign_notMem_normalOctets (fun _ => id) (h.query ds hds)

end IsRegular

end Uri

end TypeCatalog
