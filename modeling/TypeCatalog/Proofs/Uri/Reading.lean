import Mathlib.Data.List.TakeWhile
import TypeCatalog.Proofs.Result
import TypeCatalog.Uri.Reader

/-!
# What reading an address takes from the text

An address is read from the front of a text, and each part takes some of the characters. No part of
an authority takes a slash, so the path of an absolute address begins at the first slash behind the
authority. Where the text holds no question mark and no number sign, the path is all of the rest.

`Octets` says of some characters that every percent sign among them begins an octet, which is so
for every run of characters that was read.

`Uri.parse` and what it calls are written over a `Cursor`, which holds the characters that are left.
`Passes` relates what was left before to what is left behind and says that no slash was taken. Each
reader of a part gets one lemma: `Cursor.read`, `Address6.read`, `readFuture`, `readBracketed?`,
`readPort` and `readAuthority`, in the order in which they call each other.
-/

set_option autoImplicit false

namespace TypeCatalog.Uri

/-! ## Octets -/

/-- Characters of which every percent sign begins an octet. -/
inductive Octets : List Char → Prop where
  | nil : Octets []
  | encoded {a b : Char} {cs : List Char} (ha : Ascii.isHexDigit a = true)
      (hb : Ascii.isHexDigit b = true) (hcs : Octets cs) : Octets ('%' :: a :: b :: cs)
  | plain {c : Char} {cs : List Char} (hc : c ≠ '%') (hcs : Octets cs) : Octets (c :: cs)

namespace Octets

/-- Octets behind octets are octets. -/
theorem append {cs ds : List Char} (hcs : Octets cs) (hds : Octets ds) : Octets (cs ++ ds) := by
  induction hcs with
  | nil => exact hds
  | encoded ha hb _ ih => exact .encoded ha hb ih
  | plain hc _ ih => exact .plain hc ih

/-- So are any number of them behind each other. -/
theorem flatten {css : List (List Char)} (h : ∀ cs ∈ css, Octets cs) : Octets css.flatten := by
  induction css with
  | nil => exact .nil
  | cons cs css ih =>
      rw [List.forall_mem_cons] at h
      exact h.1.append (ih h.2)

/-- An octet has no slash, and so a slash divides octets. -/
theorem of_append {cs ds : List Char} (h : Octets (cs ++ '/' :: ds)) :
    Octets cs ∧ Octets ('/' :: ds) := by
  generalize hall : cs ++ '/' :: ds = all at h
  induction h generalizing cs with
  | nil => simp at hall
  | @encoded a b es ha hb hes ih =>
      -- The slash is none of the three characters of an octet.
      rcases cs with _ | ⟨c, _ | ⟨d, _ | ⟨e, cs⟩⟩⟩
      · cases hall
      · cases hall
        cases ha
      · cases hall
        cases hb
      · simp only [List.cons_append, List.cons.injEq] at hall
        obtain ⟨rfl, rfl, rfl, hall⟩ := hall
        obtain ⟨hcs, hds⟩ := ih hall
        exact ⟨.encoded ha hb hcs, hds⟩
  | @plain c es hc hes ih =>
      rcases cs with _ | ⟨d, cs⟩
      · cases hall
        exact ⟨.nil, .plain hc hes⟩
      · simp only [List.cons_append, List.cons.injEq] at hall
        obtain ⟨rfl, hall⟩ := hall
        obtain ⟨hcs, hds⟩ := ih hall
        exact ⟨.plain hc hcs, hds⟩

end Octets

/-- What a run of characters is made of. -/
theorem octetRun_eq_ok {allowed : Char → Bool} {index : Nat} {cs run rest : List Char}
    (h : octetRun allowed index cs = .ok (run, rest)) :
    cs = run ++ rest ∧ Octets run ∧ (allowed '/' = false → '/' ∉ run) := by
  fun_induction octetRun allowed index cs generalizing run rest with
  | case1 index =>
      cases h
      exact ⟨rfl, .nil, fun _ => List.not_mem_nil⟩
  -- A percent sign with two digits behind it is taken as one octet.
  | case2 index a b cs hhex ih =>
      obtain ⟨⟨run', rest'⟩, hrun, heq⟩ := Result.map_eq_ok.1 h
      cases heq
      obtain ⟨rfl, hoctets, hslash⟩ := ih hrun
      obtain ⟨ha, hb⟩ := Bool.and_eq_true_iff.1 hhex
      refine ⟨rfl, .encoded ha hb hoctets, fun hallowed hmem => ?_⟩
      simp only [List.mem_cons] at hmem
      rcases hmem with hmem | rfl | rfl | hmem
      · cases hmem
      · cases ha
      · cases hb
      · exact hslash hallowed hmem
  | case3 => cases h
  | case4 => cases h
  -- Any other character is taken if it is allowed, and ends the run if not.
  | case5 index c cs _ hc hallowed ih =>
      obtain ⟨⟨run', rest'⟩, hrun, heq⟩ := Result.map_eq_ok.1 h
      cases heq
      obtain ⟨rfl, hoctets, hslash⟩ := ih hrun
      refine ⟨rfl, .plain hc hoctets, fun hnot hmem => ?_⟩
      rcases List.mem_cons.1 hmem with rfl | hmem
      · rw [hnot] at hallowed
        cases hallowed
      · exact hslash hnot hmem
  | case6 index c cs =>
      cases h
      exact ⟨rfl, .nil, fun _ => List.not_mem_nil⟩

/-! ## Passing characters -/

/-- What is left of a text when characters were taken off its front, none of them a slash. -/
def Passes (cs rest : List Char) : Prop := ∃ front, '/' ∉ front ∧ cs = front ++ rest

namespace Passes

/-- Nothing is passed where nothing is taken. -/
theorem refl (cs : List Char) : Passes cs cs := ⟨[], List.not_mem_nil, rfl⟩

/-- What is passed in two steps is passed in one. -/
theorem trans {cs ds es : List Char} (h : Passes cs ds) (h' : Passes ds es) : Passes cs es := by
  obtain ⟨front, hfront, rfl⟩ := h
  obtain ⟨middle, hmiddle, rfl⟩ := h'
  refine ⟨front ++ middle, ?_, (List.append_assoc ..).symm⟩
  rw [List.mem_append, not_or]
  exact ⟨hfront, hmiddle⟩

/-- One character other than a slash is passed. -/
theorem cons {c : Char} (hc : c ≠ '/') (cs : List Char) : Passes (c :: cs) cs :=
  ⟨[c], by simpa using Ne.symm hc, rfl⟩

/-- The first character is passed, if it is no slash. -/
theorem of_head? {c : Char} {cs : List Char} (h : cs.head? = some c) (hc : c ≠ '/') :
    Passes cs cs.tail := by
  rw [← List.cons_head?_tail h]
  exact .cons hc _

/-- Characters in front without a slash are passed. -/
theorem drop {cs run : List Char} (hrun : run <+: cs) (hslash : '/' ∉ run) :
    Passes cs (cs.drop run.length) :=
  ⟨run, hslash, (List.prefix_iff_eq_append.1 hrun).symm⟩

/-- A run of characters other than slashes has none. -/
theorem notMem_takeWhile {p : Char → Bool} (hp : p '/' = false) (cs : List Char) :
    '/' ∉ cs.takeWhile p := by
  intro hmem
  have htrue := List.mem_takeWhile_imp hmem
  rw [hp] at htrue
  cases htrue

/-- So such a run is passed. -/
theorem takeWhile {p : Char → Bool} (hp : p '/' = false) (cs : List Char) :
    Passes cs (cs.drop (cs.takeWhile p).length) :=
  .drop (List.takeWhile_prefix p) (notMem_takeWhile hp cs)

/-- It is passed when its length is bounded, too. -/
theorem takeWhile_take {p : Char → Bool} (hp : p '/' = false) (n : Nat) (cs : List Char) :
    Passes cs (cs.drop ((cs.take n).takeWhile p).length) :=
  .drop ((List.takeWhile_prefix p).trans (List.take_prefix n cs)) (notMem_takeWhile hp _)

/-- The rest is the text without as many characters as it is shorter. -/
theorem drop_sub_length {cs rest : List Char} (h : Passes cs rest) :
    cs.drop (cs.length - rest.length) = rest := by
  obtain ⟨front, -, rfl⟩ := h
  rw [List.length_append, Nat.add_sub_cancel, List.drop_left]

/-- A slash that stands behind what was passed is still there. -/
theorem append {cs ds rest : List Char} (h : Passes (cs ++ '/' :: ds) rest) :
    ∃ front, rest = front ++ '/' :: ds := by
  obtain ⟨front, hfront, heq⟩ := h
  rcases List.append_eq_append_iff.1 heq with ⟨as, rfl, hrest⟩ | ⟨bs, -, rfl⟩
  · cases as with
    | nil => exact ⟨[], hrest.symm⟩
    | cons a as =>
        obtain ⟨rfl, -⟩ := List.cons.inj hrest
        exact absurd (List.mem_append_right cs List.mem_cons_self) hfront
  · exact ⟨bs, rfl⟩

end Passes

/-! ## Places in a text -/

namespace Cursor

/-- Skipping characters drops them. -/
@[simp]
theorem rest_skip (c : Cursor) (run : List Char) : (c.skip run).rest = c.rest.drop run.length := rfl

/-- A run that was read stands in front of what is left. -/
theorem read_eq_ok {allowed : Char → Bool} {c d : Cursor} {run : List Char}
    (h : c.read allowed = .ok (run, d)) :
    c.rest = run ++ d.rest ∧ Octets run ∧ (allowed '/' = false → '/' ∉ run) := by
  obtain ⟨⟨found, rest⟩, hrun, heq⟩ := Result.map_eq_ok.1 h
  cases heq
  obtain ⟨hrest, hoctets, hslash⟩ := octetRun_eq_ok hrun
  refine ⟨?_, hoctets, hslash⟩
  rw [rest_skip, hrest, List.drop_left]

/-- It is passed if it may have no slash. -/
theorem passes_of_read {allowed : Char → Bool} (hallowed : allowed '/' = false) {c d : Cursor}
    {run : List Char} (h : c.read allowed = .ok (run, d)) : Passes c.rest d.rest := by
  obtain ⟨hrest, -, hslash⟩ := read_eq_ok h
  exact ⟨run, hslash hallowed, hrest⟩

/-- A run without octets is passed in the same way. -/
theorem passes_readPlain {allowed : Char → Bool} (hallowed : allowed '/' = false) (c : Cursor) :
    Passes c.rest (c.readPlain allowed).2.rest :=
  .takeWhile hallowed c.rest

/-- The cursor is at the character that comes next. -/
theorem head?_of_isAt {c : Cursor} {d : Char} (h : c.isAt d = true) : c.rest.head? = some d := by
  unfold isAt at h
  exact of_decide_eq_true h

/-- Passing a character takes it off the front. -/
theorem pass?_eq_some {c next : Cursor} {d : Char} (h : c.pass? d = some next) :
    c.rest = d :: next.rest := by
  unfold pass? at h
  split at h
  · next hat =>
      cases h
      rw [rest_skip, List.length_singleton, List.drop_one]
      exact (List.cons_head?_tail (head?_of_isAt hat)).symm
  · cases h

/-- A character in front is passed. -/
theorem pass?_of_rest {c : Cursor} {d : Char} {rest : List Char} (h : c.rest = d :: rest) :
    c.pass? d = some ⟨(c.skip [d]).index, rest⟩ := by
  have hat : c.isAt d = true := by
    rw [isAt, h]
    exact decide_eq_true rfl
  rw [pass?, if_pos hat, skip, h]
  rfl

/-- Passing a character that is no slash passes it in this sense, too. -/
theorem passes_of_pass? {c next : Cursor} {d : Char} (hd : d ≠ '/') (h : c.pass? d = some next) :
    Passes c.rest next.rest := by
  rw [pass?_eq_some h]
  exact .cons hd _

/-- Nothing is passed where the character does not stand. -/
theorem pass?_eq_none {c : Cursor} {d : Char} (h : d ∉ c.rest) : c.pass? d = none := by
  unfold pass?
  refine if_neg fun hat => h ?_
  exact List.mem_of_mem_head? (head?_of_isAt hat)

/-- A character that has to stand there is passed. -/
theorem passes_of_pass {c next : Cursor} {d : Char} (hd : d ≠ '/') (h : c.pass d = .ok next) :
    Passes c.rest next.rest := by
  unfold pass at h
  cases hpass : c.pass? d with
  | none =>
      rw [hpass] at h
      cases h
  | some found =>
      rw [hpass] at h
      cases h
      exact passes_of_pass? hd hpass

/-- What is read behind a character is nothing where the character is not there. -/
theorem readBehind_of_notMem {c : Cursor} {d : Char} (allowed : Char → Bool) (h : d ∉ c.rest) :
    c.readBehind d allowed = .ok (none, c) := by
  rw [readBehind, pass?_eq_none h]

end Cursor

end TypeCatalog.Uri

/-! ## Addresses of eight groups -/

namespace TypeCatalog.Address6

open TypeCatalog.Uri (Passes)

/-- A group of an address is passed, with a colon in front of it or without. -/
theorem passes_piece (cs : List Char) : Passes cs (piece cs).2 := by
  unfold piece
  extract_lets behindColon start digits rest
  have hstart : Passes cs start := by
    by_cases hcolon : behindColon
    · rw [show start = cs.tail from if_pos hcolon]
      exact .of_head? hcolon (by decide)
    · rw [show start = cs from if_neg hcolon]
      exact .refl cs
  have hrest : Passes cs rest := hstart.trans (.takeWhile_take (by decide) 4 start)
  split
  -- A group without digits is the gap, or nothing was taken.
  · split
    · exact hstart
    · split
      · next hhead => exact hstart.trans (.of_head? hhead (by decide))
      · exact hstart
  · split
    · exact hrest
    · split
      · exact hstart
      · exact hrest

/-- An octet of an address is passed. -/
theorem passes_octet (cs : List Char) : Passes cs (octet cs).2 := by
  unfold octet
  extract_lets digits n
  show Passes cs (cs.drop digits.length)
  by_cases hzero : cs.head? = some '0'
  · rw [show digits = ['0'] from if_pos hzero, List.length_singleton, List.drop_one]
    exact .of_head? hzero (by decide)
  · rw [show digits = (cs.take 3).takeWhile Ascii.isDigit from if_neg hzero]
    exact .takeWhile_take (by decide) 3 cs

/-- So are some octets with dots between them. -/
theorem passes_octets (n : Nat) (cs : List Char) : Passes cs (octets n cs).2 := by
  induction n generalizing cs with
  | zero => exact .refl cs
  | succ n ih =>
      have hfirst := passes_octet cs
      unfold octets
      split
      · next rest heq =>
          rw [heq] at hfirst
          exact hfirst
      · next v rest heq =>
          rw [heq] at hfirst
          split
          · exact hfirst
          · split
            · next hdot => exact (hfirst.trans (.of_head? hdot (by decide))).trans (ih rest.tail)
            · exact hfirst

/-- So are some groups. -/
theorem passes_pieces (rounds : Nat) (groups : List Nat) (gap : Option Nat) (cs : List Char) :
    Passes cs (pieces rounds groups gap cs).2 := by
  induction rounds generalizing groups gap cs with
  | zero => exact .refl cs
  | succ rounds ih =>
      have hpiece := passes_piece cs
      unfold pieces
      extract_lets atGap
      split
      · exact .refl cs
      -- The piece is bad, or the last one, or a group, or the gap, or octets follow that end the
      -- address.
      · split
        · next rest heq =>
            rw [heq] at hpiece
            exact hpiece
        · next rest heq =>
            rw [heq] at hpiece
            exact hpiece
        · next rest heq =>
            rw [heq] at hpiece
            split
            · exact hpiece
            · exact hpiece.trans (ih _ _ rest)
        · next rest heq =>
            rw [heq] at hpiece
            split
            · exact hpiece
            · exact hpiece.trans (ih _ _ rest)
        · next rest heq =>
            rw [heq] at hpiece
            split
            · exact hpiece
            · have hoctets := hpiece.trans (passes_octets 4 rest)
              split
              · next heq =>
                  rw [heq] at hoctets
                  exact hoctets
              · next heq =>
                  rw [heq] at hoctets
                  exact hoctets

/-- An address in brackets is passed. -/
theorem passes_read (cs : List Char) : Passes cs (read cs).2 := passes_pieces 10 [] none cs

end TypeCatalog.Address6

/-! ## Authorities -/

namespace TypeCatalog.Uri

/-- So is an address of a future version. -/
theorem passes_of_readFuture {start c : Cursor} {host : Host}
    (h : readFuture start = .ok (host, c)) : Passes start.rest c.rest := by
  unfold readFuture at h
  obtain ⟨hversion, h⟩ := Result.unless_eq_ok.1 h
  obtain ⟨-, h⟩ := Result.unless_eq_ok.1 h
  obtain ⟨behindDot, hdot, h⟩ := Result.bind_eq_ok.1 h
  obtain ⟨-, h⟩ := Result.unless_eq_ok.1 h
  cases h
  -- The version begins with a letter, whether a small one or a capital.
  have hstart : Passes start.rest (start.skip ['v']).rest := by
    rw [Cursor.rest_skip, List.length_singleton, List.drop_one]
    rw [Bool.not_eq_true, Bool.not_eq_false', Bool.or_eq_true] at hversion
    rcases hversion with hv | hv
    · exact .of_head? (Cursor.head?_of_isAt hv) (by decide)
    · exact .of_head? (Cursor.head?_of_isAt hv) (by decide)
  have hdigits := hstart.trans
    (@Cursor.passes_readPlain Ascii.isHexDigit (by decide) (start.skip ['v']))
  exact (hdigits.trans (Cursor.passes_of_pass (by decide) hdot)).trans
    (Cursor.passes_readPlain (by decide) behindDot)

/-- So is a host in brackets. -/
theorem passes_of_readBracketed? {start c : Cursor} {host : Host}
    (h : readBracketed? start = .ok (some (host, c))) : Passes start.rest c.rest := by
  unfold readBracketed? at h
  split at h
  · cases h
  · next inner hinner =>
      have hopen := Cursor.passes_of_pass? (by decide) hinner
      have haddress := Address6.passes_read inner.rest
      dsimp only at h
      split at h
      · obtain ⟨found, hfound, h⟩ := Result.bind_eq_ok.1 h
        cases hfound
        obtain ⟨last, hlast, h⟩ := Result.bind_eq_ok.1 h
        cases h
        have hlast := Cursor.passes_of_pass (by decide) hlast
        -- The cursor skips as many characters as the address has.
        have hinside : (inner.skip (inner.rest.take
            (inner.rest.length - (Address6.read inner.rest).2.length))).rest
              = (Address6.read inner.rest).2 := by
          rw [Cursor.rest_skip, List.length_take, Nat.min_eq_left (Nat.sub_le ..),
            haddress.drop_sub_length]
        rw [hinside] at hlast
        exact hopen.trans (haddress.trans hlast)
      · split at h
        · cases h
        · obtain ⟨⟨host', behind⟩, hfuture, h⟩ := Result.bind_eq_ok.1 h
          obtain ⟨last, hlast, h⟩ := Result.bind_eq_ok.1 h
          cases h
          exact hopen.trans ((passes_of_readFuture hfuture).trans
            (Cursor.passes_of_pass (by decide) hlast))

/-- A port is passed. -/
theorem passes_readPort (c : Cursor) : Passes c.rest (readPort c).2.rest := by
  unfold readPort
  split
  · exact .refl c.rest
  · next behind hcolon =>
      exact (Cursor.passes_of_pass? (by decide) hcolon).trans
        (Cursor.passes_readPlain (by decide) behind)

/-- No slash may stand in a name of a host. -/
theorem isNameChar_slash (wide : Bool) : isNameChar wide '/' = false := by
  cases wide <;> decide

/-- Reading an authority takes no slash. -/
theorem passes_of_readAuthority {wide : Bool} {start c : Cursor} {a : Authority}
    (h : readAuthority wide start = .ok (a, c)) : Passes start.rest c.rest := by
  unfold readAuthority at h
  obtain ⟨⟨run, behindRun⟩, hrun, h⟩ := Result.bind_eq_ok.1 h
  have hrun := Cursor.passes_of_read (by rw [isNameChar_slash]; rfl) hrun
  dsimp only at h
  -- Behind a user stands a host, in brackets or not; without one the run was the host, with a port
  -- perhaps, or a host in brackets follows it.
  split at h
  · next behindSign hsign =>
      have hsign := hrun.trans (Cursor.passes_of_pass? (by decide) hsign)
      obtain ⟨bracketed, hbracketed, h⟩ := Result.bind_eq_ok.1 h
      split at h
      · next host behindHost =>
          cases h
          exact hsign.trans ((passes_of_readBracketed? hbracketed).trans (passes_readPort _))
      · obtain ⟨⟨host, behindHost⟩, hhost, h⟩ := Result.bind_eq_ok.1 h
        obtain ⟨⟨name, behindName⟩, hname, heq⟩ := Result.map_eq_ok.1 hhost
        cases heq
        cases h
        exact hsign.trans ((Cursor.passes_of_read (isNameChar_slash wide) hname).trans
          (passes_readPort _))
  · split at h
    · obtain ⟨authority, -, h⟩ := Result.bind_eq_ok.1 h
      cases h
      exact hrun
    · obtain ⟨bracketed, hbracketed, h⟩ := Result.bind_eq_ok.1 h
      split at h
      · cases h
        exact hrun.trans ((passes_of_readBracketed? hbracketed).trans (passes_readPort _))
      · cases h
        exact hrun

/-! ## References -/

/-- A colon behind letters ends the scheme. -/
theorem readPath_eq_ok {wide behindScheme behindAuthority : Bool} {start c : Cursor}
    {path : List Char} (h : readPath wide behindScheme behindAuthority start = .ok (path, c)) :
    start.rest = path ++ c.rest ∧ Octets path := by
  unfold readPath at h
  split at h
  · obtain ⟨⟨run, behind⟩, hrun, h⟩ := Result.bind_eq_ok.1 h
    obtain ⟨-, h⟩ := Result.unless_eq_ok.1 h
    cases h
    obtain ⟨hrest, hoctets, -⟩ := Cursor.read_eq_ok hrun
    exact ⟨hrest, hoctets⟩
  · split at h
    · obtain ⟨hrest, hoctets, -⟩ := Cursor.read_eq_ok h
      exact ⟨hrest, hoctets⟩
    · obtain ⟨⟨first, behind⟩, hfirst, h⟩ := Result.bind_eq_ok.1 h
      obtain ⟨-, h⟩ := Result.unless_eq_ok.1 h
      obtain ⟨⟨others, last⟩, hothers, h⟩ := Result.bind_eq_ok.1 h
      cases h
      obtain ⟨hrest, hoctets, -⟩ := Cursor.read_eq_ok hfirst
      obtain ⟨hrest', hoctets', -⟩ := Cursor.read_eq_ok hothers
      exact ⟨by rw [hrest, hrest', List.append_assoc], hoctets.append hoctets'⟩

/-- A colon behind letters ends the scheme. -/
theorem readScheme_of_letters {scheme rest : List Char} {index : Nat} (hne : scheme ≠ [])
    (hscheme : scheme.all Ascii.isLetter = true) :
    ∃ i, readScheme ⟨index, scheme ++ ':' :: rest⟩ = .ok (some scheme, ⟨i, rest⟩) := by
  have hchars : ∀ c ∈ scheme, isSchemeChar c = true := fun c hc => by
    have hletter := List.all_eq_true.1 hscheme c hc
    unfold isSchemeChar Ascii.isAlphanumeric
    rw [hletter]
    rfl
  have hrun : (scheme ++ ':' :: rest).takeWhile isSchemeChar = scheme := by
    rw [List.takeWhile_append_of_pos hchars, List.takeWhile_cons_of_neg (by decide),
      List.append_nil]
  obtain ⟨c, cs, rfl⟩ := List.exists_cons_of_ne_nil hne
  have hletter : Ascii.isLetter c = true := List.all_eq_true.1 hscheme c List.mem_cons_self
  have hplain : Cursor.readPlain isSchemeChar ⟨index, (c :: cs) ++ ':' :: rest⟩
      = (c :: cs, Cursor.skip ⟨index, (c :: cs) ++ ':' :: rest⟩ (c :: cs)) := by
    rw [Cursor.readPlain, hrun]
  rw [readScheme, hplain]
  dsimp only
  rw [Cursor.pass?_of_rest (by rw [Cursor.rest_skip, List.drop_left])]
  exact ⟨_, if_pos hletter⟩

/-- What an absolute address without a query and a fragment is read as: its path is all that stands
behind the authority, and reading the authority takes no slash. -/
theorem parse_eq_ok {text : String} {scheme rest : List Char} {u : Uri} (hne : scheme ≠ [])
    (hscheme : scheme.all Ascii.isLetter = true) (htext : text.toList = scheme ++ ':' :: rest)
    (hquery : '?' ∉ rest) (hfragment : '#' ∉ rest) (h : parse text = .ok u) :
    u.scheme = some scheme ∧ u.query = none ∧ u.fragment = none ∧ Octets u.path
      ∧ (u.path = rest ∨ ∃ behind, rest = '/' :: '/' :: behind ∧ Passes behind u.path) := by
  unfold parse parseWith at h
  obtain ⟨i, hread⟩ := @readScheme_of_letters scheme rest 0 hne hscheme
  rw [htext, hread, Result.bind_eq_ok] at h
  obtain ⟨_, hok, h⟩ := h
  cases hok
  obtain ⟨⟨authority, c⟩, hauthority, h⟩ := Result.bind_eq_ok.1 h
  -- Where two slashes stand, an authority is behind them, and the path begins behind that.
  have hc : (c.rest = rest ∨ ∃ behind, rest = '/' :: '/' :: behind ∧ Passes behind c.rest) := by
    unfold readAuthority? at hauthority
    split at hauthority
    · next hslashes =>
        obtain ⟨⟨a, behind⟩, ha, heq⟩ := Result.map_eq_ok.1 hauthority
        cases heq
        refine .inr ⟨rest.drop 2, ?_, passes_of_readAuthority ha⟩
        conv_lhs => rw [← List.take_append_drop 2 rest, hslashes]
        rfl
    · cases hauthority
      exact .inl rfl
  have hsubset : c.rest ⊆ rest := by
    rcases hc with hrest | ⟨behind, hrest, front, -, hbehind⟩
    · rw [hrest]
      exact List.Subset.refl rest
    · rw [hrest, hbehind]
      exact fun x hx => .tail _ (.tail _ (List.mem_append_right front hx))
  obtain ⟨⟨path, d⟩, hpath, h⟩ := Result.bind_eq_ok.1 h
  obtain ⟨hrest, hoctets⟩ := readPath_eq_ok hpath
  have hd : d.rest ⊆ rest := fun x hx =>
    hsubset (by rw [hrest]; exact List.mem_append_right path hx)
  obtain ⟨_, hok, h⟩ := Result.bind_eq_ok.1 h
  rw [Cursor.readBehind_of_notMem _ fun hmem => hquery (hd hmem)] at hok
  cases hok
  obtain ⟨_, hok, h⟩ := Result.bind_eq_ok.1 h
  rw [Cursor.readBehind_of_notMem _ fun hmem => hfragment (hd hmem)] at hok
  cases hok
  obtain ⟨hempty, h⟩ := Result.unless_eq_ok.1 h
  cases h
  rw [Bool.not_eq_true, Bool.not_eq_false', List.isEmpty_iff] at hempty
  rw [hempty, List.append_nil] at hrest
  rw [hrest] at hc
  exact ⟨rfl, rfl, rfl, hoctets, hc⟩

end TypeCatalog.Uri
