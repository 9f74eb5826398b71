import TypeCatalog.Proofs.Schema.Spelling

/-!
# Domains in front of references

A reference is read below a domain, so that an address is a reference, too: if the text begins with
the domain, the domain is dropped and then the slashes that follow. No sign of the text tells that
it is an address. So a domain is also dropped from a name, or from the `../` in front of one, if
that happens to begin in the same way; and then another type may be named.

`Reference.IsCutBy` says when another type is named (`Reference.resolve_domain_iff`). A domain that
has a sign other than letters, digits, dots and slashes, as every address of the web has, never does
harm (`Reference.not_isCutBy_of_sign`). `resolve_domain_eq_iff` compares the two readers of
references: one drops the domain from the references of a fragment, the other reads the types of
properties without a domain.

`Name.resolve` with a domain reads the `$ref` of a fragment (`Emitter.fragmentTarget`, where
`Name.dropDomain` drops the domain of `Emitter.ofDomain`), and without one it reads `propertyType`
and `dataType` (`Emitter.propertyTarget`, `EnumRoot.ofBody`). The proofs cut `Reference.text` where
the domain ends. `exists_cut_escapes` cuts the `../` in front and `Reference.cases_of_append` the
whole text, and each of its four cases is settled by one lemma on what is left.
-/

set_option autoImplicit false

namespace TypeCatalog.Name

/-- Whether a domain takes so much away from a reference inside a system that what is left names
another type. -/
inductive Reference.IsCutBy (domain system : String) (r : Reference) : Prop where
  /-- The domain is all the `../` in front and the beginning of the names behind them. What is left
  names the same type only if it is the name, and the system was the one it is read in. -/
  | names (front rest : String) (hne : front ≠ "") (hpath : r.path = front ++ rest)
      (hdomain : (Emitter.ofDomain domain).domain = escapes r.parents ++ front)
      (hother : ¬ (r.system = some system ∧ front = system))
  /-- The domain ends with the first dot of a `../` and others follow. What is left of the first is
  dropped, but those behind it are not, and so a bare name has `..` for its system. -/
  | escape (n : Nat) (hbare : r.system = none) (hmore : n + 1 < r.parents)
      (hdomain : (Emitter.ofDomain domain).domain = escapes n ++ ".")

/-! ## Texts made of `../` -/

/-- Each `../` has three characters. -/
theorem length_escapes_append (n : Nat) (s : String) :
    (escapes n ++ s).toList.length = 3 * n + s.toList.length := by
  induction n with
  | zero => rw [escapes, String.empty_append, Nat.mul_zero, Nat.zero_add]
  | succ n ih =>
      rw [String.toList_append, toList_escapes_succ, List.cons_append, List.cons_append,
        List.cons_append, ← String.toList_append]
      simp only [List.length_cons, ih]
      omega

/-- The `../` of a sum are those of both parts, one behind the other. -/
theorem escapes_add (m n : Nat) : escapes (m + n) = escapes m ++ escapes n := by
  induction m with
  | zero => rw [Nat.zero_add, escapes, String.empty_append]
  | succ m ih => rw [Nat.succ_add, escapes, ih, escapes, String.append_assoc]

/-- A text that ends within some `../`, and not with a slash, is empty or ends with a dot or with
two. -/
theorem exists_cut_escapes {k : Nat} {front rest : List Char}
    (h : (escapes k).toList = front ++ rest) (hlast : front.getLast? ≠ some separator) :
    front = []
    ∨ (∃ m n, k = m + n + 1 ∧ front = (escapes m).toList ++ ['.', '.']
      ∧ rest = '/' :: (escapes n).toList)
    ∨ (∃ m n, k = m + n + 1 ∧ front = (escapes m).toList ++ ['.']
      ∧ rest = '.' :: '/' :: (escapes n).toList) := by
  induction k generalizing front with
  | zero => exact .inl (List.append_eq_nil_iff.1 h.symm).1
  | succ k ih =>
      rw [toList_escapes_succ] at h
      match front, h with
      | [], _ => exact .inl rfl
      | [a], h =>
          simp only [List.cons_append, List.nil_append, List.cons.injEq] at h
          obtain ⟨rfl, hrest⟩ := h
          exact .inr (.inr ⟨0, k, by omega, rfl, hrest.symm⟩)
      | [a, b], h =>
          simp only [List.cons_append, List.nil_append, List.cons.injEq] at h
          obtain ⟨rfl, rfl, hrest⟩ := h
          exact .inr (.inl ⟨0, k, by omega, rfl, hrest.symm⟩)
      | a :: b :: c :: front, h =>
          -- A whole `../` stands in front, and with nothing behind it the text would end with a
          -- slash.
          simp only [List.cons_append, List.cons.injEq] at h
          obtain ⟨rfl, rfl, rfl, hinside⟩ := h
          have hne : front ≠ [] := by
            rintro rfl
            exact hlast rfl
          have hlast' : front.getLast? ≠ some separator := by
            rwa [List.getLast?_cons_of_ne_nil (List.cons_ne_nil _ _),
              List.getLast?_cons_of_ne_nil (List.cons_ne_nil _ _),
              List.getLast?_cons_of_ne_nil hne] at hlast
          -- Everything is settled behind the first `../`, which joins those in front of the cut.
          rcases ih hinside hlast' with hnil | ⟨m, n, rfl, rfl, hrest⟩ | ⟨m, n, rfl, rfl, hrest⟩
          · exact absurd hnil hne
          · refine .inr (.inl ⟨m + 1, n, by omega, ?_, hrest⟩)
            rw [toList_escapes_succ]
            rfl
          · refine .inr (.inr ⟨m + 1, n, by omega, ?_, hrest⟩)
            rw [toList_escapes_succ]
            rfl

/-! ## What is left behind a domain -/

/-- A text without the slashes in front. -/
def withoutSlashes (s : String) : String := String.ofList (dropSlashes s.toList)

/-- A slash in front is one of those that are dropped. -/
theorem withoutSlashes_slash (s : String) : withoutSlashes ("/" ++ s) = withoutSlashes s := by
  unfold withoutSlashes
  rw [String.toList_append]
  exact congrArg String.ofList (dropSlashes_separator s.toList)

/-- A text without a slash in front stays. -/
theorem withoutSlashes_eq_self {s : String} (h : s.toList.head? ≠ some separator) :
    withoutSlashes s = s := by
  unfold withoutSlashes
  cases hs : s.toList with
  | nil => exact (String.toList_eq_nil_iff.1 hs).symm
  | cons c cs =>
      rw [hs] at h
      rw [dropSlashes_cons fun heq => h (congrArg some heq), ← hs, String.ofList_toList]

/-- A text of letters and digits has no slash in front. -/
theorem head?_ne_of_all {cs : List Char} (h : cs.all isAlphanumeric = true) :
    cs.head? ≠ some separator := fun hhead =>
  notMem_of_all h (by decide) (List.mem_of_mem_head? hhead)

/-- A text that begins with another is made of it and the rest. -/
theorem eq_append_ofList {s t : String} {cs : List Char} (h : s.toList = t.toList ++ cs) :
    s = t ++ String.ofList cs := by
  rw [← String.toList_inj, String.toList_append, String.toList_ofList, h]

/-- The domain of an emitter is the given one without the slashes at its end. -/
theorem toList_ofDomain (domain : String) :
    (Emitter.ofDomain domain).domain.toList = trimEndSlashes domain.toList := String.toList_ofList

/-- A domain that a text does not begin with is not dropped. -/
theorem resolve_of_forall_ne {domain text : String}
    (h : ∀ rest, text ≠ (Emitter.ofDomain domain).domain ++ rest) (system : String) :
    resolve (some domain) system text = resolve none system text := by
  have hnot : ¬ (trimEndSlashes domain.toList).isPrefixOf text.toList = true := by
    rw [List.isPrefixOf_iff_prefix]
    rintro ⟨rest, hrest⟩
    exact h (String.ofList rest) (eq_append_ofList (by rw [toList_ofDomain, hrest]))
  unfold resolve dropDomain
  dsimp only
  rw [if_neg hnot]

/-- A domain that a text begins with is dropped, with the slashes that follow. -/
theorem resolve_of_eq_append {domain text rest : String}
    (h : text = (Emitter.ofDomain domain).domain ++ rest) (system : String) :
    resolve (some domain) system text = resolve none system (withoutSlashes rest) := by
  have htext : text.toList = trimEndSlashes domain.toList ++ rest.toList := by
    rw [h, String.toList_append, toList_ofDomain]
  unfold resolve dropDomain withoutSlashes
  dsimp only
  rw [htext, if_pos (List.isPrefixOf_iff_prefix.2 (List.prefix_append _ _)), List.drop_left,
    String.toList_ofList]

/-! ## Segments behind `../` that are not dropped -/

/-- A path of two segments behind a slash names these two. -/
theorem lastSegments_append {front a b : List Char} (system : List Char) (ha : separator ∉ a)
    (hb : separator ∉ b) :
    lastSegments system (front ++ separator :: (a ++ separator :: b)) = (a, b) := by
  rw [← List.cons_append, ← List.append_assoc, lastSegments, splitLastChars_append hb]
  dsimp only
  rw [splitLastChars_append ha]

/-- The last of the `../` is two dots with a slash behind. -/
theorem toList_escapes_succ_append (n : Nat) (cs : List Char) :
    (escapes (n + 1)).toList ++ cs = ((escapes n).toList ++ ['.', '.']) ++ separator :: cs := by
  rw [escapes_succ, String.toList_append, List.append_assoc, List.append_assoc]
  rfl

/-- A bare name has `..` for its system. -/
theorem lastSegments_escapes (n : Nat) {word : List Char} (h : separator ∉ word)
    (system : List Char) :
    lastSegments system ((escapes (n + 1)).toList ++ word) = (['.', '.'], word) := by
  have hdots : separator ∉ ['.', '.'] := by decide
  cases n with
  | zero =>
      rw [toList_escapes_succ_append, lastSegments, splitLastChars_append h]
      rfl
  | succ n =>
      rw [toList_escapes_succ_append, toList_escapes_succ_append, List.append_assoc,
        List.cons_append, lastSegments_append system hdots h]

namespace Reference

variable (r : Reference) {domain system : String}

/-- Behind some `../` the last two segments are the system and the name. A bare name has two dots in
front instead of a system. -/
theorem lastSegments_path (n : Nat) (system : List Char) :
    lastSegments system ((escapes (n + 1)).toList ++ r.path.toList)
      = ((r.system.map String.toList).getD ['.', '.'], r.name.toList) := by
  have hname := separator_notMem r.isIdentifier_name
  unfold path
  cases hsystem : r.system with
  | none => exact lastSegments_escapes n hname system
  | some s =>
      dsimp only
      rw [toList_qualify, toList_escapes_succ_append]
      exact lastSegments_append system (separator_notMem (r.isIdentifier_system s hsystem)) hname

/-! ## Where a domain may end -/

/-- The four ways in which a reference may begin with a text that does not end with a slash: the
text is empty, it ends with the second or with the first dot of a `../`, or it reaches into the
names. -/
theorem cases_of_append {front rest : String} (h : r.text = front ++ rest)
    (hlast : front.toList.getLast? ≠ some separator) :
    front = ""
    ∨ (∃ m n, r.parents = m + n + 1 ∧ front = escapes m ++ ".."
      ∧ rest = "/" ++ (escapes n ++ r.path))
    ∨ (∃ m n, r.parents = m + n + 1 ∧ front = escapes m ++ "."
      ∧ rest = "./" ++ (escapes n ++ r.path))
    ∨ ∃ inside, inside ≠ "" ∧ front = escapes r.parents ++ inside ∧ r.path = inside ++ rest := by
  rw [text, ← String.toList_inj, String.toList_append, String.toList_append] at h
  rcases List.append_eq_append_iff.1 h with ⟨inside, hfront, hpath⟩ | ⟨behind, hescapes, hrest⟩
  · by_cases hempty : inside = []
    · -- The text is all the `../` in front, which end with a slash if there are any.
      rw [hempty, List.append_nil] at hfront
      have hescapes : (escapes r.parents).toList = front.toList ++ [] := by
        rw [List.append_nil, hfront]
      rcases exists_cut_escapes hescapes hlast with
        hnil | ⟨m, n, -, -, hnil⟩ | ⟨m, n, -, -, hnil⟩
      · exact .inl (String.toList_eq_nil_iff.1 hnil)
      · cases hnil
      · cases hnil
    · refine .inr (.inr (.inr ⟨String.ofList inside, mt String.ofList_eq_empty_iff.1 hempty,
        eq_append_ofList hfront, ?_⟩))
      rw [← String.toList_inj, String.toList_append, String.toList_ofList, hpath]
  -- The text ends before the names begin.
  · rcases exists_cut_escapes hescapes hlast with
      hnil | ⟨m, n, hparents, hfront, hbehind⟩ | ⟨m, n, hparents, hfront, hbehind⟩
    · exact .inl (String.toList_eq_nil_iff.1 hnil)
    · refine .inr (.inl ⟨m, n, hparents, eq_append_ofList hfront, ?_⟩)
      rw [← String.toList_inj, hrest, hbehind, String.toList_append, String.toList_append]
      rfl
    · refine .inr (.inr (.inl ⟨m, n, hparents, eq_append_ofList hfront, ?_⟩))
      rw [← String.toList_inj, hrest, hbehind, String.toList_append, String.toList_append]
      rfl

/-- A domain that cuts into a reference is longer than the `../` in front, or ends with the first
dot of one of them. -/
theorem IsCutBy.length_domain (h : r.IsCutBy domain system) :
    3 * r.parents < (Emitter.ofDomain domain).domain.toList.length
    ∨ ∃ n, n + 1 < r.parents ∧ (Emitter.ofDomain domain).domain.toList.length = 3 * n + 1 := by
  cases h with
  | names front rest hne hpath hdomain hother =>
      left
      rw [hdomain, length_escapes_append]
      have hpos : 0 < front.toList.length :=
        List.length_pos_iff.2 fun hnil => hne (String.toList_eq_nil_iff.1 hnil)
      omega
  | escape n hbare hmore hdomain =>
      refine .inr ⟨n, hmore, ?_⟩
      rw [hdomain, length_escapes_append]
      rfl

/-- A reference begins with the domain that cuts into it. -/
theorem IsCutBy.exists_rest (h : r.IsCutBy domain system) :
    ∃ rest, r.text = (Emitter.ofDomain domain).domain ++ rest := by
  cases h with
  | names front rest hne hpath hdomain hother =>
      refine ⟨rest, ?_⟩
      rw [text, hpath, hdomain, String.append_assoc]
  | escape n hbare hmore hdomain =>
      obtain ⟨m, hm⟩ : ∃ m, r.parents = n + (m + 1) := ⟨r.parents - n - 1, by omega⟩
      refine ⟨"./" ++ escapes m ++ r.path, ?_⟩
      calc r.text = escapes n ++ ("." ++ "./" ++ escapes m) ++ r.path := by
            rw [text, hm, escapes_add]
            rfl
        _ = (Emitter.ofDomain domain).domain ++ ("./" ++ escapes m ++ r.path) := by
            rw [hdomain]
            simp only [String.append_assoc]

/-- A domain that ends with the first dot of a `../` cuts exactly the bare names that have further
`../` in front. -/
theorem isCutBy_iff_of_dot {m n : Nat} (hparents : r.parents = m + n + 1)
    (hdomain : (Emitter.ofDomain domain).domain = escapes m ++ ".") :
    r.IsCutBy domain system ↔ r.system = none ∧ 0 < n := by
  have hlength : (Emitter.ofDomain domain).domain.toList.length = 3 * m + 1 := by
    rw [hdomain, length_escapes_append]
    rfl
  constructor
  · intro hcut
    cases hcut with
    | names front rest hne hpath hdomain' hother =>
        rw [hdomain', length_escapes_append] at hlength
        omega
    | escape k hbare hmore hdomain' =>
        rw [hdomain', length_escapes_append, show ".".toList.length = 1 from rfl] at hlength
        exact ⟨hbare, by omega⟩
  · rintro ⟨hbare, hmore⟩
    exact .escape m hbare (by omega) hdomain

/-- A domain that reaches into the names always cuts, unless it is the very system of the reference
and of the reader. -/
theorem isCutBy_iff_of_names {inside rest : String} (hne : inside ≠ "")
    (hdomain : (Emitter.ofDomain domain).domain = escapes r.parents ++ inside)
    (hpath : r.path = inside ++ rest) :
    r.IsCutBy domain system ↔ ¬ (r.system = some system ∧ inside = system) := by
  constructor
  · rintro hcut ⟨hown, hinside⟩
    cases hcut with
    | names front rest' hne' hpath' hdomain' hother =>
        have hfront : front = inside :=
          (String.append_right_inj _).1 (hdomain'.symm.trans hdomain)
        exact hother ⟨hown, hfront.trans hinside⟩
    | escape n hbare hmore hdomain' =>
        rw [hbare] at hown
        cases hown
  · exact .names inside rest hne hpath hdomain

/-! ## What is named then -/

/-- The first sign of a reference is no slash. -/
theorem withoutSlashes_text : withoutSlashes r.text = r.text := by
  refine withoutSlashes_eq_self ?_
  rw [text, String.toList_append]
  cases r.parents with
  | zero =>
      obtain ⟨c, cs, hcs, hc⟩ := r.exists_path_cons
      rw [hcs]
      exact fun hhead => ne_of_isAlphanumeric hc (by decide) (Option.some.inj hhead)
  | succ n =>
      rw [toList_escapes_succ]
      exact fun hhead => absurd (Option.some.inj hhead) (by decide)

/-- Whole `../` and the dots of the next one may be missing. -/
theorem resolve_behind_dots (n : Nat) (system : String) :
    resolve none system (withoutSlashes ("/" ++ (escapes n ++ r.path))) = r.target system := by
  let s : Reference := { r with parents := n }
  rw [withoutSlashes_slash]
  exact (congrArg (resolve none system) s.withoutSlashes_text).trans (s.resolve_text system)

/-- Whole `../` and the first dot of the next one may be missing if no other follows, or if the
reference names a system. -/
theorem resolve_behind_dot_iff (n : Nat) (hsystem : isIdentifier system = true) :
    resolve none system (withoutSlashes ("./" ++ (escapes n ++ r.path))) = r.target system
      ↔ ¬ (r.system = none ∧ 0 < n) := by
  have hdropped : dropHere (dropParents ("./" ++ (escapes n ++ r.path)).toList)
      = dropHere ((escapes n).toList ++ r.path.toList) := by
    rw [String.toList_append, String.toList_append]
    rfl
  rw [withoutSlashes_eq_self (by rw [String.toList_append]; nofun)]
  cases n with
  | zero =>
      obtain ⟨c, cs, hcs, hc⟩ := r.exists_path_cons
      refine iff_of_true ?_ fun h => absurd h.2 (Nat.lt_irrefl 0)
      -- No `../` is left, and the names are read as they stand.
      rw [← r.resolve_path]
      refine resolve_congr ?_ system
      rw [hdropped, hcs, dropHere_dropParents_cons hc]
      exact dropHere_cons (ne_of_isAlphanumeric hc (by decide))
  | succ n =>
      -- What comes next begins with two dots and stays.
      have hstays : dropHere ((escapes (n + 1)).toList ++ r.path.toList)
          = (escapes (n + 1)).toList ++ r.path.toList := by
        rw [toList_escapes_succ]
        rfl
      rw [resolve_eq_of_lastSegments (by rw [hdropped, hstays, lastSegments_path]),
        String.ofList_toList, target]
      cases hbare : r.system with
      | none =>
          refine iff_of_false (fun heq => ?_) fun h => h ⟨rfl, Nat.succ_pos n⟩
          -- A bare name with `../` in front would be read in the system `..`, which is no
          -- identifier.
          have hdots := (qualify_injective r.isIdentifier_name r.isIdentifier_name heq).1
          rw [← show String.ofList ['.', '.'] = system from hdots] at hsystem
          exact absurd hsystem (by decide)
      | some s =>
          refine iff_of_true ?_ nofun
          show qualify (String.ofList s.toList) r.name = qualify s r.name
          rw [String.ofList_toList]

/-- Where a part of the name is missing, another name is left. -/
theorem resolve_rest_ne {front rest : String} (hne : front ≠ "") (h : r.name = front ++ rest)
    (system : String) : resolve none system (withoutSlashes rest) ≠ r.target system := by
  have hall := all_isAlphanumeric r.isIdentifier_name
  rw [h, String.toList_append, List.all_append, Bool.and_eq_true] at hall
  rw [withoutSlashes_eq_self (head?_ne_of_all hall.2), resolve_word hall.2]
  intro heq
  have hnames := (qualify_inj (notMem_of_all hall.2 (by decide))
    (separator_notMem r.isIdentifier_name) heq).2
  rw [← hnames, ← String.toList_inj, String.toList_append, List.self_eq_append_left] at h
  exact hne (String.toList_eq_nil_iff.1 h)

/-- Where a part of the system is missing, another system is left. -/
theorem resolve_qualify_rest_ne {s front rest : String} (hs : r.system = some s)
    (hne : front ≠ "") (hrest : rest ≠ "") (h : s = front ++ rest) (system : String) :
    resolve none system (withoutSlashes (qualify rest r.name)) ≠ r.target system := by
  have hname := r.isIdentifier_name
  have hall := all_isAlphanumeric (r.isIdentifier_system s hs)
  rw [h, String.toList_append, List.all_append, Bool.and_eq_true] at hall
  have hhead : (qualify rest r.name).toList.head? ≠ some separator := by
    rw [toList_qualify, List.head?_append_of_ne_nil _
      fun hnil => hrest (String.toList_eq_nil_iff.1 hnil)]
    exact head?_ne_of_all hall.2
  rw [withoutSlashes_eq_self hhead, resolve_qualify hrest hall.2 (all_isAlphanumeric hname),
    target, hs, Option.getD_some]
  intro heq
  have hsystems := (qualify_injective hname hname heq).1
  rw [← hsystems, ← String.toList_inj, String.toList_append, List.self_eq_append_left] at h
  exact hne (String.toList_eq_nil_iff.1 h)

/-- Where the domain reaches into the names, what is left names the same type only if the system is
missing in which the reference is read. -/
theorem resolve_rest_iff {front rest : String} (hne : front ≠ "")
    (hlast : front.toList.getLast? ≠ some separator) (hpath : r.path = front ++ rest) :
    resolve none system (withoutSlashes rest) = r.target system
      ↔ r.system = some system ∧ front = system := by
  have hname := r.isIdentifier_name
  unfold path at hpath
  -- Without a system the domain has taken a part of the name.
  cases hsystem : r.system with
  | none =>
      rw [hsystem] at hpath
      exact iff_of_false (r.resolve_rest_ne hne hpath system) nofun
  | some s =>
      rw [hsystem] at hpath
      dsimp only at hpath
      by_cases hfront : front = s
      · subst hfront
        -- The domain is all of the system, so a bare name is left.
        obtain rfl : rest = "/" ++ r.name := by
          rw [qualify, String.append_assoc] at hpath
          exact ((String.append_right_inj _).1 hpath).symm
        rw [withoutSlashes_slash,
          withoutSlashes_eq_self (head?_ne_of_all (all_isAlphanumeric hname)),
          resolve_word (all_isAlphanumeric hname), target, hsystem, Option.getD_some]
        constructor
        · intro heq
          obtain rfl := (qualify_injective hname hname heq).1
          exact ⟨rfl, rfl⟩
        · rintro ⟨h, -⟩
          cases h
          rfl
      · refine iff_of_false ?_ fun h => hfront (h.2.trans (Option.some.inj h.1).symm)
        rw [← String.toList_inj, toList_qualify, String.toList_append] at hpath
        rcases List.append_eq_append_iff.1 hpath with
          ⟨inside, hinside, hrest⟩ | ⟨inside, hinside, hrest⟩
        · -- More than the system is missing: its slash, and then a part of the name.
          cases inside with
          | nil => exact absurd (String.toList_inj.1 (hinside.trans (List.append_nil _))) hfront
          | cons c inside =>
              obtain ⟨rfl, hname'⟩ := List.cons.inj hrest
              have hinside' : String.ofList inside ≠ "" := by
                intro hempty
                refine hlast ?_
                rw [hinside, String.ofList_eq_empty_iff.1 hempty, List.getLast?_append]
                rfl
              have hrest' : r.name = String.ofList inside ++ rest := by
                rw [← String.toList_inj, String.toList_append, String.toList_ofList]
                exact hname'
              exact r.resolve_rest_ne hinside' hrest' system
        · -- A part of the system is missing.
          obtain rfl : rest = qualify (String.ofList inside) r.name := by
            rw [← String.toList_inj, hrest, toList_qualify, String.toList_ofList]
          have hs : s = front ++ String.ofList inside := eq_append_ofList hinside
          refine r.resolve_qualify_rest_ne hsystem hne (fun hempty => hfront ?_) hs system
          rw [hs, hempty, String.append_empty]

/-- Below a domain a reference names the type that it names without one, unless the domain cuts into
it. -/
theorem resolve_domain_iff (hsystem : isIdentifier system = true) :
    resolve (some domain) system r.text = r.target system ↔ ¬ r.IsCutBy domain system := by
  by_cases hbegins : ∃ rest, r.text = (Emitter.ofDomain domain).domain ++ rest
  · obtain ⟨rest, htext⟩ := hbegins
    have hlast : (Emitter.ofDomain domain).domain.toList.getLast? ≠ some separator := by
      rw [toList_ofDomain]
      exact getLast?_trimEndSlashes _
    rw [resolve_of_eq_append htext]
    -- Each way to begin the text is settled by its own lemma.
    rcases r.cases_of_append htext hlast with
      hempty | ⟨m, n, hparents, hdomain, rfl⟩ | ⟨m, n, hparents, hdomain, rfl⟩
      | ⟨inside, hne, hdomain, hpath⟩
    · rw [hempty, String.empty_append] at htext
      rw [← htext, r.withoutSlashes_text]
      refine iff_of_true (r.resolve_text system) fun hcut => ?_
      have hlength := hcut.length_domain
      rw [hempty, show "".toList.length = 0 from rfl] at hlength
      omega
    · refine iff_of_true (r.resolve_behind_dots n system) fun hcut => ?_
      have hlength := hcut.length_domain
      rw [hdomain, length_escapes_append, show "..".toList.length = 2 from rfl] at hlength
      omega
    · rw [r.resolve_behind_dot_iff n hsystem, r.isCutBy_iff_of_dot hparents hdomain]
    · have hlast' : inside.toList.getLast? ≠ some separator := by
        rwa [hdomain, String.toList_append, List.getLast?_append_of_ne_nil _
          fun hnil => hne (String.toList_eq_nil_iff.1 hnil)] at hlast
      rw [r.resolve_rest_iff hne hlast' hpath, r.isCutBy_iff_of_names hne hdomain hpath, not_not]
  -- A text that does not begin with the domain is read as without one.
  · rw [resolve_of_forall_ne fun rest hrest => hbegins ⟨rest, hrest⟩]
    exact iff_of_true (r.resolve_text system) fun hcut => hbegins hcut.exists_rest

/-- No reference begins with a domain that has another sign than letters, digits, dots and slashes.
-/
theorem not_isCutBy_of_sign
    (h : ∃ c ∈ domain.toList, isAlphanumeric c = false ∧ c ≠ '.' ∧ c ≠ separator) :
    ¬ r.IsCutBy domain system := by
  obtain ⟨c, hc, halphanumeric, hdot, hslash⟩ := h
  intro hcut
  obtain ⟨rest, htext⟩ := hcut.exists_rest
  -- Only slashes are trimmed, so the sign is still there.
  obtain ⟨front, behind, hdomain⟩ := List.append_of_mem hc
  have hmem : c ∈ r.text.toList := by
    rw [htext, String.toList_append, toList_ofDomain, hdomain, trimEndSlashes_append hslash]
    simp
  rcases r.mem_text hmem with h | h | h
  · rw [h] at halphanumeric
    cases halphanumeric
  · exact hdot h
  · exact hslash h

end Reference

/-! ## The two readers of references -/

/-- Of a text that is accepted as a reference, the reader that knows the domain and the one that
does not name the same type, unless the domain cuts into the reference. The first of them reads the
references of a fragment, the second the types of properties. A domain does not cut if it has any
sign other than letters, digits, dots and slashes. -/
theorem resolve_domain_eq_iff {system text : String} (hsystem : isIdentifier system = true)
    (htext : isReference text = true) (domain : String) :
    ∃ r : Reference, r.text = text
      ∧ (resolve (some domain) system text = resolve none system text
        ↔ ¬ r.IsCutBy domain system)
      ∧ (∀ p : Property, p.propertyType = text →
        ((Emitter.ofDomain domain).fragmentTarget system text = Emitter.propertyTarget system p
          ↔ ¬ r.IsCutBy domain system))
      ∧ ((∃ c ∈ domain.toList, isAlphanumeric c = false ∧ c ≠ '.' ∧ c ≠ separator) →
        ¬ r.IsCutBy domain system) := by
  obtain ⟨r, rfl⟩ := (isReference_iff text).1 htext
  have hiff : resolve (some domain) system r.text = resolve none system r.text
      ↔ ¬ r.IsCutBy domain system := by
    rw [r.resolve_text]
    exact r.resolve_domain_iff hsystem
  refine ⟨r, rfl, hiff, fun p hp => ?_, r.not_isCutBy_of_sign⟩
  rw [Emitter.fragmentTarget_of_notMem r.number_sign_notMem_text, Emitter.propertyTarget, hp]
  exact hiff

/-- A domain that is a word, and a name that begins with the same word. -/
theorem resolve_domain_ne_acmeOrder : isIdentifier "test" = true ∧ isReference "acmeOrder" = true
    ∧ resolve (some "acme") "test" "acmeOrder" = "test/Order"
    ∧ resolve none "test" "acmeOrder" = "test/acmeOrder"
    ∧ ∃ r : Reference, r.text = "acmeOrder" ∧ r.IsCutBy "acme" "test"
      ∧ ¬ r.IsCutBy "https://acme.org" "test" := by
  have hcut : resolve (some "acme") "test" "acmeOrder" = "test/Order" := by decide +kernel
  have hplain : resolve none "test" "acmeOrder" = "test/acmeOrder" := by decide +kernel
  have hreference : isReference "acmeOrder" = true := by decide
  have hsystem : isIdentifier "test" = true := by decide
  obtain ⟨r, htext, hiff, -⟩ := resolve_domain_eq_iff hsystem hreference "acme"
  refine ⟨hsystem, hreference, hcut, hplain, r, htext, ?_, ?_⟩
  · by_contra hnot
    have heq := hiff.2 hnot
    rw [hcut, hplain] at heq
    exact absurd heq (by decide)
  · exact r.not_isCutBy_of_sign ⟨':', by decide, by decide, by decide, by decide⟩

end TypeCatalog.Name
