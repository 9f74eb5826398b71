import Mathlib.Data.List.DropRight
import TypeCatalog.Proofs.Validation.Address

/-!
# What a reference names

A reference of a fragment names a type by the last two segments of its text. The emitter looks only
at the text in front of the first number sign, and writes the address of the type with the rest of
the text behind it. A reader who takes that address as a whole takes the last two segments of all of
it. `Name.resolve_uri_append` says when this gives the type again: when nothing stands behind the
address, or when what stands there ends with the qualified name of that very type.

The emitter is `Emitter.emittedReference`, which splits the text by `Fragment.behind` and writes
`Emitter.uri`. The reader that takes the address as a whole is `TypeMap.Build`, through
`Name.resolve`. `resolve_uri_append_eq` gives the two segments that such a reader ends with, and
`segments_unique` says that a text has them in one way.
-/

set_option autoImplicit false

namespace TypeCatalog

namespace Name

/-! ## Segments -/

/-- A text has no slash, or it has a last one. -/
theorem splitLastChars_cases (cs : List Char) :
    (separator ∉ cs ∧ splitLastChars cs = none)
    ∨ ∃ front last, separator ∉ last ∧ cs = front ++ separator :: last
      ∧ splitLastChars cs = some (front, last) := by
  by_cases h : separator ∈ cs
  · obtain ⟨tsal, tnorf, hcs, hlast⟩ := List.eq_append_cons_of_mem (List.mem_reverse.2 h)
    have hsplit : cs = tnorf.reverse ++ separator :: tsal.reverse := by
      rw [← List.reverse_inj, hcs]
      simp
    have hnot : separator ∉ tsal.reverse := fun hmem => hlast (List.mem_reverse.1 hmem)
    refine .inr ⟨_, _, hnot, hsplit, ?_⟩
    rw [hsplit]
    exact splitLastChars_append hnot
  · exact .inl ⟨h, splitLastChars_eq_none h⟩

/-- A text has its last two segments in one way only. -/
theorem segments_unique {front front' a a' b b' : List Char} (ha : separator ∉ a)
    (ha' : separator ∉ a') (hb : separator ∉ b) (hb' : separator ∉ b')
    (h : front ++ separator :: (a ++ separator :: b)
      = front' ++ separator :: (a' ++ separator :: b')) : a = a' ∧ b = b' := by
  rw [← List.cons_append, ← List.cons_append, ← List.append_assoc, ← List.append_assoc] at h
  -- The second segment stands behind the last slash, and the first one behind the last before it.
  have houter := congrArg splitLastChars h
  rw [splitLastChars_append hb, splitLastChars_append hb'] at houter
  obtain ⟨hfront, hlast⟩ := Prod.mk.inj (Option.some.inj houter)
  have hinner := congrArg splitLastChars hfront
  rw [splitLastChars_append ha, splitLastChars_append ha'] at hinner
  exact ⟨(Prod.mk.inj (Option.some.inj hinner)).2, hlast⟩

/-- A path with a slash in it names the type of its last two segments, whatever the system. A slash
in front of the path makes sure that there is one before the first of the two. -/
theorem exists_lastSegments {path : List Char} (system : List Char) (h : separator ∈ path) :
    ∃ front a b, separator ∉ a ∧ separator ∉ b ∧ lastSegments system path = (a, b)
      ∧ separator :: path = front ++ separator :: (a ++ separator :: b) := by
  rcases splitLastChars_cases path with ⟨hnot, -⟩ | ⟨front, b, hb, hpath, hsplit⟩
  · exact absurd h hnot
  · rcases splitLastChars_cases front with ⟨ha, hfront⟩ | ⟨rest, a, ha, hfront, hinner⟩
    · refine ⟨[], front, b, ha, hb, ?_, by rw [hpath, List.nil_append]⟩
      rw [lastSegments, hsplit]
      dsimp only
      rw [hfront]
    · refine ⟨separator :: rest, a, b, ha, hb, ?_, by rw [hpath, hfront]; simp⟩
      rw [lastSegments, hsplit]
      dsimp only
      rw [hinner]

/-! ## What is dropped in front -/

/-- What does not begin with a dot has no `../` to drop. -/
theorem dropParents_cons {c : Char} {cs : List Char} (hdot : c ≠ '.') :
    dropParents (c :: cs) = c :: cs := by
  unfold dropParents
  split
  · next heq => exact absurd (List.cons.inj heq).1 hdot
  · rfl

/-- Nor has it a `./`. -/
theorem dropHere_cons {c : Char} {cs : List Char} (hdot : c ≠ '.') :
    dropHere (c :: cs) = c :: cs := by
  unfold dropHere
  split
  · next heq => exact absurd (List.cons.inj heq).1 hdot
  · rfl

/-- Nothing is dropped in front of a letter or a digit. -/
theorem dropHere_dropParents_cons {c : Char} {cs : List Char} (hc : isAlphanumeric c = true) :
    dropHere (dropParents (c :: cs)) = c :: cs := by
  have hdot : c ≠ '.' := ne_of_isAlphanumeric hc (by decide)
  rw [dropParents_cons hdot, dropHere_cons hdot]

/-- What does not begin with a slash has none to drop. -/
theorem dropSlashes_cons {c : Char} {cs : List Char} (hc : c ≠ separator) :
    dropSlashes (c :: cs) = c :: cs :=
  List.dropWhile_cons_of_neg (by simpa using hc)

/-- The slash that comes next is dropped, too. -/
theorem dropSlashes_separator (cs : List Char) :
    dropSlashes (separator :: cs) = dropSlashes cs :=
  List.dropWhile_cons_of_pos (by simp)

/-- What stands below a domain is left of a reference when the domain is dropped. -/
theorem dropDomain_append {domain : List Char} {c : Char} {cs : List Char}
    (hc : isAlphanumeric c = true) :
    dropDomain domain (trimEndSlashes domain ++ separator :: c :: cs) = c :: cs := by
  unfold dropDomain
  dsimp only
  rw [if_pos (List.isPrefixOf_iff_prefix.2 (List.prefix_append _ _)), List.drop_left,
    dropSlashes_separator, dropSlashes_cons (ne_of_isAlphanumeric hc (by decide))]

/-! ## Slashes at the end of a domain -/

/-- Slashes at the end are dropped once and for all. -/
theorem trimEndSlashes_trimEndSlashes (cs : List Char) :
    trimEndSlashes (trimEndSlashes cs) = trimEndSlashes cs := by
  unfold trimEndSlashes dropSlashes
  rw [List.reverse_reverse, List.dropWhile_idempotent]

/-- The domain of an emitter takes the place of the domain that it was made for. -/
theorem resolve_domain (domain system reference : String) :
    resolve (some (Emitter.ofDomain domain).domain) system reference
      = resolve (some domain) system reference := by
  unfold resolve Emitter.ofDomain dropDomain
  dsimp only
  rw [String.toList_ofList, trimEndSlashes_trimEndSlashes]

/-! ## Addresses read back -/

/-- The text of an address with something behind it. -/
theorem toList_uri_append (domain t behind : String) :
    ((Emitter.ofDomain domain).uri t ++ behind).toList
      = trimEndSlashes domain.toList ++ separator :: (t.toList ++ behind.toList) := by
  unfold Emitter.uri Emitter.ofDomain
  simp only [String.toList_append, String.toList_ofList, List.append_assoc]
  rfl

/-- An address below the domain, with something behind it, read as a reference: what is read are
the last two segments of the name of the type and all that follows. -/
theorem resolve_uri_append_eq {t : String} (ht : IsTypeName t) (domain system behind : String) :
    ∃ front a b, separator ∉ a ∧ separator ∉ b
      ∧ resolve (some domain) system ((Emitter.ofDomain domain).uri t ++ behind)
        = qualify (String.ofList a) (String.ofList b)
      ∧ separator :: (t.toList ++ behind.toList) = front ++ separator :: (a ++ separator :: b) := by
  obtain ⟨s, n, hs, hn, rfl⟩ := ht
  obtain ⟨c, cs, hcs, hlower, -⟩ := exists_of_isIdentifier hs
  have hc := isAlphanumeric_of_isLowerCase hlower
  have hmem : separator ∈ (qualify s n).toList ++ behind.toList := by
    rw [toList_qualify]
    simp
  obtain ⟨front, a, b, ha, hb, hsegments, hpath⟩ := exists_lastSegments system.toList hmem
  refine ⟨front, a, b, ha, hb, ?_, hpath⟩
  unfold resolve
  dsimp only
  have hhead : (qualify s n).toList ++ behind.toList
      = c :: (cs ++ separator :: (n.toList ++ behind.toList)) := by
    rw [toList_qualify, hcs]
    simp
  rw [toList_uri_append, hhead, dropDomain_append hc, dropHere_dropParents_cons hc, ← hhead,
    hsegments]

/-- Where the address of a type is read with something behind it that begins with a number sign, it
names the type again in two cases only: nothing stands behind it, or what does ends with a slash and
the qualified name of the type. -/
theorem resolve_uri_append {t : String} (ht : IsTypeName t) (domain system : String)
    {behind : String} (hbehind : behind = "" ∨ behind.toList.head? = some '#') :
    resolve (some domain) system ((Emitter.ofDomain domain).uri t ++ behind) = t
      ↔ behind = "" ∨ ∃ front, behind = front ++ "/" ++ t := by
  obtain ⟨front, a, b, ha, hb, hresolve, hpath⟩ := resolve_uri_append_eq ht domain system behind
  obtain ⟨s, n, hs, hn, rfl⟩ := ht
  have hs' := separator_notMem hs
  have hn' := separator_notMem hn
  rw [hresolve]
  constructor
  · intro heq
    have hlist := congrArg String.toList heq
    rw [toList_qualify, String.toList_ofList, String.toList_ofList] at hlist
    rw [hlist] at hpath
    rcases hbehind with hempty | hsign
    · exact .inl hempty
    · right
      -- The type and what stands behind it end with the same two segments that were read.
      rw [← List.cons_append] at hpath
      rcases List.append_eq_append_iff.1 hpath with ⟨rest, -, hrest⟩ | ⟨rest, -, hrest⟩
      · refine ⟨String.ofList rest, ?_⟩
        rw [← String.toList_inj, hrest]
        simp [separator]
      · -- The number sign would be part of the name of the type.
        have hsignMem : '#' ∈ separator :: (qualify s n).toList := by
          rw [hrest]
          exact List.mem_append_right _ (List.mem_of_mem_head? hsign)
        rcases List.mem_cons.1 hsignMem with h | h
        · cases h
        · exact absurd h (notMem_qualify hs hn (by decide) (by decide))
  · intro h
    -- In both cases the text ends with the type, and it has its last two segments in one way.
    have hends : ∃ rest, separator :: ((qualify s n).toList ++ behind.toList)
        = rest ++ separator :: (s.toList ++ separator :: n.toList) := by
      rcases h with rfl | ⟨front', rfl⟩
      · refine ⟨[], ?_⟩
        rw [toList_qualify]
        simp
      · refine ⟨separator :: ((qualify s n).toList ++ front'.toList), ?_⟩
        rw [toList_qualify, String.toList_append, String.toList_append, toList_qualify]
        simp [separator]
    obtain ⟨rest, hrest⟩ := hends
    obtain ⟨rfl, rfl⟩ := segments_unique ha hs' hb hn' (hpath.symm.trans hrest)
    rw [String.ofList_toList, String.ofList_toList]

/-- The address of a type is read as the type. -/
theorem resolve_uri {t : String} (ht : IsTypeName t) (domain system : String) :
    resolve (some domain) system ((Emitter.ofDomain domain).uri t) = t := by
  have h := (resolve_uri_append ht domain system (.inl rfl)).2 (.inl rfl)
  rwa [String.append_empty] at h

end Name

/-! ## What the emitter writes -/

/-- What stands behind the type in a reference: the first number sign and all that follows. -/
def Fragment.behind (reference : String) : String :=
  String.ofList (reference.toList.dropWhile (· ≠ '#'))

/-- What stands behind a reference is nothing, or it begins with the number sign. -/
theorem Fragment.behind_eq_or (reference : String) :
    Fragment.behind reference = "" ∨ (Fragment.behind reference).toList.head? = some '#' := by
  unfold Fragment.behind
  rw [String.toList_ofList]
  cases hrest : reference.toList.dropWhile (· ≠ '#') with
  | nil => exact .inl rfl
  | cons c cs =>
      have hhead := List.head?_dropWhile_not (fun c => decide (c ≠ '#')) reference.toList
      rw [hrest] at hhead
      right
      simpa using hhead

namespace Fragment

section

variable {front behind : String} (hfront : '#' ∉ front.toList)
  (hbehind : behind = "" ∨ behind.toList.head? = some '#')

include hbehind

/-- A text that is empty or begins with a number sign has nothing in front of a number sign. -/
theorem span_of_behind : behind.toList.takeWhile (· ≠ '#') = []
    ∧ behind.toList.dropWhile (· ≠ '#') = behind.toList := by
  rcases hbehind with rfl | hhead
  · exact ⟨rfl, rfl⟩
  · cases hcs : behind.toList with
    | nil => exact ⟨rfl, rfl⟩
    | cons c cs =>
        rw [hcs] at hhead
        obtain rfl := Option.some.inj hhead
        exact ⟨rfl, rfl⟩

include hfront

/-- What stands in front of the first number sign. -/
theorem splitPointer_fst_append : (splitPointer (front ++ behind)).1 = front := by
  have hne : ∀ c ∈ front.toList, decide (c ≠ '#') = true := fun c hc =>
    decide_eq_true fun heq => hfront (heq ▸ hc)
  obtain ⟨htake, hdrop⟩ := span_of_behind hbehind
  unfold splitPointer
  rw [List.span_eq_takeWhile_dropWhile, String.toList_append,
    List.takeWhile_append_of_pos hne, List.dropWhile_append_of_pos hne, htake, hdrop]
  cases hcs : behind.toList with
  | nil =>
      rw [String.toList_eq_nil_iff.1 hcs]
      exact String.append_empty
  | cons c cs => simp

/-- What stands behind it, with the sign. -/
theorem behind_append : Fragment.behind (front ++ behind) = behind := by
  have hne : ∀ c ∈ front.toList, decide (c ≠ '#') = true := fun c hc =>
    decide_eq_true fun heq => hfront (heq ▸ hc)
  unfold Fragment.behind
  rw [String.toList_append, List.dropWhile_append_of_pos hne, (span_of_behind hbehind).2,
    String.ofList_toList]

end

/-- Without a number sign all of a reference stands in front. -/
theorem splitPointer_fst_of_notMem {reference : String} (h : '#' ∉ reference.toList) :
    (splitPointer reference).1 = reference := by
  have hfst := splitPointer_fst_append h (.inl rfl)
  rwa [String.append_empty] at hfst

/-- Nothing stands behind a reference without a number sign. -/
theorem behind_of_notMem {reference : String} (h : '#' ∉ reference.toList) :
    behind reference = "" := by
  have hbehind := behind_append h (.inl rfl)
  rwa [String.append_empty] at hbehind

end Fragment

/-- The type that a reference without a number sign names is the one that it names below the domain.
-/
theorem Emitter.fragmentTarget_of_notMem {reference : String} (h : '#' ∉ reference.toList)
    (domain system : String) : (ofDomain domain).fragmentTarget system reference
      = Name.resolve (some domain) system reference := by
  unfold fragmentTarget
  rw [Fragment.splitPointer_fst_of_notMem h, Name.resolve_domain]

/-- The emitter writes the address of the type, with what stands behind it in the reference. -/
theorem Emitter.emittedReference_eq (e : Emitter) (system reference : String) :
    e.emittedReference system reference
      = e.uri (e.fragmentTarget system reference) ++ Fragment.behind reference := by
  unfold Emitter.emittedReference Fragment.splitPointer Fragment.behind
  rw [List.span_eq_takeWhile_dropWhile]
  have hhead := List.head?_dropWhile_not (fun c => decide (c ≠ '#')) reference.toList
  cases hrest : reference.toList.dropWhile (· ≠ '#') with
  | nil => simp
  | cons c cs =>
      rw [hrest] at hhead
      obtain rfl : c = '#' := by simpa using hhead
      show e.uri _ ++ "#" ++ String.ofList cs = _
      rw [String.append_assoc, String.ofList_cons]
      rfl

end TypeCatalog
