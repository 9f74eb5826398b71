import TypeCatalog.Proofs.Schema.Reference

/-!
# How references are written

A reference below no domain is written as a number of `../` and then a name, or a system and a name
with a slash between them. `Name.Reference` holds these parts. `isReference` accepts the texts of
such references and no others (`isReference_iff`), and `resolve` takes the parts out of the text
again (`Reference.resolve_text`).

The main statement is `resolve_spelled`: what a reference names is a qualified name of two
identifiers. It can be split into its parts, it names itself as a reference from any system, and so
does the address that an emitter makes of it, whatever the domain is and however many slashes follow
the domain on either side.

`Reference.text` writes the parts and `Reference.target` is the type that they name. In between
stand `exists_eq_escapes`, which takes all `../` off a text as `dropParents` does, and
`splitLastChars_cases`, which follows the split at the last slash in `isReference`.
-/

set_option autoImplicit false

namespace TypeCatalog.Name

/-! ## Texts of references -/

/-- A reference in its parts. -/
structure Reference where
  /-- How many `../` stand in front. -/
  parents : Nat
  /-- The system, if the reference names one. -/
  system : Option String
  name : String
  isIdentifier_system : ∀ s ∈ system, isIdentifier s = true
  isIdentifier_name : isIdentifier name = true

/-- The text `../` a number of times. -/
def escapes : Nat → String
  | 0 => ""
  | n + 1 => "../" ++ escapes n

namespace Reference

/-- What stands behind the `../` in front. -/
def path (r : Reference) : String :=
  match r.system with
  | some s => qualify s r.name
  | none => r.name

/-- The reference as it is written. -/
def text (r : Reference) : String := escapes r.parents ++ r.path

/-- The type that a reference inside a system names. -/
def target (r : Reference) (system : String) : String := qualify (r.system.getD system) r.name

end Reference

/-- One more `../` stands in front of the others. -/
theorem toList_escapes_succ (n : Nat) :
    (escapes (n + 1)).toList = '.' :: '.' :: '/' :: (escapes n).toList := by
  rw [escapes, String.toList_append]
  rfl

/-- The last `../` may as well be told apart as the first one. -/
theorem escapes_succ (n : Nat) : escapes (n + 1) = escapes n ++ "../" := by
  induction n with
  | zero => rfl
  | succ n ih =>
      calc escapes (n + 1 + 1) = "../" ++ (escapes n ++ "../") := congrArg ("../" ++ ·) ih
        _ = escapes (n + 1) ++ "../" := String.append_assoc.symm

/-- There is nothing but dots and slashes in `../`. -/
theorem mem_escapes {n : Nat} {c : Char} (h : c ∈ (escapes n).toList) :
    c = '.' ∨ c = separator := by
  induction n with
  | zero => cases h
  | succ n ih =>
      rw [toList_escapes_succ] at h
      simp only [List.mem_cons] at h
      rcases h with h | h | h | h
      · exact .inl h
      · exact .inl h
      · exact .inr h
      · exact ih h

/-- All `../` in front are dropped. -/
theorem dropParents_escapes (n : Nat) (cs : List Char) :
    dropParents ((escapes n).toList ++ cs) = dropParents cs := by
  induction n with
  | zero => rfl
  | succ n ih =>
      rw [toList_escapes_succ]
      exact ih

/-- What is dropped in front of a text are whole `../`. -/
theorem exists_eq_escapes (cs : List Char) :
    ∃ n, cs = (escapes n).toList ++ dropParents cs := by
  fun_induction dropParents cs with
  | case1 cs ih =>
      obtain ⟨n, hn⟩ := ih
      refine ⟨n + 1, ?_⟩
      rw [toList_escapes_succ]
      exact congrArg ('.' :: '.' :: '/' :: ·) hn
  | case2 cs => exact ⟨0, rfl⟩

namespace Reference

variable (r : Reference)

/-- The first sign behind the `../` in front is a letter or a digit. -/
theorem exists_path_cons : ∃ c cs, r.path.toList = c :: cs ∧ isAlphanumeric c = true := by
  unfold path
  cases hsystem : r.system with
  | none =>
      obtain ⟨c, cs, hcs, hc, -⟩ := exists_of_isIdentifier r.isIdentifier_name
      exact ⟨c, cs, hcs, isAlphanumeric_of_isLowerCase hc⟩
  | some s =>
      obtain ⟨c, cs, hcs, hc, -⟩ := exists_of_isIdentifier (r.isIdentifier_system s hsystem)
      refine ⟨c, cs ++ separator :: r.name.toList, ?_, isAlphanumeric_of_isLowerCase hc⟩
      dsimp only
      rw [toList_qualify, hcs, List.cons_append]

/-- The signs of a reference are letters and digits, dots and slashes. -/
theorem mem_text {c : Char} (h : c ∈ r.text.toList) :
    isAlphanumeric c = true ∨ c = '.' ∨ c = separator := by
  have hname {s : String} (hs : isIdentifier s = true) (hc : c ∈ s.toList) :
      isAlphanumeric c = true := List.all_eq_true.1 (all_isAlphanumeric hs) c hc
  rw [text, String.toList_append, List.mem_append] at h
  rcases h with h | h
  · exact .inr (mem_escapes h)
  · unfold path at h
    cases hsystem : r.system with
    | none =>
        rw [hsystem] at h
        exact .inl (hname r.isIdentifier_name h)
    | some s =>
        rw [hsystem] at h
        dsimp only at h
        rw [toList_qualify, List.mem_append, List.mem_cons] at h
        rcases h with h | h | h
        · exact .inl (hname (r.isIdentifier_system s hsystem) h)
        · exact .inr (.inr h)
        · exact .inl (hname r.isIdentifier_name h)

/-- So a reference has no number sign. -/
theorem number_sign_notMem_text : '#' ∉ r.text.toList := by
  intro h
  rcases r.mem_text h with h | h | h
  · exact absurd h (by decide)
  · exact absurd h (by decide)
  · exact absurd h (by decide)

/-- Without its `../` a reference is its system and name. -/
theorem dropParents_text : dropParents r.text.toList = r.path.toList := by
  obtain ⟨c, cs, hcs, hc⟩ := r.exists_path_cons
  rw [text, String.toList_append, dropParents_escapes, hcs,
    dropParents_cons (ne_of_isAlphanumeric hc (by decide))]

end Reference

/-! ## What is accepted -/

/-- A text is accepted exactly when it is that of a reference. -/
theorem isReference_iff (text : String) :
    isReference text = true ↔ ∃ r : Reference, r.text = text := by
  constructor
  · intro h
    obtain ⟨n, htext⟩ := exists_eq_escapes text.toList
    unfold isReference at h
    dsimp only at h
    -- What is left behind the `../` is a name, or a system and a name.
    rcases splitLastChars_cases (dropParents text.toList) with
      ⟨-, hsplit⟩ | ⟨front, last, -, hpath, hsplit⟩
    · rw [hsplit] at h
      have hname : isIdentifier (String.ofList (dropParents text.toList)) = true := by
        rwa [isIdentifier, String.toList_ofList]
      refine ⟨⟨n, none, _, nofun, hname⟩, ?_⟩
      rw [← String.toList_inj, Reference.text, String.toList_append]
      exact (congrArg ((escapes n).toList ++ ·) String.toList_ofList).trans htext.symm
    · rw [hsplit, Bool.and_eq_true] at h
      have hsystem : isIdentifier (String.ofList front) = true := by
        rw [isIdentifier, String.toList_ofList]
        exact h.1
      have hname : isIdentifier (String.ofList last) = true := by
        rw [isIdentifier, String.toList_ofList]
        exact h.2
      refine ⟨⟨n, some _, _, fun s hs => Option.some.inj hs ▸ hsystem, hname⟩, ?_⟩
      rw [← String.toList_inj, htext, hpath, Reference.text, String.toList_append]
      show _ ++ (qualify (String.ofList front) (String.ofList last)).toList = _
      rw [toList_qualify, String.toList_ofList, String.toList_ofList]
  · rintro ⟨r, rfl⟩
    unfold isReference
    dsimp only
    rw [r.dropParents_text]
    unfold Reference.path
    have hname := r.isIdentifier_name
    cases hsystem : r.system with
    | none =>
        dsimp only
        rw [splitLastChars_eq_none (separator_notMem hname)]
        exact hname
    | some s =>
        dsimp only
        rw [toList_qualify, splitLastChars_append (separator_notMem hname)]
        exact Bool.and_eq_true_iff.2 ⟨r.isIdentifier_system s hsystem, hname⟩

/-! ## What is named -/

/-- What a text names where no domain is dropped. -/
theorem resolve_eq_of_lastSegments {system text : String} {a b : List Char}
    (h : lastSegments system.toList (dropHere (dropParents text.toList)) = (a, b)) :
    resolve none system text = qualify (String.ofList a) (String.ofList b) := by
  unfold resolve
  dsimp only
  rw [h]

/-- What is dropped in front makes no difference. -/
theorem resolve_congr {text text' : String}
    (h : dropHere (dropParents text.toList) = dropHere (dropParents text'.toList))
    (system : String) : resolve none system text = resolve none system text' := by
  unfold resolve
  dsimp only
  rw [h]

/-- Any number of `../` in front makes no difference to what is named. -/
theorem resolve_escapes (n : Nat) (system text : String) :
    resolve none system (escapes n ++ text) = resolve none system text :=
  resolve_congr (by rw [String.toList_append, dropParents_escapes]) system

/-- Letters and digits are a name within the system. -/
theorem resolve_word {word : String} (h : word.toList.all isAlphanumeric = true)
    (system : String) : resolve none system word = qualify system word := by
  have hdropped : dropHere (dropParents word.toList) = word.toList := by
    cases hword : word.toList with
    | nil => rfl
    | cons c cs =>
        rw [hword, List.all_cons, Bool.and_eq_true] at h
        exact dropHere_dropParents_cons h.1
  have hsegments : lastSegments system.toList (dropHere (dropParents word.toList))
      = (system.toList, word.toList) := by
    rw [hdropped, lastSegments, splitLastChars_eq_none (notMem_of_all h (by decide))]
  rw [resolve_eq_of_lastSegments hsegments, String.ofList_toList, String.ofList_toList]

/-- Two words with a slash between them are a qualified name. -/
theorem resolve_qualify {a b : String} (hne : a ≠ "") (ha : a.toList.all isAlphanumeric = true)
    (hb : b.toList.all isAlphanumeric = true) (system : String) :
    resolve none system (qualify a b) = qualify a b := by
  have hdropped : dropHere (dropParents (qualify a b).toList) = (qualify a b).toList := by
    rw [toList_qualify]
    cases hword : a.toList with
    | nil => exact absurd (String.toList_eq_nil_iff.1 hword) hne
    | cons c cs =>
        rw [hword, List.all_cons, Bool.and_eq_true] at ha
        exact dropHere_dropParents_cons ha.1
  have hsegments : lastSegments system.toList (dropHere (dropParents (qualify a b).toList))
      = (a.toList, b.toList) := by
    rw [hdropped, toList_qualify, lastSegments,
      splitLastChars_append (notMem_of_all hb (by decide))]
    dsimp only
    rw [splitLastChars_eq_none (notMem_of_all ha (by decide))]
  rw [resolve_eq_of_lastSegments hsegments, String.ofList_toList, String.ofList_toList]

/-- An identifier is not empty. -/
theorem ne_empty_of_isIdentifier {s : String} (h : isIdentifier s = true) : s ≠ "" := by
  rintro rfl
  cases h

/-- A qualified name names itself, from any system. -/
theorem resolve_of_isTypeName {t : String} (ht : IsTypeName t) (system : String) :
    resolve none system t = t := by
  obtain ⟨s, n, hs, hn, rfl⟩ := ht
  exact resolve_qualify (ne_empty_of_isIdentifier hs) (all_isAlphanumeric hs)
    (all_isAlphanumeric hn) system

namespace Reference

variable (r : Reference) {system : String}

/-- The system and the name are read as the target of the reference. -/
theorem resolve_path (system : String) : resolve none system r.path = r.target system := by
  have hname := all_isAlphanumeric r.isIdentifier_name
  unfold path target
  cases hsystem : r.system with
  | none => exact resolve_word hname system
  | some s =>
      have hs := r.isIdentifier_system s hsystem
      exact resolve_qualify (ne_empty_of_isIdentifier hs) (all_isAlphanumeric hs) hname system

/-- The text of a reference names its system, or the one in which it stands, and its name. -/
theorem resolve_text (system : String) : resolve none system r.text = r.target system :=
  (resolve_escapes r.parents system r.path).trans (r.resolve_path system)

/-- The system that is named is an identifier, be it written or that of the reader. -/
theorem isIdentifier_getD (hsystem : isIdentifier system = true) :
    isIdentifier (r.system.getD system) = true := by
  cases h : r.system with
  | none => exact hsystem
  | some s => exact r.isIdentifier_system s h

/-- The target of a reference is a qualified name of two identifiers. -/
theorem isTypeName_target (hsystem : isIdentifier system = true) :
    IsTypeName (r.target system) :=
  ⟨_, _, r.isIdentifier_getD hsystem, r.isIdentifier_name, rfl⟩

end Reference

/-! ## Slashes behind a domain -/

/-- The text `/` a number of times. -/
def slashes (n : Nat) : String := String.ofList (List.replicate n separator)

/-- Slashes behind a domain are trimmed away. -/
theorem trimEndSlashes_slashes (domain : String) (n : Nat) :
    trimEndSlashes (domain ++ slashes n).toList = trimEndSlashes domain.toList := by
  unfold trimEndSlashes dropSlashes slashes
  rw [String.toList_append, String.toList_ofList, List.reverse_append, List.reverse_replicate,
    List.dropWhile_append_of_pos fun c hc => decide_eq_true (List.eq_of_mem_replicate hc)]

/-- So the emitters of a domain with and without such slashes are the same. -/
theorem ofDomain_slashes (domain : String) (n : Nat) :
    Emitter.ofDomain (domain ++ slashes n) = Emitter.ofDomain domain := by
  unfold Emitter.ofDomain
  rw [trimEndSlashes_slashes]

/-! ## References, qualified names and addresses -/

/-- The texts that are accepted are those made of any number of `../` and then a name or a system
and a name. Inside a system such a text names the type of that name in the system that is written,
or else in the system itself. The name of the type is a qualified name of two identifiers, which can
be split into them again. As a reference it names itself, whatever the system is, and so does the
address that an emitter makes of it. Slashes behind the domain make no difference to the emitter or
to the reader of the address. -/
theorem resolve_spelled (text : String) :
    (isReference text = true ↔ ∃ r : Reference, r.text = text)
    ∧ ∀ (r : Reference) (system : String), r.text = text → isIdentifier system = true →
      resolve none system text = qualify (r.system.getD system) r.name
      ∧ IsTypeName (resolve none system text)
      ∧ split? (resolve none system text) = some (r.system.getD system, r.name)
      ∧ ∀ other, resolve none other (resolve none system text) = resolve none system text
        ∧ ∀ domain m n, resolve (some (domain ++ slashes m)) other
            ((Emitter.ofDomain (domain ++ slashes n)).uri (resolve none system text))
          = resolve none system text := by
  refine ⟨isReference_iff text, ?_⟩
  rintro r system rfl hsystem
  have ht := r.isTypeName_target hsystem
  rw [r.resolve_text]
  refine ⟨rfl, ht, split?_qualify r.isIdentifier_name, fun other => ⟨?_, fun domain m n => ?_⟩⟩
  · exact resolve_of_isTypeName ht other
  · rw [ofDomain_slashes, ← ofDomain_slashes domain m]
    exact resolve_uri ht _ other

/-- A reference that goes up before it names another system, below a domain with slashes at its end.
-/
theorem resolve_spelled_direction : isReference "../alt/direction" = true
    ∧ isIdentifier "test" = true
    ∧ resolve none "test" "../alt/direction" = "alt/direction"
    ∧ split? "alt/direction" = some ("alt", "direction")
    ∧ resolve (some "https://jsonotron.org//") "test"
      ((Emitter.ofDomain "https://jsonotron.org/").uri "alt/direction") = "alt/direction" := by
  let r : Reference := ⟨1, some "alt", "direction", by decide, by decide⟩
  obtain ⟨hiff, hspelled⟩ := resolve_spelled "../alt/direction"
  obtain ⟨hresolve, -, hsplit, hother⟩ := hspelled r "test" rfl (by decide)
  have hdirection : resolve none "test" "../alt/direction" = "alt/direction" := hresolve
  have haddress := (hother "test").2 "https://jsonotron.org" 2 1
  rw [hdirection] at hsplit haddress
  exact ⟨hiff.2 ⟨r, rfl⟩, by decide, hdirection, hsplit, haddress⟩

end TypeCatalog.Name
