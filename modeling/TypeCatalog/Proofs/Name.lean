import TypeCatalog.Name

/-!
# Identifiers and qualified names

Systems, types, properties and variants are named by identifiers, which hold letters and digits
only. So a qualified name says where its system ends, the name of a variant's type is an
identifier again, and a text with any other sign in it is no name of a type.
-/

set_option autoImplicit false

namespace TypeCatalog.Name

/-! ## Characters -/

/-- The letters `a` to `z` by their code points. -/
theorem isLowerCase_iff {c : Char} : isLowerCase c = true ↔ 97 ≤ c.toNat ∧ c.toNat ≤ 122 := by
  unfold isLowerCase
  rw [decide_eq_true_eq, Char.le_def, Char.le_def, UInt32.le_iff_toNat_le, UInt32.le_iff_toNat_le]
  exact Iff.rfl

/-- The letters `A` to `Z` by their code points. -/
theorem isUpperCase_iff {c : Char} : isUpperCase c = true ↔ 65 ≤ c.toNat ∧ c.toNat ≤ 90 := by
  unfold isUpperCase
  rw [decide_eq_true_eq, Char.le_def, Char.le_def, UInt32.le_iff_toNat_le, UInt32.le_iff_toNat_le]
  exact Iff.rfl

/-- The digits by their code points. -/
theorem isDigit_iff {c : Char} : isDigit c = true ↔ 48 ≤ c.toNat ∧ c.toNat ≤ 57 := by
  unfold isDigit
  rw [decide_eq_true_eq, Char.le_def, Char.le_def, UInt32.le_iff_toNat_le, UInt32.le_iff_toNat_le]
  exact Iff.rfl

/-- The signs that `isIdentifier` allows behind the first one, by their code points: three ranges
with gaps between them. -/
theorem isAlphanumeric_iff {c : Char} : isAlphanumeric c = true ↔
    (97 ≤ c.toNat ∧ c.toNat ≤ 122) ∨ (65 ≤ c.toNat ∧ c.toNat ≤ 90)
      ∨ (48 ≤ c.toNat ∧ c.toNat ≤ 57) := by
  unfold isAlphanumeric
  rw [Bool.or_eq_true, Bool.or_eq_true, isLowerCase_iff, isUpperCase_iff, isDigit_iff, or_assoc]

/-- A text is cut at the first of its signs of one sort in one way only. -/
theorem append_cons_inj {c : Char} {behind behind' : List Char} :
    ∀ {front front' : List Char}, c ∉ front → c ∉ front' →
      front ++ c :: behind = front' ++ c :: behind' → front = front' ∧ behind = behind'
  | [], [], _, _, h => ⟨rfl, (List.cons.inj h).2⟩
  | [], d :: _, _, h', h => absurd (List.cons.inj h).1 fun heq => h' (heq ▸ .head _)
  | d :: _, [], h', _, h => absurd (List.cons.inj h).1 fun heq => h' (heq ▸ .head _)
  | d :: _, d' :: _, hf, hf', h => by
      obtain ⟨rfl, hrest⟩ := List.cons.inj h
      rw [List.mem_cons, not_or] at hf hf'
      obtain ⟨rfl, hbehind⟩ := append_cons_inj hf.2 hf'.2 hrest
      exact ⟨rfl, hbehind⟩

/-- A sign that is no letter and no digit is not in a text of letters and digits. -/
theorem notMem_of_all {cs : List Char} {c : Char} (h : cs.all isAlphanumeric = true)
    (hc : isAlphanumeric c = false) : c ∉ cs := by
  intro hmem
  rw [List.all_eq_true.1 h c hmem] at hc
  cases hc

/-- A letter or digit is none of the signs that identifiers leave out. -/
theorem ne_of_isAlphanumeric {c d : Char} (hc : isAlphanumeric c = true)
    (hd : isAlphanumeric d = false) : c ≠ d := by
  rintro rfl
  rw [hc] at hd
  cases hd

/-! ## Capitals -/

/-- Below the surrogates every number is a code point, so `Char.ofNat` keeps it. -/
theorem toNat_ofNat_of_lt {n : Nat} (h : n < 0xd800) : (Char.ofNat n).toNat = n := by
  have hvalid : n.isValidChar := .inl h
  rw [Char.ofNat, dif_pos hvalid]
  rfl

/-- `capital` takes a small letter 32 code points down. -/
theorem toNat_capital {c : Char} (h : isLowerCase c = true) : (capital c).toNat = c.toNat - 32 := by
  have hrange := isLowerCase_iff.1 h
  rw [capital, if_pos h]
  exact toNat_ofNat_of_lt (by omega)

/-- The capital of a small letter is a letter still. -/
theorem isAlphanumeric_capital {c : Char} (h : isLowerCase c = true) :
    isAlphanumeric (capital c) = true := by
  have hrange := isLowerCase_iff.1 h
  rw [isAlphanumeric_iff, toNat_capital h]
  omega

/-- Different small letters have different capitals, since `capital` moves all of them by the same
distance. -/
theorem capital_injective {a b : Char} (ha : isLowerCase a = true) (hb : isLowerCase b = true)
    (h : capital a = capital b) : a = b := by
  have hrange := isLowerCase_iff.1 ha
  have hrange' := isLowerCase_iff.1 hb
  have hnat := congrArg Char.toNat h
  rw [toNat_capital ha, toNat_capital hb] at hnat
  exact Char.toNat_inj.1 (by omega)

/-! ## Identifiers -/

/-- An identifier, taken apart: a small letter first, and letters and digits behind it. -/
theorem exists_of_isIdentifier {s : String} (h : isIdentifier s = true) :
    ∃ c cs, s.toList = c :: cs ∧ isLowerCase c = true ∧ cs.all isAlphanumeric = true := by
  unfold isIdentifier at h
  cases hs : s.toList with
  | nil =>
      rw [hs] at h
      cases h
  | cons c cs =>
      rw [hs] at h
      obtain ⟨hc, hcs⟩ := Bool.and_eq_true_iff.1 h
      exact ⟨c, cs, rfl, hc, hcs⟩

/-- Small letters are among the signs of identifiers. -/
theorem isAlphanumeric_of_isLowerCase {c : Char} (h : isLowerCase c = true) :
    isAlphanumeric c = true := by
  rw [isAlphanumeric, h]
  rfl

/-- An identifier holds letters and digits only. -/
theorem all_isAlphanumeric {s : String} (h : isIdentifier s = true) :
    s.toList.all isAlphanumeric = true := by
  obtain ⟨c, cs, hs, hc, hcs⟩ := exists_of_isIdentifier h
  rw [hs, List.all_cons, isAlphanumeric_of_isLowerCase hc, hcs]
  rfl

/-- No identifier is empty. -/
theorem toList_ne_nil_of_isIdentifier {s : String} (h : isIdentifier s = true) :
    s.toList ≠ [] := by
  obtain ⟨c, cs, hs, -, -⟩ := exists_of_isIdentifier h
  rw [hs]
  exact List.cons_ne_nil c cs

/-- An identifier does not hold the separator of qualified names, so a qualified name has one only
where its system ends. -/
theorem separator_notMem {s : String} (h : isIdentifier s = true) : separator ∉ s.toList :=
  notMem_of_all (all_isAlphanumeric h) (by decide)

/-- `pascalCase` changes the first sign of a text and no other. -/
theorem toList_pascalCase {s : String} {c : Char} {cs : List Char} (hs : s.toList = c :: cs) :
    (pascalCase s).toList = capital c :: cs := by
  unfold pascalCase
  rw [hs]
  exact String.toList_ofList

/-- Identifiers differ when their capitalised forms do. -/
theorem pascalCase_injective {s t : String} (hs : isIdentifier s = true)
    (ht : isIdentifier t = true) (h : pascalCase s = pascalCase t) : s = t := by
  obtain ⟨a, as, hsl, ha, -⟩ := exists_of_isIdentifier hs
  obtain ⟨b, bs, htl, hb, -⟩ := exists_of_isIdentifier ht
  have hlist := congrArg String.toList h
  rw [toList_pascalCase hsl, toList_pascalCase htl] at hlist
  obtain ⟨hhead, htail⟩ := List.cons.inj hlist
  rw [← String.toList_inj, hsl, htl, capital_injective ha hb hhead, htail]

/-- An identifier followed by a capitalised one is an identifier. -/
theorem isIdentifier_append_pascalCase {s t : String} (hs : isIdentifier s = true)
    (ht : isIdentifier t = true) : isIdentifier (s ++ pascalCase t) = true := by
  obtain ⟨a, as, hsl, ha, has⟩ := exists_of_isIdentifier hs
  obtain ⟨b, bs, htl, hb, hbs⟩ := exists_of_isIdentifier ht
  unfold isIdentifier
  rw [String.toList_append, hsl, toList_pascalCase htl]
  simp [isIdentifierChars, ha, has, isAlphanumeric_capital hb, hbs]

/-- A name with something behind it is another name. -/
theorem append_pascalCase_ne {s t : String} (ht : isIdentifier t = true) :
    s ++ pascalCase t ≠ s := by
  obtain ⟨b, bs, htl, -, -⟩ := exists_of_isIdentifier ht
  intro h
  have hlist := congrArg String.toList h
  rw [String.toList_append, toList_pascalCase htl] at hlist
  simp at hlist

/-! ## Qualified names -/

/-- A qualified name is the system, the separator and the name. -/
theorem toList_qualify (system name : String) :
    (qualify system name).toList = system.toList ++ separator :: name.toList := by
  rw [qualify, String.toList_append, String.toList_append, List.append_assoc]
  rfl

/-- `splitLastChars` finds nothing where there is no separator. -/
theorem splitLastChars_eq_none {cs : List Char} (h : separator ∉ cs) :
    splitLastChars cs = none := by
  induction cs with
  | nil => rfl
  | cons c cs ih =>
      rw [List.mem_cons, not_or] at h
      rw [splitLastChars, ih h.2]
      exact if_neg (Ne.symm h.1)

/-- The last slash of a text is the one behind which there is no other. -/
theorem splitLastChars_append {front last : List Char} (h : separator ∉ last) :
    splitLastChars (front ++ separator :: last) = some (front, last) := by
  induction front with
  | nil =>
      rw [List.nil_append, splitLastChars, splitLastChars_eq_none h]
      exact if_pos rfl
  | cons c cs ih => rw [List.cons_append, splitLastChars, ih]

/-- `split?` takes apart what `qualify` put together, when the name holds no separator; the system
may hold some, since the last one decides. -/
theorem split?_qualify_of_notMem {system name : String} (h : separator ∉ name.toList) :
    split? (qualify system name) = some (system, name) := by
  unfold split?
  rw [toList_qualify, splitLastChars_append h, Option.map_some]
  show some (String.ofList system.toList, String.ofList name.toList) = _
  rw [String.ofList_toList, String.ofList_toList]

/-- In particular it does for identifiers, which hold none. -/
theorem split?_qualify {system name : String} (h : isIdentifier name = true) :
    split? (qualify system name) = some (system, name) :=
  split?_qualify_of_notMem (separator_notMem h)

/-- A qualified name without a slash in its second part has its parts in one way only. -/
theorem qualify_inj {s t m n : String} (hm : separator ∉ m.toList) (hn : separator ∉ n.toList)
    (h : qualify s m = qualify t n) : s = t ∧ m = n := by
  have hsplit := congrArg split? h
  rw [split?_qualify_of_notMem hm, split?_qualify_of_notMem hn] at hsplit
  cases hsplit
  exact ⟨rfl, rfl⟩

/-- A qualified name whose second part is an identifier has its parts in one way only. -/
theorem qualify_injective {s t m n : String} (hm : isIdentifier m = true)
    (hn : isIdentifier n = true) (h : qualify s m = qualify t n) : s = t ∧ m = n :=
  qualify_inj (separator_notMem hm) (separator_notMem hn) h

/-- A qualified name of two identifiers holds the slash and letters and digits. -/
theorem notMem_qualify {system name : String} {c : Char} (hs : isIdentifier system = true)
    (hn : isIdentifier name = true) (hc : isAlphanumeric c = false) (hne : c ≠ separator) :
    c ∉ (qualify system name).toList := by
  rw [toList_qualify, List.mem_append, List.mem_cons, not_or, not_or]
  exact ⟨notMem_of_all (all_isAlphanumeric hs) hc, hne, notMem_of_all (all_isAlphanumeric hn) hc⟩

end TypeCatalog.Name
