import TypeCatalog.Proofs.Validation.Verdict

/-!
# References inside schemas

What a schema says of a value depends on references by what is followed for them. `Schema.mapLinks`
gives the references of a schema other targets, and `Schema.carries` says that this changes
nothing if following the new ones gives what following the old ones gives.

Not all references count for the value itself: those inside the schemas of properties and items are
followed for the parts of a value. `Schema.Uses` keeps the two apart, with one condition for the
references that are followed for the value and one for those that are followed for its parts.

`Schema.errors` and `Schema.looksAt` take two arguments for what to follow: `here` for references to
the value itself, and `below` for those to its parts. `Follow.Alike` compares two such arguments,
and `Schema.Carries` is the property that is shown for all schemas by induction, with one lemma such
as `carries_allOf` for each keyword. The induction is mutual over schemas, keywords, and the lists
in which they stand, in the same way as the evaluation.
-/

set_option autoImplicit false

namespace TypeCatalog

namespace Schema

/-! ## Other targets -/

mutual
/-- The schema with its references mapped to others. -/
def mapLinks (f : Link → Link) : Schema → Schema
  | boolean all => .boolean all
  | keywords ks => .keywords (mapKeywordListLinks f ks)

def mapKeywordListLinks (f : Link → Link) : List Keyword → List Keyword
  | [] => []
  | k :: ks => mapKeywordLinks f k :: mapKeywordListLinks f ks

/-- The keyword with its references mapped to others. -/
def mapKeywordLinks (f : Link → Link) : Keyword → Keyword
  | .constraint c => .constraint c
  | .reference l => .reference (f l)
  | .allOf ss => .allOf (mapListLinks f ss)
  | .anyOf ss => .anyOf (mapListLinks f ss)
  | .oneOf ss => .oneOf (mapListLinks f ss)
  | .not s written => .not (mapLinks f s) written
  | .conditional c t e => .conditional (mapLinks f c) (mapLinks f t) (mapLinks f e)
  | .properties ps => .properties (mapNamedLinks f ps)
  | .patternProperties qs => .patternProperties (mapPatternLinks f qs)
  | .closed ps qs rest => .closed (mapNamedLinks f ps) (mapPatternLinks f qs) (mapLinks f rest)
  | .noProperties => .noProperties
  | .anyProperties => .anyProperties
  | .propertyNames s => .propertyNames (mapLinks f s)
  | .dependencies ps => .dependencies (mapNamedLinks f ps)
  | .items s => .items (mapLinks f s)
  | .tuple ss => .tuple (mapListLinks f ss)
  | .additionalItems n s => .additionalItems n (mapLinks f s)
  | .itemsFrom n s => .itemsFrom n (mapLinks f s)
  | .anyItems => .anyItems
  | .contains least most looksAt s => .contains least most looksAt (mapLinks f s)
  | .unevaluatedProperties siblings s =>
    .unevaluatedProperties (mapKeywordListLinks f siblings) (mapLinks f s)
  | .unevaluatedItems siblings s =>
    .unevaluatedItems (mapKeywordListLinks f siblings) (mapLinks f s)

def mapListLinks (f : Link → Link) : List Schema → List Schema
  | [] => []
  | s :: ss => mapLinks f s :: mapListLinks f ss

def mapNamedLinks (f : Link → Link) : List (String × Schema) → List (String × Schema)
  | [] => []
  | (name, s) :: ps => (name, mapLinks f s) :: mapNamedLinks f ps

def mapPatternLinks (f : Link → Link) :
    List (Pattern.Search × Schema) → List (Pattern.Search × Schema)
  | [] => []
  | (r, s) :: qs => (r, mapLinks f s) :: mapPatternLinks f qs
end

-- What follows opens both sides of each equation: the schema that is mapped and what it says.
attribute [local simp] mapLinks mapKeywordListLinks mapKeywordLinks mapListLinks mapNamedLinks
  mapPatternLinks errors keywordErrors looksAt keywordLooksAt

/-- A schema that nothing satisfies stays so. -/
@[simp]
theorem isNothing_mapLinks (f : Link → Link) (s : Schema) :
    (s.mapLinks f).isNothing = s.isNothing := by
  cases s with
  | boolean all => rfl
  | keywords ks => rfl

/-- Schemas stay as many. -/
@[simp]
theorem length_mapListLinks (f : Link → Link) (ss : List Schema) :
    (mapListLinks f ss).length = ss.length := by
  induction ss with
  | nil => rfl
  | cons s ss ih => rw [mapListLinks, List.length_cons, List.length_cons, ih]

/-! ## Conditions on references -/

mutual
/-- Whether the references that a schema follows for the value satisfy one condition, and those that
it follows for the parts of the value another. -/
def Uses (here below : Link → Prop) : Schema → Prop
  | boolean _ => True
  | keywords ks => KeywordListUses here below ks

def KeywordListUses (here below : Link → Prop) : List Keyword → Prop
  | [] => True
  | k :: ks => KeywordUses here below k ∧ KeywordListUses here below ks

/-- Whether the references of a keyword satisfy the conditions. -/
def KeywordUses (here below : Link → Prop) : Keyword → Prop
  | .constraint _ => True
  | .reference l => here l
  | .allOf ss => ListUses here below ss
  | .anyOf ss => ListUses here below ss
  | .oneOf ss => ListUses here below ss
  | .not s _ => Uses here below s
  | .conditional c t e => Uses here below c ∧ Uses here below t ∧ Uses here below e
  | .properties ps => NamedUses below below ps
  | .patternProperties qs => PatternUses below below qs
  | .closed ps qs rest =>
    NamedUses below below ps ∧ PatternUses below below qs ∧ Uses below below rest
  | .noProperties => True
  | .anyProperties => True
  | .propertyNames s => Uses here below s
  | .dependencies ps => NamedUses here below ps
  | .items s => Uses below below s
  | .tuple ss => ListUses below below ss
  | .additionalItems _ s => Uses below below s
  | .itemsFrom _ s => Uses below below s
  | .anyItems => True
  | .contains _ _ _ s => Uses below below s
  | .unevaluatedProperties siblings s =>
    KeywordListUses here below siblings ∧ Uses below below s
  | .unevaluatedItems siblings s => KeywordListUses here below siblings ∧ Uses below below s

def ListUses (here below : Link → Prop) : List Schema → Prop
  | [] => True
  | s :: ss => Uses here below s ∧ ListUses here below ss

def NamedUses (here below : Link → Prop) : List (String × Schema) → Prop
  | [] => True
  | (_, s) :: ps => Uses here below s ∧ NamedUses here below ps

def PatternUses (here below : Link → Prop) : List (Pattern.Search × Schema) → Prop
  | [] => True
  | (_, s) :: qs => Uses here below s ∧ PatternUses here below qs
end

mutual
/-- The conditions can be checked reference by reference. -/
def decideUses (H B : Link → Prop) [DecidablePred H] [DecidablePred B] :
    (s : Schema) → Decidable (s.Uses H B)
  | boolean _ => .isTrue trivial
  | keywords ks => decideKeywordListUses H B ks

def decideKeywordListUses (H B : Link → Prop) [DecidablePred H] [DecidablePred B] :
    (ks : List Keyword) → Decidable (KeywordListUses H B ks)
  | [] => .isTrue trivial
  | k :: ks =>
    have := decideKeywordUses H B k
    have := decideKeywordListUses H B ks
    inferInstanceAs (Decidable (_ ∧ _))

def decideKeywordUses (H B : Link → Prop) [DecidablePred H] [DecidablePred B] :
    (k : Keyword) → Decidable (KeywordUses H B k)
  | .constraint _ => .isTrue trivial
  | .reference l => inferInstanceAs (Decidable (H l))
  | .allOf ss => decideListUses H B ss
  | .anyOf ss => decideListUses H B ss
  | .oneOf ss => decideListUses H B ss
  | .not s _ => decideUses H B s
  | .conditional c t e =>
    have := decideUses H B c
    have := decideUses H B t
    have := decideUses H B e
    inferInstanceAs (Decidable (_ ∧ _ ∧ _))
  | .properties ps => decideNamedUses B B ps
  | .patternProperties qs => decidePatternUses B B qs
  | .closed ps qs rest =>
    have := decideNamedUses B B ps
    have := decidePatternUses B B qs
    have := decideUses B B rest
    inferInstanceAs (Decidable (_ ∧ _ ∧ _))
  | .noProperties => .isTrue trivial
  | .anyProperties => .isTrue trivial
  | .propertyNames s => decideUses H B s
  | .dependencies ps => decideNamedUses H B ps
  | .items s => decideUses B B s
  | .tuple ss => decideListUses B B ss
  | .additionalItems _ s => decideUses B B s
  | .itemsFrom _ s => decideUses B B s
  | .anyItems => .isTrue trivial
  | .contains _ _ _ s => decideUses B B s
  | .unevaluatedProperties siblings s =>
    have := decideKeywordListUses H B siblings
    have := decideUses B B s
    inferInstanceAs (Decidable (_ ∧ _))
  | .unevaluatedItems siblings s =>
    have := decideKeywordListUses H B siblings
    have := decideUses B B s
    inferInstanceAs (Decidable (_ ∧ _))

def decideListUses (H B : Link → Prop) [DecidablePred H] [DecidablePred B] :
    (ss : List Schema) → Decidable (ListUses H B ss)
  | [] => .isTrue trivial
  | s :: ss =>
    have := decideUses H B s
    have := decideListUses H B ss
    inferInstanceAs (Decidable (_ ∧ _))

def decideNamedUses (H B : Link → Prop) [DecidablePred H] [DecidablePred B] :
    (ps : List (String × Schema)) → Decidable (NamedUses H B ps)
  | [] => .isTrue trivial
  | (_, s) :: ps =>
    have := decideUses H B s
    have := decideNamedUses H B ps
    inferInstanceAs (Decidable (_ ∧ _))

def decidePatternUses (H B : Link → Prop) [DecidablePred H] [DecidablePred B] :
    (qs : List (Pattern.Search × Schema)) → Decidable (PatternUses H B qs)
  | [] => .isTrue trivial
  | (_, s) :: qs =>
    have := decideUses H B s
    have := decidePatternUses H B qs
    inferInstanceAs (Decidable (_ ∧ _))
end

instance (H B : Link → Prop) [DecidablePred H] [DecidablePred B] (s : Schema) :
    Decidable (s.Uses H B) := decideUses H B s

end Schema

/-! ## Following alike -/

/-- Whether following a mapped reference gives what following the reference itself gives, for the
references that satisfy a condition and for the values with fewer levels than a number. -/
structure Follow.Alike (f : Link → Link) (condition : Link → Prop) (n : Nat) (F G : Follow) :
    Prop where
  errors : ∀ l, condition l → ∀ v : Json, v.levels < n → F.errors l v = G.errors (f l) v
  looksAt : ∀ l, condition l → ∀ v : Json, v.levels < n → F.looksAt l v = G.looksAt (f l) v

namespace Schema

/-! ## Lists of schemas -/

section

variable (f : Link → Link) (H B : Link → Prop)

/-- Keywords are mapped one by one. -/
theorem mapKeywordListLinks_eq (ks : List Keyword) :
    mapKeywordListLinks f ks = ks.map (mapKeywordLinks f) := by
  induction ks with
  | nil => rfl
  | cons k ks ih => rw [mapKeywordListLinks, ih, List.map_cons]

/-- So are the schemas of a list. -/
theorem mapListLinks_eq (ss : List Schema) : mapListLinks f ss = ss.map (mapLinks f) := by
  induction ss with
  | nil => rfl
  | cons s ss ih => rw [mapListLinks, ih, List.map_cons]

/-- So are those of named properties. -/
theorem mapNamedLinks_eq (ps : List (String × Schema)) :
    mapNamedLinks f ps = ps.map fun p => (p.1, p.2.mapLinks f) := by
  induction ps with
  | nil => rfl
  | cons p ps ih => rw [mapNamedLinks, ih, List.map_cons]

/-- And those behind patterns. -/
theorem mapPatternLinks_eq (qs : List (Pattern.Search × Schema)) :
    mapPatternLinks f qs = qs.map fun q => (q.1, q.2.mapLinks f) := by
  induction qs with
  | nil => rfl
  | cons q qs ih => rw [mapPatternLinks, ih, List.map_cons]

/-- The conditions hold of keywords if they hold of each. -/
theorem keywordListUses_iff {ks : List Keyword} :
    KeywordListUses H B ks ↔ ∀ k ∈ ks, KeywordUses H B k := by
  induction ks with
  | nil => exact iff_of_true trivial nofun
  | cons k ks ih => rw [KeywordListUses, ih, List.forall_mem_cons]

/-- They hold of schemas if they hold of each. -/
theorem listUses_iff {ss : List Schema} : ListUses H B ss ↔ ∀ s ∈ ss, Uses H B s := by
  induction ss with
  | nil => exact iff_of_true trivial nofun
  | cons s ss ih => rw [ListUses, ih, List.forall_mem_cons]

/-- So it is for named properties. -/
theorem namedUses_iff {ps : List (String × Schema)} :
    NamedUses H B ps ↔ ∀ p ∈ ps, Uses H B p.2 := by
  induction ps with
  | nil => exact iff_of_true trivial nofun
  | cons p ps ih => rw [NamedUses, ih, List.forall_mem_cons]

/-- And for schemas behind patterns. -/
theorem patternUses_iff {qs : List (Pattern.Search × Schema)} :
    PatternUses H B qs ↔ ∀ q ∈ qs, Uses H B q.2 := by
  induction qs with
  | nil => exact iff_of_true trivial nofun
  | cons q qs ih => rw [PatternUses, ih, List.forall_mem_cons]

end

/-! ## Conditions together

Conditions are looked at reference by reference: what two conditions give together holds where both
hold, and a condition on the references that others were mapped to is one on these. -/

/-- Whether two conditions on references give a third one. -/
def Give (P Q R : Link → Prop) : Prop := ∀ l, P l → Q l → R l

mutual
/-- Two facts on references give a third one for a whole schema, if they give it for each reference.
-/
theorem uses_give : ∀ (s : Schema) {H H' H'' B B' B'' : Link → Prop}, Give H H' H'' →
    Give B B' B'' → s.Uses H B → s.Uses H' B' → s.Uses H'' B''
  | boolean _ => fun _ _ _ _ => trivial
  | keywords ks => keywordListUses_give ks

/-- They give it for a list of keywords. -/
theorem keywordListUses_give : ∀ (ks : List Keyword) {H H' H'' B B' B'' : Link → Prop},
    Give H H' H'' → Give B B' B'' → KeywordListUses H B ks → KeywordListUses H' B' ks →
      KeywordListUses H'' B'' ks
  | [] => fun _ _ _ _ => trivial
  | k :: ks => fun hH hB h h' =>
    ⟨keywordUses_give k hH hB h.1 h'.1, keywordListUses_give ks hH hB h.2 h'.2⟩

/-- They give it for a keyword. Schemas for parts of the value are under the second condition only.
-/
theorem keywordUses_give : ∀ (k : Keyword) {H H' H'' B B' B'' : Link → Prop}, Give H H' H'' →
    Give B B' B'' → KeywordUses H B k → KeywordUses H' B' k → KeywordUses H'' B'' k
  | .constraint _ => fun _ _ _ _ => trivial
  | .reference l => fun hH _ h h' => hH l h h'
  | .allOf ss => listUses_give ss
  | .anyOf ss => listUses_give ss
  | .oneOf ss => listUses_give ss
  | .not s _ => uses_give s
  | .conditional c t e => fun hH hB h h' =>
    ⟨uses_give c hH hB h.1 h'.1, uses_give t hH hB h.2.1 h'.2.1, uses_give e hH hB h.2.2 h'.2.2⟩
  | .properties ps => fun _ hB => namedUses_give ps hB hB
  | .patternProperties qs => fun _ hB => patternUses_give qs hB hB
  | .closed ps qs rest => fun _ hB h h' =>
    ⟨namedUses_give ps hB hB h.1 h'.1, patternUses_give qs hB hB h.2.1 h'.2.1,
      uses_give rest hB hB h.2.2 h'.2.2⟩
  | .noProperties => fun _ _ _ _ => trivial
  | .anyProperties => fun _ _ _ _ => trivial
  | .propertyNames s => uses_give s
  | .dependencies ps => namedUses_give ps
  | .items s => fun _ hB => uses_give s hB hB
  | .tuple ss => fun _ hB => listUses_give ss hB hB
  | .additionalItems _ s => fun _ hB => uses_give s hB hB
  | .itemsFrom _ s => fun _ hB => uses_give s hB hB
  | .anyItems => fun _ _ _ _ => trivial
  | .contains _ _ _ s => fun _ hB => uses_give s hB hB
  | .unevaluatedProperties siblings s => fun hH hB h h' =>
    ⟨keywordListUses_give siblings hH hB h.1 h'.1, uses_give s hB hB h.2 h'.2⟩
  | .unevaluatedItems siblings s => fun hH hB h h' =>
    ⟨keywordListUses_give siblings hH hB h.1 h'.1, uses_give s hB hB h.2 h'.2⟩

/-- They give it for a list of schemas. -/
theorem listUses_give : ∀ (ss : List Schema) {H H' H'' B B' B'' : Link → Prop}, Give H H' H'' →
    Give B B' B'' → ListUses H B ss → ListUses H' B' ss → ListUses H'' B'' ss
  | [] => fun _ _ _ _ => trivial
  | s :: ss => fun hH hB h h' => ⟨uses_give s hH hB h.1 h'.1, listUses_give ss hH hB h.2 h'.2⟩

/-- They give it for named properties. -/
theorem namedUses_give : ∀ (ps : List (String × Schema)) {H H' H'' B B' B'' : Link → Prop},
    Give H H' H'' → Give B B' B'' → NamedUses H B ps → NamedUses H' B' ps → NamedUses H'' B'' ps
  | [] => fun _ _ _ _ => trivial
  | (_, s) :: ps => fun hH hB h h' =>
    ⟨uses_give s hH hB h.1 h'.1, namedUses_give ps hH hB h.2 h'.2⟩

/-- And they give it for schemas behind patterns. -/
theorem patternUses_give : ∀ (qs : List (Pattern.Search × Schema))
    {H H' H'' B B' B'' : Link → Prop}, Give H H' H'' → Give B B' B'' → PatternUses H B qs →
      PatternUses H' B' qs → PatternUses H'' B'' qs
  | [] => fun _ _ _ _ => trivial
  | (_, s) :: qs => fun hH hB h h' =>
    ⟨uses_give s hH hB h.1 h'.1, patternUses_give qs hH hB h.2 h'.2⟩
end

/-- Conditions may be replaced by weaker ones. -/
theorem Uses.imp {s : Schema} {H H' B B' : Link → Prop} (h : s.Uses H B) (hH : ∀ l, H l → H' l)
    (hB : ∀ l, B l → B' l) : s.Uses H' B' :=
  uses_give s (fun l hl _ => hH l hl) (fun l hl _ => hB l hl) h h

mutual
/-- What a schema with other targets uses is what the old one uses, mapped. -/
theorem uses_mapLinks (f : Link → Link) : ∀ (s : Schema) {H B : Link → Prop},
    (s.mapLinks f).Uses H B ↔ s.Uses (fun l => H (f l)) fun l => B (f l)
  | boolean _ => Iff.rfl
  | keywords ks => keywordListUses_mapLinks f ks

/-- The same for a list of keywords. -/
theorem keywordListUses_mapLinks (f : Link → Link) : ∀ (ks : List Keyword) {H B : Link → Prop},
    KeywordListUses H B (mapKeywordListLinks f ks)
      ↔ KeywordListUses (fun l => H (f l)) (fun l => B (f l)) ks
  | [] => Iff.rfl
  | k :: ks => and_congr (keywordUses_mapLinks f k) (keywordListUses_mapLinks f ks)

/-- The same for a keyword. -/
theorem keywordUses_mapLinks (f : Link → Link) : ∀ (k : Keyword) {H B : Link → Prop},
    KeywordUses H B (mapKeywordLinks f k) ↔ KeywordUses (fun l => H (f l)) (fun l => B (f l)) k
  | .constraint _ => Iff.rfl
  | .reference _ => Iff.rfl
  | .allOf ss => listUses_mapLinks f ss
  | .anyOf ss => listUses_mapLinks f ss
  | .oneOf ss => listUses_mapLinks f ss
  | .not s _ => uses_mapLinks f s
  | .conditional c t e =>
    and_congr (uses_mapLinks f c) (and_congr (uses_mapLinks f t) (uses_mapLinks f e))
  | .properties ps => namedUses_mapLinks f ps
  | .patternProperties qs => patternUses_mapLinks f qs
  | .closed ps qs rest =>
    and_congr (namedUses_mapLinks f ps)
      (and_congr (patternUses_mapLinks f qs) (uses_mapLinks f rest))
  | .noProperties => Iff.rfl
  | .anyProperties => Iff.rfl
  | .propertyNames s => uses_mapLinks f s
  | .dependencies ps => namedUses_mapLinks f ps
  | .items s => uses_mapLinks f s
  | .tuple ss => listUses_mapLinks f ss
  | .additionalItems _ s => uses_mapLinks f s
  | .itemsFrom _ s => uses_mapLinks f s
  | .anyItems => Iff.rfl
  | .contains _ _ _ s => uses_mapLinks f s
  | .unevaluatedProperties siblings s =>
    and_congr (keywordListUses_mapLinks f siblings) (uses_mapLinks f s)
  | .unevaluatedItems siblings s =>
    and_congr (keywordListUses_mapLinks f siblings) (uses_mapLinks f s)

/-- The same for a list of schemas. -/
theorem listUses_mapLinks (f : Link → Link) : ∀ (ss : List Schema) {H B : Link → Prop},
    ListUses H B (mapListLinks f ss) ↔ ListUses (fun l => H (f l)) (fun l => B (f l)) ss
  | [] => Iff.rfl
  | s :: ss => and_congr (uses_mapLinks f s) (listUses_mapLinks f ss)

/-- The same for named properties. -/
theorem namedUses_mapLinks (f : Link → Link) : ∀ (ps : List (String × Schema))
    {H B : Link → Prop},
    NamedUses H B (mapNamedLinks f ps) ↔ NamedUses (fun l => H (f l)) (fun l => B (f l)) ps
  | [] => Iff.rfl
  | (_, s) :: ps => and_congr (uses_mapLinks f s) (namedUses_mapLinks f ps)

/-- And the same for schemas behind patterns. -/
theorem patternUses_mapLinks (f : Link → Link) : ∀ (qs : List (Pattern.Search × Schema))
    {H B : Link → Prop},
    PatternUses H B (mapPatternLinks f qs) ↔ PatternUses (fun l => H (f l)) (fun l => B (f l)) qs
  | [] => Iff.rfl
  | (_, s) :: qs => and_congr (uses_mapLinks f s) (patternUses_mapLinks f qs)
end

mutual
/-- A condition on all references is one on those that are listed. -/
theorem of_mem_links {P : Link → Prop} : ∀ (s : Schema), s.Uses P P → ∀ l ∈ s.links, P l
  | boolean _ => fun _ _ hl => absurd hl List.not_mem_nil
  | keywords ks => of_mem_keywordListLinks ks

/-- A condition on all that keywords use holds of each of their references. -/
theorem of_mem_keywordListLinks {P : Link → Prop} :
    ∀ (ks : List Keyword), KeywordListUses P P ks → ∀ l ∈ keywordListLinks ks, P l
  | [] => fun _ _ hl => absurd hl List.not_mem_nil
  | k :: ks => fun h => List.forall_mem_append.2
    ⟨of_mem_keywordLinks k h.1, of_mem_keywordListLinks ks h.2⟩

/-- A condition on all that a keyword uses holds of each of its references. -/
theorem of_mem_keywordLinks {P : Link → Prop} :
    ∀ (k : Keyword), KeywordUses P P k → ∀ l ∈ keywordLinks k, P l
  | .constraint _ => fun _ _ hl => absurd hl List.not_mem_nil
  | .reference _ => fun h _ hl => List.mem_singleton.1 hl ▸ h
  | .allOf ss => of_mem_listLinks ss
  | .anyOf ss => of_mem_listLinks ss
  | .oneOf ss => of_mem_listLinks ss
  | .not s _ => of_mem_links s
  | .conditional c t e => fun h => List.forall_mem_append.2
    ⟨List.forall_mem_append.2 ⟨of_mem_links c h.1, of_mem_links t h.2.1⟩, of_mem_links e h.2.2⟩
  | .properties ps => of_mem_namedLinks ps
  | .patternProperties qs => of_mem_patternLinks qs
  | .closed ps qs rest => fun h => List.forall_mem_append.2
    ⟨List.forall_mem_append.2 ⟨of_mem_namedLinks ps h.1, of_mem_patternLinks qs h.2.1⟩,
      of_mem_links rest h.2.2⟩
  | .noProperties => fun _ _ hl => absurd hl List.not_mem_nil
  | .anyProperties => fun _ _ hl => absurd hl List.not_mem_nil
  | .propertyNames s => of_mem_links s
  | .dependencies ps => of_mem_namedLinks ps
  | .items s => of_mem_links s
  | .tuple ss => of_mem_listLinks ss
  | .additionalItems _ s => of_mem_links s
  | .itemsFrom _ s => of_mem_links s
  | .anyItems => fun _ _ hl => absurd hl List.not_mem_nil
  | .contains _ _ _ s => of_mem_links s
  | .unevaluatedProperties _ s => fun h => of_mem_links s h.2
  | .unevaluatedItems _ s => fun h => of_mem_links s h.2

/-- So it does for a list of schemas. -/
theorem of_mem_listLinks {P : Link → Prop} :
    ∀ (ss : List Schema), ListUses P P ss → ∀ l ∈ listLinks ss, P l
  | [] => fun _ _ hl => absurd hl List.not_mem_nil
  | s :: ss => fun h => List.forall_mem_append.2 ⟨of_mem_links s h.1, of_mem_listLinks ss h.2⟩

/-- So it does for named properties. -/
theorem of_mem_namedLinks {P : Link → Prop} :
    ∀ (ps : List (String × Schema)), NamedUses P P ps → ∀ l ∈ namedLinks ps, P l
  | [] => fun _ _ hl => absurd hl List.not_mem_nil
  | (_, s) :: ps => fun h => List.forall_mem_append.2
    ⟨of_mem_links s h.1, of_mem_namedLinks ps h.2⟩

/-- And so it does for schemas behind patterns. -/
theorem of_mem_patternLinks {P : Link → Prop} :
    ∀ (qs : List (Pattern.Search × Schema)), PatternUses P P qs → ∀ l ∈ patternLinks qs, P l
  | [] => fun _ _ hl => absurd hl List.not_mem_nil
  | (_, s) :: qs => fun h => List.forall_mem_append.2
    ⟨of_mem_links s h.1, of_mem_patternLinks qs h.2⟩
end

/-! ## What lists of schemas say

Each list of schemas says the same as another one whose schemas say the same one by one. -/

section

variable {g : Schema → Schema} {here below here' below' : Follow}

/-- The errors of each schema of a list are the same if they are for each schema. -/
theorem eachErrors_map {ss : List Schema} {v : Json}
    (h : ∀ s ∈ ss, errors here below s v = errors here' below' (g s) v) :
    eachErrors here below ss v = eachErrors here' below' (ss.map g) v := by
  induction ss with
  | nil => rfl
  | cons s ss ih =>
      rw [List.forall_mem_cons] at h
      rw [List.map_cons, eachErrors, eachErrors, h.1, ih h.2]

/-- So is what they look at. -/
theorem eachLooksAt_map {ss : List Schema} {v : Json}
    (h : ∀ s ∈ ss, errors here below s v = errors here' below' (g s) v
      ∧ looksAt here below s v = looksAt here' below' (g s) v) :
    eachLooksAt here below ss v = eachLooksAt here' below' (ss.map g) v := by
  induction ss with
  | nil => rfl
  | cons s ss ih =>
      rw [List.forall_mem_cons] at h
      rw [List.map_cons, eachLooksAt, eachLooksAt, h.1.1, h.1.2, ih h.2]

/-- So are the errors of the items of a tuple. -/
theorem tupleErrors_map {ss : List Schema} {xs : List Json} (i : Nat)
    (h : ∀ s ∈ ss, ∀ x ∈ xs, errors below below s x = errors below' below' (g s) x) :
    tupleErrors below ss i xs = tupleErrors below' (ss.map g) i xs := by
  induction ss generalizing i xs with
  | nil => rw [List.map_nil, tupleErrors, tupleErrors] <;> simp
  | cons s ss ih =>
      cases xs with
      | nil => rw [tupleErrors, tupleErrors] <;> simp
      | cons x xs =>
          rw [List.map_cons, tupleErrors, tupleErrors, h s (.head _) x (.head _),
            ih (i + 1) fun s hs x hx => h s (.tail _ hs) x (.tail _ hx)]

/-! Schemas with names. -/

variable {ps : List (String × Schema)} {ms : List (String × Json)}

/-- So are the errors of declared properties. -/
theorem declaredErrors_map
    (h : ∀ p ∈ ps, ∀ m ∈ ms, errors below below p.2 m.2 = errors below' below' (g p.2) m.2) :
    declaredErrors below ps ms = declaredErrors below' (ps.map fun p => (p.1, g p.2)) ms := by
  induction ps with
  | nil => rfl
  | cons p ps ih =>
      rw [List.forall_mem_cons] at h
      rw [List.map_cons, declaredErrors, declaredErrors, ih h.2]
      congr 1
      cases hlookup : ms.lookup p.1 with
      | none => rfl
      | some x =>
          dsimp only
          rw [h.1 (p.1, x) (Table.mem_of_lookup hlookup)]

/-- So are those of one member, where it is declared. -/
theorem declaredErrors?_map {m : String × Json}
    (h : ∀ p ∈ ps, errors below below p.2 m.2 = errors below' below' (g p.2) m.2) :
    declaredErrors? below ps m = declaredErrors? below' (ps.map fun p => (p.1, g p.2)) m := by
  induction ps with
  | nil => rfl
  | cons p ps ih =>
      rw [List.forall_mem_cons] at h
      rw [List.map_cons, declaredErrors?, declaredErrors?, h.1, ih h.2]

/-- So are the errors of dependencies. -/
theorem dependencyErrors_map
    (h : ∀ p ∈ ps, errors here below p.2 (.object ms) = errors here' below' (g p.2) (.object ms)) :
    dependencyErrors here below ps ms
      = dependencyErrors here' below' (ps.map fun p => (p.1, g p.2)) ms := by
  induction ps with
  | nil => rfl
  | cons p ps ih =>
      rw [List.forall_mem_cons] at h
      rw [List.map_cons, dependencyErrors, dependencyErrors, h.1, ih h.2]

/-- And so is what dependencies look at. -/
theorem dependencyLooksAt_map
    (h : ∀ p ∈ ps,
      looksAt here below p.2 (.object ms) = looksAt here' below' (g p.2) (.object ms)) :
    dependencyLooksAt here below ps ms
      = dependencyLooksAt here' below' (ps.map fun p => (p.1, g p.2)) ms := by
  induction ps with
  | nil => rfl
  | cons p ps ih =>
      rw [List.forall_mem_cons] at h
      rw [List.map_cons, dependencyLooksAt, dependencyLooksAt, h.1, ih h.2]

/-! Schemas with patterns. -/

variable {qs : List (Pattern.Search × Schema)}

/-- So are the errors of members that match a pattern. -/
theorem patternErrors_map
    (h : ∀ q ∈ qs, ∀ m ∈ ms, errors below below q.2 m.2 = errors below' below' (g q.2) m.2) :
    patternErrors below qs ms = patternErrors below' (qs.map fun q => (q.1, g q.2)) ms := by
  induction qs with
  | nil => rfl
  | cons q qs ih =>
      rw [List.forall_mem_cons] at h
      rw [List.map_cons, patternErrors, patternErrors, ih h.2]
      congr 1
      refine List.flatMap_congr fun m hm => ?_
      rw [h.1 m hm]

/-- So are those of one member, where it matches. -/
theorem matchingErrors_map {m : String × Json}
    (h : ∀ q ∈ qs, errors below below q.2 m.2 = errors below' below' (g q.2) m.2) :
    matchingErrors below qs m = matchingErrors below' (qs.map fun q => (q.1, g q.2)) m := by
  induction qs with
  | nil => rfl
  | cons q qs ih =>
      rw [List.forall_mem_cons] at h
      rw [List.map_cons, matchingErrors, matchingErrors, h.1, ih h.2]

end

/-- The members that pass a test depend on the test of the members only. -/
theorem membersWhere_congr {test test' : String × Json → Bool} {v : Json}
    (h : ∀ ms, v = .object ms → ∀ m ∈ ms, test m = test' m) :
    membersWhere test v = membersWhere test' v := by
  cases v with
  | object ms =>
      show ((List.filter test ms).map _) = ((List.filter test' ms).map _)
      rw [List.filter_congr (h ms rfl)]
  | _ => rfl

/-- The items of an array that are parts of it. -/
theorem mem_of_mem_parts_array {m : String × Json} {xs : List Json} (h : m ∈ parts (.array xs)) :
    m.2 ∈ xs := by
  obtain ⟨p, hp, rfl⟩ := List.mem_map.1 h
  exact List.fst_mem_of_mem_zipIdx hp

/-- So do the items that pass one. -/
theorem partsWhere_array_congr {test test' : Json → Bool} {xs : List Json}
    (h : ∀ x ∈ xs, test x = test' x) :
    partsWhere (fun m => test m.2) (.array xs) = partsWhere (fun m => test' m.2) (.array xs) := by
  unfold partsWhere
  rw [List.filter_congr fun m hm => h m.2 (mem_of_mem_parts_array hm)]

/-- The errors of items depend on the check of the items only. -/
theorem itemErrors_congr {check check' : Json → List ValueError} {xs : List Json}
    (h : ∀ x ∈ xs, check x = check' x) (index : Nat) :
    itemErrors check index xs = itemErrors check' index xs := by
  unfold itemErrors
  refine List.flatMap_congr fun p hp => ?_
  have hmem : p.1 ∈ xs := List.fst_mem_of_mem_zipIdx hp
  exact congrArg (ValueError.allInside (toString p.2)) (h p.1 hmem)

/-! ## Schemas with other targets -/

/-- Whether a schema says of a value what it says with its references mapped, if these are followed
alike. -/
def Carries (f : Link → Link) (s : Schema) : Prop :=
  ∀ ⦃H B : Link → Prop⦄ ⦃n : Nat⦄ ⦃here below here' below' : Follow⦄, s.Uses H B →
    Follow.Alike f H n here here' → (∀ m < n, Follow.Alike f B m below below') →
    ∀ v : Json, v.levels < n →
      errors here below s v = errors here' below' (s.mapLinks f) v
      ∧ looksAt here below s v = looksAt here' below' (s.mapLinks f) v

/-- The same for a keyword. -/
def KeywordCarries (f : Link → Link) (k : Keyword) : Prop :=
  ∀ ⦃H B : Link → Prop⦄ ⦃n : Nat⦄ ⦃here below here' below' : Follow⦄, KeywordUses H B k →
    Follow.Alike f H n here here' → (∀ m < n, Follow.Alike f B m below below') →
    ∀ v : Json, v.levels < n →
      keywordErrors here below k v = keywordErrors here' below' (mapKeywordLinks f k) v
      ∧ keywordLooksAt here below k v = keywordLooksAt here' below' (mapKeywordLinks f k) v

section

variable {f : Link → Link} {H B : Link → Prop} {n : Nat} {here below here' below' : Follow}

/-- A schema for the parts of a value follows its references as those for parts, which have fewer
levels. -/
theorem Carries.inside {s : Schema} (hs : s.Carries f) (huses : s.Uses B B)
    (hbelow : ∀ m < n, Follow.Alike f B m below below') {v x : Json} (hv : v.levels < n)
    (hx : x.levels < v.levels) :
    errors below below s x = errors below' below' (s.mapLinks f) x :=
  (hs huses (hbelow v.levels hv) (fun m hm => hbelow m (hm.trans hv)) x hx).1

end

/-! ### Keywords for the value itself -/

section

variable {f : Link → Link} {H B : Link → Prop} {n : Nat} {here below here' below' : Follow}

/-- A list of keywords carries over if each keyword does. -/
theorem carries_keywordList {ks : List Keyword} (hks : ∀ k ∈ ks, KeywordCarries f k)
    (huses : KeywordListUses H B ks) (hhere : Follow.Alike f H n here here')
    (hbelow : ∀ m < n, Follow.Alike f B m below below') (v : Json) (hv : v.levels < n) :
    keywordListErrors here below ks v
        = keywordListErrors here' below' (mapKeywordListLinks f ks) v
      ∧ keywordListLooksAt here below ks v
        = keywordListLooksAt here' below' (mapKeywordListLinks f ks) v := by
  induction ks with
  | nil => exact ⟨rfl, rfl⟩
  | cons k ks ih =>
      rw [List.forall_mem_cons] at hks
      obtain ⟨hk, hrest⟩ := huses
      obtain ⟨herrors, hlooksAt⟩ := hks.1 hk hhere hbelow v hv
      obtain ⟨herrors', hlooksAt'⟩ := ih hks.2 hrest
      rw [mapKeywordListLinks, keywordListErrors, keywordListErrors, keywordListLooksAt,
        keywordListLooksAt, herrors, hlooksAt, herrors', hlooksAt']
      exact ⟨rfl, rfl⟩

/-- A list of schemas carries over if each schema does. -/
theorem carries_list {ss : List Schema} (hss : ∀ s ∈ ss, s.Carries f) (huses : ListUses H B ss)
    (hhere : Follow.Alike f H n here here') (hbelow : ∀ m < n, Follow.Alike f B m below below')
    (v : Json) (hv : v.levels < n) :
    eachErrors here below ss v = eachErrors here' below' (mapListLinks f ss) v
      ∧ eachLooksAt here below ss v = eachLooksAt here' below' (mapListLinks f ss) v := by
  rw [listUses_iff] at huses
  have heach := fun s hs => hss s hs (huses s hs) hhere hbelow v hv
  rw [mapListLinks_eq]
  exact ⟨eachErrors_map fun s hs => (heach s hs).1, eachLooksAt_map heach⟩

end

section

variable {f : Link → Link}

/-- `allOf` carries over. -/
theorem carries_allOf {ss : List Schema} (hss : ∀ s ∈ ss, s.Carries f) :
    KeywordCarries f (.allOf ss) := by
  intro H B n here below here' below' huses hhere hbelow v hv
  obtain ⟨herrors, hlooksAt⟩ := carries_list hss huses hhere hbelow v hv
  rw [mapKeywordLinks, keywordErrors, keywordErrors, keywordLooksAt, keywordLooksAt, herrors,
    hlooksAt]
  exact ⟨rfl, rfl⟩

/-- `anyOf` carries over. -/
theorem carries_anyOf {ss : List Schema} (hss : ∀ s ∈ ss, s.Carries f) :
    KeywordCarries f (.anyOf ss) := by
  intro H B n here below here' below' huses hhere hbelow v hv
  obtain ⟨herrors, hlooksAt⟩ := carries_list hss huses hhere hbelow v hv
  rw [mapKeywordLinks, keywordErrors, keywordErrors, keywordLooksAt, keywordLooksAt, herrors,
    hlooksAt]
  exact ⟨rfl, rfl⟩

/-- `oneOf` carries over. -/
theorem carries_oneOf {ss : List Schema} (hss : ∀ s ∈ ss, s.Carries f) :
    KeywordCarries f (.oneOf ss) := by
  intro H B n here below here' below' huses hhere hbelow v hv
  obtain ⟨herrors, hlooksAt⟩ := carries_list hss huses hhere hbelow v hv
  rw [mapKeywordLinks, keywordErrors, keywordErrors, keywordLooksAt, keywordLooksAt, herrors,
    hlooksAt]
  exact ⟨rfl, rfl⟩

/-- `not` carries over. -/
theorem carries_not {s : Schema} (hs : s.Carries f) (written : Json) :
    KeywordCarries f (.not s written) := by
  intro H B n here below here' below' huses hhere hbelow v hv
  rw [mapKeywordLinks, keywordErrors, keywordErrors, (hs huses hhere hbelow v hv).1]
  exact ⟨rfl, rfl⟩

/-- `if`, `then` and `else` carry over. -/
theorem carries_conditional {c t e : Schema} (hc : c.Carries f) (ht : t.Carries f)
    (he : e.Carries f) : KeywordCarries f (.conditional c t e) := by
  intro H B n here below here' below' huses hhere hbelow v hv
  obtain ⟨hcuses, htuses, heuses⟩ := huses
  have hc := hc hcuses hhere hbelow v hv
  have ht := ht htuses hhere hbelow v hv
  have he := he heuses hhere hbelow v hv
  rw [mapKeywordLinks, keywordErrors, keywordErrors, keywordLooksAt, keywordLooksAt, hc.1, hc.2,
    ht.1, ht.2, he.1, he.2]
  exact ⟨rfl, rfl⟩

/-- The names of members are looked at as values themselves. -/
theorem carries_propertyNames {s : Schema} (hs : s.Carries f) :
    KeywordCarries f (.propertyNames s) := by
  intro H B n here below here' below' huses hhere hbelow v hv
  rw [mapKeywordLinks]
  refine ⟨?_, by simp only [keywordLooksAt]⟩
  cases v with
  | object ms =>
      have hname (name : String) : errors here below s (.string name)
          = errors here' below' (s.mapLinks f) (.string name) := by
        have hlevels : (Json.string name).levels < n :=
          Nat.lt_of_le_of_lt (Json.levels_pos (.object ms)) hv
        exact (hs huses hhere hbelow (.string name) hlevels).1
      rw [keywordErrors, keywordErrors, isNothing_mapLinks]
      simp only [hname]
  | _ => simp only [keywordErrors]

/-- `dependencies` carries over. -/
theorem carries_dependencies {ps : List (String × Schema)} (hps : ∀ p ∈ ps, p.2.Carries f) :
    KeywordCarries f (.dependencies ps) := by
  intro H B n here below here' below' huses hhere hbelow v hv
  have huses := (namedUses_iff H B).1 huses
  rw [mapKeywordLinks, mapNamedLinks_eq]
  cases v with
  | object ms =>
      have heach := fun p hp => hps p hp (huses p hp) hhere hbelow (.object ms) hv
      rw [keywordErrors, keywordErrors, keywordLooksAt, keywordLooksAt,
        dependencyErrors_map fun p hp => (heach p hp).1,
        dependencyLooksAt_map fun p hp => (heach p hp).2]
      exact ⟨rfl, rfl⟩
  | _ => simp only [keywordErrors, keywordLooksAt, and_self]

/-! ### Keywords for the parts of the value -/

/-- `properties` carries over, since the values of members have fewer levels. -/
theorem carries_properties {ps : List (String × Schema)} (hps : ∀ p ∈ ps, p.2.Carries f) :
    KeywordCarries f (.properties ps) := by
  intro H B n here below here' below' huses hhere hbelow v hv
  have huses := (namedUses_iff B B).1 huses
  have heach {ms : List (String × Json)} (hms : v = .object ms) : ∀ p ∈ ps, ∀ m ∈ ms,
      errors below below p.2 m.2 = errors below' below' (p.2.mapLinks f) m.2 := fun p hp m hm =>
    (hps p hp).inside (huses p hp) hbelow hv (hms ▸ Json.levels_lt_of_mem_members hm)
  rw [mapKeywordLinks, mapNamedLinks_eq, keywordLooksAt, keywordLooksAt]
  refine ⟨?_, membersWhere_congr fun ms hms m hm => ?_⟩
  · cases v with
    | object ms =>
        rw [keywordErrors, keywordErrors]
        exact declaredErrors_map (heach rfl)
    | _ => simp only [keywordErrors]
  · rw [declaredErrors?_map fun p hp => heach hms p hp m hm]

/-- `patternProperties` carries over. -/
theorem carries_patternProperties {qs : List (Pattern.Search × Schema)}
    (hqs : ∀ q ∈ qs, q.2.Carries f) : KeywordCarries f (.patternProperties qs) := by
  intro H B n here below here' below' huses hhere hbelow v hv
  have huses := (patternUses_iff B B).1 huses
  have heach {ms : List (String × Json)} (hms : v = .object ms) : ∀ q ∈ qs, ∀ m ∈ ms,
      errors below below q.2 m.2 = errors below' below' (q.2.mapLinks f) m.2 := fun q hq m hm =>
    (hqs q hq).inside (huses q hq) hbelow hv (hms ▸ Json.levels_lt_of_mem_members hm)
  rw [mapKeywordLinks, mapPatternLinks_eq, keywordLooksAt, keywordLooksAt]
  refine ⟨?_, membersWhere_congr fun ms hms m hm => ?_⟩
  · cases v with
    | object ms =>
        rw [keywordErrors, keywordErrors]
        exact patternErrors_map (heach rfl)
    | _ => simp only [keywordErrors]
  · rw [matchingErrors_map fun q hq => heach hms q hq m hm]

/-- `additionalProperties` carries over, with the declared properties and the patterns beside it. -/
theorem carries_closed {ps : List (String × Schema)} {qs : List (Pattern.Search × Schema)}
    {rest : Schema} (hps : ∀ p ∈ ps, p.2.Carries f) (hqs : ∀ q ∈ qs, q.2.Carries f)
    (hrest : rest.Carries f) : KeywordCarries f (.closed ps qs rest) := by
  intro H B n here below here' below' huses hhere hbelow v hv
  obtain ⟨hpuses, hquses, hruses⟩ := huses
  rw [namedUses_iff] at hpuses
  rw [patternUses_iff] at hquses
  -- The schemas inside are asked of the members, which have fewer levels than the object.
  have hlevels {ms : List (String × Json)} (hms : v = .object ms) {m : String × Json}
      (hm : m ∈ ms) :
      m.2.levels < v.levels := hms ▸ Json.levels_lt_of_mem_members hm
  have hdeclared {ms : List (String × Json)} (hms : v = .object ms) {m : String × Json}
      (hm : m ∈ ms) : declaredErrors? below ps m
        = declaredErrors? below' (ps.map fun p => (p.1, p.2.mapLinks f)) m :=
    declaredErrors?_map fun p hp => (hps p hp).inside (hpuses p hp) hbelow hv (hlevels hms hm)
  have hmatching {ms : List (String × Json)} (hms : v = .object ms) {m : String × Json}
      (hm : m ∈ ms) : matchingErrors below qs m
        = matchingErrors below' (qs.map fun q => (q.1, q.2.mapLinks f)) m :=
    matchingErrors_map fun q hq => (hqs q hq).inside (hquses q hq) hbelow hv (hlevels hms hm)
  have hothers {ms : List (String × Json)} (hms : v = .object ms) {m : String × Json}
      (hm : m ∈ ms) : errors below below rest m.2 = errors below' below' (rest.mapLinks f) m.2 :=
    hrest.inside hruses hbelow hv (hlevels hms hm)
  rw [mapKeywordLinks, mapNamedLinks_eq, mapPatternLinks_eq, keywordLooksAt, keywordLooksAt]
  refine ⟨?_, membersWhere_congr fun ms hms m hm => ?_⟩
  · cases v with
    | object ms =>
        rw [keywordErrors, keywordErrors, isNothing_mapLinks]
        -- The errors of the members are the same, and so are the members without any.
        refine congrArg (fun found : List ((String × Json) × Option (List ValueError)) =>
          let unexpected := found.filterMap fun p => if p.2.isNone then some p.1.1 else none
          found.flatMap (fun p => ValueError.allInside p.1.1 (p.2.getD []))
            ++ if unexpected.isEmpty then [] else
              [unexpectedError "Additional properties" unexpected])
          (List.map_congr_left fun m hm => ?_)
        dsimp only
        rw [hdeclared rfl hm, hmatching rfl hm, hothers rfl hm]
    | _ => simp only [keywordErrors]
  · rw [hdeclared hms hm, hmatching hms hm, hothers hms hm]

/-- The errors of items under one schema. -/
theorem Carries.items {s : Schema} (hs : s.Carries f) {B : Link → Prop} {n : Nat}
    {below below' : Follow} (huses : s.Uses B B)
    (hbelow : ∀ m < n, Follow.Alike f B m below below') {xs : List Json}
    (hxs : (Json.array xs).levels < n) :
    ∀ x ∈ xs, errors below below s x = errors below' below' (s.mapLinks f) x := fun _ hx =>
  hs.inside huses hbelow hxs (Json.levels_lt_of_mem_items hx)

/-- `items` carries over. -/
theorem carries_items {s : Schema} (hs : s.Carries f) : KeywordCarries f (.items s) := by
  intro H B n here below here' below' huses hhere hbelow v hv
  rw [mapKeywordLinks]
  refine ⟨?_, by simp only [keywordLooksAt]⟩
  cases v with
  | array xs =>
      rw [keywordErrors, keywordErrors]
      exact itemErrors_congr (hs.items huses hbelow hv) 0
  | _ => simp only [keywordErrors]

/-- `items` with a list of schemas carries over. -/
theorem carries_tuple {ss : List Schema} (hss : ∀ s ∈ ss, s.Carries f) :
    KeywordCarries f (.tuple ss) := by
  intro H B n here below here' below' huses hhere hbelow v hv
  have huses := (listUses_iff B B).1 huses
  rw [mapKeywordLinks, keywordLooksAt, keywordLooksAt, length_mapListLinks, mapListLinks_eq]
  refine ⟨?_, rfl⟩
  cases v with
  | array xs =>
      rw [keywordErrors, keywordErrors]
      exact tupleErrors_map 0 fun s hs => (hss s hs).items (huses s hs) hbelow hv
  | _ => simp only [keywordErrors]

/-- The schema for the items from an index on carries over. -/
theorem carries_itemsFrom {s : Schema} (hs : s.Carries f) (k : Nat) :
    KeywordCarries f (.itemsFrom k s) := by
  intro H B n here below here' below' huses hhere hbelow v hv
  rw [mapKeywordLinks]
  refine ⟨?_, by simp only [keywordLooksAt]⟩
  cases v with
  | array xs =>
      rw [keywordErrors, keywordErrors]
      exact itemErrors_congr
        (fun x hx => hs.items huses hbelow hv x (List.mem_of_mem_drop hx)) k
  | _ => simp only [keywordErrors]

/-- `additionalItems` carries over. -/
theorem carries_additionalItems {s : Schema} (hs : s.Carries f) (k : Nat) :
    KeywordCarries f (.additionalItems k s) := by
  intro H B n here below here' below' huses hhere hbelow v hv
  rw [mapKeywordLinks]
  refine ⟨?_, by simp only [keywordLooksAt]⟩
  cases v with
  | array xs =>
      rw [keywordErrors, keywordErrors, isNothing_mapLinks, itemErrors_congr
        (fun x hx => hs.items huses hbelow hv x (List.mem_of_mem_drop hx)) k]
  | _ => simp only [keywordErrors]

/-- `contains` carries over. -/
theorem carries_contains {s : Schema} (hs : s.Carries f) (least : Nat) (most : Option Nat)
    (looksAtItems : Bool) : KeywordCarries f (.contains least most looksAtItems s) := by
  intro H B n here below here' below' huses hhere hbelow v hv
  rw [mapKeywordLinks]
  cases v with
  | array xs =>
      have hxs := hs.items huses hbelow hv
      have hcount : xs.countP (fun x => (errors below below s x).isEmpty)
          = xs.countP fun x => (errors below' below' (s.mapLinks f) x).isEmpty :=
        List.countP_congr fun x hx => by rw [hxs x hx]
      rw [keywordErrors, keywordErrors, hcount, keywordLooksAt, keywordLooksAt,
        partsWhere_array_congr fun x hx => congrArg List.isEmpty (hxs x hx)]
      exact ⟨rfl, rfl⟩
  | _ => simp only [keywordErrors, keywordLooksAt, and_self]

/-- `unevaluatedProperties` carries over, with the keywords beside it that say what was looked at.
-/
theorem carries_unevaluatedProperties {siblings : List Keyword} {s : Schema}
    (hsiblings : ∀ k ∈ siblings, KeywordCarries f k) (hs : s.Carries f) :
    KeywordCarries f (.unevaluatedProperties siblings s) := by
  intro H B n here below here' below' huses hhere hbelow v hv
  obtain ⟨hsiblingUses, huses⟩ := huses
  have hmember : ∀ ms, v = .object ms → ∀ m ∈ ms,
      errors below below s m.2 = errors below' below' (s.mapLinks f) m.2 := fun ms hms m hm =>
    hs.inside huses hbelow hv (hms ▸ Json.levels_lt_of_mem_members hm)
  rw [mapKeywordLinks, keywordLooksAt, keywordLooksAt]
  refine ⟨?_, membersWhere_congr fun ms hms m hm => by rw [hmember ms hms m hm]⟩
  cases v with
  | object ms =>
      have hseen := (carries_keywordList hsiblings hsiblingUses hhere hbelow (.object ms) hv).2
      rw [keywordErrors, keywordErrors, hseen]
      rw [membersWhere_congr fun ms hms m hm => by rw [hmember ms hms m hm]]
  | _ => simp only [keywordErrors]

/-- `unevaluatedItems` carries over in the same way. -/
theorem carries_unevaluatedItems {siblings : List Keyword} {s : Schema}
    (hsiblings : ∀ k ∈ siblings, KeywordCarries f k) (hs : s.Carries f) :
    KeywordCarries f (.unevaluatedItems siblings s) := by
  intro H B n here below here' below' huses hhere hbelow v hv
  obtain ⟨hsiblingUses, huses⟩ := huses
  rw [mapKeywordLinks]
  cases v with
  | array xs =>
      have hxs := hs.items huses hbelow hv
      have hseen := (carries_keywordList hsiblings hsiblingUses hhere hbelow (.array xs) hv).2
      rw [keywordErrors, keywordErrors, hseen, keywordLooksAt, keywordLooksAt,
        partsWhere_array_congr fun x hx => congrArg List.isEmpty (hxs x hx)]
      refine ⟨?_, rfl⟩
      rw [List.filter_congr fun m hm => by rw [hxs m.2 (mem_of_mem_parts_array hm)]]
  | _ => simp only [keywordErrors, keywordLooksAt, and_self]

end

/-! ### Schemas -/

mutual
/-- Every schema carries over. -/
theorem carries (f : Link → Link) : ∀ s : Schema, s.Carries f
  | boolean all => fun _ _ _ _ _ _ _ _ _ _ v _ => by cases all <;> exact ⟨rfl, rfl⟩
  | keywords ks => fun _ _ _ _ _ _ _ huses hhere hbelow v hv =>
    carries_keywordList (keywordList_carries f ks) huses hhere hbelow v hv

/-- So does every keyword of a list. -/
theorem keywordList_carries (f : Link → Link) : ∀ ks : List Keyword, ∀ k ∈ ks, KeywordCarries f k
  | [], _, h => absurd h List.not_mem_nil
  | k :: ks, _, h => by
      rcases List.mem_cons.1 h with heq | h
      · exact heq ▸ keyword_carries f k
      · exact keywordList_carries f ks _ h

/-- Every keyword carries over, by the lemma on its kind. -/
theorem keyword_carries (f : Link → Link) : ∀ k : Keyword, KeywordCarries f k
  | .constraint c => fun _ _ _ _ _ _ _ _ _ _ v _ => ⟨rfl, rfl⟩
  | .reference l => fun _ _ _ _ _ _ _ huses hhere _ v hv =>
    ⟨hhere.errors l huses v hv, hhere.looksAt l huses v hv⟩
  | .allOf ss => carries_allOf (list_carries f ss)
  | .anyOf ss => carries_anyOf (list_carries f ss)
  | .oneOf ss => carries_oneOf (list_carries f ss)
  | .not s written => carries_not (carries f s) written
  | .conditional c t e => carries_conditional (carries f c) (carries f t) (carries f e)
  | .properties ps => carries_properties (named_carries f ps)
  | .patternProperties qs => carries_patternProperties (pattern_carries f qs)
  | .closed ps qs rest =>
    carries_closed (named_carries f ps) (pattern_carries f qs) (carries f rest)
  | .noProperties => fun _ _ _ _ _ _ _ _ _ _ v _ => by
      cases v <;> exact ⟨rfl, rfl⟩
  | .anyProperties => fun _ _ _ _ _ _ _ _ _ _ v _ => ⟨rfl, rfl⟩
  | .propertyNames s => carries_propertyNames (carries f s)
  | .dependencies ps => carries_dependencies (named_carries f ps)
  | .items s => carries_items (carries f s)
  | .tuple ss => carries_tuple (list_carries f ss)
  | .additionalItems k s => carries_additionalItems (carries f s) k
  | .itemsFrom k s => carries_itemsFrom (carries f s) k
  | .anyItems => fun _ _ _ _ _ _ _ _ _ _ v _ => ⟨rfl, rfl⟩
  | .contains least most looksAtItems s => carries_contains (carries f s) least most looksAtItems
  | .unevaluatedProperties siblings s =>
    carries_unevaluatedProperties (keywordList_carries f siblings) (carries f s)
  | .unevaluatedItems siblings s =>
    carries_unevaluatedItems (keywordList_carries f siblings) (carries f s)

/-- So does every schema of a list. -/
theorem list_carries (f : Link → Link) : ∀ ss : List Schema, ∀ s ∈ ss, s.Carries f
  | [], _, h => absurd h List.not_mem_nil
  | s :: ss, _, h => by
      rcases List.mem_cons.1 h with heq | h
      · exact heq ▸ carries f s
      · exact list_carries f ss _ h

/-- So does the schema of every named property. -/
theorem named_carries (f : Link → Link) : ∀ ps : List (String × Schema), ∀ p ∈ ps, p.2.Carries f
  | [], _, h => absurd h List.not_mem_nil
  | (name, s) :: ps, _, h => by
      rcases List.mem_cons.1 h with heq | h
      · exact heq ▸ carries f s
      · exact named_carries f ps _ h

/-- And so does every schema behind a pattern. -/
theorem pattern_carries (f : Link → Link) :
    ∀ qs : List (Pattern.Search × Schema), ∀ q ∈ qs, q.2.Carries f
  | [], _, h => absurd h List.not_mem_nil
  | (r, s) :: qs, _, h => by
      rcases List.mem_cons.1 h with heq | h
      · exact heq ▸ carries f s
      · exact pattern_carries f qs _ h
end

end Schema

end TypeCatalog
