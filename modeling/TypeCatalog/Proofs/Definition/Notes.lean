import TypeCatalog.Proofs.Definition.Fields
import TypeCatalog.Definition.Defaults

/-!
# What the documentation of a definition lacks

Where a value breaks no rule, the documented pass finds nothing but summaries that are missing, and
these can be told from the definition that is read of the value: `Definition.notes` does so, and
`documented_eq_notes` says that it tells the same, in the same order. A summary is missing when it
is absent or blank, so defaults change nothing (`Definition.notes_withDefaults`).
-/

set_option autoImplicit false

namespace TypeCatalog

open Result Shape TypeCatalog.Field

/-! ## Notes -/

/-- The note on a summary that is absent or blank. -/
def summaryNoteOf (rule : Rule) (path message : String) (summary : Option String) :
    List Violation :=
  when (summary.all Text.isBlank) rule path message

/-- The note on an example. -/
def Example.notes (i : Nat) (e : Example) : List Violation :=
  summaryNoteOf .missingExampleSummary (itemPath "examples" i ++ ".summary")
    "Example should have a summary" e.summary

def EnumItem.notes (i : Nat) (item : EnumItem) : List Violation :=
  summaryNoteOf .missingItemSummary (itemPath "items" i ++ ".summary")
    "Enum item should have a summary" item.summary

def Property.notes (i : Nat) (p : Property) : List Violation :=
  summaryNoteOf .missingPropertySummary (itemPath "properties" i ++ ".summary")
    "Property should have a summary" p.summary

def Variant.notes (i : Nat) (v : Variant) : List Violation :=
  summaryNoteOf .missingVariantSummary (itemPath "variants" i ++ ".summary")
    "Variant should have a summary" v.summary

/-- The notes on the items of a list, each told its index. -/
def notesFrom {α : Type} (notes : Nat → α → List Violation) (i : Nat) : List α → List Violation
  | [] => []
  | a :: as => notes i a ++ notesFrom notes (i + 1) as

def Header.notes (h : Header) : List Violation :=
  summaryNoteOf .missingTypeSummary "summary" "Type should have a summary" h.summary
    ++ notesFrom Example.notes 0 (h.examples.getD [])

def Body.notes : Body → List Violation
  | enum b => notesFrom EnumItem.notes 0 b.items
  | record r =>
    notesFrom Property.notes 0 r.properties ++ notesFrom Variant.notes 0 r.variantList
  | _ => []

/-- What the documentation of a definition lacks, in the order in which it is declared. -/
def Definition.notes (d : Definition) : List Violation := d.header.notes ++ d.body.notes

/-! ## Defaults -/

/-- The notes on a list are the same when each of its items has the same notes as before. -/
theorem notesFrom_map {α : Type} {notes : Nat → α → List Violation} {f : α → α}
    (h : ∀ i a, notes i (f a) = notes i a) (i : Nat) (as : List α) :
    notesFrom notes i (as.map f) = notesFrom notes i as := by
  induction as generalizing i with
  | nil => rfl
  | cons a as ih => rw [List.map_cons, notesFrom, notesFrom, h, ih]

/-- A summary that is missing is blank as a default. -/
theorem Header.notes_withDefaults (h : Header) : h.withDefaults.notes = h.notes := by
  have hsummary (rule : Rule) (path message : String) :
      summaryNoteOf rule path message (orDefault "" h.summary)
        = summaryNoteOf rule path message h.summary := by
    cases h.summary with
    | none =>
        have hblank : Text.isBlank "" = true := by decide
        simp [summaryNoteOf, orDefault, hblank]
    | some s => rfl
  unfold notes
  rw [← hsummary]
  rfl

/-- Filling in an empty summary leaves the notes as they are, since a blank summary counts as
missing. -/
theorem Definition.notes_withDefaults (d : Definition) : d.withDefaults.notes = d.notes := by
  obtain ⟨header, body⟩ := d
  unfold notes
  show header.withDefaults.notes ++ body.withDefaults.notes = _
  rw [header.notes_withDefaults]
  cases body with
  | record r =>
      show _ ++ (notesFrom Property.notes 0 (r.properties.map Property.withDefaults) ++ _) = _
      rw [@notesFrom_map Property Property.notes Property.withDefaults fun i p => rfl]
      rfl
  | _ => rfl

/-! ## Parts -/

namespace Shape

variable {ms : List (String × Json)}

/-- The check of a summary and the reader look at the same text. -/
theorem summaryNote_eq {rule : Rule} {path message : String} {summary : Option String}
    (hstring : misused Json.isString (ms.lookup "summary") = false)
    (h : get? Decoder.string "summary" ms = .ok summary) :
    summaryNote true rule path message (ms.lookup "summary")
      = summaryNoteOf rule path message summary := by
  unfold get? at h
  unfold summaryNote summaryNoteOf
  cases hv : ms.lookup "summary" with
  | none =>
      rw [hv] at h
      cases h
      rfl
  | some v =>
      rw [hv] at h hstring
      cases v with
      | string s =>
          cases h
          rfl
      | _ => cases hstring

/-- Where an example breaks no rule, the documented check of it reports its notes. -/
theorem checkExample_eq_notes {i : Nat} {x : Json} {e : Example}
    (h : checkExample false (itemPath "examples" i) x = []) (he : Example.decode x = .ok e) :
    checkExample true (itemPath "examples" i) x = e.notes i := by
  cases x with
  | object ms =>
      unfold checkExample at h ⊢
      simp only [List.append_eq_nil_iff] at h
      obtain ⟨⟨⟨hvalue, hsummary⟩, hfields⟩, -⟩ := h
      dsimp only
      rw [hvalue, hsummary, hfields, List.nil_append, List.nil_append, List.nil_append]
      exact summaryNote_eq (when_eq_nil.1 hsummary) (Example.fields_of_decode he).2
  | _ => cases h

/-- So for an item of an enum. -/
theorem checkItemFields_eq_notes {i : Nat} {item : EnumItem}
    (h : checkItemFields false i ms = []) (hitem : EnumItem.decode (.object ms) = .ok item) :
    checkItemFields true i ms = item.notes i := by
  obtain ⟨-, -, -, -, hread, -⟩ := EnumItem.fields_of_decode hitem
  unfold checkItemFields at h ⊢
  simp only [List.append_eq_nil_iff] at h
  obtain ⟨⟨⟨htext, hstrings⟩, hfields⟩, -⟩ := h
  dsimp only
  rw [htext, hstrings, hfields, List.nil_append, List.nil_append, List.nil_append]
  have hsummary := List.flatMap_eq_nil_iff.1 hstrings "summary" (by decide)
  exact summaryNote_eq (when_eq_nil.1 hsummary) hread

/-- So for a property. -/
theorem checkPropertyFields_eq_notes {i : Nat} {p : Property}
    (h : checkPropertyFields false i ms = []) (hp : Property.decode (.object ms) = .ok p) :
    checkPropertyFields true i ms = p.notes i := by
  unfold checkPropertyFields at h ⊢
  simp only [List.append_eq_nil_iff] at h
  obtain ⟨⟨⟨⟨htype, hflags⟩, hsummary⟩, hfields⟩, -⟩ := h
  dsimp only
  rw [htype, hflags, hsummary, hfields, List.nil_append, List.nil_append, List.nil_append,
    List.nil_append]
  exact summaryNote_eq (when_eq_nil.1 hsummary) (Property.fields_of_decode hp).2.1

/-- So for a variant. -/
theorem checkVariantFields_eq_notes {i : Nat} {declared : List String} {v : Variant}
    (h : checkVariantFields false i declared ms = [])
    (hv : Variant.decode (.object ms) = .ok v) :
    checkVariantFields true i declared ms = v.notes i := by
  unfold checkVariantFields at h ⊢
  simp only [List.append_eq_nil_iff] at h
  obtain ⟨⟨⟨⟨hselection, hlists⟩, hsummary⟩, hfields⟩, -⟩ := h
  dsimp only
  rw [hselection, hlists, hsummary, hfields, List.nil_append, List.nil_append, List.nil_append,
    List.nil_append]
  exact summaryNote_eq (when_eq_nil.1 hsummary) (Variant.fields_of_decode hv).2.1

/-! ## Lists of parts -/

/-- So for a list of examples, each with the index of its place. -/
theorem eachItem_eq_notes {xs : List Json} {es : List Example} {n : Nat}
    (h : (xs.zipIdx n).flatMap (fun entry =>
      checkExample false (itemPath "examples" entry.2) entry.1) = [])
    (hes : List.Forall₂ (fun x e => Example.decode x = .ok e) xs es) :
    (xs.zipIdx n).flatMap (fun entry =>
      checkExample true (itemPath "examples" entry.2) entry.1) = notesFrom Example.notes n es := by
  induction hes generalizing n with
  | nil => rfl
  | cons hx _ ih =>
      rw [List.zipIdx_cons, List.flatMap_cons] at h ⊢
      obtain ⟨hfirst, hrest⟩ := List.append_eq_nil_iff.1 h
      rw [checkExample_eq_notes hfirst hx, ih hrest, notesFrom]

/-- So for the items of an enum, whatever was seen before them. -/
theorem checkItems_eq_notes {i : Nat} {seen : List (String × Nat)} {xs : List Json}
    {items : List EnumItem} (h : checkItems false i seen xs = [])
    (hitems : List.Forall₂ (fun x item => EnumItem.decode x = .ok item) xs items) :
    checkItems true i seen xs = notesFrom EnumItem.notes i items := by
  induction hitems generalizing i seen with
  | nil => rfl
  | @cons x item xs items hx _ ih =>
      cases x with
      | object ms =>
          simp only [checkItems, List.append_eq_nil_iff] at h
          obtain ⟨⟨hvalue, hfields⟩, hrest⟩ := h
          rw [checkItems, hvalue, checkItemFields_eq_notes hfields hx, ih hrest, notesFrom,
            List.nil_append]
      | _ => cases h

/-- So for the properties of a record. -/
theorem checkPropertyList_eq_notes {i : Nat} {declared : List String} {xs : List Json}
    {ps : List Property} (h : checkPropertyList false i declared xs = [])
    (hps : List.Forall₂ (fun x p => Property.decode x = .ok p) xs ps) :
    checkPropertyList true i declared xs = notesFrom Property.notes i ps := by
  induction hps generalizing i declared with
  | nil => rfl
  | @cons x p xs ps hx _ ih =>
      cases x with
      | object ms =>
          simp only [checkPropertyList, List.append_eq_nil_iff] at h
          obtain ⟨⟨hname, hfields⟩, hrest⟩ := h
          rw [checkPropertyList, hname, checkPropertyFields_eq_notes hfields hx, ih hrest,
            notesFrom, List.nil_append]
      | _ => cases h

/-- So for the variants of a record. -/
theorem checkVariantList_eq_notes {declared : List String} {i : Nat} {seen : List String}
    {xs : List Json} {vs : List Variant} (h : checkVariantList false declared i seen xs = [])
    (hvs : List.Forall₂ (fun x v => Variant.decode x = .ok v) xs vs) :
    checkVariantList true declared i seen xs = notesFrom Variant.notes i vs := by
  induction hvs generalizing i seen with
  | nil => rfl
  | @cons x v xs vs hx _ ih =>
      cases x with
      | object ms =>
          simp only [checkVariantList, List.append_eq_nil_iff] at h
          obtain ⟨⟨hname, hfields⟩, hrest⟩ := h
          rw [checkVariantList, hname, checkVariantFields_eq_notes hfields hx, ih hrest,
            notesFrom, List.nil_append]
      | _ => cases h

/-! ## The definition -/

/-- So for the header: its own summary and its examples are all that is documented there. -/
theorem checkHeader_eq_notes {header : Header} (h : checkHeader false ms = [])
    (hheader : Header.decode ms = .ok header) : checkHeader true ms = header.notes := by
  obtain ⟨-, -, -, hsummary, -, -, -, hexamples⟩ := Header.fields_of_decode hheader
  unfold checkHeader at h ⊢
  -- What the functional check reports is nothing, part by part; only the notes are left of the
  -- documented one.
  simp only [List.append_eq_nil_iff] at h
  obtain ⟨⟨⟨⟨⟨⟨hsystem, hname⟩, hstrings⟩, -⟩, hdeprecated⟩, hlists⟩, hexamplesCheck⟩ := h
  have hsummaryCheck := List.flatMap_eq_nil_iff.1 hstrings "summary" (by decide)
  rw [hsystem, hname, hstrings, hdeprecated, hlists, List.nil_append, List.nil_append,
    List.append_nil, List.append_nil, summaryNote_eq (when_eq_nil.1 hsummaryCheck) hsummary]
  unfold Header.notes
  congr 1
  unfold checkExamples at hexamplesCheck ⊢
  unfold get? at hexamples
  cases hv : ms.lookup "examples" with
  | none =>
      rw [hv] at hexamples
      rw [← Except.ok.inj hexamples]
      rfl
  | some v =>
      rw [hv] at hexamplesCheck hexamples
      cases v with
      | array xs =>
          obtain ⟨es, hes, heq⟩ := map_eq_ok.1 hexamples
          rw [← heq]
          exact eachItem_eq_notes hexamplesCheck (mapM_eq_ok.1 hes)
      | _ => cases hexamplesCheck

/-- So for a record, whose properties and variants are documented. -/
theorem checkRecord_eq_notes {r : RecordBody} (h : checkRecord false ms = [])
    (hr : Body.decode .record ms = .ok (.record r)) :
    checkRecord true ms = (Body.record r).notes := by
  obtain ⟨hproperties, -, hvariants, -, -⟩ := RecordBody.fields_of_decode hr
  unfold checkRecord at h ⊢
  simp only [List.append_eq_nil_iff] at h
  obtain ⟨⟨hps, hrequired⟩, hvs⟩ := h
  -- The list of properties is there and has been read item by item.
  have hlist : checkProperties true ms = notesFrom Property.notes 0 r.properties := by
    obtain ⟨xs, hxs, hread⟩ := lookup_of_get_list hproperties
    unfold checkProperties at hps ⊢
    rw [hxs] at hps ⊢
    obtain ⟨hsome, hlist⟩ := List.append_eq_nil_iff.1 hps
    show when xs.isEmpty _ _ _ ++ checkPropertyList true 0 [] xs = _
    rw [hsome, List.nil_append]
    exact checkPropertyList_eq_notes hlist hread
  have hvariantList : checkVariants true (declaredNames ms) ms
      = notesFrom Variant.notes 0 r.variantList := by
    unfold checkVariants at hvs ⊢
    unfold get? at hvariants
    unfold RecordBody.variantList
    -- Variants may be missing, and then there is nothing to document.
    cases hv : ms.lookup "variants" with
    | none =>
        rw [hv] at hvariants
        rw [← Except.ok.inj hvariants]
        rfl
    | some v =>
        rw [hv] at hvs hvariants
        cases v with
        | array xs =>
            obtain ⟨vs, hvs', heq⟩ := map_eq_ok.1 hvariants
            rw [← heq]
            exact checkVariantList_eq_notes hvs (mapM_eq_ok.1 hvs')
        | _ => cases hvs
  dsimp only
  rw [hlist, hrequired, hvariantList, List.append_nil]
  rfl

/-- So for a body of any kind. Only enums and records have parts that are documented. -/
theorem checkBody_eq_notes {kind : TypeKind} {body : Body} (h : checkBody false kind ms = [])
    (hbody : Body.decode kind ms = .ok body) : checkBody true kind ms = body.notes := by
  obtain rfl := kind_of_decode_body hbody
  cases body with
  | enum b =>
      obtain ⟨xs, hxs, hread⟩ := lookup_of_get_list (EnumBody.fields_of_decode hbody).1
      show checkEnum true ms = notesFrom EnumItem.notes 0 b.items
      have hcheck : checkEnum false ms = [] := h
      unfold checkEnum at hcheck ⊢
      obtain ⟨hdata, hitems⟩ := List.append_eq_nil_iff.1 hcheck
      rw [hdata, List.nil_append]
      rw [hxs] at hitems ⊢
      obtain ⟨hsome, hlist⟩ := List.append_eq_nil_iff.1 hitems
      show when xs.isEmpty _ _ _ ++ checkItems true 0 [] xs = _
      rw [hsome, List.nil_append]
      exact checkItems_eq_notes hlist hread
  | record r =>
      obtain ⟨hrecord, hcases⟩ := List.append_eq_nil_iff.1 h
      show checkRecord true ms ++ checkTestCases true ms = _
      rw [hcases, List.append_nil]
      exact checkRecord_eq_notes hrecord hbody
  -- The other kinds have no summaries, and are checked alike in both passes.
  | _ => exact h

/-- The kind that is read is the kind that is checked. -/
theorem kind?_of_get {kind : TypeKind} (h : Field.get TypeKind.decode "kind" ms = .ok kind) :
    kind? ms = some kind := by
  obtain ⟨v, hv, hkind⟩ := lookup_of_get h
  unfold TypeKind.decode at hkind
  unfold kind?
  rw [hv, Option.bind_some]
  split at hkind
  · split at hkind
    · next hk => rw [← Except.ok.inj hkind, Json.string?, Option.bind_some, hk]
    · cases hkind
  · cases hkind

/-- The documented pass over a value that breaks no rule finds what the documentation of its
definition lacks, and nothing else. -/
theorem documented_eq_notes {v : Json} {d : Definition} (h : violations v = [])
    (hd : Definition.decode v = .ok d) : documented v = d.notes := by
  obtain ⟨ms, kind, rfl, hkind, hheader, hbody, hnames⟩ := exists_of_violations_eq_nil h
  obtain ⟨hdbody, hdheader⟩ := parts_of_decode hkind hd
  have hknown : kind? ms = some kind := kind?_of_get hkind
  unfold violations check at h
  simp only [List.append_eq_nil_iff] at h
  unfold documented check
  dsimp only
  rw [h.1.1, hknown, List.nil_append, checkHeader_eq_notes hheader hdheader]
  dsimp only
  rw [unknownFields_eq_nil.2 hnames, List.nil_append, checkBody_eq_notes hbody hdbody]
  rfl

end Shape

end TypeCatalog
