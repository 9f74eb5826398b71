import TypeCatalog.Proofs.Catalog.Insertion
import TypeCatalog.Proofs.Definition.KeyOrder

/-!
# Batches of definitions written in another order

Two stores may hold the same definitions with their members in another order. Fingerprints are made
of texts in which members keep their order, so they would differ if the order of a definition showed
in its document.

It does not. `readAll_of_reordered` says that the two stores are read as the same definitions: a raw
definition is left out of both or of none, for it breaks the same rules on both sides, and what is
read of it is the same. A batch is made of its definitions, and so the main statement,
`ofStore_reordered`, follows for everything that is asked of the two batches.

What reads the members is `Shape.check` and `Definition.decode`, both by name. The order shows only
in the values that a definition carries along, such as the fragment of an object, and
`Definition.Reordered` leaves these as they are.
-/

set_option autoImplicit false

namespace TypeCatalog

open Shape

/-! ## Reading the stores -/

section Entry

variable {taken : List String} {index : Nat} {raw raw' : RawDefinition}

/-- A raw definition in another order is read as the same definition, or left out as well. -/
theorem readEntry_of_reordered (h : Definition.Reordered raw.value raw'.value) (d : Definition) :
    readEntry taken index raw = .ok d ↔ readEntry taken index raw' = .ok d := by
  have hviolations : violations raw.value = [] ↔ violations raw'.value = [] := by
    have hperm : (violations raw.value).Perm (violations raw'.value) := check_perm false h
    exact ⟨fun hnil => (hnil ▸ hperm).symm.eq_nil, fun hnil => (hnil ▸ hperm).eq_nil⟩
  constructor
  · intro hd
    obtain ⟨hnil, hnot, e, he, rfl⟩ := of_readEntry_eq_ok hd
    exact readEntry_eq_ok (hviolations.1 hnil) ((Definition.decode_of_reordered h).1 he) hnot
  · intro hd
    obtain ⟨hnil, hnot, e, he, rfl⟩ := of_readEntry_eq_ok hd
    exact readEntry_eq_ok (hviolations.2 hnil) ((Definition.decode_of_reordered h).2 he) hnot

end Entry

/-- Stores of the same definitions in another order are read alike. -/
theorem readAll_of_reordered (documentation : Bool) (taken : List String) (index : Nat)
    {entries entries' : List RawDefinition}
    (h : List.Forall₂ (fun raw raw' => Definition.Reordered raw.value raw'.value)
      entries entries') :
    (readAll documentation taken index entries').1
      = (readAll documentation taken index entries).1 := by
  induction h generalizing taken index with
  | nil => rfl
  | @cons raw raw' rest rest' hraw _ ih =>
      have hread (d : Definition) := @readEntry_of_reordered taken index raw raw' hraw d
      cases hd : readEntry taken index raw with
      | ok d => rw [readAll_cons_ok hd, readAll_cons_ok ((hread d).1 hd), ih]
      | error es =>
          cases hd' : readEntry taken index raw' with
          | ok d => cases hd.symm.trans ((hread d).2 hd')
          | error es' => rw [readAll_cons_error hd, readAll_cons_error hd', ih]

namespace Catalog

/-! ## The batches -/

/-- The order in which the members of definitions and of their parts are written makes no
difference. Two stores whose raw definitions differ pairwise in nothing else give the same
definitions, and the same answers about every name: the document, with its members in the same
order, its fingerprint, whether there is a validator, and what it says of each value. -/
theorem ofStore_reordered (settings : Settings) (formats : List Format) (store store' : Store)
    (h : List.Forall₂ (fun raw raw' => Definition.Reordered raw.value raw'.value)
      store.entries store'.entries) :
    (ofStore settings formats store).Agrees (ofStore settings formats store') :=
  agrees_of_definitions (readAll_of_reordered settings.documentation [] 0 h)

/-- A color with two items, and a lamp with two properties, an example and a variant. -/
def lampStore : Store := ⟨[
  ⟨none, .object [("kind", .string "enum"), ("system", .string "home"), ("name", .string "color"),
    ("items", .array [
      .object [("value", .string "red"), ("text", .string "Red")],
      .object [("value", .string "blue"), ("text", .string "Blue"), ("symbol", .string "b")]])]⟩,
  ⟨none, .object [("kind", .string "record"), ("system", .string "home"), ("name", .string "lamp"),
    ("properties", .array [
      .object [("name", .string "color"), ("propertyType", .string "color")],
      .object [("name", .string "colors"), ("propertyType", .string "color"),
        ("isArray", .bool true)]]),
    ("variants", .array [
      .object [("name", .string "plain"), ("includeProperties", .array [.string "color"])]]),
    ("examples", .array [
      .object [("value", .object [("color", .string "red"), ("colors", .array [])]),
        ("summary", .string "A red lamp.")]]),
    ("validTestCases", .array [])]⟩]⟩

/-- The same color and the same lamp, with all members written from the last one to the first. -/
def backwardLampStore : Store := ⟨[
  ⟨none, .object [("items", .array [
      .object [("text", .string "Red"), ("value", .string "red")],
      .object [("symbol", .string "b"), ("text", .string "Blue"), ("value", .string "blue")]]),
    ("name", .string "color"), ("system", .string "home"), ("kind", .string "enum")]⟩,
  ⟨none, .object [("validTestCases", .array []), ("examples", .array [
      .object [("summary", .string "A red lamp."),
        ("value", .object [("color", .string "red"), ("colors", .array [])])]]),
    ("variants", .array [
      .object [("includeProperties", .array [.string "color"]), ("name", .string "plain")]]),
    ("properties", .array [
      .object [("propertyType", .string "color"), ("name", .string "color")],
      .object [("isArray", .bool true), ("propertyType", .string "color"),
        ("name", .string "colors")]]),
    ("name", .string "lamp"), ("system", .string "home"), ("kind", .string "record")]⟩]⟩

/-- The lamp and its color are the same types in both orders. -/
theorem ofStore_backwardLampStore :
    List.Forall₂ (fun raw raw' => Definition.Reordered raw.value raw'.value) lampStore.entries
      backwardLampStore.entries
    ∧ lampStore ≠ backwardLampStore
    ∧ (ofStore .standard [] lampStore).definitions.map (·.typeName) = ["home/color", "home/lamp"]
    ∧ (ofStore .standard [] lampStore).Agrees (ofStore .standard [] backwardLampStore) := by
  have hpart {ms ns : Members} (hnodup : (ms.map Prod.fst).Nodup) (h : ms = ns.reverse) :
      Json.Reordered (.object ms) (.object ns) := .object hnodup (h ▸ List.reverse_perm ns)
  have hdefinition {ms ns : Members} (hnodup : (ms.map Prod.fst).Nodup)
      (h : List.Forall₂ (fun m r => m.1 = r.1 ∧ Definition.FieldReordered m.1 m.2 r.2)
        ms ns.reverse) :
      Definition.Reordered (.object ms) (.object ns) := .object hnodup h (List.reverse_perm ns)
  have hcolor : Definition.Reordered (lampStore.entries[0]!).value
      (backwardLampStore.entries[0]!).value :=
    hdefinition (by decide) (.cons ⟨rfl, .same _⟩ (.cons ⟨rfl, .same _⟩ (.cons ⟨rfl, .same _⟩
      (.cons ⟨rfl, .parts (by decide) (.cons (hpart (by decide) rfl)
        (.cons (hpart (by decide) rfl) .nil))⟩ .nil))))
  have hlamp : Definition.Reordered (lampStore.entries[1]!).value
      (backwardLampStore.entries[1]!).value :=
    hdefinition (by decide) (.cons ⟨rfl, .same _⟩ (.cons ⟨rfl, .same _⟩ (.cons ⟨rfl, .same _⟩
      (.cons ⟨rfl, .parts (by decide) (.cons (hpart (by decide) rfl)
        (.cons (hpart (by decide) rfl) .nil))⟩
      (.cons ⟨rfl, .parts (by decide) (.cons (hpart (by decide) rfl) .nil)⟩
      (.cons ⟨rfl, .parts (by decide) (.cons (hpart (by decide) rfl) .nil)⟩
      (.cons ⟨rfl, .same _⟩ .nil)))))))
  have hreordered : List.Forall₂ (fun raw raw' => Definition.Reordered raw.value raw'.value)
      lampStore.entries backwardLampStore.entries := .cons hcolor (.cons hlamp .nil)
  exact ⟨hreordered, by decide +kernel, by decide +kernel,
    ofStore_reordered .standard [] _ _ hreordered⟩

end Catalog

end TypeCatalog
