import TypeCatalog.Definition.Decode
import TypeCatalog.Definition.Encode
import TypeCatalog.Proofs.Result
import TypeCatalog.Proofs.Table

/-!
# Values that are kept

A value is read into a structure and written down again. `Json.KeptBy` says that nothing of it was
lost on the way: every member is there again, every list has its items, and every text and every
truth value is the same. Two things may differ. A number may have been rounded to the nearest
binary64 value, and a member that is `null` may be left out, which means the same for an optional
field.

A decoder keeps a value when what it reads of it, written down, does; `Decoder.KeepsAt` states that
for one value, since the decoders of parts keep objects only. `Field.Keeps` states it for one member
of an object, and `keptBy_object` puts the members together.
-/

set_option autoImplicit false

namespace TypeCatalog

open Result

namespace Json

mutual
/-- Whether one value holds what another one does. -/
inductive KeptBy : Json → Json → Prop where
  | same (v : Json) : KeptBy v v
  | rounded (n : Number) : KeptBy (number n) (ofBinary64 n.toBinary64)
  | array {xs ys : List Json} (items : List.Forall₂ KeptBy xs ys) : KeptBy (array xs) (array ys)
  | object {ms ns : List (String × Json)}
      (members : ∀ name x, ms.lookup name = some x → KeptMember x (ns.lookup name)) :
      KeptBy (object ms) (object ns)

/-- Whether the value of a member is there again, or is `null` and left out. -/
inductive KeptMember : Json → Option Json → Prop where
  | present {x y : Json} (value : KeptBy x y) : KeptMember x (some y)
  | leftOut : KeptMember null none
end

end Json

/-! ## Decoders -/

/-- Whether what a decoder reads of a value is kept when it is written down. -/
def Decoder.KeepsAt {α : Type} (d : Decoder α) (encode : α → Json) (v : Json) : Prop :=
  ∀ a, d v = .ok a → v.KeptBy (encode a)

namespace Decoder

variable {v : Json}

/-- A value that is taken as it is, with `Decoder.any`, is kept. -/
theorem keepsAt_any : KeepsAt any id v := by
  intro a ha
  cases ha
  exact .same v

/-- A text is kept by `Decoder.string`. -/
theorem keepsAt_string : KeepsAt string Json.string v := by
  intro s hs
  cases v with
  | string t =>
      cases hs
      exact .same _
  | _ => cases hs

/-- A truth value is kept by `Decoder.bool`. -/
theorem keepsAt_bool : KeepsAt bool Json.bool v := by
  intro b hb
  cases v with
  | bool c =>
      cases hb
      exact .same _
  | _ => cases hb

/-- A whole number of 64 bits is kept by `Decoder.int64`. -/
theorem keepsAt_int64 : KeepsAt int64 (fun n => .number (.integer n)) v := by
  intro n hn
  unfold int64 at hn
  split at hn
  · split at hn
    · cases hn
      exact .same _
    · cases hn
  · cases hn

/-- A count of 64 bits is kept by `Decoder.nat64`. -/
theorem keepsAt_nat64 : KeepsAt nat64 Json.ofNat v := by
  intro n hn
  unfold nat64 at hn
  split at hn
  · next m =>
      split at hn
      · next hfits =>
          cases hn
          have hpos : 0 ≤ m := (of_decide_eq_true hfits).1
          rw [Json.ofNat, Int.toNat_of_nonneg hpos]
          exact .same _
      · cases hn
  · cases hn

/-- A number is kept by `Decoder.binary64` up to the rounding that `KeptBy` allows. -/
theorem keepsAt_binary64 : KeepsAt binary64 Json.ofBinary64 v := by
  intro x hx
  cases v with
  | number n =>
      cases hx
      exact .rounded n
  | _ => cases hx

/-- A list is kept when each of its items is. -/
theorem keepsAt_list {α : Type} {d : Decoder α} {encode : α → Json}
    (h : ∀ xs, v = .array xs → ∀ x ∈ xs, KeepsAt d encode x) :
    KeepsAt (list d) (fun as => .array (as.map encode)) v := by
  intro as has
  cases v with
  | array xs =>
      -- Reading relates the items to what is read of them, and the encodings keep the relation.
      refine .array (List.forall₂_map_right_iff.2 ?_)
      have hread := mapM_eq_ok.1 has
      have hall := h xs rfl
      clear h has
      induction hread with
      | nil => exact .nil
      | cons hxa _ ih =>
          exact .cons (hall _ (.head _) _ hxa) (ih fun x hx => hall x (.tail _ hx))
  | _ => cases has

/-- A list of texts is kept by `Decoder.strings`, item by item. -/
theorem keepsAt_strings : KeepsAt strings Json.ofStrings v :=
  keepsAt_list fun _ _ _ _ => keepsAt_string

end Decoder

/-! ## Fields -/

namespace Field

variable {α : Type} {ms ns : List (String × Json)} {name : String} {d : Decoder α}
  {encode : α → Json}

/-- A required field has the name that it was made with. -/
@[simp]
theorem required_name : (required name d).name = name := rfl

/-- An optional field has the name that it was made with. -/
@[simp]
theorem optional_name : (optional name d).name = name := rfl

/-- Whether the member of a name is kept. -/
def Keeps (ms ns : List (String × Json)) (name : String) : Prop :=
  ∀ x, ms.lookup name = some x → Json.KeptMember x (ns.lookup name)

/-- The member of a field that has to be there is kept. -/
theorem keeps_of_get {a : α} (h : get d name ms = .ok a) (hns : ns.lookup name = some (encode a))
    (hkeeps : ∀ x, ms.lookup name = some x → d.KeepsAt encode x) : Keeps ms ns name := by
  intro x hx
  unfold get at h
  rw [hx] at h
  rw [hns]
  exact .present (hkeeps x hx a h)

/-- The member of an optional field is kept, or it is `null` and left out. -/
theorem keeps_of_get? {o : Option α} (h : get? d name ms = .ok o)
    (hns : ns.lookup name = o.map encode)
    (hkeeps : ∀ x, ms.lookup name = some x → d.KeepsAt encode x) : Keeps ms ns name := by
  intro x hx
  unfold get? at h
  rw [hx] at h
  rw [hns]
  dsimp only at h
  unfold Decoder.optional at h
  split at h
  · cases h
    exact .leftOut
  · obtain ⟨a, ha, rfl⟩ := map_eq_ok.1 h
    exact .present (hkeeps x hx a ha)

/-- Members that stand before others keep what they keep alone. -/
theorem Keeps.append_left {rest : List (String × Json)} (h : Keeps ms ns name)
    (hrest : rest.lookup name = none) : Keeps ms (ns ++ rest) name := by
  intro x hx
  rw [List.lookup_append, hrest, Option.or_none]
  exact h x hx

/-- Members that stand behind others of other names keep what they keep alone. -/
theorem Keeps.append_right {front : List (String × Json)} (h : Keeps ms ns name)
    (hfront : front.lookup name = none) : Keeps ms (front ++ ns) name := by
  intro x hx
  rw [List.lookup_append, hfront, Option.none_or]
  exact h x hx

/-- An object is kept when all of its members are among some names and each of these is kept. -/
theorem keptBy_object {names : List String}
    (hnames : ∀ name x, (Json.object ms).member? name = some x → name ∈ names)
    (hkeeps : ∀ name ∈ names, Keeps ms ns name) : (Json.object ms).KeptBy (.object ns) :=
  .object fun name x hx => hkeeps name (hnames name x hx) x hx

/-- What is read behind a member. -/
theorem lookup_member (key : String) (x : Json) :
    List.lookup key ((name, x) :: ms) = if key = name then some x else ms.lookup key := by
  by_cases h : key = name
  · rw [if_pos h, h]
    exact List.lookup_cons_self
  · rw [if_neg h, List.lookup_cons, beq_false_of_ne h]

/-- What is read of a member that may be left out. -/
@[simp]
theorem lookup_optionalMember (key : String) (o : Option α) :
    (optionalMember name encode o).lookup key = if key = name then o.map encode else none := by
  unfold optionalMember
  cases o with
  | none => exact (ite_self none).symm
  | some a => exact lookup_member key (encode a)

end Field

end TypeCatalog
