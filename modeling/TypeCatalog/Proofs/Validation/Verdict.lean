import TypeCatalog.Proofs.Json.Place
import TypeCatalog.Proofs.Validation.Following

/-!
# Verdicts of validators

A value satisfies the schema that the document of a demand is read as exactly when it satisfies
the demand. For a demand that looks at the value alone this is said of each of its conditions; for
a record it goes by induction on the levels of the value, since the properties of a record look at
members only.

`Schema.errors` puts the errors of keywords behind each other, so that a value is valid when there
are none of any keyword. `Reader.Allows` says so of one member of a document, and has a lemma for
each keyword that `Emitter.demandMembers` writes. `Demand.accepts` is the meaning, and
`Reads.errors_eq_nil_iff` compares the two for a document.
-/

set_option autoImplicit false

namespace TypeCatalog

open Result

/-! ## Conditions -/

/-- An integer has no fraction. -/
theorem Number.isIntegral_integer (n : Int) : (Number.integer n).isIntegral = true := by
  show Binary64.isIntegral (Dyadic.ofIntWithPrec n 0) = true
  unfold Dyadic.ofIntWithPrec
  split
  · rfl
  · have hexponent : (0 - (n.trailingZeros : Int)).toNat = 0 := by omega
    unfold Binary64.isIntegral Binary64.magnitude
    dsimp only
    rw [hexponent]
    exact beq_iff_eq.2 (Nat.mod_one _)

namespace Constraint

/-- An error is given where the condition does not hold. -/
theorem expect_eq_nil_iff {holds : Bool} {message : String} :
    expect holds message = [] ↔ holds = true := by
  cases holds <;> simp [expect]

/-- A condition that is stated in words for values of a kind says so where it does not hold. -/
theorem map_here_expect_eq_nil_iff {holds : Bool} {message : String} :
    (expect holds message).map ValueError.here = [] ↔ holds = true := by
  rw [List.map_eq_nil_iff, expect_eq_nil_iff]

/-- The keyword `type` gives no errors to values of the type. -/
theorem errors_type_eq_nil_iff {t : ValueType} {v : Json} :
    (type false false [t]).errors v = [] ↔ t.has false v = true := by
  show (expect _ _).map ValueError.here = [] ↔ _
  rw [map_here_expect_eq_nil_iff, List.any_cons, List.any_nil, Bool.or_false]

/-- The keyword `enum` gives none to the listed texts. -/
theorem errors_enum_eq_nil_iff {values : List String} {s : String} :
    (enum (values.map .string)).errors (.string s) = [] ↔ values.contains s = true := by
  show (expect _ _).map ValueError.here = [] ↔ _
  rw [map_here_expect_eq_nil_iff, List.any_map]
  simp only [List.any_eq_true, List.contains_iff_mem, Function.comp_apply, Json.equivalent,
    beq_iff_eq]
  simp

/-- The keyword `pattern` gives none to texts in which the pattern is found. -/
theorem errors_pattern_eq_nil_iff {text s : String} {search : Pattern.Search} :
    (pattern text search).errors (.string s) = [] ↔ search.matchesText s = true := by
  show ((pattern text search).faults (.string s)).map ValueError.here = [] ↔ _
  rw [List.map_eq_nil_iff]
  unfold faults Pattern.Search.matchesText
  rw [decide_eq_true_iff]
  cases hfound : search.find s <;> simp [hfound]

/-- The keyword `required` gives none to objects with all of the members. -/
theorem errors_required_eq_nil_iff {names : List String} {ms : List (String × Json)} :
    (required names).errors (.object ms) = []
      ↔ (names.all fun name => (ms.lookup name).isSome) = true := by
  show ((names.filter fun name => (ms.lookup name).isNone).map _).map ValueError.here = [] ↔ _
  rw [List.map_eq_nil_iff, List.map_eq_nil_iff, List.filter_eq_nil_iff, List.all_eq_true]
  simp only [Bool.not_eq_true, Option.isNone_eq_false_iff]

end Constraint

/-! ## Keywords -/

namespace Reader

variable {r : Reader} {siblings : List (String × Json)}

/-- Whether a member of a schema is read as a condition that a value satisfies, or as none. -/
def Allows (r : Reader) (siblings : List (String × Json)) (v : Json) (m : String × Json) : Prop :=
  ∃ c, r.constraint? .draft7 siblings m.1 m.2 = .ok c ∧ ∀ c' ∈ c, c'.errors v = []

/-- A member allows what its constraint gives no errors to. -/
theorem allows_iff {m : String × Json} {c : Constraint} {v : Json}
    (h : r.constraint? .draft7 siblings m.1 m.2 = .ok (some c)) :
    r.Allows siblings v m ↔ c.errors v = [] := by
  constructor
  · rintro ⟨c', hc', hall⟩
    rw [h] at hc'
    cases hc'
    exact hall c rfl
  · intro herrors
    refine ⟨some c, h, fun c' hc' => ?_⟩
    cases hc'
    exact herrors

/-- The conditions that some members are read as hold of a value when each member allows it. -/
theorem forall_errors_iff_forall_allows {ms : List (String × Json)}
    {cs : List (Option Constraint)} {v : Json}
    (h : List.Forall₂ (fun m c => r.constraint? .draft7 siblings m.1 m.2 = .ok c) ms cs) :
    (∀ c ∈ cs.filterMap id, c.errors v = []) ↔ ∀ m ∈ ms, r.Allows siblings v m := by
  induction h with
  | nil => simp
  | @cons m c ms cs hc hcs ih =>
      rw [List.forall_mem_cons, ← ih]
      cases c with
      | some c =>
          rw [allows_iff hc]
          exact List.forall_mem_cons
      | none =>
          rw [and_iff_right ⟨none, hc, nofun⟩]
          rfl

/-- What `type` allows. -/
theorem allows_type {name : String} {t : ValueType} {v : Json}
    (h : ValueType.ofName? name = some t) :
    r.Allows siblings v ("type", .string name) ↔ t.has false v = true := by
  rw [allows_iff, Constraint.errors_type_eq_nil_iff]
  show (types .draft7 (.string name)).map some = _
  unfold types
  dsimp only
  rw [h]
  rfl

/-- What `enum` allows. -/
theorem allows_enum {values : List String} {s : String} :
    r.Allows siblings (.string s) ("enum", .ofStrings values) ↔ values.contains s = true := by
  rw [allows_iff rfl, Constraint.errors_enum_eq_nil_iff]

/-- What `pattern` allows. -/
theorem allows_pattern {text s : String} :
    r.Allows siblings (.string s) ("pattern", .string text)
      ↔ Pattern.isFoundIn text s = true := by
  unfold Pattern.isFoundIn
  constructor
  · rintro ⟨c, hc, hall⟩
    obtain ⟨found, hfound, hc⟩ := bind_eq_ok.1 hc
    cases hc
    unfold search at hfound
    cases hcompile : Pattern.Search.compile? text with
    | none =>
        rw [hcompile] at hfound
        cases hfound
    | some compiled =>
        rw [hcompile] at hfound
        cases hfound
        exact Constraint.errors_pattern_eq_nil_iff.1 (hall _ rfl)
  · intro hmatches
    rw [Option.any_eq_true] at hmatches
    obtain ⟨compiled, hcompile, hfound⟩ := hmatches
    refine (allows_iff (c := .pattern text compiled) ?_).2
      (Constraint.errors_pattern_eq_nil_iff.2 hfound)
    refine bind_eq_ok.2 ⟨compiled, ?_, rfl⟩
    unfold search
    rw [hcompile]

/-! The bounds of a number. -/

section

variable {b n : Number}

/-- What `minimum` allows. -/
theorem allows_minimum : r.Allows siblings (.number n) ("minimum", .number b)
    ↔ decide (b.value ≤ n.value) = true :=
  (allows_iff (c := .minimum b) rfl).trans Constraint.map_here_expect_eq_nil_iff

/-- What `maximum` allows. -/
theorem allows_maximum : r.Allows siblings (.number n) ("maximum", .number b)
    ↔ decide (n.value ≤ b.value) = true :=
  (allows_iff (c := .maximum b) rfl).trans Constraint.map_here_expect_eq_nil_iff

/-- What `exclusiveMinimum` allows. -/
theorem allows_exclusiveMinimum : r.Allows siblings (.number n) ("exclusiveMinimum", .number b)
    ↔ decide (b.value < n.value) = true :=
  (allows_iff (c := .exclusiveMinimum b) rfl).trans Constraint.map_here_expect_eq_nil_iff

/-- What `exclusiveMaximum` allows. -/
theorem allows_exclusiveMaximum : r.Allows siblings (.number n) ("exclusiveMaximum", .number b)
    ↔ decide (n.value < b.value) = true :=
  (allows_iff (c := .exclusiveMaximum b) rfl).trans Constraint.map_here_expect_eq_nil_iff

end

/-- What a lower bound allows, be it exclusive or not. -/
theorem allows_lower {isExclusive : Bool} {b n : Number} :
    r.Allows siblings (.number n)
        (if isExclusive then "exclusiveMinimum" else "minimum", .number b)
      ↔ (if isExclusive then decide (b.value < n.value) else decide (b.value ≤ n.value))
        = true := by
  cases isExclusive with
  | true => exact allows_exclusiveMinimum
  | false => exact allows_minimum

/-- And what an upper bound allows. -/
theorem allows_upper {isExclusive : Bool} {b n : Number} :
    r.Allows siblings (.number n)
        (if isExclusive then "exclusiveMaximum" else "maximum", .number b)
      ↔ (if isExclusive then decide (n.value < b.value) else decide (n.value ≤ b.value))
        = true := by
  cases isExclusive with
  | true => exact allows_exclusiveMaximum
  | false => exact allows_maximum

/-- A number of things that is a word of 64 bits is read as it is. -/
theorem count_number {k : Nat} {n : Number} {d : Draft} (h : (Json.number n).nat64? = some k) :
    count d (.number n) = .ok k := by
  unfold count
  dsimp only
  rw [h]

/-- A count is read as the number. -/
theorem count_ofNat {k : Nat} {d : Draft} (hk : Number.fitsNat64 k = true) :
    count d (.ofNat k) = .ok k := by
  refine count_number (n := .integer k) ?_
  rw [Json.nat64?, if_pos hk, Int.toNat_natCast]

/-- What `minLength` allows. -/
theorem allows_minLength {k : Nat} {s : String} (hk : Number.fitsNat64 k = true) :
    r.Allows siblings (.string s) ("minLength", .ofNat k) ↔ decide (k ≤ s.length) = true := by
  refine (allows_iff (c := .minLength k) ?_).trans Constraint.map_here_expect_eq_nil_iff
  exact bind_eq_ok.2 ⟨k, count_ofNat hk, rfl⟩

/-- What `maxLength` allows. -/
theorem allows_maxLength {k : Nat} {s : String} (hk : Number.fitsNat64 k = true) :
    r.Allows siblings (.string s) ("maxLength", .ofNat k) ↔ decide (s.length ≤ k) = true := by
  refine (allows_iff (c := .maxLength k) ?_).trans Constraint.map_here_expect_eq_nil_iff
  exact bind_eq_ok.2 ⟨k, count_ofNat hk, rfl⟩

/-! ## Demands that look at the value alone -/

/-- An integral number is of the integral type, however it is written. -/
theorem has_integer (n : Number) : ValueType.integer.has false (.number n) = n.isIntegral := by
  cases n with
  | integer n => exact (Number.isIntegral_integer n).symm
  | real x => rfl

/-- The members that write a demand down allow the values that satisfy it. -/
theorem forall_allows_iff_acceptsAtom {e : Emitter} {demand : Demand} {v : Json}
    (hatom : ∀ system properties required, demand ≠ .record system properties required)
    (hwellFormed : demand.WellFormed) :
    (∀ m ∈ e.demandMembers demand, r.Allows siblings v m) ↔ demand.acceptsAtom v = true := by
  -- Each demand writes a `type` and its bounds, and the value has to be of that type for the bounds
  -- to count.
  cases demand with
  | bool =>
      rw [Emitter.demandMembers, List.forall_mem_singleton, allows_type (t := .boolean) rfl]
      cases v <;> simp [ValueType.has, Demand.acceptsAtom]
  | enum values =>
      rw [Emitter.demandMembers, List.forall_mem_cons, List.forall_mem_singleton,
        allows_type (t := .string) rfl]
      cases v with
      | string s =>
          rw [allows_enum]
          exact and_iff_right rfl
      | _ => simp [ValueType.has, Demand.acceptsAtom]
  | int low high =>
      rw [Emitter.demandMembers, List.forall_mem_cons, List.forall_mem_cons,
        List.forall_mem_singleton, allows_type (t := .integer) rfl]
      cases v with
      | number n =>
          rw [allows_minimum, allows_maximum, has_integer, Demand.acceptsAtom, Bool.and_eq_true,
            Bool.and_eq_true, and_assoc]
          rfl
      | _ => simp [ValueType.has, Demand.acceptsAtom]
  | float b =>
      rw [Emitter.demandMembers, List.forall_mem_cons, List.forall_mem_cons,
        List.forall_mem_singleton, allows_type (t := .number) rfl]
      cases v with
      | number n =>
          unfold Json.ofBinary64
          rw [allows_lower, allows_upper, ← Bool.and_eq_true]
          exact and_iff_right rfl
      | _ => simp [ValueType.has, Demand.acceptsAtom]
  | string b =>
      obtain ⟨hminimum, hmaximum⟩ := hwellFormed
      unfold Emitter.demandMembers
      rw [List.forall_mem_append, List.forall_mem_append, List.forall_mem_append,
        List.forall_mem_singleton, List.forall_mem_singleton, allows_type (t := .string) rfl]
      cases v with
      | string s =>
          unfold Demand.acceptsAtom StringBody.accepts
          rw [Bool.and_eq_true, Bool.and_eq_true]
          refine and_congr (and_congr ?_ (allows_maxLength hmaximum)) ?_
          · have hfits : Number.fitsNat64 ↑(b.minimumLength.getD 0) = true := by
              cases hlength : b.minimumLength with
              | none => rfl
              | some k => exact hminimum k hlength
            refine (and_iff_right rfl).trans ?_
            split
            · next hzero =>
                rw [hzero]
                simp
            · rw [List.forall_mem_singleton]
              exact allows_minLength hfits
          · cases b.regex with
            | none => simp
            | some text =>
                rw [List.forall_mem_singleton]
                exact allows_pattern
      | _ => simp [ValueType.has, Demand.acceptsAtom]
  | record system properties required => exact absurd rfl (hatom system properties required)

end Reader

/-- A demand that is none of a record is satisfied by values that are no objects alone. -/
theorem Demand.accepts_of_atom {demand : Demand} {meaning : String → Option Demand} (v : Json)
    (hatom : ∀ system properties required, demand ≠ .record system properties required) :
    demand.accepts meaning v = demand.acceptsAtom v := by
  cases v with
  | object ms =>
      unfold accepts
      cases demand with
      | record system properties required => exact absurd rfl (hatom system properties required)
      | _ => rfl
  | _ => rfl

/-! ## Keywords of schemas -/

namespace Schema

variable {here below : Follow}

/-- There are no errors when no keyword has any. -/
theorem keywordListErrors_eq_nil_iff {ks : List Keyword} {v : Json} :
    keywordListErrors here below ks v = [] ↔ ∀ k ∈ ks, keywordErrors here below k v = [] := by
  induction ks with
  | nil => exact iff_of_true rfl nofun
  | cons k ks ih =>
      rw [List.forall_mem_cons, ← ih]
      exact List.append_eq_nil_iff

/-- And no constraint, if all keywords are constraints. -/
theorem errors_constraints_eq_nil_iff {cs : List Constraint} {v : Json} :
    (keywords (cs.map .constraint)).errors here below v = [] ↔ ∀ c ∈ cs, c.errors v = [] :=
  keywordListErrors_eq_nil_iff.trans List.forall_mem_map

/-- Errors inside of a member are errors. -/
theorem allInside_eq_nil_iff {name : String} {es : List ValueError} :
    ValueError.allInside name es = [] ↔ es = [] := List.map_eq_nil_iff

/-- Members are reported as unexpected where they have no list of errors. -/
theorem errors_members_eq_nil_iff {memberErrors : String × Json → Option (List ValueError)}
    {ms : List (String × Json)} :
    ((ms.map fun m => (m, memberErrors m)).flatMap
        fun x => ValueError.allInside x.1.1 (x.2.getD []))
      ++ (if ((ms.map fun m => (m, memberErrors m)).filterMap
          fun x => if x.2.isNone then some x.1.1 else none).isEmpty then []
        else [unexpectedError "Additional properties"
          ((ms.map fun m => (m, memberErrors m)).filterMap
          fun x => if x.2.isNone then some x.1.1 else none)]) = []
      ↔ ∀ m ∈ ms, memberErrors m = some [] := by
  rw [List.append_eq_nil_iff, List.flatMap_eq_nil_iff, List.filterMap_map, List.forall_mem_map]
  have hunexpected {names : List String} :
      (if names.isEmpty then [] else [unexpectedError "Additional properties" names]) = []
        ↔ names = [] := by cases names <;> simp
  rw [hunexpected, List.filterMap_eq_nil_iff, ← forall₂_and]
  refine forall₂_congr fun m _ => ?_
  rw [allInside_eq_nil_iff, Function.comp_apply]
  cases memberErrors m <;> simp

/-- An object that is closed to all but some properties has no errors when each member is one of
them and has none. -/
theorem errors_closed_eq_nil_iff {ps : List (String × Schema)} {ms : List (String × Json)} :
    keywordErrors here below (.closed ps [] (.boolean false)) (.object ms) = []
      ↔ ∀ m ∈ ms, declaredErrors? below ps m = some [] := by
  unfold keywordErrors
  dsimp only [matchingErrors, List.flatten_nil, isNothing, if_true]
  refine errors_members_eq_nil_iff.trans (forall₂_congr fun m _ => ?_)
  cases hdeclared : declaredErrors? below ps m <;> simp

/-- The items have no errors when none of them has. -/
theorem itemErrors_eq_nil_iff {check : Json → List ValueError} {index : Nat} {xs : List Json} :
    itemErrors check index xs = [] ↔ ∀ x ∈ xs, check x = [] := by
  unfold itemErrors
  induction xs generalizing index with
  | nil => exact iff_of_true rfl nofun
  | cons x xs ih =>
      rw [List.zipIdx_cons, List.flatMap_cons, List.append_eq_nil_iff, allInside_eq_nil_iff, ih,
        List.forall_mem_cons]

end Schema

/-! ## Records -/

namespace Demand

variable {meaning : String → Option Demand}

/-- Whether the value of a property satisfies the demand of its type, or is a list of values that
do. -/
def IsMet (meaning : String → Option Demand) (d : Demand) : Bool → Json → Prop
  | false, x => d.accepts meaning x = true
  | true, x => ∃ xs, x = .array xs ∧ ∀ y ∈ xs, d.accepts meaning y = true

/-- A demand accepts the items when it accepts each. -/
theorem acceptsItems_iff {d : Demand} {xs : List Json} :
    d.acceptsItems meaning xs = true ↔ ∀ x ∈ xs, d.accepts meaning x = true := by
  induction xs with
  | nil => exact iff_of_true rfl nofun
  | cons x xs ih => rw [acceptsItems, Bool.and_eq_true, ih, List.forall_mem_cons]

/-- A record accepts the members when each is a property whose demand it meets. -/
theorem acceptsMembers_iff {system : String} {properties : List Property}
    {ms : List (String × Json)} :
    acceptsMembers meaning system properties ms = true
      ↔ ∀ m ∈ ms, ∃ d array, ofProperty? meaning system properties m.1 = some (d, array)
        ∧ d.IsMet meaning array m.2 := by
  induction ms with
  | nil => exact iff_of_true rfl nofun
  | cons m ms ih =>
      rw [acceptsMembers, Bool.and_eq_true, ih, List.forall_mem_cons]
      refine and_congr_left fun _ => ?_
      cases hproperty : ofProperty? meaning system properties m.1 with
      | none => simp
      | some asked =>
          obtain ⟨d, array⟩ := asked
          cases array with
          | false => simp [IsMet]
          | true =>
              cases hvalue : m.2 with
              | array xs => simp [IsMet, acceptsItems_iff]
              | _ => simp [IsMet]

end Demand

/-- Whether following a link decides if a value of at most some levels satisfies the demand of a
type. -/
def Follow.Decides (follow : Follow) (meaning : String → Option Demand) (levels : Nat) (t : String)
    (l : Link) : Prop :=
  ∃ demand, meaning t = some demand
    ∧ ∀ x, x.levels ≤ levels → (follow.errors l x = [] ↔ demand.accepts meaning x = true)

namespace Reader

open Schema

variable {meaning : String → Option Demand} {here below : Follow}

/-- A reference gives the errors that following it gives. -/
theorem errors_reference_eq_nil_iff {l : Link} {x : Json} :
    (keywords [.reference l]).errors here below x = [] ↔ here.errors l x = [] := by
  show here.errors l x ++ [] = [] ↔ _
  rw [List.append_nil]

/-- What a property is read as gives no errors to values that meet its demand, in a list if the
property is one. -/
theorem errors_propertyReading_eq_nil_iff {levels : Nat} {l : Link} {demand : Demand}
    {x : Json} (hx : x.levels ≤ levels)
    (hl : ∀ y, y.levels ≤ levels → (below.errors l y = [] ↔ demand.accepts meaning y = true))
    (array : Bool) :
    (propertyReading array l).errors below below x = [] ↔ demand.IsMet meaning array x := by
  cases array with
  | false =>
      unfold propertyReading
      rw [errors_reference_eq_nil_iff, hl x hx]
      rfl
  | true =>
      show _ ++ (keywordErrors below below (.items _) x ++ []) = [] ↔ _
      rw [List.append_eq_nil_iff, List.append_nil, keywordErrors,
        Constraint.errors_type_eq_nil_iff]
      cases x with
      | array xs =>
          unfold keywordErrors
          rw [itemErrors_eq_nil_iff, Demand.IsMet]
          constructor
          · rintro ⟨-, hitems⟩
            refine ⟨xs, rfl, fun y hy => (hl y ?_).1 (errors_reference_eq_nil_iff.1 (hitems y hy))⟩
            exact (Json.levels_lt_of_mem_items hy).le.trans hx
          · rintro ⟨ys, heq, hitems⟩
            cases heq
            refine ⟨rfl, fun y hy => errors_reference_eq_nil_iff.2 ((hl y ?_).2 (hitems y hy))⟩
            exact (Json.levels_lt_of_mem_items hy).le.trans hx
      | _ => simp [ValueType.has, Demand.IsMet]

/-- A member is one of the properties of a record, and has no errors, exactly when it is what the
property of its name asks for. -/
theorem declaredErrors?_eq_some_nil_iff {levels : Nat} {system : String}
    {properties : List Property} {ls : List Link} {m : String × Json} (hm : m.2.levels ≤ levels)
    (hls : List.Forall₂ (fun p l => below.Decides meaning levels
      (Emitter.propertyTarget system p) l) properties ls) :
    declaredErrors? below (propertyReadings properties ls) m = some []
      ↔ ∃ d array, Demand.ofProperty? meaning system properties m.1 = some (d, array)
        ∧ d.IsMet meaning array m.2 := by
  unfold Demand.ofProperty?
  induction hls with
  | nil => simp [propertyReadings, declaredErrors?]
  | @cons p l properties ls hl hls ih =>
      obtain ⟨demand, hmeaning, hdecides⟩ := hl
      show (if p.name = m.1 then some ((propertyReading p.array l).errors below below m.2)
        else declaredErrors? below (propertyReadings properties ls) m) = some [] ↔ _
      by_cases hname : p.name = m.1
      · rw [if_pos hname, List.find?_cons_of_pos (by simpa using hname), Option.bind_some, hmeaning,
          Option.some.injEq, errors_propertyReading_eq_nil_iff hm hdecides]
        constructor
        · exact fun hmet => ⟨demand, p.array, rfl, hmet⟩
        · rintro ⟨d, array, heq, hmet⟩
          cases heq
          exact hmet
      · rw [if_neg hname, List.find?_cons_of_neg (by simpa using hname), ih]

/-- A value satisfies what the document of a demand is read as exactly when it satisfies the demand,
if links decide this of the values of the members. -/
theorem Reads.errors_eq_nil_iff {r : Reader} {e : Emitter} {targets : List Target}
    {demand : Demand} {s : Schema} (h : r.Reads e targets demand s)
    (hwellFormed : demand.WellFormed) {levels : Nat}
    (hbelow : ∀ t l, r.LeadsTo e t l → l.target ∈ targets → below.Decides meaning levels t l)
    {v : Json} (hv : v.levels ≤ levels + 1) :
    s.errors here below v = [] ↔ demand.accepts meaning v = true := by
  cases h with
  | atom hatom hcs =>
      rw [errors_constraints_eq_nil_iff, forall_errors_iff_forall_allows hcs,
        forall_allows_iff_acceptsAtom hatom hwellFormed, Demand.accepts_of_atom v hatom]
  -- For a record the schema that closes it asks each member, by the link of its property.
  | @record system properties required ls hls htargets =>
      have hdecides : List.Forall₂ (fun p l => below.Decides meaning levels
          (Emitter.propertyTarget system p) l) properties ls := by
        clear hwellFormed
        induction hls with
        | nil => exact .nil
        | cons hl hls ih =>
            rw [List.forall_mem_cons] at htargets
            exact .cons (hbelow _ _ hl htargets.1) (ih htargets.2)
      show _ ++ (keywordErrors here below (.closed _ [] (.boolean false)) v
        ++ keywordListErrors here below
          (if required.isEmpty then [] else [.constraint (.required required)]) v) = [] ↔ _
      rw [List.append_eq_nil_iff, List.append_eq_nil_iff, keywordErrors,
        Constraint.errors_type_eq_nil_iff]
      cases v with
      | object ms =>
          have hrequired : keywordListErrors here below
              (if required.isEmpty then [] else [.constraint (.required required)]) (.object ms)
                = []
                ↔ (required.all fun name => (ms.lookup name).isSome) = true := by
            cases required with
            | nil => exact iff_of_true rfl rfl
            | cons name names =>
                exact errors_constraints_eq_nil_iff.trans
                  (List.forall_mem_singleton.trans Constraint.errors_required_eq_nil_iff)
          rw [errors_closed_eq_nil_iff, hrequired, Demand.accepts, Bool.and_eq_true,
            Demand.acceptsMembers_iff]
          refine (and_iff_right rfl).trans (and_congr_left fun _ => forall₂_congr fun m hm => ?_)
          refine declaredErrors?_eq_some_nil_iff ?_ hdecides
          exact Nat.le_of_lt_succ ((Json.levels_lt_of_mem_members hm).trans_le hv)
      | _ => simp [ValueType.has, Demand.accepts, Demand.acceptsAtom]

end Reader

/-! ## Validators -/

namespace Validator

variable {r : Reader} {domain : String} {meaning : String → Option Demand} {v : Validator}

/-- Where a link leads there is what the document of its type is read as. -/
theorem exists_reads_of_leadsTo {targets : List Target}
    (hsettled : r.Settled (.ofDomain domain) meaning targets v.definitions)
    {t : String} {l : Link} (hl : r.LeadsTo (.ofDomain domain) t l)
    (htarget : l.target ∈ v.definitions.map Prod.fst) :
    ∃ s demand, v.definitions.lookup l.target = some s ∧ meaning t = some demand
      ∧ demand.WellFormed ∧ r.Reads (.ofDomain domain) targets demand s := by
  cases hlookup : v.definitions.lookup l.target with
  | none => exact absurd htarget (Table.lookup_eq_none_iff_forall.1 hlookup)
  | some s =>
      obtain ⟨t', demand, ht', haddress, hmeaning, hwellFormed, hreads⟩ :=
        hsettled _ (Table.mem_of_lookup hlookup)
      rw [haddress.unique ht' hl.name hl.address] at hmeaning
      exact ⟨s, demand, rfl, hmeaning, hwellFormed, hreads⟩

/-- Following a link that finds its target by itself asks the schema there. -/
theorem errors_follow (levels : Nat) (σ : Scope) {l : Link} {s : Schema} (hkind : l.kind = .fixed)
    (hlookup : v.definitions.lookup l.target = some s) : ∃ here τ, ∀ x,
      (v.follow (levels + 1) σ).errors l x = s.errors here (v.follow levels τ) x := by
  refine ⟨v.followHere (v.follow levels) v.definitions.length [l.target]
    (σ.enter l.base l.target.address), σ.enter l.base l.target.address, fun x => ?_⟩
  have hdestination : l.destination v.registry σ
      = (l.target, σ.enter l.base l.target.address) := by
    unfold Link.destination
    rw [hkind]
  rw [follow, followHere]
  dsimp only
  rw [hdestination]
  dsimp only
  rw [if_neg List.not_mem_nil, hlookup]
  rfl

/-- A validator that has read the documents of all types decides at each of its links whether a
value satisfies the demand of the type. -/
theorem decides_follow
    (hsettled : r.Settled (.ofDomain domain) meaning (v.definitions.map Prod.fst) v.definitions)
    (levels : Nat) (σ : Scope) {t : String} {l : Link} (hl : r.LeadsTo (.ofDomain domain) t l)
    (htarget : l.target ∈ v.definitions.map Prod.fst) :
    (v.follow levels σ).Decides meaning levels t l := by
  induction levels generalizing σ t l with
  | zero =>
      obtain ⟨s, demand, -, hmeaning, -, -⟩ := exists_reads_of_leadsTo hsettled hl htarget
      exact ⟨demand, hmeaning, fun x hx => absurd x.levels_pos (Nat.not_lt.2 hx)⟩
  | succ levels ih =>
      obtain ⟨s, demand, hlookup, hmeaning, hwellFormed, hreads⟩ :=
        exists_reads_of_leadsTo hsettled hl htarget
      obtain ⟨here, τ, herrors⟩ := errors_follow levels σ hl.kind hlookup
      refine ⟨demand, hmeaning, fun x hx => ?_⟩
      rw [herrors]
      exact hreads.errors_eq_nil_iff hwellFormed (fun t l hl htarget => ih τ hl htarget) hx

/-- The validator of a document accepts the values that satisfy the demand of the type. -/
theorem errors_eq_nil_iff {demand : Demand} (hwellFormed : demand.WellFormed)
    (hreads : r.Reads (.ofDomain domain) (v.definitions.map Prod.fst) demand v.schema)
    (hsettled : r.Settled (.ofDomain domain) meaning (v.definitions.map Prod.fst) v.definitions)
    (x : Json) : v.errors x = [] ↔ demand.accepts meaning x = true := by
  unfold errors
  refine hreads.errors_eq_nil_iff hwellFormed (fun t l hl htarget => ?_) (Nat.le_succ _)
  exact v.decides_follow hsettled x.levels [] hl htarget

end Validator

end TypeCatalog
