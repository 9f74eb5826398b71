import TypeCatalog.Validation.Format
import TypeCatalog.Validation.Registry

/-!
# Reading conditions on values

`Reader.constraint?` reads the keywords of a schema that look at the value alone.

`boundConstraint` reads `minimum`, `maximum` and the exclusive bounds, `count?` the lengths and the
numbers of items and members, `typeAmong` and `types` the keyword `type`, and `search` the keyword
`pattern`.
-/

set_option autoImplicit false

namespace TypeCatalog

/-- What reading a schema depends on. -/
structure Reader where
  /-- The documents that references may lead to. -/
  registry : Registry
  /-- The formats that a batch brings. -/
  formats : List Format
  /-- Whether formats are conditions at all. -/
  checksFormats : Bool

namespace Reader

/-- Texts in a list. -/
def texts (v : Json) : Except SchemaFault (List String) :=
  match v with
  | .array xs => xs.mapM fun x =>
    match x with
    | .string s => .ok s
    | x => .error (.ofType [.string] x)
  | v => .error (.ofType [.array] v)

/-- The number of things that a real number stands for, as an unsigned word of 64 bits: the nearest
one. -/
def clamped (x : Dyadic) : Nat :=
  if x < 0 then 0 else min (Binary64.floorMagnitude x) 0xFFFFFFFFFFFFFFFF

/-- A number of things: an integer, however it is written. The fourth version wants it to be written
as one, and not to be negative. -/
def count (d : Draft) (v : Json) : Except SchemaFault Nat :=
  match v with
  | .number n =>
    match v.nat64? with
    | some k => .ok k
    | none =>
      if d.isSince .draft6 && n.isIntegral then .ok (clamped n.value)
      else
        match n with
        | .integer _ => .error (.rejected (Constraint.minimumMessage v (.integer 0)))
        | .real _ => .error (.ofType [.integer] v)
  | v => .error (.ofType [.integer] v)

/-- A number of items that has to be there, when it is given. A negative one is none. -/
def count? (keyword : String) (siblings : List (String × Json)) :
    Except SchemaFault (Option Nat) :=
  match siblings.lookup keyword with
  | none => .ok none
  | some (.number (.integer n)) =>
    if n < 0 then
      .error (.rejected (Constraint.minimumMessage (.number (.integer n)) (.integer 0)))
    else .ok (some n.toNat)
  | some v => (count .draft6 v).map some

def bound (v : Json) : Except SchemaFault Number :=
  match v with
  | .number n => .ok n
  | v => .error (.ofType [.number] v)

def items (v : Json) : Except SchemaFault (List Json) :=
  match v with
  | .array xs => .ok xs
  | v => .error (.ofType [.array] v)

/-- One of several types. -/
def typeAmong (v : Json) : Except SchemaFault ValueType :=
  match v with
  | .string s =>
    match ValueType.ofName? s with
    | some t => .ok t
    | none =>
      .error (.rejected
        (Constraint.optionMessage v (ValueType.all.map fun t => Json.string t.name)))
  | v => .error (.ofType [.string] v)

/-- The condition of a value of `type`, which names a type or lists some. -/
def types (d : Draft) (v : Json) : Except SchemaFault Constraint :=
  let strict : Bool := d = .draft4
  match v with
  | .string s | .array [.string s] =>
    match ValueType.ofName? s with
    | some t => .ok (.type strict false [t])
    | none => .error .unexpectedType
  | .array xs => do
    let ts ← xs.mapM typeAmong
    pure (.type strict true (ValueType.all.filter ts.contains))
  | v => .error (.ofType [.array, .string] v)

/-- The search for a pattern. A fault shows another value than the pattern where it stands for a
schema. -/
def search (pattern : String) (shown : Json) : Except SchemaFault Pattern.Search :=
  match Pattern.Search.compile? pattern with
  | some r => .ok r
  | none => .error (.rejected (Constraint.formatMessage shown "regex"))

/-- The condition of a lower or an upper bound. In the fourth version a flag beside it makes it an
exclusive one. -/
def boundConstraint (d : Draft) (siblings : List (String × Json)) (flag : String)
    (plain exclusive : Number → Constraint) (v : Json) : Except SchemaFault Constraint := do
  let n ← bound v
  pure (if d = .draft4 && siblings.lookup flag = some (.bool true) then exclusive n else plain n)

/-- The condition of the form in which a text is written. With a form of what it holds beside it,
the two are one condition, which stands there. -/
def encoding? (siblings : List (String × Json)) (v : Json) :
    Except SchemaFault (Option Constraint) :=
  if (siblings.lookup "contentMediaType").isSome then .ok none
  else
    match v with
    | .string s => .ok (if s = "base64" then some .base64 else none)
    | v => .error (.ofType [.string] v)

/-- The condition of the form of what a text holds. -/
def mediaType? (siblings : List (String × Json)) (v : Json) :
    Except SchemaFault (Option Constraint) :=
  match v, siblings.lookup "contentEncoding" with
  | .string s, encoding =>
    if s = "application/json" then
      match encoding with
      | none => .ok (some .jsonText)
      | some (.string e) => .ok (if e = "base64" then some .base64JsonText else none)
      | some e => .error (.ofType [.string] e)
    else .ok none
  | v, _ => .error (.ofType [.string] v)

/-- The constraint of a keyword that looks at no other schema. -/
def constraint? (r : Reader) (d : Draft) (siblings : List (String × Json)) (keyword : String)
    (v : Json) : Except SchemaFault (Option Constraint) :=
  match keyword with
  | "type" => (types d v).map some
  | "enum" => do pure (some (.enum (← items v)))
  | "const" => pure (some (.const v))
  | "minimum" =>
    (boundConstraint d siblings "exclusiveMinimum" .minimum .exclusiveMinimum v).map some
  | "maximum" =>
    (boundConstraint d siblings "exclusiveMaximum" .maximum .exclusiveMaximum v).map some
  | "exclusiveMinimum" => do pure (some (.exclusiveMinimum (← bound v)))
  | "exclusiveMaximum" => do pure (some (.exclusiveMaximum (← bound v)))
  | "multipleOf" => do pure (some (.multipleOf (← bound v)))
  | "minLength" => do pure (some (.minLength (← count d v)))
  | "maxLength" => do pure (some (.maxLength (← count d v)))
  | "minItems" => do pure (some (.minItems (← count d v)))
  | "maxItems" => do pure (some (.maxItems (← count d v)))
  | "minProperties" => do pure (some (.minProperties (← count d v)))
  | "maxProperties" => do pure (some (.maxProperties (← count d v)))
  | "required" => do pure (some (.required (← texts v)))
  | "pattern" =>
    match v with
    | .string s => do pure (some (.pattern s (← search s v)))
    | v => .error (.ofType [.string] v)
  | "uniqueItems" => pure (if v = .bool true then some .uniqueItems else none)
  | "contentEncoding" => encoding? siblings v
  | "contentMediaType" => mediaType? siblings v
  | "format" =>
    if !r.checksFormats then pure none
    else
      match v with
      | .string name => pure ((Format.find? r.formats d name).map fun f => .format name f.accepts)
      | v => .error (.ofType [.string] v)
  | _ => pure none

end Reader

end TypeCatalog
