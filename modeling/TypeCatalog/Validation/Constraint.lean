import TypeCatalog.Json.Decimal
import TypeCatalog.Json.Printer
import TypeCatalog.Json.Reader
import TypeCatalog.Pattern.Search
import TypeCatalog.Text.Base64
import TypeCatalog.Text.Utf8
import TypeCatalog.Validation.Outcome

/-!
# Constraints on a single value

A `Constraint` is a condition that looks at a value and not at other schemas. A constraint that
speaks of another kind of value than the one at hand holds. `Constraint.faults` words what does not
hold.
-/

set_option autoImplicit false

namespace TypeCatalog

/-- The kinds of values that a schema tells apart, in the order of their names. An integer is also a
number. -/
inductive ValueType where
  | array
  | boolean
  | integer
  | null
  | number
  | object
  | string
deriving DecidableEq, Inhabited

namespace ValueType

def all : List ValueType := [array, boolean, integer, null, number, object, string]

def name : ValueType → String
  | array => "array"
  | boolean => "boolean"
  | integer => "integer"
  | null => "null"
  | number => "number"
  | object => "object"
  | string => "string"

def ofName? (s : String) : Option ValueType := all.find? (·.name = s)

/-- Whether a value is of a type. A number without a fraction is an integer; in the strict reading
it also has to be written as one. -/
def has (strict : Bool) : ValueType → Json → Bool
  | array, .array _ => true
  | boolean, .bool _ => true
  | integer, .number (.integer _) => true
  | integer, .number (.real x) => !strict && Binary64.isIntegral x.value
  | null, .null => true
  | number, .number _ => true
  | object, .object _ => true
  | string, .string _ => true
  | _, _ => false

end ValueType

namespace Json

mutual
/-- Whether two values count as equal: numbers by their value, objects only in the same order. -/
def equivalent : Json → Json → Bool
  | null, null => true
  | bool a, bool b => a == b
  | number a, number b => decide (a.value = b.value)
  | string a, string b => a == b
  | array xs, array ys => equivalentItems xs ys
  | object ms, object ns => equivalentMembers ms ns
  | _, _ => false

/-- `equivalent` on lists of items. -/
def equivalentItems : List Json → List Json → Bool
  | [], [] => true
  | x :: xs, y :: ys => equivalent x y && equivalentItems xs ys
  | _, _ => false

/-- `equivalent` on lists of members. -/
def equivalentMembers : List (String × Json) → List (String × Json) → Bool
  | [], [] => true
  | (k, x) :: ms, (l, y) :: ns => k == l && equivalent x y && equivalentMembers ms ns
  | _, _ => false
end

/-- Whether no two items count as equal. -/
def allDifferent : List Json → Bool
  | [] => true
  | x :: xs => !xs.any (equivalent x) && allDifferent xs

end Json

namespace Number

/-- The difference below which a quotient counts as whole. -/
def wholeMargin : Dyadic := .ofIntWithPrec 1 52

/-- The fractional part of a magnitude. -/
def fraction (x : Dyadic) : Dyadic := x - Dyadic.ofInt (Binary64.floorMagnitude x)

/-- Whether a number is a multiple of another, both rounded to binary64. A whole divisor has to
leave no remainder. For any other divisor the rounded quotient has a fraction below `wholeMargin`,
where a negative quotient has a negative fraction; where the quotient is beyond the format's range,
the shortest decimals of the two numbers are divided. -/
def isMultipleOf (n divisor : Number) : Bool :=
  let d := divisor.toBinary64
  let x := n.toBinary64
  let (a, b) := Binary64.magnitude (Binary64.absValue x)
  let (c, e) := Binary64.magnitude (Binary64.absValue d)
  if c = 0 then false
  else if Binary64.isIntegral d.value then
    Binary64.isIntegral x.value && a * e % (b * c) == 0
  else
    match Binary64.divMagnitude? (Binary64.absValue x) (Binary64.absValue d) with
    | none =>
      let (a, b) := (Decimal.shortest (Binary64.absValue x)).ratio
      let (c, e) := (Decimal.shortest (Binary64.absValue d)).ratio
      a * e % (b * c) == 0
    | some q => (x.isNegative != d.isNegative) || decide (fraction q < wholeMargin)

/-- The difference from which on two numbers differ. -/
def equalMargin : Dyadic := .ofIntWithPrec 1 52 - .ofIntWithPrec 1 106

/-- Whether two numbers, both rounded to binary64, are nearly the same: their rounded difference is
less than `2 ^ (-52)`. -/
def isNearly (m n : Number) : Bool :=
  let difference := m.toBinary64.value - n.toBinary64.value
  decide (-equalMargin < difference ∧ difference < equalMargin)

end Number

/-- A condition on one value. -/
inductive Constraint where
  /-- The value is of one of the types, which stand in the order of their names. They may be given
  as a list of one. -/
  | type (strict isList : Bool) (types : List ValueType)
  | enum (options : List Json)
  | const (value : Json)
  | minimum (bound : Number)
  | maximum (bound : Number)
  | exclusiveMinimum (bound : Number)
  | exclusiveMaximum (bound : Number)
  | multipleOf (divisor : Number)
  | minLength (n : Nat)
  | maxLength (n : Nat)
  | pattern (text : String) (search : Pattern.Search)
  | format (name : String) (accepts : String → Bool)
  | minItems (n : Nat)
  | maxItems (n : Nat)
  | uniqueItems
  | minProperties (n : Nat)
  | maxProperties (n : Nat)
  | required (names : List String)
  /-- The text stands for bytes in 64 characters. -/
  | base64
  /-- The text is a JSON text. -/
  | jsonText
  /-- The text stands for the bytes of a JSON text. -/
  | base64JsonText

namespace Constraint

/-- A number of things in words. -/
def counted (n : Nat) (one many : String) : String :=
  toString n ++ " " ++ if n = 1 then one else many

/-- The message for a value of another type. -/
def typeMessage (isList : Bool) (types : List ValueType) (v : Json) : String :=
  let names := ", ".intercalate (types.map fun t => "\"" ++ t.name ++ "\"")
  v.compact ++ (if isList then " is not of types " else " is not of type ") ++ names

def minimumMessage (v : Json) (bound : Number) : String :=
  v.compact ++ " is less than the minimum of " ++ bound.text

def formatMessage (v : Json) (name : String) : String := v.compact ++ " is not a \"" ++ name ++ "\""

def optionMessage (v : Json) (options : List Json) : String :=
  v.compact ++ " is not one of " ++ (Json.array options).compact

/-- The message for an array with items that count as equal. -/
def repetitionMessage (v : Json) : String := v.compact ++ " has non-unique elements"

/-- The message for a text of which a search was given up. -/
def exhaustedMessage : String :=
  "Error executing regex: Max limit for backtracking count exceeded"

/-- A message if a condition does not hold. -/
def expect (holds : Bool) (message : String) : List String := if holds then [] else [message]

def encodingMessage (v : Json) : String :=
  v.compact ++ " is not compliant with \"base64\" content encoding"

def mediaMessage (v : Json) : String :=
  v.compact ++ " is not compliant with \"application/json\" media type"

/-- Whether a text is a JSON text. -/
def isJsonText (s : String) : Bool := (Json.parse s).toOption.isSome

/-- What a value does not satisfy, in words. -/
def faults : Constraint → Json → List String
  | type strict isList types, v =>
    expect (types.any (·.has strict v)) (typeMessage isList types v)
  | enum options, v => expect (options.any (v.equivalent ·)) (optionMessage v options)
  | const (.number m), .number n => expect (n.isNearly m) (m.text ++ " was expected")
  | const c, v => expect (v.equivalent c) (c.compact ++ " was expected")
  | minimum b, .number n =>
    expect (decide (b.value ≤ n.value)) (minimumMessage (.number n) b)
  | maximum b, .number n =>
    expect (decide (n.value ≤ b.value)) (n.text ++ " is greater than the maximum of " ++ b.text)
  | exclusiveMinimum b, .number n =>
    expect (decide (b.value < n.value))
      (n.text ++ " is less than or equal to the minimum of " ++ b.text)
  | exclusiveMaximum b, .number n =>
    expect (decide (n.value < b.value))
      (n.text ++ " is greater than or equal to the maximum of " ++ b.text)
  | multipleOf d, .number n =>
    expect (n.isMultipleOf d) (n.text ++ " is not a multiple of " ++ d.toBinary64.plainText)
  | minLength k, .string s =>
    expect (decide (k ≤ s.length))
      ((Json.string s).compact ++ " is shorter than " ++ counted k "character" "characters")
  | maxLength k, .string s =>
    expect (decide (s.length ≤ k))
      ((Json.string s).compact ++ " is longer than " ++ counted k "character" "characters")
  | pattern text search, .string s =>
    match search.find s with
    | .yes => []
    | .no => [(Json.string s).compact ++ " does not match \"" ++ text ++ "\""]
    | .exhausted => [exhaustedMessage]
  | format name accepts, .string s => expect (accepts s) (formatMessage (.string s) name)
  | minItems k, .array xs =>
    expect (decide (k ≤ xs.length))
      ((Json.array xs).compact ++ " has less than " ++ counted k "item" "items")
  | maxItems k, .array xs =>
    expect (decide (xs.length ≤ k))
      ((Json.array xs).compact ++ " has more than " ++ counted k "item" "items")
  | uniqueItems, .array xs =>
    expect (Json.allDifferent xs) (repetitionMessage (.array xs))
  | minProperties k, .object ms =>
    expect (decide (k ≤ ms.length))
      ((Json.object ms).compact ++ " has less than " ++ counted k "property" "properties")
  | maxProperties k, .object ms =>
    expect (decide (ms.length ≤ k))
      ((Json.object ms).compact ++ " has more than " ++ counted k "property" "properties")
  | required names, .object ms =>
    (names.filter fun name => (ms.lookup name).isNone).map fun name =>
      (Json.string name).compact ++ " is a required property"
  | base64, .string s =>
    expect (Text.Base64.decode? s.toList).isSome (encodingMessage (.string s))
  | jsonText, .string s => expect (isJsonText s) (mediaMessage (.string s))
  | _, _ => []

/-- What is wrong with a text that should stand for the bytes of a JSON text. Bytes that are no text
are reported without a place. -/
def base64JsonErrors (s : String) : List ValueError :=
  match Text.Base64.decode? s.toList with
  | none => [.here (encodingMessage (.string s))]
  | some bytes =>
    match Text.Utf8.fault? bytes, String.fromUTF8? ⟨bytes.toArray⟩ with
    | some f, _ => [.nowhere f.message]
    | none, text =>
      if text.any isJsonText then [] else [.here (mediaMessage (.string s))]

/-- What a value does not satisfy, at its own place. -/
def errors : Constraint → Json → List ValueError
  | base64JsonText, .string s => base64JsonErrors s
  | c, v => (c.faults v).map .here

end Constraint

end TypeCatalog
