import TypeCatalog.Text.Ascii

/-!
# Templates of addresses

A template is text with expressions in braces between. An expression names variables, in small
letters, and each may have a length or a star behind it.
-/

set_option autoImplicit false

namespace TypeCatalog.Template

def openBrace : Char := Char.ofNat 0x7B
def closeBrace : Char := Char.ofNat 0x7D

/-- Whether a character may stand in the text of a template. -/
def isLiteral (c : Char) : Bool :=
  decide (0x20 < c.toNat)
    && !(openBrace :: closeBrace :: "\"'<>%\\^`|".toList).contains c

/-- The digits of octets. -/
def isOctetDigit (c : Char) : Bool := Ascii.isDigit c || decide ('a' ≤ c ∧ c ≤ 'f')

/-- The characters that say how an expression is written out. -/
def isOperator (c : Char) : Bool := "+#./;?&=,!@|".toList.contains c

def isNameChar (c : Char) : Bool := Ascii.isDigit c || c == '_' || decide ('a' ≤ c ∧ c ≤ 'z')

/-- What follows a length or a star, if there is one. -/
def afterModifier? : List Char → Option (List Char)
  | '*' :: cs => some cs
  | ':' :: cs =>
    let digits := (cs.take 4).takeWhile Ascii.isDigit
    if digits.isEmpty || digits.head? = some '0' then none else some (cs.drop digits.length)
  | cs => some cs

/-- What follows the variables of an expression. `named` tells whether the name at hand has a
character. -/
def afterVariables? : Nat → Bool → List Char → Option (List Char)
  | 0, _, _ => none
  | rounds + 1, named, '%' :: a :: b :: cs =>
    if isOctetDigit a && isOctetDigit b then afterVariables? rounds true cs
    else if named then some ('%' :: a :: b :: cs) else none
  | rounds + 1, named, cs =>
    match cs with
    | [] => none
    | c :: rest =>
      if isNameChar c then afterVariables? rounds true rest
      else if named then
        (afterModifier? cs).bind fun cs =>
          if cs.head? = some ',' then afterVariables? rounds false cs.tail else some cs
      else none

/-- What follows an expression, behind its opening brace. -/
def afterExpression? (cs : List Char) : Option (List Char) :=
  let cs := if cs.head?.any isOperator then cs.tail else cs
  match afterVariables? (cs.length + 1) false cs with
  | some (c :: rest) => if c = closeBrace then some rest else none
  | _ => none

/-- Whether a text is a template. -/
def isTemplate : Nat → List Char → Bool
  | _, [] => true
  | 0, _ => false
  | rounds + 1, '%' :: a :: b :: cs =>
    isOctetDigit a && isOctetDigit b && isTemplate rounds cs
  | rounds + 1, c :: cs =>
    if c = openBrace then (afterExpression? cs).any (isTemplate rounds) else
      isLiteral c && isTemplate rounds cs

end TypeCatalog.Template
