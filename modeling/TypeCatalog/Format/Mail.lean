import TypeCatalog.Format.HostName
import TypeCatalog.Text.Trait

/-!
# Addresses of mail

A mail address has a mailbox and a domain with an `@` between them, and a name may stand in front of
it when the address itself is in angle brackets.
-/

set_option autoImplicit false

namespace TypeCatalog.Mail

/-! ## Characters -/

/-- Letters and numbers of any script. -/
def alphanumeric : Text.CharSet :=
  .union Text.Trait.alphabetic (Text.Category.sets [.decimalNumber, .letterNumber, .otherNumber])

/-- Whether a character is a letter or a number of any script. -/
def isAlphanumeric (c : Char) : Bool :=
  if c.toNat < 128 then Ascii.isAlphanumeric c else alphanumeric.contains c

/-- Whether the two low bytes of a character are those of an encoded character of two bytes. -/
def isWide (c : Char) : Bool :=
  let n := c.toNat
  decide (n < 0x10000 ∧ 0xC2 ≤ n / 256 ∧ n / 256 ≤ 0xDF ∧ 0x80 ≤ n % 256 ∧ n % 256 ≤ 0xBF)

/-- The characters of words. -/
def isWordChar (c : Char) : Bool :=
  isAlphanumeric c || "!#$%&'*+-/=?^_`\x7b|\x7d~".toList.contains c || isWide c

/-- Whether a character may stand between quotes as it is. -/
def isQuotable (c : Char) : Bool :=
  c == ' ' || c == '\t' || isWide c
    || (decide (0x21 ≤ c.toNat ∧ c.toNat ≤ 0x7E) && c != '"' && c != '\\')

/-- Whether a character may stand between brackets. -/
def isLiteralChar (c : Char) : Bool :=
  isWide c || (decide (0x21 ≤ c.toNat ∧ c.toNat ≤ 0x7E) && !(['[', '\\', ']'].contains c))

/-! ## Parts -/

/-- Whether a text is a word. -/
def isWord (cs : List Char) : Bool := !cs.isEmpty && cs.all isWordChar

/-- Whether quoted text is well formed: a backslash stands before a character that shows. -/
def isQuotedText : List Char → Bool
  | [] => true
  | '\\' :: c :: cs => decide (0x21 ≤ c.toNat ∧ c.toNat ≤ 0x7E) && isQuotedText cs
  | c :: cs => isQuotable c && isQuotedText cs

/-- Whether a text begins and ends with two characters. -/
def isBetween (first last : Char) (cs : List Char) : Bool :=
  cs.head? = some first && cs.getLast? = some last

/-- What stands between the first and the last character. -/
def inner (cs : List Char) : List Char := cs.tail.dropLast

/-- Whether a text is a mailbox: words with dots between them, or quoted text. -/
def isMailbox (cs : List Char) : Bool :=
  !cs.isEmpty && decide (Ascii.byteCount cs ≤ 64)
    && if isBetween '"' '"' cs then decide (2 < cs.length) && isQuotedText (inner cs)
      else (cs.splitOn '.').all isWord

/-- Whether a text is a label of a domain. -/
def isLabel (cs : List Char) : Bool :=
  isWord cs && decide (Ascii.byteCount cs ≤ 63) && cs.head?.any isAlphanumeric
    && cs.getLast?.any isAlphanumeric

/-- Whether a text has the form of a domain: labels with dots between them, or a literal. -/
def isDomain (cs : List Char) : Bool :=
  !cs.isEmpty && decide (Ascii.byteCount cs ≤ 254)
    && if isBetween '[' ']' cs then (inner cs).all isLiteralChar
      else (cs.splitOn '.').all isLabel

/-- Whether a literal is an address. -/
def isAddressLiteral (cs : List Char) : Bool :=
  let mark := "IPv6:".toList
  if mark.isPrefixOf cs then HostName.isAddress6 (cs.drop mark.length) else HostName.isAddress4 cs

/-! ## Addresses -/

/-- Parts a text at the last place of a character, which belongs to neither part. -/
def splitLast? (c : Char) (cs : List Char) : Option (List Char × List Char) :=
  let (reversedBack, reversedFront) := cs.reverse.span (· ≠ c)
  if reversedFront.isEmpty then none else some (reversedFront.tail.reverse, reversedBack.reverse)

/-- What stands behind the last `<` that follows a blank. -/
def behindName? : List Char → Option (List Char)
  | ' ' :: '<' :: cs => some ((behindName? cs).getD cs)
  | _ :: cs => behindName? cs
  | [] => none

/-- A text without white space at its end. -/
def trimEnd (cs : List Char) : List Char :=
  (cs.reverse.dropWhile Text.Trait.whiteSpace.contains).reverse

/-- The address without the name in front of it. -/
def withoutName? (cs : List Char) : Option (List Char) :=
  match behindName? cs with
  | none => some cs
  | some cs =>
    let cs := trimEnd (cs.dropWhile Text.Trait.whiteSpace.contains)
    if cs.getLast? = some '>' then some cs.dropLast else none

/-- Whether a text is a mail address whose domain is the name of a host or an address of one. -/
def isAddress (isHost : List Char → Bool) (cs : List Char) : Bool :=
  match (withoutName? cs).bind (splitLast? '@') with
  | none => false
  | some (mailbox, domain) =>
    isMailbox mailbox && isDomain domain
      && if isBetween '[' ']' domain then isAddressLiteral (inner domain) else isHost domain

end TypeCatalog.Mail
