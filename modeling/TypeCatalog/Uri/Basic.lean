import TypeCatalog.Text.Ascii
import TypeCatalog.Uri.Address6

/-!
# Addresses

A `Uri` is an absolute or relative reference of RFC 3986 in its components, and `Uri.text` writes it
down. A host in brackets keeps the address that it stands for and not how that was written.
-/

set_option autoImplicit false

namespace TypeCatalog

/-- A host. -/
inductive Uri.Host where
  /-- A name, or an address of four octets. -/
  | name (cs : List Char)
  | address6 (a : Address6)
  /-- An address of a later kind, with its version in front. -/
  | future (cs : List Char)
deriving DecidableEq, Inhabited

/-- A host with what stands around it. -/
structure Uri.Authority where
  user : Option (List Char)
  host : Uri.Host
  port : Option (List Char)
deriving DecidableEq, Inhabited

/-- The components of a reference. -/
structure Uri where
  scheme : Option (List Char)
  authority : Option Uri.Authority
  path : List Char
  query : Option (List Char)
  fragment : Option (List Char)
deriving DecidableEq, Inhabited

namespace Uri

/-! ## Characters -/

def isSchemeChar (c : Char) : Bool := Ascii.isAlphanumeric c || ['+', '-', '.'].contains c

/-- The characters that stand for themselves, encoded or not. -/
def isUnreserved (c : Char) : Bool :=
  Ascii.isAlphanumeric c || ['-', '.', '_', '~'].contains c

def isSubDelimiter (c : Char) : Bool :=
  ['!', '$', '&', '\'', '(', ')', '*', '+', ',', ';', '='].contains c

/-- The characters outside ASCII that a wide reference has: all but the private ones and those that
are no characters. -/
def isWideChar (c : Char) : Bool :=
  let n := c.toNat
  decide ((0xA0 ≤ n ∧ n ≤ 0xD7FF) ∨ (0xF900 ≤ n ∧ n ≤ 0xFDCF) ∨ (0xFDF0 ≤ n ∧ n ≤ 0xFFEF)
    ∨ (0x10000 ≤ n ∧ n ≤ 0xDFFFF ∧ n % 0x10000 ≤ 0xFFFD) ∨ (0xE1000 ≤ n ∧ n ≤ 0xEFFFD))

/-- The private characters, which only the query of a wide reference has. -/
def isPrivateChar (c : Char) : Bool :=
  let n := c.toNat
  decide ((0xE000 ≤ n ∧ n ≤ 0xF8FF) ∨ (0xF0000 ≤ n ∧ n % 0x10000 ≤ 0xFFFD))

def isNameChar (wide : Bool) (c : Char) : Bool :=
  isUnreserved c || isSubDelimiter c || (wide && isWideChar c)

def isPathChar (wide : Bool) (c : Char) : Bool := isNameChar wide c || [':', '@', '/'].contains c

/-- The characters in front of the first slash of a path that no scheme and no host precedes. -/
def isFirstSegmentChar (wide : Bool) (c : Char) : Bool := isNameChar wide c || c == '@'

def isFragmentChar (wide : Bool) (c : Char) : Bool := isPathChar wide c || c == '?'

def isQueryChar (wide : Bool) (c : Char) : Bool :=
  isFragmentChar wide c || (wide && isPrivateChar c)

/-! ## Writing -/

/-- The text of a host. -/
def Host.chars : Host → List Char
  | name cs => cs
  | address6 a => '[' :: a.chars ++ [']']
  | future cs => '[' :: cs ++ [']']

/-- The text of an authority. -/
def Authority.chars (a : Authority) : List Char :=
  (a.user.map (· ++ ['@'])).getD [] ++ a.host.chars ++ (a.port.map (':' :: ·)).getD []

/-- The text of a reference. -/
def chars (u : Uri) : List Char :=
  (u.scheme.map (· ++ [':'])).getD [] ++ (u.authority.map fun a => '/' :: '/' :: a.chars).getD []
    ++ u.path ++ (u.query.map ('?' :: ·)).getD [] ++ (u.fragment.map ('#' :: ·)).getD []

def text (u : Uri) : String := String.ofList u.chars

/-- A reference without its fragment. -/
def document (u : Uri) : Uri := { u with fragment := none }

/-- Whether a reference says nothing but a fragment. -/
def isFragmentOnly (u : Uri) : Bool :=
  u.scheme.isNone && u.authority.isNone && u.path.isEmpty && u.query.isNone

/-- Whether the path begins without a slash and no host precedes it. -/
def isRootless (u : Uri) : Bool := u.authority.isNone && u.path.head? != some '/'

end Uri

end TypeCatalog
