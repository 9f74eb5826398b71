/-!
# Names and references

A type belongs to a system, and `Name.qualify` joins the two names with a slash. A reference to a
type is written inside a system, as a bare name, as `system/name`, behind any number of `../`, or as
an absolute address below the domain. `Name.resolve` gives the qualified name that a reference
stands for; `Name.isReference` accepts the forms that are not absolute.

`Name.resolve` takes the domain off (`dropDomain`), then the steps upwards (`dropParents`) and the
single dots (`dropHere`), and keeps the last two segments (`lastSegments`); a bare name gets the
system of the definition in front. `Name.title` and `Name.pascalCase` make the words of a title and
the second half of a variant's name.
-/

set_option autoImplicit false

namespace TypeCatalog.Name

/-- The sign between a system and a name. -/
def separator : Char := '/'

def isLowerCase (c : Char) : Bool := decide ('a' ≤ c ∧ c ≤ 'z')
def isUpperCase (c : Char) : Bool := decide ('A' ≤ c ∧ c ≤ 'Z')
def isDigit (c : Char) : Bool := decide ('0' ≤ c ∧ c ≤ '9')

/-- Letters and digits of ASCII. -/
def isAlphanumeric (c : Char) : Bool := isLowerCase c || isUpperCase c || isDigit c

/-- A lower-case letter followed by letters and digits, on characters. -/
def isIdentifierChars : List Char → Bool
  | [] => false
  | c :: cs => isLowerCase c && cs.all isAlphanumeric

/-- A lower-case letter followed by letters and digits. Systems, types, properties and variants have
such names. -/
def isIdentifier (s : String) : Bool := isIdentifierChars s.toList

/-- The qualified name of a type. -/
def qualify (system name : String) : String := system ++ "/" ++ name

/-- The parts before and after the last slash. -/
def splitLastChars : List Char → Option (List Char × List Char)
  | [] => none
  | c :: cs =>
    match splitLastChars cs with
    | some (front, last) => some (c :: front, last)
    | none => if c = separator then some ([], cs) else none

/-- The system and the name of a qualified name; a bare name has none. -/
def split? (qualified : String) : Option (String × String) :=
  (splitLastChars qualified.toList).map fun (front, last) =>
    (String.ofList front, String.ofList last)

/-- What is left after any number of `../` in front. -/
def dropParents : List Char → List Char
  | '.' :: '.' :: '/' :: cs => dropParents cs
  | cs => cs

/-- What is left after any number of `./` in front. -/
def dropHere : List Char → List Char
  | '.' :: '/' :: cs => dropHere cs
  | cs => cs

def dropSlashes (cs : List Char) : List Char := cs.dropWhile (· = separator)

/-- A text without the slashes at its end. -/
def trimEndSlashes (cs : List Char) : List Char := (dropSlashes cs.reverse).reverse

/-- A reference without the domain. The slashes that end the domain or follow it in the reference
are of no account. -/
def dropDomain (domain reference : List Char) : List Char :=
  let front := trimEndSlashes domain
  if front.isPrefixOf reference then dropSlashes (reference.drop front.length) else reference

/-- The qualified name for the last two segments of a path, or for a bare name of the system. -/
def lastSegments (system path : List Char) : List Char × List Char :=
  match splitLastChars path with
  | none => (system, path)
  | some (front, name) =>
    match splitLastChars front with
    | none => (front, name)
    | some (_, inner) => (inner, name)

/-- The qualified name that a reference inside a system stands for. -/
def resolve (domain : Option String) (system reference : String) : String :=
  let cs :=
    match domain with
    | some d => dropDomain d.toList reference.toList
    | none => reference.toList
  let (s, n) := lastSegments system.toList (dropHere (dropParents cs))
  qualify (String.ofList s) (String.ofList n)

/-- Whether a text is a name or `system/name`, behind any number of `../`. -/
def isReference (s : String) : Bool :=
  let path := dropParents s.toList
  match splitLastChars path with
  | none => isIdentifierChars path
  | some (system, name) => isIdentifierChars system && isIdentifierChars name

/-- The capital of a lower-case letter of ASCII. -/
def capital (c : Char) : Char := if isLowerCase c then Char.ofNat (c.toNat - 32) else c

/-- The name with a capital in front: `countOnly` becomes `CountOnly`. -/
def pascalCase (s : String) : String :=
  match s.toList with
  | [] => ""
  | c :: cs => String.ofList (capital c :: cs)

/-- The characters of a title after its first: a blank goes in front of each capital that follows a
lower-case letter or a digit. -/
def spaced (previous : Char) : List Char → List Char
  | [] => []
  | c :: cs =>
    if isUpperCase c && (isLowerCase previous || isDigit previous) then ' ' :: c :: spaced c cs
    else c :: spaced c cs

/-- The title that a name suggests: `shortString` becomes `Short String`. -/
def title (name : String) : String :=
  match name.toList with
  | [] => ""
  | c :: cs => String.ofList (capital c :: spaced c cs)

end TypeCatalog.Name
