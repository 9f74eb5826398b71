import TypeCatalog.Uri.Basic

/-!
# What references mean

`Uri.normalized` gives the form in which two addresses are compared, and `Uri.resolve` finds what a
reference means at a base.
-/

set_option autoImplicit false

namespace TypeCatalog.Uri

/-! ## Normal forms -/

/-- Octets are written in capitals, and unreserved characters without an encoding. -/
def normalOctets (f : Char → Char) : List Char → List Char
  | '%' :: a :: b :: cs =>
    let c := Char.ofNat (16 * Ascii.hexDigitValue a + Ascii.hexDigitValue b)
    if isUnreserved c then f c :: normalOctets f cs
    else '%' :: Ascii.upper a :: Ascii.upper b :: normalOctets f cs
  | c :: cs => f c :: normalOctets f cs
  | [] => []

/-- A host in small letters. -/
def Host.normalized : Host → Host
  | name cs => name (normalOctets Ascii.lower cs)
  | address6 a => address6 a
  | future cs => future (cs.map Ascii.lower)

/-- An authority with a normal host and without an empty port. -/
def Authority.normalized (a : Authority) : Authority where
  user := a.user.map (normalOctets id)
  host := a.host.normalized
  port := a.port.filter fun p => !p.isEmpty

/-- The segments of a path, from the first slash on. -/
def segments (cs : List Char) : List (List Char) := cs.splitBy fun _ c => c ≠ '/'

/-- Takes the segments `.` and `..` away, also encoded ones: the kept ones stand in reverse. A last
segment of the two kinds leaves a slash. -/
def withoutDots (kept : List (List Char)) : List (List Char) → List (List Char)
  | [] => kept.reverse
  | s :: rest =>
    let isDots (dots : List Char) : Bool := normalOctets id s = '/' :: dots
    if isDots ['.'] then
      if rest.isEmpty then (['/'] :: kept).reverse else withoutDots kept rest
    else if isDots ['.', '.'] then
      if rest.isEmpty then (['/'] :: kept.tail).reverse else withoutDots kept.tail rest
    else withoutDots (s :: kept) rest

/-- A path that begins with a slash, without the segments `.` and `..`. -/
def removeDots (path : List Char) : List Char :=
  if path.head? = some '/' then (withoutDots [] (segments path)).flatten else path

/-- A path that does not read as an authority where there is none. -/
def guarded (authority : Option Authority) (path : List Char) : List Char :=
  if authority.isNone && path.take 2 = ['/', '/'] then '/' :: '.' :: path else path

/-- The form of a reference in which it is compared with others. -/
def normalized (u : Uri) : Uri where
  scheme := u.scheme.map (·.map Ascii.lower)
  authority := u.authority.map (·.normalized)
  path :=
    let path := normalOctets id u.path
    if u.scheme.isSome then guarded u.authority (removeDots path) else path
  query := u.query.map (normalOctets id)
  fragment := u.fragment.map (normalOctets id)

/-! ## Resolution -/

/-- Why a reference means nothing at a base. -/
inductive ResolutionFault where
  | fragmentInBase
  /-- A base whose path has no slash in front is good for fragments only. -/
  | rootlessBase
deriving DecidableEq

def ResolutionFault.message : ResolutionFault → String
  | fragmentInBase => "base URI/IRI with fragment"
  | rootlessBase =>
    "relative reference must be empty or start with '#' when resolved against authority-less base "
      ++ "URI/IRI with rootless path"

/-- A relative path behind the last slash of the base's path. -/
def mergePath (base : Uri) (path : List Char) : List Char :=
  if base.path.isEmpty then '/' :: path
  else (base.path.reverse.dropWhile (· ≠ '/')).reverse ++ path

/-- The components of what a reference means at a base. -/
def resolveParts (base reference : Uri) : Uri :=
  if reference.scheme.isSome then { reference with path := removeDots reference.path }
  else if reference.authority.isSome then
    { reference with scheme := base.scheme, path := removeDots reference.path }
  else if reference.path.isEmpty then
    { base with
      query := if reference.query.isSome then reference.query else base.query
      fragment := reference.fragment }
  else
    let path :=
      if reference.path.head? = some '/' then reference.path else mergePath base reference.path
    { base with path := removeDots path, query := reference.query, fragment := reference.fragment }

/-- What a reference means at a base. -/
def resolve (base reference : Uri) : Except ResolutionFault Uri :=
  if base.fragment.isSome then .error .fragmentInBase
  else if base.isRootless && reference.scheme.isNone && !reference.isFragmentOnly then
    .error .rootlessBase
  else
    let u := resolveParts base reference
    .ok { u with path := guarded u.authority u.path }

end TypeCatalog.Uri
