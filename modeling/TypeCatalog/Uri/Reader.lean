import TypeCatalog.Uri.Basic

/-!
# Reading addresses

`Uri.parse` reads a reference in ASCII and `Uri.parseWith` also a wide one. Characters are read as
long as they are allowed where they stand; the first one that nothing allows is the fault, and its
index counts bytes.
-/

set_option autoImplicit false

namespace TypeCatalog.Uri

/-- Why a text is no reference. The index counts bytes. -/
inductive Fault where
  | unexpected (index : Nat)
  | percentEncoding (index : Nat)
  | address (index : Nat)
deriving DecidableEq

def Fault.message : Fault → String
  | unexpected i => "unexpected character at index " ++ toString i
  | percentEncoding i => "invalid percent-encoded octet at index " ++ toString i
  | address i => "invalid IPv6 address at index " ++ toString i

/-- A place in a text. -/
structure Cursor where
  /-- The number of bytes in front of the place. -/
  index : Nat
  rest : List Char

/-- Reads characters as long as they are allowed. A percent sign has to begin an octet. -/
def octetRun (allowed : Char → Bool) (index : Nat) :
    List Char → Except Fault (List Char × List Char)
  | [] => .ok ([], [])
  | '%' :: a :: b :: cs =>
    if Ascii.isHexDigit a && Ascii.isHexDigit b then
      (octetRun allowed (index + 3) cs).map fun (run, rest) => ('%' :: a :: b :: run, rest)
    else .error (.percentEncoding index)
  | c :: cs =>
    if c = '%' then .error (.percentEncoding index)
    else if allowed c then
      (octetRun allowed (index + c.utf8Size) cs).map fun (run, rest) => (c :: run, rest)
    else .ok ([], c :: cs)

namespace Cursor

/-- The place behind some characters that stand at a place. -/
def skip (c : Cursor) (run : List Char) : Cursor :=
  ⟨c.index + Ascii.byteCount run, c.rest.drop run.length⟩

/-- What is read at a place, and the place behind it. -/
def read (allowed : Char → Bool) (c : Cursor) : Except Fault (List Char × Cursor) :=
  (octetRun allowed c.index c.rest).map fun (run, _) => (run, c.skip run)

/-- Reads characters where percent signs mean nothing. -/
def readPlain (allowed : Char → Bool) (c : Cursor) : List Char × Cursor :=
  let run := c.rest.takeWhile allowed
  (run, c.skip run)

/-- Whether a character stands at the place. -/
def isAt (c : Cursor) (d : Char) : Bool := c.rest.head? = some d

/-- The place behind a character, if it stands there. -/
def pass? (c : Cursor) (d : Char) : Option Cursor := if c.isAt d then some (c.skip [d]) else none

/-- The place behind a character, which has to stand there. -/
def pass (c : Cursor) (d : Char) : Except Fault Cursor :=
  ((c.pass? d).map .ok).getD (.error (.unexpected c.index))

/-- Reads what stands behind a character, if the character is there. -/
def readBehind (d : Char) (allowed : Char → Bool) (c : Cursor) :
    Except Fault (Option (List Char) × Cursor) :=
  match c.pass? d with
  | none => .ok (none, c)
  | some c => (c.read allowed).map fun (run, c) => (some run, c)

end Cursor

/-! ## Authorities -/

/-- Reads an address of a later kind: its version in hexadecimal digits, a dot, and its text. -/
def readFuture (start : Cursor) : Except Fault (Host × Cursor) := do
  if !(start.isAt 'v' || start.isAt 'V') then throw (.unexpected start.index)
  let (version, c) := (start.skip ['v']).readPlain Ascii.isHexDigit
  if version.isEmpty then throw (.unexpected c.index)
  let (text, c) := (← c.pass '.').readPlain fun d => isUnreserved d || isSubDelimiter d || d == ':'
  if text.isEmpty then throw (.unexpected c.index)
  pure (.future (start.rest.take 1 ++ version ++ '.' :: text), c)

/-- Reads an address in brackets, if there is one. -/
def readBracketed? (c : Cursor) : Except Fault (Option (Host × Cursor)) :=
  match c.pass? '[' with
  | none => .ok none
  | some start => do
    let (address, rest) := Address6.read start.rest
    let (host, c) ← match address with
      | some a =>
        pure (Host.address6 a, start.skip (start.rest.take (start.rest.length - rest.length)))
      | none =>
        if rest.length < start.rest.length then throw (.address start.index)
        else readFuture start
    pure (some (host, ← c.pass ']'))

/-- Reads a port, if there is one. -/
def readPort (c : Cursor) : Option (List Char) × Cursor :=
  match c.pass? ':' with
  | none => (none, c)
  | some c =>
    let (digits, c) := c.readPlain Ascii.isDigit
    (some digits, c)

/-- Divides a host with its port, which stand at a place. A host holds no colon, and a port digits
alone. -/
def splitPort (start : Cursor) (run : List Char) : Except Fault Authority :=
  let host := run.takeWhile (· ≠ ':')
  let port := run.drop (host.length + 1)
  let colons := run.count ':'
  if colons = 0 then .ok ⟨none, .name run, none⟩
  else if colons = 1 then
    let digits := port.takeWhile Ascii.isDigit
    if digits.length = port.length then .ok ⟨none, .name host, some port⟩
    else .error (.unexpected (start.skip (host ++ ':' :: digits)).index)
  else
    let behindLast := (run.reverse.takeWhile (· ≠ ':')).length
    .error (.unexpected (start.skip (run.take (run.length - behindLast - 1))).index)

/-- Reads an authority. -/
def readAuthority (wide : Bool) (start : Cursor) : Except Fault (Authority × Cursor) := do
  let (run, c) ← start.read fun d => isNameChar wide d || d == ':'
  match c.pass? '@' with
  | some c => do
    let (host, c) ← match ← readBracketed? c with
      | some found => pure found
      | none => (c.read (isNameChar wide)).map fun (name, c) => (.name name, c)
    let (port, c) := readPort c
    pure (⟨some run, host, port⟩, c)
  | none =>
    if !run.isEmpty then return (← splitPort start run, c)
    match ← readBracketed? c with
    | some (host, c) =>
      let (port, c) := readPort c
      pure (⟨none, host, port⟩, c)
    | none => pure (⟨none, .name [], none⟩, c)

/-! ## References -/

/-- The scheme and the place behind its colon. Characters that no colon follows are no scheme. -/
def readScheme (start : Cursor) : Except Fault (Option (List Char) × Cursor) :=
  let (scheme, c) := start.readPlain isSchemeChar
  match c.pass? ':' with
  | none => .ok (none, start)
  | some c =>
    if scheme.head?.any Ascii.isLetter then .ok (some scheme, c)
    else .error (.unexpected start.index)

/-- The authority behind two slashes, if they are there. -/
def readAuthority? (wide : Bool) (c : Cursor) : Except Fault (Option Authority × Cursor) :=
  if c.rest.take 2 = ['/', '/'] then
    (readAuthority wide (c.skip ['/', '/'])).map fun (a, c) => (some a, c)
  else .ok (none, c)

/-- Reads the path. Behind an authority it begins with a slash, and where nothing stands in front of
it, its first segment has no colon. -/
def readPath (wide behindScheme behindAuthority : Bool) (start : Cursor) :
    Except Fault (List Char × Cursor) := do
  if behindAuthority then
    let (path, c) ← start.read (isPathChar wide)
    if !path.isEmpty && !start.isAt '/' then throw (.unexpected start.index)
    pure (path, c)
  else if behindScheme then start.read (isPathChar wide)
  else
    let (first, c) ← start.read (isFirstSegmentChar wide)
    if c.isAt ':' then throw (.unexpected c.index)
    let (others, c) ← c.read (isPathChar wide)
    pure (first ++ others, c)

/-- Reads a reference. A wide one may hold characters outside ASCII. -/
def parseWith (wide : Bool) (text : String) : Except Fault Uri := do
  let (scheme, c) ← readScheme ⟨0, text.toList⟩
  let (authority, c) ← readAuthority? wide c
  let (path, c) ← readPath wide scheme.isSome authority.isSome c
  let (query, c) ← c.readBehind '?' (isQueryChar wide)
  let (fragment, c) ← c.readBehind '#' (isFragmentChar wide)
  if !c.rest.isEmpty then throw (.unexpected c.index)
  pure ⟨scheme, authority, path, query, fragment⟩

/-- Reads a reference in ASCII. -/
def parse (text : String) : Except Fault Uri := parseWith false text

end TypeCatalog.Uri
