import TypeCatalog.Toml.Scalar
import TypeCatalog.Toml.Table
import TypeCatalog.Toml.Text

/-!
# Reading TOML documents

`Toml.parse?` reads a document: its statements one after the other, and then the tables that they
build. A text that is no document, or whose statements contradict each other, has no value.
-/

set_option autoImplicit false

namespace TypeCatalog.Toml

/-! ## Blanks, comments and keys -/

def isBlank (c : Char) : Bool := c == ' ' || c == '\t'

def skipBlanks (cs : List Char) : List Char := cs.dropWhile isBlank

/-- What follows a line break. -/
def lineBreak? : List Char → Option (List Char)
  | '\n' :: cs => some cs
  | '\r' :: '\n' :: cs => some cs
  | _ => none

/-- What follows a comment, if there is one. -/
def skipComment (cs : List Char) : List Char :=
  if cs.head? = some '#' then cs.dropWhile Text.isPlain else cs

/-- What follows the end of a line: blanks, a comment, and a line break or the end of the text. -/
def lineEnd? (cs : List Char) : Option (List Char) :=
  match skipComment (skipBlanks cs) with
  | [] => some []
  | rest => lineBreak? rest

/-- Skips blanks, comments and line breaks. -/
def skipLines : Nat → List Char → List Char
  | 0, cs => cs
  | rounds + 1, cs =>
    let rest := skipComment (skipBlanks cs)
    match lineBreak? rest with
    | some rest => skipLines rounds rest
    | none => rest

def isKeyChar (c : Char) : Bool := Ascii.isLetter c || Ascii.isDigit c || c == '-' || c == '_'

/-- One part of a key. -/
def keyPart? (cs : List Char) : Option (String × List Char) :=
  let (bare, rest) := cs.span isKeyChar
  if bare.isEmpty then (Text.readLine cs).map fun (k, rest) => (String.ofList k, rest)
  else some (String.ofList bare, rest)

/-- Lists and tables in braces may stand inside each other that deep, and a key has at most so many
parts. -/
def depthLimit : Nat := 79

/-- The parts of a key, which dots divide, and what follows the blanks behind it. There are at most
some number of parts. -/
def keyParts? : Nat → List Char → Option (List String × List Char)
  | 0, _ => none
  | parts + 1, cs =>
    match keyPart? (skipBlanks cs) with
    | none => none
    | some (k, rest) =>
      match skipBlanks rest with
      | '.' :: rest => (keyParts? parts rest).map fun (ks, rest) => (k :: ks, rest)
      | rest => some ([k], rest)

/-- A key, and what follows the blanks behind it. -/
def key? (cs : List Char) : Option (List String × List Char) := keyParts? depthLimit cs

/-! ## Values -/

/-- The brace that opens a table. -/
def openBrace : Char := Char.ofNat 0x7B

/-- The brace that closes a table. -/
def closeBrace : Char := Char.ofNat 0x7D

/-- Enters pairs of a table in braces. -/
def ofPairs (pairs : List (List String × Toml)) : Option Toml :=
  let entries := pairs.foldlM
    (fun es (key, v) => Node.assign true (key.getLastD "") v key.dropLast es) []
  entries.map fun es => .table (Node.entriesToToml es)

mutual
/-- Reads a value that holds others some levels deep at most. -/
def value? (levels : Nat) : Nat → List Char → Option (Toml × List Char)
  | 0, _ => none
  | rounds + 1, cs =>
    match cs with
    | '[' :: rest =>
      if levels = 0 then none
      else (items? (levels - 1) rounds rest).map fun (xs, rest) => (.array xs, rest)
    | c :: rest =>
      if c = openBrace then
        if levels = 0 then none
        else match skipBlanks rest with
        | d :: more =>
          if d = closeBrace then some (.table [], more)
          else
            match pairs? (levels - 1) rounds rest with
            | none => none
            | some (pairs, rest) => (ofPairs pairs).map fun v => (v, rest)
        | [] => none
      else if c = '"' ∨ c = Text.tick then
        (Text.read cs).map fun (s, rest) => (.string (String.ofList s), rest)
      else
        let (word, rest) := Scalar.word cs
        (Scalar.read? word).map fun v => (v, rest)
    | [] => none

/-- Reads the items of a list up to the bracket that closes it. A comma may stand behind the last
one. -/
def items? (levels : Nat) : Nat → List Char → Option (List Toml × List Char)
  | 0, _ => none
  | rounds + 1, cs =>
    match skipLines cs.length cs with
    | ']' :: rest => some ([], rest)
    | cs =>
      match value? levels rounds cs with
      | none => none
      | some (x, rest) =>
        match skipLines rest.length rest with
        | ',' :: rest => (items? levels rounds rest).map fun (xs, rest) => (x :: xs, rest)
        | ']' :: rest => some ([x], rest)
        | _ => none

/-- Reads the pairs of a table up to the brace that closes it. -/
def pairs? (levels : Nat) : Nat → List Char → Option (List (List String × Toml) × List Char)
  | 0, _ => none
  | rounds + 1, cs =>
    match key? cs with
    | some (k, '=' :: rest) =>
      match value? levels rounds (skipBlanks rest) with
      | none => none
      | some (v, rest) =>
        match skipBlanks rest with
        | c :: rest =>
          if c = ',' then (pairs? levels rounds rest).map fun (ps, rest) => ((k, v) :: ps, rest)
          else if c = closeBrace then some ([(k, v)], rest)
          else none
        | [] => none
    | _ => none
end

/-! ## Statements -/

/-- A statement of a document. -/
inductive Statement where
  /-- Opens a table. -/
  | header (path : List String)
  /-- Opens one more table of a list. -/
  | listHeader (path : List String)
  | assign (key : List String) (v : Toml)

/-- Reads a statement without the end of its line. -/
def statement? (cs : List Char) : Option (Statement × List Char) :=
  match cs with
  | '[' :: '[' :: rest =>
    match key? rest with
    | some (path, ']' :: ']' :: rest) => some (.listHeader path, rest)
    | _ => none
  | '[' :: rest =>
    match key? rest with
    | some (path, ']' :: rest) => some (.header path, rest)
    | _ => none
  | _ =>
    match key? cs with
    | some (key, '=' :: rest) =>
      (value? depthLimit (cs.length + 1) (skipBlanks rest)).map fun (v, rest) =>
        (.assign key v, rest)
    | _ => none

/-- Reads the statements of a document. -/
def statements? : Nat → List Char → Option (List Statement)
  | 0, _ => none
  | rounds + 1, cs =>
    match skipLines cs.length cs with
    | [] => some []
    | cs =>
      match statement? cs with
      | none => none
      | some (s, rest) =>
        match lineEnd? rest with
        | none => none
        | some rest => (statements? rounds rest).map (s :: ·)

/-- Carries out a statement. The path is that of the table which was opened last. -/
def perform (state : List String × List (String × Node)) :
    Statement → Option (List String × List (String × Node))
  | .header path =>
    (Node.descend (Node.openTable (path.getLastD "")) path.dropLast state.2).map (path, ·)
  | .listHeader path =>
    (Node.descend (Node.openListed (path.getLastD "")) path.dropLast state.2).map (path, ·)
  | .assign key v =>
    (Node.descend (Node.assign true (key.getLastD "") v key.dropLast) state.1 state.2).map
      fun es => (state.1, es)

/-- Reads a document. A mark of the byte order may stand in front of it. -/
def parse? (text : String) : Option (List (String × Toml)) :=
  let cs := match text.toList with
    | c :: rest => if c.toNat = 0xFEFF then rest else c :: rest
    | [] => []
  match statements? (cs.length + 1) cs with
  | none => none
  | some ss => (ss.foldlM perform ([], [])).map fun (_, es) => Node.entriesToToml es

end TypeCatalog.Toml
