import TypeCatalog.Toml.Basic

/-!
# Tables under construction

The statements of a document build its tables bit by bit. A `Node` remembers how a table came about,
since that decides what may still be added to it: a table that a header opened, a table that was
only passed on the way to another one, and a table that a dotted key opened.
-/

set_option autoImplicit false

namespace TypeCatalog.Toml

/-- How a table came about. -/
inductive TableKind where
  /-- A header names it. -/
  | opened
  /-- A header names a table inside it. -/
  | passed
  /-- A dotted key leads through it. -/
  | dotted
deriving DecidableEq, Inhabited

/-- An entry of a table under construction. -/
inductive Node where
  | value (v : Toml)
  | table (kind : TableKind) (entries : List (String × Node))
  /-- The tables of a list, the last one first. -/
  | tables (last : List (String × Node)) (earlier : List (List (String × Node)))
deriving Inhabited

namespace Node

/-- Entries with another node under a key. -/
def replace (key : String) (n : Node) (es : List (String × Node)) : List (String × Node) :=
  es.map fun e => if e.1 = key then (key, n) else e

/-- Changes the table at a path, and makes the tables on the way that are not there. -/
def descend (f : List (String × Node) → Option (List (String × Node))) :
    List String → List (String × Node) → Option (List (String × Node))
  | [], es => f es
  | k :: path, es =>
    match es.lookup k with
    | none => (descend f path []).map fun sub => es ++ [(k, table .passed sub)]
    | some (table kind sub) => (descend f path sub).map fun sub => replace k (table kind sub) es
    | some (tables last earlier) =>
      (descend f path last).map fun last => replace k (tables last earlier) es
    | some (value _) => none

/-- Opens the table that a header names. -/
def openTable (key : String) (es : List (String × Node)) : Option (List (String × Node)) :=
  match es.lookup key with
  | none => some (es ++ [(key, table .opened [])])
  | some (table .passed sub) => some (replace key (table .opened sub) es)
  | _ => none

/-- Opens one more table of the list that a header names. -/
def openListed (key : String) (es : List (String × Node)) : Option (List (String × Node)) :=
  match es.lookup key with
  | none => some (es ++ [(key, tables [] [])])
  | some (tables last earlier) => some (replace key (tables [] (last :: earlier)) es)
  | _ => none

/-- Enters a value under a dotted key. The key is not taken, and the tables on the way are such that
dotted keys may add to them. -/
def assign (allowed : Bool) (key : String) (v : Toml) :
    List String → List (String × Node) → Option (List (String × Node))
  | [], es =>
    if allowed && (es.lookup key).isNone then some (es ++ [(key, value v)]) else none
  | k :: path, es =>
    match es.lookup k with
    | none => (assign true key v path []).map fun sub => es ++ [(k, table .dotted sub)]
    | some (table .opened _) => none
    | some (table kind sub) =>
      (assign (decide (kind = .dotted)) key v path sub).map fun sub => replace k (table kind sub) es
    | some (tables last earlier) =>
      (assign false key v path last).map fun last => replace k (tables last earlier) es
    | some (value _) => none

mutual
/-- The value that a node stands for. -/
def toToml : Node → Toml
  | value v => v
  | table _ es => .table (entriesToToml es)
  | tables last earlier => .array (listToToml earlier [.table (entriesToToml last)])

/-- The entries of a table. -/
def entriesToToml : List (String × Node) → List (String × Toml)
  | [] => []
  | (k, n) :: es => (k, toToml n) :: entriesToToml es

/-- Tables, the last one first, in front of others. -/
def listToToml : List (List (String × Node)) → List Toml → List Toml
  | [], later => later
  | es :: earlier, later => listToToml earlier (.table (entriesToToml es) :: later)
end

end Node

end TypeCatalog.Toml
