import TypeCatalog.Settings.Basic
import TypeCatalog.Toml.Reader

/-!
# Layers of settings

Settings come in layers: files, and then the variables of the environment, which begin with
`JSONOTRON__`. `Layer.overlay` puts one layer over another: `Layer.put` walks the path that an
entry's name describes (`Layer.path`) and `Layer.valueOver` lays the value down at its end, where
tables are merged entry by entry and everything else is replaced. The names of entries are the same
in small and capital letters (`Layer.lowered`).

`Settings.ofLayer?` reads the settings off the merged layers: the text `domain`, the flag `enabled`
of the group `documentation`, and the flags `validate_formats` and `parallel` of the group `engine`.
What a layer leaves out is as in `Settings.standard`, entries with other names are of no account,
and a value that is neither a text nor a flag where one is due makes the whole of it fail.
`Settings.saved` writes a document with these three parts, in this order.
-/

set_option autoImplicit false

namespace TypeCatalog

/-- Named values, tables of named values among them. -/
abbrev Layer := List (String × Toml)

namespace Layer

def empty : Layer := []

/-- A name in small letters. -/
def lowered (name : String) : String := String.ofList (name.toList.map Ascii.lower)

/-- A layer with an entry, in the place of an earlier one of its name. -/
def set (name : String) (v : Toml) : Layer → Layer
  | [] => [(name, v)]
  | (k, w) :: es => if k = name then (k, v) :: es else (k, w) :: set name v es

/-- The entries of a table. -/
def entriesOf : Option Toml → Layer
  | some (.table es) => es
  | _ => []

mutual
/-- A value over an earlier one, as `put` lays it down at the end of a path. A table is merged with
an earlier table by `entriesOver`, and takes the place of an earlier value unless it is empty. -/
def valueOver (earlier : Option Toml) : Toml → Toml
  | .table [] => earlier.getD (.table [])
  | .table (e :: es) => .table (entriesOver (entriesOf earlier) (e :: es))
  | v => v

/-- Entries over earlier ones: `set` puts each in the place of the earlier one whose name is the
same in small letters, with `valueOver` for the two values. -/
def entriesOver (earlier : Layer) : List (String × Toml) → Layer
  | [] => earlier
  | (k, v) :: es =>
    entriesOver (set (lowered k) (valueOver (earlier.lookup (lowered k)) v) earlier) es
end

/-! ## Paths -/

/-- One step of the way to an entry. -/
inductive Step where
  | name (name : String)
  /-- A place in a list. One below zero counts from the end. -/
  | place (index : Int)
deriving DecidableEq

/-- Whether a character may stand in a name on the way to an entry. -/
def isPathChar (c : Char) : Bool :=
  Ascii.isLetter c || Ascii.isDigit c || c == ' ' || c == '_' || c == '-'

/-- The place that digits in brackets stand for. -/
def place? (cs : List Char) : Option Int :=
  let digits := if cs.head? = some '-' then cs.tail else cs
  if digits.isEmpty then none
  else
    (Ascii.decimal? digits).bind fun n =>
      Toml.int64? (if cs.head? = some '-' then -(n : Int) else n)

/-- The steps behind a name: names behind dots and places in brackets. Each takes a round. -/
def steps? : Nat → List Char → Option (List Step)
  | _, [] => some []
  | 0, _ => none
  | rounds + 1, '.' :: cs =>
    let (name, rest) := cs.span isPathChar
    if name.isEmpty then none
    else (steps? rounds rest).map (.name (String.ofList name) :: ·)
  | rounds + 1, '[' :: cs =>
    match cs.span (· ≠ ']') with
    | (digits, _ :: rest) => do
      let i ← place? digits
      return .place i :: (← steps? rounds rest)
    | _ => none
  | _, _ => none

/-- The way that the name of an entry describes. A name that describes none is a single step. -/
def path (name : String) : List Step :=
  let cs := '.' :: name.toList
  (steps? cs.length cs).getD [.name name]

/-- The items of a list. -/
def itemsOf : Option Toml → List Toml
  | some (.array xs) => xs
  | _ => []

/-- The place in a list of some length, if it is not in front of the list. -/
def index? (length : Nat) (place : Int) : Option Nat :=
  if 0 ≤ place then some place.toNat
  else if place.natAbs ≤ length then some (length - place.natAbs)
  else none

/-- A list with an item at a place. Empty tables fill what lies between. -/
def setItem (xs : List Toml) (i : Nat) (v : Toml) : List Toml :=
  (xs ++ List.replicate (i + 1 - xs.length) (Toml.table [])).set i v

/-- A value at the end of a path, over what was there. Tables and lists are made on the way. -/
def put (v : Toml) : List Step → Option Toml → Toml
  | [], earlier => valueOver earlier v
  | .name k :: path, earlier =>
    let es := entriesOf earlier
    .table (set (lowered k) (put v path (es.lookup (lowered k))) es)
  | .place i :: path, earlier =>
    let xs := itemsOf earlier
    match index? xs.length i with
    | none => .array xs
    | some i => .array (setItem xs i (if path.isEmpty then v else put v path xs[i]?))

/-- A layer over another one. The names of its entries are paths, so that `engine.parallel` is the
entry `parallel` of the table `engine`. -/
def overlay (earlier later : Layer) : Layer :=
  later.foldl (fun l (k, v) => entriesOf (put v (path k) (some (Toml.table l)))) earlier

/-! ## The environment -/

/-- The mark that every variable of the settings begins with. -/
def mark : List Char := "jsonotron__".toList

/-- Two underscores are a dot, as in `JSONOTRON__ENGINE__PARALLEL`. -/
def dotted : List Char → List Char
  | '_' :: '_' :: cs => '.' :: dotted cs
  | c :: cs => c :: dotted cs
  | [] => []

/-- The integer of 64 bits that a text stands for. -/
def integer? (cs : List Char) : Option Int :=
  let (negative, ds) := Toml.Scalar.splitSign cs
  if ds.isEmpty then none
  else
    (Ascii.decimal? ds).bind fun n => Toml.int64? (if negative then -(n : Int) else n)

/-- The exponent behind the letter `e`, which has digits. -/
def exponent? (cs : List Char) : Option Int :=
  let (negative, ds) := Toml.Scalar.splitSign cs
  if ds.isEmpty then none
  else (Ascii.decimal? ds).map fun n => if negative then -(n : Int) else n

/-- The real number that a text stands for. -/
def real? (cs : List Char) : Option Real64 :=
  let (negative, rest) := Toml.Scalar.splitSign cs
  let word := String.ofList (rest.map Ascii.lower)
  if word = "inf" ∨ word = "infinity" then some (.infinite negative)
  else if word = "nan" then some .undefined
  else
    let (mantissa, tail) := rest.span fun c => c ≠ 'e' ∧ c ≠ 'E'
    let (front, back) := mantissa.span (· ≠ '.')
    let fraction := back.tail
    let exponent := if tail.isEmpty then some 0 else exponent? tail.tail
    if front.isEmpty && fraction.isEmpty then none
    else
      match Ascii.decimal? (front ++ fraction), exponent with
      | some n, some e => some (.ofDecimal negative n (e - fraction.length))
      | _, _ => none

/-- What the text of a variable stands for: a boolean, an integer or a real number where it can be
read as one (`integer?`, `real?`), and otherwise the text itself. -/
def variableValue (text : String) : Toml :=
  let cs := text.toList
  match cs.map Ascii.lower, integer? cs, real? cs with
  | ['t', 'r', 'u', 'e'], _, _ => .boolean true
  | ['f', 'a', 'l', 's', 'e'], _, _ => .boolean false
  | _, some n, _ => .integer n
  | _, _, some x => .float x
  | _, _, _ => .string text

/-- The entry of a variable, if it is one of the settings. -/
def ofVariable? (name value : String) : Option (String × Toml) :=
  let lower := name.toList.map Ascii.lower
  if mark.isPrefixOf lower then
    some (String.ofList (dotted (lower.drop mark.length)), variableValue value)
  else none

/-- The layer of the environment. -/
def ofEnvironment (environment : List (String × String)) : Layer :=
  environment.filterMap fun (name, value) => ofVariable? name value

end Layer

namespace Settings

/-! ## Reading settings -/

/-- A text, or the text of a number or a boolean. -/
def text? : Toml → Option String
  | .string s => some s
  | .moment s => some s
  | .integer n => some (toString n)
  | .float x => some x.text
  | .boolean b => some (if b then "true" else "false")
  | _ => none

/-- A boolean, a number that is zero or not, or a word for a boolean. -/
def flag? : Toml → Option Bool
  | .boolean b => some b
  | .integer n => some (n ≠ 0)
  | .float x => some !x.isZero
  | .string s =>
    let word := Layer.lowered s
    if ["1", "true", "on", "yes"].contains word then some true
    else if ["0", "false", "off", "no"].contains word then some false
    else none
  | _ => none

/-- A flag that is on where nothing else is said, as `enabled`, `validate_formats` and `parallel`
are. -/
def flagOr : Option Toml → Option Bool
  | none => some true
  | some v => flag? v

/-- The flags of a group such as `documentation` or `engine`, in a table by their names or in a list
by their places. All of them are on where the group is left out. -/
def flags? (names : List String) : Option Toml → Option (List Bool)
  | none => some (names.map fun _ => true)
  | some (.table es) => names.mapM fun n => flagOr (es.lookup n)
  | some (.array xs) => names.zipIdx.mapM fun (_, i) => flagOr xs[i]?
  | some _ => none

/-- The settings that a layer stands for: `domain`, `documentation.enabled`,
`engine.validate_formats` and `engine.parallel`. -/
def ofLayer? (l : Layer) : Option Settings :=
  let domain := match l.lookup "domain" with
    | none => some standard.domain
    | some v => text? v
  match domain, flags? ["enabled"] (l.lookup "documentation"),
    flags? ["validate_formats", "parallel"] (l.lookup "engine") with
  | some d, some [enabled], some [formats, parallel] => some ⟨d, enabled, formats, parallel⟩
  | _, _, _ => none

/-- The settings of some layers, the later ones over the earlier ones, and of the environment over
all of them. None when a value is not what it should be. -/
def ofLayers? (layers : List Layer) (environment : List (String × String)) : Option Settings :=
  ofLayer?
    (Layer.overlay (layers.foldl Layer.overlay Layer.empty) (Layer.ofEnvironment environment))

/-! ## Writing settings -/

def flagText (b : Bool) : String := if b then "true" else "false"

/-- The document that settings are saved as. -/
def saved (s : Settings) : String :=
  "domain = " ++ Toml.Text.written s.domain ++ "\n\n[documentation]\nenabled = "
    ++ flagText s.documentation ++ "\n\n[engine]\nvalidate_formats = " ++ flagText s.validateFormats
    ++ "\nparallel = " ++ flagText s.parallel ++ "\n"

end Settings

end TypeCatalog
