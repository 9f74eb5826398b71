/-!
# Names that resemble a name

`best?` gives the candidate that resembles a query most. A candidate has to hold the characters of
the query in their order. Its score counts how well they match: characters at the start of a word
are worth more, gaps between them less. Case counts only when the query has a capital.

Scores are kept in a table of two rows, which alternate from one character of the query to the next.
The table is handed on from one candidate to the next, and cells that a candidate does not write
keep what they held.

`prepare` finds the characters that count and their bonuses (`placeBonuses`), `writeRows` fills the
table by `writeCell`, and `score` reads its last row off.
-/

set_option autoImplicit false

namespace TypeCatalog.Similarity

/-- What a cell knows of a character of the query and one of the candidate. -/
structure Cell where
  /-- The best score when the characters match each other. -/
  matched : Int
  /-- The best score when the candidate's character is passed over. -/
  passed : Int
  bonus : Int
deriving DecidableEq, Inhabited

/-- The score of what is impossible. -/
def worst : Int := -32768

def Cell.blank : Cell := ⟨worst, worst, 0⟩

/-- Two rows of cells, of a width. -/
structure Table where
  width : Nat
  cells : Array Cell
deriving Inhabited

namespace Table

def empty : Table := ⟨0, #[]⟩

/-- The table with another width. Cells are cut off or blank ones added; the others stay in place.
-/
def resize (t : Table) (width : Nat) : Table :=
  let size := 2 * width
  ⟨width, t.cells.extract 0 size ++ Array.replicate (size - t.cells.size) .blank⟩

def get (t : Table) (row column : Nat) : Cell := t.cells.getD (row * t.width + column) .blank

def set (t : Table) (row column : Nat) (c : Cell) : Table :=
  { t with cells := t.cells.setIfInBounds (row * t.width + column) c }

end Table

def isCapital (c : Char) : Bool := 'A' ≤ c && c ≤ 'Z'

def isDigit (c : Char) : Bool := '0' ≤ c && c ≤ '9'

/-- Characters that separate words. -/
def isSeparator (c : Char) : Bool :=
  [Char.ofNat 0, ' ', '/', '\\', '|', '(', ')', '[', ']', '\x7b', '\x7d'].contains c

/-- Other characters of punctuation. -/
def isPunctuation (c : Char) : Bool :=
  ('!' ≤ c && c ≤ '\'') || ('*' ≤ c && c ≤ '.') || (':' ≤ c && c ≤ '@') || ('^' ≤ c && c ≤ '`')
    || c = '~'

/-- What a character is worth for its place after another. -/
def placeBonus (previous : Option Char) (c : Char) : Int :=
  match previous with
  | none => 8
  | some p =>
    if isSeparator p then 8
    else if isPunctuation p then 7
    else if !isCapital p && isCapital c then 6
    else 0

/-- What the characters after one are worth for their places. -/
def placeBonusesAfter (previous : Char) : List Char → List Int
  | [] => []
  | c :: cs => placeBonus (some previous) c :: placeBonusesAfter c cs

/-- What the characters of a candidate are worth for their places; the first counts twice. -/
def placeBonuses : List Char → List Int
  | [] => []
  | c :: cs => 2 * placeBonus none c :: placeBonusesAfter c cs

def toLower (c : Char) : Char := if isCapital c then Char.ofNat (c.toNat + 32) else c

/-- Whether two characters match. -/
def matches? (caseCounts : Bool) (a b : Char) : Bool :=
  if caseCounts then a = b else toLower a = toLower b

/-- Where the characters of a query are found, each as soon as possible. -/
def firstPlaces (caseCounts : Bool) (place : Nat) : List Char → List Char → Option (List Nat)
  | [], _ => some []
  | _ :: _, [] => none
  | q :: qs, c :: cs =>
    if matches? caseCounts q c then
      (firstPlaces caseCounts (place + 1) qs cs).map (place :: ·)
    else firstPlaces caseCounts (place + 1) (q :: qs) cs

/-- Writes the cell for a character of the query and one of the candidate. -/
def writeCell (caseCounts : Bool) (row previousRow : Nat) (q : Char) (t : Table)
    (column : Nat) (c : Char) (bonus : Int) : Table :=
  let last := t.get row column
  let diagonal := t.get previousRow column
  let t :=
    if matches? caseCounts q c then
      let score : Int := if q = c then 16 else 14
      let run := max (max last.bonus bonus) 4
      let t := t.set row column { last with bonus := run }
      let best := score + max (diagonal.matched + run) (diagonal.passed + bonus)
      t.set row (column + 1) { t.get row (column + 1) with matched := best }
    else t.set row (column + 1) { t.get row (column + 1) with matched := worst, bonus := 0 }
  let last := t.get row column
  t.set row (column + 1)
    { t.get row (column + 1) with passed := max (last.matched - 4) (last.passed - 1) }

/-- Writes a row, from the place where the character of the query is found first. -/
def writeRow (caseCounts : Bool) (row previousRow : Nat) (q : Char) (column : Nat) (t : Table) :
    List (Char × Int) → Table
  | [] => t
  | (c, bonus) :: cs =>
    writeRow caseCounts row previousRow q (column + 1)
      (writeCell caseCounts row previousRow q t column c bonus) cs

/-- Writes the rows of a query. -/
def writeRows (caseCounts : Bool) (candidate : List (Char × Int)) (i : Nat) (t : Table) :
    List (Char × Nat) → Table
  | [] => t
  | (q, first) :: qs =>
    let t := writeRow caseCounts ((i + 1) % 2) (i % 2) q first t (candidate.drop first)
    writeRows caseCounts candidate (i + 1) t qs

/-- The table before the first row is written. -/
def prepare (t : Table) (width : Nat) (first : Nat) : Table :=
  let t := ((t.resize width).set 0 0 .blank).set 1 first .blank
  (List.range width).foldl (fun t c => t.set 0 c { Cell.blank with passed := -1 }) t

/-- The score of a candidate, none when it does not hold the query, and the table afterwards. -/
def score (query : List Char) (t : Table) (candidate : List Char) : Option Int × Table :=
  if query.isEmpty then (some 0, t)
  else
    let caseCounts := query.any isCapital
    match firstPlaces caseCounts 0 query candidate with
    | none => (none, t)
    | some places =>
      let width := candidate.length + 1
      let t := prepare t width (places.headD 0)
      let t := writeRows caseCounts (candidate.zip (placeBonuses candidate)) 0 t (query.zip places)
      let row := query.length % 2
      let last := places.getLastD 0
      let scores := (List.range' last (width - last)).map fun c => (t.get row c).matched
      (some (scores.foldl max worst), t)

/-- The best of the candidates, which come in order; of equal ones the last. -/
def bestOf (query : List Char) (t : Table) (best : Option (Int × String)) :
    List String → Option (Int × String)
  | [] => best
  | name :: names =>
    let (s, t) := score query t name.toList
    let best := match s, best with
      | none, _ => best
      | some n, none => some (n, name)
      | some n, some (m, _) => if m ≤ n then some (n, name) else best
    bestOf query t best names

/-- The candidate that resembles a query most. -/
def best? (names : List String) (query : String) : Option String :=
  (bestOf query.toList .empty none names).map (·.2)

end TypeCatalog.Similarity
