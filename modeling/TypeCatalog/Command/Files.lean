import TypeCatalog.Json.Basic

/-!
# Files

Files are found by their paths. `TextFile.plainParts` takes a path apart at its slashes, and two
paths with the same plain parts lead to the same file.

The command reads every file below a directory whose extension is `json`, in the order of their
paths, which are compared part by part (`TextFile.definitions`). A path is shown as it was reached:
the directory as it was named, and what leads on from there.
-/

set_option autoImplicit false

namespace TypeCatalog.Command

/-- A file with its content. -/
structure TextFile where
  path : String
  content : String
deriving DecidableEq, Inhabited

namespace TextFile

/-- The parts of a path between its slashes. -/
def parts (path : String) : List String :=
  ((path.toList.splitOn '/').map String.ofList).filter fun p => !p.isEmpty && p ≠ "."

/-- The parts of a path after steps upwards are taken. -/
def plainParts (path : String) : List String :=
  (parts path).foldl (fun ps p => if p = ".." then ps.dropLast else ps ++ [p]) []

/-- Whether one list of parts comes before or with another one. -/
def precedes : List String → List String → Bool
  | [], _ => true
  | _ :: _, [] => false
  | p :: ps, q :: qs => if p = q then precedes ps qs else decide (p < q)

/-- The extension of a file's name. A name that begins with its only dot has none. -/
def extension? (name : String) : Option String :=
  let (reversedExtension, reversedRest) := name.toList.reverse.span (· ≠ '.')
  if reversedRest.length ≤ 1 then none else some (String.ofList reversedExtension.reverse)

/-- The extension of the file that a path leads to. -/
def pathExtension? (path : String) : Option String := (plainParts path).getLast?.bind extension?

/-- Whether a file holds a definition. -/
def isDefinition (path : String) : Bool := pathExtension? path == some "json"

/-- A path without empty parts and without those that stay where they are. -/
def tidy (path : String) : String :=
  (if path.toList.head? = some '/' then "/" else "") ++ "/".intercalate (parts path)

/-- A path that leads on from a directory. -/
def join (directory : String) (rest : List String) : String :=
  if rest.isEmpty then directory
  else
    directory ++ (if directory.toList.getLast? = some '/' then "" else "/") ++ "/".intercalate rest

/-- The parts that lead on from the parts of a directory. -/
def below? : List String → List String → Option (List String)
  | [], ps => some ps
  | _ :: _, [] => none
  | d :: ds, p :: ps => if d = p then below? ds ps else none

/-- The file of a path, whichever way the path is written; the last one counts. -/
def find? (path : String) (files : List TextFile) : Option TextFile :=
  files.reverse.find? fun f => plainParts f.path = plainParts path

/-- The files in the order of their paths. -/
def sorted (files : List TextFile) : List TextFile :=
  files.mergeSort fun a b => precedes (parts a.path) (parts b.path)

/-- The definitions among some files below a directory, under the paths by which they are shown. -/
def definitions (directory : String) (files : List TextFile) : List TextFile :=
  sorted <| files.filterMap fun f =>
    match below? (plainParts directory) (plainParts f.path) with
    | some rest => if isDefinition f.path then some ⟨join directory rest, f.content⟩ else none
    | none => none

end TextFile

end TypeCatalog.Command
