import TypeCatalog.Command.Files
import TypeCatalog.Json.Reader
import TypeCatalog.Settings.Layer

/-!
# Loading settings

`Settings.loadFrom` reads the settings off the files at the usual places (`Settings.places`, and the
user's own), a file that was named, and the environment, the later ones over the earlier ones.

The extension of a path chooses the format in which its file is read (`SettingsFormat.ofPath?`):
TOML is one of six formats, and a file whose extension belongs to none of them is not read at all. A
path that leads to no file is tried with the extension of each format behind it
(`TextFile.withExtensions`), so that `conf` may stand for `conf.toml`.

Nothing has to be at a usual place, and what is there in no format is passed over. A file that was
named has to be there in one of the formats. Whatever is read has to be a document.
-/

set_option autoImplicit false

namespace TypeCatalog

open Command (TextFile)

/-! ## Formats -/

/-- The formats of settings files. -/
inductive SettingsFormat where
  | toml
  | json
  | yaml
  | ini
  | ron
  | json5
deriving DecidableEq, Repr

namespace SettingsFormat

def all : List SettingsFormat := [toml, json, yaml, ini, ron, json5]

/-- The extensions of the files of a format. -/
def extensions : SettingsFormat → List String
  | toml => ["toml"]
  | json => ["json"]
  | yaml => ["yaml", "yml"]
  | ini => ["ini"]
  | ron => ["ron"]
  | json5 => ["json5"]

/-- The format that the extension of a path chooses. -/
def ofPath? (path : String) : Option SettingsFormat :=
  (TextFile.pathExtension? path).bind fun e => all.find? fun m => m.extensions.contains e

end SettingsFormat

/-! ## Documents -/

namespace Toml

mutual
/-- The value that a JSON value stands for. A number is an integer where it fits 64 bits. -/
def ofJson : Json → Toml
  | .null => .null
  | .bool b => .boolean b
  | .number (.integer n) =>
    if Number.fitsInt64 n then .integer n else .float (.finite (Number.integer n).toBinary64)
  | .number (.real x) => .float (.finite x)
  | .string s => .string s
  | .array xs => .array (ofJsonItems xs)
  | .object ms => .table (ofJsonMembers ms)

/-- `ofJson` on the items of a list. -/
def ofJsonItems : List Json → List Toml
  | [] => []
  | x :: xs => ofJson x :: ofJsonItems xs

/-- `ofJson` on the members of an object. -/
def ofJsonMembers : List (String × Json) → Layer
  | [] => []
  | (k, v) :: ms => (k, ofJson v) :: ofJsonMembers ms
end

end Toml

/-- What settings files are read with, beside the readers of TOML and JSON. -/
structure SettingsReader where
  /-- The order in which the formats are tried for a path that leads to no file. -/
  order : List SettingsFormat
  /-- Reads a document of one of the other formats. -/
  other : SettingsFormat → String → Option Layer

/-- Reads no other formats. -/
def SettingsReader.plain : SettingsReader := ⟨SettingsFormat.all, fun _ _ => none⟩

/-- Why settings could not be loaded. -/
inductive SettingsFault where
  /-- No file is where one was named. -/
  | absent (path : String)
  /-- A file has an extension of no format. -/
  | unknownFormat (path : String)
  /-- A file is no document of its format, with what the reader says about it if it says
  anything. -/
  | malformed (path : String) (told : Option String)
  /-- A value is not what it should be. -/
  | unfit
deriving DecidableEq, Repr

namespace SettingsFault

/-- The wording of a fault. What is said of a document is the reader's own wording, and there is
none where the reader gives none. -/
def text? : SettingsFault → Option String
  | absent path => some ("configuration file \"" ++ path ++ "\" not found")
  | malformed path (some told) => some (told ++ " in " ++ TextFile.tidy path)
  | unknownFormat _ => none
  | malformed _ none => none
  | unfit => none

/-- What the command says about a fault: the kind of error, and the wording twice, as the error's
own and as its cause. -/
def message (fault : SettingsFault) : String :=
  match fault.text? with
  | some text => "Configuration error: " ++ text ++ ": " ++ text
  | none => "Configuration error"

end SettingsFault

namespace SettingsReader

/-- The table of a document. A document of JSON is an object. -/
def read (reader : SettingsReader) : SettingsFormat → TextFile → Except SettingsFault Layer
  | .toml, f =>
    match Toml.parse? f.content with
    | some l => .ok l
    | none => .error (.malformed f.path none)
  | .json, f =>
    match Json.parse f.content with
    | .ok (.object ms) => .ok (Toml.ofJsonMembers ms)
    | .ok _ => .error (.malformed f.path none)
    | .error e => .error (.malformed f.path (some e.message))
  | format, f =>
    match reader.other format f.content with
    | some l => .ok l
    | none => .error (.malformed f.path none)

end SettingsReader

/-! ## Places -/

/-- A path with each extension of some formats behind its own. A path that leads upwards has no name
to put one behind. -/
def Command.TextFile.withExtensions (formats : List SettingsFormat) (path : String) :
    List (SettingsFormat × String) :=
  if (TextFile.parts path).getLast?.all (· = "..") then []
  else formats.flatMap fun m => m.extensions.map fun e => (m, TextFile.tidy path ++ "." ++ e)

namespace Settings

/-- The places of settings below the directory at hand, in the order of their weight. -/
def places : List String := ["jsonotron.toml", ".jsonotron.toml", "config/jsonotron.toml"]

/-- The file at a path, or at the first path with an extension behind it, with its format. -/
def locate (reader : SettingsReader) (files : List TextFile) (path : String) :
    Except SettingsFault (SettingsFormat × TextFile) :=
  match TextFile.find? path files with
  | some f =>
    match SettingsFormat.ofPath? path with
    | some m => .ok (m, ⟨path, f.content⟩)
    | none => .error (.unknownFormat path)
  | none =>
    match (TextFile.withExtensions reader.order path).findSome? fun (m, p) =>
      (TextFile.find? p files).map fun f => (m, ⟨p, f.content⟩) with
    | some located => .ok located
    | none => .error (.absent path)

/-- The layer of a file that was named. -/
def requiredLayer (reader : SettingsReader) (files : List TextFile) (path : String) :
    Except SettingsFault Layer :=
  (locate reader files path).bind fun (m, f) => reader.read m f

/-- The layer of a usual place, which is empty where there is no file in one of the formats. -/
def usualLayer (reader : SettingsReader) (files : List TextFile) (path : String) :
    Except SettingsFault Layer :=
  match locate reader files path with
  | .ok (m, f) => reader.read m f
  | .error _ => .ok Layer.empty

/-- The layer of the user's own settings. Only the place itself counts. -/
def userLayer (reader : SettingsReader) (files : List TextFile) (path : String) :
    Except SettingsFault Layer :=
  if (TextFile.find? path files).isSome then usualLayer reader files path else .ok Layer.empty

/-- The layers of the files: those at the usual places, the user's own, and one that was named. -/
def fileLayers (reader : SettingsReader) (user : String) (named : Option String)
    (files : List TextFile) : Except SettingsFault (List Layer) := do
  let usual ← places.mapM (usualLayer reader files)
  let own ← userLayer reader files user
  let named ← named.toList.mapM (requiredLayer reader files)
  return usual ++ [own] ++ named

/-- The settings of the files among some and of the environment over all of them. `user` is the
place of the user's own settings, `named` the path of a file that has to be read too. -/
def loadFrom (reader : SettingsReader) (user : String) (named : Option String)
    (files : List TextFile) (environment : List (String × String)) :
    Except SettingsFault Settings := do
  let layers ← fileLayers reader user named files
  (ofLayers? layers environment).elim (throw .unfit) pure

/-- The files after settings have been saved at a path. The last file at a path is the one that
counts. -/
def save (s : Settings) (path : String) (files : List TextFile) : List TextFile :=
  files ++ [⟨path, s.saved⟩]

/-- The paths at which `loadFrom` looks for files. -/
def lookedAt (reader : SettingsReader) (user : String) (named : Option String) : List String :=
  let withOthers (path : String) :=
    path :: (TextFile.withExtensions reader.order path).map (·.2)
  places.flatMap withOthers ++ [user] ++ named.toList.flatMap withOthers

end Settings

end TypeCatalog
