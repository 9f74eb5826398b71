import TypeCatalog.Catalog
import TypeCatalog.Command.Files
import TypeCatalog.Command.Options
import TypeCatalog.Json.Reader
import TypeCatalog.Settings.Load
import TypeCatalog.TypeMap.Codec

/-!
# The command

The command compiles the definitions of a directory and shows what was found. `Command.run` gives
everything that it writes and the code with which it ends: 0 when the definitions are in order, 1
when they are not, and 2 when they or the settings could not be read.

The settings are those of `Settings.loadFrom`, with the domain that an option names in their place
(`Command.settings`). Files of settings are read in TOML and in JSON; the reader of other formats is
`SettingsReader.plain`, which reads none.
-/

set_option autoImplicit false

namespace TypeCatalog.Command

/-- What the command writes, and how it ends. -/
structure Result where
  code : Nat
  output : String
  errors : String
deriving DecidableEq, Inhabited

/-- The end of a command that could not do its work. -/
def failed (reason : String) : Result := ⟨2, "", "Error: " ++ reason ++ "\n"⟩

/-- What is said about arguments that are not those of the command. -/
def usage : String :=
  "usage: [OPTIONS] [DIR]\n\n  -c, --config FILE\n  --domain DOMAIN\n  --strict\n  --type-map\n"

/-- The place of the user's settings below the directory of such files. -/
def userPlace : String := "jsonotron/jsonotron.toml"

/-- The settings of the command: those that are loaded, with the domain that an option names. -/
def settings (o : Options) (user : String) (files : List TextFile)
    (environment : List (String × String)) : Except SettingsFault Settings :=
  (Settings.loadFrom SettingsReader.plain user o.config files environment).map fun s =>
    { s with domain := o.domain.getD s.domain }

/-- The store of some definitions, or the first file that holds none. -/
def store (definitions : List TextFile) : Except String Store :=
  definitions.foldlM
    (fun s f =>
      match Json.parse f.content with
      | .ok v => .ok (s.addFrom f.path v)
      | .error e => .error ("parsing " ++ f.path ++ ": " ++ e.message))
    Store.empty

/-- The sign in front of a diagnostic. -/
def sign : Severity → String
  | .error => "❌"
  | .warning => "⚠️ "

/-- Whether a report is in order. -/
def passes (o : Options) (r : Report) : Bool := if o.strict then r.isClean else r.isSuccessful

/-- The lines that are shown for a compiled batch. -/
def lines (o : Options) (s : Store) (c : Catalog) : List String :=
  ["🔍 Compiling " ++ toString s.size ++ " definition(s) from " ++ o.root]
  ++ (c.report.errors ++ c.report.warnings).map (fun d => sign d.severity ++ " " ++ d.text)
  ++ (if o.typeMap then [c.typeMap.toJson.pretty] else [])
  ++ [(if passes o c.report then "✅ " else "❌ ") ++ c.report.countText]

/-- Runs the command with settings on definitions. -/
def run (o : Options) (settings : Except SettingsFault Settings) (definitions : List TextFile) :
    Result :=
  match settings with
  | .error fault => failed ("loading configuration: " ++ fault.message)
  | .ok settings =>
    match store definitions with
    | .error reason => failed reason
    | .ok s =>
      let c := Catalog.ofStore settings [] s
      ⟨if passes o c.report then 0 else 1, String.join ((lines o s c).map (· ++ "\n")), ""⟩

/-- Runs the command on the files below the directory at hand. `user` is the place of the user's own
settings among them. -/
def runOn (files : List TextFile) (user : String) (environment : List (String × String))
    (arguments : List String) : Result :=
  match Options.parse arguments with
  | none => ⟨2, "", usage⟩
  | some o => run o (settings o user files environment) (TextFile.definitions o.root files)

end TypeCatalog.Command
