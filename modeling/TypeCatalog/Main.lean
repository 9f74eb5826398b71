import TypeCatalog.Command.Run

/-!
# The program

Reads the arguments, the environment and the files that the command needs, and writes what the
command says.

`Command.run` decides everything; here the arguments are read by `Options.parse`, and the
directory for the settings of the user is the one that the environment names.
-/

set_option autoImplicit false

namespace TypeCatalog.Program

open TypeCatalog.Command

/-- The file at a path, if there is one. -/
def file? (path : String) : IO (Option TextFile) := do
  try
    return some ⟨path, ← IO.FS.readFile path⟩
  catch _ => return none

/-- The paths of the files at a path and below it. -/
partial def pathsBelow (path : String) : IO (List String) := do
  let place := (← IO.currentDir) / path
  if ← place.isDir then
    let entries ← place.readDir
    let found ← entries.toList.mapM fun e => pathsBelow (TextFile.join path [e.fileName])
    return found.flatten
  else if ← place.pathExists then return [path]
  else return []

/-- The definitions below a directory. -/
def definitions (directory : String) : IO (List TextFile) := do
  let paths := (← pathsBelow directory).filter TextFile.isDefinition
  let files ← paths.mapM file?
  return TextFile.sorted (files.filterMap id)

/-- The variables of the environment that settings may come from. -/
def environment : IO (List (String × String)) := do
  let names := ["JSONOTRON__DOMAIN", "JSONOTRON__DOCUMENTATION__ENABLED",
    "JSONOTRON__ENGINE__VALIDATE_FORMATS", "JSONOTRON__ENGINE__PARALLEL"]
  let found ← (names ++ names.map Layer.lowered).mapM fun n => do
    return (← IO.getEnv n).map fun v => (n, v)
  return found.filterMap id

/-- The place of the user's own settings. -/
def userSettings : IO String := do
  let base ← match ← IO.getEnv "XDG_CONFIG_HOME" with
    | some directory => pure directory
    | none => pure (TextFile.join ((← IO.getEnv "HOME").getD "") [".config"])
  return TextFile.join base [userPlace]

/-- Runs the command on what the surroundings hold. -/
def run (o : Options) : IO Result := do
  let user ← userSettings
  let files ← (Settings.lookedAt SettingsReader.plain user o.config).mapM file?
  let settings := Command.settings o user (files.filterMap id) (← environment)
  return Command.run o settings (← definitions o.root)

end TypeCatalog.Program

/-- Runs the command. -/
def main (arguments : List String) : IO UInt32 := do
  match TypeCatalog.Command.Options.parse arguments with
  | none =>
    IO.eprint TypeCatalog.Command.usage
    return 2
  | some o =>
    let result ← TypeCatalog.Program.run o
    IO.print result.output
    IO.eprint result.errors
    return UInt32.ofNat result.code
