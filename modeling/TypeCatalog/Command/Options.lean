/-!
# Options of the command

The command takes one directory and some options, in any order. The value of an option stands behind
it, or behind an equals sign.

`parse` reads `-c` and `--config`, `--domain`, `--strict` and `--type-map`; `withDirectory` takes
any other argument that is no option.
-/

set_option autoImplicit false

namespace TypeCatalog.Command

/-- What the command was asked to do. -/
structure Options where
  /-- The directory of the definitions; the one at hand when none is named. -/
  directory : Option String
  /-- A file of settings. -/
  config : Option String
  domain : Option String
  /-- Whether warnings count as failures. -/
  strict : Bool
  /-- Whether the type map is shown. -/
  typeMap : Bool
deriving DecidableEq, Inhabited

namespace Options

def none : Options := ⟨.none, .none, .none, false, false⟩

/-- The directory that is searched. -/
def root (o : Options) : String := o.directory.getD "."

/-- An argument that is no option names the directory, once. -/
def withDirectory (o : Options) (argument : String) : Option Options :=
  if o.directory.isSome then .none else some { o with directory := some argument }

/-- The value of an option that is written in one argument with it. -/
def attached? (option argument : String) : Option String :=
  if option.toList.isPrefixOf argument.toList then
    some (String.ofList (argument.toList.drop option.length))
  else .none

/-- A value that stands directly behind the letter of an option, with an equals sign or without. -/
def attachedToLetter? (argument : String) : Option String :=
  (attached? "-c" argument).map fun v => (attached? "=" v).getD v

/-- Reads arguments. None when they are not those of the command. -/
def parseOver (o : Options) : List String → Option Options
  | [] => some o
  | "--" :: rest => rest.foldlM withDirectory o
  | "--strict" :: rest => parseOver { o with strict := true } rest
  | "--type-map" :: rest => parseOver { o with typeMap := true } rest
  | "--config" :: v :: rest => parseOver { o with config := some v } rest
  | "-c" :: v :: rest => parseOver { o with config := some v } rest
  | "--domain" :: v :: rest => parseOver { o with domain := some v } rest
  | a :: rest =>
    match attached? "--config=" a, attached? "--domain=" a, attachedToLetter? a with
    | some v, _, _ => parseOver { o with config := some v } rest
    | _, some v, _ => parseOver { o with domain := some v } rest
    | _, _, some v => if v.isEmpty then .none else parseOver { o with config := some v } rest
    | _, _, _ =>
      if a.toList.head? = some '-' && a ≠ "-" then .none
      else (withDirectory o a).bind fun o => parseOver o rest

/-- The options that some arguments stand for. -/
def parse (arguments : List String) : Option Options := parseOver none arguments

end Options

end TypeCatalog.Command
