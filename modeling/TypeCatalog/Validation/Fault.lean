import TypeCatalog.Uri.Reader
import TypeCatalog.Uri.Resolution
import TypeCatalog.Validation.Constraint

/-!
# Reasons why a schema is none

A schema document can be wrong in itself, or refer to what is not there. Each reason is a case of
`SchemaFault`, and `SchemaFault.message` words it.
-/

set_option autoImplicit false

namespace TypeCatalog

/-- Why no validator can be made of a schema. -/
inductive SchemaFault where
  /-- A reference is no reference of RFC 3986. -/
  | invalidReference (reference : String) (fault : Uri.Fault)
  /-- A reference means nothing at its base. -/
  | unresolvable (reference base : String) (fault : Uri.ResolutionFault)
  /-- A document that is referred to was never added. -/
  | missing (address : String)
  /-- A document that is referred to was not looked for when the references were collected. -/
  | uncollected (address : String)
  /-- A document is written in an unknown version of the schema language. -/
  | unknownSpecification (address : String)
  | noPlace (pointer : String)
  | invalidIndex (index pointer : String)
  | invalidOctets (pointer : String)
  | noAnchor (name : String)
  | invalidAnchor (name : String)
  /-- A type has a name that no type has. -/
  | unexpectedType
  /-- A part of the schema is not what the schema language asks for. -/
  | rejected (message : String)
deriving DecidableEq

namespace SchemaFault

def retrieval (address reason : String) : String :=
  "Resource '" ++ address ++ "' is not present in a registry and retrieving it failed: " ++ reason

/-- The reason in words. -/
def message : SchemaFault → String
  | invalidReference r f => "Invalid URI reference '" ++ r ++ "': " ++ f.message
  | unresolvable r b f => "Failed to resolve '" ++ r ++ "' against '" ++ b ++ "': " ++ f.message
  | missing a => retrieval a ("schema not found for URI: " ++ a)
  | uncollected a =>
    retrieval a "Retrieving external resources is not supported once the registry is populated"
  | unknownSpecification a => "Unknown specification: " ++ a
  | noPlace p => "Pointer '" ++ p ++ "' does not exist"
  | invalidIndex i p => "Failed to parse array index '" ++ i ++ "' in pointer '" ++ p ++ "'"
  | invalidOctets p =>
    "Invalid percent encoding in pointer '" ++ p
      ++ "': the decoded bytes do not represent valid UTF-8"
  | noAnchor n => "Anchor '" ++ n ++ "' does not exist"
  | invalidAnchor n => "Anchor '" ++ n ++ "' is invalid"
  | unexpectedType => "Unexpected type"
  | rejected m => m

/-- A value is of none of some types. -/
def ofType (types : List ValueType) (v : Json) : SchemaFault :=
  rejected (Constraint.typeMessage (types.length ≠ 1) types v)

end SchemaFault

end TypeCatalog
