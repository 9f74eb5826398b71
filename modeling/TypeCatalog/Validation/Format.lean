import TypeCatalog.Format.HostName.Wide
import TypeCatalog.Format.Mail
import TypeCatalog.Format.Moment
import TypeCatalog.Format.Pointer
import TypeCatalog.Format.Template
import TypeCatalog.Format.Uuid
import TypeCatalog.Pattern.Search
import TypeCatalog.Uri.Reader
import TypeCatalog.Validation.Draft

/-!
# Formats of text

A format is a named condition on text. `Format.known` holds the conditions that the schema language
knows, each from one of its versions on; a batch may bring more, and then the last one of a name
counts, also before a known one.
-/

set_option autoImplicit false

namespace TypeCatalog

/-- A named condition on text. -/
structure Format where
  name : String
  accepts : String → Bool

namespace Format

/-- Whether a text is a reference, and whether it has to be absolute and may be wide. -/
def isReference (absolute wide : Bool) (s : String) : Bool :=
  match Uri.parseWith wide s with
  | .ok u => !absolute || u.scheme.isSome
  | .error _ => false

/-- The condition of a name in all versions of the schema language. -/
def common : List Format :=
  [⟨"date", fun s => Moment.isDate s.toList⟩,
   ⟨"date-time", fun s => Moment.isDateTime s.toList⟩,
   ⟨"email", fun s => Mail.isAddress HostName.isHostName s.toList⟩,
   ⟨"hostname", fun s => HostName.isHostName s.toList⟩,
   ⟨"idn-email", fun s => Mail.isAddress HostName.isWideName s.toList⟩,
   ⟨"ipv4", fun s => HostName.isAddress4 s.toList⟩,
   ⟨"ipv6", fun s => HostName.isAddress6 s.toList⟩,
   ⟨"regex", Pattern.Search.isPattern⟩,
   ⟨"time", fun s => Moment.isTime s.toList⟩,
   ⟨"uri", isReference true false⟩]

/-- The conditions that a version of the schema language adds to the earlier ones. -/
def addedBy : Draft → List Format
  | .draft4 => common
  | .draft6 =>
    [⟨"json-pointer", fun s => Pointer.isPointer s.toList⟩,
     ⟨"uri-reference", isReference false false⟩,
     ⟨"uri-template", fun s => Template.isTemplate (s.length + 1) s.toList⟩]
  | .draft7 =>
    [⟨"idn-hostname", fun s => HostName.isWideName s.toList⟩,
     ⟨"iri", isReference true true⟩,
     ⟨"iri-reference", isReference false true⟩,
     ⟨"relative-json-pointer", fun s => Pointer.isRelativePointer s.toList⟩]
  | .draft2019 =>
    [⟨"duration", fun s => Moment.isDuration s.toList⟩,
     ⟨"uuid", fun s => Uuid.isUuid s.toList⟩]
  | .draft2020 => []

/-- The conditions that a version of the schema language knows. -/
def known (d : Draft) : List Format := (Draft.all.filter d.isSince).flatMap addedBy

/-- The format of a name: the last one that a batch brings, or else a known one. -/
def find? (custom : List Format) (d : Draft) (name : String) : Option Format :=
  (custom.reverse ++ known d).find? (·.name = name)

end Format

end TypeCatalog
