import TypeCatalog.Text.Age
import TypeCatalog.Text.BreakClass

/-!
# Properties of Unicode by name

A pattern names a set of characters by a property that they have, by a general category or a script,
or by a property and its value. Names are compared without regard to case, blanks, hyphens and
underscores, and to `is` in front.
-/

set_option autoImplicit false

namespace TypeCatalog.Pattern.Property

open Text

/-- Why a name stands for no set. -/
inductive Fault where
  | unknownProperty
  | unknownValue
deriving DecidableEq, Inhabited

/-- The letters of a name that count. -/
def normalize (name : String) : String :=
  let cs := name.toList
  let body := match cs with
    | i :: s :: rest => if i.toLower = 'i' && s.toLower = 's' then rest else cs
    | _ => cs
  let kept := body.filter fun c => c ≠ ' ' && c ≠ '_' && c ≠ '-' && c.toNat < 0x80
  let lower := kept.map Char.toLower
  -- `isc` is the name of a property and not the category `c`
  if body.length < cs.length && lower = ['c'] then "isc" else String.ofList lower

/-- Whether a normalized name is one of some names. -/
def isOneOf (name : String) (names : List String) : Bool := names.any fun n => normalize n = name

/-! ## Values -/

/-- Groups of general categories and their names. -/
def groups : List (List String × List Category) :=
  [(["L", "Letter"],
    [.upperCaseLetter, .lowerCaseLetter, .titleCaseLetter, .modifierLetter, .otherLetter]),
   (["LC", "Cased_Letter"], [.upperCaseLetter, .lowerCaseLetter, .titleCaseLetter]),
   (["M", "Mark", "Combining_Mark"], [.nonspacingMark, .spacingMark, .enclosingMark]),
   (["N", "Number"], [.decimalNumber, .letterNumber, .otherNumber]),
   (["P", "Punctuation", "punct"],
    [.connectorPunctuation, .dashPunctuation, .openPunctuation, .closePunctuation,
     .initialPunctuation, .finalPunctuation, .otherPunctuation]),
   (["S", "Symbol"], [.mathSymbol, .currencySymbol, .modifierSymbol, .otherSymbol]),
   (["Z", "Separator"], [.spaceSeparator, .lineSeparator, .paragraphSeparator]),
   (["C", "Other"], [.control, .format, .surrogate, .privateUse, .unassigned]),
   (["digit"], [.decimalNumber]),
   (["cntrl"], [.control])]

/-- The set of a general category or of a group of them, where the name is one. Surrogates are no
characters, so their category is a name without a set. -/
def category? (name : String) : Option (Except Fault CharSet) :=
  match name with
  | "any" => some (.ok .all)
  | "assigned" => some (.ok Category.unassigned.set.complement)
  | "ascii" => some (.ok (.range 0 0x7F))
  | _ =>
    match Category.all.find? fun g => isOneOf name [g.shortName, g.longName] with
    | some .surrogate => some (.error .unknownValue)
    | some g => some (.ok g.set)
    | none => (groups.find? fun g => isOneOf name g.1).map fun g => .ok (Category.sets g.2)

/-- Further names of scripts. -/
def scriptAliases : List (String × String) := [("qaac", "Coptic"), ("qaai", "Inherited")]

/-- Names of scripts that no character has. -/
def emptyScripts : List String := ["Unknown", "Zzzz", "Katakana_Or_Hiragana", "Hrkt"]

/-- The set of a script, where the name is one. -/
def script? (set : Script → CharSet) (name : String) : Option (Except Fault CharSet) :=
  let byAlias := scriptAliases.lookup name
  match Script.all.find? fun s => isOneOf name [s.code, s.name] || byAlias = some s.name with
  | some s => some (.ok (set s))
  | none => if isOneOf name emptyScripts then some (.error .unknownValue) else none

/-- The set of a version of Unicode: what was there at its time. -/
def age? (name : String) : Option CharSet :=
  (Age.versions.find? fun v => v.1 = name || "v" ++ v.1.replace "." "" = name).bind fun v =>
    Age.upTo? v.1

/-- The set of a class. -/
def breakClass? (classes : List (String × String × CharSet)) (name : String) : Option CharSet :=
  (classes.find? fun c => isOneOf name [c.1, c.2.1]).map (·.2.2)

/-! ## Properties -/

/-- Names of properties whose values stand for no sets. -/
def otherNames : List String :=
  ["cjkAccountingNumeric", "kAccountingNumeric", "cjkOtherNumeric", "kOtherNumeric",
   "cjkPrimaryNumeric", "kPrimaryNumeric", "nv", "Numeric_Value", "bmg", "Bidi_Mirroring_Glyph",
   "bpb", "Bidi_Paired_Bracket", "cf", "Case_Folding", "cjkCompatibilityVariant",
   "kCompatibilityVariant", "dm", "Decomposition_Mapping", "EqUIdeo",
   "Equivalent_Unified_Ideograph", "FC_NFKC", "FC_NFKC_Closure", "lc", "Lowercase_Mapping",
   "NFKC_CF", "NFKC_Casefold", "NFKC_SCF", "NFKC_Simple_Casefold", "scf", "Simple_Case_Folding",
   "sfc", "slc", "Simple_Lowercase_Mapping", "stc", "Simple_Titlecase_Mapping", "suc",
   "Simple_Uppercase_Mapping", "tc", "Titlecase_Mapping", "uc", "Uppercase_Mapping", "cjkIICore",
   "kIICore", "cjkIRG_GSource", "kIRG_GSource", "cjkIRG_HSource", "kIRG_HSource",
   "cjkIRG_JSource", "kIRG_JSource", "cjkIRG_KPSource", "kIRG_KPSource", "cjkIRG_KSource",
   "kIRG_KSource", "cjkIRG_MSource", "kIRG_MSource", "cjkIRG_SSource", "kIRG_SSource",
   "cjkIRG_TSource", "kIRG_TSource", "cjkIRG_UKSource", "kIRG_UKSource", "cjkIRG_USource",
   "kIRG_USource", "cjkIRG_VSource", "kIRG_VSource", "cjkRSUnicode", "kRSUnicode",
   "Unicode_Radical_Stroke", "URS", "isc", "ISO_Comment", "JSN", "Jamo_Short_Name", "kEH_Cat",
   "kEH_Desc", "kEH_HG", "kEH_IFAO", "kEH_JSesh", "na", "Name", "na1", "Unicode_1_Name",
   "Name_Alias", "blk", "Block", "bc", "Bidi_Class", "bpt", "Bidi_Paired_Bracket_Type", "ccc",
   "Canonical_Combining_Class", "dt", "Decomposition_Type", "ea", "East_Asian_Width", "hst",
   "Hangul_Syllable_Type", "InCB", "Indic_Conjunct_Break", "InPC", "Indic_Positional_Category",
   "InSC", "Indic_Syllabic_Category", "jg", "Joining_Group", "jt", "Joining_Type", "kEH_Core",
   "lb", "Line_Break", "NFC_QC", "NFC_Quick_Check", "NFD_QC", "NFD_Quick_Check", "NFKC_QC",
   "NFKC_Quick_Check", "NFKD_QC", "NFKD_Quick_Check", "nt", "Numeric_Type", "vo",
   "Vertical_Orientation", "Bidi_M", "Bidi_Mirrored", "CE", "Composition_Exclusion", "Comp_Ex",
   "Full_Composition_Exclusion", "CWKCF", "Changes_When_NFKC_Casefolded", "kEH_NoMirror",
   "kEH_NoRotate", "XO_NFC", "Expands_On_NFC", "XO_NFD", "Expands_On_NFD", "XO_NFKC",
   "Expands_On_NFKC", "XO_NFKD", "Expands_On_NFKD"]

/-- The set of a property that a character has or has not. -/
def trait? (name : String) : Option CharSet :=
  (Trait.all.find? fun t => isOneOf name [t.shortName, t.longName]).map (·.set)

/-- The set of characters for which a property has a value. -/
def valued (property value : String) : Except Fault CharSet :=
  let p := normalize property
  let v := normalize value
  let orUnknown (s : Option CharSet) : Except Fault CharSet := s.elim (.error .unknownValue) .ok
  if isOneOf p ["gc", "General_Category"] then (category? v).getD (.error .unknownValue)
  else if isOneOf p ["sc", "Script"] then (script? (·.set) v).getD (.error .unknownValue)
  else if isOneOf p ["scx", "Script_Extensions"] then
    (script? (·.extendedSet) v).getD (.error .unknownValue)
  else if p = "age" then orUnknown (age? v)
  else if isOneOf p ["GCB", "Grapheme_Cluster_Break"] then
    orUnknown (breakClass? BreakClass.grapheme v)
  else if isOneOf p ["WB", "Word_Break"] then orUnknown (breakClass? BreakClass.word v)
  else if isOneOf p ["SB", "Sentence_Break"] then orUnknown (breakClass? BreakClass.sentence v)
  else if (trait? p).isSome || isOneOf p otherNames then .error .unknownValue
  else .error .unknownProperty

/-- The set that a single name stands for: a property, a general category or a script. Three names
of categories are also names of properties, and stand for the categories. -/
def named (name : String) : Except Fault CharSet :=
  let n := normalize name
  let property := if ["cf", "sc", "lc"].contains n then none else trait? n
  match property, category? n, script? (·.set) n with
  | some s, _, _ => .ok s
  | none, some s, _ => s
  | none, none, some s => s
  | none, none, none => .error .unknownProperty

/-- The part of a text before a sign and the part after it. -/
def splitAt? (sign : List Char) : List Char → Option (List Char × List Char)
  | [] => none
  | c :: cs =>
    if sign.isPrefixOf (c :: cs) then some ([], (c :: cs).drop sign.length)
    else (splitAt? sign cs).map fun (a, b) => (c :: a, b)

/-- The set of a name, or of a property and its value with a sign between them. Every sign is read
alike: it is for the pattern to ask for a complement. -/
def lookup (name : String) : Except Fault CharSet :=
  let cs := name.toList
  let parts := splitAt? ['!', '='] cs <|> splitAt? [':'] cs <|> splitAt? ['='] cs
  match parts with
  | some (property, value) => valued (String.ofList property) (String.ofList value)
  | none => named name

end TypeCatalog.Pattern.Property
