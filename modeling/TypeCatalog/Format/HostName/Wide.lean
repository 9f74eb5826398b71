import TypeCatalog.Format.HostName.Label
import TypeCatalog.Text.Script

/-!
# Host names of any script

`HostName.isWideName` decides whether a text is a name of a host whose labels may hold characters of
any script. The text is folded first, and may then be divided by dots of other kinds too.
-/

set_option autoImplicit false

namespace TypeCatalog.HostName

open Text

/-! ## Characters that ask for others -/

/-- The characters of a script. -/
def scriptSet (code : String) : CharSet :=
  ((Script.all.find? (·.code = code)).map (·.set)).getD .empty

def greek : CharSet := scriptSet "Grek"
def hebrew : CharSet := scriptSet "Hebr"

/-- The characters of Japanese text. -/
def japanese : CharSet := .unionAll [scriptSet "Hira", scriptSet "Kana", scriptSet "Hani"]

/-- Characters that are letters and marks, but are in no name. -/
def unwelcome : CharSet := .parse "640 7FA 302E-302F 3031-3035 303B"

def arabicDigits : CharSet := .parse "660-669"
def extendedArabicDigits : CharSet := .parse "6F0-6F9"

/-- Whether a character may stand between the ones before and behind it in a name. -/
def isWelcome (name : List Char) (before : Option Char) (c : Char) (behind : Option Char) : Bool :=
  match c.toNat with
  | 0xB7 => before = some 'l' && behind = some 'l'
  | 0x375 => behind.any greek.contains
  | 0x5F3 | 0x5F4 => before.any hebrew.contains
  | 0x30FB => name.any fun d => d != c && japanese.contains d
  | _ => !unwelcome.contains c

/-- Whether each character of a name may stand where it does, from a place on. -/
def allWelcome (name : List Char) (before : Option Char) : List Char → Bool
  | [] => true
  | c :: cs => isWelcome name before c cs.head? && allWelcome name (some c) cs

/-- Whether a name does not mix two kinds of digits. -/
def hasPlainDigits (name : List Char) : Bool :=
  !(name.any arabicDigits.contains && name.any extendedArabicDigits.contains)

/-! ## Names -/

/-- A text with each character replaced by what stands for it in a name. -/
def folded? (cs : List Char) : Option (List Char) :=
  (cs.mapM Folding.fold?).map fun parts => Composition.compose parts.flatten

/-- The labels of a text. -/
def labels? (cs : List Char) : Option (List Label) := do
  ((← folded? cs).splitOn '.').mapM Label.ofText?

/-- Whether a text is a name of a host in any script. -/
def isWideName (cs : List Char) : Bool :=
  match labels? cs with
  | none => false
  | some labels =>
    let texts := labels.map (·.text)
    let name := ['.'].intercalate texts
    decide (labels.foldl (fun n label => n + label.size + 1) 0 ≤ 254)
      && (!texts.any Label.hasRightToLeft || texts.all Label.runsWell)
      && allWelcome name none name && hasPlainDigits name

end TypeCatalog.HostName
