import TypeCatalog.Json.Basic
import TypeCatalog.Json.Decimal

/-!
# JSON text of values

`Json.compact` writes no blanks. `Json.pretty` writes one item or member a line, two blanks deeper
for each level. Both keep the order of members and escape only what has to be escaped: quotes,
backslashes and the characters below U+0020.
-/

set_option autoImplicit false

namespace TypeCatalog.Json

/-- Four lower-case hexadecimal digits. -/
def hex4 (n : Nat) : String :=
  let ds := Nat.toDigits 16 n
  String.ofList (List.replicate (4 - ds.length) '0' ++ ds)

/-- A character inside a quoted text. -/
def escape (c : Char) : String :=
  match c with
  | '"' => "\\\""
  | '\\' => "\\\\"
  | '\n' => "\\n"
  | '\r' => "\\r"
  | '\t' => "\\t"
  | c =>
    if c.val = 8 then "\\b"
    else if c.val = 12 then "\\f"
    else if c.val < 0x20 then "\\u" ++ hex4 c.toNat
    else c.toString

/-- A text in quotes. -/
def quote (s : String) : String := "\"" ++ String.join (s.toList.map escape) ++ "\""

mutual
/-- The text without blanks. -/
def compact : Json → String
  | null => "null"
  | bool true => "true"
  | bool false => "false"
  | number n => n.text
  | string s => quote s
  | array xs => "[" ++ ",".intercalate (compactItems xs) ++ "]"
  | object ms => "\x7b" ++ ",".intercalate (compactMembers ms) ++ "\x7d"

/-- The texts of the items. -/
def compactItems : List Json → List String
  | [] => []
  | x :: xs => compact x :: compactItems xs

/-- The texts of the members. -/
def compactMembers : List (String × Json) → List String
  | [] => []
  | (k, x) :: ms => (quote k ++ ":" ++ compact x) :: compactMembers ms
end

/-- The start of a line at a depth. -/
def newline (depth : Nat) : String := "\n" ++ String.ofList (List.replicate (2 * depth) ' ')

/-- Lines between an opening and a closing bracket; nothing between them when there are none. -/
def block (opening closing : String) (depth : Nat) (lines : List String) : String :=
  if lines.isEmpty then opening ++ closing
  else opening ++ newline (depth + 1) ++ ("," ++ newline (depth + 1)).intercalate lines
    ++ newline depth ++ closing

mutual
/-- The text with one item or member a line, for a value that stands at a depth. -/
def prettyAt (depth : Nat) : Json → String
  | array xs => block "[" "]" depth (prettyItems (depth + 1) xs)
  | object ms => block "\x7b" "\x7d" depth (prettyMembers (depth + 1) ms)
  | v => compact v

/-- The texts of the items. -/
def prettyItems (depth : Nat) : List Json → List String
  | [] => []
  | x :: xs => prettyAt depth x :: prettyItems depth xs

/-- The texts of the members. -/
def prettyMembers (depth : Nat) : List (String × Json) → List String
  | [] => []
  | (k, x) :: ms => (quote k ++ ": " ++ prettyAt depth x) :: prettyMembers depth ms
end

/-- The text with one item or member a line. -/
def pretty (v : Json) : String := prettyAt 0 v

end TypeCatalog.Json
