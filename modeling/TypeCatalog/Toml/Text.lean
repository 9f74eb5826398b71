import TypeCatalog.Text.Ascii

/-!
# Strings of TOML

A string is written between double quotes, where a backslash begins an escape, or between single
quotes, where every character stands for itself; three quotes allow line breaks. `Text.written`
chooses one of the four forms, and `Text.read` reads all of them.
-/

set_option autoImplicit false

namespace TypeCatalog.Toml.Text

/-- The single quote. -/
def tick : Char := '\''

/-- Whether a character may stand in a line as it is. -/
def isPlain (c : Char) : Bool := c == '\t' || decide (0x20 ≤ c.toNat ∧ c.toNat ≠ 0x7F)

/-! ## Writing -/

/-- The four ways to write a string. -/
inductive Form where
  /-- Between double quotes, where a backslash begins an escape. -/
  | basic
  /-- Between single quotes, where every character stands for itself. -/
  | literal
  /-- Between three double quotes, where line breaks and two double quotes in a row are allowed. -/
  | multilineBasic
  /-- Between three single quotes. -/
  | multilineLiteral
deriving DecidableEq, Inhabited

/-- The length of the longest run of a character, behind `run` of them. -/
def longestRun (c : Char) (run : Nat) : List Char → Nat
  | [] => run
  | d :: cs => if d = c then longestRun c (run + 1) cs else max run (longestRun c 0 cs)

/-- Whether only an escape can write a character: a tab and a line break need none. -/
def needsEscape (c : Char) : Bool := !isPlain c && c != '\n'

/-- The form that a text is written in: the first one that writes it without an escape, in the order
of the forms. Where there is none, the text is escaped. -/
def formOf (cs : List Char) : Form :=
  let escapes := cs.any needsEscape
  let backslash := cs.contains '\\'
  let lines := cs.contains '\n'
  let doubles := longestRun '"' 0 cs
  let ticks := longestRun tick 0 cs
  if !escapes && !backslash && !lines && doubles == 0 then .basic
  else if !escapes && !lines && ticks == 0 then .literal
  else if !escapes && !backslash && decide (doubles ≤ 2) then .multilineBasic
  else if !escapes && decide (ticks ≤ 2) then .multilineLiteral
  else if lines then .multilineBasic
  else .basic

/-- The last four hexadecimal digits of a number. -/
def hex4 (n : Nat) : List Char :=
  [n / 4096 % 16, n / 256 % 16, n / 16 % 16, n % 16].map fun d =>
    Char.ofNat (if d < 10 then 48 + d else 55 + d)

/-- A character between double quotes, but for the double quote. -/
def escaped (multiline : Bool) (c : Char) : List Char :=
  if c = '\\' then ['\\', '\\']
  else if c = Char.ofNat 8 then ['\\', 'b']
  else if c = '\t' then ['\\', 't']
  else if c = '\n' then if multiline then ['\n'] else ['\\', 'n']
  else if c = Char.ofNat 12 then ['\\', 'f']
  else if c = '\r' then ['\\', 'r']
  else if c.toNat < 0x20 ∨ c.toNat = 0x7F then ['\\', 'u'] ++ hex4 c.toNat
  else [c]

/-- Characters between double quotes. In a string of several lines `run` counts the double quotes
just before, of which no three stand in a row. -/
def escapedAll (multiline : Bool) (run : Nat) : List Char → List Char
  | [] => []
  | c :: cs =>
    if c = '"' then
      if multiline && decide (run < 2) then c :: escapedAll multiline (run + 1) cs
      else ['\\', '"'] ++ escapedAll multiline 0 cs
    else escaped multiline c ++ escapedAll multiline 0 cs

/-- A text as a string. A string of several lines begins with a line break, which is no part of the
text, if the text has one. -/
def writtenChars (cs : List Char) : List Char :=
  let double := List.replicate 3 '"'
  let single := List.replicate 3 tick
  let opening := if cs.contains '\n' then ['\n'] else []
  match formOf cs with
  | .basic => '"' :: escapedAll false 0 cs ++ ['"']
  | .literal => tick :: cs ++ [tick]
  | .multilineBasic => double ++ opening ++ escapedAll true 0 cs ++ double
  | .multilineLiteral => single ++ opening ++ cs ++ single

def written (s : String) : String := String.ofList (writtenChars s.toList)

/-! ## Reading -/

/-- A text that was read, and what follows it. -/
abbrev Read := Option (List Char × List Char)

/-- One more character in front. -/
def keep (c : Char) (r : Read) : Read := r.map fun (cs, rest) => (c :: cs, rest)

/-- The character of an escape of one letter. -/
def letterEscape? (c : Char) : Option Char :=
  if c = '"' ∨ c = '\\' then some c
  else if c = 'b' then some (Char.ofNat 8)
  else if c = 't' then some '\t'
  else if c = 'n' then some '\n'
  else if c = 'f' then some (Char.ofNat 12)
  else if c = 'r' then some '\r'
  else none

/-- The character of a code point in hexadecimal digits. -/
def codePoint? (digits : List Char) : Option Char :=
  if digits.all Ascii.isHexDigit then
    let n := digits.foldl (fun n c => 16 * n + Ascii.hexDigitValue c) 0
    if h : n.isValidChar then some (Char.ofNatAux n h) else none
  else none

/-- The rest of a string between double quotes. -/
def basic : List Char → Read
  | [] => none
  | '"' :: cs => some ([], cs)
  | '\\' :: 'u' :: a :: b :: c :: d :: cs => (codePoint? [a, b, c, d]).bind (keep · (basic cs))
  | '\\' :: 'U' :: a :: b :: c :: d :: e :: f :: g :: h :: cs =>
    (codePoint? [a, b, c, d, e, f, g, h]).bind (keep · (basic cs))
  | '\\' :: c :: cs => (letterEscape? c).bind (keep · (basic cs))
  | c :: cs => if isPlain c && c != '\\' then keep c (basic cs) else none

/-- Whether a text, but for blanks, begins with a line break. -/
def endsLine (cs : List Char) : Bool :=
  match cs.dropWhile fun c => c = ' ' ∨ c = '\t' with
  | '\n' :: _ => true
  | '\r' :: '\n' :: _ => true
  | _ => false

/-- The rest of a string between three double quotes. A backslash at the end of a line skips all
blanks and line breaks that follow. -/
def multilineBasic (skipping : Bool) : List Char → Read
  | [] => none
  | '"' :: '"' :: '"' :: '"' :: '"' :: cs => some (['"', '"'], cs)
  | '"' :: '"' :: '"' :: '"' :: cs => some (['"'], cs)
  | '"' :: '"' :: '"' :: cs => some ([], cs)
  | '\\' :: 'u' :: a :: b :: c :: d :: cs =>
    (codePoint? [a, b, c, d]).bind (keep · (multilineBasic false cs))
  | '\\' :: 'U' :: a :: b :: c :: d :: e :: f :: g :: h :: cs =>
    (codePoint? [a, b, c, d, e, f, g, h]).bind (keep · (multilineBasic false cs))
  | '\r' :: '\n' :: cs =>
    if skipping then multilineBasic true cs else keep '\n' (multilineBasic false cs)
  | '\\' :: c :: cs =>
    if endsLine (c :: cs) then multilineBasic true (c :: cs)
    else (letterEscape? c).bind (keep · (multilineBasic false cs))
  | c :: cs =>
    if skipping && (c == ' ' || c == '\t' || c == '\n') then multilineBasic true cs
    else if (isPlain c && c != '\\') || c == '\n' then keep c (multilineBasic false cs)
    else none

/-- The rest of a string between single quotes. -/
def literal : List Char → Read
  | [] => none
  | c :: cs => if c = tick then some ([], cs) else if isPlain c then keep c (literal cs) else none

/-- The rest of a string between three single quotes. -/
def multilineLiteral : List Char → Read
  | [] => none
  | '\'' :: '\'' :: '\'' :: '\'' :: '\'' :: cs => some ([tick, tick], cs)
  | '\'' :: '\'' :: '\'' :: '\'' :: cs => some ([tick], cs)
  | '\'' :: '\'' :: '\'' :: cs => some ([], cs)
  | '\r' :: '\n' :: cs => keep '\n' (multilineLiteral cs)
  | c :: cs => if isPlain c || c == '\n' then keep c (multilineLiteral cs) else none

/-- A line break right behind the opening quotes is no part of the text. -/
def dropFirstBreak : List Char → List Char
  | '\n' :: cs => cs
  | '\r' :: '\n' :: cs => cs
  | cs => cs

/-- Reads a string of one line. -/
def readLine : List Char → Read
  | '"' :: cs => basic cs
  | '\'' :: cs => literal cs
  | _ => none

/-- Reads a string. -/
def read : List Char → Read
  | '"' :: '"' :: '"' :: cs => multilineBasic false (dropFirstBreak cs)
  | '\'' :: '\'' :: '\'' :: cs => multilineLiteral (dropFirstBreak cs)
  | cs => readLine cs

end TypeCatalog.Toml.Text
