import TypeCatalog.Text.Trait

/-!
# Texts quoted inside messages

A text inside a message stands in quotes. Quotes, backslashes, and the characters that would not
show are escaped: tabs and line ends with a letter, the null character as `\0`, and others by their
code point in braces.
-/

set_option autoImplicit false

namespace TypeCatalog.Text

/-- The characters that do not show on their own: controls, blanks but for the space, what extends
the character before it, and what is ignored where it is not known. -/
def hidden : CharSet :=
  .unionAll
    [Category.sets [.control, .format, .surrogate, .privateUse, .unassigned, .lineSeparator,
      .paragraphSeparator],
     Category.spaceSeparator.set.diff (.char ' '), Trait.graphemeExtend, Trait.defaultIgnorable]

/-- A character inside a quoted text. -/
def quotedChar (c : Char) : List Char :=
  match c with
  | '"' => ['\\', '"']
  | '\\' => ['\\', '\\']
  | '\n' => ['\\', 'n']
  | '\r' => ['\\', 'r']
  | '\t' => ['\\', 't']
  | c =>
    if c.toNat == 0 then ['\\', '0']
    else if 0x20 ≤ c.toNat && c.toNat < 0x7F then [c]
    else if hidden.contains c then
      ['\\', 'u', '\x7b'] ++ Nat.toDigits 16 c.toNat ++ ['\x7d']
    else [c]

/-- A text in quotes. -/
def quoted (s : String) : String :=
  String.ofList ('"' :: s.toList.flatMap quotedChar ++ ['"'])

end TypeCatalog.Text
