import MarkupSchema.Text.Unprintable

/-!
# Quoted text

The form in which a text stands inside an error message: between double
quotes, with a backslash before the characters that would end or bend the
quotation, short names for the common control characters, and the code point
in hexadecimal for everything a reader could not see. A single quote needs no
escape, because it never ends the quotation. Names stand between grave
accents instead, and as they are.
-/

namespace MarkupSchema.Text

/-- How one character is written between the quotes. -/
def escapeChar (c : Char) : List Char :=
  match c with
  | '\x00' => ['\\', '0']
  | '\t' => ['\\', 't']
  | '\n' => ['\\', 'n']
  | '\r' => ['\\', 'r']
  | '"' => ['\\', '"']
  | '\\' => ['\\', '\\']
  | c =>
      if isUnprintable c then
        ['\\', 'u', '\x7b'] ++ Nat.toDigits 16 c.toNat ++ ['\x7d']
      else [c]

/-- The quoted form of a text. -/
def quoted (s : String) : String :=
  String.ofList ('"' :: (s.toList.flatMap escapeChar ++ ['"']))

/-- A name between grave accents. -/
def graved (name : String) : String := "`" ++ name ++ "`"

example : quoted "te\"xt" = "\"te\\\"xt\"" := by decide +kernel

end MarkupSchema.Text
