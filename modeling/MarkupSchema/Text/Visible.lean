/-!
# Visible text

The form in which a text stands on a page that shows where something is
wrong. Whatever could disturb the page is replaced: a tab by four spaces, any
other control character by its picture, a mark that turns the direction of
writing by the replacement character, and a joiner, which glues characters
together, by nothing. Line feeds stay, since they divide the page into lines.
-/

namespace MarkupSchema.Text

/-- The characters that turn the direction of writing. -/
def turnsDirection (c : Char) : Bool :=
  ('\u202a' ≤ c && c ≤ '\u202e') || ('\u2066' ≤ c && c ≤ '\u2069')

/-- How one character is shown. -/
def visibleChar (c : Char) : List Char :=
  if c = '\n' then [c]
  else if c = '\t' then [' ', ' ', ' ', ' ']
  else if c.toNat < 0x20 then [Char.ofNat (0x2400 + c.toNat)]
  else if c = '\x7f' then ['\u2421']
  else if c = '\u200d' then []
  else if turnsDirection c then ['\ufffd']
  else [c]

/-- The visible form of a text. -/
def visible (s : String) : String := String.ofList (s.toList.flatMap visibleChar)

example : visible "a\t\x1bb\u200d\u202ec" = "a    \u241bb\ufffdc" := by decide +kernel

end MarkupSchema.Text
