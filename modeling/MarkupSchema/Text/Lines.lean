/-!
# Lines of a text

A line feed ends a line, and a carriage return directly before it belongs to
the same break. A carriage return anywhere else is an ordinary character.
-/

namespace MarkupSchema.Text

/-- The first line of a text, without the break that ends it. -/
def firstLine (cs : List Char) : List Char :=
  let line := cs.takeWhile (· != '\n')
  if line.length < cs.length ∧ line.getLast? = some '\r' then line.dropLast else line

end MarkupSchema.Text
