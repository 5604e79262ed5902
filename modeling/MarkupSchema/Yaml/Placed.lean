/-!
# Placed text

The structure of a document lies in its lines and columns, so a text is read
as a list of characters each of which knows its place and whether anything
stands before it on its line. What is left of the text is then all there is
to know about a place in it.

A text ends with a mark that has a place of its own. The mark is the null
character, and a text that holds one ends there.
-/

namespace MarkupSchema.Yaml

/-- A character at its place. -/
structure Placed where
  char : Char
  line : Nat
  column : Nat
  /-- How many characters stand before it. -/
  index : Nat
  /-- Only blanks stand before it on its line. -/
  leads : Bool
  deriving DecidableEq, Repr

/-- The mark at the end of a text. -/
def endMark : Char := '\x00'

/-- The characters that separate words of one line. -/
def isSpace (c : Char) : Bool := c == ' ' || c == '\t'

/-- The characters a line ends before. -/
def isLineEnd (c : Char) : Bool := c == '\n' || c == endMark

/-- The characters a word ends before. -/
def isGap (c : Char) : Bool := isSpace c || isLineEnd c

/-- The characters with a meaning of their own inside brackets. -/
def isBracketMark (c : Char) : Bool :=
  c == ',' || c == '[' || c == ']' || c == '\x7b' || c == '\x7d'

/-- Every line break as one line feed. -/
def unifyBreaks : List Char → List Char
  | [] => []
  | '\r' :: '\n' :: cs => '\n' :: unifyBreaks cs
  | c :: cs => (if c = '\r' then '\n' else c) :: unifyBreaks cs

/-- Places the characters that follow a given place, and the mark at the
end. -/
def placeFrom (line column index : Nat) (leads : Bool) : List Char → List Placed
  | [] => [⟨endMark, line, column, index, leads⟩]
  | c :: cs =>
      ⟨c, line, column, index, leads⟩ ::
        if c = endMark then []
        else if c = '\n' then placeFrom (line + 1) 0 (index + 1) true cs
        else placeFrom line (column + 1) (index + 1) (leads && isSpace c) cs

/-- Places the characters of a text. -/
def place (cs : List Char) : List Placed := placeFrom 0 0 0 true cs

/-- The place a text starts at. -/
def here (text : List Placed) : Placed := text.headD ⟨endMark, 0, 0, 0, true⟩

/-- The character a text starts with. -/
def first (text : List Placed) : Char := (here text).char

/-- The character after the first. -/
def second (text : List Placed) : Char := first text.tail

/-- Whether three times the character `c` stand here, up to the next gap. -/
def isTriple (c : Char) (text : List Placed) : Bool :=
  first text == c && second text == c && second text.tail == c && isGap (first (text.drop 3))

/-- Whether three hyphens or three full stops stand here, up to the next
gap. -/
def isMarker (text : List Placed) : Bool := isTriple '-' text || isTriple '.' text

/-- The text from the next character that is no blank. -/
def dropSpaces (text : List Placed) : List Placed := text.dropWhile fun p => isSpace p.char

/-- The text from the end of the line on. -/
def afterLine (text : List Placed) : List Placed := text.dropWhile fun p => !isLineEnd p.char

/-- The rest of the line, without blanks and comment. A comment must not
touch what stands before it. -/
def restOfLine? (text : List Placed) : Option (List Placed) :=
  let rest := dropSpaces text
  if first rest = '#' then
    if first text = '#' then none else some (afterLine rest)
  else some rest

/-- The text after spaces, breaks and comments. -/
def dropLines (inComment : Bool) : List Placed → List Placed
  | [] => []
  | p :: rest =>
      if p.char = '\n' then dropLines false rest
      else if p.char = endMark then p :: rest
      else if inComment ∨ p.char = '#' then dropLines true rest
      else if p.char = ' ' then dropLines false rest
      else p :: rest

/-- Where a search for the next word stands. In the margin nothing but a
comment may follow on the line. -/
inductive Search where
  | gap
  | margin
  | comment
  deriving DecidableEq, Repr

/-- The text from the next character that is neither gap nor comment. A tab
before column `least` may not stand before anything on its line. -/
def nextWord? (least : Nat) : Search → List Placed → Option (List Placed)
  | _, [] => some []
  | search, p :: rest =>
      if p.char = '\n' then nextWord? least .gap rest
      else if p.char = endMark then some (p :: rest)
      else if search = .comment then nextWord? least .comment rest
      else if p.char = '#' then nextWord? least .comment rest
      else if p.char = '\t' ∧ p.leads ∧ p.column < least then nextWord? least .margin rest
      else if isSpace p.char then nextWord? least search rest
      else if search = .margin then none
      else some (p :: rest)

example :
    (nextWord? 1 .gap (place " # a\n\t# b\n \tc#d".toList)).map (·.map Placed.char) =
      some "c#d\x00".toList := by
  decide +kernel

example : nextWord? 1 .gap (place "\n\tc".toList) = none := by decide +kernel

end MarkupSchema.Yaml
