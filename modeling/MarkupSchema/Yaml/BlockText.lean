import MarkupSchema.Yaml.Placed

/-!
# Block texts

A block text is a run of lines under a header. The lines are indented, and
the indentation is no part of the text. The widest of the lines up to the
first one with something on it sets the indentation unless the header does.
In a literal text every break is a line feed; in a folded one, lines are
joined unless one of them starts with a blank. The header also says what
becomes of the breaks at the end. Folded lines are indented in any case,
literal ones only where the text belongs to a list or a mapping.
-/

namespace MarkupSchema.Yaml

/-- What becomes of the breaks at the end of a block text: none is kept, one
is, or all are. -/
inductive Chomp where
  | strip
  | clip
  | keep
  deriving DecidableEq, Repr

/-- What the header of a block text says. -/
structure BlockHeader where
  folded : Bool
  chomp : Chomp := .clip
  /-- The indentation relative to what the text belongs to. -/
  indent : Option Nat := none
  deriving DecidableEq, Repr

/-- The chomping a character asks for. -/
def Chomp.ofChar? : Char → Option Chomp
  | '-' => some .strip
  | '+' => some .keep
  | _ => none

/-- The indentation a character asks for. -/
def indentOf? (c : Char) : Option Nat :=
  if '1' ≤ c ∧ c ≤ '9' then some (c.toNat - '0'.toNat) else none

namespace BlockHeader

/-- Reads the indicators after the first, of each kind at most one. -/
def read (folded : Bool) (text : List Placed) : BlockHeader × List Placed :=
  match Chomp.ofChar? (first text), indentOf? (first text) with
  | some chomp, _ =>
      match indentOf? (second text) with
      | some indent => ({ folded, chomp, indent := some indent }, text.drop 2)
      | none => ({ folded, chomp }, text.tail)
  | none, some indent =>
      match Chomp.ofChar? (second text) with
      | some chomp => ({ folded, chomp, indent := some indent }, text.drop 2)
      | none => ({ folded, indent := some indent }, text.tail)
  | none, none => ({ folded }, text)

end BlockHeader

/-- The characters of a block text's lines without their indentation, and the
text after them. `inside` tells that the line has started. -/
def blockRun (indent : Nat) (inside : Bool) : List Placed → List Char × List Placed
  | [] => ([], [])
  | p :: rest =>
      let take (inside : Bool) : List Char × List Placed :=
        let run := blockRun indent inside rest
        (p.char :: run.1, run.2)
      if p.char = endMark then ([], p :: rest)
      else if p.char = '\n' then take false
      else if inside then take true
      else if p.column < indent then
        if p.char = ' ' then blockRun indent false rest else ([], p :: rest)
      else if indent = 0 ∧ isTriple '.' (p :: rest) then ([], p :: rest)
      else take true

/-- The greatest column reached before and at the first character that is
neither space nor break. -/
def firstIndent : List Placed → Nat
  | [] => 0
  | p :: rest =>
      if p.char = ' ' ∨ p.char = '\n' then max p.column (firstIndent rest) else p.column

/-- The lines of a text, each ended by a line feed or by the end. -/
def linesFrom (line : List Char) : List Char → List (List Char)
  | [] => if line.isEmpty then [] else [line.reverse]
  | c :: cs => if c = '\n' then line.reverse :: linesFrom [] cs else linesFrom (c :: line) cs

/-- Whether a line starts with a blank. -/
def isSpaced : List Char → Bool
  | [] => false
  | c :: _ => isSpace c

/-- Joins folded lines, after a line that did or did not start with a blank
and a number of empty lines. -/
def joinFolded (spaced : Bool) (emptyLines : Nat) : List (List Char) → List Char
  | [] => []
  | line :: rest =>
      if line.isEmpty then joinFolded spaced (emptyLines + 1) rest
      else
        let between :=
          if spaced || isSpaced line then List.replicate (emptyLines + 1) '\n'
          else if emptyLines = 0 then [' ']
          else List.replicate emptyLines '\n'
        between ++ line ++ joinFolded (isSpaced line) 0 rest

/-- The text of folded lines, none of them empty at the end. -/
def foldLines : List (List Char) → List Char
  | [] => []
  | line :: rest =>
      if line.isEmpty then '\n' :: foldLines rest
      else line ++ joinFolded (isSpaced line) 0 rest

/-- The text of literal lines. -/
def literalLines (lines : List (List Char)) : List Char := List.intercalate ['\n'] lines

example :
    foldLines ["a".toList, "b".toList, [], "c".toList, " d".toList, "e".toList] =
      "a b\nc\n d\ne".toList := by
  decide +kernel

namespace BlockHeader

/-- The text under a header: the lines with something between them, and the
breaks at the end. Of these there are `first` after the last line that is not
empty and `emptyLines` after those. -/
def text (header : BlockHeader) (body : List (List Char)) (first emptyLines : Nat) : String :=
  let joined := if header.folded then foldLines body else literalLines body
  let ending :=
    match header.chomp with
    | .strip => 0
    | .clip => first
    | .keep => first + emptyLines
  String.ofList (joined ++ List.replicate ending '\n')

/-- The column at which the lines of a block text start, given the least
column of what belongs there and the text after the header. -/
def column (header : BlockHeader) (inner : Nat) (text : List Placed) : Nat :=
  match header.indent with
  | some indent => inner - 1 + indent
  | none => max inner (firstIndent text)

/-- Reads the lines under a header, unless the first of them is indented, but
not far enough, or they are folded and not indented at all. At the end of a
document, blanks that reach the indentation count as one more line, and where
there is no line at all, the break of the header counts unless others do. -/
def under? (header : BlockHeader) (inner : Nat) (below : List Placed) :
    Option (String × List Placed) :=
  let indent := header.column inner below
  let run := blockRun indent false below
  let next := here run.2
  let lines := linesFrom [] run.1
  let body := (lines.reverse.dropWhile List.isEmpty).reverse
  let emptyLines := lines.length - body.length
  let atEnd := next.char == endMark
  if body.isEmpty then
    if atEnd then some (header.text [] 1 (emptyLines - 1), run.2)
    else if next.column < indent ∧ inner ≤ next.column then none
    else some (header.text [] 0 emptyLines, run.2)
  else if header.folded ∧ indent = 0 ∧ body.any (fun line => line.any (!isSpace ·)) then none
  else
    let blankLine := atEnd && run.1.getLast? == some '\n' && decide (max indent 1 ≤ next.column)
    some (header.text body (if blankLine then 2 else 1) emptyLines, run.2)

end BlockHeader

/-- Reads a block text from its header on, the first indicator left out.
There is nothing under a header at the end of a document. -/
def blockText? (folded : Bool) (inner : Nat) (text : List Placed) :
    Option (String × List Placed) := do
  let (header, rest) := BlockHeader.read folded text
  let rest ← restOfLine? rest
  if first rest = endMark then return ("", rest)
  else if first rest ≠ '\n' ∨ second rest = '\t' then none
  else header.under? inner rest.tail

example :
    (blockText? false 1 (place "+\n  a\n\n   b\n\nc".toList)).map Prod.fst =
      some "a\n\n b\n\n" := by
  decide +kernel

example : (blockText? true 1 (place "-\n  a\n  b\n".toList)).map Prod.fst = some "a b" := by
  decide +kernel

end MarkupSchema.Yaml
