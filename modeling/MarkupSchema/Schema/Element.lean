/-!
# Markup elements and their lines

Generated schema text is laid out from a tree of elements. An element with
content takes a line for its start tag and a line for its end tag, even when
the content is empty, and its content stands between them one step further
in. An element without content takes one line. A step is two spaces.

Attribute values are written as they are, so it is for the caller to say
which values are safe between double quotes.
-/

namespace MarkupSchema.Schema

/-- An element of generated markup. -/
inductive Element where
  /-- An element that can hold nothing. Some kinds are written with a space
  before the closing slash. -/
  | leaf (name : String) (attributes : List (String × String)) (spaced : Bool)
  /-- An element with the elements it holds. -/
  | node (name : String) (attributes : List (String × String)) (content : List Element)

namespace Element

/-- Two spaces for each enclosing element. -/
def indent (depth : Nat) : String := String.ofList (List.replicate (2 * depth) ' ')

/-- Attributes as they stand in a tag, each after a space. -/
def writeAttributes : List (String × String) → String
  | [] => ""
  | (name, value) :: rest => " " ++ name ++ "=\"" ++ value ++ "\"" ++ writeAttributes rest

mutual

/-- The lines of an element, without their line feeds. -/
def lines (depth : Nat) : Element → List String
  | .leaf name attributes spaced =>
      [indent depth ++ "<" ++ name ++ writeAttributes attributes ++ if spaced then " />" else "/>"]
  | .node name attributes content =>
      (indent depth ++ "<" ++ name ++ writeAttributes attributes ++ ">") ::
        (linesOfAll (depth + 1) content ++ [indent depth ++ "</" ++ name ++ ">"])

/-- The lines of elements that follow one another. -/
def linesOfAll (depth : Nat) : List Element → List String
  | [] => []
  | element :: rest => lines depth element ++ linesOfAll depth rest

end

end Element

/-- The text of lines, each ended by a line feed. -/
def textOfLines (lines : List String) : String :=
  String.ofList (lines.flatMap fun line => line.toList ++ ['\n'])

end MarkupSchema.Schema
