/-!
# Tokens

A document as a sequence of tokens: its scalars and names, and the marks of
its structure. What lines and columns say is spelled out. Where a list or a
mapping is written by its columns there is a token at which it begins and one
at which it ends, and each key stands after a token that announces it.

The sequence ends with the document, or with a fault where the text cannot be
divided further.
-/

namespace MarkupSchema.Yaml

/-- How a scalar is written: with neither quotes nor indicator, between quotes,
or as lines under a header. -/
inductive Style where
  | plain
  | quoted
  | block
  deriving DecidableEq, Repr

/-- A part of a document's text. -/
inductive Token where
  /-- A list written by columns begins. -/
  | lines
  /-- A mapping written by columns begins. -/
  | entries
  /-- What was written by columns ends. -/
  | outdent
  | dash
  | key
  | value
  | openList
  | closeList
  | openMap
  | closeMap
  | comma
  | anchor (name : String)
  | alias (name : String)
  | scalar (style : Style) (text : String)
  | documentStart
  | documentEnd
  | finish
  | fault
  deriving DecidableEq, Repr

end MarkupSchema.Yaml
