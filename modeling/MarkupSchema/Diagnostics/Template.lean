import MarkupSchema.Text.Replace

/-!
# Message templates

A template is fixed text with numbered places in it. Filling a template works
on its written form, in which a place is a dollar sign and its number: token
`i` takes the place of the first `$i` that is left in the running text, one
token after another. A token without a place is dropped, and a place without
a token stays as it is written. Since the running text is searched, a token
that itself holds the written form of a later place gives that place a second
home.

`substitute` is the other reading of a template, in which every place is
filled at once and no token is ever searched.
-/

namespace MarkupSchema.Diagnostics

/-- A part of a template. -/
inductive Piece where
  | words (text : String)
  | place (index : Nat)
  deriving DecidableEq, Repr

/-- The written form of a place. -/
def placeText (index : Nat) : List Char := '$' :: Nat.toDigits 10 index

/-- The written form of a part. -/
def Piece.written : Piece → List Char
  | .words text => text.toList
  | .place index => placeText index

/-- A message with places for tokens. -/
abbrev Template := List Piece

namespace Template

/-- The written form of a template. -/
def written (template : Template) : List Char := template.flatMap Piece.written

/-- Puts tokens into a running text, the first of them for place `index`. -/
def fillFrom (index : Nat) (running : List Char) : List (List Char) → List Char
  | [] => running
  | token :: tokens =>
      fillFrom (index + 1) (Text.replaceFirst (placeText index) token running) tokens

/-- The template filled with tokens, one after another. -/
def fill (template : Template) (tokens : List (List Char)) : List Char :=
  fillFrom 0 template.written tokens

/-- The template filled with tokens, all at once. -/
def substitute (template : Template) (tokens : List (List Char)) : List Char :=
  template.flatMap fun piece =>
    match piece with
    | .words text => text.toList
    | .place index => tokens[index]?.getD (placeText index)

end Template

end MarkupSchema.Diagnostics
