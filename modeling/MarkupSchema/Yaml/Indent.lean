import MarkupSchema.Yaml.Token

/-!
# Indentation

The lists and mappings that are written by columns and still open, each known
by the column of its parts. What belongs to a part stands further right,
which is not asked for everywhere: there is a margin where it is.
-/

namespace MarkupSchema.Yaml

/-- The indentation at a place in a document. -/
structure Indent where
  /-- The columns of what is open, the innermost first. -/
  columns : List Nat := []
  /-- Lines have to stand further right than the innermost column. -/
  margin : Bool := false
  deriving DecidableEq, Repr

namespace Indent

/-- The least column of what belongs to a part of the innermost list or
mapping. -/
def inner (indent : Indent) : Nat :=
  match indent.columns with
  | [] => 0
  | column :: _ => column + 1

/-- The least column a line may start at. -/
def least (indent : Indent) : Nat :=
  if indent.margin then indent.inner else indent.columns.headD 0

/-- The least column that stands further right than every line has to. -/
def beyond (indent : Indent) : Nat :=
  match indent.columns with
  | [] => 0
  | _ :: _ => indent.least + 1

/-- Whether the next part of the innermost list or mapping would stand at a
column. -/
def isAt (column : Nat) (indent : Indent) : Bool :=
  !indent.margin && indent.columns.head? == some column

/-- Asks for the margin. Outside all lists and mappings there is none. -/
def withMargin (indent : Indent) : Indent := { indent with margin := !indent.columns.isEmpty }

/-- Asks for the margin no longer. -/
def withoutMargin (indent : Indent) : Indent := { indent with margin := false }

/-- Opens a list or mapping at a column, if it is further right than what is
open. -/
def enter (column : Nat) (indent : Indent) : Option Indent :=
  if indent.inner ≤ column then some { columns := column :: indent.columns } else none

/-- Closes whatever stands further right than a line at a column. -/
def leave (column : Nat) (indent : Indent) : Indent × List Token :=
  let isRight (part : Nat) : Bool := decide (column < part)
  ({ columns := indent.columns.dropWhile isRight
     margin := indent.margin && decide (indent.inner ≤ column) },
    (indent.columns.takeWhile isRight).map fun _ => .outdent)

/-- Closes everything. -/
def leaveAll (indent : Indent) : Indent × List Token :=
  ({}, indent.columns.map fun _ => .outdent)

end Indent

end MarkupSchema.Yaml
