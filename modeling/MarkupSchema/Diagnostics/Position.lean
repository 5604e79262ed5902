import MarkupSchema.Diagnostics.Record

/-!
# Positions

Lines and columns count from one. A list of records is checked record by
record, the line of each before its column, and the first record with a zero
is the one reported. It is reported by its number in the list, which counts
from one as well.
-/

namespace MarkupSchema.Diagnostics

/-- What is wrong with a position. -/
inductive PositionFault where
  | zeroLine
  | zeroColumn
  deriving DecidableEq, Repr

/-- The wording of a fault. -/
def PositionFault.reason : PositionFault → String
  | .zeroLine => "line must be a positive integer (>= 1)"
  | .zeroColumn => "column must be a positive integer (>= 1)"

/-- A record refused for its position. -/
structure PositionError where
  number : Nat
  fault : PositionFault
  deriving DecidableEq, Repr

/-- The wording of an error. -/
def PositionError.message (e : PositionError) : String :=
  "invalid error record " ++ e.number.repr ++ ": " ++ e.fault.reason

/-- What is wrong with the position of a record, if anything is. -/
def Record.positionFault? (r : Record) : Option PositionFault :=
  if r.line = 0 then some .zeroLine
  else if r.column = 0 then some .zeroColumn
  else none

/-- The first record whose position is wrong, when the records are numbered
from `number` on. -/
def firstPositionError? (number : Nat) : List Record → Option PositionError
  | [] => none
  | r :: rest =>
      match r.positionFault? with
      | some fault => some ⟨number, fault⟩
      | none => firstPositionError? (number + 1) rest

/-- Checks the positions of all records. -/
def checkPositions (records : List Record) : Except PositionError (List Record) :=
  match firstPositionError? 1 records with
  | some e => .error e
  | none => .ok records

end MarkupSchema.Diagnostics
