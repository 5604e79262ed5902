import MarkupSchema.Diagnostics.Code

/-!
# Records and diagnostics

A record is one error as the validator reports it; a diagnostic is what is
shown for it. A diagnostic keeps the record's position, and its line in a
report names the line only.
-/

namespace MarkupSchema.Diagnostics

/-- One error reported by the validator. Positions count from one in a
record that has been checked; an unchecked one may hold zeros. -/
structure Record where
  line : UInt32
  column : UInt32
  code : Code
  /-- The validator's own words, in which quoted names stand out. -/
  message : String
  deriving DecidableEq

/-- What is shown for one record. -/
structure Diagnostic where
  line : UInt32
  column : UInt32
  message : String
  deriving DecidableEq, Repr

/-- The diagnostic as a line of a report. -/
def Diagnostic.render (d : Diagnostic) : String :=
  "Line " ++ d.line.toNat.repr ++ ": " ++ d.message

/-- The diagnostic for a record that cannot be put in other words. It holds
the code and the message just as they came. -/
def Record.fallback (r : Record) : Diagnostic where
  line := r.line
  column := r.column
  message :=
    "Uknown MJML error, please open an issue on github.com/mjmlio/mjml with code: " ++
      r.code.text ++ " and message: " ++ r.message

end MarkupSchema.Diagnostics
