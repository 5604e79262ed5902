import MarkupSchema.Diagnostics.Phrasing

/-!
# Reports

A report shows the records whose codes are not skipped, in order, each by
its diagnostic. As a text it is one line for each diagnostic, with a line
feed between lines and none at the end.
-/

namespace MarkupSchema.Diagnostics

/-- Whether a record is left out of reports. -/
def Record.skipped (r : Record) : Bool := isSkipped r.code.text

/-- The diagnostics of a report. -/
def diagnostics (records : List Record) : List Diagnostic :=
  (records.filter fun r => !r.skipped).map Record.diagnostic

/-- The text of a report. -/
def report (records : List Record) : String :=
  "\n".intercalate ((diagnostics records).map Diagnostic.render)

/-- What is reported about one record while a report is made. -/
def Record.events (r : Record) : List Event :=
  if r.skipped then [r.eventOf "skipping tolerated validator code"] else r.phrasingEvents

/-- The events of making a report, record by record. The text of a report is
made from its diagnostics, so making either comes to the same events. -/
def reportEvents (records : List Record) : List Event := records.flatMap Record.events

@[simp] theorem diagnostics_append (a b : List Record) :
    diagnostics (a ++ b) = diagnostics a ++ diagnostics b := by
  simp [diagnostics]

end MarkupSchema.Diagnostics
