import MarkupSchema.Diagnostics.Report

/-!
# Reports of several batches

A validator may hand over its records in one batch or in several, and what is
shown should not depend on it. For the diagnostics there is nothing to that as
long as each is made from its own record: a batch is a list, and a list of
diagnostics grows at its end. What has to be shown is that every record with a
code that is not left out has a place there and that no other has. The place
can be given in advance. It is the number of such records in front, so nothing
that comes later moves it.

Texts are different. The line feed between two batches belongs to neither, and
it is there only if both of them have something to show. A batch in which every
record is left out counts as no batch at all, so it may neither add an empty
line nor take away the line feed between its neighbours.
-/

namespace MarkupSchema.Diagnostics

namespace Record

/-- A record that has a diagnostic in a report. -/
def Shown (r : Record) : Prop := r.code.text ≠ "1824"

instance (r : Record) : Decidable r.Shown := inferInstanceAs (Decidable (r.code.text ≠ "1824"))

theorem skipped_eq_not_shown (r : Record) : r.skipped = !decide r.Shown := by
  rw [Bool.eq_iff_iff, skipped, isSkipped, skippedCodes, Bool.not_eq_true', decide_eq_false_iff_not,
    Shown, Classical.not_not]
  simp

/-- The position of a diagnostic is its record's, whatever its message is made from. -/
theorem diagnostic_eq (r : Record) : r.diagnostic = ⟨r.line, r.column, r.diagnostic.message⟩ := by
  rw [diagnostic]
  split <;> rfl

end Record

/-! ## The place of a diagnostic -/

theorem diagnostics_cons (r : Record) (rest : List Record) :
    diagnostics (r :: rest)
      = if r.Shown then r.diagnostic :: diagnostics rest else diagnostics rest := by
  rw [diagnostics, List.filter_cons, r.skipped_eq_not_shown, Bool.not_not]
  by_cases h : r.Shown
  · rw [decide_eq_true h, if_pos rfl, if_pos h, List.map_cons, diagnostics]
  · rw [decide_eq_false h, if_neg Bool.false_ne_true, if_neg h, diagnostics]

theorem length_diagnostics (records : List Record) :
    (diagnostics records).length = records.countP fun r => r.Shown := by
  induction records with
  | nil => rfl
  | cons r rest ih =>
      rw [diagnostics_cons, List.countP_cons, ← ih]
      by_cases h : r.Shown
      · rw [if_pos h, decide_eq_true h, if_pos rfl, List.length_cons]
      · rw [if_neg h, decide_eq_false h, if_neg Bool.false_ne_true, Nat.add_zero]

/-- The records in front fill the places in front. -/
theorem getElem?_diagnostics_append {r : Record} (h : r.Shown) (before after : List Record) :
    (diagnostics (before ++ r :: after))[before.countP fun r => r.Shown]? = some r.diagnostic := by
  have hlength := length_diagnostics before
  rw [diagnostics_append, diagnostics_cons, if_pos h,
    List.getElem?_append_right (Nat.le_of_eq hlength), hlength, Nat.sub_self,
    List.getElem?_cons_zero]

theorem getElem?_diagnostics {records : List Record} {i : Nat} {r : Record}
    (hplace : records[i]? = some r) (h : r.Shown) :
    (diagnostics records)[(records.take i).countP fun r => r.Shown]?
      = some ⟨r.line, r.column, r.diagnostic.message⟩ := by
  obtain ⟨hi, hr⟩ := List.getElem?_eq_some_iff.mp hplace
  have hsplit : records.take i ++ r :: records.drop (i + 1) = records := by
    rw [← hr, ← List.drop_eq_getElem_cons hi, List.take_append_drop]
  have hshown := getElem?_diagnostics_append h (records.take i) (records.drop (i + 1))
  rwa [hsplit, r.diagnostic_eq] at hshown

/-! ## The text between batches -/

theorem report_append (a b : List Record) :
    report (a ++ b) =
      if diagnostics a = [] then report b
      else if diagnostics b = [] then report a
      else report a ++ "\n" ++ report b := by
  rw [report, diagnostics_append, List.map_append]
  split
  · next ha => rw [ha, List.map_nil, List.nil_append, report]
  · next ha =>
      split
      · next hb => rw [hb, List.map_nil, List.append_nil, report]
      · next hb =>
          have ha' : (diagnostics a).map Diagnostic.render ≠ [] := mt List.map_eq_nil_iff.mp ha
          have hb' : (diagnostics b).map Diagnostic.render ≠ [] := mt List.map_eq_nil_iff.mp hb
          rw [String.intercalate_append_of_ne_nil ha' hb', report, report]

theorem report_eq_empty {records : List Record} (h : diagnostics records = []) :
    report records = "" := by
  rw [report, h, List.map_nil, String.intercalate_nil]

/-- Every record with a code other than 1824 has one diagnostic, in its place
and made from the record alone. Two batches show what each of them shows, with
a line feed between their texts if both have one. -/
theorem report_of_two_batches (a b : List Record) :
    (diagnostics a).length = (a.countP fun r => r.code.text ≠ "1824") ∧
    (∀ i r, a[i]? = some r → r.code.text ≠ "1824" →
      (diagnostics a)[(a.take i).countP fun r => r.code.text ≠ "1824"]?
        = some ⟨r.line, r.column, r.diagnostic.message⟩) ∧
    diagnostics (a ++ b) = diagnostics a ++ diagnostics b ∧
    report (a ++ b) =
      if diagnostics a = [] ∧ diagnostics b = [] then ""
      else if diagnostics a = [] then report b
      else if diagnostics b = [] then report a
      else report a ++ "\n" ++ report b := by
  refine ⟨length_diagnostics a, fun i r => getElem?_diagnostics, diagnostics_append a b, ?_⟩
  rw [report_append]
  split
  · next ha =>
      split
      · next hboth => exact report_eq_empty hboth.2
      · rfl
  · next ha => rw [if_neg (not_and_of_not_left _ ha)]

/-- A record that is left out leaves nothing behind, in front of another one or in
a batch of its own. -/
theorem report_of_batch_left_out :
    let tolerated : Record := ⟨1, 7, ⟨"1824", by decide⟩, "'5' is not a valid value"⟩
    let unknown : Record := ⟨2, 3, ⟨"9999", by decide⟩, "Something else"⟩
    [tolerated, unknown][1]? = some unknown ∧ unknown.code.text ≠ "1824" ∧
      (diagnostics [tolerated, unknown])[0]? = some ⟨2, 3, unknown.diagnostic.message⟩ ∧
      report ([tolerated, unknown] ++ [tolerated]) = report [tolerated, unknown] := by
  intro tolerated unknown
  obtain ⟨-, hplace, -, hreport⟩ := report_of_two_batches [tolerated, unknown] [tolerated]
  have hshown : unknown.code.text ≠ "1824" := by decide
  have hfirst : diagnostics [tolerated, unknown] ≠ [] := by decide
  have hsecond : diagnostics [tolerated] = [] := by decide
  refine ⟨rfl, hshown, hplace 1 unknown rfl hshown, ?_⟩
  rw [hreport, if_neg (not_and_of_not_left _ hfirst), if_neg hfirst, if_pos hsecond]

end MarkupSchema.Diagnostics
