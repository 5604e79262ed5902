import MarkupSchema.Diagnostics.Report
import MarkupSchema.Proofs.Rephrasing
import MarkupSchema.Proofs.SpanPlaces

/-!
# Reading a report line by line

A report is meant to be one line for each diagnostic, and whether it is comes
down to a single question: can the message of a diagnostic hold a line feed?
A fallback can, because it repeats the validator's message as it came. A
message put in other words cannot, whatever the validator wrote: a span never
crosses the end of a line, trimming adds nothing, and filling a template moves
characters of the template and of the tokens around without making new ones,
even where a token is searched again and a part of it replaced.

So the length of a report is exact for every list of records: one line for
each diagnostic, and one more for each line feed in a message. The two agree
when each record that is shown by its fallback has its message on one line,
and only then.

Under that condition a report can also be read back. Nothing needs to be known
about a message for this, since the mark that ends the number of a line is the
first of its kind: digits hold no colon.
-/

namespace MarkupSchema.Diagnostics

/-! ## Lines and marks -/

/-- The lines of a text. A text without characters has none. -/
def linesOf (text : String) : List (List Char) :=
  if text = "" then [] else text.toList.splitOn '\n'

/-- The text behind a front, if it has that front. -/
def stripFront (front cs : List Char) : Option (List Char) :=
  if front.isPrefixOf cs then some (cs.drop front.length) else none

/-- The texts before and behind the first occurrence of a mark. The mark is
never empty here. -/
def cutAt (mark : List Char) : List Char → Option (List Char × List Char)
  | [] => none
  | c :: cs =>
      if mark.isPrefixOf (c :: cs) then some ([], (c :: cs).drop mark.length)
      else (cutAt mark cs).map fun (before, behind) => (c :: before, behind)

theorem stripFront_append (front cs : List Char) : stripFront front (front ++ cs) = some cs := by
  have hfront : front.isPrefixOf (front ++ cs) = true :=
    List.isPrefixOf_iff_prefix.mpr (List.prefix_append front cs)
  rw [stripFront, if_pos hfront, List.drop_left]

theorem cutAt_append {m : Char} {mark before behind : List Char} (h : m ∉ before) :
    cutAt (m :: mark) (before ++ (m :: mark ++ behind)) = some (before, behind) := by
  induction before with
  | nil =>
      have hmark : (m :: mark).isPrefixOf (m :: (mark ++ behind)) = true :=
        List.isPrefixOf_iff_prefix.mpr (List.prefix_append (m :: mark) behind)
      rw [List.nil_append, List.cons_append, cutAt, if_pos hmark, ← List.cons_append,
        List.drop_left]
  | cons c before ih =>
      obtain ⟨hc, hbefore⟩ := not_or.mp (mt List.mem_cons.mpr h)
      have hmark : (m :: mark).isPrefixOf (c :: (before ++ (m :: mark ++ behind))) = false := by
        simp [List.isPrefixOf, hc]
      rw [List.cons_append, cutAt, if_neg (by rw [hmark]; decide), ih hbefore]
      rfl

theorem intercalate_cons_ne_nil {sep piece : List Char} (h : piece ≠ [])
    (pieces : List (List Char)) : sep.intercalate (piece :: pieces) ≠ [] := by
  cases pieces with
  | nil => rwa [List.intercalate_singleton]
  | cons next rest =>
      rw [List.intercalate_cons_cons, List.append_assoc]
      exact List.append_ne_nil_of_left_ne_nil h _

theorem splitOn_intercalate_eq_flatMap {sep : Char} {pieces : List (List Char)} (h : pieces ≠ []) :
    ([sep].intercalate pieces).splitOn sep = pieces.flatMap (List.splitOn sep) := by
  induction pieces with
  | nil => exact absurd rfl h
  | cons piece pieces ih =>
      cases pieces with
      | nil => rw [List.intercalate_singleton, List.flatMap_singleton]
      | cons next rest =>
          rw [List.intercalate_cons_cons, List.append_assoc, List.singleton_append,
            List.splitOn_append_cons_self, ih (List.cons_ne_nil _ _), ← List.flatMap_cons]

theorem all_isDigit_toDigits (n : Nat) : (Nat.toDigits 10 n).all Char.isDigit = true := by
  rw [List.all_eq_true]
  intro c hc
  exact Nat.isDigit_of_mem_toDigits (by decide) (by decide) hc

theorem not_mem_toDigits {c : Char} (h : c.isDigit = false) (n : Nat) :
    c ∉ Nat.toDigits 10 n := by
  intro hmem
  rw [List.all_eq_true.mp (all_isDigit_toDigits n) c hmem] at h
  cases h

theorem length_splitOn (sep : Char) (cs : List Char) :
    (cs.splitOn sep).length = 1 + cs.count sep := by
  induction cs with
  | nil => rfl
  | cons c cs ih =>
      rw [List.splitOn_cons_eq_if_modifyHead, List.count_cons]
      split
      · rw [List.length_cons, ih]
        omega
      · rw [List.length_modifyHead, ih]
        omega

/-! ## Line feeds in what is shown -/

namespace Rule

theorem lineFeed_not_mem_tokens {rule : Rule} {message token : List Char}
    (h : token ∈ rule.tokens message) : '\n' ∉ token :=
  fun hmem => ((mem_tokens h).1 '\n' hmem).2 rfl

/-- A filled template is on one line, even if the message that its tokens were
found in is not. -/
theorem lineFeed_not_mem_phrase (rule : Rule) (message : List Char) :
    '\n' ∉ (rule.phrase (rule.tokens message)).toList := by
  rw [phrase, String.toList_ofList]
  intro hmem
  rcases Template.mem_fillFrom hmem with hwritten | ⟨token, htoken, hin⟩
  · revert hwritten
    cases rule <;> decide
  · exact lineFeed_not_mem_tokens htoken hin

end Rule

theorem Code.not_mem {c : Char} (h : c.isDigit = false) (code : Code) : c ∉ code.text.toList := by
  intro hmem
  rw [(Code.fault?_eq_none_iff.mp code.isCode).2 c hmem] at h
  cases h

namespace Record

theorem lineFeed_mem_fallback_iff (r : Record) :
    '\n' ∈ r.fallback.message.toList ↔ '\n' ∈ r.message.toList := by
  rw [fallback]
  simp only [String.toList_append, List.mem_append]
  constructor
  · intro h
    rcases h with ((h | h) | h) | h
    · exact absurd h (by decide)
    · exact absurd h (r.code.not_mem (by decide))
    · exact absurd h (by decide)
    · exact h
  · exact .inr

theorem lineFeed_mem_diagnostic_iff (r : Record) :
    '\n' ∈ r.diagnostic.message.toList ↔ r.fallsBack = true ∧ '\n' ∈ r.message.toList := by
  cases hfall : r.fallsBack with
  | true =>
      rw [diagnostic_of_fallsBack hfall, lineFeed_mem_fallback_iff]
      simp
  | false =>
      obtain ⟨rule, tokens, -, rfl, -, hshown⟩ := exists_rephrased hfall
      rw [hshown]
      simpa using rule.lineFeed_not_mem_phrase r.normalized

/-- A record that takes up no more than its own line of a report: it has no
line, or it is put in other words, or its message is on one line. -/
def KeepsLine (r : Record) : Prop :=
  r.skipped = false → r.fallsBack = true → '\n' ∉ r.message.toList

instance (r : Record) : Decidable r.KeepsLine :=
  inferInstanceAs (Decidable (r.skipped = false → r.fallsBack = true → '\n' ∉ r.message.toList))

end Record

theorem lineFeed_not_mem_diagnostics_iff (records : List Record) :
    (∀ d ∈ diagnostics records, '\n' ∉ d.message.toList) ↔ ∀ r ∈ records, r.KeepsLine := by
  have hshown (r : Record) : (r.skipped = false → '\n' ∉ r.diagnostic.message.toList) ↔
      r.KeepsLine := by
    rw [Record.lineFeed_mem_diagnostic_iff, not_and]
    exact Iff.rfl
  constructor
  · intro h r hr
    refine (hshown r).mp fun hskip => h r.diagnostic (List.mem_map_of_mem ?_)
    exact List.mem_filter.mpr ⟨hr, by rw [hskip]; rfl⟩
  · intro h d hd
    obtain ⟨r, hr, rfl⟩ := List.mem_map.mp hd
    obtain ⟨hmem, hskip⟩ := List.mem_filter.mp hr
    exact (hshown r).mpr (h r hmem) (by simpa using hskip)

/-! ## The lines of a report -/

theorem Diagnostic.toList_render (d : Diagnostic) :
    d.render.toList
      = "Line ".toList ++ (Nat.toDigits 10 d.line.toNat ++ (": ".toList ++ d.message.toList)) := by
  rw [render, String.toList_append, String.toList_append, String.toList_append, Nat.toList_repr,
    List.append_assoc, List.append_assoc]

theorem Diagnostic.toList_render_ne_nil (d : Diagnostic) : d.render.toList ≠ [] := by
  rw [toList_render]
  exact List.append_ne_nil_of_left_ne_nil (by decide) _

theorem Diagnostic.count_lineFeed_render (d : Diagnostic) :
    d.render.toList.count '\n' = d.message.toList.count '\n' := by
  have hdigits : '\n' ∉ Nat.toDigits 10 d.line.toNat := not_mem_toDigits (by decide) _
  have hfront : "Line ".toList.count '\n' = 0 := by decide
  have hmark : ": ".toList.count '\n' = 0 := by decide
  rw [toList_render, List.count_append, List.count_append, List.count_append,
    List.count_eq_zero_of_not_mem hdigits]
  omega

theorem lines_report (records : List Record) :
    linesOf (report records)
      = (diagnostics records).flatMap fun d => d.render.toList.splitOn '\n' := by
  have htext : (report records).toList
      = ['\n'].intercalate ((diagnostics records).map fun d => d.render.toList) := by
    rw [report, String.toList_intercalate, List.map_map]
    rfl
  cases hshown : diagnostics records with
  | nil =>
      rw [hshown] at htext
      rw [linesOf, if_pos (String.toList_inj.mp htext)]
      rfl
  | cons d ds =>
      rw [hshown] at htext
      have hne : report records ≠ "" := by
        intro hempty
        rw [hempty] at htext
        exact intercalate_cons_ne_nil d.toList_render_ne_nil _ htext.symm
      rw [linesOf, if_neg hne, htext, splitOn_intercalate_eq_flatMap (by simp), List.flatMap_map]

/-- The length of a report: a line for each diagnostic, and one more for each
line feed in what is shown. -/
theorem length_lines_report (records : List Record) :
    (linesOf (report records)).length = (diagnostics records).length +
      ((diagnostics records).flatMap fun d => d.message.toList).count '\n' := by
  rw [lines_report]
  induction diagnostics records with
  | nil => rfl
  | cons d ds ih =>
      rw [List.flatMap_cons, List.length_append, ih, length_splitOn, d.count_lineFeed_render,
        List.length_cons, List.flatMap_cons, List.count_append]
      omega

theorem lines_report_of_keepsLine {records : List Record} (h : ∀ r ∈ records, r.KeepsLine) :
    linesOf (report records) = (diagnostics records).map fun d => d.render.toList := by
  have hline := (lineFeed_not_mem_diagnostics_iff records).mpr h
  rw [lines_report]
  generalize diagnostics records = ds at hline
  induction ds with
  | nil => rfl
  | cons d ds ih =>
      obtain ⟨hd, hds⟩ := List.forall_mem_cons.mp hline
      have hrender : '\n' ∉ d.render.toList := by
        rw [← List.count_eq_zero, d.count_lineFeed_render, List.count_eq_zero]
        exact hd
      rw [List.flatMap_cons, List.splitOn_eq_singleton hrender, ih hds]
      rfl

/-- The form of a report's line: a number, and a text behind it. -/
def IsReportLine (line : List Char) : Prop :=
  ∃ digits text, digits ≠ [] ∧ digits.all Char.isDigit = true ∧
    line = "Line ".toList ++ (digits ++ (": ".toList ++ text))

theorem Diagnostic.isReportLine_render (d : Diagnostic) : IsReportLine d.render.toList :=
  ⟨_, _, Nat.toDigits_ne_nil, all_isDigit_toDigits _, d.toList_render⟩

/-- A report has a line for each diagnostic, and nothing but such lines,
exactly when every record keeps to its own line. -/
theorem report_lines_iff (records : List Record) :
    ((linesOf (report records)).length = (diagnostics records).length ∧
        ∀ line ∈ linesOf (report records), IsReportLine line) ↔
      ∀ r ∈ records, r.KeepsLine := by
  constructor
  · intro h
    obtain ⟨hlength, -⟩ := h
    rw [length_lines_report] at hlength
    have hcount :
        ((diagnostics records).flatMap fun d => d.message.toList).count '\n' = 0 := by
      omega
    rw [← lineFeed_not_mem_diagnostics_iff]
    intro d hd hmem
    exact List.count_eq_zero.mp hcount (List.mem_flatMap.mpr ⟨d, hd, hmem⟩)
  · intro h
    rw [lines_report_of_keepsLine h]
    refine ⟨List.length_map _, ?_⟩
    intro line hline
    obtain ⟨d, -, rfl⟩ := List.mem_map.mp hline
    exact d.isReportLine_render

/-- One record without a rule, and two lines, the second of which is no line
of a report. -/
theorem report_of_fallback_on_two_lines :
    let records : List Record := [⟨1, 1, ⟨"9999", by decide⟩, "a\nb"⟩]
    (diagnostics records).length = 1 ∧ (linesOf (report records)).length = 2 ∧
      ['b'] ∈ linesOf (report records) ∧ ¬ IsReportLine ['b'] := by
  refine ⟨by decide, by decide +kernel, by decide +kernel, ?_⟩
  intro h
  obtain ⟨digits, text, -, -, hline⟩ := h
  have hlength := congrArg List.length hline
  simp at hlength

/-! ## Reading a report back -/

/-- A number of thirty-two bits in decimal digits. -/
def readNumber (digits : List Char) : Option UInt32 :=
  if digits ≠ [] ∧ digits.all Char.isDigit = true ∧
      Nat.ofDigitChars 10 digits 0 < UInt32.size then
    some (UInt32.ofNat (Nat.ofDigitChars 10 digits 0))
  else none

/-- The number and the text of a line. -/
def readLine (line : List Char) : Option (UInt32 × String) := do
  let numbered ← stripFront "Line ".toList line
  let (digits, text) ← cutAt ": ".toList numbered
  let number ← readNumber digits
  return (number, String.ofList text)

def readReport (text : String) : Option (List (UInt32 × String)) :=
  (linesOf text).mapM readLine

theorem readNumber_toDigits (n : UInt32) : readNumber (Nat.toDigits 10 n.toNat) = some n := by
  rw [readNumber, Nat.ofDigitChars_ten_toDigits,
    if_pos ⟨Nat.toDigits_ne_nil, all_isDigit_toDigits _, n.toNat_lt⟩, UInt32.ofNat_toNat]

/-- The line of a diagnostic is read back, whatever its message holds. -/
theorem readLine_render (d : Diagnostic) : readLine d.render.toList = some (d.line, d.message) := by
  have hcolon : ':' ∉ Nat.toDigits 10 d.line.toNat := not_mem_toDigits (by decide) _
  have hmark : ": ".toList = [':', ' '] := by decide
  rw [readLine, d.toList_render, stripFront_append, hmark]
  simp only [Option.bind_eq_bind, Option.bind_some, cutAt_append hcolon, readNumber_toDigits,
    String.ofList_toList, pure]

/-- A report is read back as the lines and messages of its diagnostics, if the
records keep to their own lines. -/
theorem readReport_report (records : List Record) (h : ∀ r ∈ records, r.KeepsLine) :
    readReport (report records) = some ((diagnostics records).map fun d => (d.line, d.message)) := by
  rw [readReport, lines_report_of_keepsLine h]
  induction diagnostics records with
  | nil => rfl
  | cons d ds ih =>
      rw [List.map_cons, List.mapM_cons, readLine_render, ih]
      rfl

/-- A message on two lines with the written form of a place in it, a skipped
record, and a fallback that holds the mark behind a number. -/
theorem readReport_of_rephrased_skipped_fallback :
    readReport (report [⟨3, 1, ⟨"1866", by decide⟩, "'$1'\n'a'"⟩,
        ⟨4, 1, ⟨"1824", by decide⟩, "x\ny"⟩, ⟨7, 2, ⟨"9999", by decide⟩, "a: b"⟩]) =
      some [(3, "Tag \"a\" has no attribute \"$1\""),
        (7, "Uknown MJML error, please open an issue on github.com/mjmlio/mjml with code: " ++
          "9999 and message: a: b")] :=
  (readReport_report _ (by decide +kernel)).trans (by decide +kernel)

end MarkupSchema.Diagnostics
