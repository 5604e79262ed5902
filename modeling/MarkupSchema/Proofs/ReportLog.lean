import MarkupSchema.Diagnostics.Report
import MarkupSchema.Proofs.Rephrasing

/-!
# What is told while a report is made

`reportEvents` lists the events of a report record by record, as if each record
were dealt with for itself. No report is made that way. Records pass two stations:
the first leaves records out and tells of those, and the second phrases the others
and tells of those it has no words for. If all records went through the first
station before one of them came to the second, the same events would be told in
another order, those about records left out in front of all others.

The order is saved by the fact that nothing moves until it is asked for. Whoever
wants the diagnostics asks the second station for the next one, the second station
asks the first for the next record, and the first looks at records up to one that
it keeps. So a record is done with before another is looked at. This file makes
reports in that way, with the events kept beside the answer, and shows that both
come to what is said of them record by record.

Once the order is known, events can be counted against records and against
diagnostics. A record that is left out has an event in place of a diagnostic, and
a record that falls back has one on top of it; the latter is a matter of counting
because no other diagnostic can be mistaken for a fallback.
-/

namespace MarkupSchema.Diagnostics

/-! ## Answers with a log -/

/-- A value, and what was told while it was made. -/
structure Logged (α : Type) where
  value : α
  log : List Event

namespace Logged

instance : Monad Logged where
  pure a := ⟨a, []⟩
  bind x f := ⟨(f x.value).value, x.log ++ (f x.value).log⟩

def tell (event : Event) : Logged Unit := ⟨(), [event]⟩

variable {α β : Type}

theorem pure_eq (a : α) : (pure a : Logged α) = ⟨a, []⟩ := rfl

theorem bind_eq (x : Logged α) (f : α → Logged β) :
    x >>= f = ⟨(f x.value).value, x.log ++ (f x.value).log⟩ := rfl

end Logged

/-! ## Two stations, asked for one item at a time -/

section Stations

variable {α β : Type} (keep : α → Logged Bool) (make : α → Logged β)

/-- The first item that is kept, and the items behind it. -/
def nextKept : List α → Logged (Option (α × List α))
  | [] => pure none
  | a :: rest => do
      if ← keep a then return some (a, rest)
      else nextKept rest

/-- What is made of the first item that is kept, and the items behind it. -/
def nextMade (items : List α) : Logged (Option (β × List α)) := do
  match ← nextKept keep items with
  | none => return none
  | some (a, rest) => return some (← make a, rest)

theorem nextMade_nil : nextMade keep make [] = ⟨none, []⟩ := rfl

theorem nextMade_cons_of_keep {a : α} (h : (keep a).value = true) (rest : List α) :
    nextMade keep make (a :: rest)
      = ⟨some ((make a).value, rest), (keep a).log ++ (make a).log⟩ := by
  simp [nextMade, nextKept, Logged.bind_eq, Logged.pure_eq, h]

theorem nextMade_cons_of_not_keep {a : α} (h : (keep a).value = false) (rest : List α) :
    nextMade keep make (a :: rest)
      = ⟨(nextMade keep make rest).value, (keep a).log ++ (nextMade keep make rest).log⟩ := by
  simp [nextMade, nextKept, Logged.bind_eq, h]

theorem length_lt_of_nextMade {items rest : List α} {b : β}
    (h : (nextMade keep make items).value = some (b, rest)) : rest.length < items.length := by
  induction items with
  | nil => cases h
  | cons a items ih =>
      cases hkeep : (keep a).value with
      | true =>
          rw [nextMade_cons_of_keep keep make hkeep] at h
          cases h
          exact Nat.lt_succ_self _
      | false =>
          rw [nextMade_cons_of_not_keep keep make hkeep] at h
          exact Nat.lt_succ_of_lt (ih h)

/-- Asks for items until there are no more. -/
def drain (items : List α) : Logged (List β) :=
  match _ : (nextMade keep make items).value with
  | none => ⟨[], (nextMade keep make items).log⟩
  | some (b, rest) =>
      ⟨b :: (drain rest).value, (nextMade keep make items).log ++ (drain rest).log⟩
termination_by items.length
decreasing_by all_goals exact length_lt_of_nextMade keep make ‹_›

theorem drain_eq_bind (items : List α) :
    drain keep make items = (do
      match ← nextMade keep make items with
      | none => return []
      | some (b, rest) => return b :: (← drain keep make rest)) := by
  rw [drain]
  split
  · next h => simp [h, Logged.bind_eq, Logged.pure_eq]
  · next b rest h => simp [h, Logged.bind_eq, Logged.pure_eq]

/-- An item is done with before the next one is looked at. -/
theorem drain_eq (items : List α) :
    drain keep make items =
      ⟨(items.filter fun a => (keep a).value).map fun a => (make a).value,
        items.flatMap fun a => (keep a).log ++ if (keep a).value then (make a).log else []⟩ := by
  induction items with
  | nil =>
      rw [drain_eq_bind, nextMade_nil]
      rfl
  | cons a rest ih =>
      cases hkeep : (keep a).value with
      | true =>
          rw [drain_eq_bind, nextMade_cons_of_keep keep make hkeep, Logged.bind_eq]
          simp [Logged.bind_eq, Logged.pure_eq, ih, hkeep]
      | false =>
          have hskip : drain keep make (a :: rest) =
              ⟨(drain keep make rest).value, (keep a).log ++ (drain keep make rest).log⟩ := by
            rw [drain_eq_bind, drain_eq_bind keep make rest,
              nextMade_cons_of_not_keep keep make hkeep]
            simp [Logged.bind_eq, List.append_assoc]
          rw [hskip, ih]
          simp [hkeep]

end Stations

/-! ## The two stations of a report -/

namespace Record

/-- Lets a record pass unless its code is skipped. -/
def admitted (r : Record) : Logged Bool := do
  if r.skipped then
    Logged.tell (r.eventOf "skipping tolerated validator code")
  return !r.skipped

/-- Phrases a record, or tells why there are no words for it. -/
def phrased (r : Record) : Logged Diagnostic := do
  match Rule.ofCode? r.code.text with
  | none =>
      Logged.tell (r.eventOf "no rule for validator code")
      return r.fallback
  | some rule =>
      let tokens := rule.tokens r.normalized
      if tokens = [] then
        Logged.tell (r.eventOf "rule pattern matched no tokens")
        return r.fallback
      return ⟨r.line, r.column, rule.phrase tokens⟩

theorem admitted_eq (r : Record) :
    r.admitted = ⟨!r.skipped,
      if r.skipped then [r.eventOf "skipping tolerated validator code"] else []⟩ := by
  rw [admitted]
  cases r.skipped <;> rfl

theorem phrased_eq (r : Record) : r.phrased = ⟨r.diagnostic, r.phrasingEvents⟩ := by
  rw [phrased, diagnostic, phrasingEvents, phrasing]
  cases Rule.ofCode? r.code.text with
  | none => rfl
  | some rule =>
      simp only []
      cases rule.tokens r.normalized <;> rfl

end Record

def loggedDiagnostics (records : List Record) : Logged (List Diagnostic) :=
  drain Record.admitted Record.phrased records

/-- A report is made from its diagnostics and tells nothing of its own. -/
def loggedReport (records : List Record) : Logged String := do
  let shown ← loggedDiagnostics records
  return "\n".intercalate (shown.map Diagnostic.render)

theorem loggedDiagnostics_eq (records : List Record) :
    loggedDiagnostics records = ⟨diagnostics records, reportEvents records⟩ := by
  have hevents (r : Record) :
      r.admitted.log ++ (if r.admitted.value then r.phrased.log else []) = r.events := by
    rw [r.admitted_eq, r.phrased_eq, Record.events]
    cases r.skipped <;> rfl
  rw [loggedDiagnostics, drain_eq]
  simp only [hevents]
  simp only [Record.admitted_eq, Record.phrased_eq, diagnostics, reportEvents]

theorem loggedReport_eq (records : List Record) :
    loggedReport records = ⟨report records, reportEvents records⟩ := by
  rw [loggedReport, loggedDiagnostics_eq, Logged.bind_eq, Logged.pure_eq, List.append_nil, report]

/-! ## Counting events -/

/-- What there is to tell of a record, if there is anything: that it is left out, that its
code has no rule, or that its rule finds nothing. -/
def Record.remark? (r : Record) : Option String :=
  if r.code.text = "1824" then some "skipping tolerated validator code"
  else
    match Rule.ofCode? r.code.text with
    | none => some "no rule for validator code"
    | some rule =>
        if rule.tokens r.normalized = [] then some "rule pattern matched no tokens" else none

theorem Record.skipped_iff {r : Record} : r.skipped = true ↔ r.code.text = "1824" := by
  simp [skipped, isSkipped, skippedCodes]

/-- The three things that may be told of a record, by what becomes of it. -/
theorem Record.remark?_cases (r : Record) :
    (r.skipped = true ∧ r.remark? = some "skipping tolerated validator code" ∧
        r.events = [r.eventOf "skipping tolerated validator code"]) ∨
      (r.skipped = false ∧ r.fallsBack = true ∧
        ∃ words, r.remark? = some words ∧ words ≠ "skipping tolerated validator code" ∧
          r.events = [r.eventOf words]) ∨
      (r.skipped = false ∧ r.fallsBack = false ∧ r.remark? = none ∧ r.events = []) := by
  rw [events, remark?, fallsBack, phrasingEvents, phrasing]
  cases hskip : r.skipped with
  | true => exact .inl ⟨rfl, if_pos (skipped_iff.mp hskip), rfl⟩
  | false =>
      have hcode : ¬ r.code.text = "1824" := by
        rw [← skipped_iff, hskip]
        exact Bool.false_ne_true
      rw [if_neg hcode]
      cases Rule.ofCode? r.code.text with
      | none => exact .inr (.inl ⟨rfl, rfl, _, rfl, by decide, rfl⟩)
      | some rule =>
          dsimp only
          cases rule.tokens r.normalized with
          | nil => exact .inr (.inl ⟨rfl, rfl, _, rfl, by decide, rfl⟩)
          | cons token tokens => exact .inr (.inr ⟨rfl, rfl, rfl, rfl⟩)

theorem Record.events_eq_toList_remark? (r : Record) :
    r.events = (r.remark?.map r.eventOf).toList := by
  obtain ⟨-, hremark, hevents⟩ | ⟨-, -, words, hremark, -, hevents⟩ | ⟨-, -, hremark, hevents⟩ :=
    r.remark?_cases
  all_goals
    rw [hremark, hevents]
    rfl

theorem reportEvents_eq_filterMap (records : List Record) :
    reportEvents records = records.filterMap fun r => r.remark?.map r.eventOf := by
  rw [reportEvents, List.filterMap_eq_flatMap_toList]
  exact List.flatMap_congr fun r _ => r.events_eq_toList_remark?

/-- Whether an event is about a record that is left out. -/
def tellsSkip (e : Event) : Bool := e.message == "skipping tolerated validator code"

namespace Record

theorem tellsSkip_eventOf (r : Record) (words : String) :
    tellsSkip (r.eventOf words) = (words == "skipping tolerated validator code") := rfl

theorem diagnostic_eq_fallback_iff_fallsBack (r : Record) :
    r.diagnostic = r.fallback ↔ r.fallsBack = true := by
  constructor
  · intro h
    cases hfall : r.fallsBack with
    | true => rfl
    | false => exact absurd (congrArg Diagnostic.message h) (diagnostic_ne_fallback_message hfall r)
  · exact diagnostic_of_fallsBack

end Record

theorem countP_tellsSkip (records : List Record) :
    (reportEvents records).countP tellsSkip = records.countP Record.skipped := by
  rw [reportEvents_eq_filterMap, List.countP_filterMap]
  refine List.countP_congr fun r _ => ?_
  obtain ⟨hskip, hremark, -⟩ | ⟨hskip, -, words, hremark, hwords, -⟩ | ⟨hskip, -, hremark, -⟩ :=
    r.remark?_cases
  all_goals simp [*, Record.tellsSkip_eventOf]

theorem countP_not_tellsSkip (records : List Record) :
    (reportEvents records).countP (fun e => !tellsSkip e)
      = records.countP fun r => r.fallsBack && !r.skipped := by
  rw [reportEvents_eq_filterMap, List.countP_filterMap]
  refine List.countP_congr fun r _ => ?_
  obtain ⟨hskip, hremark, -⟩ | ⟨hskip, hfall, words, hremark, hwords, -⟩ |
    ⟨hskip, hfall, hremark, -⟩ := r.remark?_cases
  all_goals simp [*, Record.tellsSkip_eventOf]

theorem countP_skipped_add_length (records : List Record) :
    records.countP Record.skipped + (diagnostics records).length = records.length := by
  rw [diagnostics, List.length_map, ← List.countP_eq_length_filter,
    List.length_eq_countP_add_countP Record.skipped]
  simp only [Bool.not_eq_true, Bool.decide_eq_false]

/-- The diagnostics that are the fallbacks of their records. -/
theorem countP_fallbacks (records : List Record) :
    (((records.filter fun r => !r.skipped).zip (diagnostics records)).countP fun shown =>
        shown.2 = shown.1.fallback) = records.countP fun r => r.fallsBack && !r.skipped := by
  rw [diagnostics, ← List.map_prod_left_eq_zip, List.countP_map, List.countP_filter]
  refine List.countP_congr fun r _ => ?_
  simp [r.diagnostic_eq_fallback_iff_fallsBack]

/-- Asked for one diagnostic at a time, a report tells of the same records as if each were
dealt with for itself: of every record once that is left out or falls back, in order, with
its code and its line, and of no other. -/
theorem events_of_report (records : List Record) :
    loggedDiagnostics records = ⟨diagnostics records, reportEvents records⟩ ∧
    loggedReport records = ⟨report records, reportEvents records⟩ ∧
    (reportEvents records = records.filterMap fun r => r.remark?.map fun words =>
      ⟨.debug, words, [("code", .text r.code.text), ("line", .number r.line.toNat)]⟩) ∧
    (reportEvents records).countP tellsSkip + (diagnostics records).length = records.length ∧
    (reportEvents records).countP (fun e => !tellsSkip e) =
      ((records.filter fun r => !r.skipped).zip (diagnostics records)).countP fun shown =>
        shown.2 = shown.1.fallback := by
  refine ⟨loggedDiagnostics_eq records, loggedReport_eq records,
    reportEvents_eq_filterMap records, ?_, ?_⟩
  · rw [countP_tellsSkip, countP_skipped_add_length]
  · rw [countP_not_tellsSkip, countP_fallbacks]

/-- A code without a rule, a code that is skipped, a rule that finds nothing, a record that
is put in other words, and a skipped code again. -/
theorem events_of_mixed_report :
    let records : List Record :=
      [⟨4, 1, ⟨"9999", by decide⟩, "'a'"⟩, ⟨3, 7, ⟨"1824", by decide⟩, "'5'"⟩,
        ⟨9, 2, ⟨"1843", by decide⟩, "no quotes"⟩, ⟨6, 2, ⟨"1866", by decide⟩, "'a' 'b'"⟩,
        ⟨3, 5, ⟨"1824", by decide⟩, ""⟩]
    let told : List Event :=
      [⟨.debug, "no rule for validator code", [("code", .text "9999"), ("line", .number 4)]⟩,
        ⟨.debug, "skipping tolerated validator code",
          [("code", .text "1824"), ("line", .number 3)]⟩,
        ⟨.debug, "rule pattern matched no tokens", [("code", .text "1843"), ("line", .number 9)]⟩,
        ⟨.debug, "skipping tolerated validator code",
          [("code", .text "1824"), ("line", .number 3)]⟩]
    (loggedDiagnostics records).log = told ∧ (loggedReport records).log = told ∧
      told.countP tellsSkip = 2 ∧ (diagnostics records).length = 3 := by
  intro records told
  obtain ⟨hdiagnostics, hreport, hevents, hcount, -⟩ := events_of_report records
  have htold : reportEvents records = told := hevents.trans (by decide +kernel)
  have hskips : told.countP tellsSkip = 2 := by decide +kernel
  rw [htold, hskips] at hcount
  refine ⟨?_, ?_, hskips, Nat.add_left_cancel (hcount.trans rfl)⟩
  · rw [hdiagnostics, htold]
  · rw [hreport, htold]

end MarkupSchema.Diagnostics
