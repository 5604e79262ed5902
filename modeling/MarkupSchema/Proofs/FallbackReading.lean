import MarkupSchema.Proofs.ReportLines

/-!
# Reading a fallback back

A fallback is there so that nothing the validator said gets lost. It puts the
code and the message into one text with words in front of each, and nothing in
the text is quoted: a message may hold the very words that stand in front of it,
any number of times, with digits before them.

The record can be recovered all the same, because a code cannot hold those words.
They begin with a blank and a code is digits, in whichever way it was made, so
their first occurrence in the text is always the one that was put there. What
comes after it is the message, and nothing in the message is looked at.

The reader below also refuses every text that is no fallback. It answers with a
record exactly when that record has the given fallback, and so two records with
one fallback are the same record.
-/

namespace MarkupSchema.Diagnostics

theorem eq_append_of_stripFront_eq_some {front cs rest : List Char}
    (h : stripFront front cs = some rest) : cs = front ++ rest := by
  rw [stripFront] at h
  split at h
  · next hfront =>
      obtain ⟨behind, hbehind⟩ := List.isPrefixOf_iff_prefix.mp hfront
      rw [← hbehind, List.drop_left] at h
      rw [← hbehind, Option.some.inj h]
  · cases h

theorem eq_append_of_cutAt_eq_some {mark cs before behind : List Char}
    (h : cutAt mark cs = some (before, behind)) : cs = before ++ (mark ++ behind) := by
  induction cs generalizing before with
  | nil => cases h
  | cons c cs ih =>
      rw [cutAt] at h
      split at h
      · next hmark =>
          obtain ⟨rest, hrest⟩ := List.isPrefixOf_iff_prefix.mp hmark
          rw [← hrest, List.drop_left] at h
          obtain ⟨rfl, rfl⟩ := Prod.mk.inj (Option.some.inj h)
          exact hrest.symm
      · obtain ⟨⟨before', behind'⟩, hcut, hpair⟩ := Option.map_eq_some_iff.mp h
        obtain ⟨rfl, rfl⟩ := Prod.mk.inj hpair
        rw [ih hcut, List.cons_append]

/-- The words in front of the code. -/
def codeLead : List Char :=
  "Uknown MJML error, please open an issue on github.com/mjmlio/mjml with code: ".toList

/-- The words in front of the message. -/
def messageLead : List Char := " and message: ".toList

theorem Record.toList_fallback (r : Record) :
    r.fallback.message.toList
      = codeLead ++ (r.code.text.toList ++ (messageLead ++ r.message.toList)) := by
  rw [fallback, String.toList_append, String.toList_append, String.toList_append,
    List.append_assoc, List.append_assoc]
  rfl

/-- The record a diagnostic is the fallback of. -/
def Diagnostic.origin? (d : Diagnostic) : Option Record := do
  let told ← stripFront codeLead d.message.toList
  let (code, message) ← cutAt messageLead told
  let code ← (Code.ofString (String.ofList code)).toOption
  return ⟨d.line, d.column, code, String.ofList message⟩

/-- A fallback is read back as its record, whatever the message holds. -/
theorem Record.origin?_fallback (r : Record) : r.fallback.origin? = some r := by
  have hcut : cutAt messageLead (r.code.text.toList ++ (messageLead ++ r.message.toList))
      = some (r.code.text.toList, r.message.toList) := cutAt_append (r.code.not_mem (by decide))
  rw [Diagnostic.origin?, r.toList_fallback, stripFront_append]
  simp only [Option.bind_eq_bind, Option.bind_some, hcut, String.ofList_toList,
    Code.ofString_text]
  rfl

/-- Nothing but a fallback is read as one. -/
theorem Diagnostic.fallback_of_origin?_eq_some {d : Diagnostic} {r : Record}
    (h : d.origin? = some r) : r.fallback = d := by
  simp only [origin?, Option.bind_eq_bind, Option.bind_eq_some_iff] at h
  obtain ⟨told, hlead, ⟨digits, message⟩, hcut, code, hcode, hrecord⟩ := h
  have hdigits : Code.ofString (String.ofList digits) = .ok code := by
    cases hread : Code.ofString (String.ofList digits) with
    | ok read => rw [hread] at hcode; rw [Option.some.inj hcode]
    | error fault => rw [hread] at hcode; cases hcode
  have htext : d.message = r.fallback.message := by
    rw [← String.toList_inj, r.toList_fallback, eq_append_of_stripFront_eq_some hlead,
      eq_append_of_cutAt_eq_some hcut, ← Option.some.inj hrecord,
      ← Code.ofString_eq_ok_iff.mp hdigits, String.toList_ofList, String.toList_ofList]
  calc
    r.fallback = ⟨r.line, r.column, r.fallback.message⟩ := rfl
    _ = ⟨d.line, d.column, d.message⟩ := by rw [htext, ← Option.some.inj hrecord]

/-- A diagnostic is read as the record it is the fallback of, and as no record
if it is nobody's fallback. So the fallback tells the line, the column, the code
and the message, and records that differ in any of them have different ones. -/
theorem fallback_tells_record :
    (∀ (d : Diagnostic) (r : Record), d.origin? = some r ↔ r.fallback = d) ∧
      ∀ a b : Record, a.fallback = b.fallback ↔ a = b := by
  have hread (d : Diagnostic) (r : Record) : d.origin? = some r ↔ r.fallback = d := by
    constructor
    · exact Diagnostic.fallback_of_origin?_eq_some
    · rintro rfl
      exact r.origin?_fallback
  refine ⟨hread, ?_⟩
  intro a b
  constructor
  · intro h
    have hsame : some a = some b := by
      rw [← a.origin?_fallback, h, b.origin?_fallback]
    exact Option.some.inj hsame
  · rintro rfl
    rfl

/-- A message that repeats the words in front of it, behind digits of its own. -/
example :
    let r : Record := ⟨3, 7, ⟨"0042", by decide⟩, "17 and message: 18 and message: "⟩
    r.fallback.origin? = some r := by decide +kernel

end MarkupSchema.Diagnostics
