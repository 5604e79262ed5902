import MarkupSchema.Proofs.Rephrasing
import MarkupSchema.Proofs.SpanPlaces

/-!
# The quotes of a message

Validators differ in the quotes they put around names, and a user should not
see which validator was asked. Two messages that differ in their quotes alone
are put in other words alike, and this is a statement about two runs: neither of
them can be seen from the other, so what the runs share has to be named. It is
the message with all its quotes made double. Which case a record falls into, and
with which tokens, is read off this message and the code, and off nothing else.

A fallback is the one case in which the message as it came is looked at, and
there the quotes are kept: two records fall back together, but what is shown for
each of them is its own message behind the same words.

No quote is lost or made up on the way to a token either. A token is cut out of
a message in which no single quote is left, and a double one would have ended it.
-/

namespace MarkupSchema.Diagnostics

theorem doubleQuote_ne_singleQuote (c : Char) : doubleQuote c ≠ '\x27' := by
  rw [doubleQuote]
  split
  · decide
  · next hc => exact hc

namespace Record

theorem quotes_not_mem_token {r : Record} {rule : Rule} {token : List Char}
    (h : token ∈ rule.tokens r.normalized) : '\x27' ∉ token ∧ '"' ∉ token := by
  refine ⟨fun hmem => ?_, fun hmem => ?_⟩
  · have hmessage := Rule.mem_of_mem_token h hmem
    rw [normalized] at hmessage
    obtain ⟨c, -, hc⟩ := List.mem_map.mp hmessage
    exact doubleQuote_ne_singleQuote c hc
  · have hopen := ((Rule.mem_tokens h).1 '"' hmem).1
    rw [rule.closes_quote] at hopen
    cases hopen

/-- The case of a record is read off its code and the message with double quotes. -/
theorem phrasing_congr {a b : Record} (hcode : a.code = b.code)
    (hmessage : a.normalized = b.normalized) : a.phrasing = b.phrasing := by
  rw [phrasing, phrasing, hcode, hmessage]

end Record

/-- Messages that differ in the style of their quotes only are shown alike: each
of them as it came, behind the same words, or both by one and the same message
of a rule, filled with tokens that hold no quotes and never the text of a
fallback. -/
theorem diagnostic_of_quotes_alike (line column : UInt32) (code : Code) (m₁ m₂ : String)
    (h : m₁.toList.map doubleQuote = m₂.toList.map doubleQuote) :
    let r₁ : Record := ⟨line, column, code, m₁⟩
    let r₂ : Record := ⟨line, column, code, m₂⟩
    (r₁.diagnostic = r₁.fallback ∧ r₂.diagnostic = r₂.fallback ∧
        ∃ words : String, r₁.fallback = ⟨line, column, words ++ m₁⟩ ∧
          r₂.fallback = ⟨line, column, words ++ m₂⟩) ∨
      ∃ (rule : Rule) (tokens : List (List Char)),
        r₁.phrasing = .rephrased rule tokens ∧ r₂.phrasing = .rephrased rule tokens ∧
        r₁.diagnostic = ⟨line, column, rule.phrase tokens⟩ ∧ r₂.diagnostic = r₁.diagnostic ∧
        (∀ other : Record, r₁.diagnostic.message ≠ other.fallback.message) ∧
        ∀ token ∈ tokens, '\x27' ∉ token ∧ '"' ∉ token := by
  intro r₁ r₂
  have hsame : r₁.phrasing = r₂.phrasing := Record.phrasing_congr rfl h
  cases hfall : r₁.fallsBack with
  | true =>
      have hfall₂ : r₂.fallsBack = true := by
        rw [Record.fallsBack, ← hsame]
        exact hfall
      exact .inl ⟨Record.diagnostic_of_fallsBack hfall, Record.diagnostic_of_fallsBack hfall₂,
        _, rfl, rfl⟩
  | false =>
      obtain ⟨rule, tokens, hcode, htokens, hne, hshown⟩ := Record.exists_rephrased hfall
      have hphrasing := Record.phrasing_eq_rephrased_iff.mpr ⟨hcode, htokens, hne⟩
      have hshown₂ : r₂.diagnostic = r₁.diagnostic := by
        rw [Record.diagnostic, Record.diagnostic, ← hsame, hphrasing]
      refine .inr ⟨rule, tokens, hphrasing, hsame ▸ hphrasing, hshown, hshown₂,
        Record.diagnostic_ne_fallback_message hfall, fun token htoken => ?_⟩
      exact Record.quotes_not_mem_token (htokens ▸ htoken)

/-- Two names, each between quotes of both styles, and a lone quote. -/
theorem diagnostic_of_quotes_alike_of_mixed_styles :
    let m₁ := "'a\" \"b' it's"
    let m₂ := "\"a' 'b\" it\"s"
    let shown (m : String) := (⟨3, 1, ⟨"1866", by decide⟩, m⟩ : Record).diagnostic
    m₁ ≠ m₂ ∧ m₁.toList.map doubleQuote = m₂.toList.map doubleQuote ∧ shown m₂ = shown m₁ ∧
      shown m₁ = ⟨3, 1, "Tag \"a\" has no attribute \"b\""⟩ := by
  intro m₁ m₂ shown
  have hquotes : m₁.toList.map doubleQuote = m₂.toList.map doubleQuote := by decide
  have hshown : shown m₁ = ⟨3, 1, "Tag \"a\" has no attribute \"b\""⟩ := by decide +kernel
  refine ⟨by decide, hquotes, ?_, hshown⟩
  rcases diagnostic_of_quotes_alike 3 1 ⟨"1866", by decide⟩ m₁ m₂ hquotes with
    ⟨hfallback, -⟩ | ⟨_, _, -, -, -, hsame, -⟩
  · exact absurd (hshown.symm.trans hfallback) (by decide +kernel)
  · exact hsame

end MarkupSchema.Diagnostics
