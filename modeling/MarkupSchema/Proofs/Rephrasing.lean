import MarkupSchema.Diagnostics.Phrasing
import MarkupSchema.Proofs.SpanSearch
import MarkupSchema.Proofs.TemplateFill

/-!
# When a record is put in other words

A record is shown by its fallback or by a filled template, and this file says
which, reading only the record. Two things stand between the record and the
answer. The search for tokens runs on a message whose single quotes have been
made double, so `PairAt` moves the delimiters back to the message as it came:
there both quotes open and close. And the fallback is a text like any other,
so one has to rule out that a filled template is that very text by accident.

It cannot be, whatever the tokens are. A template begins with words, filling
starts at the first dollar sign, and so the first character of a filled
template is the first character of the template, which is not the one a
fallback begins with. The tokens get no say in it, not even one that spells
another place and is itself searched.
-/

namespace MarkupSchema.Diagnostics

/-! ## Delimiters in the message as it came -/

namespace Rule

/-- The characters that open a token while quotes are still as they came. -/
def rawOpeners : Rule → List Char
  | .strayText | .unknownAttribute => ['\x27', '"']
  | .badValue => ['\x27', '"', '\x7b', '|']
  | .misplacedElement => ['\x27', '"', '(', '|']

/-- The characters that close a token while quotes are still as they came. -/
def rawClosers : Rule → List Char
  | .strayText | .unknownAttribute => ['\x27', '"']
  | .badValue => ['\x27', '"', '|', '\x7d']
  | .misplacedElement => ['\x27', '"', '|', ')']

/-- Two positions of a message as it came that could delimit a token: an
opening character, and a closing one after it on the same line. -/
def PairAt (rule : Rule) (message : List Char) (i j : Nat) : Prop :=
  Delimits rule.rawOpeners.contains rule.rawClosers.contains message i j

theorem opens_doubleQuote (rule : Rule) (c : Char) :
    rule.opens (doubleQuote c) = rule.rawOpeners.contains c := by
  by_cases hc : c = '\x27'
  · subst hc
    cases rule <;> decide
  · rw [doubleQuote, if_neg hc]
    cases rule <;> simp [opens, openers, rawOpeners, hc, or_comm, or_left_comm]

theorem closes_doubleQuote (rule : Rule) (c : Char) :
    rule.closes (doubleQuote c) = rule.rawClosers.contains c := by
  by_cases hc : c = '\x27'
  · subst hc
    cases rule <;> decide
  · rw [doubleQuote, if_neg hc]
    cases rule <;> simp [closes, closers, rawClosers, hc]

end Rule

theorem doubleQuote_eq_lineFeed_iff (c : Char) : doubleQuote c = '\n' ↔ c = '\n' := by
  rw [doubleQuote]
  split
  · next hc => subst hc; decide
  · exact Iff.rfl

/-- Pairs of delimiters stay where they are when characters are replaced one
by one, as long as the lines stay the same. -/
theorem delimits_map {opens closes : Char → Bool} {f : Char → Char} {cs : List Char} {i j : Nat}
    (hf : ∀ c, f c = '\n' ↔ c = '\n') :
    Delimits opens closes (cs.map f) i j ↔
      Delimits (fun c => opens (f c)) (fun c => closes (f c)) cs i j := by
  have hget (n : Nat) (p : Char → Bool) : (∃ d, (cs.map f)[n]? = some d ∧ p d = true) ↔
      ∃ c, cs[n]? = some c ∧ p (f c) = true := by
    rw [List.getElem?_map]
    cases cs[n]? <;> simp
  have hline (n : Nat) : (cs.map f)[n]? = some '\n' ↔ cs[n]? = some '\n' := by
    rw [List.getElem?_map]
    cases cs[n]? <;> simp [hf]
  simp only [Delimits, hget, ne_eq, hline]

theorem Rule.tokens_eq_nil_iff (rule : Rule) (r : Record) :
    rule.tokens r.normalized = [] ↔ ¬ ∃ i j, rule.PairAt r.message.toList i j := by
  have hpair (i j : Nat) : Delimits rule.opens rule.closes r.normalized i j ↔
      rule.PairAt r.message.toList i j := by
    rw [Record.normalized, delimits_map doubleQuote_eq_lineFeed_iff]
    simp only [Rule.opens_doubleQuote, Rule.closes_doubleQuote]
    exact Iff.rfl
  rw [Rule.tokens, List.map_eq_nil_iff, spans_eq_nil_iff]
  simp only [hpair]

/-! ## The first character of a filled template -/

namespace Rule

/-- The words that all messages of a rule begin with. -/
def lead : Rule → String
  | .strayText => "Plain text content inside \""
  | .badValue | .unknownAttribute | .misplacedElement => "Tag \""

theorem lead_prefix_phrase (rule : Rule) (tokens : List (List Char)) :
    rule.lead.toList <+: (rule.phrase tokens).toList := by
  rw [phrase, String.toList_ofList]
  cases rule <;> exact Template.words_prefix_fill (by decide) tokens

/-- No tokens can make a rule's message the fallback of any record. -/
theorem phrase_ne_fallback (rule : Rule) (tokens : List (List Char)) (r : Record) :
    rule.phrase tokens ≠ r.fallback.message := by
  intro h
  obtain ⟨rest, hrest⟩ := rule.lead_prefix_phrase tokens
  have hfallback : (rule.phrase tokens).toList.head? = some 'U' := by
    rw [h, Record.fallback, String.toList_append, String.toList_append, String.toList_append]
    rfl
  have hlead : (rule.phrase tokens).toList.head? = rule.lead.toList.head? := by
    rw [← hrest]
    cases rule <;> rfl
  rw [hlead] at hfallback
  revert hfallback
  cases rule <;> decide

end Rule

/-! ## The cases of a record -/

namespace Record

theorem phrasing_eq_noRule_iff {r : Record} :
    r.phrasing = .noRule ↔ ∀ rule : Rule, rule.code ≠ r.code.text := by
  rw [phrasing]
  cases hrule : Rule.ofCode? r.code.text with
  | none =>
      simp only [true_iff]
      intro rule hcode
      rw [Rule.ofCode?_eq_some_iff.mpr hcode] at hrule
      cases hrule
  | some rule =>
      have hcode := Rule.ofCode?_eq_some_iff.mp hrule
      simp only []
      split <;> simp only [reduceCtorEq, false_iff, Classical.not_forall, Classical.not_not]
      · exact ⟨rule, hcode⟩
      · exact ⟨rule, hcode⟩

theorem phrasing_eq_noTokens_iff {r : Record} {rule : Rule} :
    r.phrasing = .noTokens rule ↔
      rule.code = r.code.text ∧ rule.tokens r.normalized = [] := by
  rw [phrasing, ← Rule.ofCode?_eq_some_iff]
  cases Rule.ofCode? r.code.text with
  | none => simp
  | some found =>
      simp only [Option.some.injEq]
      split
      · next htokens =>
          constructor
          · intro h
            cases h
            exact ⟨rfl, htokens⟩
          · intro h
            obtain ⟨rfl, -⟩ := h
            rfl
      · next token tokens htokens =>
          simp only [reduceCtorEq, false_iff, not_and]
          rintro rfl
          simp [htokens]

theorem phrasing_eq_rephrased_iff {r : Record} {rule : Rule} {tokens : List (List Char)} :
    r.phrasing = .rephrased rule tokens ↔
      rule.code = r.code.text ∧ rule.tokens r.normalized = tokens ∧ tokens ≠ [] := by
  rw [phrasing, ← Rule.ofCode?_eq_some_iff]
  cases Rule.ofCode? r.code.text with
  | none => simp
  | some found =>
      simp only [Option.some.injEq]
      split
      · next htokens =>
          simp only [reduceCtorEq, false_iff, not_and]
          rintro rfl rfl
          simp [htokens]
      · next token rest htokens =>
          constructor
          · intro h
            cases h
            exact ⟨rfl, htokens, List.cons_ne_nil _ _⟩
          · intro h
            obtain ⟨rfl, rfl, -⟩ := h
            rw [htokens]

/-- Whether a record is shown by its fallback: it has no rule, or its rule
finds nothing. -/
def fallsBack (r : Record) : Bool :=
  match r.phrasing with
  | .noRule | .noTokens _ => true
  | .rephrased _ _ => false

theorem diagnostic_of_fallsBack {r : Record} (h : r.fallsBack = true) :
    r.diagnostic = r.fallback := by
  rw [fallsBack] at h
  rw [diagnostic]
  cases hr : r.phrasing with
  | noRule => rfl
  | noTokens rule => rfl
  | rephrased rule tokens =>
      rw [hr] at h
      cases h

/-- A record that does not fall back is shown by its rule, filled with the
tokens found in it. -/
theorem exists_rephrased {r : Record} (h : r.fallsBack = false) :
    ∃ (rule : Rule) (tokens : List (List Char)), rule.code = r.code.text ∧
      rule.tokens r.normalized = tokens ∧ tokens ≠ [] ∧
      r.diagnostic = ⟨r.line, r.column, rule.phrase tokens⟩ := by
  rw [fallsBack] at h
  split at h
  · cases h
  · cases h
  · next rule tokens hr =>
      obtain ⟨hcode, htokens, hne⟩ := phrasing_eq_rephrased_iff.mp hr
      refine ⟨rule, tokens, hcode, htokens, hne, ?_⟩
      rw [diagnostic, hr]

theorem fallsBack_iff {r : Record} :
    r.fallsBack = true ↔
      ¬ ∃ (rule : Rule) (i j : Nat),
        rule.code = r.code.text ∧ rule.PairAt r.message.toList i j := by
  rw [fallsBack]
  split
  · next hr =>
      rw [phrasing_eq_noRule_iff] at hr
      simp [hr]
  · next rule hr =>
      obtain ⟨hcode, htokens⟩ := phrasing_eq_noTokens_iff.mp hr
      simp only [true_iff]
      intro h
      obtain ⟨rule', i, j, hcode', hpair⟩ := h
      obtain rfl := Rule.code_inj (hcode'.trans hcode.symm)
      exact (rule'.tokens_eq_nil_iff r).mp htokens ⟨i, j, hpair⟩
  · next rule tokens hr =>
      obtain ⟨hcode, htokens, hne⟩ := phrasing_eq_rephrased_iff.mp hr
      simp only [Bool.false_eq_true, false_iff, Classical.not_not]
      have hpair := (not_congr (rule.tokens_eq_nil_iff r)).mp (htokens ▸ hne)
      obtain ⟨i, j, hij⟩ := Classical.not_not.mp hpair
      exact ⟨rule, i, j, hcode, hij⟩

theorem diagnostic_ne_fallback_message {r : Record} (h : r.fallsBack = false) (other : Record) :
    r.diagnostic.message ≠ other.fallback.message := by
  obtain ⟨rule, tokens, -, -, -, hshown⟩ := exists_rephrased h
  rw [hshown]
  exact rule.phrase_ne_fallback tokens other

end Record

theorem Rule.code_mem (rule : Rule) : rule.code ∈ ["1843", "1840", "1866", "1871"] := by
  cases rule <;> decide

/-- A record is shown by its fallback exactly when its code has no rule or its
message has no pair of delimiters for that rule. Any other record is shown by
its rule, filled with at least one token, and never by the text of a fallback,
its own or another's. -/
theorem diagnostic_eq_fallback_iff (r : Record) :
    (r.diagnostic = r.fallback ↔
      r.code.text ∉ ["1843", "1840", "1866", "1871"] ∨
        ¬ ∃ (rule : Rule) (i j : Nat),
          rule.code = r.code.text ∧ rule.PairAt r.message.toList i j) ∧
    (r.diagnostic = r.fallback ∨
      ∃ (rule : Rule) (tokens : List (List Char)), rule.code = r.code.text ∧
        rule.tokens r.normalized = tokens ∧ tokens ≠ [] ∧
        r.diagnostic = ⟨r.line, r.column, rule.phrase tokens⟩ ∧
        ∀ other : Record, r.diagnostic.message ≠ other.fallback.message) := by
  cases hfall : r.fallsBack with
  | true =>
      have hsame := Record.diagnostic_of_fallsBack hfall
      exact ⟨iff_of_true hsame (.inr (Record.fallsBack_iff.mp hfall)), .inl hsame⟩
  | false =>
      have hne := Record.diagnostic_ne_fallback_message hfall
      obtain ⟨rule, tokens, hcode, htokens, htoken, hshown⟩ := Record.exists_rephrased hfall
      have hpair : ∃ (rule : Rule) (i j : Nat),
          rule.code = r.code.text ∧ rule.PairAt r.message.toList i j := by
        refine Classical.not_not.mp fun h => ?_
        rw [Record.fallsBack_iff.mpr h] at hfall
        cases hfall
      refine ⟨iff_of_false (fun h => hne r (h ▸ rfl)) ?_, .inr ⟨rule, tokens, hcode, htokens,
        htoken, hshown, hne⟩⟩
      intro h
      rcases h with hcodes | hpairs
      · exact hcodes (hcode ▸ rule.code_mem)
      · exact hpairs hpair

end MarkupSchema.Diagnostics
