import Mathlib.Data.List.Infix
import MarkupSchema.Diagnostics.Rule

/-!
# Filling a template one token after another

`fill` searches a running text that holds whatever earlier tokens have brought
in, `substitute` never looks at a token at all, and the two agree as long as
no token spells the place of a later one. The proof is one invariant: after
`n` tokens the running text is the template substituted with those tokens, all
later places still written out.

What has to be shown for a step is that the written form of place `n` is not
met too early. It cannot start in the words, which hold no dollar sign; it
cannot lie inside an earlier token by assumption, nor inside the written form
of another place as long as places are single digits; and it cannot straddle
the end of either, because what follows a place is a character that occurs in
no written place. `separated` collects what the last two reasons ask of a
template, and it is a computation, so each rule's template is checked once.

Only a token that is shown can be in the way. The step asks nothing of a token
the template has no place for, so such a token may be anything, the written
form of a later place included, and the filled template is the same.

Two facts need no assumption on the tokens: nothing in a filled template comes
from anywhere but the template and the tokens, and the words a template begins
with are never touched.
-/

namespace MarkupSchema.Diagnostics

open Text (replaceFirst_append replaceFirst_append_of_not_mem replaceFirst_append_of_absent
  mem_replaceFirst)

/-! ## Written places -/

theorem mem_placeText {c : Char} {index : Nat} (h : c ∈ placeText index) :
    c = '$' ∨ c.isDigit = true := by
  rcases List.mem_cons.mp h with hc | hc
  · exact .inl hc
  · exact .inr (Nat.isDigit_of_mem_toDigits (by decide) (by decide) hc)

theorem not_infix_of_dollar_not_mem {index : Nat} {cs : List Char} (h : '$' ∉ cs) :
    ¬ placeText index <:+: cs :=
  fun hocc => h (hocc.subset List.mem_cons_self)

/-- A place of one digit holds no other place: `$1` stands in `$10`, but
nothing shorter than a digit stands in a digit. -/
theorem not_infix_placeText {i k : Nat} (hk : k < 10) (h : i ≠ k) :
    ¬ placeText i <:+: placeText k := by
  intro hocc
  rw [placeText, placeText, Nat.toDigits_of_lt_base hk] at hocc
  have hlen := hocc.length_le
  have hpos := Nat.length_toDigits_pos (b := 10) (n := i)
  simp only [List.length_cons, List.length_nil] at hlen
  have heq := hocc.eq_of_length_le (by simp only [List.length_cons, List.length_nil]; omega)
  refine h ?_
  rw [← Nat.ofDigitChars_ten_toDigits (n := i), ← Nat.ofDigitChars_ten_toDigits (n := k),
    Nat.toDigits_of_lt_base hk, (List.cons.inj heq).2]

namespace Template

/-! ## Templates that can be filled in turn -/

/-- What may follow a place: the end, or words that begin with a character no
written place holds. -/
def endsPlace : Template → Bool
  | [] => true
  | .place _ :: _ => false
  | .words text :: _ =>
      match text.toList with
      | [] => false
      | c :: _ => c != '$' && !c.isDigit

/-- A template whose places are told apart by their written forms: the words
hold no dollar sign, and a place is a single digit, occurs once, and is
followed by something that cannot lengthen it. -/
def separated : Template → Bool
  | [] => true
  | .words text :: rest => !text.toList.contains '$' && separated rest
  | .place k :: rest =>
      decide (k < 10) && !rest.contains (.place k) && endsPlace rest && separated rest

@[simp] theorem substitute_empty (tokens : List (List Char)) :
    substitute [] tokens = [] := rfl

@[simp] theorem substitute_words (text : String) (rest : Template)
    (tokens : List (List Char)) :
    substitute (.words text :: rest) tokens = text.toList ++ substitute rest tokens := rfl

@[simp] theorem substitute_place (k : Nat) (rest : Template) (tokens : List (List Char)) :
    substitute (.place k :: rest) tokens
      = tokens[k]?.getD (placeText k) ++ substitute rest tokens := rfl

theorem substitute_nil (template : Template) : template.substitute [] = template.written := by
  induction template with
  | nil => rfl
  | cons piece rest ih =>
      cases piece with
      | words text => rw [substitute_words, ih]; rfl
      | place k => rw [substitute_place, ih]; rfl

theorem substitute_congr {template : Template} {tokens others : List (List Char)}
    (h : ∀ k, .place k ∈ template → others[k]? = tokens[k]?) :
    template.substitute others = template.substitute tokens := by
  induction template with
  | nil => rfl
  | cons piece rest ih =>
      have hrest := ih fun k hk => h k (List.mem_cons_of_mem _ hk)
      cases piece with
      | words text => rw [substitute_words, substitute_words, hrest]
      | place k => rw [substitute_place, substitute_place, h k List.mem_cons_self, hrest]

theorem getElem?_concat_of_ne {filled : List (List Char)} {token : List Char} {k : Nat}
    (h : k ≠ filled.length) : (filled ++ [token])[k]? = filled[k]? := by
  rw [List.getElem?_append]
  split
  · rfl
  · next hge =>
      rw [List.getElem?_eq_none (by simp only [List.length_singleton]; omega),
        List.getElem?_eq_none (by omega)]

/-- A token whose place is not in the template changes nothing. -/
theorem substitute_concat_of_not_mem {template : Template} {filled : List (List Char)}
    {token : List Char} (h : .place filled.length ∉ template) :
    template.substitute (filled ++ [token]) = template.substitute filled := by
  induction template with
  | nil => rfl
  | cons piece rest ih =>
      simp only [List.mem_cons, not_or] at h
      cases piece with
      | words text => rw [substitute_words, substitute_words, ih h.2]
      | place k =>
          have hk : k ≠ filled.length := fun heq => h.1 (heq ▸ rfl)
          rw [substitute_place, substitute_place, getElem?_concat_of_ne hk, ih h.2]

theorem head?_substitute_of_endsPlace {template : Template} (h : endsPlace template = true)
    (tokens : List (List Char)) (index : Nat) :
    ∀ c ∈ (template.substitute tokens).head?, c ∉ placeText index := by
  cases template with
  | nil => simp
  | cons piece rest =>
      cases piece with
      | place k => cases h
      | words text =>
          rw [endsPlace] at h
          split at h
          · cases h
          · next c cs htext =>
              simp only [Bool.and_eq_true, bne_iff_ne, Bool.not_eq_true'] at h
              simp only [substitute_words, htext, List.cons_append, List.head?_cons,
                Option.mem_some_iff, forall_eq']
              intro hmem
              rcases mem_placeText hmem with hc | hc
              · exact h.1 hc
              · rw [h.2] at hc
                cases hc

/-! ## One token, and then all of them -/

/-- One step of filling, on a template in which the tokens before it are
already substituted. -/
theorem replaceFirst_substitute {template : Template} (hsep : template.separated = true)
    {filled : List (List Char)} {token : List Char}
    (hfilled : ∀ k t, .place k ∈ template → filled[k]? = some t →
      ¬ placeText filled.length <:+: t) :
    Text.replaceFirst (placeText filled.length) token (template.substitute filled)
      = template.substitute (filled ++ [token]) := by
  induction template with
  | nil => rfl
  | cons piece rest ih =>
      have hlater : ∀ k t, .place k ∈ rest → filled[k]? = some t →
          ¬ placeText filled.length <:+: t :=
        fun k t hk => hfilled k t (List.mem_cons_of_mem _ hk)
      cases piece with
      | words text =>
          simp only [separated, Bool.and_eq_true, Bool.not_eq_true', List.contains_eq_mem,
            decide_eq_false_iff_not] at hsep
          rw [substitute_words, substitute_words, placeText,
            replaceFirst_append_of_not_mem hsep.1, ← placeText, ih hsep.2 hlater]
      | place k =>
          simp only [separated, Bool.and_eq_true, Bool.not_eq_true', List.contains_eq_mem,
            decide_eq_false_iff_not, decide_eq_true_eq] at hsep
          obtain ⟨⟨⟨hk, honce⟩, hends⟩, hrest⟩ := hsep
          rw [substitute_place, substitute_place]
          by_cases hindex : k = filled.length
          · -- the token's own place, and the only one it has
            subst hindex
            rw [List.getElem?_eq_none (Nat.le_refl _), Option.getD_none,
              replaceFirst_append (by simp [placeText]), List.getElem?_concat_length,
              Option.getD_some, substitute_concat_of_not_mem honce]
          · have hfree : ¬ placeText filled.length <:+: filled[k]?.getD (placeText k) := by
              cases ht : filled[k]? with
              | none => exact not_infix_placeText hk (Ne.symm hindex)
              | some t => exact hfilled k t List.mem_cons_self ht
            rw [replaceFirst_append_of_absent hfree
              (head?_substitute_of_endsPlace hends filled filled.length), ih hrest hlater,
              getElem?_concat_of_ne hindex]

/-- Tokens none of which spells the place of a later one. -/
def Unspelled (tokens : List (List Char)) : Prop :=
  ∀ i j t, tokens[i]? = some t → i < j → j < tokens.length → ¬ placeText j <:+: t

theorem unspelled_of_dollar_not_mem {tokens : List (List Char)} (h : ∀ t ∈ tokens, '$' ∉ t) :
    Unspelled tokens :=
  fun _ _ t ht _ _ => not_infix_of_dollar_not_mem (h t (List.mem_of_getElem? ht))

theorem unspelled_iff {tokens : List (List Char)} :
    Unspelled tokens ↔
      ((List.range tokens.length).all fun j =>
        (tokens.take j).all fun t => !(decide (placeText j <:+: t))) = true := by
  simp only [Unspelled, List.all_eq_true, List.mem_range, Bool.not_eq_true', decide_eq_false_iff_not]
  constructor
  · intro h j hj t ht
    obtain ⟨i, hi⟩ := List.mem_iff_getElem?.mp ht
    have hij : i < j := by
      have hlt := (List.getElem?_eq_some_iff.mp hi).1
      rw [List.length_take] at hlt
      omega
    rw [List.getElem?_take_of_lt hij] at hi
    exact h i j t hi hij hj
  · intro h i j t ht hij hj
    rw [← List.getElem?_take_of_lt hij] at ht
    exact h j hj t (List.mem_of_getElem? ht)

instance (tokens : List (List Char)) : Decidable (Unspelled tokens) :=
  decidable_of_iff _ unspelled_iff.symm

/-- Tokens of which no shown one spells the place of a later one. -/
def UnspelledIn (template : Template) (tokens : List (List Char)) : Prop :=
  ∀ i j t, .place i ∈ template → tokens[i]? = some t → i < j → j < tokens.length →
    ¬ placeText j <:+: t

theorem Unspelled.unspelledIn {template : Template} {tokens others : List (List Char)}
    (h : Unspelled tokens) (hlength : others.length ≤ tokens.length)
    (hshown : ∀ k, .place k ∈ template → others[k]? = tokens[k]?) :
    template.UnspelledIn others := by
  intro i j t hi ht hij hj
  rw [hshown i hi] at ht
  exact h i j t ht hij (Nat.lt_of_lt_of_le hj hlength)

theorem fillFrom_substitute {template : Template} (hsep : template.separated = true)
    {filled tokens : List (List Char)} (h : template.UnspelledIn (filled ++ tokens)) :
    fillFrom filled.length (template.substitute filled) tokens
      = template.substitute (filled ++ tokens) := by
  induction tokens generalizing filled with
  | nil => rw [fillFrom, List.append_nil]
  | cons token tokens ih =>
      have hfilled : ∀ k t, .place k ∈ template → filled[k]? = some t →
          ¬ placeText filled.length <:+: t := by
        intro k t hk ht
        have hlt : k < filled.length := (List.getElem?_eq_some_iff.mp ht).1
        refine h k filled.length t hk ?_ hlt (by simp)
        rw [List.getElem?_append_left hlt, ht]
      have hmove : filled ++ token :: tokens = (filled ++ [token]) ++ tokens := by simp
      have hnext := @ih (filled ++ [token]) (hmove ▸ h)
      rw [List.length_append, List.length_singleton] at hnext
      rw [fillFrom, replaceFirst_substitute hsep hfilled, hnext, hmove]

theorem fill_eq_substitute_of_unspelledIn {template : Template}
    (hsep : template.separated = true) {tokens : List (List Char)}
    (h : template.UnspelledIn tokens) : template.fill tokens = template.substitute tokens := by
  have hall := @fillFrom_substitute template hsep [] tokens h
  rwa [substitute_nil] at hall

/-- Filling one token after another is filling all places at once. -/
theorem fill_eq_substitute {template : Template} (hsep : template.separated = true)
    {tokens : List (List Char)} (h : Unspelled tokens) :
    template.fill tokens = template.substitute tokens :=
  fill_eq_substitute_of_unspelledIn hsep (h.unspelledIn (Nat.le_refl _) fun _ _ => rfl)

/-! ## Facts about every token list -/

/-- Nothing in a filled text comes from anywhere but that text and the tokens. -/
theorem mem_fillFrom {index : Nat} {running : List Char} {tokens : List (List Char)} {c : Char}
    (h : c ∈ fillFrom index running tokens) : c ∈ running ∨ ∃ t ∈ tokens, c ∈ t := by
  induction tokens generalizing index running with
  | nil => exact .inl h
  | cons token tokens ih =>
      rw [fillFrom] at h
      rcases ih h with hrunning | ⟨t, ht, hc⟩
      · rcases mem_replaceFirst hrunning with htoken | hrunning
        · exact .inr ⟨token, List.mem_cons_self, htoken⟩
        · exact .inl hrunning
      · exact .inr ⟨t, List.mem_cons_of_mem _ ht, hc⟩

theorem fillFrom_append_of_dollar_not_mem {index : Nat} {front running : List Char}
    {tokens : List (List Char)} (h : '$' ∉ front) :
    fillFrom index (front ++ running) tokens = front ++ fillFrom index running tokens := by
  induction tokens generalizing index running with
  | nil => rfl
  | cons token tokens ih =>
      rw [fillFrom, placeText, replaceFirst_append_of_not_mem h, ih]
      rfl

/-- The words a template begins with are what the filled template begins with. -/
theorem words_prefix_fill {text : String} {rest : Template} (h : '$' ∉ text.toList)
    (tokens : List (List Char)) :
    text.toList <+: fill (.words text :: rest) tokens :=
  ⟨_, (fillFrom_append_of_dollar_not_mem h).symm⟩

end Template

namespace Rule

theorem separated_template (rule : Rule) : rule.template.separated = true := by
  cases rule <;> decide

/-- A rule's message has every token at its place and every place without a
token as it is written, whatever the tokens hold but the places of later ones.
It has nothing else: tokens without a place may be exchanged for any others,
and those at the end left out. -/
theorem phrase_eq_substitute (rule : Rule) {tokens : List (List Char)}
    (h : Template.Unspelled tokens) :
    rule.phrase tokens = String.ofList (rule.template.substitute tokens) ∧
      ∀ others : List (List Char), others.length ≤ tokens.length →
        (∀ k, .place k ∈ rule.template → others[k]? = tokens[k]?) →
        rule.phrase others = rule.phrase tokens := by
  have hfill (others : List (List Char)) (hlength : others.length ≤ tokens.length)
      (hshown : ∀ k, .place k ∈ rule.template → others[k]? = tokens[k]?) :
      rule.phrase others = String.ofList (rule.template.substitute tokens) := by
    have hunspelled := h.unspelledIn hlength hshown
    rw [phrase, Template.fill_eq_substitute_of_unspelledIn rule.separated_template hunspelled,
      Template.substitute_congr hshown]
  have hself := hfill tokens (Nat.le_refl _) fun _ _ => rfl
  exact ⟨hself, fun others hlength hshown => (hfill others hlength hshown).trans hself.symm⟩

/-- Tokens with dollar signs in them and at their ends, one of them empty, and
in place of the third, which is not shown, one that spells two places. -/
theorem phrase_eq_substitute_of_dollars :
    let tokens := ["$", " $0\x7b$", "c", "", "$2$3", "x$", "$7"].map String.toList
    let others := ["$", " $0\x7b$", "$3$4", "", "$2$3"].map String.toList
    Template.Unspelled tokens ∧ ¬ Template.Unspelled others ∧
      Rule.badValue.phrase others =
        "Tag \"$\" doesn't support \"\" value on \" $0\x7b$\" attribute, only $2$3 are accepted" := by
  intro tokens others
  have htokens : Template.Unspelled tokens := by decide
  obtain ⟨hall, hnone⟩ := Rule.badValue.phrase_eq_substitute htokens
  have hshown : ∀ k, .place k ∈ Rule.badValue.template → others[k]? = tokens[k]? := by
    intro k hk
    have hplaces : k = 0 ∨ k = 3 ∨ k = 1 ∨ k = 4 := by simpa [Rule.template] using hk
    rcases hplaces with rfl | rfl | rfl | rfl <;> rfl
  refine ⟨htokens, by decide, ?_⟩
  rw [hnone others (by decide) hshown, hall]
  decide

end Rule

end MarkupSchema.Diagnostics
