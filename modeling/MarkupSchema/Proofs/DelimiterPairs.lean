import MarkupSchema.Proofs.SpanPlaces

/-!
# Which delimiters belong together

A token opens with one of a rule's opening characters and ends at the nearest
of its closing ones, whichever that is. No rule asks the two to fit, and they
need not: in a set of quoted values the brace is closed by the quote directly
behind it, and the token is empty. This file says when they do fit.

For one token it is a matter of what the partner of its opening character has
in front of it. A group runs from an opening character to the first partner of
it on the same line, and it is taken whole, and its delimiters fit, exactly
when nothing in it closes. A quote closes for every rule, so a group with
quoted items in it is never taken whole.

For a whole message it is a matter of grammar. `Paired` builds a message from
its end, one group or one character that opens nothing at a time, and never
mentions the search. That the search agrees with it is not a matter of course:
a message may be read as a row of groups in more than one way, a quote being
its own partner, and the grammar has to choose the same one. It does, because
it lets no character pass that could open a group.
-/

namespace MarkupSchema.Diagnostics

/-- The character that belongs to an opening one: its counterpart for a brace
or a parenthesis, and the character itself for a quote or a pipe. -/
def partner (c : Char) : Char :=
  if c = '\x7b' then '\x7d' else if c = '(' then ')' else c

/-- Two positions with an opening character and its partner. -/
def MatchedAt (message : List Char) (span : Nat × Nat) : Prop :=
  ∃ o, message[span.1]? = some o ∧ message[span.2]? = some (partner o)

instance (message : List Char) (span : Nat × Nat) : Decidable (MatchedAt message span) :=
  decidable_of_iff (message[span.1]?.any fun o => message[span.2]? == some (partner o))
    (by simp [MatchedAt, Option.any_eq_true])

/-- A group: a character, and the first partner of it on the same line. -/
def GroupAt (message : List Char) (i p : Nat) : Prop :=
  ∃ o, SpanAt (· == o) (· == partner o) message i p

/-- Messages made of groups with nothing in them that closes, and of characters
that open nothing. -/
inductive Paired (opens closes : Char → Bool) : List Char → Prop
  | nil : Paired opens closes []
  | pass {c : Char} {cs : List Char} (hpass : opens c = true → ∀ j, ¬ ReachesCloser closes cs j)
      (hrest : Paired opens closes cs) : Paired opens closes (c :: cs)
  | group {o : Char} {text rest : List Char} (hopens : opens o = true)
      (hcloses : closes (partner o) = true) (htext : ∀ d ∈ text, closes d = false ∧ d ≠ '\n')
      (hrest : Paired opens closes rest) : Paired opens closes (o :: (text ++ partner o :: rest))

variable {opens closes : Char → Bool} {cs : List Char} {start : Nat}

/-! ## The grammar makes the choices of the search -/

theorem paired_cons_iff_of_pass {c : Char}
    (h : opens c = true → ∀ j, ¬ ReachesCloser closes cs j) :
    Paired opens closes (c :: cs) ↔ Paired opens closes cs := by
  constructor
  · intro hpaired
    cases hpaired with
    | pass _ hrest => exact hrest
    | group hopens hcloses htext _ =>
        have hnone := untilCloser_eq_none_iff.mpr (h hopens)
        rw [untilCloser_append hcloses htext] at hnone
        cases hnone
  · exact .pass h

theorem paired_cons_iff_of_some {c : Char} {text rest : List Char} (hopens : opens c = true)
    (h : untilCloser closes cs = some (text, rest)) :
    Paired opens closes (c :: cs) ↔
      cs = text ++ partner c :: rest ∧ Paired opens closes rest := by
  obtain ⟨e, hcloses, hcs, htext⟩ := untilCloser_eq_some_iff.mp h
  constructor
  · intro hpaired
    cases hpaired with
    | pass hpass _ =>
        rw [untilCloser_eq_none_iff.mpr (hpass hopens)] at h
        cases h
    | group _ hcloses' htext' hrest =>
        rw [untilCloser_append hcloses' htext'] at h
        cases h
        exact ⟨rfl, hrest⟩
  · intro hsplit
    obtain ⟨rfl, hrest⟩ := hsplit
    obtain rfl := (List.cons.inj (List.append_cancel_left hcs)).1
    exact .group hopens hcloses htext hrest

theorem forall_matchedAt_iff_paired {tail : List Char} (hdrop : cs.drop start = tail) :
    (∀ span ∈ placesFrom opens closes start tail, MatchedAt cs span) ↔
      Paired opens closes tail := by
  fun_induction placesFrom opens closes start tail with
  | case1 start => simp [Paired.nil]
  | case2 start c tail hopens text rest hfound ih =>
      obtain ⟨e, -, htail, -⟩ := untilCloser_eq_some_iff.mp hfound
      have hmatched : MatchedAt cs (start, start + 1 + text.length) ↔
          tail = text ++ partner c :: rest := by
        have hopener : cs[start]? = some c := by simpa using getElem?_of_drop_eq hdrop 0
        have hcloser : cs[start + 1 + text.length]? = some e := by
          simpa [htail] using getElem?_of_drop_eq (drop_of_drop_eq_cons hdrop) text.length
        simp [MatchedAt, hopener, hcloser, htail]
      rw [List.forall_mem_cons, hmatched, ih (drop_of_untilCloser hdrop hfound),
        paired_cons_iff_of_some hopens hfound]
  | case3 start c tail hopens hfound ih =>
      rw [ih (drop_of_drop_eq_cons hdrop),
        paired_cons_iff_of_pass fun _ => untilCloser_eq_none_iff.mp hfound]
  | case4 start c tail hopens ih =>
      rw [ih (drop_of_drop_eq_cons hdrop),
        paired_cons_iff_of_pass fun h => absurd h hopens]

/-! ## One group -/

/-- A span does not go on beyond a character that closes. -/
theorem SpanAt.le_of_closes {i j k : Nat} {d : Char} (h : SpanAt opens closes cs i j) (hik : i < k)
    (hd : cs[k]? = some d) (hcloses : closes d = true) : j ≤ k := by
  refine Nat.le_of_not_lt fun hkj => ?_
  have hopen := (h.2.2.2 k d hik hkj hd).1
  rw [hcloses] at hopen
  cases hopen

/-- Where a group and a span begin together, the delimiters of the span fit
exactly when it is the whole group, and it is the whole group exactly when
nothing in the group closes. -/
theorem matchedAt_iff_of_groupAt {span : Nat × Nat} {p : Nat}
    (hpartner : ∀ o, opens o = true → closes (partner o) = true)
    (hspan : SpanAt opens closes cs span.1 span.2) (hgroup : GroupAt cs span.1 p) :
    (MatchedAt cs span ↔ span.2 = p) ∧
      (span.2 = p ↔
        ∀ k c, span.1 < k → k < p → cs[k]? = some c → closes c = false) := by
  obtain ⟨o', hltp, ⟨o, ho, heq⟩, ⟨c, hc, hceq⟩, hfirst⟩ := hgroup
  rw [beq_iff_eq] at heq hceq
  subst heq hceq
  have hopens : opens o = true := by
    obtain ⟨-, ⟨o', ho', hopens⟩, -⟩ := hspan
    cases ho.symm.trans ho'
    exact hopens
  have hle : span.2 ≤ p := hspan.le_of_closes hltp hc (hpartner o hopens)
  obtain ⟨hlt, -, ⟨e, he, hcloses⟩, hclean⟩ := hspan
  constructor
  · constructor
    · intro hmatched
      obtain ⟨o', ho', hpair⟩ := hmatched
      cases ho.symm.trans ho'
      refine Nat.le_antisymm hle (Nat.le_of_not_lt fun hj => ?_)
      have hne := (hfirst span.2 _ hlt hj hpair).1
      simp at hne
    · rintro rfl
      exact ⟨o, ho, hc⟩
  · constructor
    · rintro rfl
      exact fun k d hik hkj hd => (hclean k d hik hkj hd).1
    · intro hnone
      refine Nat.le_antisymm hle (Nat.le_of_not_lt fun hj => ?_)
      rw [hnone span.2 e hlt hj he] at hcloses
      cases hcloses

/-! ## The tokens of a message -/

namespace Rule

theorem closes_partner (rule : Rule) {o : Char} (h : rule.opens o = true) :
    rule.closes (partner o) = true := by
  have hopeners : (rule.openers.all fun o => rule.closes (partner o)) = true := by
    cases rule <;> decide
  rw [opens, List.contains_iff_mem] at h
  exact List.all_eq_true.mp hopeners o h

/-- Every token stands between an opening character and the nearest closing
one. All of a message's tokens have delimiters that fit exactly when the
message is made of groups in which nothing closes and of characters that open
nothing. A group that a token begins with is the whole token, and the
delimiters of the token fit, exactly when nothing in the group closes; if there
is a quote in the group, they do not fit, and the token ends there or before. -/
theorem matchedAt_places_iff (rule : Rule) (message : List Char) :
    rule.tokens message
        = (rule.places message).map (fun span => Text.trim (between message span)) ∧
      (∀ span ∈ rule.places message, SpanAt rule.opens rule.closes message span.1 span.2) ∧
      ((∀ span ∈ rule.places message, MatchedAt message span) ↔
        Paired rule.opens rule.closes message) ∧
      ∀ span ∈ rule.places message, ∀ p, GroupAt message span.1 p →
        (MatchedAt message span ↔ span.2 = p) ∧
          (span.2 = p ↔ ∀ k c, span.1 < k → k < p → message[k]? = some c →
            rule.closes c = false) ∧
          ∀ k, span.1 < k → k < p → message[k]? = some '"' →
            ¬ MatchedAt message span ∧ span.2 ≤ k := by
  refine ⟨rule.tokens_eq_map_places message, fun span => spanAt_of_mem_places,
    forall_matchedAt_iff_paired List.drop_zero, fun span hmem p hgroup => ?_⟩
  have hspan := spanAt_of_mem_places hmem
  obtain ⟨hmatched, hwhole⟩ :=
    matchedAt_iff_of_groupAt (fun o => rule.closes_partner) hspan hgroup
  refine ⟨hmatched, hwhole, fun k hik hkp hquote => ?_⟩
  have hcloses : rule.closes '"' = true := by cases rule <;> decide
  refine ⟨fun hfit => ?_, hspan.le_of_closes hik hquote hcloses⟩
  have hopen := hwhole.mp (hmatched.mp hfit) k '"' hik hkp hquote
  rw [hcloses] at hopen
  cases hopen

/-- The sentence about a bad value, with the accepted ones in quotes: the brace
is closed by the first quote, the next token is the comma between the values,
and the last quote is closed by the brace. -/
theorem not_matchedAt_of_quoted_set :
    let message := ("Element \"mj-column\", attribute \"direction\": [facet \"enumeration\"] " ++
      "The value \"up\" is not an element of the set \x7b\"ltr\", \"rtl\"\x7d.").toList
    Rule.badValue.tokens message
        = ["mj-column", "direction", "enumeration", "up", "", ",", ""].map String.toList ∧
      ¬ ∀ span ∈ Rule.badValue.places message, MatchedAt message span := by
  decide +kernel

end Rule

end MarkupSchema.Diagnostics
