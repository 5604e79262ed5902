import MarkupSchema.Diagnostics.Rule
import MarkupSchema.Proofs.SpanSearch

/-!
# Where the tokens of a message stand

The search for spans forgets where it is: it hands over the texts it has read
and goes on with what is left of the message. What it should find is said in
positions, and without a search. A span is an opening position with the first
closing one after it, if the line does not end before that; the spans of a
message are those got by taking, again and again, the first one that opens
beyond the last. This file shows that there is one longest row of such spans
and that its texts are what the search finds.

The comparison goes through the rests of the message. `placesFrom` is the
search again, told where its text begins and answering with positions, and one
induction along it shows that the rows of successive spans are exactly the
beginnings of its answer. Existence, uniqueness and maximality are then facts
about beginnings of a list. An opening character that closes nothing is the
case to look at: the search passes it by, and on the other side it is a
position from which no span exists, so the first span beyond it is the first
span from it.
-/

namespace MarkupSchema.Diagnostics

variable {opens closes : Char → Bool} {cs : List Char} {start : Nat}

/-! ## Spans by their positions -/

/-- Two positions that delimit a span: an opening character at the first, a
closing one at the second, and neither a closing character nor the end of the
line between them. -/
def SpanAt (opens closes : Char → Bool) (cs : List Char) (i j : Nat) : Prop :=
  i < j ∧ (∃ o, cs[i]? = some o ∧ opens o = true) ∧ (∃ c, cs[j]? = some c ∧ closes c = true) ∧
    ∀ k c, i < k → k < j → cs[k]? = some c → closes c = false ∧ c ≠ '\n'

/-- What stands between two positions. -/
def between (cs : List Char) (span : Nat × Nat) : List Char := cs.extract (span.1 + 1) span.2

theorem drop_of_drop_eq_append {front rest : List Char} (h : cs.drop start = front ++ rest) :
    cs.drop (start + front.length) = rest := by
  rw [← List.drop_drop, h, List.drop_left]

theorem drop_of_drop_eq_cons {c : Char} {rest : List Char} (h : cs.drop start = c :: rest) :
    cs.drop (start + 1) = rest := by
  rw [← List.drop_drop, h, List.drop_one, List.tail_cons]

theorem getElem?_of_drop_eq {rest : List Char} (h : cs.drop start = rest) (k : Nat) :
    cs[start + k]? = rest[k]? := by
  rw [← h, List.getElem?_drop]

theorem SpanAt.drop_eq {i j : Nat} (h : SpanAt opens closes cs i j) :
    ∃ o c, opens o = true ∧ closes c = true ∧
      cs.drop i = o :: (between cs (i, j) ++ c :: cs.drop (j + 1)) := by
  obtain ⟨hlt, ⟨o, ho, hopens⟩, ⟨c, hc, hcloses⟩, -⟩ := h
  obtain ⟨hi, hoget⟩ := List.getElem?_eq_some_iff.mp ho
  obtain ⟨hj, hcget⟩ := List.getElem?_eq_some_iff.mp hc
  have hsplit := List.take_append_drop (j - (i + 1)) (cs.drop (i + 1))
  rw [List.drop_drop, show i + 1 + (j - (i + 1)) = j by omega,
    List.drop_eq_getElem_cons hj, hcget] at hsplit
  refine ⟨o, c, hopens, hcloses, ?_⟩
  rw [List.drop_eq_getElem_cons hi, hoget, ← hsplit]
  rfl

/-- A span stands where the search reads one. -/
theorem spanAt_iff_untilCloser {i j : Nat} :
    SpanAt opens closes cs i j ↔
      ∃ o tail text rest, cs.drop i = o :: tail ∧ opens o = true ∧
        untilCloser closes tail = some (text, rest) ∧ j = i + 1 + text.length := by
  constructor
  · intro h
    obtain ⟨o, c, hopens, hcloses, hdrop⟩ := h.drop_eq
    obtain ⟨hlt, -, ⟨d, hd, -⟩, hclean⟩ := h
    have hj := (List.getElem?_eq_some_iff.mp hd).1
    have hlength : (between cs (i, j)).length = j - (i + 1) := by
      simp only [between, List.extract_eq_take_drop, List.length_take, List.length_drop]
      omega
    refine ⟨o, _, between cs (i, j), cs.drop (j + 1), hdrop, hopens, ?_, by omega⟩
    refine untilCloser_eq_some_iff.mpr ⟨c, hcloses, rfl, fun e he => ?_⟩
    obtain ⟨k, hk⟩ := List.mem_iff_getElem?.mp he
    have hklt := (List.getElem?_eq_some_iff.mp hk).1
    refine hclean (i + 1 + k) e (by omega) (by omega) ?_
    rw [getElem?_of_drop_eq (drop_of_drop_eq_cons hdrop), List.getElem?_append_left hklt, hk]
  · intro h
    obtain ⟨o, tail, text, rest, hdrop, hopens, hfound, rfl⟩ := h
    obtain ⟨c, hcloses, rfl, htext⟩ := untilCloser_eq_some_iff.mp hfound
    have htail := drop_of_drop_eq_cons hdrop
    refine ⟨by omega, ⟨o, ?_, hopens⟩, ⟨c, ?_, hcloses⟩, ?_⟩
    · simpa using getElem?_of_drop_eq hdrop 0
    · simpa using getElem?_of_drop_eq htail text.length
    · intro k d hik hkj hd
      obtain ⟨k, rfl⟩ := Nat.exists_eq_add_of_le (Nat.succ_le_of_lt hik)
      rw [getElem?_of_drop_eq htail, List.getElem?_append_left (by omega)] at hd
      exact htext d (List.mem_of_getElem? hd)

theorem not_spanAt_of_pass {c : Char} {tail : List Char} (hdrop : cs.drop start = c :: tail)
    (h : opens c = true → untilCloser closes tail = none) (j : Nat) :
    ¬ SpanAt opens closes cs start j := by
  intro hspan
  obtain ⟨o, tail', text, rest, hdrop', hopens, hfound, -⟩ := spanAt_iff_untilCloser.mp hspan
  cases hdrop.symm.trans hdrop'
  rw [h hopens] at hfound
  cases hfound

theorem spanAt_unique {i j k : Nat} (hj : SpanAt opens closes cs i j)
    (hk : SpanAt opens closes cs i k) : j = k := by
  obtain ⟨o, tail, text, rest, hdrop, -, hfound, rfl⟩ := spanAt_iff_untilCloser.mp hj
  obtain ⟨o', tail', text', rest', hdrop', -, hfound', rfl⟩ := spanAt_iff_untilCloser.mp hk
  cases hdrop.symm.trans hdrop'
  cases hfound.symm.trans hfound'
  rfl

/-! ## One span after another -/

/-- The first span that opens at a position or beyond it. -/
def NextSpan (opens closes : Char → Bool) (cs : List Char) (start : Nat) (span : Nat × Nat) :
    Prop :=
  SpanAt opens closes cs span.1 span.2 ∧ start ≤ span.1 ∧
    ∀ p q, start ≤ p → p < span.1 → ¬ SpanAt opens closes cs p q

/-- A row of spans, each of them the first that opens beyond the one before
it, and the first of them the first from a given position on. -/
def Successive (opens closes : Char → Bool) (cs : List Char) : Nat → List (Nat × Nat) → Prop
  | _, [] => True
  | start, span :: row =>
      NextSpan opens closes cs start span ∧ Successive opens closes cs (span.2 + 1) row

/-- A row of spans from the start of a text that no further span continues. -/
def MaximalSpans (opens closes : Char → Bool) (cs : List Char) (row : List (Nat × Nat)) : Prop :=
  Successive opens closes cs 0 row ∧ ∀ span, ¬ Successive opens closes cs 0 (row ++ [span])

theorem nextSpan_iff_of_spanAt {j : Nat} {span : Nat × Nat} (h : SpanAt opens closes cs start j) :
    NextSpan opens closes cs start span ↔ span = (start, j) := by
  constructor
  · intro hnext
    obtain ⟨i, k⟩ := span
    obtain ⟨hspan, hle, hleast⟩ := hnext
    have hi : i = start := by
      refine Nat.le_antisymm (Nat.le_of_not_lt fun hlt => ?_) hle
      exact hleast start j (Nat.le_refl _) hlt h
    subst hi
    exact congrArg (Prod.mk i) (spanAt_unique hspan h)
  · rintro rfl
    refine ⟨h, Nat.le_refl _, fun p q hle hlt => ?_⟩
    exact absurd hle (Nat.not_le_of_lt hlt)

theorem nextSpan_succ {span : Nat × Nat} (h : ∀ j, ¬ SpanAt opens closes cs start j) :
    NextSpan opens closes cs start span ↔ NextSpan opens closes cs (start + 1) span := by
  constructor
  · intro hnext
    obtain ⟨hspan, hle, hleast⟩ := hnext
    have hne : start ≠ span.1 := fun heq => h span.2 (heq ▸ hspan)
    exact ⟨hspan, by omega, fun p q hp => hleast p q (by omega)⟩
  · intro hnext
    obtain ⟨hspan, hle, hleast⟩ := hnext
    refine ⟨hspan, by omega, fun p q hp hlt => ?_⟩
    rcases Nat.eq_or_lt_of_le hp with rfl | hp
    · exact h q
    · exact hleast p q hp hlt

theorem not_nextSpan_of_drop_eq_nil {span : Nat × Nat} (h : cs.drop start = []) :
    ¬ NextSpan opens closes cs start span := by
  intro hnext
  obtain ⟨⟨-, ⟨o, ho, -⟩, -⟩, hle, -⟩ := hnext
  have hlt := (List.getElem?_eq_some_iff.mp ho).1
  have hlength := List.drop_eq_nil_iff.mp h
  omega

theorem successive_succ {row : List (Nat × Nat)} (h : ∀ j, ¬ SpanAt opens closes cs start j) :
    Successive opens closes cs start row ↔ Successive opens closes cs (start + 1) row := by
  cases row with
  | nil => exact Iff.rfl
  | cons span row => rw [Successive, Successive, nextSpan_succ h]

theorem Successive.lt {row : List (Nat × Nat)} (h : Successive opens closes cs start row) :
    ∀ span ∈ row, start ≤ span.1 ∧ span.1 < span.2 := by
  induction row generalizing start with
  | nil => simp
  | cons first row ih =>
      obtain ⟨⟨hspan, hle, -⟩, hrest⟩ := h
      have hlt := hspan.1
      intro span hmem
      rcases List.mem_cons.mp hmem with rfl | hmem
      · exact ⟨hle, hlt⟩
      · have := ih hrest span hmem
        omega

theorem Successive.spanAt {row : List (Nat × Nat)} (h : Successive opens closes cs start row) :
    ∀ span ∈ row, SpanAt opens closes cs span.1 span.2 := by
  induction row generalizing start with
  | nil => simp
  | cons first row ih => exact List.forall_mem_cons.mpr ⟨h.1.1, ih h.2⟩

theorem Successive.pairwise {row : List (Nat × Nat)} (h : Successive opens closes cs start row) :
    row.Pairwise fun s t => s.2 < t.1 := by
  induction row generalizing start with
  | nil => exact List.Pairwise.nil
  | cons first row ih =>
      refine List.Pairwise.cons (fun span hmem => ?_) (ih h.2)
      have := (h.2.lt span hmem).1
      omega

/-! ## The search by positions -/

/-- The positions of all spans of a text that begins at `start`. -/
def placesFrom (opens closes : Char → Bool) (start : Nat) : List Char → List (Nat × Nat)
  | [] => []
  | c :: cs =>
      if opens c then
        match _ : untilCloser closes cs with
        | some (text, rest) =>
            (start, start + 1 + text.length) ::
              placesFrom opens closes (start + 1 + text.length + 1) rest
        | none => placesFrom opens closes (start + 1) cs
      else placesFrom opens closes (start + 1) cs
termination_by cs => cs.length
decreasing_by
  · exact Nat.lt_succ_of_lt (length_rest_lt ‹_›)
  · exact Nat.lt_succ_self _
  · exact Nat.lt_succ_self _

theorem placesFrom_cons_of_not_opens {c : Char} {cs : List Char} (h : opens c = false) :
    placesFrom opens closes start (c :: cs) = placesFrom opens closes (start + 1) cs := by
  rw [placesFrom]
  simp [h]

theorem placesFrom_cons_of_some {c : Char} {cs text rest : List Char} (hc : opens c = true)
    (h : untilCloser closes cs = some (text, rest)) :
    placesFrom opens closes start (c :: cs) =
      (start, start + 1 + text.length) ::
        placesFrom opens closes (start + 1 + text.length + 1) rest := by
  rw [placesFrom]
  simp only [hc, if_true]
  split
  · next text' rest' hsome => rw [h] at hsome; cases hsome; rfl
  · next hnone => rw [h] at hnone; cases hnone

theorem drop_of_untilCloser {c : Char} {tail text rest : List Char}
    (hdrop : cs.drop start = c :: tail) (h : untilCloser closes tail = some (text, rest)) :
    cs.drop (start + 1 + text.length + 1) = rest := by
  obtain ⟨e, -, rfl, -⟩ := untilCloser_eq_some_iff.mp h
  exact drop_of_drop_eq_cons (drop_of_drop_eq_append (drop_of_drop_eq_cons hdrop))

/-- The rows of successive spans are the beginnings of what the search finds. -/
theorem successive_iff_prefix_placesFrom {tail : List Char} (hdrop : cs.drop start = tail)
    {row : List (Nat × Nat)} :
    Successive opens closes cs start row ↔ row <+: placesFrom opens closes start tail := by
  fun_induction placesFrom opens closes start tail generalizing row with
  | case1 start =>
      cases row with
      | nil => simp [Successive]
      | cons span row => simp [Successive, not_nextSpan_of_drop_eq_nil hdrop]
  | case2 start c tail hopens text rest hfound ih =>
      have hspan : SpanAt opens closes cs start (start + 1 + text.length) :=
        spanAt_iff_untilCloser.mpr ⟨c, tail, text, rest, hdrop, hopens, hfound, rfl⟩
      cases row with
      | nil => simp [Successive]
      | cons span row =>
          rw [Successive, nextSpan_iff_of_spanAt hspan, List.cons_prefix_cons]
          refine and_congr_right fun heq => ?_
          subst heq
          exact ih (drop_of_untilCloser hdrop hfound)
  | case3 start c tail hopens hfound ih =>
      rw [successive_succ (not_spanAt_of_pass hdrop fun _ => hfound),
        ih (drop_of_drop_eq_cons hdrop)]
  | case4 start c tail hopens ih =>
      rw [successive_succ (not_spanAt_of_pass hdrop fun h => absurd h hopens),
        ih (drop_of_drop_eq_cons hdrop)]

theorem successive_placesFrom : Successive opens closes cs 0 (placesFrom opens closes 0 cs) :=
  (successive_iff_prefix_placesFrom List.drop_zero).mpr List.prefix_rfl

theorem maximalSpans_iff {row : List (Nat × Nat)} :
    MaximalSpans opens closes cs row ↔ row = placesFrom opens closes 0 cs := by
  simp only [MaximalSpans, successive_iff_prefix_placesFrom List.drop_zero]
  constructor
  · intro h
    obtain ⟨⟨more, hmore⟩, hmax⟩ := h
    cases more with
    | nil => rw [← hmore, List.append_nil]
    | cons span more => exact absurd ⟨more, by simpa using hmore⟩ (hmax span)
  · rintro rfl
    refine ⟨List.prefix_rfl, fun span h => ?_⟩
    have hlength := h.length_le
    rw [List.length_append, List.length_singleton] at hlength
    omega

/-- What the search finds are the texts between the positions. -/
theorem spans_eq_map_between {tail : List Char} (hdrop : cs.drop start = tail) :
    spans opens closes tail = (placesFrom opens closes start tail).map (between cs) := by
  fun_induction placesFrom opens closes start tail with
  | case1 start => rw [spans_nil, List.map_nil]
  | case2 start c tail hopens text rest hfound ih =>
      have htext : between cs (start, start + 1 + text.length) = text := by
        obtain ⟨e, -, rfl, -⟩ := untilCloser_eq_some_iff.mp hfound
        rw [between, List.extract_eq_take_drop, drop_of_drop_eq_cons hdrop,
          Nat.add_sub_cancel_left, List.take_left]
      rw [spans_cons_of_some hopens hfound, List.map_cons, htext,
        ih (drop_of_untilCloser hdrop hfound)]
  | case3 start c tail hopens hfound ih =>
      rw [spans_cons_of_none hfound, ih (drop_of_drop_eq_cons hdrop)]
  | case4 start c tail hopens ih =>
      rw [spans_cons_of_not_opens (by simpa using hopens), ih (drop_of_drop_eq_cons hdrop)]

/-- Each span takes two delimiters of its own. -/
theorem two_mul_length_spans_le :
    2 * (spans opens closes cs).length ≤ cs.countP fun c => opens c || closes c := by
  fun_induction spans opens closes cs with
  | case1 => exact Nat.zero_le _
  | case2 c cs hopens text rest hfound ih =>
      obtain ⟨e, hcloses, rfl, -⟩ := untilCloser_eq_some_iff.mp hfound
      simp only [List.length_cons, List.countP_cons, List.countP_append, hopens, hcloses,
        Bool.true_or, Bool.or_true, if_true]
      omega
  | case3 c cs hopens hfound ih =>
      exact Nat.le_trans ih (List.sublist_cons_self c cs).countP_le
  | case4 c cs hopens ih =>
      exact Nat.le_trans ih (List.sublist_cons_self c cs).countP_le

/-! ## The tokens of a message -/

namespace Rule

/-- The positions of the delimiters of all tokens of a message. -/
def places (rule : Rule) (message : List Char) : List (Nat × Nat) :=
  placesFrom rule.opens rule.closes 0 message

theorem spanAt_of_mem_places {rule : Rule} {message : List Char} {span : Nat × Nat}
    (h : span ∈ rule.places message) : SpanAt rule.opens rule.closes message span.1 span.2 :=
  successive_placesFrom.spanAt span h

theorem tokens_eq_map_places (rule : Rule) (message : List Char) :
    rule.tokens message
      = (rule.places message).map fun span => Text.trim (between message span) := by
  rw [tokens, spans_eq_map_between List.drop_zero, List.map_map]
  rfl

theorem mem_tokens {rule : Rule} {message token : List Char} (h : token ∈ rule.tokens message) :
    (∀ c ∈ token, rule.closes c = false ∧ c ≠ '\n') ∧ Text.trim token = token := by
  obtain ⟨text, htext, rfl⟩ := List.mem_map.mp h
  exact ⟨fun c hc => mem_spans htext c (Text.mem_trim hc), Text.trim_trim text⟩

theorem mem_of_mem_token {rule : Rule} {message token : List Char} {c : Char}
    (h : token ∈ rule.tokens message) (hc : c ∈ token) : c ∈ message := by
  rw [rule.tokens_eq_map_places] at h
  obtain ⟨span, -, rfl⟩ := List.mem_map.mp h
  have hbetween := Text.mem_trim hc
  rw [between, List.extract_eq_take_drop] at hbetween
  exact List.mem_of_mem_drop (List.mem_of_mem_take hbetween)

/-- The tokens of a message are the trimmed texts of its spans, and its spans
are its one maximal row: apart from each other and in the order of the text. No
token holds a closing character, a line feed or a blank at either end, and
every token has two delimiters to itself. -/
theorem tokens_eq_trim_between (rule : Rule) (message : List Char) :
    (∀ row, MaximalSpans rule.opens rule.closes message row ↔ row = rule.places message) ∧
      rule.tokens message
        = (rule.places message).map (fun span => Text.trim (between message span)) ∧
      (rule.places message).Pairwise (fun s t => s.2 < t.1) ∧
      (∀ token ∈ rule.tokens message,
        (∀ c ∈ token, rule.closes c = false ∧ c ≠ '\n') ∧
          ∀ c, token.head? = some c ∨ token.getLast? = some c → Text.isBlank c = false) ∧
      2 * (rule.tokens message).length
        ≤ message.countP fun c => rule.opens c || rule.closes c := by
  refine ⟨fun row => maximalSpans_iff, rule.tokens_eq_map_places message,
    successive_placesFrom.pairwise, ?_, ?_⟩
  · intro token htoken
    obtain ⟨hclean, htrim⟩ := mem_tokens htoken
    refine ⟨hclean, fun c hc => ?_⟩
    rw [← htrim] at hc
    rcases hc with hhead | hlast
    · exact Text.head?_trim hhead
    · exact Text.getLast?_trim hlast
  · rw [tokens, List.length_map]
    exact two_mul_length_spans_le

/-- The first brace has nothing that closes on its line. The first pipe closes
a span, and the second one, with no span open, begins the next. -/
example : Rule.badValue.places "\x7b a\n \x7bb|c|\"\"".toList = [(5, 7), (9, 10)] := by
  decide +kernel

end Rule

end MarkupSchema.Diagnostics
