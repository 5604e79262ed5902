import MarkupSchema.Proofs.SpanPlaces

/-!
# Cutting a message at its line feeds and at its quotes

The search for spans goes through a message once and keeps no record of it, so
nothing in its definition says that a message may be cut and its parts searched
on their own. This file gives two kinds of places where it may.

A line feed is one of them. Whatever the search is at when it comes to the end
of a line, it has to give up, and it starts afresh behind it: no span is read
across a line feed, and none begins or ends with one. So a message is searched
line by line, and a delimiter left open on a line is of no concern to any other.
The step that matters is the failure of a read: with more text behind a line
feed, the same characters are read, and the same reads fail.

Quotes are the other, if nothing else delimits. Then the search needs no search
at all: the message falls into pieces between its quotes, and the first quote
opens, the second closes, and so on in turn, so the spans are the pieces with
odd numbers. The last piece is none of them, whatever its number, since no quote
comes after it. For the two rules whose other delimiters are brackets and pipes
it comes to the same as long as these do not occur.
-/

namespace MarkupSchema.Diagnostics

variable {opens closes : Char → Bool}

/-! ## Line by line -/

/-- A line feed and more text behind it change nothing about what is read. -/
theorem untilCloser_append_lineFeed (hcloses : closes '\n' = false) (cs more : List Char) :
    untilCloser closes (cs ++ '\n' :: more)
      = (untilCloser closes cs).map fun found => (found.1, found.2 ++ '\n' :: more) := by
  induction cs with
  | nil =>
      show untilCloser closes ('\n' :: more) = none
      rw [untilCloser]
      simp [hcloses]
  | cons c cs ih =>
      rw [List.cons_append, untilCloser, untilCloser, ih]
      split
      · rfl
      · split
        · rfl
        · rw [Option.map_map, Option.map_map]
          rfl

theorem spans_append_lineFeed (hopens : opens '\n' = false) (hcloses : closes '\n' = false)
    (cs more : List Char) :
    spans opens closes (cs ++ '\n' :: more) = spans opens closes cs ++ spans opens closes more := by
  fun_induction spans opens closes cs with
  | case1 => rw [List.nil_append, List.nil_append, spans_cons_of_not_opens hopens]
  | case2 c cs hc text rest hfound ih =>
      have hread := untilCloser_append_lineFeed hcloses cs more
      rw [hfound] at hread
      rw [List.cons_append, spans_cons_of_some hc hread, ih, List.cons_append]
  | case3 c cs hc hfound ih =>
      have hread := untilCloser_append_lineFeed hcloses cs more
      rw [hfound] at hread
      rw [List.cons_append, spans_cons_of_none hread, ih]
  | case4 c cs hc ih =>
      rw [List.cons_append, spans_cons_of_not_opens (by simpa using hc), ih]

namespace Rule

theorem tokens_append_lineFeed (rule : Rule) (front back : List Char) :
    rule.tokens (front ++ '\n' :: back) = rule.tokens front ++ rule.tokens back := by
  rw [tokens, spans_append_lineFeed rule.opens_lineFeed rule.closes_lineFeed, List.map_append]
  rfl

theorem tokens_intercalate (rule : Rule) (lines : List (List Char)) :
    rule.tokens (['\n'].intercalate lines) = lines.flatMap rule.tokens := by
  induction lines with
  | nil =>
      show rule.tokens [] = []
      rw [tokens, spans_nil, List.map_nil]
  | cons line lines ih =>
      cases lines with
      | nil => simp
      | cons next rest =>
          rw [List.intercalate_cons_cons, List.append_assoc, List.singleton_append,
            tokens_append_lineFeed, ih]
          rfl

/-- A line feed cuts a message into two that are searched on their own. So the
tokens of a message are those of its lines, one after another, and whatever
stands on a line, an unclosed delimiter or anything else, the tokens of all
others are the same. -/
theorem tokens_line_by_line (rule : Rule) :
    (∀ front back, rule.tokens (front ++ '\n' :: back)
      = rule.tokens front ++ rule.tokens back) ∧
    (∀ message, rule.tokens message = (message.splitOn '\n').flatMap rule.tokens) ∧
    ∀ before line after, rule.tokens (['\n'].intercalate (before ++ line :: after))
      = before.flatMap rule.tokens ++ rule.tokens line ++ after.flatMap rule.tokens := by
  refine ⟨rule.tokens_append_lineFeed, fun message => ?_, fun before line after => ?_⟩
  · rw [← tokens_intercalate, List.intercalate_splitOn]
  · rw [tokens_intercalate, List.flatMap_append, List.flatMap_cons, List.append_assoc]

/-- A quote that is not closed on its line leaves the brace behind it, and the
quotes of the next line are a pair. -/
example : Rule.badValue.tokens "\"a\" \" \x7b\n \"b\" |\n\x7d".toList
    = ["a", "b"].map String.toList := by
  decide +kernel

end Rule

/-! ## Between the quotes -/

theorem untilCloser_congr {closes closes' : Char → Bool} {cs : List Char}
    (h : ∀ c ∈ cs, closes c = closes' c) : untilCloser closes cs = untilCloser closes' cs := by
  induction cs with
  | nil => rfl
  | cons c cs ih =>
      obtain ⟨hc, hcs⟩ := List.forall_mem_cons.mp h
      rw [untilCloser, untilCloser, hc, ih hcs]

/-- The search asks nothing about characters that are not in the message. -/
theorem spans_congr {opens' closes' : Char → Bool} {cs : List Char}
    (hopens : ∀ c ∈ cs, opens c = opens' c) (hcloses : ∀ c ∈ cs, closes c = closes' c) :
    spans opens closes cs = spans opens' closes' cs := by
  fun_induction spans opens closes cs with
  | case1 => rw [spans_nil]
  | case2 c cs hc text rest hfound ih =>
      obtain ⟨hopen, hopens⟩ := List.forall_mem_cons.mp hopens
      obtain ⟨-, hcloses⟩ := List.forall_mem_cons.mp hcloses
      obtain ⟨e, -, hcs, -⟩ := untilCloser_eq_some_iff.mp hfound
      have hrest : ∀ d ∈ rest, d ∈ cs := fun d hd => by simp [hcs, hd]
      rw [spans_cons_of_some (hopen ▸ hc) (untilCloser_congr hcloses ▸ hfound),
        ih (fun d hd => hopens d (hrest d hd)) fun d hd => hcloses d (hrest d hd)]
  | case3 c cs hc hfound ih =>
      obtain ⟨-, hopens⟩ := List.forall_mem_cons.mp hopens
      obtain ⟨-, hcloses⟩ := List.forall_mem_cons.mp hcloses
      rw [spans_cons_of_none (untilCloser_congr hcloses ▸ hfound), ih hopens hcloses]
  | case4 c cs hc ih =>
      obtain ⟨hopen, hopens⟩ := List.forall_mem_cons.mp hopens
      obtain ⟨-, hcloses⟩ := List.forall_mem_cons.mp hcloses
      rw [spans_cons_of_not_opens (by simpa [hopen] using hc), ih hopens hcloses]

def isQuote (c : Char) : Bool := c == '"'

/-- The pieces of a message that stand between a quote and the next one, if its
quotes are taken in pairs: those with odd numbers, counted from zero, but for
the last piece. -/
def quotedPieces (message : List Char) : List (List Char) :=
  ((List.range (message.count '"')).filter fun i => i % 2 = 1).filterMap fun i =>
    (message.splitOn '"')[i]?

/-- A message has a first pair of quotes, or not even two of them. -/
theorem count_quote_le_or_exists_pair (message : List Char) :
    message.count '"' ≤ 1 ∨ ∃ front text tail,
      message = front ++ '"' :: (text ++ '"' :: tail) ∧ '"' ∉ front ∧ '"' ∉ text := by
  by_cases hfirst : '"' ∈ message
  · obtain ⟨front, rest, rfl, hfront⟩ := List.eq_append_cons_of_mem hfirst
    by_cases hsecond : '"' ∈ rest
    · obtain ⟨text, tail, rfl, htext⟩ := List.eq_append_cons_of_mem hsecond
      exact .inr ⟨front, text, tail, rfl, hfront, htext⟩
    · left
      simp [List.count_eq_zero_of_not_mem hfront, List.count_eq_zero_of_not_mem hsecond]
  · left
    simp [List.count_eq_zero_of_not_mem hfirst]

/-- A message is its first pair of quotes and what follows, down to the last pair. -/
theorem quotePair_induction {motive : List Char → Prop}
    (few : ∀ message, message.count '"' ≤ 1 → motive message)
    (pair : ∀ front text tail, '"' ∉ front → '"' ∉ text → motive tail →
      motive (front ++ '"' :: (text ++ '"' :: tail)))
    (message : List Char) : motive message := by
  induction hlength : message.length using Nat.strongRecOn generalizing message with
  | ind n ih =>
      rcases count_quote_le_or_exists_pair message with
        hcount | ⟨front, text, tail, rfl, hfront, htext⟩
      · exact few message hcount
      · have hlt : tail.length < n := by
          simp only [← hlength, List.length_append, List.length_cons]
          omega
        exact pair front text tail hfront htext (ih tail.length hlt tail rfl)

theorem count_quote_pair {front text : List Char} (hfront : '"' ∉ front) (htext : '"' ∉ text)
    (tail : List Char) :
    (front ++ '"' :: (text ++ '"' :: tail)).count '"' = tail.count '"' + 2 := by
  simp [List.count_eq_zero_of_not_mem hfront, List.count_eq_zero_of_not_mem htext]

theorem quotedPieces_eq_nil {message : List Char} (h : message.count '"' ≤ 1) :
    quotedPieces message = [] := by
  have hcount : message.count '"' = 0 ∨ message.count '"' = 1 := by omega
  rw [quotedPieces]
  rcases hcount with hcount | hcount <;> rw [hcount] <;> rfl

theorem quotedPieces_pair {front text : List Char} (hfront : '"' ∉ front) (htext : '"' ∉ text)
    (tail : List Char) :
    quotedPieces (front ++ '"' :: (text ++ '"' :: tail)) = text :: quotedPieces tail := by
  have hsplit : (front ++ '"' :: (text ++ '"' :: tail)).splitOn '"'
      = front :: text :: tail.splitOn '"' := by
    rw [List.splitOn_append_cons_self_of_not_mem hfront,
      List.splitOn_append_cons_self_of_not_mem htext]
  have hrange (n : Nat) : List.range (n + 2) = 0 :: 1 :: (List.range n).map (· + 2) := by
    rw [List.range_succ_eq_map, List.range_succ_eq_map, List.map_cons, List.map_map]
    rfl
  have hodd (n : Nat) : ((List.range n).map (· + 2)).filter (fun i => i % 2 = 1)
      = ((List.range n).filter fun i => i % 2 = 1).map (· + 2) := by
    rw [List.filter_map]
    simp [Function.comp_def]
  rw [quotedPieces, count_quote_pair hfront htext, hsplit, hrange,
    List.filter_cons_of_neg (by simp), List.filter_cons_of_pos (by simp), hodd,
    List.filterMap_cons, List.filterMap_map]
  rfl

theorem length_quotedPieces (message : List Char) :
    (quotedPieces message).length = message.count '"' / 2 := by
  induction message using quotePair_induction with
  | few message hcount =>
      rw [quotedPieces_eq_nil hcount, List.length_nil]
      omega
  | pair front text tail hfront htext ih =>
      rw [quotedPieces_pair hfront htext, count_quote_pair hfront htext, List.length_cons, ih]
      omega

theorem isQuote_eq_false {cs : List Char} (h : '"' ∉ cs) : ∀ c ∈ cs, isQuote c = false := by
  intro c hc
  rw [isQuote, beq_eq_false_iff_ne]
  exact fun heq => h (heq ▸ hc)

/-- Where only quotes delimit, on one line, what is found are the pieces between
the first two quotes, the next two, and so on. -/
theorem spans_isQuote {message : List Char} (h : '\n' ∉ message) :
    spans isQuote isQuote message = quotedPieces message := by
  induction message using quotePair_induction with
  | few message hcount =>
      -- a span takes two quotes, and there are not as many
      have htwo := @two_mul_length_spans_le isQuote isQuote message
      have hquotes : message.countP (fun c => isQuote c || isQuote c) = message.count '"' := by
        simp only [Bool.or_self]
        rfl
      rw [quotedPieces_eq_nil hcount]
      exact List.eq_nil_of_length_eq_zero (by omega)
  | pair front text tail hfront htext ih =>
      simp only [List.mem_append, List.mem_cons, not_or] at h
      obtain ⟨-, -, hline, -, htail⟩ := h
      have hchunk : (Chunk.mk front '"' text '"').Readable isQuote isQuote := by
        refine ⟨isQuote_eq_false hfront, rfl, fun c hc => ⟨isQuote_eq_false htext c hc, ?_⟩, rfl⟩
        exact fun heq => hline (heq ▸ hc)
      have hfound := spans_written_append hchunk tail
      simp only [Chunk.written, List.append_assoc, List.cons_append, List.nil_append] at hfound
      rw [hfound, ih htail, quotedPieces_pair hfront htext]

namespace Rule

/-- A rule searches a message as if only quotes delimited, if the other
delimiters of it do not occur there. -/
theorem tokens_eq_map_spans_isQuote {rule : Rule} {message brackets : List Char}
    (hrule : ((rule.openers ++ rule.closers).all fun c => c == '"' || brackets.contains c) = true)
    (h : ∀ c ∈ brackets, c ∉ message) :
    rule.tokens message = (spans isQuote isQuote message).map Text.trim := by
  have honly (delimiters : List Char) (hmem : '"' ∈ delimiters)
      (hsub : ∀ c ∈ delimiters, c ∈ rule.openers ++ rule.closers) (c : Char) (hc : c ∈ message) :
      delimiters.contains c = isQuote c := by
    rw [Bool.eq_iff_iff, List.contains_iff_mem, isQuote, beq_iff_eq]
    refine ⟨fun hdelimiter => ?_, fun heq => heq ▸ hmem⟩
    have hc' := List.all_eq_true.mp hrule c (hsub c hdelimiter)
    rw [Bool.or_eq_true, beq_iff_eq, List.contains_iff_mem] at hc'
    exact hc'.resolve_right fun hbracket => h c hbracket hc
  have hopens : ∀ c ∈ message, rule.opens c = isQuote c :=
    honly rule.openers (List.contains_iff_mem.mp rule.opens_quote) fun _ => List.mem_append_left _
  have hcloses : ∀ c ∈ message, rule.closes c = isQuote c :=
    honly rule.closers (List.contains_iff_mem.mp rule.closes_quote) fun _ => List.mem_append_right _
  rw [tokens, spans_congr hopens hcloses]

/-- The two rules that know no delimiter but the quote find on a line the pieces
between its quotes, in turn, and one for every two quotes. The other two rules
find the same in a message, on however many lines, in which their brackets and
the pipe do not occur. -/
theorem tokens_eq_quotedPieces (message : List Char) :
    ('\n' ∉ message → ∀ rule ∈ [Rule.strayText, .unknownAttribute],
      rule.tokens message = (quotedPieces message).map Text.trim ∧
        (rule.tokens message).length = message.count '"' / 2) ∧
    ((∀ c ∈ ['\x7b', '\x7d', '|'], c ∉ message) →
      Rule.badValue.tokens message = Rule.unknownAttribute.tokens message) ∧
    ((∀ c ∈ ['(', ')', '|'], c ∉ message) →
      Rule.misplacedElement.tokens message = Rule.unknownAttribute.tokens message) := by
  have hnone : ∀ c ∈ ([] : List Char), c ∉ message := by simp
  have hunknown : Rule.unknownAttribute.tokens message
      = (spans isQuote isQuote message).map Text.trim :=
    tokens_eq_map_spans_isQuote (by decide) hnone
  refine ⟨fun hline rule hrule => ?_, fun h => ?_, fun h => ?_⟩
  · have htokens : rule.tokens message = (spans isQuote isQuote message).map Text.trim := by
      refine tokens_eq_map_spans_isQuote ?_ hnone
      revert hrule
      cases rule <;> decide
    rw [htokens, spans_isQuote hline, List.length_map, length_quotedPieces]
    exact ⟨rfl, rfl⟩
  · rw [hunknown]
    exact tokens_eq_map_spans_isQuote (by decide) h
  · rw [hunknown]
    exact tokens_eq_map_spans_isQuote (by decide) h

/-- Five quotes, two of them with nothing between them, and on two lines with a
brace between them three quotes and two. -/
theorem tokens_eq_quotedPieces_of_unpaired_quote :
    let line := "a\"\t b \"\x7b\"\"(c\" d".toList
    let message := "a\"\x7b \"c\"\nd\"e \x7d\"".toList
    '\n' ∉ line ∧ (∀ c ∈ ['(', ')', '|'], c ∉ message) ∧
      Rule.unknownAttribute.tokens line = ["b", ""].map String.toList ∧
      Rule.misplacedElement.tokens message = ["\x7b", "e \x7d"].map String.toList := by
  intro line message
  have hline : '\n' ∉ line := by decide
  have hbrackets : ∀ c ∈ ['(', ')', '|'], c ∉ message := by
    simp only [List.forall_mem_cons, List.not_mem_nil, false_implies, implies_true, and_true]
    decide
  obtain ⟨hpieces, -, -⟩ := tokens_eq_quotedPieces line
  obtain ⟨-, -, hsame⟩ := tokens_eq_quotedPieces message
  refine ⟨hline, hbrackets, ?_, (hsame hbrackets).trans (by decide +kernel)⟩
  exact (hpieces hline .unknownAttribute (by decide)).1.trans (by decide +kernel)

end Rule

end MarkupSchema.Diagnostics
