/-!
# Delimited spans

A span of a message opens with one of a set of opening characters and runs
to the nearest closing character on the same line. Spans are found from the
left, and the search goes on directly after the closing character of the
last one, so spans never overlap and a character that has closed one span
opens no other.

An opening character that finds no closing character on its line opens
nothing; the search then goes on with the character after it. The text of a
span is what stands between its two delimiters, which may be nothing.
-/

namespace MarkupSchema.Diagnostics

/-- Reads up to the nearest closing character, if no line feed comes before
it: the text before it and the rest after it. -/
def untilCloser (closes : Char → Bool) : List Char → Option (List Char × List Char)
  | [] => none
  | c :: cs =>
      if closes c then some ([], cs)
      else if c = '\n' then none
      else (untilCloser closes cs).map fun found => (c :: found.1, found.2)

theorem length_rest_lt {closes : Char → Bool} {cs text rest : List Char}
    (h : untilCloser closes cs = some (text, rest)) : rest.length < cs.length := by
  induction cs generalizing text with
  | nil => simp [untilCloser] at h
  | cons c cs ih =>
      rw [untilCloser] at h
      split at h
      · cases h
        exact Nat.lt_succ_self _
      · split at h
        · cases h
        · rw [Option.map_eq_some_iff] at h
          obtain ⟨⟨text', rest'⟩, hfound, heq⟩ := h
          cases heq
          exact Nat.lt_succ_of_lt (ih hfound)

/-- The texts of all spans of a message, from left to right. -/
def spans (opens closes : Char → Bool) : List Char → List (List Char)
  | [] => []
  | c :: cs =>
      if opens c then
        match _ : untilCloser closes cs with
        | some (text, rest) => text :: spans opens closes rest
        | none => spans opens closes cs
      else spans opens closes cs
termination_by cs => cs.length
decreasing_by
  · exact Nat.lt_succ_of_lt (length_rest_lt ‹_›)
  · exact Nat.lt_succ_self _
  · exact Nat.lt_succ_self _

/-! ## One equation for each way the search goes on -/

@[simp] theorem spans_nil {opens closes : Char → Bool} : spans opens closes [] = [] := by
  rw [spans]

theorem spans_cons_of_not_opens {opens closes : Char → Bool} {c : Char} {cs : List Char}
    (h : opens c = false) : spans opens closes (c :: cs) = spans opens closes cs := by
  rw [spans]
  simp [h]

theorem spans_cons_of_none {opens closes : Char → Bool} {c : Char} {cs : List Char}
    (h : untilCloser closes cs = none) : spans opens closes (c :: cs) = spans opens closes cs := by
  rw [spans]
  split
  · split
    · next text rest hsome => rw [h] at hsome; cases hsome
    · rfl
  · rfl

theorem spans_cons_of_some {opens closes : Char → Bool} {c : Char} {cs text rest : List Char}
    (hc : opens c = true) (h : untilCloser closes cs = some (text, rest)) :
    spans opens closes (c :: cs) = text :: spans opens closes rest := by
  rw [spans]
  simp only [hc, if_true]
  split
  · next text' rest' hsome => rw [h] at hsome; cases hsome; rfl
  · next hnone => rw [h] at hnone; cases hnone

end MarkupSchema.Diagnostics
