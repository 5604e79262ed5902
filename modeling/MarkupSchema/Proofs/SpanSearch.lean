import MarkupSchema.Diagnostics.Span

/-!
# What the search for spans finds

The search is a scan that resumes wherever its last success or failure left
it, so nothing about its answer can be read off one character. This file says
the same thing without the scan, in the two ways the rest of the proofs need.

Completeness is about positions. A closing character is in reach of a position
when no line feed stands before it, and the search comes back empty exactly
when no opening character has a closing one in reach. One direction needs the
scan to survive its failures: an opening character that closes nothing is
skipped alone, and whatever follows it is searched as if it had not been there.

Soundness is about texts. A message put together from chunks, each of them a
gap without opening characters and one delimited text, is searched into
exactly those texts. That the gaps may hold closing characters and the texts
opening ones is what makes the statement worth having: which of its two roles
a quote plays is decided by where the search stands and by nothing else.
-/

namespace MarkupSchema.Diagnostics

/-! ## Reading up to a closing character -/

/-- A closing character that a text reaches on its first line. -/
def ReachesCloser (closes : Char → Bool) (cs : List Char) (j : Nat) : Prop :=
  (∃ c, cs[j]? = some c ∧ closes c = true) ∧ ∀ k, k < j → cs[k]? ≠ some '\n'

theorem reachesCloser_zero {closes : Char → Bool} {c : Char} {cs : List Char} :
    ReachesCloser closes (c :: cs) 0 ↔ closes c = true := by
  simp [ReachesCloser]

theorem reachesCloser_succ {closes : Char → Bool} {c : Char} {cs : List Char} {j : Nat} :
    ReachesCloser closes (c :: cs) (j + 1) ↔ c ≠ '\n' ∧ ReachesCloser closes cs j := by
  constructor
  · intro h
    obtain ⟨hcloser, hline⟩ := h
    refine ⟨fun hc => hline 0 (Nat.succ_pos j) (by simp [hc]), by simpa using hcloser, ?_⟩
    intro k hk
    simpa using hline (k + 1) (Nat.succ_lt_succ hk)
  · intro h
    obtain ⟨hc, hcloser, hline⟩ := h
    refine ⟨by simpa using hcloser, ?_⟩
    intro k hk
    cases k with
    | zero => simpa using hc
    | succ k => simpa using hline k (Nat.lt_of_succ_lt_succ hk)

theorem untilCloser_eq_none_iff {closes : Char → Bool} {cs : List Char} :
    untilCloser closes cs = none ↔ ∀ j, ¬ ReachesCloser closes cs j := by
  induction cs with
  | nil => simp [untilCloser, ReachesCloser]
  | cons c cs ih =>
      rw [untilCloser]
      split
      · next hc =>
          simp only [reduceCtorEq, false_iff, Classical.not_forall, Classical.not_not]
          exact ⟨0, reachesCloser_zero.mpr hc⟩
      · next hc =>
          split
          · next hline =>
              simp only [true_iff]
              intro j hj
              cases j with
              | zero => exact hc (reachesCloser_zero.mp hj)
              | succ j => exact (reachesCloser_succ.mp hj).1 hline
          · next hline =>
              rw [Option.map_eq_none_iff, ih]
              constructor
              · intro h j hj
                cases j with
                | zero => exact hc (reachesCloser_zero.mp hj)
                | succ j => exact h j (reachesCloser_succ.mp hj).2
              · intro h j hj
                exact h (j + 1) (reachesCloser_succ.mpr ⟨hline, hj⟩)

/-- What is read is the text up to the nearest closing character, and that
text stays on one line. -/
theorem untilCloser_eq_some_iff {closes : Char → Bool} {cs text rest : List Char} :
    untilCloser closes cs = some (text, rest) ↔
      ∃ c, closes c = true ∧ cs = text ++ c :: rest ∧
        ∀ d ∈ text, closes d = false ∧ d ≠ '\n' := by
  induction cs generalizing text with
  | nil => simp [untilCloser]
  | cons c cs ih =>
      rw [untilCloser]
      constructor
      · intro h
        split at h
        · next hc =>
            cases h
            exact ⟨c, hc, rfl, by simp⟩
        · next hc =>
            split at h
            · cases h
            · next hline =>
                rw [Option.map_eq_some_iff] at h
                obtain ⟨⟨text', rest'⟩, hfound, heq⟩ := h
                cases heq
                obtain ⟨e, he, rfl, htext⟩ := ih.mp hfound
                refine ⟨e, he, rfl, ?_⟩
                intro d hd
                rcases List.mem_cons.mp hd with rfl | hmem
                · exact ⟨by simpa using hc, hline⟩
                · exact htext d hmem
      · intro h
        obtain ⟨e, he, heq, htext⟩ := h
        cases text with
        | nil =>
            rw [List.nil_append] at heq
            cases heq
            rw [if_pos he]
        | cons d text =>
            rw [List.cons_append] at heq
            cases heq
            have hd := htext c (List.mem_cons_self)
            rw [if_neg (by simp [hd.1]), if_neg hd.2,
              ih.mpr ⟨e, he, rfl, fun x hx => htext x (List.mem_cons_of_mem _ hx)⟩]
            rfl

theorem untilCloser_append {closes : Char → Bool} {c : Char} {text rest : List Char}
    (hc : closes c = true) (htext : ∀ d ∈ text, closes d = false ∧ d ≠ '\n') :
    untilCloser closes (text ++ c :: rest) = some (text, rest) :=
  untilCloser_eq_some_iff.mpr ⟨c, hc, rfl, htext⟩

/-! ## Nothing found -/

/-- Two positions whose characters could delimit a span: an opening one, and a
closing one after it on the same line. -/
def Delimits (opens closes : Char → Bool) (cs : List Char) (i j : Nat) : Prop :=
  i < j ∧ (∃ o, cs[i]? = some o ∧ opens o = true) ∧
    (∃ c, cs[j]? = some c ∧ closes c = true) ∧ ∀ k, i < k → k < j → cs[k]? ≠ some '\n'

theorem delimits_zero_succ {opens closes : Char → Bool} {c : Char} {cs : List Char} {j : Nat} :
    Delimits opens closes (c :: cs) 0 (j + 1) ↔ opens c = true ∧ ReachesCloser closes cs j := by
  constructor
  · intro h
    obtain ⟨-, hopener, hcloser, hline⟩ := h
    refine ⟨by simpa using hopener, by simpa using hcloser, ?_⟩
    intro k hk
    simpa using hline (k + 1) (Nat.succ_pos k) (Nat.succ_lt_succ hk)
  · intro h
    obtain ⟨hopener, hcloser, hline⟩ := h
    refine ⟨Nat.succ_pos j, by simpa using hopener, by simpa using hcloser, ?_⟩
    intro k hk hkj
    obtain ⟨k, rfl⟩ : ∃ m, k = m + 1 := ⟨k - 1, by omega⟩
    simpa using hline k (Nat.lt_of_succ_lt_succ hkj)

theorem delimits_succ_succ {opens closes : Char → Bool} {c : Char} {cs : List Char} {i j : Nat} :
    Delimits opens closes (c :: cs) (i + 1) (j + 1) ↔ Delimits opens closes cs i j := by
  constructor
  · intro h
    obtain ⟨hlt, hopener, hcloser, hline⟩ := h
    refine ⟨by omega, by simpa using hopener, by simpa using hcloser, ?_⟩
    intro k hik hkj
    simpa using hline (k + 1) (Nat.succ_lt_succ hik) (Nat.succ_lt_succ hkj)
  · intro h
    obtain ⟨hlt, hopener, hcloser, hline⟩ := h
    refine ⟨by omega, by simpa using hopener, by simpa using hcloser, ?_⟩
    intro k hik hkj
    obtain ⟨k, rfl⟩ : ∃ m, k = m + 1 := ⟨k - 1, by omega⟩
    simpa using hline k (by omega) (by omega)

theorem exists_delimits_cons {opens closes : Char → Bool} {c : Char} {cs : List Char} :
    (∃ i j, Delimits opens closes (c :: cs) i j) ↔
      (opens c = true ∧ ∃ j, ReachesCloser closes cs j) ∨
        ∃ i j, Delimits opens closes cs i j := by
  constructor
  · intro h
    obtain ⟨i, j, h⟩ := h
    obtain ⟨j, rfl⟩ : ∃ m, j = m + 1 := ⟨j - 1, by have := h.1; omega⟩
    cases i with
    | zero =>
        obtain ⟨hc, hj⟩ := delimits_zero_succ.mp h
        exact .inl ⟨hc, j, hj⟩
    | succ i => exact .inr ⟨i, j, delimits_succ_succ.mp h⟩
  · intro h
    rcases h with ⟨hc, j, hj⟩ | ⟨i, j, h⟩
    · exact ⟨0, j + 1, delimits_zero_succ.mpr ⟨hc, hj⟩⟩
    · exact ⟨i + 1, j + 1, delimits_succ_succ.mpr h⟩

/-- The search comes back empty exactly when no two positions could delimit a
span. -/
theorem spans_eq_nil_iff {opens closes : Char → Bool} {cs : List Char} :
    spans opens closes cs = [] ↔ ¬ ∃ i j, Delimits opens closes cs i j := by
  induction cs with
  | nil => simp [Delimits]
  | cons c cs ih =>
      rw [exists_delimits_cons]
      by_cases hc : opens c = true
      · cases hfound : untilCloser closes cs with
        | none =>
            have hnone := untilCloser_eq_none_iff.mp hfound
            rw [spans_cons_of_none hfound, ih]
            simp [hnone]
        | some found =>
            have hreach : ∃ j, ReachesCloser closes cs j := by
              refine Classical.not_forall_not.mp fun h => ?_
              rw [untilCloser_eq_none_iff.mpr h] at hfound
              cases hfound
            rw [spans_cons_of_some hc hfound]
            simp [hc, hreach]
      · rw [spans_cons_of_not_opens (by simpa using hc), ih]
        simp [hc]

theorem spans_eq_nil_of_not_closes {opens closes : Char → Bool} {cs : List Char}
    (h : ∀ c ∈ cs, closes c = false) : spans opens closes cs = [] := by
  rw [spans_eq_nil_iff]
  intro hpair
  obtain ⟨i, j, -, -, ⟨c, hc, hcloses⟩, -⟩ := hpair
  rw [h c (List.mem_of_getElem? hc)] at hcloses
  cases hcloses

/-! ## What is in a span -/

theorem mem_spans {opens closes : Char → Bool} {cs text : List Char}
    (h : text ∈ spans opens closes cs) : ∀ d ∈ text, closes d = false ∧ d ≠ '\n' := by
  fun_induction spans opens closes cs with
  | case1 => cases h
  | case2 c cs hc text' rest hfound ih =>
      rcases List.mem_cons.mp h with rfl | hmem
      · obtain ⟨e, -, -, htext⟩ := untilCloser_eq_some_iff.mp hfound
        exact htext
      · exact ih hmem
  | case3 c cs hc hfound ih => exact ih h
  | case4 c cs hc ih => exact ih h

/-! ## Messages put together from chunks -/

/-- One delimited text of a message, with the gap before it. -/
structure Chunk where
  gap : List Char
  opener : Char
  text : List Char
  closer : Char

namespace Chunk

def written (chunk : Chunk) : List Char :=
  chunk.gap ++ chunk.opener :: (chunk.text ++ [chunk.closer])

/-- A chunk in which the search finds the delimited text: nothing in the gap
opens, and nothing in the text closes or ends the line. -/
structure Readable (opens closes : Char → Bool) (chunk : Chunk) : Prop where
  gap : ∀ c ∈ chunk.gap, opens c = false
  opener : opens chunk.opener = true
  text : ∀ c ∈ chunk.text, closes c = false ∧ c ≠ '\n'
  closer : closes chunk.closer = true

instance (opens closes : Char → Bool) (chunk : Chunk) :
    Decidable (chunk.Readable opens closes) :=
  decidable_of_iff ((chunk.gap.all fun c => !opens c) = true ∧ opens chunk.opener = true ∧
      (chunk.text.all fun c => !closes c && c != '\n') = true ∧ closes chunk.closer = true) <| by
    simp only [List.all_eq_true, Bool.and_eq_true, Bool.not_eq_true', bne_iff_ne]
    exact ⟨fun h => ⟨h.1, h.2.1, h.2.2.1, h.2.2.2⟩, fun h => ⟨h.gap, h.opener, h.text, h.closer⟩⟩

end Chunk

theorem spans_append_of_not_opens {opens closes : Char → Bool} {gap cs : List Char}
    (h : ∀ c ∈ gap, opens c = false) :
    spans opens closes (gap ++ cs) = spans opens closes cs := by
  induction gap with
  | nil => rfl
  | cons c gap ih =>
      rw [List.cons_append, spans_cons_of_not_opens (h c List.mem_cons_self)]
      exact ih fun d hd => h d (List.mem_cons_of_mem _ hd)

theorem spans_written_append {opens closes : Char → Bool} {chunk : Chunk}
    (h : chunk.Readable opens closes) (cs : List Char) :
    spans opens closes (chunk.written ++ cs) = chunk.text :: spans opens closes cs := by
  rw [Chunk.written, List.append_assoc, spans_append_of_not_opens h.gap, List.cons_append,
    List.append_assoc, List.singleton_append,
    spans_cons_of_some h.opener (untilCloser_append h.closer h.text)]

theorem spans_flatMap_written_append {opens closes : Char → Bool} {chunks : List Chunk}
    (last : List Char) (h : ∀ chunk ∈ chunks, chunk.Readable opens closes) :
    spans opens closes (chunks.flatMap Chunk.written ++ last)
      = chunks.map Chunk.text ++ spans opens closes last := by
  induction chunks with
  | nil => rfl
  | cons chunk chunks ih =>
      rw [List.flatMap_cons, List.append_assoc,
        spans_written_append (h chunk List.mem_cons_self),
        ih fun k hk => h k (List.mem_cons_of_mem _ hk)]
      rfl

/-- A message made of readable chunks is searched into their texts. -/
theorem spans_flatMap_written {opens closes : Char → Bool} {chunks : List Chunk}
    {last : List Char} (h : ∀ chunk ∈ chunks, chunk.Readable opens closes)
    (hlast : ∀ c ∈ last, opens c = false) :
    spans opens closes (chunks.flatMap Chunk.written ++ last) = chunks.map Chunk.text := by
  have hnothing : spans opens closes last = [] := by
    rw [← List.append_nil last, spans_append_of_not_opens hlast, spans_nil]
  rw [spans_flatMap_written_append last h, hnothing, List.append_nil]

end MarkupSchema.Diagnostics
