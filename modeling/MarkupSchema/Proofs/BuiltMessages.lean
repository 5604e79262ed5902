import MarkupSchema.Proofs.SpanPlaces

/-!
# Messages put together and searched

A message is put together from texts, with two delimiters around each of them
and something between one and the next. Searching it gives the texts back, and
this file says under what conditions and where they are found.

The conditions are one-sided on purpose. A text may hold characters that open,
and what stands between the texts may hold characters that close, line feeds
included: the search looks for one kind of character at a time. A pair of
delimiters need not fit either, and a quote may open one text and close the
next. So the induction is on the row of texts alone, and all it carries is the
position at which the rest of the row begins.

The positions say more than the texts do. A token has lost the blanks around
it, and nothing in a list of tokens tells which characters delimited them or
what stood between. But a row can be cut out of its message again once it is
known where its delimiters are, and the search answers that. So a message is
put together in one way only.
-/

namespace MarkupSchema.Diagnostics

variable {opens closes : Char → Bool} {start : Nat} {chunks others : List Chunk}
  {last other : List Char}

/-- A message made of delimited texts with gaps before them, and an end. -/
def assembled (chunks : List Chunk) (last : List Char) : List Char :=
  chunks.flatMap Chunk.written ++ last

/-- Where the delimiters of a row of chunks are put, if the row begins at `start`. -/
def delimitersFrom (start : Nat) : List Chunk → List (Nat × Nat)
  | [] => []
  | chunk :: chunks =>
      let opener := start + chunk.gap.length
      let closer := opener + 1 + chunk.text.length
      (opener, closer) :: delimitersFrom (closer + 1) chunks

theorem assembled_cons (chunk : Chunk) :
    assembled (chunk :: chunks) last =
      chunk.gap ++ chunk.opener :: (chunk.text ++ chunk.closer :: assembled chunks last) := by
  simp [assembled, Chunk.written]

/-! ## The delimiters are found where they were put -/

theorem placesFrom_append_of_not_opens {gap cs : List Char} (h : ∀ c ∈ gap, opens c = false) :
    placesFrom opens closes start (gap ++ cs)
      = placesFrom opens closes (start + gap.length) cs := by
  induction gap generalizing start with
  | nil => rfl
  | cons c gap ih =>
      have hlength : start + 1 + gap.length = start + (c :: gap).length := by
        rw [List.length_cons]
        omega
      rw [List.cons_append, placesFrom_cons_of_not_opens (h c List.mem_cons_self),
        ih fun d hd => h d (List.mem_cons_of_mem _ hd), hlength]

theorem placesFrom_assembled (h : ∀ chunk ∈ chunks, chunk.Readable opens closes)
    (hlast : ∀ c ∈ last, opens c = false) :
    placesFrom opens closes start (assembled chunks last) = delimitersFrom start chunks := by
  induction chunks generalizing start with
  | nil =>
      show placesFrom opens closes start last = []
      rw [← List.append_nil last, placesFrom_append_of_not_opens hlast, placesFrom]
  | cons chunk chunks ih =>
      obtain ⟨hchunk, hchunks⟩ := List.forall_mem_cons.mp h
      rw [assembled_cons, placesFrom_append_of_not_opens hchunk.gap,
        placesFrom_cons_of_some hchunk.opener (untilCloser_append hchunk.closer hchunk.text),
        ih hchunks]
      rfl

/-! ## Taking a message apart -/

/-- Two rows that put the same message together, with their delimiters at the
same positions, are the same row. -/
theorem assembled_inj (hplaces : delimitersFrom start chunks = delimitersFrom start others)
    (h : assembled chunks last = assembled others other) : chunks = others ∧ last = other := by
  induction chunks generalizing start others with
  | nil =>
      cases others with
      | nil => exact ⟨rfl, h⟩
      | cons chunk others => cases hplaces
  | cons chunk chunks ih =>
      cases others with
      | nil => cases hplaces
      | cons chunk' others =>
          simp only [delimitersFrom, List.cons.injEq, Prod.mk.injEq] at hplaces
          obtain ⟨⟨hopener, hcloser⟩, hrest⟩ := hplaces
          rw [assembled_cons, assembled_cons] at h
          -- equal positions make the parts equally long, so they can be compared one by one
          obtain ⟨hgap, h⟩ := List.append_inj h (by omega)
          obtain ⟨ho, h⟩ := List.cons.inj h
          obtain ⟨htext, h⟩ := List.append_inj h (by omega)
          obtain ⟨hc, h⟩ := List.cons.inj h
          have hchunk : chunk = chunk' := by
            cases chunk
            cases chunk'
            rw [Chunk.mk.injEq]
            exact ⟨hgap, ho, htext, hc⟩
          obtain ⟨hchunks, hlast⟩ := ih (hcloser ▸ hrest) h
          exact ⟨by rw [hchunk, hchunks], hlast⟩

namespace Rule

/-- A message put together from texts that hold nothing that closes, with
nothing that opens between them, has exactly these texts for tokens, trimmed.
Each of them is found where it was put, and no other row of texts, delimiters
and gaps of this kind gives the same message. -/
theorem tokens_assembled (rule : Rule) (chunks : List Chunk) (last : List Char)
    (h : ∀ chunk ∈ chunks, chunk.Readable rule.opens rule.closes)
    (hlast : ∀ c ∈ last, rule.opens c = false) :
    rule.tokens (assembled chunks last) = chunks.map (fun chunk => Text.trim chunk.text) ∧
      rule.places (assembled chunks last) = delimitersFrom 0 chunks ∧
      ∀ others other, (∀ chunk ∈ others, chunk.Readable rule.opens rule.closes) →
        (∀ c ∈ other, rule.opens c = false) →
        assembled chunks last = assembled others other → chunks = others ∧ last = other := by
  refine ⟨?_, placesFrom_assembled h hlast, ?_⟩
  · rw [tokens, assembled, spans_flatMap_written h hlast, List.map_map]
    rfl
  · intro others other hothers hother hsame
    have hplaces : delimitersFrom 0 chunks = delimitersFrom 0 others := by
      rw [← placesFrom_assembled h hlast, ← placesFrom_assembled hothers hother, hsame]
    exact assembled_inj hplaces hsame

/-- Delimiters that do not fit, a brace in a text, an empty text, and braces
that close nothing in front of a line feed and behind one. -/
theorem tokens_assembled_of_stray_braces :
    let chunks : List Chunk :=
      [⟨"a\x7d\n".toList, '\x7b', " \x7b b\t".toList, '|'⟩, ⟨[], '"', [], '\x7d'⟩,
        ⟨"\n\x7d".toList, '|', "c".toList, '"'⟩]
    (∀ chunk ∈ chunks, chunk.Readable Rule.badValue.opens Rule.badValue.closes) ∧
      (∀ c ∈ "\x7d\n".toList, Rule.badValue.opens c = false) ∧
      Rule.badValue.tokens "a\x7d\n\x7b \x7b b\t|\"\x7d\n\x7d|c\"\x7d\n".toList
        = ["\x7b b", "", "c"].map String.toList := by
  intro chunks
  have hreadable : ∀ chunk ∈ chunks,
      chunk.Readable Rule.badValue.opens Rule.badValue.closes := by decide
  have hlast : ∀ c ∈ "\x7d\n".toList, Rule.badValue.opens c = false := by
    simp [Rule.opens, Rule.openers]
  obtain ⟨htokens, -⟩ := Rule.badValue.tokens_assembled chunks "\x7d\n".toList hreadable hlast
  exact ⟨hreadable, hlast, htokens.trans (by decide)⟩

end Rule

end MarkupSchema.Diagnostics
