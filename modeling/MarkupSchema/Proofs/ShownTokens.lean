import MarkupSchema.Proofs.SpanPlaces
import MarkupSchema.Proofs.TemplateFill

/-!
# Reading the tokens off a shown message

A rule's message shows most of its tokens in quotes, and quotes are delimiters
for every rule. So the rule that filled the message can be asked for the tokens
of the message itself, and this file shows that it answers with what the quotes
hold, in the order of the template.

What makes this more than a reading of the template is what tokens may hold.
No closing character can be in a token, or the token would have ended there,
but an opening one that does not close anything can: a brace stands in a token
as it stands in the message. In quotes it is harmless, since the search looks
for nothing but a closing character there. The message about a bad value also
shows a token outside of quotes, and there a brace could open a span. It opens
none, because nothing behind it closes, neither in the token nor in the words
that end the message.
-/

namespace MarkupSchema.Diagnostics

/-- The places of a template directly after a quote, in its order. -/
def Template.quotedPlaces : Template → List Nat
  | [] => []
  | .words text :: .place k :: rest =>
      if text.toList.getLast? = some '"' then k :: quotedPlaces rest else quotedPlaces rest
  | _ :: rest => quotedPlaces rest

namespace Rule

/-- The places that a rule's message shows in quotes. -/
def quotedPlaces : Rule → List Nat
  | .strayText => [0]
  | .badValue => [0, 3, 1]
  | .unknownAttribute | .misplacedElement => [0, 1]

/-- What stands at a place of a filled template: its token, or the place as it
is written. -/
def shownAt (tokens : List (List Char)) (k : Nat) : List Char := tokens[k]?.getD (placeText k)

theorem quotedPlaces_template (rule : Rule) : rule.template.quotedPlaces = rule.quotedPlaces := by
  cases rule <;> decide

/-! ## A message as a row of chunks -/

/-- A quoted text with the words before it. -/
def quotedChunk (gap : String) (text : List Char) : Chunk := ⟨gap.toList, '"', text, '"'⟩

/-- A rule's message up to its last quote, with a text for each place. -/
def messageChunks (value : Nat → List Char) : Rule → List Chunk
  | .strayText => [quotedChunk "Plain text content inside " (value 0)]
  | .badValue =>
      [quotedChunk "Tag " (value 0), quotedChunk " doesn't support " (value 3),
        quotedChunk " value on " (value 1)]
  | .unknownAttribute =>
      [quotedChunk "Tag " (value 0), quotedChunk " has no attribute " (value 1)]
  | .misplacedElement =>
      [quotedChunk "Tag " (value 0), quotedChunk " is not allowed here, only " (value 1)]

def messageEnding (value : Nat → List Char) : Rule → List Char
  | .strayText => " isn't allowed".toList
  | .badValue => " attribute, only ".toList ++ (value 4 ++ " are accepted".toList)
  | .unknownAttribute => []
  | .misplacedElement => " are accepted".toList

theorem substitute_eq_flatMap_written (rule : Rule) (tokens : List (List Char)) :
    rule.template.substitute tokens =
      (rule.messageChunks (shownAt tokens)).flatMap Chunk.written
        ++ rule.messageEnding (shownAt tokens) := by
  cases rule
  all_goals
    unfold template messageChunks messageEnding
    simp only [Template.substitute_words, Template.substitute_place, Template.substitute_empty,
      Chunk.written, quotedChunk, List.flatMap_cons, List.flatMap_nil, List.append_assoc,
      List.cons_append, List.nil_append, List.append_nil]
    -- what is left is to read the literals
    repeat rw [String.toList_ofList]
    rfl

theorem map_text_messageChunks (rule : Rule) (value : Nat → List Char) :
    (rule.messageChunks value).map Chunk.text = rule.quotedPlaces.map value := by
  cases rule <;> rfl

/-! ## What a place may hold -/

theorem not_closes_of_mem_placeText (rule : Rule) {k : Nat} {c : Char} (h : c ∈ placeText k) :
    rule.closes c = false ∧ c ≠ '\n' := by
  have hclosers : (rule.closers.any Char.isDigit) = false := by cases rule <;> decide
  rcases mem_placeText h with rfl | hdigit
  · cases rule <;> decide
  · refine ⟨Bool.eq_false_iff.mpr fun hcloses => ?_, ?_⟩
    · rw [closes, List.contains_iff_mem] at hcloses
      exact absurd hdigit (List.any_eq_false.mp hclosers c hcloses)
    · rintro rfl
      exact absurd hdigit (by decide)

theorem not_closes_of_mem_shown {rule : Rule} {message : List Char} (k : Nat) :
    ∀ c ∈ shownAt (rule.tokens message) k, rule.closes c = false ∧ c ≠ '\n' := by
  rw [shownAt]
  cases htoken : (rule.tokens message)[k]? with
  | none => exact fun c => rule.not_closes_of_mem_placeText
  | some token => exact (mem_tokens (List.mem_of_getElem? htoken)).1

theorem trim_shown {rule : Rule} {message : List Char} {k : Nat} (h : k ∈ rule.quotedPlaces) :
    Text.trim (shownAt (rule.tokens message) k) = shownAt (rule.tokens message) k := by
  rw [shownAt]
  cases htoken : (rule.tokens message)[k]? with
  | none =>
      have hplaces : ∀ k ∈ rule.quotedPlaces, Text.trim (placeText k) = placeText k := by
        cases rule <;> decide
      exact hplaces k h
  | some token => exact (mem_tokens (List.mem_of_getElem? htoken)).2

theorem readable_messageChunks (rule : Rule) {value : Nat → List Char}
    (h : ∀ k, ∀ c ∈ value k, rule.closes c = false ∧ c ≠ '\n') :
    ∀ chunk ∈ rule.messageChunks value, chunk.Readable rule.opens rule.closes := by
  have hreadable (gap : String) (k : Nat) (hgap : gap.toList.any rule.opens = false) :
      (quotedChunk gap (value k)).Readable rule.opens rule.closes :=
    ⟨fun c hc => Bool.eq_false_iff.mpr (List.any_eq_false.mp hgap c hc), rule.opens_quote, h k,
      rule.closes_quote⟩
  cases rule
  all_goals
    unfold messageChunks
    simp only [List.forall_mem_cons]
    repeat refine ⟨hreadable _ _ (by decide), ?_⟩
    simp

theorem not_closes_of_mem_messageEnding (rule : Rule) {value : Nat → List Char}
    (h : ∀ k, ∀ c ∈ value k, rule.closes c = false ∧ c ≠ '\n') :
    ∀ c ∈ rule.messageEnding value, rule.closes c = false := by
  have hwords : ∀ text ∈ [" isn't allowed", " attribute, only ", " are accepted"],
      text.toList.any rule.closes = false := by
    cases rule <;> decide
  have hclean (text : String) (c : Char) (hc : c ∈ text.toList)
      (hmem : text ∈ [" isn't allowed", " attribute, only ", " are accepted"]) :
      rule.closes c = false :=
    Bool.eq_false_iff.mpr (List.any_eq_false.mp (hwords text hmem) c hc)
  intro c hc
  cases rule with
  | strayText => exact hclean _ c hc (by simp)
  | badValue =>
      rcases List.mem_append.mp hc with hc | hc
      · exact hclean _ c hc (by simp)
      · rcases List.mem_append.mp hc with hc | hc
        · exact (h 4 c hc).1
        · exact hclean _ c hc (by simp)
  | unknownAttribute => cases hc
  | misplacedElement => exact hclean _ c hc (by simp)

/-- A rule finds in its own message what the message shows in quotes: the
tokens it was filled with, in the order of the template, and the written form
of each place that had no token. -/
theorem tokens_phrase_tokens (rule : Rule) (message : List Char)
    (h : ∀ token ∈ rule.tokens message, '$' ∉ token) :
    rule.template.quotedPlaces = rule.quotedPlaces ∧
      rule.tokens (rule.phrase (rule.tokens message)).toList
        = rule.quotedPlaces.map (shownAt (rule.tokens message)) := by
  refine ⟨rule.quotedPlaces_template, ?_⟩
  have hending :
      spans rule.opens rule.closes (rule.messageEnding (shownAt (rule.tokens message))) = [] :=
    spans_eq_nil_of_not_closes (rule.not_closes_of_mem_messageEnding not_closes_of_mem_shown)
  rw [phrase, Template.fill_eq_substitute rule.separated_template
    (Template.unspelled_of_dollar_not_mem h), String.toList_ofList,
    rule.substitute_eq_flatMap_written, tokens,
    spans_flatMap_written_append _ (rule.readable_messageChunks not_closes_of_mem_shown),
    hending, List.append_nil, map_text_messageChunks, List.map_map]
  exact List.map_congr_left fun k hk => trim_shown hk

/-- Five tokens, one of them not shown and one not in quotes, with braces that
close nothing. -/
theorem tokens_phrase_tokens_of_braces :
    let message := "\"a\" \"b\" \"c\" | d \x7b| \x7b e \x7b f \x7d".toList
    (∀ token ∈ Rule.badValue.tokens message, '$' ∉ token) ∧
      Rule.badValue.tokens (Rule.badValue.phrase (Rule.badValue.tokens message)).toList
        = ["a", "d \x7b", "b"].map String.toList := by
  intro message
  have hdollar : ∀ token ∈ Rule.badValue.tokens message, '$' ∉ token := by decide +kernel
  have hread := (Rule.badValue.tokens_phrase_tokens message hdollar).2
  exact ⟨hdollar, hread.trans (by decide +kernel)⟩

end Rule

end MarkupSchema.Diagnostics
