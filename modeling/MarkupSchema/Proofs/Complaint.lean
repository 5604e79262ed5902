import MarkupSchema.Proofs.Rephrasing

/-!
# The validator's sentences

For each rule the validator has one sentence that the rule was made for, with
the names of the checked document put into it. A complaint is such a sentence
before it is written: which one it is, and the names. `message` writes it the
validator's way and `shown` the way it is to be read, and the theorem is that
a record with the one is shown as the other.

The names are arbitrary texts on one line, with blanks around them or even
nothing else, as long as they hold no delimiter and no dollar sign. What they
may hold is the point: a name is trimmed, searched again by each later token
and put among tokens nobody asked for. The sentence about a bad value has a
token between the third and the fifth that no place is for, and the sentence
about an unknown attribute ends in a third token that repeats the second.
-/

namespace MarkupSchema.Diagnostics

/-- A sentence of the validator, with the names in it. -/
inductive Complaint where
  | strayText (tag : String)
  | badValue (tag attr value accepted : String)
  | unknownAttribute (tag attr : String)
  | misplacedElement (tag accepted : String)
  deriving DecidableEq, Repr

/-- The characters with a meaning of their own in a sentence or a template. -/
def markers : List Char :=
  ['\x27', '"', '\x7b', '\x7d', '(', ')', '|', '$', '\n']

/-- A text that is read as it stands wherever a name may be. -/
def Plain (text : List Char) : Prop := ∀ c ∈ text, c ∉ markers

instance (text : List Char) : Decidable (Plain text) :=
  List.decidableBAll (fun c => c ∉ markers) text

def trimmed (name : String) : String := String.ofList (Text.trim name.toList)

namespace Complaint

def code : Complaint → String
  | .strayText .. => "1843"
  | .badValue .. => "1840"
  | .unknownAttribute .. => "1866"
  | .misplacedElement .. => "1871"

def rule : Complaint → Rule
  | .strayText .. => .strayText
  | .badValue .. => .badValue
  | .unknownAttribute .. => .unknownAttribute
  | .misplacedElement .. => .misplacedElement

def names : Complaint → List String
  | .strayText tag => [tag]
  | .badValue tag attr value accepted => [tag, attr, value, accepted]
  | .unknownAttribute tag attr => [tag, attr]
  | .misplacedElement tag accepted => [tag, accepted]

/-- The sentence as the validator writes it. -/
def message : Complaint → String
  | .strayText tag =>
      "Element '" ++ tag ++ "': Character content other than whitespace is not allowed " ++
        "because the content type is 'element-only'."
  | .badValue tag attr value accepted =>
      "Element '" ++ tag ++ "', attribute '" ++ attr ++
        "': [facet 'enumeration'] The value '" ++ value ++
        "' is not an element of the set \x7b" ++ accepted ++ "\x7d."
  | .unknownAttribute tag attr =>
      "Element '" ++ tag ++ "', attribute '" ++ attr ++ "': The attribute '" ++
        attr ++ "' is not allowed."
  | .misplacedElement tag accepted =>
      "Element '" ++ tag ++ "': This element is not expected. Expected is one of ( " ++
        accepted ++ " )."

/-- The sentence as it is shown. -/
def shown : Complaint → String
  | .strayText tag =>
      "Plain text content inside \"" ++ trimmed tag ++ "\" isn't allowed"
  | .badValue tag attr value accepted =>
      "Tag \"" ++ trimmed tag ++ "\" doesn't support \"" ++ trimmed value ++
        "\" value on \"" ++ trimmed attr ++ "\" attribute, only " ++ trimmed accepted ++
        " are accepted"
  | .unknownAttribute tag attr =>
      "Tag \"" ++ trimmed tag ++ "\" has no attribute \"" ++ trimmed attr ++ "\""
  | .misplacedElement tag accepted =>
      "Tag \"" ++ trimmed tag ++ "\" is not allowed here, only \"" ++ trimmed accepted ++
        "\" are accepted"

/-! ## The sentence as a row of chunks -/

def quoted (gap text : String) : Chunk := ⟨gap.toList, '"', text.toList, '"'⟩

/-- The sentence with its quotes made double, up to its last delimiter. -/
def chunks : Complaint → List Chunk
  | .strayText tag =>
      [quoted "Element " tag,
        quoted (": Character content other than whitespace is not allowed " ++
          "because the content type is ") "element-only"]
  | .badValue tag attr value accepted =>
      [quoted "Element " tag, quoted ", attribute " attr,
        quoted ": [facet " "enumeration", quoted "] The value " value,
        ⟨" is not an element of the set ".toList, '\x7b', accepted.toList, '\x7d'⟩]
  | .unknownAttribute tag attr =>
      [quoted "Element " tag, quoted ", attribute " attr,
        quoted ": The attribute " attr]
  | .misplacedElement tag accepted =>
      [quoted "Element " tag,
        ⟨": This element is not expected. Expected is one of ".toList, '(',
          ' ' :: (accepted.toList ++ [' ']), ')'⟩]

def ending : Complaint → String
  | .unknownAttribute .. => " is not allowed."
  | .strayText .. | .badValue .. | .misplacedElement .. => "."

end Complaint

theorem map_doubleQuote_of_plain {text : List Char} (h : Plain text) :
    text.map doubleQuote = text := by
  conv => rhs; rw [← List.map_id text]
  refine List.map_congr_left fun c hc => ?_
  have hne : c ≠ '\x27' := fun heq => h c hc (heq ▸ List.mem_cons_self)
  rw [doubleQuote, if_neg hne, id_eq]

/-- Outside the markers no character delimits anything, and none ends a line. -/
theorem Rule.not_delimiter_of_not_mem_markers (rule : Rule) {c : Char} (h : c ∉ markers) :
    rule.opens c = false ∧ rule.closes c = false ∧ c ≠ '\n' := by
  have hopeners : ∀ d ∈ rule.openers, d ∈ markers := by
    cases rule <;> simp [Rule.openers, markers]
  have hclosers : ∀ d ∈ rule.closers, d ∈ markers := by
    cases rule <;> simp [Rule.closers, markers]
  refine ⟨?_, ?_, fun heq => h (heq ▸ by decide)⟩
  · rw [Rule.opens, List.contains_eq_mem, decide_eq_false_iff_not]
    exact fun hc => h (hopeners c hc)
  · rw [Rule.closes, List.contains_eq_mem, decide_eq_false_iff_not]
    exact fun hc => h (hclosers c hc)

namespace Complaint

theorem normalized_message {c : Complaint} (h : ∀ name ∈ c.names, Plain name.toList) :
    c.message.toList.map doubleQuote = c.chunks.flatMap Chunk.written ++ c.ending.toList := by
  have hname : ∀ name ∈ c.names, name.toList.map doubleQuote = name.toList :=
    fun name hmem => map_doubleQuote_of_plain (h name hmem)
  cases c
  all_goals
    unfold names at hname
    unfold message chunks ending
    simp only [List.forall_mem_cons] at hname
    simp only [String.toList_append, List.map_append, hname]
    simp only [Chunk.written, quoted, List.flatMap_cons, List.flatMap_nil, List.append_assoc,
      List.cons_append, List.nil_append]
    -- what is left is to read the literals
    repeat rw [String.toList_ofList]
    rfl

/-! ## What is found and what is shown -/

theorem delimiters_chunks (c : Complaint) : ∀ chunk ∈ c.chunks,
    c.rule.opens chunk.opener = true ∧ c.rule.closes chunk.closer = true := by
  cases c
  all_goals
    unfold chunks rule
    simp only [List.forall_mem_cons, quoted]
    decide

theorem plain_gap (c : Complaint) : ∀ chunk ∈ c.chunks, Plain chunk.gap := by
  cases c
  all_goals
    unfold chunks
    simp only [List.forall_mem_cons, quoted]
    repeat rw [String.toList_ofList]
    decide

theorem plain_ending (c : Complaint) : Plain c.ending.toList := by
  cases c
  all_goals
    unfold ending
    rw [String.toList_ofList]
    decide

theorem plain_text {c : Complaint} (h : ∀ name ∈ c.names, Plain name.toList) :
    ∀ chunk ∈ c.chunks, Plain chunk.text := by
  cases c
  all_goals
    unfold names at h
    unfold chunks
    simp only [List.forall_mem_cons] at h
    simp only [List.forall_mem_cons, quoted]
  case strayText =>
    obtain ⟨htag, -⟩ := h
    exact ⟨htag, by decide, by simp⟩
  case badValue =>
    obtain ⟨htag, hattr, hvalue, haccepted, -⟩ := h
    exact ⟨htag, hattr, by decide, hvalue, haccepted, by simp⟩
  case unknownAttribute =>
    obtain ⟨htag, hattr, -⟩ := h
    exact ⟨htag, hattr, hattr, by simp⟩
  case misplacedElement =>
    obtain ⟨htag, haccepted, -⟩ := h
    refine ⟨htag, ?_, by simp⟩
    intro ch hch
    rcases List.mem_cons.mp hch with rfl | hch
    · decide
    · rcases List.mem_append.mp hch with hch | hch
      · exact haccepted ch hch
      · rw [List.mem_singleton.mp hch]
        decide

theorem readable_chunks {c : Complaint} (h : ∀ name ∈ c.names, Plain name.toList) :
    ∀ chunk ∈ c.chunks, chunk.Readable c.rule.opens c.rule.closes := by
  intro chunk hmem
  have hdelimiters := c.delimiters_chunks chunk hmem
  refine ⟨?_, hdelimiters.1, ?_, hdelimiters.2⟩
  · exact fun ch hch => (c.rule.not_delimiter_of_not_mem_markers (c.plain_gap chunk hmem ch hch)).1
  · exact fun ch hch => (c.rule.not_delimiter_of_not_mem_markers (plain_text h chunk hmem ch hch)).2

/-- The tokens of a sentence, the unwanted ones included. -/
theorem tokens_message {c : Complaint} (h : ∀ name ∈ c.names, Plain name.toList) :
    c.rule.tokens (c.message.toList.map doubleQuote)
      = c.chunks.map fun chunk => Text.trim chunk.text := by
  have hending : ∀ ch ∈ c.ending.toList, c.rule.opens ch = false :=
    fun ch hch => (c.rule.not_delimiter_of_not_mem_markers (c.plain_ending ch hch)).1
  rw [Rule.tokens, normalized_message h, spans_flatMap_written (readable_chunks h) hending,
    List.map_map]
  rfl

/-- The tokens put into the template. A token nobody asked for has no place
there, and the blanks around a listed name are gone. -/
theorem phrase_chunks {c : Complaint} (h : ∀ name ∈ c.names, Plain name.toList) :
    c.rule.phrase (c.chunks.map fun chunk => Text.trim chunk.text) = c.shown := by
  have hdollar : ∀ t ∈ c.chunks.map fun chunk => Text.trim chunk.text, '$' ∉ t := by
    intro t ht hmem
    obtain ⟨chunk, hchunk, rfl⟩ := List.mem_map.mp ht
    exact plain_text h chunk hchunk '$' (Text.mem_trim hmem) (by decide)
  have hblank : ∀ c ∈ [' '], Text.isBlank c = true := by
    intro c hc
    rw [List.mem_singleton.mp hc]
    decide
  have hspaces (name : List Char) : Text.trim (' ' :: (name ++ [' '])) = Text.trim name :=
    Text.trim_append hblank hblank
  rw [Rule.phrase, Template.fill_eq_substitute c.rule.separated_template
    (Template.unspelled_of_dollar_not_mem hdollar), ← String.toList_inj, String.toList_ofList]
  cases c
  all_goals
    unfold rule chunks shown Rule.template
    simp only [Template.substitute_words, Template.substitute_place, Template.substitute_empty,
      List.map_cons, List.map_nil, List.getElem?_cons_zero, List.getElem?_cons_succ,
      Option.getD_some, quoted, trimmed, String.toList_append, String.toList_ofList,
      List.append_assoc, List.append_nil, hspaces]

theorem code_rule (c : Complaint) : c.rule.code = c.code := by
  cases c <;> rfl

theorem chunks_ne_nil (c : Complaint) : c.chunks ≠ [] := by
  cases c <;> exact List.cons_ne_nil _ _

end Complaint

/-- A record with one of the validator's sentences is shown at its place by the
sentence meant for readers, whatever plain names the sentence holds. -/
theorem diagnostic_of_complaint (c : Complaint) (h : ∀ name ∈ c.names, Plain name.toList)
    (r : Record) (hcode : r.code.text = c.code) (hmessage : r.message = c.message) :
    r.diagnostic = ⟨r.line, r.column, c.shown⟩ := by
  have hphrasing : r.phrasing =
      .rephrased c.rule (c.chunks.map fun chunk => Text.trim chunk.text) := by
    refine Record.phrasing_eq_rephrased_iff.mpr ⟨c.code_rule.trans hcode.symm, ?_, ?_⟩
    · rw [Record.normalized, hmessage, Complaint.tokens_message h]
    · exact fun hnil => c.chunks_ne_nil (List.map_eq_nil_iff.mp hnil)
  rw [Record.diagnostic, hphrasing]
  exact congrArg (Diagnostic.mk r.line r.column) (Complaint.phrase_chunks h)

/-- Names with blanks around them, a blank name and a list of names. -/
theorem diagnostic_of_badValue_complaint :
    (⟨12, 7, ⟨"1840", by decide⟩, "Element ' mj-column\t', attribute '\u3000': " ++
      "[facet 'enumeration'] The value '5 px' is not an element of the set \x7b a, b: c \x7d."⟩ :
        Record).diagnostic =
      ⟨12, 7, "Tag \"mj-column\" doesn't support \"5 px\" value on \"\" attribute, " ++
        "only a, b: c are accepted"⟩ :=
  (diagnostic_of_complaint (.badValue " mj-column\t" "\u3000" "5 px" " a, b: c ") (by decide)
    _ rfl (by decide +kernel)).trans (by decide +kernel)

end MarkupSchema.Diagnostics
