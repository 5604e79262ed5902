import Mathlib.Computability.Language
import MarkupSchema.Decode.Strict
import MarkupSchema.Schema.Fragment

/-!
# What is a tag name

Tag names get into a schema without being escaped, so what is allowed in them is worth
saying without the code that looks for it. It is a language, `[A-Za-z_][A-Za-z0-9._-]*`,
put together from ranges of characters. The code never forms it. It takes the first
character off the text, asks one question about it and another one about all that
follow, and these questions are put to the classes that characters have in the standard
library. That the two agree is a matter of ranges, since those classes hold no letter
and no digit beyond ASCII.

A text outside of the language can be outside for more than one reason, and the code
gives one. Which one it gives is a partition of these texts: the empty text, the texts
that start wrong whatever comes after, and those that start well and go wrong later.

A text may be taken for a tag name as it is or as the text of a value. The check is the
same, so both accept the same texts and say the same about the others.
-/

namespace MarkupSchema.Tag

open scoped Computability
open Decode (DecodeError Value)
open Schema (elementsType)

/-! ## The language -/

/-- The words of one character from a range. -/
def range (first last : Char) : Language Char := {word | ∃ c, first ≤ c ∧ c ≤ last ∧ word = [c]}

/-- The class `[A-Za-z_]`. -/
def initials : Language Char := range 'A' 'Z' + range 'a' 'z' + range '_' '_'

/-- The class `[A-Za-z0-9._-]`. -/
def followers : Language Char :=
  range 'A' 'Z' + range 'a' 'z' + range '0' '9' + range '.' '.' + range '_' '_' + range '-' '-'

/-- The words `[A-Za-z_][A-Za-z0-9._-]*`. -/
def names : Language Char := initials * followers∗

theorem mem_range {first last : Char} {word : List Char} :
    word ∈ range first last ↔ ∃ c, first ≤ c ∧ c ≤ last ∧ word = [c] := Iff.rfl

theorem singleton_mem_range {first last c : Char} :
    [c] ∈ range first last ↔ first ≤ c ∧ c ≤ last := by
  rw [mem_range]
  constructor
  · rintro ⟨d, hfirst, hlast, hword⟩
    cases hword
    exact ⟨hfirst, hlast⟩
  · rintro ⟨hfirst, hlast⟩
    exact ⟨c, hfirst, hlast, rfl⟩

theorem singleton_mem_range_self {a c : Char} : [c] ∈ range a a ↔ c = a := by
  rw [singleton_mem_range]
  constructor
  · rintro ⟨hle, hge⟩
    exact Char.le_antisymm hge hle
  · rintro rfl
    exact ⟨Char.le_refl c, Char.le_refl c⟩

theorem isUpper_iff {c : Char} : c.isUpper = true ↔ [c] ∈ range 'A' 'Z' := by
  rw [singleton_mem_range]
  exact decide_eq_true_iff

theorem isLower_iff {c : Char} : c.isLower = true ↔ [c] ∈ range 'a' 'z' := by
  rw [singleton_mem_range]
  show (decide (c.val ≥ 'a'.val) && decide (c.val ≤ 'z'.val)) = true ↔ _
  rw [Bool.and_eq_true, decide_eq_true_iff, decide_eq_true_iff]
  exact Iff.rfl

theorem isDigit_iff {c : Char} : c.isDigit = true ↔ [c] ∈ range '0' '9' := by
  rw [singleton_mem_range]
  show (decide (c.val ≥ '0'.val) && decide (c.val ≤ '9'.val)) = true ↔ _
  rw [Bool.and_eq_true, decide_eq_true_iff, decide_eq_true_iff]
  exact Iff.rfl

theorem mem_followers_of_mem_initials {word : List Char} (h : word ∈ initials) :
    word ∈ followers := by
  simp only [initials, followers, Language.mem_add] at h ⊢
  tauto

theorem exists_eq_singleton_of_mem_followers {word : List Char} (h : word ∈ followers) :
    ∃ c, word = [c] := by
  simp only [followers, Language.mem_add, mem_range] at h
  grind

theorem isAlpha_iff {c : Char} : c.isAlpha = true ↔ [c] ∈ range 'A' 'Z' + range 'a' 'z' := by
  show (c.isUpper || c.isLower) = true ↔ _
  rw [Bool.or_eq_true, isUpper_iff, isLower_iff, Language.mem_add]

theorem startsName_iff {c : Char} : startsName c = true ↔ [c] ∈ initials := by
  simp only [startsName, initials, Bool.or_eq_true, isAlpha_iff, beq_iff_eq, Language.mem_add,
    singleton_mem_range_self]

theorem continuesName_iff {c : Char} : continuesName c = true ↔ [c] ∈ followers := by
  have halphanum : c.isAlphanum = (c.isAlpha || c.isDigit) := rfl
  rw [continuesName, followers, halphanum]
  simp only [Bool.or_eq_true, beq_iff_eq, Language.mem_add, isAlpha_iff, isDigit_iff,
    singleton_mem_range_self]
  tauto

theorem mem_kstar_followers {word : List Char} :
    word ∈ followers∗ ↔ ∀ c ∈ word, [c] ∈ followers := by
  constructor
  · rintro ⟨parts, rfl, hparts⟩ c hc
    obtain ⟨part, hpart, hin⟩ := List.mem_flatten.mp hc
    obtain ⟨d, rfl⟩ := exists_eq_singleton_of_mem_followers (hparts part hpart)
    rw [List.mem_singleton.mp hin]
    exact hparts [d] hpart
  · intro h
    refine ⟨word.map fun c => [c], ?_, ?_⟩
    · rw [← List.flatMap_def, List.flatMap_singleton']
    · rw [List.forall_mem_map]
      exact h

theorem mem_names_iff {word : List Char} :
    word ∈ names ↔ ∃ c cs, word = c :: cs ∧ [c] ∈ initials ∧ ∀ d ∈ cs, [d] ∈ followers := by
  rw [names, Language.mem_mul]
  constructor
  · rintro ⟨front, hfront, cs, hcs, rfl⟩
    obtain ⟨c, rfl⟩ := exists_eq_singleton_of_mem_followers (mem_followers_of_mem_initials hfront)
    exact ⟨c, cs, rfl, hfront, mem_kstar_followers.mp hcs⟩
  · rintro ⟨c, cs, rfl, hc, hcs⟩
    exact ⟨[c], hc, cs, mem_kstar_followers.mpr hcs, rfl⟩

theorem fault?_eq_none_iff_mem_names {text : String} :
    fault? text = none ↔ text.toList ∈ names := by
  simp only [fault?_eq_none_iff, mem_names_iff, List.all_eq_true, startsName_iff, continuesName_iff]

/-! ## Faults -/

/-- When a text is refused for a fault. -/
def Shows (text : String) : TagFault → Prop
  | .empty => text = ""
  | .badStart => ∃ c cs, text.toList = c :: cs ∧ [c] ∉ initials
  | .badCharacter =>
      ∃ c cs, text.toList = c :: cs ∧ [c] ∈ initials ∧ ∃ d ∈ cs, [d] ∉ followers

theorem mem_names_or_shows (text : String) : text.toList ∈ names ∨ ∃ fault, Shows text fault := by
  rw [mem_names_iff]
  cases htext : text.toList with
  | nil => exact .inr ⟨.empty, String.toList_eq_nil_iff.mp htext⟩
  | cons c cs =>
      by_cases hstart : [c] ∈ initials
      · by_cases hall : ∀ d ∈ cs, [d] ∈ followers
        · exact .inl ⟨c, cs, rfl, hstart, hall⟩
        · push Not at hall
          exact .inr ⟨.badCharacter, c, cs, htext, hstart, hall⟩
      · exact .inr ⟨.badStart, c, cs, htext, hstart⟩

theorem fault?_of_shows {text : String} {fault : TagFault} (h : Shows text fault) :
    fault? text = some fault := by
  cases fault with
  | empty =>
      cases h
      rfl
  | badStart =>
      obtain ⟨c, cs, htext, hstart⟩ := h
      rw [← startsName_iff, Bool.not_eq_true] at hstart
      rw [fault?, htext]
      exact if_pos (by rw [hstart]; rfl)
  | badCharacter =>
      obtain ⟨c, cs, htext, hstart, d, hd, hlater⟩ := h
      rw [← startsName_iff] at hstart
      rw [← continuesName_iff] at hlater
      have hall : cs.all continuesName = false := List.all_eq_false.mpr ⟨d, hd, hlater⟩
      rw [fault?, htext]
      show (if !startsName c then _ else if !cs.all continuesName then _ else _) = _
      rw [hstart, hall]
      rfl

theorem fault?_eq_some_iff {text : String} {fault : TagFault} :
    fault? text = some fault ↔ Shows text fault := by
  constructor
  · intro h
    rcases mem_names_or_shows text with hname | ⟨shown, hshown⟩
    · rw [fault?_eq_none_iff_mem_names.mpr hname] at h
      cases h
    · rw [fault?_of_shows hshown, Option.some.injEq] at h
      rwa [← h]
  · exact fault?_of_shows

theorem ofString_eq_error_iff {text : String} {e : TagError} :
    ofString text = .error e ↔ e.text = text ∧ Shows text e.fault := by
  obtain ⟨refused, fault⟩ := e
  rw [← fault?_eq_some_iff, ofString]
  split
  · next h => simp [h]
  · next found h => simp [h, eq_comm]

theorem reason_inj {a b : TagFault} : a.reason = b.reason ↔ a = b := by
  cases a <;> cases b <;> simp [TagFault.reason]

/-- The faults exclude each other, and their wordings tell which one it is. -/
theorem message_eq_iff {text : String} {fault : TagFault} (h : Shows text fault) (g : TagFault) :
    TagError.message ⟨text, fault⟩ = TagError.message ⟨text, g⟩ ↔ Shows text g := by
  have hmessage : TagError.message ⟨text, fault⟩ = TagError.message ⟨text, g⟩ ↔ fault = g :=
    (String.append_right_inj ("invalid tag name '" ++ text ++ "': ")).trans reason_inj
  rw [hmessage, ← fault?_eq_some_iff, fault?_of_shows h, Option.some.injEq]

/-! ## Readers -/

theorem exists_ofString_iff {text : String} :
    (∃ tag, ofString text = .ok tag) ↔ text.toList ∈ names := by
  rw [← fault?_eq_none_iff_mem_names]
  constructor
  · rintro ⟨tag, htag⟩
    rw [ofString_eq_ok_iff.mp htag]
    exact tag.isName
  · intro h
    exact ⟨⟨text, h⟩, ofString_text ⟨text, h⟩⟩

theorem exists_ofString_error_iff {text : String} :
    (∃ fault, ofString text = .error ⟨text, fault⟩) ↔ text.toList ∉ names := by
  rw [← exists_ofString_iff]
  cases h : ofString text with
  | ok tag => simp
  | error e =>
      obtain ⟨refused, fault⟩ := e
      obtain ⟨rfl, -⟩ := ofString_eq_error_iff.mp h
      simp

/-- The name of a body's type has only followers after the name it begins with. -/
theorem elementsType_mem_names (tag : Tag) : (elementsType tag).toList ∈ names := by
  obtain ⟨c, cs, htext, hstart, hall⟩ :=
    mem_names_iff.mp (fault?_eq_none_iff_mem_names.mp tag.isName)
  refine mem_names_iff.mpr ⟨c, cs ++ "-elements".toList, ?_, hstart, ?_⟩
  · rw [elementsType, String.toList_append, htext, List.cons_append]
  · have hsuffix : "-elements".toList.all continuesName = true := by decide
    rw [List.forall_mem_append]
    exact ⟨hall, fun d hd => continuesName_iff.mp (List.all_eq_true.mp hsuffix d hd)⟩

theorem toTag_text (text : String) :
    (Value.text text).toTag = (ofString text).mapError .tag := rfl

/-- A text is taken for a tag name if and only if it is a word of the language, and it is
kept as it is. What is said of any other text depends on the text alone and not on where
it was read: that it is empty, or that its first character is wrong, or, where the first
is right, that a later one is wrong. The name of a body's type would be a tag name. -/
theorem ofString_iff_mem_names :
    (∀ text : String, text.toList ∈ names ↔
      ∃ tag : Tag, tag.text = text ∧ ofString text = .ok tag ∧
        (Value.text text).toTag = .ok tag) ∧
    (∀ text : String, text.toList ∉ names ↔
      ∃ e : TagError, ofString text = .error e ∧
        (Value.text text).toTag = .error (.tag e) ∧ (DecodeError.tag e).message = e.message ∧
        (e.message = "invalid tag name '" ++ text ++ "': " ++ "tag name must not be empty" ↔
          text = "") ∧
        (e.message = "invalid tag name '" ++ text ++ "': " ++
            "must start with an ASCII letter or underscore" ↔
          ∃ c cs, text.toList = c :: cs ∧ [c] ∉ initials) ∧
        (e.message = "invalid tag name '" ++ text ++ "': " ++
            "may only contain ASCII letters, digits, '-', '_' and '.'" ↔
          ∃ c cs, text.toList = c :: cs ∧ [c] ∈ initials ∧ ∃ d ∈ cs, [d] ∉ followers)) ∧
    ∀ tag : Tag, ∃ tag' : Tag, tag'.text = tag.text ++ "-elements" ∧
      ofString (elementsType tag) = .ok tag' := by
  refine ⟨?_, ?_, ?_⟩
  · intro text
    rw [← exists_ofString_iff]
    refine exists_congr fun tag => ?_
    rw [toTag_text, mapError_eq_ok_iff, ofString_eq_ok_iff]
    tauto
  · intro text
    rw [← exists_ofString_error_iff]
    constructor
    · rintro ⟨fault, hfault⟩
      have hshows := (ofString_eq_error_iff.mp hfault).2
      refine ⟨⟨text, fault⟩, hfault, ?_, rfl, message_eq_iff hshows .empty,
        message_eq_iff hshows .badStart, message_eq_iff hshows .badCharacter⟩
      rw [toTag_text, hfault]
      rfl
    · rintro ⟨e, he, -⟩
      obtain ⟨rfl, -⟩ := ofString_eq_error_iff.mp he
      exact ⟨e.fault, he⟩
  · intro tag
    obtain ⟨tag', htag'⟩ := exists_ofString_iff.mpr (elementsType_mem_names tag)
    exact ⟨tag', (ofString_eq_ok_iff.mp htag').symm, htag'⟩

end MarkupSchema.Tag
