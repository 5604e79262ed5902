/-!
# Tag names

A tag name stands unescaped inside attribute values of the generated schema,
so it is confined to the ASCII part of the XML names: a letter or an
underscore, then letters, digits, hyphens, underscores and full stops. The
type carries that fact. The only way in is `Tag.ofString`, and what it
refuses it refuses for the first of three reasons that applies.
-/

namespace MarkupSchema

/-- Why a text is no tag name. -/
inductive TagFault where
  | empty
  | badStart
  | badCharacter
  deriving DecidableEq, Repr

/-- The wording of a fault. -/
def TagFault.reason : TagFault → String
  | .empty => "tag name must not be empty"
  | .badStart => "must start with an ASCII letter or underscore"
  | .badCharacter => "may only contain ASCII letters, digits, '-', '_' and '.'"

/-- A text refused as a tag name. -/
structure TagError where
  text : String
  fault : TagFault
  deriving DecidableEq, Repr

/-- The refused text stands between single quotes just as it was given. -/
def TagError.message (e : TagError) : String :=
  "invalid tag name '" ++ e.text ++ "': " ++ e.fault.reason

/-- The characters a tag name may start with. -/
def Tag.startsName (c : Char) : Bool := c.isAlpha || c == '_'

/-- The characters a tag name may go on with. -/
def Tag.continuesName (c : Char) : Bool :=
  c.isAlphanum || c == '-' || c == '_' || c == '.'

/-- What is wrong with a text as a tag name, if anything is. -/
def Tag.fault? (text : String) : Option TagFault :=
  match text.toList with
  | [] => some .empty
  | c :: cs =>
      if !Tag.startsName c then some .badStart
      else if !cs.all Tag.continuesName then some .badCharacter
      else none

/-- A tag name. -/
structure Tag where
  text : String
  isName : Tag.fault? text = none
  deriving DecidableEq

namespace Tag

/-- Reads a tag name, keeping the text as it is. -/
def ofString (text : String) : Except TagError Tag :=
  match h : fault? text with
  | none => .ok ⟨text, h⟩
  | some fault => .error ⟨text, fault⟩

/-- Tag names are ordered by their characters. They are ASCII, so that is
also the order of their bytes. -/
instance : Ord Tag where
  compare a b := compare a.text b.text

/-- Tag names in ascending order, repeats kept. -/
def sort (tags : List Tag) : List Tag := tags.mergeSort fun a b => (compare a b).isLE

/-- Each tag name once, where it first occurs. -/
def distinct (tags : List Tag) : List Tag := tags.eraseDups

theorem ext {a b : Tag} (h : a.text = b.text) : a = b := by
  cases a
  cases b
  simp_all

theorem fault?_eq_none_iff {text : String} : fault? text = none ↔
    ∃ c cs, text.toList = c :: cs ∧ startsName c = true ∧ cs.all continuesName = true := by
  rw [fault?]
  split
  · next hnil => simp [hnil]
  · next c cs hcons =>
      constructor
      · intro h
        split at h
        · cases h
        · next hstart =>
            split at h
            · cases h
            · next hall =>
                exact ⟨c, cs, hcons, by simpa using hstart, by simpa using hall⟩
      · rintro ⟨c', cs', htext, hstart, hall⟩
        cases hcons.symm.trans htext
        rw [hstart, hall]
        rfl

theorem continuesName_of_startsName {c : Char} (h : startsName c = true) :
    continuesName c = true := by
  rw [startsName, Bool.or_eq_true] at h
  rcases h with h | h <;> simp [continuesName, Char.isAlphanum, h]

/-- Past its first character a name asks less than at it. -/
theorem continuesName_of_fault?_eq_none {text : String} (h : fault? text = none) :
    ∀ c ∈ text.toList, continuesName c = true := by
  obtain ⟨c, cs, htext, hstart, hall⟩ := fault?_eq_none_iff.mp h
  rw [htext, List.forall_mem_cons]
  exact ⟨continuesName_of_startsName hstart, List.all_eq_true.mp hall⟩

theorem lineFeed_not_mem_text (tag : Tag) : '\n' ∉ tag.text.toList := fun h =>
  absurd (continuesName_of_fault?_eq_none tag.isName '\n' h) (by decide)

/-- A tag name reads back as itself. -/
@[simp] theorem ofString_text (tag : Tag) : ofString tag.text = .ok tag := by
  unfold ofString
  split
  · rfl
  · next fault h => rw [tag.isName] at h; cases h

theorem ofString_eq_ok_iff {text : String} {tag : Tag} :
    ofString text = .ok tag ↔ text = tag.text := by
  constructor
  · intro h
    rw [ofString] at h
    split at h
    · cases h; rfl
    · cases h
  · rintro rfl
    exact ofString_text tag

end Tag

end MarkupSchema
