import MarkupSchema.Decode.Source

/-!
# The fields of a component

Of a component's five fields only the tag is needed; the others have values
they take when they are left out. Entries are taken in order under the same
rules as those of a record.
-/

namespace MarkupSchema.Decode

/-- The fields of a component. -/
inductive ComponentField where
  | tag
  | selfClosing
  | ending
  | attributes
  | parents
  deriving DecidableEq, Repr

namespace ComponentField

/-- All fields in the order of their declaration. -/
def all : List ComponentField := [.tag, .selfClosing, .ending, .attributes, .parents]

/-- The name a field is written under. -/
def name : ComponentField → String
  | .tag => "tagName"
  | .selfClosing => "selfClosingTag"
  | .ending => "endingTag"
  | .attributes => "attributes"
  | .parents => "parentTag"

/-- The field with a name. -/
def ofName? (name : String) : Option ComponentField := all.find? fun field => field.name == name

theorem ofName?_eq_some_iff {name : String} {field : ComponentField} :
    ofName? name = some field ↔ field.name = name := by
  constructor
  · intro h
    simpa using List.find?_some h
  · rintro rfl
    cases field <;> decide

end ComponentField

/-- The fields of a component that have been read so far. -/
structure ComponentDraft where
  tag : Option Tag := none
  selfClosing : Option Bool := none
  ending : Option Bool := none
  attributes : Option Attributes := none
  parents : Option (List Tag) := none
  deriving DecidableEq

namespace ComponentDraft

/-- Whether a field has been read. -/
def has (draft : ComponentDraft) : ComponentField → Bool
  | .tag => draft.tag.isSome
  | .selfClosing => draft.selfClosing.isSome
  | .ending => draft.ending.isSome
  | .attributes => draft.attributes.isSome
  | .parents => draft.parents.isSome

variable {Key Node Error : Type}

/-- Reads the value of a field. -/
def read (source : Source Key Node Error) (draft : ComponentDraft) (field : ComponentField)
    (node : Node) : Except Error ComponentDraft :=
  match field with
  | .tag => do return { draft with tag := some (← source.tag node) }
  | .selfClosing => do return { draft with selfClosing := some (← source.bool node) }
  | .ending => do return { draft with ending := some (← source.bool node) }
  | .attributes => do return { draft with attributes := some (← source.attributes node) }
  | .parents => do return { draft with parents := some (← source.tags node) }

/-- Takes in one entry. -/
def take (source : Source Key Node Error) (draft : ComponentDraft) (entry : Key × Node) :
    Except Error ComponentDraft := do
  let name ← source.key entry.1
  match ComponentField.ofName? name with
  | none => throw (source.unknownField name (ComponentField.all.map ComponentField.name))
  | some field =>
      if draft.has field then throw (source.duplicateField name)
      else draft.read source field entry.2

/-- The component, if the tag has been read. -/
def finish (missing : ComponentField → Error) (draft : ComponentDraft) :
    Except Error Component :=
  match draft.tag with
  | none => .error (missing .tag)
  | some tag =>
      .ok {
        tag
        selfClosing := draft.selfClosing.getD false
        ending := draft.ending.getD false
        attributes := draft.attributes.getD .empty
        parents := draft.parents.getD [] }

end ComponentDraft

/-- Reads a component from its entries. -/
def componentOfEntries {Key Node Error : Type} (source : Source Key Node Error)
    (entries : List (Key × Node)) : Except Error Component := do
  let draft ← entries.foldlM (ComponentDraft.take source) {}
  draft.finish fun field => source.missingField field.name

end MarkupSchema.Decode
