import MarkupSchema.Decode.Source
import MarkupSchema.Diagnostics.Record

/-!
# The fields of a record

A record has four fields and needs all of them. The entries are taken in
order, and of each the first thing wrong with it is reported: a name that is
no field, a field that is there already, a value that does not fit. Only
after the last entry is it asked whether a field is missing.
-/

namespace MarkupSchema.Decode

open Diagnostics (Code Record)

/-- The fields of a record. -/
inductive RecordField where
  | line
  | column
  | code
  | message
  deriving DecidableEq, Repr

namespace RecordField

/-- All fields in the order of their declaration. -/
def all : List RecordField := [.line, .column, .code, .message]

/-- The name a field is written under. -/
def name : RecordField → String
  | .line => "line"
  | .column => "column"
  | .code => "code"
  | .message => "message"

/-- The field with a name. -/
def ofName? (name : String) : Option RecordField := all.find? fun field => field.name == name

theorem ofName?_eq_some_iff {name : String} {field : RecordField} :
    ofName? name = some field ↔ field.name = name := by
  constructor
  · intro h
    simpa using List.find?_some h
  · rintro rfl
    cases field <;> decide

end RecordField

/-- The fields of a record that have been read so far. -/
structure RecordDraft where
  line : Option UInt32 := none
  column : Option UInt32 := none
  code : Option Code := none
  message : Option String := none
  deriving DecidableEq

namespace RecordDraft

/-- Whether a field has been read. -/
def has (draft : RecordDraft) : RecordField → Bool
  | .line => draft.line.isSome
  | .column => draft.column.isSome
  | .code => draft.code.isSome
  | .message => draft.message.isSome

variable {Key Node Error : Type}

/-- Reads the value of a field. -/
def read (source : Source Key Node Error) (draft : RecordDraft) (field : RecordField)
    (node : Node) : Except Error RecordDraft :=
  match field with
  | .line => do return { draft with line := some (← source.word node) }
  | .column => do return { draft with column := some (← source.word node) }
  | .code => do return { draft with code := some (← source.code node) }
  | .message => do return { draft with message := some (← source.text node) }

/-- Takes in one entry. -/
def take (source : Source Key Node Error) (draft : RecordDraft) (entry : Key × Node) :
    Except Error RecordDraft := do
  let name ← source.key entry.1
  match RecordField.ofName? name with
  | none => throw (source.unknownField name (RecordField.all.map RecordField.name))
  | some field =>
      if draft.has field then throw (source.duplicateField name)
      else draft.read source field entry.2

/-- The record, if no field is missing; otherwise the error for the first
that is. -/
def finish (missing : RecordField → Error) (draft : RecordDraft) : Except Error Record :=
  match draft.line, draft.column, draft.code, draft.message with
  | none, _, _, _ => .error (missing .line)
  | _, none, _, _ => .error (missing .column)
  | _, _, none, _ => .error (missing .code)
  | _, _, _, none => .error (missing .message)
  | some line, some column, some code, some message => .ok ⟨line, column, code, message⟩

end RecordDraft

/-- Reads a record from its entries. -/
def recordOfEntries {Key Node Error : Type} (source : Source Key Node Error)
    (entries : List (Key × Node)) : Except Error Record := do
  let draft ← entries.foldlM (RecordDraft.take source) {}
  draft.finish fun field => source.missingField field.name

end MarkupSchema.Decode
