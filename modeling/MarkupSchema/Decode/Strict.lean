import MarkupSchema.Decode.Component
import MarkupSchema.Decode.Record
import MarkupSchema.Decode.Value

/-!
# Reading self-describing values

Every kind of thing is read from the kinds of value that can hold it and from
no other. A record or a component may also be a list of its fields in the
order of their declaration. Such a list is read from the left, so a value
that does not fit is reported before a length that does not.
-/

namespace MarkupSchema.Decode

open Diagnostics (Code Record)

namespace Value

/-- Reads a text. -/
def toText : Value → Except DecodeError String
  | .text value => .ok value
  | found => .error (.wrongKind found .text)

/-- Reads a truth value. -/
def toBool : Value → Except DecodeError Bool
  | .bool value => .ok value
  | found => .error (.wrongKind found .bool)

/-- Reads an integer as a 32-bit word. -/
def wordOfInt (value : Int) : Except DecodeError UInt32 :=
  if 0 ≤ value ∧ value.toNat < UInt32.size then .ok (UInt32.ofNat value.toNat)
  else .error (.outOfRange value)

/-- Reads a 32-bit word. -/
def toWord : Value → Except DecodeError UInt32
  | .natural value => wordOfInt value.toNat
  | .integer value => wordOfInt value.toInt
  | found => .error (.wrongKind found .word)

/-- Reads a validator code, from its text or from a number. -/
def toCode : Value → Except DecodeError Code
  | .text value => (Code.ofString value).mapError .code
  | .natural value => .ok (Code.ofNat value.toNat)
  | .integer value => (Code.ofInt value.toInt).mapError .code
  | found => .error (.wrongKind found .code)

/-- Reads a tag name. -/
def toTag (value : Value) : Except DecodeError Tag := do
  (Tag.ofString (← value.toText)).mapError .tag

/-- Reads a list of tag names. -/
def toTags : Value → Except DecodeError (List Tag)
  | .list items => items.mapM toTag
  | found => .error (.wrongKind found .list)

/-- Reads an attribute table. -/
def toAttributes : Value → Except DecodeError Attributes
  | .map entries =>
      entries.foldlM (fun table entry => do return table.insert entry.1 (← entry.2.toText)) .empty
  | found => .error (.wrongKind found .map)

/-- Self-describing values as a source of fields. -/
def source : Source String Value DecodeError where
  key := .ok
  text := toText
  bool := toBool
  word := toWord
  code := toCode
  tag := toTag
  tags := toTags
  attributes := toAttributes
  missingField := .missingField
  duplicateField := .duplicateField
  unknownField := .unknownField

/-- Reads the fields of a list in order, as many as there are values for. -/
def inOrder {Field Draft : Type} (read : Draft → Field → Value → Except DecodeError Draft)
    (fields : List Field) (items : List Value) (start : Draft) : Except DecodeError Draft :=
  (fields.zip items).foldlM (fun draft pair => read draft pair.1 pair.2) start

/-- Refuses a list that goes on after its fields. -/
def checkLength (items : List Value) (fields : Nat) : Except DecodeError Unit :=
  if fields < items.length then .error (.tooLong items.length fields) else .ok ()

/-- Reads a record. -/
def toRecord : Value → Except DecodeError Record
  | .map entries => recordOfEntries source entries
  | .list items => do
      let fields := RecordField.all
      let draft ← inOrder (RecordDraft.read source) fields items {}
      let record ← draft.finish fun _ => .tooShort items.length .record fields.length
      checkLength items fields.length
      return record
  | found => .error (.wrongKind found .record)

/-- Reads a component. -/
def toComponent : Value → Except DecodeError Component
  | .map entries => componentOfEntries source entries
  | .list items => do
      let fields := ComponentField.all
      let draft ← inOrder (ComponentDraft.read source) fields items {}
      let component ← draft.finish fun _ => .tooShort items.length .component fields.length
      checkLength items fields.length
      return component
  | found => .error (.wrongKind found .component)

end Value

end MarkupSchema.Decode
