import MarkupSchema.Decode.Component
import MarkupSchema.Decode.Record
import MarkupSchema.Text.Blank
import MarkupSchema.Text.Lines
import MarkupSchema.Text.Quoted
import MarkupSchema.Text.Visible
import MarkupSchema.Yaml.Document

/-!
# Reading by the wanted type

What a scalar means is settled by what is asked of it and not by how it
looks: a number is a text where a text is wanted, and a quoted number is a
number where a number is wanted. The one exception is null, which is no text.

Where a list or a table is wanted, null is an empty one; where fields are
wanted, it has none. A key may not stand twice.
-/

namespace MarkupSchema.Yaml

open Diagnostics (Code Record)

/-- Why a node cannot be read. -/
inductive ReadError where
  | tag (error : TagError)
  | code (error : Diagnostics.CodeError)
  | missingField (name : String)
  | unknownField (name : String) (known : List String)
  | badWord
  | badBool
  /-- The syntax breaks off, or there is something of another kind than is
  wanted. -/
  | unreadable
  /-- An error inside a mapping, which is shown together with its place. -/
  | placed (error : ReadError)
  deriving DecidableEq

/-- The full wording of an error, where it has one. -/
def ReadError.wording? : ReadError → Option String
  | .tag error => some error.message
  | .code error => some error.message
  | .missingField name => some ("missing field " ++ Text.graved name)
  | .unknownField name known =>
      some ("unknown field " ++ Text.graved name ++ ", expected one of " ++
        ", ".intercalate known)
  | .badWord => some "invalid u32"
  | .badBool => some "invalid boolean"
  | .unreadable => none
  | .placed error => error.wording?.map Text.visible

/-- The wording of an error: the first line of all there is to say. -/
def ReadError.message? (error : ReadError) : Option String :=
  error.wording?.map fun text => String.ofList (Text.firstLine text.toList)

/-- The digits of a number and its base. -/
def splitBase : List Char → Nat × List Char
  | '0' :: 'x' :: cs | '0' :: 'X' :: cs => (16, cs)
  | '0' :: 'o' :: cs | '0' :: 'O' :: cs => (8, cs)
  | '0' :: 'b' :: cs | '0' :: 'B' :: cs => (2, cs)
  | cs => (10, cs)

/-- The number written by digits in a base, the least significant last. -/
def numberOf? (base : Nat) (digits : List Char) : Option Nat :=
  digits.foldlM (fun value c => do
    let digit ← hexDigit? c
    if digit < base then some (base * value + digit) else none) 0

/-- The 32-bit word a text stands for. Underscores may stand anywhere among
the digits. -/
def wordOf? (text : String) : Option UInt32 := do
  let trimmed := Text.trim text.toList
  let unsigned := if trimmed.head? = some '+' then trimmed.drop 1 else trimmed
  let (base, written) := splitBase unsigned
  let digits := written.filter fun c => c != '_'
  let value ← if digits.isEmpty then none else numberOf? base digits
  if value < UInt32.size then some (UInt32.ofNat value) else none

/-- The truth value a text stands for. -/
def boolOf? (text : String) : Option Bool :=
  let word := (String.ofList (Text.trim text.toList)).toLower
  if ["true", "yes", "y", "on"].contains word then some true
  else if ["false", "no", "n", "off"].contains word then some false
  else none

example : wordOf? " +0x_1F " = some 31 ∧ wordOf? "-0" = none ∧ wordOf? "0x_" = none := by
  decide +kernel

example : boolOf? " yEs" = some true ∧ boolOf? "OFF" = some false ∧ boolOf? "1" = none := by
  decide +kernel

namespace Node

/-- Reads a text. -/
def toText : Node → Except ReadError String
  | .plain text => if isNull text then throw .unreadable else return text
  | .marked text => return text
  | .list _ | .map _ | .fault => throw .unreadable

/-- Reads a scalar by what its text stands for. -/
def toScalar {α : Type} (read? : String → Option α) (bad : ReadError) (node : Node) :
    Except ReadError α := do
  match node.text? with
  | none => throw .unreadable
  | some text =>
      match read? text with
      | none => throw bad
      | some value => return value

/-- Reads a 32-bit word. -/
def toWord (node : Node) : Except ReadError UInt32 := node.toScalar wordOf? .badWord

/-- Reads a truth value. -/
def toBool (node : Node) : Except ReadError Bool := node.toScalar boolOf? .badBool

/-- Reads a validator code. -/
def toCode (node : Node) : Except ReadError Code := do
  (Code.ofString (← node.toText)).mapError .code

/-- Reads a tag name. -/
def toTag (node : Node) : Except ReadError Tag := do
  (Tag.ofString (← node.toText)).mapError .tag

/-- Reads a list item by item. -/
def toList {α : Type} (read : Node → Except ReadError α) : Node → Except ReadError (List α)
  | .list items => items.mapM read
  | .plain text => if isNull text then return [] else throw .unreadable
  | .marked _ | .map _ | .fault => throw .unreadable

/-- Reads the entries of a mapping. -/
def toEntries : Node → Except ReadError (List (Node × Node))
  | .map entries => return entries
  | .plain text => if isNull text then return [] else throw .unreadable
  | .marked _ | .list _ | .fault => throw .unreadable

/-- Adds one entry to an attribute table. -/
def addAttribute (table : Attributes) (entry : Node × Node) : Except ReadError Attributes := do
  let name ← entry.1.toText
  if (table.get? name).isSome then throw .unreadable
  else return table.insert name (← entry.2.toText)

/-- Reads an attribute table. -/
def toAttributes (node : Node) : Except ReadError Attributes := do
  (← node.toEntries).foldlM addAttribute .empty

/-- Nodes as a source of fields. -/
def source : Decode.Source Node Node ReadError where
  key := toText
  text := toText
  bool := toBool
  word := toWord
  code := toCode
  tag := toTag
  tags := toList toTag
  attributes := toAttributes
  missingField := .missingField
  duplicateField := fun _ => .unreadable
  unknownField := .unknownField

/-- Reads a record. -/
def toRecord (node : Node) : Except ReadError Record := do
  (Decode.recordOfEntries source (← node.toEntries)).mapError .placed

/-- Reads a component. -/
def toComponent (node : Node) : Except ReadError Component := do
  (Decode.componentOfEntries source (← node.toEntries)).mapError .placed

end Node

/-- Reads a text as one document of the wanted type. -/
def read {α : Type} (wanted : Node → Except ReadError α) (text : String) : Except ReadError α :=
  (Document.ofString text).decode .unreadable wanted

end MarkupSchema.Yaml
