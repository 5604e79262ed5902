import MarkupSchema.Component.Registry
import MarkupSchema.Diagnostics.Position
import MarkupSchema.Yaml.Typed

/-!
# Loading

Records, components and registries are loaded from texts. A list of records
is loaded all or nothing: the whole text is read first, and only then are the
positions of the records checked. How a text is read makes no difference to
that, so the reader is left open in `loadRecordsBy`. Whatever reader it is
given, it keeps the records and the reasons that the reader has.
-/

namespace MarkupSchema

open Diagnostics (Code PositionError Record)
open Yaml (Node ReadError)

/-- Why records cannot be loaded, with the reasons `ε` that their reader may have. -/
inductive LoadErrorOf (ε : Type) where
  | unreadable (error : ε)
  | position (error : PositionError)
  deriving DecidableEq

/-- Loads records with a reader of texts. -/
def loadRecordsBy {ε : Type} (read : String → Except ε (List Record)) (text : String) :
    Except (LoadErrorOf ε) (List Record) := do
  let records ← (read text).mapError .unreadable
  (Diagnostics.checkPositions records).mapError .position

/-- Why records cannot be loaded from a document. -/
abbrev LoadError := LoadErrorOf ReadError

/-- Loads records from a document. -/
def loadRecords : String → Except LoadError (List Record) :=
  loadRecordsBy (Yaml.read (Node.toList Node.toRecord))

/-- Loads one component. -/
def loadComponent (text : String) : Except ReadError Component := Yaml.read Node.toComponent text

/-- Loads a list of components as a registry. -/
def loadRegistry (text : String) : Except ReadError Registry := do
  return .ofList (← Yaml.read (Node.toList Node.toComponent) text)

/-- Loads a tag name. -/
def loadTag (text : String) : Except ReadError Tag := Yaml.read Node.toTag text

/-- Loads a validator code. -/
def loadCode (text : String) : Except ReadError Code := Yaml.read Node.toCode text

end MarkupSchema
