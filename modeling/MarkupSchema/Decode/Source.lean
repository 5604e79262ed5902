import MarkupSchema.Component.Basic
import MarkupSchema.Diagnostics.Code

/-!
# Sources of fields

Records and components are written down in more than one notation, and their
fields are checked by the same rules in each. A source is what those rules
need to know of a notation: how it reads a key and each kind of field, and
what its errors are.
-/

namespace MarkupSchema.Decode

/-- One notation, with keys, nodes and errors of its own. -/
structure Source (Key Node Error : Type) where
  key : Key → Except Error String
  text : Node → Except Error String
  bool : Node → Except Error Bool
  word : Node → Except Error UInt32
  code : Node → Except Error Diagnostics.Code
  tag : Node → Except Error Tag
  tags : Node → Except Error (List Tag)
  attributes : Node → Except Error Attributes
  missingField : String → Error
  duplicateField : String → Error
  unknownField : String → List String → Error

end MarkupSchema.Decode
