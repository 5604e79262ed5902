import MarkupSchema.Component.Basic
import MarkupSchema.Decimal.Positional
import MarkupSchema.Diagnostics.Code
import MarkupSchema.Text.Quoted

/-!
# Self-describing values and what can be wrong with them

A self-describing value says of every part what kind it is, and it is read
strictly by kind: a number in quotes is a text and nothing else. Reading
fails with a cause, and `DecodeError.message` is the one place where causes
are put into words.
-/

namespace MarkupSchema.Decode

/-- A self-describing value. A map is the list of its entries in order, and a
key may stand in it more than once. -/
inductive Value where
  | unit
  | bool (value : Bool)
  | natural (value : UInt64)
  | integer (value : Int64)
  | float (value : Float)
  | text (value : String)
  | list (items : List Value)
  | map (entries : List (String × Value))

/-- A value as an error message describes it: its kind, and what it is where
that is short enough to be told. -/
def Value.describe : Value → String
  | .unit => "unit value"
  | .bool value => "boolean `" ++ (if value then "true" else "false") ++ "`"
  | .natural value => "integer `" ++ value.toNat.repr ++ "`"
  | .integer value => "integer `" ++ value.toInt.repr ++ "`"
  | .float value => "floating point `" ++ Decimal.ofFloat value ++ "`"
  | .text value => "string " ++ Text.quoted value
  | .list _ => "sequence"
  | .map _ => "map"

/-- What can be asked of a value. -/
inductive Wanted where
  | text
  | bool
  | word
  | map
  | list
  | code
  | record
  | component
  deriving DecidableEq, Repr

/-- What is asked of a value, as an error message says it. -/
def Wanted.describe : Wanted → String
  | .text => "a string"
  | .bool => "a boolean"
  | .word => "u32"
  | .map => "a map"
  | .list => "a sequence"
  | .code => "a numeric validator error code"
  | .record => "struct ErrorRecord"
  | .component => "struct ComponentDescriptor"

/-- Why a value cannot be read. -/
inductive DecodeError where
  | missingField (name : String)
  | duplicateField (name : String)
  | unknownField (name : String) (known : List String)
  | wrongKind (found : Value) (wanted : Wanted)
  /-- An integer that is no 32-bit word. -/
  | outOfRange (value : Int)
  /-- A list that ends before the last required field. -/
  | tooShort (count : Nat) (wanted : Wanted) (fields : Nat)
  /-- A list that goes on after the last field. -/
  | tooLong (count fields : Nat)
  | tag (error : TagError)
  | code (error : Diagnostics.CodeError)

/-- The wording of an error. -/
def DecodeError.message : DecodeError → String
  | .missingField name => "missing field " ++ Text.graved name
  | .duplicateField name => "duplicate field " ++ Text.graved name
  | .unknownField name known =>
      "unknown field " ++ Text.graved name ++ ", expected one of " ++
        ", ".intercalate (known.map Text.graved)
  | .wrongKind found wanted =>
      "invalid type: " ++ found.describe ++ ", expected " ++ wanted.describe
  | .outOfRange value =>
      "invalid value: integer " ++ Text.graved value.repr ++ ", expected " ++ Wanted.word.describe
  | .tooShort count wanted fields =>
      "invalid length " ++ count.repr ++ ", expected " ++ wanted.describe ++ " with " ++
        fields.repr ++ " elements"
  | .tooLong count fields =>
      "invalid length " ++ count.repr ++ ", expected " ++ fields.repr ++ " elements in sequence"
  | .tag error => error.message
  | .code error => error.message

end MarkupSchema.Decode
