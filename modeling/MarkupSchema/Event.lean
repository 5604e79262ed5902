/-!
# Events

What the library reports while it works, as values beside its answers. An
event says at which level it belongs, what happened, and the few details
that tell one occurrence from another.
-/

namespace MarkupSchema

/-- How much attention an event asks for. -/
inductive Level where
  | trace
  | debug
  deriving DecidableEq, Repr

/-- The value of one detail of an event. -/
inductive Detail where
  | text (value : String)
  | number (value : Nat)
  deriving DecidableEq, Repr

/-- One thing that happened. -/
structure Event where
  level : Level
  message : String
  details : List (String × Detail)
  deriving DecidableEq, Repr

end MarkupSchema
