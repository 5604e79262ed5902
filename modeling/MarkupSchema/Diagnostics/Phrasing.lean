import MarkupSchema.Diagnostics.Record
import MarkupSchema.Diagnostics.Rule
import MarkupSchema.Event

/-!
# Phrasing a record

What is shown for a record depends on two questions: whether there is a rule
for its code, and whether that rule finds a token in its message. The answers
make three cases, and both the diagnostic and the event of a record are read
off the case it falls into.

Single quotes count as double ones while tokens are looked for, and only
then: a fallback shows the message as it came.
-/

namespace MarkupSchema.Diagnostics

/-- The three cases of a record. -/
inductive Phrasing where
  | noRule
  | noTokens (rule : Rule)
  | rephrased (rule : Rule) (tokens : List (List Char))
  deriving DecidableEq, Repr

/-- A single quote made double. -/
def doubleQuote (c : Char) : Char := if c = '\x27' then '"' else c

namespace Record

/-- The message as the rules read it. -/
def normalized (r : Record) : List Char := r.message.toList.map doubleQuote

/-- The case a record falls into. -/
def phrasing (r : Record) : Phrasing :=
  match Rule.ofCode? r.code.text with
  | none => .noRule
  | some rule =>
      match rule.tokens r.normalized with
      | [] => .noTokens rule
      | token :: tokens => .rephrased rule (token :: tokens)

/-- What is shown for a record. -/
def diagnostic (r : Record) : Diagnostic :=
  match r.phrasing with
  | .noRule | .noTokens _ => r.fallback
  | .rephrased rule tokens => ⟨r.line, r.column, rule.phrase tokens⟩

/-- An event about a record. -/
def eventOf (r : Record) (message : String) : Event where
  level := .debug
  message := message
  details := [("code", .text r.code.text), ("line", .number r.line.toNat)]

/-- What is reported when a record is put in other words, or is not. -/
def phrasingEvents (r : Record) : List Event :=
  match r.phrasing with
  | .noRule => [r.eventOf "no rule for validator code"]
  | .noTokens _ => [r.eventOf "rule pattern matched no tokens"]
  | .rephrased _ _ => []

end Record

end MarkupSchema.Diagnostics
