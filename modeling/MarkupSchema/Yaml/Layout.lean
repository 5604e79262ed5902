import MarkupSchema.Yaml.Indent
import MarkupSchema.Yaml.Placed

/-!
# Layout

Dividing a document into tokens goes from word to word. What a word means
depends on the indentation, on the brackets that are open and on whether a
key may start where it stands. All of this makes up a layout, together with
the text that is left and the tokens that wait to be handed on.

Whether something is a key shows only at the colon after it. Until then it is
a candidate, and its token waits. Outside brackets, a colon makes a key of a
candidate on its own line only, and there is one place where nothing but a
key may stand: where the next part of a list or mapping would.
-/

namespace MarkupSchema.Yaml

/-- A place where a key may have started. -/
structure Candidate where
  place : Placed
  /-- The indentation leaves nothing else but a key. -/
  required : Bool
  /-- How many tokens stand before it. -/
  number : Nat
  deriving DecidableEq, Repr

/-- A bracket that is open. -/
structure Bracket where
  isList : Bool
  /-- A single entry of a list is open inside it. -/
  inPair : Bool := false
  /-- The candidate for a key that was there when the bracket came. -/
  outside : Option Candidate
  deriving DecidableEq, Repr

/-- A place in a document, and what matters there. -/
structure Layout where
  text : List Placed
  indent : Indent := {}
  brackets : List Bracket := []
  /-- The candidate for a key since the innermost bracket. -/
  candidate : Option Candidate := none
  /-- A key may start here. -/
  keyAllowed : Bool := true
  /-- Where a colon needs no gap after it. -/
  adjacent : Option Nat := none
  /-- How many tokens have been handed on. -/
  delivered : Nat := 0
  queue : List Token := []
  deriving DecidableEq, Repr

namespace Layout

/-- Whether a bracket is open. -/
def bracketed (s : Layout) : Bool := !s.brackets.isEmpty

/-- The place of the next character. -/
def place (s : Layout) : Placed := here s.text

/-- Goes on with another rest of the text. -/
def withText (text : List Placed) (s : Layout) : Layout := { s with text }

/-- Adds tokens at the end. -/
def push (tokens : List Token) (s : Layout) : Layout := { s with queue := s.queue ++ tokens }

/-- Adds a token before the one with a number. -/
def insert (number : Nat) (token : Token) (s : Layout) : Layout :=
  { s with queue := s.queue.insertIdx (number - s.delivered) token }

/-- Allows a key here, or no longer does. -/
def allowKey (allowed : Bool) (s : Layout) : Layout := { s with keyAllowed := allowed }

/-- Skips blanks and a comment up to the end of the line. -/
def skipLine? (s : Layout) : Option Layout := (restOfLine? s.text).map (withText · s)

/-- Goes on at the next word. Outside brackets, a key may start on each new
line. -/
def nextWord? (s : Layout) : Option Layout := do
  let text ← Yaml.nextWord? s.indent.least .gap s.text
  let crossed := decide (s.place.line < (here text).line)
  return { s with text, keyAllowed := s.keyAllowed || (crossed && !s.bracketed) }

/-- Makes a candidate of what starts here, if a key may. -/
def propose (s : Layout) : Layout :=
  if s.keyAllowed then
    { s with
      candidate := some
        { place := s.place
          required := !s.bracketed && s.indent.isAt s.place.column
          number := s.delivered + s.queue.length } }
  else s

/-- Gives up the candidate, unless it had to be a key. -/
def retract? (s : Layout) : Option Layout :=
  match s.candidate with
  | none => some s
  | some candidate => if candidate.required then none else some { s with candidate := none }

/-- Gives up a candidate that is out of reach: outside brackets, the colon
stands on the same line as the key and at most 1024 characters after it. -/
def expire? (s : Layout) : Option Layout :=
  match s.candidate with
  | none => some s
  | some candidate =>
      let isOut := candidate.place.line < s.place.line ∨
        candidate.place.index + 1024 < s.place.index
      if !s.bracketed ∧ isOut then s.retract? else some s

/-- Opens a list or a mapping at a column, if none is open there, and puts
the token for it before the one with a number. -/
def enter (column number : Nat) (token : Token) (s : Layout) : Layout :=
  match s.bracketed, s.indent.enter column with
  | false, some indent => insert number token { s with indent }
  | _, _ => s

/-- The number of the token that comes next. -/
def nextNumber (s : Layout) : Nat := s.delivered + s.queue.length

/-- Closes what does not reach as far left as a column. -/
def leave (column : Nat) (s : Layout) : Layout :=
  if s.bracketed then s
  else
    let (indent, tokens) := s.indent.leave column
    push tokens { s with indent }

/-- Closes everything that is written by columns. -/
def leaveAll (s : Layout) : Layout :=
  if s.bracketed then s
  else
    let (indent, tokens) := s.indent.leaveAll
    push tokens { s with indent }

/-- Asks for the margin from here on. -/
def withMargin (s : Layout) : Layout :=
  if s.bracketed then s else { s with indent := s.indent.withMargin }

/-- Closes the single entry that is open in the innermost bracket. -/
def closePair (s : Layout) : Layout :=
  match s.brackets with
  | [] => s
  | bracket :: brackets =>
      if bracket.inPair then
        push [.closeMap] { s with brackets := { bracket with inPair := false } :: brackets }
      else s

/-- Opens a single entry where the innermost bracket is that of a list. The
token for it comes before the one with a number. -/
def openPair (number : Nat) (s : Layout) : Layout :=
  match s.brackets with
  | [] => s
  | bracket :: brackets =>
      if bracket.isList ∧ !bracket.inPair then
        insert number .openMap { s with brackets := { bracket with inPair := true } :: brackets }
      else s

end Layout

end MarkupSchema.Yaml
