import MarkupSchema.Yaml.Node
import MarkupSchema.Yaml.Token

/-!
# Reading nodes

Reading a part of a document answers with what was read and where to go on.
There is no place to go on when the syntax broke off; what was read then ends
in a fault. Besides the tokens that are left, a place knows the nodes that
have been given a name so far, so that an alias can stand for one of them. A
name is taken where it is met, and of nodes with one name an alias stands for
the one that was named last. No alias stands for a node from inside it.
-/

namespace MarkupSchema.Yaml

/-- A place in a document. -/
structure Cursor where
  tokens : List Token
  /-- The named nodes in the order of their names. Nothing stands for a node
  that is not at its end. -/
  anchors : List (String × Option Node) := []

namespace Cursor

/-- The next token. -/
def next (c : Cursor) : Token := c.tokens.headD .fault

/-- The place after the next token. -/
def skip (c : Cursor) : Cursor := { c with tokens := c.tokens.tail }

/-- Takes a name for a node that begins. -/
def pend (name : String) (c : Cursor) : Cursor :=
  { c with anchors := c.anchors ++ [(name, none)] }

/-- Gives a node the name that was taken for it. -/
def settle (name : String) (number : Nat) (node : Node) (c : Cursor) : Cursor :=
  { c with anchors := c.anchors.set number (name, some node) }

/-- The node an alias stands for. -/
def named? (name : String) (c : Cursor) : Option Node :=
  (c.anchors.reverse.lookup name).join

end Cursor

/-- What was read, and where to go on. -/
structure Read (α : Type) where
  value : α
  next : Option Cursor

namespace Read

/-- A part in which the syntax breaks off at once. -/
def broken : Read Node := ⟨.fault, none⟩

/-- Something else made of what was read. -/
def map {α β : Type} (f : α → β) (read : Read α) : Read β := ⟨f read.value, read.next⟩

/-- Puts one part before those that are read after it, if reading goes on. -/
def andThen {α : Type} (read : Read α) (rest : Cursor → Read (List α)) : Read (List α) :=
  match read.next with
  | none => ⟨[read.value], none⟩
  | some c => (rest c).map (read.value :: ·)

/-- Names a node for the tokens after it. -/
def named (name : String) (number : Nat) (read : Read Node) : Read Node :=
  { read with next := read.next.map (Cursor.settle name number read.value) }

end Read

end MarkupSchema.Yaml
