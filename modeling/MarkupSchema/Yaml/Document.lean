import MarkupSchema.Yaml.Tokens
import MarkupSchema.Yaml.Tree

/-!
# Documents

A text holds at most one document. It may start with one or two byte order
marks, with lines of full stops and with a line of hyphens. The root is read
even where something is wrong further on, since content is looked at in order
and the end comes last.

What follows the root has to end the document, and a second document is one
too many. Anything else that follows is left alone, unless the text cannot
even be divided there. A document that has many aliases needs anchors in
proportion. Directives and the tags of nodes are not among what is read, and a
text in which they occur counts as one that cannot be divided.
-/

namespace MarkupSchema.Yaml

/-- What a text holds. -/
structure Document where
  /-- The root, if there is a document. -/
  root : Option Node
  /-- Nothing follows the document that may not follow it. -/
  closed : Bool

/-- The text without byte order marks, of which there may be two. -/
def withoutMarks (text : String) : String :=
  match text.toList with
  | '\ufeff' :: '\ufeff' :: cs | '\ufeff' :: cs => String.ofList cs
  | _ => text

/-- The tokens after the ends of documents. -/
def dropEnds (tokens : List Token) : List Token :=
  tokens.dropWhile fun token => token == .documentEnd

/-- Whether a document without a root ends here. -/
def endsDocument (token : Token) : Bool :=
  token == .documentStart || token == .documentEnd || token == .finish

/-- Whether a document may be followed by these tokens. After a line of full
stops, even a fault is left alone. -/
def mayFollow (tokens : List Token) : Bool :=
  match tokens with
  | .documentEnd :: rest => [.finish, .fault].contains ((dropEnds rest).headD .fault)
  | token :: _ => token != .documentStart && token != .fault
  | [] => false

/-- Whether there are too many aliases for the number of anchors. -/
def overusesAliases (tokens : List Token) : Bool :=
  let anchors := tokens.countP fun
    | .anchor _ => true
    | _ => false
  let aliases := tokens.countP fun
    | .alias _ => true
    | _ => false
  decide (100 ≤ aliases) && decide (10 * anchors < aliases)

namespace Document

/-- The document that starts at a place. -/
def ofRoot (c : Cursor) : Document :=
  let root :=
    if endsDocument c.next then c.empty
    else node (8 * (c.tokens.length + 1)) true false c
  { root := some root.value
    closed :=
      root.next.any fun next =>
        let used := c.tokens.take (c.tokens.length - next.tokens.length)
        mayFollow next.tokens && !overusesAliases used }

/-- Reads the document of a text. No token takes more than eight steps, so
reading never runs out of them. -/
def ofString (text : String) : Document :=
  match dropEnds (tokensOf (withoutMarks text)) with
  | .finish :: _ => { root := none, closed := true }
  | .documentStart :: rest => ofRoot { tokens := rest }
  | tokens => ofRoot { tokens }

/-- What a document is decoded to. Whatever is wrong with its content comes
before whatever follows it. Where there is no document, nothing is read as an
empty node, and `unreadable` is all that can be said about what is wrong with
that. -/
def decode {α ε : Type} (document : Document) (unreadable : ε) (read : Node → Except ε α) :
    Except ε α := do
  match document.root with
  | none => (read .empty).mapError fun _ => unreadable
  | some root =>
      let value ← read root
      if document.closed then return value else throw unreadable

end Document

end MarkupSchema.Yaml
