/-!
# Nodes

What a document is read into: scalars, lists and mappings. A scalar keeps
its text as it was written, and the only thing kept about the way it was
written is whether it carries a mark, quotes or a block indicator, because a
marked scalar is a text even where a plain one would mean null.

A document whose syntax breaks off is read up to that place, where a fault
stands as the last part of everything that was still open. Whoever reads the
nodes in order meets whatever is wrong first, be it syntax or content.

A mapping may take in the entries of others under the merge key. They come
after the mapping's own entries, those written last before those written
first, and a key that is there already is left alone.
-/

namespace MarkupSchema.Yaml

/-- A node of a document. -/
inductive Node where
  | plain (text : String)
  | marked (text : String)
  | list (items : List Node)
  | map (entries : List (Node × Node))
  | fault

/-- Whether a plain scalar with this text stands for nothing. -/
def isNull (text : String) : Bool := text == "" || text == "~" || text.toLower == "null"

namespace Node

/-- The node where nothing is written. -/
def empty : Node := .plain ""

/-- The text of a scalar. -/
def text? : Node → Option String
  | .plain text | .marked text => some text
  | .list _ | .map _ | .fault => none

/-- The key under which a mapping takes in others. -/
def isMergeKey : Node → Bool
  | .plain text => text == "<<"
  | _ => false

/-- Whether two nodes are the same scalar key. -/
def sameKey (a b : Node) : Bool := a.text?.isSome && a.text? == b.text?

mutual

/-- Whether there is no fault in a node. -/
def isWhole : Node → Bool
  | .plain _ | .marked _ => true
  | .list items => areWhole items
  | .map entries => areWholeEntries entries
  | .fault => false

/-- Whether there is no fault in any of the nodes. -/
def areWhole : List Node → Bool
  | [] => true
  | node :: rest => node.isWhole && areWhole rest

/-- Whether there is no fault in any of the entries. -/
def areWholeEntries : List (Node × Node) → Bool
  | [] => true
  | (key, value) :: rest => key.isWhole && value.isWhole && areWholeEntries rest

end

mutual

/-- The entries a node holds for a merge: those of a mapping, or of each
mapping of a list, the last one first. -/
def held? : Node → Option (List (Node × Node))
  | .plain text => if isNull text then some [] else none
  | .marked _ | .fault => none
  | .list items => heldByAll? items
  | .map entries => some entries

/-- The entries that nodes hold for a merge, those of the last one first. -/
def heldByAll? : List Node → Option (List (Node × Node))
  | [] => some []
  | node :: rest => do
      let entries ← node.held?
      let later ← heldByAll? rest
      return later ++ entries

end

/-- The entries a node brings in under the merge key. A fault anywhere in the
node spoils all of them. -/
def brought? (node : Node) : Option (List (Node × Node)) :=
  if node.isWhole then node.held? else none

/-- The mapping's own entries. A merge that brings in nothing that could be
merged is a fault at its place. -/
def ownEntries (entries : List (Node × Node)) : List (Node × Node) :=
  entries.filterMap fun entry =>
    match entry.1.isMergeKey, entry.2.brought? with
    | true, some _ => none
    | true, none => some (.fault, .fault)
    | false, _ => some entry

/-- All entries brought in by merges, those of the last merge first. -/
def mergedEntries (entries : List (Node × Node)) : List (Node × Node) :=
  entries.reverse.flatMap fun entry =>
    if entry.1.isMergeKey then entry.2.brought?.getD [] else []

/-- Adds an entry at the end unless its key is there already. -/
def addAbsent (entries : List (Node × Node)) (entry : Node × Node) : List (Node × Node) :=
  if entries.any fun present => present.1.sameKey entry.1 then entries else entries ++ [entry]

/-- The mapping that is written as these entries. -/
def ofEntries (entries : List (Node × Node)) : Node :=
  .map ((mergedEntries entries).foldl addAbsent (ownEntries entries))

end Node

end MarkupSchema.Yaml
