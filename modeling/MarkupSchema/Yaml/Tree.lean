import MarkupSchema.Yaml.Reading

/-!
# The tree of a document

The nodes that a sequence of tokens stands for. A key may lack its value and
a value its key, an item may be missing after its hyphen, and a name may be
given where nothing follows; all of these are empty nodes. The items of a
list that is the value of an entry, or its key, may stand at the column of
the entry. No tokens begin or end such a list.

The functions call one another without reading on, so they take a bound on
the steps still to come. It is bookkeeping: a document gets more steps than
its tokens have use for.
-/

namespace MarkupSchema.Yaml

namespace Cursor

/-- Whether an entry of a mapping written by columns ends here. -/
def atEntryEnd (c : Cursor) : Bool :=
  c.next == .key || c.next == .value || c.next == .outdent

/-- Whether an entry in brackets ends here. -/
def atFlowEnd (c : Cursor) : Bool := c.next == .comma || c.next == .closeMap

/-- Goes on after the comma before a part in brackets. There is none before
the first part. -/
def comma? (isFirst : Bool) (c : Cursor) : Option Cursor :=
  if isFirst then some c else if c.next = .comma then some c.skip else none

/-- What an empty node comes to, where nothing is skipped. -/
def empty (c : Cursor) : Read Node := ⟨.empty, some c⟩

end Cursor

/-- The node of a scalar. Where quotes with nothing between them have a name,
they count for nothing. -/
def Node.ofScalar (named : Bool) (style : Style) (text : String) : Node :=
  match style with
  | .plain => .plain text
  | .quoted => if named ∧ text = "" then .empty else .marked text
  | .block => .marked text

mutual

/-- Reads a node. `inLines` tells that it may be written by columns, and
`dashes` that the items of a list may come without a beginning. -/
def node (fuel : Nat) (inLines dashes : Bool) (c : Cursor) : Read Node :=
  match fuel with
  | 0 => .broken
  | fuel + 1 =>
      match c.next with
      | .alias name =>
          match c.named? name with
          | some node => ⟨node, some c.skip⟩
          | none => .broken
      | .anchor name =>
          (content fuel inLines dashes true (c.skip.pend name)).named name c.anchors.length
      | _ => content fuel inLines dashes false c

/-- Reads a node after its name. With a name, there need be no more of it. -/
def content (fuel : Nat) (inLines dashes named : Bool) (c : Cursor) : Read Node :=
  match fuel with
  | 0 => .broken
  | fuel + 1 =>
      match c.next with
      | .scalar style text => ⟨.ofScalar named style text, some c.skip⟩
      | .openList => (flowItems fuel true c.skip).map .list
      | .openMap => (flowEntries fuel true c.skip).map .ofEntries
      | .fault => .broken
      | token =>
          if inLines ∧ token = .lines then (items fuel c.skip).map .list
          else if inLines ∧ token = .entries then (entries fuel c.skip).map .ofEntries
          else if dashes ∧ token = .dash then (dashItems fuel c).map .list
          else if named then c.empty
          else .broken

/-- Reads the items of a list in brackets. -/
def flowItems (fuel : Nat) (isFirst : Bool) (c : Cursor) : Read (List Node) :=
  match fuel with
  | 0 => ⟨[.fault], none⟩
  | fuel + 1 =>
      if c.next = .closeList then ⟨[], some c.skip⟩
      else
        match c.comma? isFirst with
        | none => ⟨[.fault], none⟩
        | some c =>
            if c.next = .closeList then ⟨[], some c.skip⟩
            else (node fuel false false c).andThen (flowItems fuel false)

/-- Reads the entries of a mapping in brackets. -/
def flowEntries (fuel : Nat) (isFirst : Bool) (c : Cursor) : Read (List (Node × Node)) :=
  match fuel with
  | 0 => ⟨[(.fault, .fault)], none⟩
  | fuel + 1 =>
      if c.next = .closeMap then ⟨[], some c.skip⟩
      else
        match c.comma? isFirst with
        | none => ⟨[(.fault, .fault)], none⟩
        | some c =>
            if c.next = .closeMap then ⟨[], some c.skip⟩
            else (flowEntry fuel c).andThen (flowEntries fuel false)

/-- Reads an entry in brackets. -/
def flowEntry (fuel : Nat) (c : Cursor) : Read (Node × Node) :=
  match fuel with
  | 0 => ⟨(.fault, .fault), none⟩
  | fuel + 1 =>
      let announced := c.next == .key
      let keyless := c.next == .value
      let c := if announced then c.skip else c
      let key :=
        if c.next = .value ∨ (announced ∧ c.atFlowEnd) then c.empty else node fuel false false c
      match key.next with
      | none => ⟨(key.value, .fault), none⟩
      | some c =>
          let value :=
            if c.next = .fault then .broken
            else if c.next = .value ∧ (announced ∨ keyless) then
              if c.skip.atFlowEnd then c.skip.empty else node fuel false false c.skip
            else c.empty
          value.map fun value => (key.value, value)

/-- Reads the items of a list written by columns. -/
def items (fuel : Nat) (c : Cursor) : Read (List Node) :=
  match fuel with
  | 0 => ⟨[.fault], none⟩
  | fuel + 1 =>
      match c.next with
      | .outdent => ⟨[], some c.skip⟩
      | .dash =>
          let c := c.skip
          let item :=
            if c.next = .dash ∨ c.next = .outdent then c.empty else node fuel true false c
          item.andThen (items fuel)
      | _ => ⟨[.fault], none⟩

/-- Reads the items of a list that stand at the column of an entry. -/
def dashItems (fuel : Nat) (c : Cursor) : Read (List Node) :=
  match fuel with
  | 0 => ⟨[.fault], none⟩
  | fuel + 1 =>
      match c.next with
      | .dash =>
          let c := c.skip
          let item :=
            if c.next = .dash ∨ c.atEntryEnd then c.empty else node fuel true false c
          item.andThen (dashItems fuel)
      | .fault => ⟨[.fault], none⟩
      | _ => ⟨[], some c⟩

/-- Reads the entries of a mapping written by columns. -/
def entries (fuel : Nat) (c : Cursor) : Read (List (Node × Node)) :=
  match fuel with
  | 0 => ⟨[(.fault, .fault)], none⟩
  | fuel + 1 =>
      match c.next with
      | .outdent => ⟨[], some c.skip⟩
      | .key | .value => (entry fuel c).andThen (entries fuel)
      | _ => ⟨[(.fault, .fault)], none⟩

/-- Reads an entry written by columns. -/
def entry (fuel : Nat) (c : Cursor) : Read (Node × Node) :=
  match fuel with
  | 0 => ⟨(.fault, .fault), none⟩
  | fuel + 1 =>
      let key :=
        if c.next = .value ∨ c.skip.atEntryEnd then
          (if c.next = .value then c else c.skip).empty
        else node fuel true true c.skip
      match key.next with
      | none => ⟨(key.value, .fault), none⟩
      | some c =>
          let value :=
            if c.next = .fault then .broken
            else if c.next = .value then
              if c.skip.atEntryEnd then c.skip.empty else node fuel true true c.skip
            else c.empty
          value.map fun value => (key.value, value)

end

end MarkupSchema.Yaml
