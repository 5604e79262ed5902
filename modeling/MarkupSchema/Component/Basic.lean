import MarkupSchema.Tag
import MarkupSchema.Component.Attributes

/-!
# Components

A component is one tag of the markup language: its name, two flags about its
body, the attributes it accepts, and the tags it may stand under. Parents are
a list and not a set: their order and how often each is named are kept.

A component is written down as a draft, a name and a sequence of steps that
are not checked yet. Building a draft checks the name first and then the
steps in order, and the first text that is no tag name is the answer.
-/

namespace MarkupSchema

theorem bind_eq_ok_iff {ε α β : Type} {x : Except ε α} {f : α → Except ε β} {b : β} :
    x >>= f = .ok b ↔ ∃ a, x = .ok a ∧ f a = .ok b := by
  constructor
  · intro h
    cases x with
    | error e => cases h
    | ok a => exact ⟨a, rfl, h⟩
  · rintro ⟨a, rfl, h⟩
    exact h

theorem mapError_eq_ok_iff {ε ε' α : Type} {x : Except ε α} {f : ε → ε'} {a : α} :
    x.mapError f = .ok a ↔ x = .ok a := by
  cases x with
  | error e => exact iff_of_false nofun nofun
  | ok b =>
      show (Except.ok b : Except ε' α) = .ok a ↔ Except.ok b = .ok a
      rw [Except.ok.injEq, Except.ok.injEq]

theorem bind_eq_error_iff {ε α β : Type} {x : Except ε α} {f : α → Except ε β} {e : ε} :
    x >>= f = .error e ↔ x = .error e ∨ ∃ a, x = .ok a ∧ f a = .error e := by
  cases x <;> simp [bind, Except.bind]

theorem mapError_eq_error_iff {ε ε' α : Type} {x : Except ε α} {f : ε → ε'} {e : ε'} :
    x.mapError f = .error e ↔ ∃ e', x = .error e' ∧ f e' = e := by
  cases x with
  | error e' =>
      show Except.error (f e') = (.error e : Except ε' α) ↔ _
      simp
  | ok a =>
      show Except.ok a = (.error e : Except ε' α) ↔ _
      simp

/-- One tag of the markup language. -/
structure Component where
  tag : Tag
  /-- The tag takes neither children nor text. -/
  selfClosing : Bool := false
  /-- The body of the tag is text, raw or mixed with elements. -/
  ending : Bool := false
  attributes : Attributes := .empty
  parents : List Tag := []
  deriving DecidableEq

namespace Component

/-- Whether the component may stand under the tag written `text`. -/
def allowsParent (c : Component) (text : String) : Bool :=
  c.parents.any fun parent => parent.text == text

/-- Whether two components are the same but for the order of attributes. -/
def agrees (a b : Component) : Bool :=
  a.tag == b.tag && a.selfClosing == b.selfClosing && a.ending == b.ending &&
    a.attributes.agrees b.attributes && a.parents == b.parents

/-- One step in writing a component down. -/
inductive Step where
  | selfClosing
  | ending
  | attribute (name type : String)
  | parent (tag : String)
  deriving DecidableEq, Repr

/-- The component after one more step. Only a parent can be refused. -/
def apply (c : Component) : Step → Except TagError Component
  | .selfClosing => .ok { c with selfClosing := true }
  | .ending => .ok { c with ending := true }
  | .attribute name type => .ok { c with attributes := c.attributes.insert name type }
  | .parent text => do
      let parent ← Tag.ofString text
      return { c with parents := c.parents ++ [parent] }

/-- What each step comes to, starting from `c`. A refused step contributes
its error and leaves the component as it was. -/
def history (c : Component) : List Step → List (Except TagError Component)
  | [] => []
  | step :: steps =>
      match c.apply step with
      | .ok next => .ok next :: history next steps
      | .error e => .error e :: history c steps

/-- The component after all steps, those that are refused left out. -/
def advance (c : Component) (steps : List Step) : Component :=
  steps.foldl (fun c step => (c.apply step).toOption.getD c) c

/-- A component as it is written down. -/
structure Draft where
  tag : String
  steps : List Step := []
  deriving DecidableEq, Repr

/-- Checks a draft: the name, then each step in order. -/
def Draft.build (draft : Draft) : Except TagError Component := do
  let tag ← Tag.ofString draft.tag
  draft.steps.foldlM apply { tag := tag }

end Component

end MarkupSchema
