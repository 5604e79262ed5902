import Mathlib.Logic.Relation
import MarkupSchema.Proofs.FragmentText
import MarkupSchema.Proofs.SharedRegistry

/-!
# Two clients of one registry

Two clients register into the same registry, each its own components in its own
order, and nobody decides who is next. A registration is one append under the
lock, so a run is a sequence of moves in which one of the two appends its next
component. A third kind of move is a writer that breaks off. It marks the lock and
appends nothing, and both clients and generators go on with what is behind the
lock.

There are as many outcomes as there are ways to interleave two lists, and the run
lemma says that these are all there are: what is behind the lock grows by an
interleaving of what the two have registered since. It is stated for any two moments
of a run and not for the end only. So a generator that reads in between reads what
two shorter lists would have come to, and whatever holds of outcomes holds of all
that is ever read.

What a fragment takes from a registry is a filtered list of tags, and interleaving
goes through filters and maps. The children of a tag are interleaved like the
components themselves. Where one of the two clients has no child to give, there is
only one interleaving, and the text cannot depend on the order of moves. The text
of a component that ends its tag depends on no registry in the first place.
-/

namespace MarkupSchema

open Schema (Fragment)

/-! ## Interleavings -/

/-- All members of the first two lists make up the third, each list's in its own
order. -/
inductive Interleaving {α : Type} : List α → List α → List α → Prop
  | nil : Interleaving [] [] []
  | first {a : α} {as bs cs : List α} (h : Interleaving as bs cs) :
      Interleaving (a :: as) bs (a :: cs)
  | second {b : α} {as bs cs : List α} (h : Interleaving as bs cs) :
      Interleaving as (b :: bs) (b :: cs)

namespace Interleaving

variable {α β : Type} {as bs cs : List α}

theorem symm (h : Interleaving as bs cs) : Interleaving bs as cs := by
  induction h with
  | nil => exact .nil
  | first _ ih => exact .second ih
  | second _ ih => exact .first ih

theorem length_eq (h : Interleaving as bs cs) : cs.length = as.length + bs.length := by
  induction h with
  | nil => rfl
  | first _ ih => rw [List.length_cons, List.length_cons, ih]; omega
  | second _ ih => rw [List.length_cons, List.length_cons, ih]; omega

theorem eq_of_nil (h : Interleaving [] bs cs) : cs = bs := by
  induction bs generalizing cs with
  | nil => cases h; rfl
  | cons b bs ih =>
      cases h with
      | second h => rw [ih h]

theorem map (f : α → β) (h : Interleaving as bs cs) :
    Interleaving (as.map f) (bs.map f) (cs.map f) := by
  induction h with
  | nil => exact .nil
  | first _ ih => exact .first ih
  | second _ ih => exact .second ih

theorem filter (p : α → Bool) (h : Interleaving as bs cs) :
    Interleaving (as.filter p) (bs.filter p) (cs.filter p) := by
  induction h with
  | nil => exact .nil
  | @first a as bs cs _ ih =>
      rw [List.filter_cons, List.filter_cons]
      split
      · exact .first ih
      · exact ih
  | @second b as bs cs _ ih =>
      rw [List.filter_cons, List.filter_cons]
      split
      · exact .second ih
      · exact ih

end Interleaving

/-! ## Moves and runs -/

/-- One append under the lock, marked or not. -/
def Lock.register (l : Lock) (c : Component) : Lock := { l with registry := l.read.register c }

theorem Lock.components_register (l : Lock) (c : Component) :
    (l.register c).read.components = l.read.components ++ [c] := by
  rw [read_eq_registry, register]
  rfl

/-- What two clients have yet to register, and the lock they share. -/
structure Clients where
  first : List Component
  second : List Component
  lock : Lock

namespace Clients

inductive Move : Clients → Clients → Prop
  | first {c : Component} {rest others : List Component} {l : Lock} :
      Move ⟨c :: rest, others, l⟩ ⟨rest, others, l.register c⟩
  | second {c : Component} {rest others : List Component} {l : Lock} :
      Move ⟨others, c :: rest, l⟩ ⟨others, rest, l.register c⟩
  | breakOff {as bs : List Component} {l : Lock} :
      Move ⟨as, bs, l⟩ ⟨as, bs, { l with marked := true }⟩

def Reaches : Clients → Clients → Prop := Relation.ReflTransGen Move

/-- The two clients may come to this registry, once both are done. -/
def MayGive (as bs : List Component) (r : Registry) : Prop :=
  ∃ l : Lock, Reaches ⟨as, bs, {}⟩ ⟨[], [], l⟩ ∧ l.read = r

/-- Between two moments of a run, each client registers the front of what it had
left, and what is behind the lock grows by an interleaving of the two fronts. -/
theorem Reaches.exists_interleaving {m n : Clients} (h : Reaches m n) :
    ∃ as bs cs, m.first = as ++ n.first ∧ m.second = bs ++ n.second ∧ Interleaving as bs cs ∧
      n.lock.read.components = m.lock.read.components ++ cs := by
  induction h using Relation.ReflTransGen.head_induction_on with
  | refl => exact ⟨[], [], [], rfl, rfl, .nil, (List.append_nil _).symm⟩
  | head hmove _ ih =>
      obtain ⟨as, bs, cs, hfirst, hsecond, hboth, hgrown⟩ := ih
      cases hmove with
      | @first c rest others l =>
          rw [Lock.components_register, List.append_assoc] at hgrown
          exact ⟨c :: as, bs, c :: cs, congrArg (c :: ·) hfirst, hsecond, .first hboth, hgrown⟩
      | @second c rest others l =>
          rw [Lock.components_register, List.append_assoc] at hgrown
          exact ⟨as, c :: bs, c :: cs, hfirst, congrArg (c :: ·) hsecond, .second hboth, hgrown⟩
      | @breakOff _ _ l =>
          have hread : Lock.read { l with marked := true } = l.read := by
            rw [Lock.read_eq_registry, Lock.read_eq_registry]
          rw [hread] at hgrown
          exact ⟨as, bs, cs, hfirst, hsecond, hboth, hgrown⟩

theorem exists_reaches {as bs cs : List Component} (h : Interleaving as bs cs) (l : Lock) :
    ∃ l', Reaches ⟨as, bs, l⟩ ⟨[], [], l'⟩ ∧ l'.read.components = l.read.components ++ cs := by
  induction h generalizing l with
  | nil => exact ⟨l, Relation.ReflTransGen.refl, (List.append_nil _).symm⟩
  | @first c as bs cs _ ih =>
      obtain ⟨l', hrun, hgrown⟩ := ih (l.register c)
      rw [Lock.components_register, List.append_assoc] at hgrown
      exact ⟨l', Relation.ReflTransGen.head .first hrun, hgrown⟩
  | @second c as bs cs _ ih =>
      obtain ⟨l', hrun, hgrown⟩ := ih (l.register c)
      rw [Lock.components_register, List.append_assoc] at hgrown
      exact ⟨l', Relation.ReflTransGen.head .second hrun, hgrown⟩

theorem components_fresh : ({} : Lock).read.components = [] := by
  rw [Lock.read_eq_registry]
  rfl

theorem mayGive_iff {as bs : List Component} {r : Registry} :
    MayGive as bs r ↔ Interleaving as bs r.components := by
  constructor
  · rintro ⟨l, hrun, rfl⟩
    obtain ⟨as', bs', cs, hfirst, hsecond, hboth, hgrown⟩ := hrun.exists_interleaving
    rw [components_fresh, List.nil_append] at hgrown
    rw [List.append_nil] at hfirst hsecond
    subst hfirst hsecond hgrown
    exact hboth
  · intro h
    obtain ⟨l, hrun, hgrown⟩ := exists_reaches h {}
    rw [components_fresh, List.nil_append] at hgrown
    exact ⟨l, hrun, Registry.ext hgrown⟩

/-- What is behind the lock in the middle of a run could also be the end of one. -/
theorem Reaches.mayGive {as bs : List Component} {m : Clients} (h : Reaches ⟨as, bs, {}⟩ m) :
    ∃ as' bs', as = as' ++ m.first ∧ bs = bs' ++ m.second ∧ MayGive as' bs' m.lock.read := by
  obtain ⟨as', bs', cs, hfirst, hsecond, hboth, hgrown⟩ := h.exists_interleaving
  refine ⟨as', bs', hfirst, hsecond, mayGive_iff.mpr ?_⟩
  rw [hgrown, components_fresh]
  exact hboth

/-! ## What is read -/

theorem MayGive.childrenOf {as bs : List Component} {r : Registry} (h : MayGive as bs r)
    (text : String) :
    Interleaving ((Registry.ofList as).childrenOf text) ((Registry.ofList bs).childrenOf text)
      (r.childrenOf text) :=
  ((mayGive_iff.mp h).filter _).map _

theorem childrenOf_ofList_eq_nil {cs : List Component} {text : String}
    (h : ∀ c ∈ cs, c.allowsParent text = false) : (Registry.ofList cs).childrenOf text = [] := by
  rw [Registry.childrenOf, Registry.components_ofList, List.map_eq_nil_iff, List.filter_eq_nil_iff]
  intro c hc
  rw [h c hc]
  decide

theorem MayGive.childrenOf_eq {as bs : List Component} {r : Registry} {text : String}
    (h : MayGive as bs r) (hbs : ∀ d ∈ bs, d.allowsParent text = false) :
    r.childrenOf text = (Registry.ofList as).childrenOf text := by
  have hchildren := (h.childrenOf text).symm
  rw [childrenOf_ofList_eq_nil hbs] at hchildren
  exact hchildren.eq_of_nil

theorem MayGive.symm {as bs : List Component} {r : Registry} (h : MayGive as bs r) :
    MayGive bs as r := mayGive_iff.mpr (mayGive_iff.mp h).symm

theorem fragment_of_ending {c : Component} (h : c.ending = true) (r r' : Registry) :
    Fragment.of c r = Fragment.of c r' := by
  refine Schema.Fragment.of_eq_iff.mpr ⟨rfl, rfl, rfl, ?_⟩
  intro hmodel
  rw [Component.model, h] at hmodel
  cases hself : c.selfClosing <;> rw [hself] at hmodel <;> cases hmodel

theorem fragment_of_childrenOf_eq {c : Component} {r r' : Registry}
    (h : r.childrenOf c.tag.text = r'.childrenOf c.tag.text) :
    Fragment.of c r = Fragment.of c r' :=
  Schema.Fragment.of_eq_iff.mpr ⟨rfl, rfl, rfl, fun _ => h⟩

/-- The registries that two clients may come to are the interleavings of what they
register, at the end and at every moment before it. None of them loses a component
or a child or has one too many, and each client's stay in order. A fragment is the
same in all of them if its component ends its tag, or if its children all come from
one of the clients. -/
theorem registrations_interleave (as bs : List Component) :
    (∀ r, MayGive as bs r ↔ Interleaving as bs r.components) ∧
    (∀ m, Reaches ⟨as, bs, {}⟩ m →
      ∃ as' bs', as = as' ++ m.first ∧ bs = bs' ++ m.second ∧ MayGive as' bs' m.lock.read) ∧
    (∀ r, MayGive as bs r → r.size = as.length + bs.length ∧
      ∀ text, Interleaving ((Registry.ofList as).childrenOf text)
        ((Registry.ofList bs).childrenOf text) (r.childrenOf text)) ∧
    ∀ r r' c, MayGive as bs r → MayGive as bs r' →
      (c.ending = true ∨ (∀ d ∈ as, d.allowsParent c.tag.text = false) ∨
        ∀ d ∈ bs, d.allowsParent c.tag.text = false) →
      (Fragment.of c r).text = (Fragment.of c r').text := by
  refine ⟨fun r => mayGive_iff, fun m => Reaches.mayGive, ?_, ?_⟩
  · intro r h
    exact ⟨(mayGive_iff.mp h).length_eq, h.childrenOf⟩
  · intro r r' c h h' hcase
    refine congrArg Fragment.text ?_
    rcases hcase with hending | has | hbs
    · exact fragment_of_ending hending r r'
    · exact fragment_of_childrenOf_eq
        ((h.symm.childrenOf_eq has).trans (h'.symm.childrenOf_eq has).symm)
    · exact fragment_of_childrenOf_eq ((h.childrenOf_eq hbs).trans (h'.childrenOf_eq hbs).symm)

/-- The children of a column all come from the second client, those of the body
come from both. -/
theorem registrations_interleave_of_text_first :
    let body : Tag := ⟨"mj-body", by decide⟩
    let column : Tag := ⟨"mj-column", by decide⟩
    let row : Component := { tag := ⟨"mj-section", by decide⟩, parents := [body] }
    let cell : Component := { tag := column, parents := [row.tag] }
    let text : Component := { tag := ⟨"mj-text", by decide⟩, ending := true, parents := [column] }
    let hero : Component := { tag := ⟨"mj-hero", by decide⟩, parents := [body] }
    let apart : Registry := .ofList [row, cell, text, hero]
    let mixed : Registry := .ofList [text, hero, row, cell]
    MayGive [row, cell] [text, hero] apart ∧ MayGive [row, cell] [text, hero] mixed ∧
      (∀ d ∈ [row, cell], d.allowsParent "mj-column" = false) ∧ mixed.size = 4 ∧
      (Fragment.of cell apart).text = (Fragment.of cell mixed).text ∧
      (Fragment.of { tag := body } apart).text ≠ (Fragment.of { tag := body } mixed).text := by
  intro body column row cell text hero apart mixed
  obtain ⟨hgive, -, hcount, htext⟩ := registrations_interleave [row, cell] [text, hero]
  have hapart : MayGive [row, cell] [text, hero] apart :=
    (hgive apart).mpr (.first (.first (.second (.second .nil))))
  have hmixed : MayGive [row, cell] [text, hero] mixed :=
    (hgive mixed).mpr (.second (.second (.first (.first .nil))))
  have hnone : ∀ d ∈ [row, cell], d.allowsParent "mj-column" = false := by decide
  refine ⟨hapart, hmixed, hnone, (hcount mixed hmixed).1,
    htext apart mixed cell hapart hmixed (.inr (.inl hnone)), ?_⟩
  intro h
  exact absurd (Schema.Fragment.text_inj (by decide) (by decide) h) (by decide)

end Clients

end MarkupSchema
