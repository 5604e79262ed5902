import MarkupSchema.Component.Registry

/-!
# What registrations leave in place

A generator reads its registry each time it is asked, and there may be registrations
in between. A tag can be registered again then, with other parents and another body,
and nobody refuses it. So it has to be said what the later reading owes to the earlier
one.

Nothing that was read gives way. A run of registrations appends to the row of
components, from whatever registry it starts, and this is the one induction here. The
children of a tag are picked from the row one by one, so the old ones come first and
the new ones behind them. A lookup has room for one answer only, and it goes through
the old part of the row before it comes to the new one. So a tag that was found is
found as it was, whatever is registered under it later, and a tag that is not found
was never registered.

To collect components is to start from the empty registry, so a registry can be taken
for the run that it came from.
-/

namespace MarkupSchema.Registry

theorem size_register (r : Registry) (c : Component) : (r.register c).size = r.size + 1 :=
  List.length_append

/-- A run of registrations appends the components in their order. -/
theorem components_foldl_register (r : Registry) (cs : List Component) :
    (cs.foldl register r).components = r.components ++ cs := by
  induction cs generalizing r with
  | nil => exact (List.append_nil r.components).symm
  | cons c cs ih =>
      rw [List.foldl_cons, ih, components_register, List.append_assoc, List.singleton_append]

theorem foldl_register_empty (cs : List Component) : cs.foldl register empty = ofList cs :=
  ext (components_foldl_register empty cs)

theorem size_foldl_register (r : Registry) (cs : List Component) :
    (cs.foldl register r).size = r.size + cs.length := by
  rw [size, components_foldl_register, List.length_append, size]

theorem childrenOf_foldl_register (r : Registry) (cs : List Component) (text : String) :
    (cs.foldl register r).childrenOf text =
      r.childrenOf text ++ (ofList cs).childrenOf text := by
  rw [childrenOf, components_foldl_register, List.filter_append, List.map_append, childrenOf,
    childrenOf, components_ofList]

theorem get?_foldl_register (r : Registry) (cs : List Component) (text : String) :
    (cs.foldl register r).get? text = (r.get? text).or ((ofList cs).get? text) := by
  rw [get?, components_foldl_register, List.find?_append, get?, get?, components_ofList]

theorem get?_eq_none_iff {r : Registry} {text : String} :
    r.get? text = none ↔ ∀ c ∈ r.components, c.tag.text ≠ text := by
  simp only [get?, List.find?_eq_none, beq_iff_eq, ne_eq]

/-- Registering components one by one comes to the same as collecting them. From any
registry on, a run of registrations makes the registry longer by one with each step,
lists what was there before in front of what is new, and so with the children of any
tag. What was found under a tag stays what is found, and nothing is found as long as no
component has the tag. -/
theorem answers_after_registrations :
    (∀ cs : List Component, ofList cs = cs.foldl register empty) ∧
    (∀ (r : Registry) (c : Component), (r.register c).size = r.size + 1) ∧
    ∀ (r : Registry) (cs : List Component),
      (cs.foldl register r).size = r.size + cs.length ∧
      r.components <+: (cs.foldl register r).components ∧
      ∀ text : String,
        r.childrenOf text <+: (cs.foldl register r).childrenOf text ∧
        (∀ c, r.get? text = some c → (cs.foldl register r).get? text = some c) ∧
        ((cs.foldl register r).get? text = none ↔
          ∀ c ∈ r.components ++ cs, c.tag.text ≠ text) := by
  refine ⟨fun cs => (foldl_register_empty cs).symm, size_register, fun r cs =>
    ⟨size_foldl_register r cs, ?_, fun text => ⟨?_, ?_, ?_⟩⟩⟩
  · rw [components_foldl_register]
    exact List.prefix_append _ _
  · rw [childrenOf_foldl_register]
    exact List.prefix_append _ _
  · intro c hfound
    rw [get?_foldl_register, hfound, Option.some_or]
  · rw [get?_eq_none_iff, components_foldl_register]

/-- A text that ends its tag is registered, then a structural one of the same tag with
other parents. -/
theorem answers_after_registrations_of_second_text :
    let column : Tag := ⟨"mj-column", by decide⟩
    let hero : Tag := ⟨"mj-hero", by decide⟩
    let text : Component :=
      { tag := ⟨"mj-text", by decide⟩, ending := true, parents := [column, column] }
    let second : Component := { tag := text.tag, parents := [hero, column] }
    let image : Component :=
      { tag := ⟨"mj-image", by decide⟩, selfClosing := true, parents := [column] }
    let r : Registry := .ofList [{ tag := column }, text]
    let later : Registry := [image, second].foldl register r
    r.get? "mj-text" = some text ∧ later.get? "mj-text" = some text ∧
      later.get? "mj-hero" = none ∧ later.size = 4 ∧
      r.childrenOf "mj-column" <+: later.childrenOf "mj-column" ∧
      later.childrenOf "mj-column" = [text.tag, image.tag, text.tag] := by
  intro column hero text second image r later
  obtain ⟨-, -, hrun⟩ := answers_after_registrations
  obtain ⟨hsize, -, hanswers⟩ := hrun r [image, second]
  obtain ⟨-, hfound, -⟩ := hanswers "mj-text"
  have htext : r.get? "mj-text" = some text := by decide
  have hhero : ∀ c ∈ r.components ++ [image, second], c.tag.text ≠ "mj-hero" := by decide
  exact ⟨htext, hfound text htext, (hanswers "mj-hero").2.2.mpr hhero, hsize,
    (hanswers "mj-column").1, by decide⟩

end MarkupSchema.Registry
