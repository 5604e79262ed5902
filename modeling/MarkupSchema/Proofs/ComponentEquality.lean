import MarkupSchema.Proofs.AttributeOrder
import MarkupSchema.Proofs.WrittenComponents

/-!
# Equality of components

Whether two components are equal is decided field by field, and four of the five fields
are simply compared. The fifth are the attributes. Their tables are looked at from one
side only: each entry of the first is looked up in the second, and the sizes are
compared. It is not plain from this that the two may change places. If a name could
stand twice in a table they could not, and a table with two types for one name would
not even be equal to itself.

But no name does, however the table was written. So what is found under a name is all
that stands there, and what is found fills a table of the same size. Equal tables are
those that find the same under every name, and said like this there is no first and
second among them.

A lookup does not see in which order names came in. What it sees is which of two types
for one name came last. So the steps that build a component can be put in another order,
as long as no name gets its types the other way round and the parents stay in line.
-/

namespace MarkupSchema

namespace Attributes

/-! ## Tables and what is found in them -/

/-- No name stands twice, so an entry is what is found under its name. -/
theorem get?_eq_some_iff {table : Attributes} {name type : String} :
    table.get? name = some type ↔ (name, type) ∈ table.entries := by
  constructor
  · exact mem_of_get?_eq_some
  · intro hmem
    obtain ⟨front, back, hentries⟩ := List.append_of_mem hmem
    have hnodup := table.nodup
    rw [hentries, List.map_append, List.map_cons, List.nodup_append] at hnodup
    obtain ⟨-, -, hapart⟩ := hnodup
    refine List.lookup_eq_some_iff.mpr ⟨front, back, hentries, fun entry hentry => ?_⟩
    have hother : entry.1 ≠ name :=
      hapart entry.1 (List.mem_map_of_mem hentry) name List.mem_cons_self
    exact bne_iff_ne.mpr hother.symm

theorem mem_names_iff {table : Attributes} {name : String} :
    name ∈ table.names ↔ ∃ type, table.get? name = some type := by
  simp only [get?_eq_some_iff, names, List.mem_map, Prod.exists, exists_and_right,
    exists_eq_right]

theorem get?_eq_none_iff {table : Attributes} {name : String} :
    table.get? name = none ↔ name ∉ table.names := by
  rw [mem_names_iff, not_exists, Option.eq_none_iff_forall_ne_some]

theorem agrees_of_perm {a b : Attributes} (h : a.entries.Perm b.entries) :
    a.agrees b = true := by
  rw [agrees, Bool.and_eq_true, beq_iff_eq, List.all_eq_true]
  refine ⟨h.length_eq, fun entry hentry => beq_iff_eq.mpr ?_⟩
  exact get?_eq_some_iff.mpr (h.mem_iff.mp hentry)

/-- Equal tables find the same under every name. -/
theorem agrees_iff_get? {a b : Attributes} :
    a.agrees b = true ↔ ∀ name, a.get? name = b.get? name := by
  constructor
  · intro h name
    refine Option.ext fun type => ?_
    rw [get?_eq_some_iff, get?_eq_some_iff, (perm_of_agrees h).mem_iff]
  · intro h
    -- entries do not repeat, so the same members in both make one a reordering of the other
    refine agrees_of_perm ((List.perm_ext_iff_of_nodup ?_ ?_).mpr fun entry => ?_)
    · exact List.Nodup.of_map _ a.nodup
    · exact List.Nodup.of_map _ b.nodup
    · rw [← get?_eq_some_iff, h, get?_eq_some_iff]

theorem forall_get?_eq_iff {a b : Attributes} :
    (∀ name, a.get? name = b.get? name) ↔
      (∀ name, name ∈ a.names ↔ name ∈ b.names) ∧
        ∀ name ∈ a.names, a.get? name = b.get? name := by
  constructor
  · intro h
    exact ⟨fun name => by rw [mem_names_iff, mem_names_iff, h], fun name _ => h name⟩
  · rintro ⟨hnames, htypes⟩ name
    by_cases hmem : name ∈ a.names
    · exact htypes name hmem
    · rw [get?_eq_none_iff.mpr hmem, get?_eq_none_iff.mpr (mt (hnames name).mpr hmem)]

end Attributes

namespace Component

theorem agrees_iff {c c' : Component} : c.agrees c' = true ↔
    c.tag = c'.tag ∧ c.selfClosing = c'.selfClosing ∧ c.ending = c'.ending ∧
      c.parents = c'.parents ∧ ∀ name, c.attributes.get? name = c'.attributes.get? name := by
  rw [← alike_iff_agrees, ← Attributes.agrees_iff_get?]
  constructor
  · intro h
    exact ⟨h.tag, h.selfClosing, h.ending, h.parents, h.attributes⟩
  · rintro ⟨htag, hself, hending, hparents, hattributes⟩
    exact ⟨htag, hself, hending, hattributes, hparents⟩

theorem agrees_refl (c : Component) : c.agrees c = true :=
  agrees_iff.mpr ⟨rfl, rfl, rfl, rfl, fun _ => rfl⟩

theorem agrees_symm {c c' : Component} (h : c.agrees c' = true) : c'.agrees c = true := by
  obtain ⟨htag, hself, hending, hparents, htypes⟩ := agrees_iff.mp h
  exact agrees_iff.mpr ⟨htag.symm, hself.symm, hending.symm, hparents.symm,
    fun name => (htypes name).symm⟩

theorem agrees_trans {c c' c'' : Component} (h : c.agrees c' = true)
    (h' : c'.agrees c'' = true) : c.agrees c'' = true := by
  obtain ⟨htag, hself, hending, hparents, htypes⟩ := agrees_iff.mp h
  obtain ⟨htag', hself', hending', hparents', htypes'⟩ := agrees_iff.mp h'
  exact agrees_iff.mpr ⟨htag.trans htag', hself.trans hself', hending.trans hending',
    hparents.trans hparents', fun name => (htypes name).trans (htypes' name)⟩

/-! ## Steps in another order -/

namespace Draft

/-- The types that are written for a name, in their order. -/
def typesFor (draft : Draft) (name : String) : List String :=
  draft.inserts.filterMap fun entry => if name == entry.1 then some entry.2 else none

/-- A draft with the same steps in another order. Parents stay in line, and of two types
for one name the later one stays the later one. -/
structure Reorders (draft draft' : Draft) : Prop where
  tag : draft.tag = draft'.tag
  steps : draft.steps.Perm draft'.steps
  parents : draft.parentTexts = draft'.parentTexts
  types : ∀ name, draft.typesFor name = draft'.typesFor name

/-- Two names that are added one after the other may come in the other way round. -/
theorem Reorders.swap {tag name name' : String} (h : name ≠ name') (type type' : String)
    (front back : List Step) :
    Reorders ⟨tag, front ++ .attribute name type :: .attribute name' type' :: back⟩
      ⟨tag, front ++ .attribute name' type' :: .attribute name type :: back⟩ where
  tag := rfl
  steps := (List.Perm.swap _ _ back).append_left front
  parents := by simp only [parentTexts, List.filterMap_append, List.filterMap_cons, Step.parent?]
  types other := by
    simp only [typesFor, inserts, List.filterMap_append, List.filterMap_cons, Step.attribute?]
    by_cases hname : other = name
    · rw [beq_false_of_ne (hname ▸ h : other ≠ name')]
      rfl
    · rw [beq_false_of_ne hname]
      rfl

/-- Of the types for a name the last one counts. -/
theorem get?_of_build {draft : Draft} {c : Component} (h : draft.build = .ok c) (name : String) :
    c.attributes.get? name = (draft.typesFor name).getLast? := by
  have hattributes : c.attributes = .ofList draft.inserts := gives_of_build h .attributes
  rw [hattributes, Attributes.get?_ofList, List.lookup_eq_findSome?, typesFor,
    List.getLast?_filterMap]

theorem Reorders.exists_build {draft draft' : Draft} (h : draft.Reorders draft') {c : Component}
    (hc : draft.build = .ok c) : ∃ c', draft'.build = .ok c' := by
  obtain ⟨htag, hparents⟩ := fault?_eq_none_of_gives (gives_of_build hc)
  exact Draft.exists_build (h.tag ▸ htag) (h.parents ▸ hparents)

/-- Nothing that equality looks at depends on the order in which names came in. -/
theorem Reorders.agrees {draft draft' : Draft} (h : draft.Reorders draft') {c c' : Component}
    (hc : draft.build = .ok c) (hc' : draft'.build = .ok c') : c.agrees c' = true := by
  have hgives := gives_of_build hc
  have hgives' := gives_of_build hc'
  have htag : c.tag.text = c'.tag.text :=
    (hgives .tag).trans (h.tag.trans (hgives' .tag).symm)
  have hself : c.selfClosing = true ↔ c'.selfClosing = true :=
    (hgives .selfClosing).trans (h.steps.mem_iff.trans (hgives' .selfClosing).symm)
  have hending : c.ending = true ↔ c'.ending = true :=
    (hgives .ending).trans (h.steps.mem_iff.trans (hgives' .ending).symm)
  have hparents : c.parents.map Tag.text = c'.parents.map Tag.text :=
    (hgives .parents).trans (h.parents.trans (hgives' .parents).symm)
  refine agrees_iff.mpr ⟨Tag.ext htag, Bool.eq_iff_iff.mpr hself, Bool.eq_iff_iff.mpr hending,
    (List.map_inj_right fun _ _ => Tag.ext).mp hparents, fun name => ?_⟩
  rw [get?_of_build hc, get?_of_build hc', h.types]

end Draft

/-- Equality of components is an equivalence. It comes down to the same tag, flags and
parents in order and to attribute tables with the same names and the same type for each.
So steps that build a component can be put in another order, and what they build is equal,
as long as parents and types for one name stay in line. -/
theorem equivalence_agrees :
    Equivalence (fun c c' : Component => c.agrees c' = true) ∧
    (∀ c c' : Component, c.agrees c' = true ↔
      c.tag = c'.tag ∧ c.selfClosing = c'.selfClosing ∧ c.ending = c'.ending ∧
      c.parents = c'.parents ∧
      (∀ name, name ∈ c.attributes.names ↔ name ∈ c'.attributes.names) ∧
      ∀ name ∈ c.attributes.names, c.attributes.get? name = c'.attributes.get? name) ∧
    ∀ (draft draft' : Draft) (c : Component), draft.Reorders draft' → draft.build = .ok c →
      ∃ c', draft'.build = .ok c' ∧ c.agrees c' = true := by
  refine ⟨⟨agrees_refl, agrees_symm, agrees_trans⟩, ?_, ?_⟩
  · intro c c'
    rw [agrees_iff, Attributes.forall_get?_eq_iff]
  · intro draft draft' c hreorders hc
    obtain ⟨c', hc'⟩ := hreorders.exists_build hc
    exact ⟨c', hc', hreorders.agrees hc hc'⟩

/-- A width comes before a color or behind it, and the color gets another type in the end.
The tables are not the same, and a parent more makes a difference. -/
theorem equivalence_agrees_of_moved_width :
    let column : Tag := ⟨"mj-column", by decide⟩
    let ending : List Step := [.attribute "color" "color", .parent "mj-column", .ending]
    let draft : Draft :=
      ⟨"mj-text", .attribute "color" "string" :: .attribute "width" "px" :: ending⟩
    let draft' : Draft :=
      ⟨"mj-text", .attribute "width" "px" :: .attribute "color" "string" :: ending⟩
    let text : Component := {
      tag := ⟨"mj-text", by decide⟩
      ending := true
      attributes := ⟨[("color", "color"), ("width", "px")], by decide⟩
      parents := [column] }
    let text' : Component :=
      { text with attributes := ⟨[("width", "px"), ("color", "color")], by decide⟩ }
    draft.Reorders draft' ∧ draft.build = .ok text ∧ draft'.build = .ok text' ∧ text ≠ text' ∧
      text.agrees text' = true ∧ text'.agrees text = true ∧
      ¬ text'.agrees { text with parents := [column, column] } = true := by
  intro column ending draft draft' text text'
  obtain ⟨hequiv, hfields, hbuilt⟩ := equivalence_agrees
  have hreorders : draft.Reorders draft' := .swap (by decide) _ _ [] ending
  have hbuild : draft.build = .ok text := by decide
  have hbuild' : draft'.build = .ok text' := by decide
  obtain ⟨c', hc', hagrees⟩ := hbuilt draft draft' text hreorders hbuild
  cases hc'.symm.trans hbuild'
  refine ⟨hreorders, hbuild, hbuild', by decide, hagrees, hequiv.symm hagrees, fun h => ?_⟩
  obtain ⟨-, -, -, hparents, -⟩ := (hfields _ _).mp h
  exact absurd hparents (by decide)

end Component

end MarkupSchema
