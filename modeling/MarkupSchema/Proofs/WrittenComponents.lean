import Mathlib.Data.List.Induction
import MarkupSchema.Decode.Strict
import MarkupSchema.Proofs.FieldOrder

/-!
# Components that are written down

There are two ways to a component. A draft is built in steps, and each step changes
the component that is there. A map is decoded in fields, each of which is read once
and for all, and what is not in the map takes a value of its own. So the two hardly
ever go through the same components, and no step of the one can be matched by steps
of the other.

They agree because both can be asked about one field at a time. What a draft says of
a field is read off its steps, without their order where fields differ: the flags it
raises, the attributes it writes, the parents it names. Building comes to the
component that has all of this, and there is only one. A map that writes the same
down comes to it as well. Nothing is lost where a field is left out, because what a
draft without such a step says of the field is just what a map without the field is
taken to say.

A repeated attribute is the one case in which the two could still differ, since in a
map it stands twice. But both write it into a table, and in the same order.
-/

namespace MarkupSchema

namespace Attributes

theorem names_ofList (entries : List (String × String)) :
    (ofList entries).names = (entries.map Prod.fst).eraseDups := by
  induction entries using List.reverseRecOn with
  | nil => rfl
  | append_singleton entries entry ih =>
      rw [ofList_concat, names_insert, ih, List.map_append, List.eraseDups_append]
      by_cases hmem : entry.1 ∈ entries.map Prod.fst
      · simp [List.removeAll, hmem]
      · simp [List.removeAll, List.eraseDups_cons, hmem]

theorem get?_ofList (entries : List (String × String)) (name : String) :
    (ofList entries).get? name = entries.reverse.lookup name := by
  induction entries using List.reverseRecOn with
  | nil => rfl
  | append_singleton entries entry ih =>
      rw [ofList_concat, get?_insert, ih, List.reverse_append, List.reverse_singleton,
        List.singleton_append, List.lookup_cons]
      by_cases hname : name = entry.1
      · rw [if_pos hname, beq_iff_eq.mpr hname]
      · rw [if_neg hname, beq_false_of_ne hname]

end Attributes

namespace Component

open Decode (ComponentField)

namespace Step

def attribute? : Step → Option (String × String)
  | .attribute name type => some (name, type)
  | .selfClosing | .ending | .parent _ => none

def parent? : Step → Option String
  | .parent text => some text
  | .selfClosing | .ending | .attribute _ _ => none

end Step

/-! ## What steps come to -/

/-- What a component has after some steps, said of the steps as a whole. -/
structure Grows (c : Component) (steps : List Step) (c' : Component) : Prop where
  tag : c'.tag = c.tag
  selfClosing : c'.selfClosing = true ↔ c.selfClosing = true ∨ Step.selfClosing ∈ steps
  ending : c'.ending = true ↔ c.ending = true ∨ Step.ending ∈ steps
  attributes : c'.attributes = (steps.filterMap Step.attribute?).foldl
    (fun table entry => table.insert entry.1 entry.2) c.attributes
  parents : c'.parents.map Tag.text = c.parents.map Tag.text ++ steps.filterMap Step.parent?

theorem Grows.nil (c : Component) : c.Grows [] c where
  tag := rfl
  selfClosing := by simp
  ending := by simp
  attributes := rfl
  parents := by simp

theorem Grows.cons {c c₁ c' : Component} {step : Step} {steps : List Step}
    (h : c.apply step = .ok c₁) (hgrows : c₁.Grows steps c') : c.Grows (step :: steps) c' := by
  obtain ⟨htag, hself, hending, hattributes, hparents⟩ := hgrows
  cases step with
  | selfClosing | ending | «attribute» =>
      cases h
      exact ⟨htag, by simp [hself], by simp [hending], hattributes, hparents⟩
  | parent text =>
      obtain ⟨parent, hparent, hc⟩ := bind_eq_ok_iff.mp h
      cases hc
      cases Tag.ofString_eq_ok_iff.mp hparent
      have hall : c'.parents.map Tag.text =
          c.parents.map Tag.text ++ parent.text :: steps.filterMap Step.parent? := by
        rw [hparents, List.map_append, List.append_assoc]
        rfl
      exact ⟨htag, by simp [hself], by simp [hending], hattributes, hall⟩

theorem grows_of_foldlM {c c' : Component} {steps : List Step}
    (h : steps.foldlM apply c = .ok c') : c.Grows steps c' := by
  induction steps generalizing c with
  | nil =>
      cases h
      exact .nil _
  | cons step steps ih =>
      rw [List.foldlM_cons] at h
      obtain ⟨c₁, hstep, hsteps⟩ := bind_eq_ok_iff.mp h
      exact .cons hstep (ih hsteps)

theorem exists_foldlM_apply {steps : List Step}
    (h : ∀ text ∈ steps.filterMap Step.parent?, Tag.fault? text = none) (c : Component) :
    ∃ c', steps.foldlM apply c = .ok c' := by
  induction steps generalizing c with
  | nil => exact ⟨c, rfl⟩
  | cons step steps ih =>
      have hstep : ∃ c₁, c.apply step = .ok c₁ := by
        cases step with
        | selfClosing | ending | «attribute» => exact ⟨_, rfl⟩
        | parent text =>
            have hfault := h text (List.mem_filterMap.mpr ⟨_, List.mem_cons_self, rfl⟩)
            exact ⟨_, bind_eq_ok_iff.mpr ⟨_, Tag.ofString_text ⟨text, hfault⟩, rfl⟩⟩
      have hsteps : ∀ text ∈ steps.filterMap Step.parent?, Tag.fault? text = none := by
        intro text htext
        obtain ⟨step', hmem, hparent⟩ := List.mem_filterMap.mp htext
        exact h text (List.mem_filterMap.mpr ⟨step', List.mem_cons_of_mem step hmem, hparent⟩)
      obtain ⟨c₁, hc₁⟩ := hstep
      obtain ⟨c', hc'⟩ := ih hsteps c₁
      exact ⟨c', by rw [List.foldlM_cons, hc₁]; exact hc'⟩

namespace Draft

/-- The attributes in the order in which they are written, repeats included. -/
def inserts (draft : Draft) : List (String × String) := draft.steps.filterMap Step.attribute?

def parentTexts (draft : Draft) : List String := draft.steps.filterMap Step.parent?

/-- The component has in a field what the draft gives it. -/
def Gives (draft : Draft) (c : Component) : ComponentField → Prop
  | .tag => c.tag.text = draft.tag
  | .selfClosing => c.selfClosing = true ↔ Step.selfClosing ∈ draft.steps
  | .ending => c.ending = true ↔ Step.ending ∈ draft.steps
  | .attributes => c.attributes = .ofList draft.inserts
  | .parents => c.parents.map Tag.text = draft.parentTexts

theorem gives_of_build {draft : Draft} {c : Component} (h : draft.build = .ok c) :
    ∀ field, draft.Gives c field := by
  obtain ⟨tag, htag, hsteps⟩ := bind_eq_ok_iff.mp h
  obtain ⟨hsame, hself, hending, hattributes, hparents⟩ := grows_of_foldlM hsteps
  intro field
  cases field with
  | tag => exact (congrArg Tag.text hsame).trans (Tag.ofString_eq_ok_iff.mp htag).symm
  | selfClosing => simpa [Gives] using hself
  | ending => simpa [Gives] using hending
  | attributes => exact hattributes
  | parents => exact hparents

theorem eq_of_gives {draft : Draft} {c c' : Component} (h : ∀ field, draft.Gives c field)
    (h' : ∀ field, draft.Gives c' field) : c = c' := by
  have htag : c.tag = c'.tag := Tag.ext ((h .tag).trans (h' .tag).symm)
  have hself : c.selfClosing = c'.selfClosing :=
    Bool.eq_iff_iff.mpr ((h .selfClosing).trans (h' .selfClosing).symm)
  have hending : c.ending = c'.ending := Bool.eq_iff_iff.mpr ((h .ending).trans (h' .ending).symm)
  have hattributes : c.attributes = c'.attributes := (h .attributes).trans (h' .attributes).symm
  have hparents : c.parents = c'.parents :=
    (List.map_inj_right fun _ _ => Tag.ext).mp ((h .parents).trans (h' .parents).symm)
  cases c
  cases c'
  congr

theorem fault?_eq_none_of_gives {draft : Draft} {c : Component} (h : ∀ field, draft.Gives c field) :
    Tag.fault? draft.tag = none ∧ ∀ text ∈ draft.parentTexts, Tag.fault? text = none := by
  have htag : c.tag.text = draft.tag := h .tag
  have hparents : c.parents.map Tag.text = draft.parentTexts := h .parents
  rw [← htag, ← hparents, List.forall_mem_map]
  exact ⟨c.tag.isName, fun parent _ => parent.isName⟩

theorem exists_build {draft : Draft} (htag : Tag.fault? draft.tag = none)
    (hparents : ∀ text ∈ draft.parentTexts, Tag.fault? text = none) : ∃ c, draft.build = .ok c := by
  obtain ⟨c, hc⟩ := exists_foldlM_apply hparents { tag := ⟨draft.tag, htag⟩ }
  exact ⟨c, bind_eq_ok_iff.mpr ⟨_, Tag.ofString_text ⟨draft.tag, htag⟩, hc⟩⟩

theorem build_eq_ok_iff {draft : Draft} {c : Component} :
    draft.build = .ok c ↔ ∀ field, draft.Gives c field := by
  constructor
  · exact gives_of_build
  · intro h
    obtain ⟨htag, hparents⟩ := fault?_eq_none_of_gives h
    obtain ⟨c', hc'⟩ := exists_build htag hparents
    rw [eq_of_gives h (gives_of_build hc')]
    exact hc'

end Draft

end Component

end MarkupSchema

namespace MarkupSchema.Decode

open Component (Draft Step)

/-! ## Drafts that are finished -/

section

variable {Key Node Error : Type} {source : Source Key Node Error}

/-- The value of a field is read as what the component has there. -/
def ComponentField.Reads (source : Source Key Node Error) (c : Component) (node : Node) :
    ComponentField → Prop
  | .tag => source.tag node = .ok c.tag
  | .selfClosing => source.bool node = .ok c.selfClosing
  | .ending => source.bool node = .ok c.ending
  | .attributes => source.attributes node = .ok c.attributes
  | .parents => source.tags node = .ok c.parents

namespace ComponentDraft

def Agrees (d : ComponentDraft) (c : Component) : ComponentField → Prop
  | .tag => d.tag = some c.tag
  | .selfClosing => d.selfClosing.getD false = c.selfClosing
  | .ending => d.ending.getD false = c.ending
  | .attributes => d.attributes.getD .empty = c.attributes
  | .parents => d.parents.getD [] = c.parents

theorem agrees_of_finish {missing : ComponentField → Error} {d : ComponentDraft} {c : Component}
    (h : d.finish missing = .ok c) : ∀ field, d.Agrees c field := by
  rw [finish] at h
  split at h
  · cases h
  · next htag =>
      cases h
      intro field
      cases field with
      | tag => exact htag
      | selfClosing | ending | «attributes» | parents => rfl

theorem exists_finish {d : ComponentDraft} (h : d.has .tag = true)
    (missing : ComponentField → Error) : ∃ c, d.finish missing = .ok c := by
  obtain ⟨tag, htag⟩ := Option.isSome_iff_exists.mp h
  rw [finish, htag]
  exact ⟨_, rfl⟩

theorem reads_of_agrees {e d : ComponentDraft} {c : Component} {node : Node}
    {field : ComponentField} (h : e.read source field node = .ok d) (hagrees : d.Agrees c field) :
    field.Reads source c node := by
  cases field
  all_goals
    obtain ⟨value, hvalue, hdraft⟩ := bind_eq_ok_iff.mp h
    cases hdraft
    rw [ComponentField.Reads, hvalue]
  case tag => exact congrArg Except.ok (Option.some.inj hagrees)
  all_goals exact congrArg Except.ok hagrees

theorem exists_read_of_reads {c : Component} {node : Node} {field : ComponentField}
    (h : field.Reads source c node) (d : ComponentDraft) :
    ∃ d', d.read source field node = .ok d' := by
  cases field
  all_goals
    rw [ComponentField.Reads] at h
    rw [read, h]
    exact ⟨_, rfl⟩

end ComponentDraft

end

theorem ComponentField.fieldOf?_name (field : ComponentField) :
    (componentForm Value.source).fieldOf? field.name = some field :=
  ComponentField.ofName?_eq_some_iff.mpr rfl

theorem ComponentField.has_empty (field : ComponentField) :
    (componentForm Value.source).has {} field = false := by
  cases field <;> rfl

namespace Value

/-! ## Drafts as maps -/

/-- What a draft says of a field. -/
def written (draft : Draft) : ComponentField → Value
  | .tag => .text draft.tag
  | .selfClosing => .bool (decide (Step.selfClosing ∈ draft.steps))
  | .ending => .bool (decide (Step.ending ∈ draft.steps))
  | .attributes => .map (draft.inserts.map fun entry => (entry.1, .text entry.2))
  | .parents => .list (draft.parentTexts.map .text)

/-- A field of which a draft says nothing. -/
def Silent (draft : Draft) : ComponentField → Prop
  | .tag => False
  | .selfClosing => Step.selfClosing ∉ draft.steps
  | .ending => Step.ending ∉ draft.steps
  | .attributes => draft.inserts = []
  | .parents => draft.parentTexts = []

def entriesOf (draft : Draft) (fields : List ComponentField) : List (String × Value) :=
  fields.map fun field => (field.name, written draft field)

/-- Entries that write a draft down, in any order and with or without the fields of
which it says nothing. -/
def Writes (draft : Draft) (entries : List (String × Value)) : Prop :=
  ∃ fields : List ComponentField, fields.Nodup ∧ (∀ field, field ∉ fields → Silent draft field) ∧
    entries = entriesOf draft fields

theorem toAttributes_inserts (entries : List (String × String)) :
    (Value.map (entries.map fun entry => (entry.1, .text entry.2))).toAttributes =
      .ok (.ofList entries) := by
  rw [toAttributes, List.foldlM_map]
  exact List.foldlM_pure

theorem toBool_decide_iff {p : Prop} [Decidable p] {b : Bool} :
    (Value.bool (decide p)).toBool = .ok b ↔ (b = true ↔ p) := by
  rw [toBool, Except.ok.injEq, eq_comm, Bool.eq_iff_iff, decide_eq_true_iff]

theorem toTag_text_iff {text : String} {tag : Tag} :
    (Value.text text).toTag = .ok tag ↔ tag.text = text := by
  show (Tag.ofString text).mapError DecodeError.tag = .ok tag ↔ tag.text = text
  rw [mapError_eq_ok_iff, Tag.ofString_eq_ok_iff]
  exact eq_comm

theorem toTags_texts_iff {texts : List String} {tags : List Tag} :
    (Value.list (texts.map .text)).toTags = .ok tags ↔ tags.map Tag.text = texts := by
  rw [toTags]
  induction texts generalizing tags with
  | nil =>
      rw [List.map_nil, List.mapM_nil, List.map_eq_nil_iff]
      constructor
      · intro h
        cases h
        rfl
      · rintro rfl
        rfl
  | cons text texts ih =>
      rw [List.map_cons, List.mapM_cons, bind_eq_ok_iff]
      constructor
      · rintro ⟨tag, htag, hrest⟩
        obtain ⟨tags', htags, hcons⟩ := bind_eq_ok_iff.mp hrest
        cases hcons
        rw [List.map_cons, toTag_text_iff.mp htag, ih.mp htags]
      · intro h
        obtain ⟨tag, rest, rfl, htag, hrest⟩ := List.map_eq_cons_iff.mp h
        exact ⟨tag, toTag_text_iff.mpr htag, bind_eq_ok_iff.mpr ⟨rest, ih.mpr hrest, rfl⟩⟩

theorem reads_written_iff {draft : Draft} {c : Component} {field : ComponentField} :
    field.Reads source c (written draft field) ↔ draft.Gives c field := by
  cases field with
  | tag => exact toTag_text_iff
  | selfClosing | ending => exact toBool_decide_iff
  | «attributes» =>
      rw [Draft.Gives, eq_comm, ← Except.ok.injEq, ← toAttributes_inserts]
      exact Iff.rfl
  | parents => exact toTags_texts_iff

theorem gives_of_silent {d : ComponentDraft} {draft : Draft} {c : Component}
    {field : ComponentField} (hsilent : Silent draft field) (hnew : ¬ d.has field = true)
    (h : d.Agrees c field) : draft.Gives c field := by
  cases field
  all_goals
    rw [ComponentDraft.has, Option.not_isSome_iff_eq_none] at hnew
    rw [ComponentDraft.Agrees, hnew] at h
    rw [Silent] at hsilent
  case tag => cases hsilent
  case selfClosing | ending => exact iff_of_false (by rw [← h]; exact Bool.false_ne_true) hsilent
  case attributes => rw [Draft.Gives, hsilent, ← h]; rfl
  case parents => rw [Draft.Gives, hsilent, ← h]; rfl

theorem gives_of_toComponent {draft : Draft} {fields : List ComponentField} {c : Component}
    (hsilent : ∀ field, field ∉ fields → Silent draft field)
    (h : (Value.map (entriesOf draft fields)).toComponent = .ok c) (field : ComponentField) :
    draft.Gives c field := by
  obtain ⟨d, hfold, hfinish⟩ := bind_eq_ok_iff.mp h
  rw [← take_componentForm] at hfold
  have hagrees := ComponentDraft.agrees_of_finish hfinish field
  by_cases hmem : field ∈ fields
  · have hentry : (field.name, written draft field) ∈ entriesOf draft fields :=
      List.mem_map.mpr ⟨field, hmem, rfl⟩
    obtain ⟨e, hlast⟩ := Form.exists_read_of_mem hfold hentry field.fieldOf?_name
    exact reads_written_iff.mp (ComponentDraft.reads_of_agrees hlast hagrees)
  · -- a field that is left out is not there at the end either, so it has its default
    refine gives_of_silent (hsilent field hmem) ?_ hagrees
    intro hhas
    rcases (Form.has_foldlM hfold field).mp hhas with hnamed | hempty
    · rw [entriesOf, Form.named_fields ComponentField.fieldOf?_name, List.mem_map] at hnamed
      obtain ⟨field', hmem', hsome⟩ := hnamed
      cases hsome
      exact hmem hmem'
    · rw [ComponentField.has_empty] at hempty
      cases hempty

theorem exists_toComponent {draft : Draft} {fields : List ComponentField} {c : Component}
    (hnodup : fields.Nodup) (hsilent : ∀ field, field ∉ fields → Silent draft field)
    (h : ∀ field, draft.Gives c field) :
    ∃ c', (Value.map (entriesOf draft fields)).toComponent = .ok c' := by
  have hread : ∀ field ∈ fields, ∃ d',
      (componentForm source).read {} field (written draft field) = .ok d' :=
    fun field _ => ComponentDraft.exists_read_of_reads (reads_written_iff.mpr (h field)) {}
  obtain ⟨d, hfold⟩ := Form.exists_foldlM_fields ComponentField.fieldOf?_name hnodup
    (fun field _ => field.has_empty) hread (List.Perm.refl _)
  have htag : ComponentField.tag ∈ fields := Classical.byContradiction (hsilent .tag)
  have hhas : (componentForm source).has d .tag = true := by
    rw [Form.has_foldlM hfold, Form.named_fields ComponentField.fieldOf?_name]
    exact .inl (List.mem_map_of_mem htag)
  obtain ⟨c', hfinish⟩ :=
    ComponentDraft.exists_finish hhas fun field => DecodeError.missingField field.name
  rw [take_componentForm] at hfold
  exact ⟨c', bind_eq_ok_iff.mpr ⟨d, hfold, hfinish⟩⟩

theorem toComponent_iff_gives {draft : Draft} {entries : List (String × Value)} {c : Component}
    (h : Writes draft entries) :
    (Value.map entries).toComponent = .ok c ↔ ∀ field, draft.Gives c field := by
  obtain ⟨fields, hnodup, hsilent, rfl⟩ := h
  constructor
  · exact gives_of_toComponent hsilent
  · intro hgives
    obtain ⟨c', hc'⟩ := exists_toComponent hnodup hsilent hgives
    rw [Draft.eq_of_gives hgives (gives_of_toComponent hsilent hc')]
    exact hc'

/-- A draft is built if its names are tag names, and whatever map writes it down is
decoded to the same component, or is refused as the draft is. The component has what
the steps give it: a flag if one of them raises it, the attributes in the order in
which they were first written with the types that were written last, and all parents. -/
theorem build_iff_toComponent (draft : Draft) :
    ((∃ c, draft.build = .ok c) ↔
      Tag.fault? draft.tag = none ∧ ∀ text ∈ draft.parentTexts, Tag.fault? text = none) ∧
    (∀ c entries, Writes draft entries →
      (draft.build = .ok c ↔ (Value.map entries).toComponent = .ok c)) ∧
    ∀ c, draft.build = .ok c →
      c.tag.text = draft.tag ∧ (c.selfClosing = true ↔ Step.selfClosing ∈ draft.steps) ∧
      (c.ending = true ↔ Step.ending ∈ draft.steps) ∧ c.attributes.names.Nodup ∧
      c.attributes.names = (draft.inserts.map Prod.fst).eraseDups ∧
      (∀ name, c.attributes.get? name = draft.inserts.reverse.lookup name) ∧
      c.parents.map Tag.text = draft.parentTexts := by
  refine ⟨?_, ?_, ?_⟩
  · constructor
    · rintro ⟨c, hc⟩
      exact Draft.fault?_eq_none_of_gives (Draft.gives_of_build hc)
    · rintro ⟨htag, hparents⟩
      exact Draft.exists_build htag hparents
  · intro c entries hwrites
    rw [Draft.build_eq_ok_iff, toComponent_iff_gives hwrites]
  · intro c hc
    have hgives := Draft.gives_of_build hc
    have hattributes : c.attributes = .ofList draft.inserts := hgives .attributes
    refine ⟨hgives .tag, hgives .selfClosing, hgives .ending, c.attributes.nodup, ?_, ?_,
      hgives .parents⟩
    · rw [hattributes, Attributes.names_ofList]
    · intro name
      rw [hattributes, Attributes.get?_ofList]

/-- A width is given twice, a parent too, and the map has its entries the other way
round and leaves a field out. -/
theorem build_iff_toComponent_of_image :
    let column : Tag := ⟨"mj-column", by decide⟩
    let draft : Draft := ⟨"mj-image", [.attribute "width" "string", .parent "mj-column",
      .attribute "alt" "string", .selfClosing, .attribute "width" "unit(px,%)",
      .parent "mj-column"]⟩
    let image : Component := {
      tag := ⟨"mj-image", by decide⟩
      selfClosing := true
      attributes := ⟨[("width", "unit(px,%)"), ("alt", "string")], by decide⟩
      parents := [column, column] }
    draft.build = .ok image ∧
      (Value.map [("parentTag", .list [.text "mj-column", .text "mj-column"]),
        ("attributes", .map [("width", .text "string"), ("alt", .text "string"),
          ("width", .text "unit(px,%)")]),
        ("selfClosingTag", .bool true), ("tagName", .text "mj-image")]).toComponent = .ok image ∧
      image.attributes.names = ["width", "alt"] ∧
      image.attributes.get? "width" = some "unit(px,%)" := by
  intro column draft image
  obtain ⟨-, hagree, hgives⟩ := build_iff_toComponent draft
  have hbuild : draft.build = .ok image := by decide
  have hwrites : Writes draft (entriesOf draft [.parents, .attributes, .selfClosing, .tag]) := by
    refine ⟨_, by decide, ?_, rfl⟩
    intro field hfield
    cases field with
    | ending => exact (by decide : Step.ending ∉ draft.steps)
    | tag | selfClosing | «attributes» | parents => simp at hfield
  obtain ⟨-, -, -, -, hnames, htypes, -⟩ := hgives image hbuild
  refine ⟨hbuild, (hagree image _ hwrites).mp hbuild, hnames.trans ?_, (htypes "width").trans ?_⟩
  · decide
  · decide

end Value

end MarkupSchema.Decode
