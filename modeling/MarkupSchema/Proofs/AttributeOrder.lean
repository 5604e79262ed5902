import Mathlib.Data.List.Forall2
import Mathlib.Data.List.Nodup
import Mathlib.Data.List.Perm.Subperm
import MarkupSchema.Proofs.FragmentText

/-!
# Equal components and the order of attributes

Two components are equal if they differ at most in the order of their attributes,
and two registries are equal if their components are, one by one. A fragment reads
more than that, for it lists attributes in order. This file says how much more.

Equality of attribute tables looks from one side: there are as many entries, and
each entry of the one table is found in the other. Since no name stands twice, the
entries that are found are all there are, so equal tables hold the same entries in
another order. Everything else that a fragment depends on is a part of the component
that equality does not blur, or the row of children, and a registry gives the same
row if its components are exchanged for equal ones: a child is chosen by its parents
and shown by its tag.

So the fragments of equal components have the same lines around a block of attribute
lines, and the block is put in another order. When no name breaks its line, the text
tells the order of the names, and the texts are the same only if the block is, too.
-/

namespace MarkupSchema

/-! ## Equal tables, components and registries -/

namespace Attributes

theorem mem_of_get?_eq_some {table : Attributes} {name type : String}
    (h : table.get? name = some type) : (name, type) ∈ table.entries := by
  obtain ⟨front, back, hentries, -⟩ := List.lookup_eq_some_iff.mp h
  rw [hentries]
  exact List.mem_append_right _ List.mem_cons_self

/-- What is found is all there is, because the sizes are the same and no name stands
twice. -/
theorem perm_of_agrees {a b : Attributes} (h : a.agrees b = true) : a.entries.Perm b.entries := by
  rw [agrees, Bool.and_eq_true, beq_iff_eq, List.all_eq_true] at h
  obtain ⟨hsize, hfound⟩ := h
  have hsubset : a.entries ⊆ b.entries := fun entry hentry =>
    mem_of_get?_eq_some (beq_iff_eq.mp (hfound entry hentry))
  exact (List.subperm_of_subset (List.Nodup.of_map _ a.nodup) hsubset).perm_of_length_le
    (Nat.le_of_eq hsize.symm)

theorem names_perm_of_agrees {a b : Attributes} (h : a.agrees b = true) :
    a.names.Perm b.names :=
  (perm_of_agrees h).map Prod.fst

end Attributes

namespace Component

/-- What equal components have in common. -/
structure Alike (c c' : Component) : Prop where
  tag : c.tag = c'.tag
  selfClosing : c.selfClosing = c'.selfClosing
  ending : c.ending = c'.ending
  attributes : c.attributes.agrees c'.attributes = true
  parents : c.parents = c'.parents

theorem alike_iff_agrees {c c' : Component} : c.Alike c' ↔ c.agrees c' = true := by
  simp only [agrees, Bool.and_eq_true, beq_iff_eq]
  constructor
  · intro h
    exact ⟨⟨⟨⟨h.tag, h.selfClosing⟩, h.ending⟩, h.attributes⟩, h.parents⟩
  · rintro ⟨⟨⟨⟨htag, hself⟩, hending⟩, hattributes⟩, hparents⟩
    exact ⟨htag, hself, hending, hattributes, hparents⟩

theorem Alike.model {c c' : Component} (h : c.Alike c') : c.model = c'.model := by
  rw [Component.model, Component.model, h.ending, h.selfClosing]

theorem Alike.allowsParent {c c' : Component} (h : c.Alike c') (text : String) :
    c.allowsParent text = c'.allowsParent text := by
  rw [Component.allowsParent, Component.allowsParent, h.parents]

end Component

namespace Registry

theorem forall₂_alike_iff_agrees {r r' : Registry} :
    List.Forall₂ Component.Alike r.components r'.components ↔ r.agrees r' = true := by
  rw [agrees, Bool.and_eq_true, beq_iff_eq, List.all_eq_true, List.forall₂_iff_zip]
  refine and_congr Iff.rfl ?_
  constructor
  · exact fun h pair hpair => Component.alike_iff_agrees.mp (h hpair)
  · exact fun h a b hpair => Component.alike_iff_agrees.mpr (h (a, b) hpair)

theorem childrenOf_eq_of_agrees {r r' : Registry} (h : r.agrees r' = true) (text : String) :
    r.childrenOf text = r'.childrenOf text := by
  rw [← forall₂_alike_iff_agrees] at h
  rw [childrenOf, childrenOf]
  generalize r.components = cs, r'.components = cs' at h
  induction h with
  | nil => rfl
  | cons hc _ ih =>
      rw [List.filter_cons, List.filter_cons, hc.allowsParent]
      split
      · rw [List.map_cons, List.map_cons, hc.tag, ih]
      · exact ih

end Registry

namespace Schema

open Element

/-! ## The block of attribute lines -/

/-- The line that declares an attribute. -/
def attributeText (depth : Nat) (name : String) : String :=
  indent depth ++ "<xs:attribute type=\"xs:string\" name=\"" ++ name ++ "\" />"

/-- Whether a line begins like the declaration of an attribute, wherever it is indented. -/
def declaresAttribute (line : String) : Bool :=
  "<xs:attribute ".toList.isPrefixOf (line.toList.dropWhile (· == ' '))

theorem text_attributeLine (depth : Nat) (name : String) :
    (attributeLine depth name).text = attributeText depth name := by
  have hslash : Line.slash true = " />" := rfl
  unfold attributeText
  rw [← String.toList_inj]
  simp only [attributeLine, Line.text, Line.body, hslash, writeAttributes, String.toList_append,
    List.append_assoc]
  repeat rw [String.toList_ofList]
  rfl

theorem declaresAttribute_text (line : Line) :
    declaresAttribute line.text = "xs:attribute ".toList.isPrefixOf line.body.toList := by
  have hindent : ∀ c ∈ List.replicate (2 * line.depth) ' ', (c == ' ') = true := by
    intro c hc
    rw [List.eq_of_mem_replicate hc]
    rfl
  have hline : line.text.toList =
      List.replicate (2 * line.depth) ' ' ++ '<' :: line.body.toList := by
    rw [Line.text, String.toList_append, String.toList_append, indent, String.toList_ofList,
      List.append_assoc]
    rfl
  rw [declaresAttribute, hline, List.dropWhile_append_of_pos hindent]
  rfl

theorem declaresAttribute_attributeText (depth : Nat) (name : String) :
    declaresAttribute (attributeText depth name) = true := by
  rw [← text_attributeLine, declaresAttribute_text, List.isPrefixOf_iff_prefix]
  simp only [attributeLine, Line.body, writeAttributes, String.toList_append, List.append_assoc]
  repeat rw [String.toList_ofList]
  exact List.prefix_append _ _

theorem declaresAttribute_typeStart (attributes : List (String × String)) :
    declaresAttribute (typeStart attributes).text = false := by
  rw [declaresAttribute_text]
  simp only [typeStart, Line.body, String.toList_append, List.append_assoc]
  repeat rw [String.toList_ofList]
  rfl

theorem declaresAttribute_elementLine (depth : Nat) (more : List (String × String))
    (spaced : Bool) (tag : Tag) :
    declaresAttribute (elementLine depth more spaced tag).text = false := by
  rw [declaresAttribute_text]
  simp only [elementLine, Line.body, String.toList_append, List.append_assoc]
  repeat rw [String.toList_ofList]
  rfl

namespace Fragment

/-- How far the attribute lines are indented. -/
def attributeDepth : Body → Nat
  | .structural _ | .mixed => 3
  | .attributesOnly => 1

def extendingStart (tag : Tag) : List Line :=
  [typeStart [("name", tag.text)], ⟨1, .start "xs:complexContent" [], false⟩,
    ⟨2, .start "xs:extension" [("base", elementsType tag)], false⟩]

def extendingStop : List Line :=
  [⟨2, .stop "xs:extension", false⟩, ⟨1, .stop "xs:complexContent", false⟩, typeStop]

/-- The lines in front of the attributes. -/
def above (tag : Tag) : Body → List Line
  | .structural children =>
      typeStart [("name", elementsType tag)] :: sequenceStart ::
        (children.map (elementLine 2 anyNumber false) ++
          sequenceStop :: typeStop :: extendingStart tag)
  | .mixed =>
      typeStart [("name", elementsType tag), ("mixed", "true")] :: sequenceStart ::
        (Element.layout 2 anyElement ++ sequenceStop :: typeStop :: extendingStart tag)
  | .attributesOnly => [typeStart [("name", tag.text)]]

/-- The lines behind the attributes. -/
def below (tag : Tag) : Body → List Line
  | .structural _ | .mixed => extendingStop ++ [elementLine 0 [] true tag]
  | .attributesOnly => [typeStop, elementLine 0 [] true tag]

theorem layout_eq_around (f : Fragment) :
    f.layout = above f.tag f.body ++
      (f.attributes.map (attributeLine (attributeDepth f.body)) ++ below f.tag f.body) := by
  obtain ⟨tag, body, attributes⟩ := f
  rw [layout_eq]
  cases body with
  | structural children =>
      simp [layout_structural, above, below, attributeDepth, extendingLines, extendingStart,
        extendingStop]
  | mixed =>
      simp [layout_mixed, above, below, attributeDepth, extendingLines, extendingStart,
        extendingStop]
  | attributesOnly => simp [layout_attributesOnly, above, below, attributeDepth]

theorem declaresAttribute_extendingStart (tag : Tag) :
    ∀ line ∈ extendingStart tag, declaresAttribute line.text = false := by
  rw [extendingStart, List.forall_mem_cons, List.forall_mem_cons, List.forall_mem_singleton]
  refine ⟨declaresAttribute_typeStart _, by decide, ?_⟩
  rw [declaresAttribute_text]
  simp only [Line.body, String.toList_append, List.append_assoc]
  repeat rw [String.toList_ofList]
  rfl

/-- Outside the block no line declares an attribute. -/
theorem declaresAttribute_around (tag : Tag) (body : Body) :
    ∀ line ∈ above tag body ++ below tag body, declaresAttribute line.text = false := by
  have hstart := declaresAttribute_extendingStart tag
  have hlast := declaresAttribute_elementLine 0 [] true tag
  cases body with
  | structural children =>
      simp only [above, below, extendingStop, List.forall_mem_append, List.forall_mem_cons,
        List.forall_mem_map]
      exact ⟨⟨declaresAttribute_typeStart _, by decide,
        fun child _ => declaresAttribute_elementLine 2 anyNumber false child, by decide, by decide,
        hstart⟩, ⟨by decide, by decide, by decide, List.forall_mem_nil _⟩, hlast,
        List.forall_mem_nil _⟩
  | mixed =>
      simp only [above, below, extendingStop, List.forall_mem_append, List.forall_mem_cons]
      exact ⟨⟨declaresAttribute_typeStart _, by decide, by decide, by decide, by decide, hstart⟩,
        ⟨by decide, by decide, by decide, List.forall_mem_nil _⟩, hlast, List.forall_mem_nil _⟩
  | attributesOnly =>
      simp only [above, below, List.forall_mem_append, List.forall_mem_cons]
      exact ⟨⟨declaresAttribute_typeStart _, List.forall_mem_nil _⟩, by decide, hlast,
        List.forall_mem_nil _⟩

theorem text_eq_around (f : Fragment) :
    f.text = textOfLines ((above f.tag f.body).map Line.text ++
      (f.attributes.map (attributeText (attributeDepth f.body)) ++
        (below f.tag f.body).map Line.text)) := by
  have hattribute : Line.text ∘ attributeLine (attributeDepth f.body) =
      attributeText (attributeDepth f.body) := funext (text_attributeLine _)
  rw [text_eq_map_layout, layout_eq_around, List.map_append, List.map_append, List.map_map,
    hattribute]

/-- Fragments of equal components against equal registries differ at most in the order of
their attributes. -/
theorem tag_body_eq_of_agrees {c c' : Component} {r r' : Registry} (hc : c.Alike c')
    (hr : r.agrees r' = true) :
    (of c r).tag = (of c' r').tag ∧ (of c r).body = (of c' r').body := by
  refine ⟨hc.tag, ?_⟩
  simp only [of, hc.model, hc.tag, Registry.childrenOf_eq_of_agrees hr]

end Fragment

/-- Equal components have one content model, equal registries give the same children, and
the fragments have the same lines but for the order of those that declare attributes. If no
name of an attribute breaks its line, the texts are the same when this order is, and only
then. -/
theorem text_of_agrees {c c' : Component} {r r' : Registry} (hc : c.agrees c' = true)
    (hr : r.agrees r' = true) :
    c.model = c'.model ∧
    (∀ text, r.childrenOf text = r'.childrenOf text) ∧
    (∃ (depth : Nat) (front back : List String),
      (∀ line ∈ front ++ back, declaresAttribute line = false) ∧
      (∀ name, declaresAttribute (attributeText depth name) = true) ∧
      c.attributes.names.Perm c'.attributes.names ∧
      (Fragment.of c r).text = textOfLines
        (front ++ (c.attributes.names.map (attributeText depth) ++ back)) ∧
      (Fragment.of c' r').text = textOfLines
        (front ++ (c'.attributes.names.map (attributeText depth) ++ back))) ∧
    ((∀ name ∈ c.attributes.names, '\n' ∉ name.toList) →
      ((Fragment.of c r).text = (Fragment.of c' r').text ↔
        c.attributes.names = c'.attributes.names)) := by
  rw [← Component.alike_iff_agrees] at hc
  have hnames := Attributes.names_perm_of_agrees hc.attributes
  obtain ⟨htag, hbody⟩ := Fragment.tag_body_eq_of_agrees hc hr
  refine ⟨hc.model, Registry.childrenOf_eq_of_agrees hr, ?_, ?_⟩
  · have htext := (Fragment.of c r).text_eq_around
    have htext' := (Fragment.of c' r').text_eq_around
    rw [← htag, ← hbody] at htext'
    refine ⟨_, _, _, ?_, declaresAttribute_attributeText _, hnames, htext, htext'⟩
    rw [← List.map_append, List.forall_mem_map]
    exact Fragment.declaresAttribute_around _ _
  · intro hline
    have hline' : ∀ name ∈ c'.attributes.names, '\n' ∉ name.toList := fun name hname =>
      hline name (hnames.mem_iff.mpr hname)
    constructor
    · exact fun htext => congrArg Fragment.attributes (Fragment.text_inj hline hline' htext)
    · intro hsame
      have hchildren := Registry.childrenOf_eq_of_agrees hr c.tag.text
      exact congrArg Fragment.text
        (Fragment.of_eq_iff.mpr ⟨hc.tag, hc.model, hsame, fun _ => hchildren⟩)

/-- Two attributes moved in a column, and two in its child. -/
theorem text_of_agrees_of_moved_attributes :
    let column : Tag := ⟨"mj-column", by decide⟩
    let cell (entries : List (String × String)) : Component :=
      { tag := column, attributes := .ofList entries }
    let text (entries : List (String × String)) : Component :=
      { tag := ⟨"mj-text", by decide⟩, ending := true, attributes := .ofList entries,
        parents := [column, column] }
    let color := ("color", "color")
    let width := ("width", "unit(px,%)")
    let r : Registry := .ofList [text [color, width]]
    let r' : Registry := .ofList [text [width, color]]
    (cell [color, width]).agrees (cell [width, color]) = true ∧ r.agrees r' = true ∧
      r.childrenOf "mj-column" = r'.childrenOf "mj-column" ∧
      (Fragment.of (cell [color, width]) r).text ≠ (Fragment.of (cell [width, color]) r').text ∧
      (Fragment.of (cell [color, width]) r).text = (Fragment.of (cell [color, width]) r').text := by
  intro column cell text color width r r'
  have hmoved : (cell [color, width]).agrees (cell [width, color]) = true := by decide
  have hsame : (cell [color, width]).agrees (cell [color, width]) = true := by decide
  have hregistry : r.agrees r' = true := by decide
  obtain ⟨-, hchildren, -, htext⟩ := text_of_agrees hmoved hregistry
  obtain ⟨-, -, -, htext'⟩ := text_of_agrees hsame hregistry
  refine ⟨hmoved, hregistry, hchildren "mj-column", ?_, (htext' (by decide)).mpr rfl⟩
  exact fun h => absurd ((htext (by decide)).mp h) (by decide)

end Schema

end MarkupSchema
