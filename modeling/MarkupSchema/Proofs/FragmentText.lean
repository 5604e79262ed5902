import MarkupSchema.Proofs.MarkupLines
import MarkupSchema.Schema.Fragment

/-!
# A fragment is read off its text

The text of a fragment says exactly what the fragment says. One direction is
what `Fragment` was made for: it keeps the tag, the body and the names of the
attributes, and its text is a function of these. The other direction is not a
matter of reading markup, because the names of attributes are any texts and one
with a quote in it spoils the markup. It has to be read off the lines, so all
that is asked of a name is that it stays on its line.

Which line to begin with matters. The first line does not give the tag: a tag
may itself end the way the name of a body type does, and then a structural
component and one with attributes only begin alike. The last line does, and
with the tag known the first one gives the content model. Between the two, a
row of children ends at the first line that is indented less than a child.
-/

namespace MarkupSchema.Schema

open Element

/-! ## The lines of a fragment -/

def elementLine (depth : Nat) (more : List (String × String)) (spaced : Bool) (tag : Tag) : Line :=
  ⟨depth, .empty "xs:element" ([("name", tag.text), ("type", tag.text)] ++ more), spaced⟩

def attributeLine (depth : Nat) (name : String) : Line :=
  ⟨depth, .empty "xs:attribute" [("type", "xs:string"), ("name", name)], true⟩

def typeStart (attributes : List (String × String)) : Line :=
  ⟨0, .start "xs:complexType" attributes, false⟩

def typeStop : Line := ⟨0, .stop "xs:complexType", false⟩

def sequenceStart : Line := ⟨1, .start "xs:sequence" [], false⟩

def sequenceStop : Line := ⟨1, .stop "xs:sequence", false⟩

/-- The lines of the type that puts the attributes on top of a body. -/
def extendingLines (tag : Tag) (attributes : List String) : List Line :=
  typeStart [("name", tag.text)] :: ⟨1, .start "xs:complexContent" [], false⟩ ::
    ⟨2, .start "xs:extension" [("base", elementsType tag)], false⟩ ::
      (attributes.map (attributeLine 3) ++
        [⟨2, .stop "xs:extension", false⟩, ⟨1, .stop "xs:complexContent", false⟩, typeStop])

theorem layoutAll_childReferences (depth : Nat) (children : List Tag) :
    layoutAll depth (children.map childReference)
      = children.map (elementLine depth anyNumber false) :=
  layoutAll_map (fun _ => rfl) children

theorem layoutAll_attributeDeclarations (depth : Nat) (names : List String) :
    layoutAll depth (names.map attributeDeclaration) = names.map (attributeLine depth) :=
  layoutAll_map (fun _ => rfl) names

theorem layout_complexType (name : String) (more : List (String × String))
    (content : List Element) :
    Element.layout 0 (complexType name more content)
      = typeStart (("name", name) :: more) :: (layoutAll 1 content ++ [typeStop]) := by
  rw [complexType, Element.layout]
  rfl

theorem layout_extendingType (tag : Tag) (attributes : List String) :
    Element.layout 0 (extendingType tag attributes) = extendingLines tag attributes := by
  simp [extendingType, layout_complexType, layoutAll, Element.layout,
    layoutAll_attributeDeclarations, extendingLines]

namespace Fragment

def layout (f : Fragment) : List Line := layoutAll 0 f.elements

theorem text_eq_map_layout (f : Fragment) : f.text = textOfLines (f.layout.map Line.text) := by
  rw [text, linesOfAll_eq_map_text, layout]

theorem layout_eq (f : Fragment) :
    f.layout = layoutAll 0 f.types ++ [elementLine 0 [] true f.tag] := by
  rw [layout, elements, layoutAll_append]
  rfl

theorem layout_structural (tag : Tag) (children : List Tag) (attributes : List String) :
    layoutAll 0 (types ⟨tag, .structural children, attributes⟩)
      = typeStart [("name", elementsType tag)] :: sequenceStart ::
          (children.map (elementLine 2 anyNumber false) ++
            sequenceStop :: typeStop :: extendingLines tag attributes) := by
  simp [types, layoutAll, layout_complexType, layout_extendingType, Element.layout,
    layoutAll_childReferences, sequenceStart, sequenceStop]

theorem layout_mixed (tag : Tag) (attributes : List String) :
    layoutAll 0 (types ⟨tag, .mixed, attributes⟩)
      = typeStart [("name", elementsType tag), ("mixed", "true")] :: sequenceStart ::
          (Element.layout 2 anyElement ++
            sequenceStop :: typeStop :: extendingLines tag attributes) := by
  simp [types, layoutAll, layout_complexType, layout_extendingType, Element.layout,
    sequenceStart, sequenceStop]

theorem layout_attributesOnly (tag : Tag) (attributes : List String) :
    layoutAll 0 (types ⟨tag, .attributesOnly, attributes⟩)
      = typeStart [("name", tag.text)] :: (attributes.map (attributeLine 1) ++ [typeStop]) := by
  simp [types, layoutAll, layout_complexType, layoutAll_attributeDeclarations]

end Fragment

/-! ## Lines that tell what they were made from -/

/-- The name of an element stands on its line twice, so the length of the line
tells where the name ends. -/
theorem text_elementLine_inj {depth : Nat} {more : List (String × String)} {spaced : Bool}
    {a b : Tag}
    (h : (elementLine depth more spaced a).text = (elementLine depth more spaced b).text) :
    a = b := by
  rw [← String.toList_inj] at h
  simp only [elementLine, Line.text, Line.body, List.cons_append, List.nil_append,
    writeAttributes, String.toList_append, List.append_assoc, List.append_cancel_left_eq] at h
  have hlength := congrArg List.length h
  simp only [List.length_append] at hlength
  exact Tag.ext (String.toList_inj.mp (List.append_inj h (by omega)).1)

theorem text_attributeLine_inj {depth : Nat} {a b : String}
    (h : (attributeLine depth a).text = (attributeLine depth b).text) : a = b := by
  rw [← String.toList_inj] at h
  simp only [attributeLine, Line.text, Line.body, writeAttributes, String.toList_append,
    List.append_assoc, List.append_cancel_left_eq, List.append_cancel_right_eq] at h
  exact String.toList_inj.mp h

/-- The attributes of the tag that a fragment begins with. -/
def openingAttributes (tag : Tag) : ContentModel → List (String × String)
  | .structural => [("name", elementsType tag)]
  | .mixed => [("name", elementsType tag), ("mixed", "true")]
  | .attributesOnly => [("name", tag.text)]

theorem text_opening_inj {tag : Tag} {m m' : ContentModel}
    (h : (typeStart (openingAttributes tag m)).text = (typeStart (openingAttributes tag m')).text) :
    m = m' := by
  rw [← String.toList_inj] at h
  cases m <;> cases m' <;>
    simp [typeStart, Line.text, Line.body, openingAttributes, writeAttributes, elementsType] at h ⊢

theorem text_child_ne_sequenceStop (child : Tag) :
    (elementLine 2 anyNumber false child).text ≠ sequenceStop.text := by
  intro h
  rw [← String.toList_inj] at h
  simp [elementLine, sequenceStop, Line.text, Line.body, indent] at h

theorem map_append_cons_inj {α β : Type} {f : α → β} (hf : ∀ a b, f a = f b → a = b) {m : β}
    (hm : ∀ a, f a ≠ m) {xs ys : List α} {rest rest' : List β}
    (h : xs.map f ++ m :: rest = ys.map f ++ m :: rest') : xs = ys ∧ rest = rest' := by
  induction xs generalizing ys with
  | nil =>
      cases ys with
      | nil => exact ⟨rfl, (List.cons.inj h).2⟩
      | cons y ys => exact absurd (List.cons.inj h).1.symm (hm y)
  | cons x xs ih =>
      cases ys with
      | nil => exact absurd (List.cons.inj h).1 (hm x)
      | cons y ys =>
          obtain ⟨hhead, htail⟩ := List.cons.inj h
          obtain ⟨hxs, hrest⟩ := ih htail
          exact ⟨by rw [hf x y hhead, hxs], hrest⟩

theorem extendingLines_inj {tag : Tag} {names names' : List String}
    (h : (extendingLines tag names).map Line.text = (extendingLines tag names').map Line.text) :
    names = names' := by
  simp only [extendingLines, List.map_cons, List.map_append, List.map_map, List.cons.injEq,
    true_and, List.append_cancel_right_eq] at h
  exact (List.map_inj_right fun _ _ => text_attributeLine_inj).mp h

namespace Fragment

theorem head?_layout (f : Fragment) :
    f.layout.head? = some (typeStart (openingAttributes f.tag f.model)) := by
  obtain ⟨tag, body, attributes⟩ := f
  cases body <;> rfl

/-- The last line gives the tag, the first one then gives the content model,
and what is left between them is rows of lines of one kind each. -/
theorem layout_inj {f f' : Fragment} (h : f.layout.map Line.text = f'.layout.map Line.text) :
    f = f' := by
  have htag : f.tag = f'.tag := by
    have hlast := congrArg List.getLast? h
    rw [List.getLast?_map, List.getLast?_map, layout_eq, layout_eq, List.getLast?_concat,
      List.getLast?_concat] at hlast
    exact text_elementLine_inj (Option.some.inj hlast)
  have hmodel : f.model = f'.model := by
    have hhead := congrArg List.head? h
    rw [List.head?_map, List.head?_map, head?_layout, head?_layout, htag] at hhead
    exact text_opening_inj (Option.some.inj hhead)
  obtain ⟨tag, body, attributes⟩ := f
  obtain ⟨tag', body', attributes'⟩ := f'
  subst htag
  rw [layout_eq, layout_eq, List.map_append, List.map_append] at h
  replace h := List.append_cancel_right h
  cases body <;> cases body' <;> simp only [model, reduceCtorEq] at hmodel
  case structural.structural children children' =>
    simp only [layout_structural, List.map_cons, List.map_append, List.map_map, List.cons.injEq,
      true_and] at h
    obtain ⟨hchildren, hrest⟩ := map_append_cons_inj (fun _ _ => text_elementLine_inj)
      text_child_ne_sequenceStop h
    rw [hchildren, extendingLines_inj (List.cons.inj hrest).2]
  case mixed.mixed =>
    simp only [layout_mixed, List.map_cons, List.map_append, List.cons.injEq, true_and,
      List.append_cancel_left_eq] at h
    rw [extendingLines_inj h]
  case attributesOnly.attributesOnly =>
    simp only [layout_attributesOnly, List.map_cons, List.map_append, List.map_map,
      List.cons.injEq, true_and, List.append_cancel_right_eq] at h
    rw [(List.map_inj_right fun _ _ => text_attributeLine_inj).mp h]

theorem lineFeed_not_mem_parts {f : Fragment} (h : ∀ name ∈ f.attributes, '\n' ∉ name.toList) :
    ∀ line ∈ f.layout, ∀ part ∈ line.mark.parts, '\n' ∉ part.toList := by
  obtain ⟨tag, body, attributes⟩ := f
  rw [layout_eq]
  cases body
  all_goals
    simp only [layout_structural, layout_mixed, layout_attributesOnly, extendingLines,
      List.forall_mem_append, List.forall_mem_cons, List.forall_mem_map]
    simpa [Mark.parts, elementLine, attributeLine, typeStart, typeStop, sequenceStart,
      sequenceStop, anyNumber, anyElement, elementsType, Element.layout,
      Tag.lineFeed_not_mem_text] using h

/-- A fragment is read off its text. -/
theorem text_inj {f f' : Fragment} (h : ∀ name ∈ f.attributes, '\n' ∉ name.toList)
    (h' : ∀ name ∈ f'.attributes, '\n' ∉ name.toList) (htext : f.text = f'.text) : f = f' := by
  have hlines (g : Fragment) (hg : ∀ name ∈ g.attributes, '\n' ∉ name.toList) :
      ∀ line ∈ g.layout.map Line.text, '\n' ∉ line.toList := by
    rw [List.forall_mem_map]
    exact fun line hline => Line.lineFeed_not_mem_text (lineFeed_not_mem_parts hg line hline)
  rw [text_eq_map_layout, text_eq_map_layout] at htext
  exact layout_inj (textOfLines_inj (hlines f h) (hlines f' h') htext)

/-- What of a component and a registry a fragment keeps. -/
theorem of_eq_iff {c c' : Component} {r r' : Registry} :
    Fragment.of c r = Fragment.of c' r' ↔
      c.tag = c'.tag ∧ c.model = c'.model ∧ c.attributes.names = c'.attributes.names ∧
        (c.model = .structural → r.childrenOf c.tag.text = r'.childrenOf c.tag.text) := by
  constructor
  · intro h
    have htag : c.tag = c'.tag := congrArg Fragment.tag h
    have hmodel : c.model = c'.model := by
      rw [← model_of c r, ← model_of c' r', h]
    refine ⟨htag, hmodel, congrArg Fragment.attributes h, ?_⟩
    intro hstructural
    have hbody := congrArg Fragment.body h
    simp only [of, ← hmodel, hstructural, ← htag] at hbody
    exact Body.structural.inj hbody
  · rintro ⟨htag, hmodel, hnames, hchildren⟩
    simp only [of, ← htag, ← hmodel, hnames]
    cases hcase : c.model with
    | structural => rw [hchildren hcase]
    | mixed | attributesOnly => rfl

end Fragment

/-- The texts of two fragments are the same exactly when the tags, the content
models, the names of the attributes in order and, for structural bodies, the
children in order are. -/
theorem text_of_eq_iff (c c' : Component) (r r' : Registry)
    (h : ∀ name ∈ c.attributes.names, '\n' ∉ name.toList)
    (h' : ∀ name ∈ c'.attributes.names, '\n' ∉ name.toList) :
    (Fragment.of c r).text = (Fragment.of c' r').text ↔
      c.tag = c'.tag ∧ c.model = c'.model ∧ c.attributes.names = c'.attributes.names ∧
        (c.model = .structural → r.childrenOf c.tag.text = r'.childrenOf c.tag.text) := by
  rw [← Fragment.of_eq_iff]
  exact ⟨Fragment.text_inj h h', congrArg Fragment.text⟩

theorem text_of_quoted_attribute :
    let column : Tag := ⟨"mj-column", by decide⟩
    let image : Component := { tag := ⟨"mj-image", by decide⟩, parents := [column, column] }
    let text : Component := { tag := ⟨"mj-text", by decide⟩, ending := true, parents := [column] }
    let width : Component := { tag := column, attributes := .ofList [("a\" b=\"", "px")] }
    let color : Component :=
      { tag := column, selfClosing := true, attributes := .ofList [("a\" b=\"", "red")],
        parents := [column] }
    (Fragment.of width (.ofList [image, text])).text =
        (Fragment.of color (.ofList [image, { text with ending := false }])).text ∧
      (Fragment.of width (.ofList [image, text])).text ≠
        (Fragment.of width (.ofList [text, image])).text := by
  intro column image text width color
  constructor
  · exact (text_of_eq_iff width color _ _ (by decide) (by decide)).mpr (by decide)
  · intro h
    exact absurd ((text_of_eq_iff width width _ _ (by decide) (by decide)).mp h) (by decide)

end MarkupSchema.Schema
