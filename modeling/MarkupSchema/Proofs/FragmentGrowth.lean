import MarkupSchema.Proofs.FragmentReading

/-!
# What a registration does to a fragment

A fragment of a component is written against a whole registry, but all that it takes
from there is a row of children. So a registration can only touch the fragments of
the new component's parents, and these only in one place: one more child, as the
last of the row.

What that means for the text can be said without the fragment. The new text is the
old one with a line put in front of the first line that closes a sequence. It has to
be the first, since the name of an attribute is any text, and one with line feeds in
it can hold lines that look like any other. Such names come later. In front of the
closing line there is nothing but tag names, and a tag name holds neither a line feed
nor an angle bracket.

As the new text depends on the old one and the new component alone, a row of
registrations is done by repeating this.
-/

namespace MarkupSchema

theorem Component.allowsParent_text_iff {c : Component} {tag : Tag} :
    c.allowsParent tag.text = true ↔ tag ∈ c.parents := by
  simp only [Component.allowsParent, List.any_eq_true, beq_iff_eq]
  constructor
  · rintro ⟨parent, hparent, htext⟩
    rwa [← Tag.ext htext]
  · exact fun hparent => ⟨tag, hparent, rfl⟩

namespace Schema

open Element

/-! ## A line put in front of another one -/

/-- Puts a line in front of the first one that is equal to `mark`. -/
def insertBefore (mark line : List Char) : List (List Char) → List (List Char)
  | [] => []
  | l :: rest => if l = mark then line :: l :: rest else l :: insertBefore mark line rest

/-- A text with one more line in front of the first one that is equal to `mark`. -/
def addLine (mark line text : String) : String :=
  String.ofList (['\n'].intercalate
    (insertBefore mark.toList line.toList (text.toList.splitOn '\n')))

theorem insertBefore_append {mark line : List Char} {front : List (List Char)} (h : mark ∉ front)
    (back : List (List Char)) :
    insertBefore mark line (front ++ mark :: back) = front ++ line :: mark :: back := by
  induction front with
  | nil => exact if_pos rfl
  | cons l front ih =>
      obtain ⟨hl, hfront⟩ := not_or.mp (mt List.mem_cons.mpr h)
      rw [List.cons_append, insertBefore, if_neg (Ne.symm hl), ih hfront]
      rfl

theorem addLine_textOfLines {mark line : String} {front : List String}
    (hfront : ∀ l ∈ front, '\n' ∉ l.toList) (hline : '\n' ∉ line.toList)
    (hmark : '\n' ∉ mark.toList) (hnew : mark ∉ front) (back : List String) :
    addLine mark line (textOfLines (front ++ mark :: back))
      = textOfLines (front ++ line :: mark :: back) := by
  have hsplit (lines : List String) (h : ∀ l ∈ lines, '\n' ∉ l.toList) :
      (textOfLines (lines ++ back)).toList.splitOn '\n'
        = lines.map String.toList ++ (textOfLines back).toList.splitOn '\n' := by
    rw [textOfLines_append, String.toList_append, textOfLines, String.toList_ofList,
      splitOn_flatMap_append h]
  have hold := hsplit (front ++ [mark]) (by
    rw [List.forall_mem_append, List.forall_mem_singleton]
    exact ⟨hfront, hmark⟩)
  have hnew' := hsplit (front ++ [line, mark]) (by
    rw [List.forall_mem_append, List.forall_mem_cons, List.forall_mem_singleton]
    exact ⟨hfront, hline, hmark⟩)
  have hnot : mark.toList ∉ front.map String.toList := by
    rw [List.mem_map]
    rintro ⟨l, hl, htext⟩
    exact hnew (String.toList_inj.mp htext ▸ hl)
  simp only [List.append_assoc, List.cons_append, List.nil_append,
    List.map_append, List.map_cons, List.map_nil] at hold hnew'
  rw [addLine, hold, insertBefore_append hnot, ← hnew', List.intercalate_splitOn,
    String.ofList_toList]

/-! ## The row of children in a text -/

/-- The line that refers to a child. -/
def referenceLine (child : Tag) : String :=
  "    <xs:element name=\"" ++ child.text ++ "\" type=\"" ++ child.text ++
    "\" minOccurs=\"0\" maxOccurs=\"unbounded\"/>"

/-- The line that closes a sequence. -/
def closingLine : String := "  </xs:sequence>"

/-- A text with one more child, in front of the line that closes its first sequence. -/
def addReference (child : Tag) (text : String) : String :=
  addLine closingLine (referenceLine child) text

/-- What a structural fragment begins with: its row of children, and what stands in
front of it. -/
def openingLines (tag : Tag) (children : List Tag) : List String :=
  ("<xs:complexType name=\"" ++ tag.text ++ "-elements\">") :: "  <xs:sequence>" ::
    children.map referenceLine

theorem text_childReference (child : Tag) :
    (elementLine 2 anyNumber false child).text = referenceLine child := by
  have hslash : Line.slash false = "/>" := rfl
  unfold referenceLine
  rw [← String.toList_inj]
  simp only [elementLine, Line.text, Line.body, hslash, indent, writeAttributes, anyNumber,
    List.cons_append, List.nil_append, String.toList_append, List.append_assoc]
  repeat rw [String.toList_ofList]
  rfl

theorem text_elementsTypeStart (tag : Tag) :
    (typeStart [("name", elementsType tag)]).text
      = "<xs:complexType name=\"" ++ tag.text ++ "-elements\">" := by
  rw [← String.toList_inj]
  simp only [typeStart, Line.text, Line.body, indent, writeAttributes, elementsType,
    String.toList_append, List.append_assoc]
  repeat rw [String.toList_ofList]
  rfl

theorem text_sequenceStop : sequenceStop.text = closingLine := by decide

/-- The opening lines as tags of a layout. -/
def openingLayout (tag : Tag) (children : List Tag) : List Line :=
  typeStart [("name", elementsType tag)] :: sequenceStart ::
    children.map (elementLine 2 anyNumber false)

theorem map_text_openingLayout (tag : Tag) (children : List Tag) :
    (openingLayout tag children).map Line.text = openingLines tag children := by
  have hsequence : sequenceStart.text = "  <xs:sequence>" := by decide
  have hchildren : Line.text ∘ elementLine 2 anyNumber false = referenceLine :=
    funext text_childReference
  rw [openingLayout, List.map_cons, List.map_cons, List.map_map, text_elementsTypeStart,
    hsequence, hchildren]
  rfl

theorem lineFeed_not_mem_openingLines (tag : Tag) (children : List Tag) :
    ∀ line ∈ openingLines tag children, '\n' ∉ line.toList := by
  rw [← map_text_openingLayout, List.forall_mem_map]
  intro line hline
  refine Line.lineFeed_not_mem_text ?_
  revert line
  rw [openingLayout, List.forall_mem_cons, List.forall_mem_cons, List.forall_mem_map]
  simp [Mark.parts, typeStart, sequenceStart, elementLine, anyNumber, elementsType,
    Tag.lineFeed_not_mem_text]

theorem closingLine_not_mem_openingLines (tag : Tag) (children : List Tag) :
    closingLine ∉ openingLines tag children := by
  have htype : sequenceStop.text ≠ (typeStart [("name", elementsType tag)]).text := by
    intro h
    rw [← String.toList_inj] at h
    simp [sequenceStop, typeStart, Line.text, Line.body, indent] at h
  have hsequence : sequenceStop.text ≠ sequenceStart.text := by decide
  rw [← text_sequenceStop, ← map_text_openingLayout, openingLayout, List.map_cons, List.map_cons,
    List.map_map]
  simp only [List.mem_cons, List.mem_map, Function.comp_apply]
  rintro (h | h | ⟨child, -, h⟩)
  · exact htype h
  · exact hsequence h
  · exact text_child_ne_sequenceStop child h

namespace Fragment

/-- The text of a structural fragment. The registry decides on the row of children and
on nothing in front of it or behind it. -/
theorem text_of_structural {c : Component} (h : c.model = .structural) :
    ∃ back : List String, ∀ r : Registry, (of c r).text =
      textOfLines (openingLines c.tag (r.childrenOf c.tag.text) ++ closingLine :: back) := by
  refine ⟨(typeStop :: (extendingLines c.tag c.attributes.names ++
    [elementLine 0 [] true c.tag])).map Line.text, fun r => ?_⟩
  have hof : of c r = ⟨c.tag, .structural (r.childrenOf c.tag.text), c.attributes.names⟩ := by
    rw [of, h]
  have hlayout : (of c r).layout =
      openingLayout c.tag (r.childrenOf c.tag.text) ++ sequenceStop :: typeStop ::
        (extendingLines c.tag c.attributes.names ++ [elementLine 0 [] true c.tag]) := by
    rw [hof, layout_eq, layout_structural, openingLayout]
    simp only [List.cons_append, List.append_assoc]
  rw [text_eq_map_layout, hlayout, List.map_append, map_text_openingLayout, List.map_cons,
    text_sequenceStop]

theorem addReference_text_of_structural {c : Component} (h : c.model = .structural) :
    ∃ back : List String, ∀ r : Registry,
      (of c r).text =
        textOfLines (openingLines c.tag (r.childrenOf c.tag.text) ++ closingLine :: back) ∧
      ∀ child : Tag, addReference child (of c r).text =
        textOfLines (openingLines c.tag (r.childrenOf c.tag.text) ++
          referenceLine child :: closingLine :: back) := by
  obtain ⟨back, htext⟩ := text_of_structural h
  refine ⟨back, fun r => ⟨htext r, fun child => ?_⟩⟩
  have hline : '\n' ∉ (referenceLine child).toList :=
    lineFeed_not_mem_openingLines c.tag [child] _ (by simp [openingLines])
  rw [htext r, addReference, addLine_textOfLines (lineFeed_not_mem_openingLines _ _) hline
    (by decide) (closingLine_not_mem_openingLines _ _)]

/-! ## Registrations -/

/-- Registering a component adds a child to the fragments of its parents, where these
have a row of children, and leaves all others as they are. -/
theorem text_of_register (c : Component) (r : Registry) (d : Component) :
    (of c (r.register d)).text =
      if c.model = .structural ∧ c.tag ∈ d.parents then addReference d.tag (of c r).text
      else (of c r).text := by
  split
  · next h =>
      obtain ⟨hmodel, hparent⟩ := h
      obtain ⟨back, htext⟩ := addReference_text_of_structural hmodel
      rw [(htext (r.register d)).1, (htext r).2, Registry.childrenOf_register,
        if_pos (Component.allowsParent_text_iff.mpr hparent), openingLines, openingLines,
        List.map_append]
      simp only [List.cons_append, List.append_assoc, List.map_cons, List.map_nil,
        List.nil_append]
  · next h =>
      refine congrArg text (of_eq_iff.mpr ⟨rfl, rfl, rfl, fun hmodel => ?_⟩)
      have hparent : ¬ d.allowsParent c.tag.text = true := fun hallows =>
        h ⟨hmodel, Component.allowsParent_text_iff.mp hallows⟩
      rw [Registry.childrenOf_register, if_neg hparent, List.append_nil]

theorem text_of_foldl_register (c : Component) (r : Registry) (ds : List Component) :
    (of c (ds.foldl Registry.register r)).text =
      (ds.filter fun d => c.model = .structural ∧ c.tag ∈ d.parents).foldl
        (fun text d => addReference d.tag text) (of c r).text := by
  induction ds generalizing r with
  | nil => rfl
  | cons d ds ih =>
      rw [List.foldl_cons, ih, text_of_register, List.filter_cons]
      split
      · next h => rw [if_pos (decide_eq_true h), List.foldl_cons]
      · next h => rw [if_neg (by rwa [decide_eq_true_iff])]

end Fragment

/-- The text of a fragment after registrations, told from the text before them. Every
component that names the fragment's tag as a parent adds one line, if the body is a row
of children at all, and the line stands at the end of that row. -/
theorem text_after_registrations (c : Component) (r : Registry) :
    (∀ d, (Fragment.of c (r.register d)).text =
      if c.model = .structural ∧ c.tag ∈ d.parents then
        addReference d.tag (Fragment.of c r).text
      else (Fragment.of c r).text) ∧
    (c.model = .structural → ∃ back : List String,
      (Fragment.of c r).text =
        textOfLines (openingLines c.tag (r.childrenOf c.tag.text) ++ closingLine :: back) ∧
      ∀ child, addReference child (Fragment.of c r).text =
        textOfLines (openingLines c.tag (r.childrenOf c.tag.text) ++
          referenceLine child :: closingLine :: back)) ∧
    ∀ ds : List Component, (Fragment.of c (ds.foldl Registry.register r)).text =
      (ds.filter fun d => c.model = .structural ∧ c.tag ∈ d.parents).foldl
        (fun text d => addReference d.tag text) (Fragment.of c r).text := by
  refine ⟨Fragment.text_of_register c r, fun hmodel => ?_, Fragment.text_of_foldl_register c r⟩
  obtain ⟨back, htext⟩ := Fragment.addReference_text_of_structural hmodel
  exact ⟨back, htext r⟩

/-- A column that may stand in itself, with an attribute whose name holds a closing line,
and a text that names the column twice and is registered twice. -/
theorem text_after_registrations_of_repeated_parent :
    let column : Tag := ⟨"mj-column", by decide⟩
    let cell : Component :=
      { tag := column, attributes := .ofList [("a\n  </xs:sequence>\nb", "string")],
        parents := [column] }
    let text : Component :=
      { tag := ⟨"mj-text", by decide⟩, ending := true, parents := [column, column] }
    cell.model = .structural ∧
      (Fragment.of cell (.ofList [cell, text, text])).text =
        addReference text.tag (addReference text.tag (addReference column
          (Fragment.of cell .empty).text)) ∧
      ∃ back : List String, addReference text.tag (Fragment.of cell (.ofList [cell])).text =
        textOfLines ["<xs:complexType name=\"mj-column-elements\">", "  <xs:sequence>",
          referenceLine column, referenceLine text.tag] ++ textOfLines (closingLine :: back) := by
  intro column cell text
  have hmodel : cell.model = .structural := rfl
  obtain ⟨-, -, hrun⟩ := text_after_registrations cell .empty
  obtain ⟨back, -, hplace⟩ := (text_after_registrations cell (.ofList [cell])).2.1 hmodel
  refine ⟨hmodel, hrun [cell, text, text], back, ?_⟩
  rw [hplace, ← textOfLines_append]
  rfl

end Schema

end MarkupSchema
