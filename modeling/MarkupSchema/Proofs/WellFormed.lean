import MarkupSchema.Proofs.SchemaTypes

/-!
# Fragments are well-formed

That a reader accepts a text says that its tags fit one another. It says
nothing of the lines, because line breaks are white space to a reader, and it
says little of the values, because the reader only answers with them. This file
adds the two.

The lines are read one at a time, each a tag with its indentation, with nothing
in hand but the names of the elements that are open. The number of these is the
depth of a start tag before the tag is read and of an end tag after it, so the
same list that tells which end tag may come next tells how far a line has to be
indented.

For the values nothing has to be known of the text. A reader takes a value only
if nothing in it ends a value, and no value gets into its answer in another way.
So they hold of all that is ever read, and for fragments it is left to say that
they are.
-/

namespace MarkupSchema.Schema

/-! ## What a reader lets through -/

def Mark.attributes : Mark → List (String × String)
  | .start _ attributes | .empty _ attributes => attributes
  | .stop _ => []

/-- Attributes whose values hold nothing that ends a value. -/
def Contained (attributes : List (String × String)) : Prop :=
  ∀ pair ∈ attributes, pair.2.toList.all isValueChar = true

/-- Nodes whose attributes, and those of all nodes in them, are contained. -/
def ContainedIn (nodes : List Node) : Prop :=
  ∀ node ∈ Node.allOf nodes, Contained node.attributes

theorem contained_of_readAttributes {pieces : List (List Char)}
    {attributes : List (String × String)} {ending : List Char}
    (h : readAttributes pieces = some (attributes, ending)) : Contained attributes := by
  fun_induction readAttributes pieces generalizing attributes ending with
  | case1 => cases h
  | case2 =>
      cases h
      exact List.forall_mem_nil _
  | case3 lead value pieces name rest ending hrest hlead hvalue ih =>
      cases h
      refine List.forall_mem_cons.mpr ⟨?_, ih hrest⟩
      rwa [String.toList_ofList]
  | case4 => cases h
  | case5 => cases h

theorem attributes_of_readEnding {cs : List Char} {make : String → List (String × String) → Mark}
    (h : readEnding cs = some make) (name : String) (attributes : List (String × String)) :
    (make name attributes).attributes = attributes := by
  rw [readEnding] at h
  split at h
  · split at h
    · cases h
      rfl
    · cases h
  · split at h
    · cases h
      rfl
    · cases h
  · cases h

theorem contained_of_readStart {cs : List Char} {mark : Mark} (h : readStart cs = some mark) :
    Contained mark.attributes := by
  rw [readStart] at h
  split at h
  · cases h
  · next attributes ending hattributes =>
      split at h
      · obtain ⟨make, hmake, rfl⟩ := Option.map_eq_some_iff.mp h
        rw [attributes_of_readEnding hmake]
        exact contained_of_readAttributes hattributes
      · cases h

theorem contained_of_readStop {cs : List Char} {mark : Mark} (h : readStop cs = some mark) :
    Contained mark.attributes := by
  rw [readStop] at h
  split at h
  · split at h
    · cases h
      exact List.forall_mem_nil _
    · cases h
  · cases h

theorem contained_of_readMark {cs : List Char} {mark : Mark} (h : readMark cs = some mark) :
    Contained mark.attributes := by
  rw [readMark.eq_def] at h
  split at h
  · exact contained_of_readStop h
  · exact contained_of_readStart h

theorem mem_of_mapM_eq_some {α β : Type} {f : α → Option β} {as : List α} {bs : List β}
    (h : as.mapM f = some bs) : ∀ b ∈ bs, ∃ a ∈ as, f a = some b := by
  induction as generalizing bs with
  | nil =>
      cases h
      exact List.forall_mem_nil _
  | cons a as ih =>
      rw [List.mapM_cons] at h
      obtain ⟨b, hb, h⟩ := Option.bind_eq_some_iff.mp h
      obtain ⟨rest, hrest, h⟩ := Option.bind_eq_some_iff.mp h
      cases h
      refine List.forall_mem_cons.mpr ⟨⟨a, List.mem_cons_self, hb⟩, ?_⟩
      intro b' hb'
      obtain ⟨a', ha', hf⟩ := ih hrest b' hb'
      exact ⟨a', List.mem_cons_of_mem a ha', hf⟩

theorem contained_of_marksOf {cs : List Char} {marks : List Mark} (h : marksOf cs = some marks) :
    ∀ mark ∈ marks, Contained mark.attributes := by
  obtain ⟨front, chunks, -, -, hmarks⟩ := marksOf_eq_some h
  intro mark hmark
  obtain ⟨chunk, -, hchunk⟩ := mem_of_mapM_eq_some hmarks mark hmark
  exact contained_of_readMark hchunk

theorem containedIn_cons {name : String} {attributes : List (String × String)}
    {content rest : List Node} :
    ContainedIn (⟨name, attributes, content⟩ :: rest) ↔
      Contained attributes ∧ ContainedIn content ∧ ContainedIn rest := by
  simp only [ContainedIn, Node.allOf, Node.all, List.cons_append, List.forall_mem_cons,
    List.forall_mem_append]

theorem containedIn_reverse {nodes : List Node} :
    ContainedIn nodes.reverse ↔ ContainedIn nodes := by
  simp only [ContainedIn, Node.allOf_eq_flatMap, List.mem_flatMap, List.mem_reverse]

/-- A reader puts nodes together from tags and adds nothing. -/
theorem containedIn_of_nest {stack : List Frame} {done nodes : List Node} {marks : List Mark}
    (h : nest stack done marks = some nodes)
    (hstack : ∀ frame ∈ stack, Contained frame.attributes ∧ ContainedIn frame.before)
    (hdone : ContainedIn done) (hmarks : ∀ mark ∈ marks, Contained mark.attributes) :
    ContainedIn nodes := by
  fun_induction nest stack done marks with
  | case1 done =>
      cases h
      exact containedIn_reverse.mpr hdone
  | case2 => cases h
  | case3 stack done name attributes marks ih =>
      obtain ⟨hmark, hmarks⟩ := List.forall_mem_cons.mp hmarks
      exact ih h hstack (containedIn_cons.mpr ⟨hmark, List.forall_mem_nil _, hdone⟩) hmarks
  | case4 stack done name attributes marks ih =>
      obtain ⟨hmark, hmarks⟩ := List.forall_mem_cons.mp hmarks
      exact ih h (List.forall_mem_cons.mpr ⟨⟨hmark, hdone⟩, hstack⟩) (List.forall_mem_nil _) hmarks
  | case5 => cases h
  | case6 frame stack done marks ih =>
      obtain ⟨⟨hattributes, hbefore⟩, hstack⟩ := List.forall_mem_cons.mp hstack
      have hcontent := containedIn_reverse.mpr hdone
      exact ih h hstack (containedIn_cons.mpr ⟨hattributes, hcontent, hbefore⟩)
        (List.forall_mem_cons.mp hmarks).2
  | case7 => cases h

theorem containedIn_of_read {text : String} {nodes : List Node} (h : read text = some nodes) :
    ContainedIn nodes := by
  obtain ⟨marks, hmarks, hnodes⟩ := Option.bind_eq_some_iff.mp h
  exact containedIn_of_nest hnodes (List.forall_mem_nil _) (List.forall_mem_nil _)
    (contained_of_marksOf hmarks)

/-! ## Lines -/

/-- A tag on a line of its own, behind two spaces for each element around it. -/
def indented (depth : Nat) (tag : List Char) : List Char :=
  List.replicate (2 * depth) ' ' ++ '<' :: tag

/-- Lines that close all open elements, from the innermost one outwards, and
whatever they open themselves. Each holds one tag and is indented by the number
of elements around the one that it starts or ends. -/
inductive Nested : List String → List (List Char) → Prop
  | done : Nested [] []
  | whole {around : List String} {lines : List (List Char)} {tag : List Char} {name : String}
      {attributes : List (String × String)} (htag : readMark tag = some (.empty name attributes))
      (hlines : Nested around lines) : Nested around (indented around.length tag :: lines)
  | start {around : List String} {lines : List (List Char)} {tag : List Char} {name : String}
      {attributes : List (String × String)} (htag : readMark tag = some (.start name attributes))
      (hlines : Nested (name :: around) lines) : Nested around (indented around.length tag :: lines)
  | stop {around : List String} {lines : List (List Char)} {tag : List Char} {name : String}
      (htag : readMark tag = some (.stop name)) (hlines : Nested around lines) :
      Nested (name :: around) (indented around.length tag :: lines)

theorem Line.toList_text (line : Line) :
    line.text.toList = indented line.depth line.body.toList := by
  simp [text, Element.indent, indented]

theorem readMark_line {line : Line} (h : line.mark.Readable) :
    readMark line.body.toList = some line.mark := by
  have hmark : readMark (line.body.toList ++ []) = some line.mark := readMark_body h rfl
  rwa [List.append_nil] at hmark

namespace Element

mutual

/-- The lines of an element leave the open elements as they are. -/
theorem nested_layout {around : List String} {rest : List (List Char)} (e : Element)
    (h : ∀ line ∈ layout around.length e, line.mark.Readable) (hrest : Nested around rest) :
    Nested around ((layout around.length e).map (fun line => line.text.toList) ++ rest) := by
  match e with
  | .leaf name attributes spaced =>
      rw [layout, List.forall_mem_singleton] at h
      rw [layout, List.map_singleton, List.singleton_append, Line.toList_text]
      exact .whole (readMark_line h) hrest
  | .node name attributes content =>
      rw [layout, List.forall_mem_cons, List.forall_mem_append, List.forall_mem_singleton] at h
      obtain ⟨hstart, hcontent, hstop⟩ := h
      rw [layout, List.map_cons, List.map_append, List.map_singleton, List.cons_append,
        List.append_assoc, List.singleton_append, Line.toList_text, Line.toList_text]
      exact .start (readMark_line hstart)
        (nested_layoutAll content hcontent (.stop (readMark_line hstop) hrest))

theorem nested_layoutAll {around : List String} {rest : List (List Char)} (es : List Element)
    (h : ∀ line ∈ layoutAll around.length es, line.mark.Readable) (hrest : Nested around rest) :
    Nested around ((layoutAll around.length es).map (fun line => line.text.toList) ++ rest) := by
  match es with
  | [] => exact hrest
  | e :: es =>
      rw [layoutAll, List.forall_mem_append] at h
      rw [layoutAll, List.map_append, List.append_assoc]
      exact nested_layout e h.1 (nested_layoutAll es h.2 hrest)

end

end Element

/-! ## Texts -/

/-- A text that is a row of elements, laid out one tag to a line. -/
structure WellFormed (text : String) (nodes : List Node) : Prop where
  /-- What a reader makes of the text, every end tag being that of the start tag
  that is open. -/
  isRead : read text = some nodes
  /-- The lines nest in the same way and are indented by it. -/
  nested : ∃ lines, text.toList.splitOn '\n' = lines ++ [[]] ∧ Nested [] lines
  /-- No value holds anything that would have to be escaped in it. -/
  values : ∀ node ∈ Node.allOf nodes, ∀ pair ∈ node.attributes,
    ∀ c ∈ ['"', '<', '&', '\n'], c ∉ pair.2.toList

open Element

theorem not_mem_of_contained {attributes : List (String × String)} (h : Contained attributes) :
    ∀ pair ∈ attributes, ∀ c ∈ ['"', '<', '&', '\n'], c ∉ pair.2.toList := by
  have hends : ∀ c ∈ ['"', '<', '&', '\n'], isValueChar c = false := by simp [isValueChar]
  intro pair hpair c hc hmem
  have hvalue := List.all_eq_true.mp (h pair hpair) c hmem
  rw [hends c hc] at hvalue
  cases hvalue

theorem splitOn_textOfLines {lines : List Line} (h : ∀ line ∈ lines, line.mark.Readable) :
    (textOfLines (lines.map Line.text)).toList.splitOn '\n'
      = lines.map (fun line => line.text.toList) ++ [[]] := by
  have hlines : ∀ text ∈ lines.map Line.text, '\n' ∉ text.toList := by
    rw [List.forall_mem_map]
    exact fun line hline => Line.lineFeed_not_mem_text
      (not_mem_parts_of_readable (h line hline) (by decide) (by decide))
  rw [textOfLines, String.toList_ofList, splitOn_flatMap_concat hlines, List.map_map]
  rfl

/-- Elements are laid out as a well-formed text if each of their tags is readable. -/
theorem wellFormed_layout {es : List Element} (h : ∀ line ∈ layoutAll 0 es, line.mark.Readable) :
    WellFormed (textOfLines (linesOfAll 0 es)) (seenAll es) where
  isRead := read_layout h
  nested := by
    have hnested : Nested [] _ := nested_layoutAll es h .done
    refine ⟨_, ?_, hnested⟩
    rw [linesOfAll_eq_map_text, splitOn_textOfLines h, List.append_nil]
    rfl
  values node hnode := not_mem_of_contained (containedIn_of_read (read_layout h) node hnode)

namespace Fragment

theorem map_name_seenAll_elements (f : Fragment) :
    (seenAll f.elements).map Node.name
      = List.replicate (if f.model = .attributesOnly then 1 else 2) "xs:complexType"
        ++ ["xs:element"] := by
  obtain ⟨tag, body, attributes⟩ := f
  cases body <;> rfl

end Fragment

theorem model_eq_attributesOnly_iff (c : Component) :
    c.model = .attributesOnly ↔ c.ending = true ∧ c.selfClosing = true := by
  rw [Component.model]
  cases c.ending <;> cases c.selfClosing <;> simp

/-- The text of a fragment is well-formed if the names of its attributes could be
tags. At its top there are one or two complex types, one where a component has
attributes only, and then the declaration of the element. -/
theorem wellFormed_text (c : Component) (r : Registry) (h : c.WellNamed) :
    ∃ nodes, WellFormed (Fragment.of c r).text nodes ∧
      nodes.map Node.name =
        List.replicate (if c.ending = true ∧ c.selfClosing = true then 1 else 2) "xs:complexType"
          ++ ["xs:element"] := by
  refine ⟨_, wellFormed_layout (Fragment.readable_layout (all_isValueChar_of_wellNamed h)), ?_⟩
  rw [Fragment.map_name_seenAll_elements, Fragment.model_of]
  simp only [model_eq_attributesOnly_iff]

/-- A structural component with attributes, a child and a tag with a suffix, and
one without a body. -/
theorem wellFormed_text_of_column_and_image :
    let columnTag : Tag := ⟨"mj-column-elements", by decide⟩
    let column : Component :=
      { tag := columnTag, attributes := .ofList [("width", "px"), ("css-class", "string")] }
    let image : Component :=
      { tag := ⟨"mj-image", by decide⟩, ending := true, selfClosing := true,
        attributes := .ofList [("_src.2", "string")], parents := [columnTag, columnTag] }
    let r : Registry := .ofList [image, column, image]
    (column.WellNamed ∧ image.WellNamed) ∧
      (∃ nodes, WellFormed (Fragment.of column r).text nodes ∧
        nodes.map Node.name = ["xs:complexType", "xs:complexType", "xs:element"]) ∧
      ∃ nodes, WellFormed (Fragment.of image r).text nodes ∧
        nodes.map Node.name = ["xs:complexType", "xs:element"] := by
  intro columnTag column image r
  have hnamed : column.WellNamed ∧ image.WellNamed := by decide
  exact ⟨hnamed, wellFormed_text column r hnamed.1, wellFormed_text image r hnamed.2⟩

end MarkupSchema.Schema
