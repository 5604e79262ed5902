import MarkupSchema.Proofs.WellFormed

/-!
# Names of attributes in the text

A component declares one attribute for each of its names, and what is declared
should be what the component says, whatever the names are. Tags are checked
before they come into a component so that they can be written as they are. The
names of attributes are written the same way and are not checked, so all depends
on what is in them.

How much depends on it can be said exactly. A reader never answers with a value
that holds a quote, an angle bracket that opens a tag, an ampersand, a character
below the space or one of the two that markup may not hold, U+FFFE and U+FFFF. So a
component with a name of that kind is never read as it is meant: its text is refused,
or it is read as something else. With all other names it is read as it is meant, and
nothing but the declarations of the attributes themselves depends on the names.

That a text may be read as something else is more than a matter of this reader.
A name can be written so that the text is, character by character, the text of
another component with two names. Whoever reads the text cannot tell the two
components apart.
-/

namespace MarkupSchema.Schema

/-! ## Attributes as a reader finds them -/

/-- The names that nodes declare attributes under, at the top or anywhere below
it, in the order of the text. -/
def declaredAttributes (nodes : List Node) : List (Option String) :=
  ((Node.allOf nodes).filter fun node => node.name = "xs:attribute").map fun node =>
    node.attribute? "name"

mutual

/-- A node without the declarations of attributes in it. -/
def Node.pruned : Node → Node
  | ⟨name, attributes, content⟩ => ⟨name, attributes, prunedAll content⟩

def prunedAll : List Node → List Node
  | [] => []
  | node :: rest =>
      if node.name = "xs:attribute" then prunedAll rest else node.pruned :: prunedAll rest

end

@[simp] theorem declaredAttributes_nil : declaredAttributes [] = [] := rfl

@[simp] theorem prunedAll_nil : prunedAll [] = [] := by rw [prunedAll]

theorem declaredAttributes_cons (name : String) (attributes : List (String × String))
    (content rest : List Node) :
    declaredAttributes (⟨name, attributes, content⟩ :: rest)
      = (if name = "xs:attribute" then [attributes.lookup "name"] else []) ++
        (declaredAttributes content ++ declaredAttributes rest) := by
  rw [declaredAttributes, Node.allOf, Node.all, List.cons_append, List.filter_cons,
    List.filter_append]
  by_cases h : name = "xs:attribute"
  · simp [h, declaredAttributes, Node.attribute?]
  · simp [h, declaredAttributes]

theorem prunedAll_cons (name : String) (attributes : List (String × String))
    (content rest : List Node) :
    prunedAll (⟨name, attributes, content⟩ :: rest)
      = if name = "xs:attribute" then prunedAll rest
        else ⟨name, attributes, prunedAll content⟩ :: prunedAll rest := by
  rw [prunedAll, Node.pruned]

open Element

theorem declaredAttributes_attributeDeclarations (names : List String) :
    declaredAttributes (seenAll (names.map attributeDeclaration)) = names.map some := by
  induction names with
  | nil => rfl
  | cons name names ih =>
      rw [List.map_cons, seenAll, attributeDeclaration, seen, declaredAttributes_cons, ih]
      rfl

theorem declaredAttributes_childReferences (children : List Tag) :
    declaredAttributes (seenAll (children.map childReference)) = [] := by
  induction children with
  | nil => rfl
  | cons child children ih =>
      rw [List.map_cons, seenAll, childReference, seen, declaredAttributes_cons, ih]
      rfl

theorem prunedAll_attributeDeclarations (names : List String) :
    prunedAll (seenAll (names.map attributeDeclaration)) = [] := by
  induction names with
  | nil => rfl
  | cons name names ih =>
      rw [List.map_cons, seenAll, attributeDeclaration, seen, prunedAll_cons, if_pos rfl, ih]

theorem prunedAll_childReferences (children : List Tag) :
    prunedAll (seenAll (children.map childReference)) = seenAll (children.map childReference) := by
  induction children with
  | nil => rfl
  | cons child children ih =>
      rw [List.map_cons, seenAll, childReference, seen, prunedAll_cons, if_neg (by decide), ih]
      rfl

namespace Fragment

theorem declaredAttributes_elements (f : Fragment) :
    declaredAttributes (seenAll f.elements) = f.attributes.map some := by
  obtain ⟨tag, body, attributes⟩ := f
  cases body with
  | structural children =>
      simp [elements, types, complexType, extendingType, elementDeclaration, seenAll, seen,
        declaredAttributes_cons, declaredAttributes_attributeDeclarations,
        declaredAttributes_childReferences]
  | mixed =>
      simp [elements, types, complexType, extendingType, elementDeclaration, anyElement, seenAll,
        seen, declaredAttributes_cons, declaredAttributes_attributeDeclarations]
  | attributesOnly =>
      simp [elements, types, complexType, elementDeclaration, seenAll, seen,
        declaredAttributes_cons, declaredAttributes_attributeDeclarations]

theorem prunedAll_elements (f : Fragment) :
    prunedAll (seenAll f.elements) = seenAll (elements { f with attributes := [] }) := by
  obtain ⟨tag, body, attributes⟩ := f
  cases body with
  | structural children =>
      simp [elements, types, complexType, extendingType, elementDeclaration, seenAll, seen,
        prunedAll_cons, prunedAll_attributeDeclarations, prunedAll_childReferences]
  | mixed =>
      simp [elements, types, complexType, extendingType, elementDeclaration, anyElement, seenAll,
        seen, prunedAll_cons, prunedAll_attributeDeclarations]
  | attributesOnly =>
      simp [elements, types, complexType, elementDeclaration, seenAll, seen, prunedAll_cons,
        prunedAll_attributeDeclarations]

theorem read_text {f : Fragment} (h : ∀ name ∈ f.attributes, name.toList.all isValueChar = true) :
    read f.text = some (seenAll f.elements) := read_layout (readable_layout h)

end Fragment

theorem isValueChar_of_mem_declaredAttributes {text name : String} {nodes : List Node}
    (h : read text = some nodes) (hname : some name ∈ declaredAttributes nodes) :
    name.toList.all isValueChar = true := by
  obtain ⟨node, hnode, hlookup⟩ := List.mem_map.mp hname
  obtain ⟨front, behind, hattributes, -⟩ := List.lookup_eq_some_iff.mp hlookup
  refine containedIn_of_read h node (List.mem_filter.mp hnode).1 ("name", name) ?_
  rw [hattributes]
  exact List.mem_append_right _ List.mem_cons_self

/-- The text of a component is read as declaring its attributes, in order and
with nothing else changed by them, exactly if the names hold only characters that a
value may hold. -/
theorem declaredAttributes_eq_names_iff (c : Component) (r : Registry) :
    (∃ nodes plain, read (Fragment.of c r).text = some nodes ∧
        read (Fragment.of { c with attributes := .empty } r).text = some plain ∧
        declaredAttributes nodes = c.attributes.names.map some ∧ prunedAll nodes = plain) ↔
      ∀ name ∈ c.attributes.names, name.toList.all isValueChar = true := by
  constructor
  · intro h name hname
    obtain ⟨nodes, plain, hread, -, hdeclared, -⟩ := h
    refine isValueChar_of_mem_declaredAttributes hread ?_
    rw [hdeclared]
    exact List.mem_map_of_mem hname
  · intro h
    have hplain : Fragment.of { c with attributes := .empty } r
        = { Fragment.of c r with attributes := [] } := rfl
    refine ⟨_, _, Fragment.read_text h, Fragment.read_text (List.forall_mem_nil _),
      Fragment.declaredAttributes_elements _, ?_⟩
    rw [Fragment.prunedAll_elements, hplain]

/-! ## Two names in one -/

/-- A name that closes its declaration and opens another one. -/
def joined (a b : String) : String := a ++ "\" />\n  <xs:attribute type=\"xs:string\" name=\"" ++ b

theorem text_joined (tag : Tag) (a b : String) :
    Fragment.text ⟨tag, .attributesOnly, [joined a b]⟩
      = Fragment.text ⟨tag, .attributesOnly, [a, b]⟩ := by
  rw [← String.toList_inj]
  simp [Fragment.text, Fragment.elements, Fragment.types, complexType, attributeDeclaration,
    linesOfAll, lines, writeAttributes, textOfLines, indent, joined]

/-- One name is read as two, and the text is that of a component with the two
names, so nothing made from the text can be right about both. -/
theorem text_of_joined_name :
    let image : Component :=
      { tag := ⟨"mj-image", by decide⟩, ending := true, selfClosing := true }
    let one : Component := { image with attributes := .ofList [(joined "a" "b", "string")] }
    let two : Component := { image with attributes := .ofList [("a", "string"), ("b", "string")] }
    one.attributes.names = [joined "a" "b"] ∧ two.attributes.names = ["a", "b"] ∧
      (Fragment.of one .empty).text = (Fragment.of two .empty).text ∧
      (read (Fragment.of one .empty).text).map declaredAttributes = some [some "a", some "b"] ∧
      ∀ seen : String → List String,
        ¬ ∀ (c : Component) (r : Registry), seen (Fragment.of c r).text = c.attributes.names := by
  intro image one two
  have htext : (Fragment.of one .empty).text = (Fragment.of two .empty).text :=
    text_joined image.tag "a" "b"
  have hread : read (Fragment.of two .empty).text = _ := Fragment.read_text (by decide)
  refine ⟨rfl, rfl, htext, ?_, ?_⟩
  · rw [htext, hread, Option.map_some, Fragment.declaredAttributes_elements]
    rfl
  · intro seen h
    have hnames : one.attributes.names = two.attributes.names := by
      rw [← h one .empty, htext, h two .empty]
    exact absurd (congrArg List.length hnames) (by decide)

end MarkupSchema.Schema
