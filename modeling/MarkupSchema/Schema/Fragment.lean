import MarkupSchema.Component.Registry
import MarkupSchema.Event
import MarkupSchema.Schema.Element

/-!
# Schema fragments

Each component gets a fragment of schema text of its own: the complex types
that describe its body and attributes, and the declaration of its element.
The body follows one of three content models. A structural body is a sequence
of references to child elements, each optional and repeatable; a mixed body
takes text and any elements; and a component with attributes only has no body
type at all.

A fragment holds exactly what its text depends on: the tag, the body, and the
names of the attributes in order. Types of attributes, the component's own
parents, and the registry except for a structural body's children are gone
by the time the text is written.
-/

namespace MarkupSchema

/-- How the body of a component is described. -/
inductive ContentModel where
  | structural
  | mixed
  | attributesOnly
  deriving DecidableEq, Repr

/-- The content model of a component. Whether the tag closes itself matters
only where its body is text: a structural tag that closes itself keeps its
sequence of children, which is empty unless some component names it as a
parent. -/
def Component.model (c : Component) : ContentModel :=
  match c.ending, c.selfClosing with
  | false, _ => .structural
  | true, false => .mixed
  | true, true => .attributesOnly

namespace Schema

/-- The body of a fragment. -/
inductive Body where
  | structural (children : List Tag)
  | mixed
  | attributesOnly
  deriving DecidableEq

/-- The schema fragment of one component. -/
structure Fragment where
  tag : Tag
  body : Body
  attributes : List String
  deriving DecidableEq

/-- The name of the type that describes a tag's body. -/
def elementsType (tag : Tag) : String := tag.text ++ "-elements"

/-- The occurrence bounds of every particle: optional and repeatable. -/
def anyNumber : List (String × String) := [("minOccurs", "0"), ("maxOccurs", "unbounded")]

/-- A reference to a child element. -/
def childReference (child : Tag) : Element :=
  .leaf "xs:element" ([("name", child.text), ("type", child.text)] ++ anyNumber) false

/-- A place for elements of any kind, which are not looked into. -/
def anyElement : Element :=
  .leaf "xs:any" (("processContents", "skip") :: anyNumber) false

/-- The declaration of an attribute. All attributes are strings here. -/
def attributeDeclaration (name : String) : Element :=
  .leaf "xs:attribute" [("type", "xs:string"), ("name", name)] true

/-- The declaration of a tag's element. -/
def elementDeclaration (tag : Tag) : Element :=
  .leaf "xs:element" [("name", tag.text), ("type", tag.text)] true

/-- A complex type. -/
def complexType (name : String) (more : List (String × String)) (content : List Element) :
    Element :=
  .node "xs:complexType" (("name", name) :: more) content

/-- The type of a tag with a body: the type of the body, extended by the
attributes. -/
def extendingType (tag : Tag) (attributes : List String) : Element :=
  complexType tag.text []
    [.node "xs:complexContent" []
      [.node "xs:extension" [("base", elementsType tag)] (attributes.map attributeDeclaration)]]

namespace Fragment

/-- The fragment of a component against a registry. -/
def of (c : Component) (r : Registry) : Fragment where
  tag := c.tag
  body :=
    match c.model with
    | .structural => .structural (r.childrenOf c.tag.text)
    | .mixed => .mixed
    | .attributesOnly => .attributesOnly
  attributes := c.attributes.names

/-- The complex types of a fragment. -/
def types (f : Fragment) : List Element :=
  match f.body with
  | .structural children =>
      [complexType (elementsType f.tag) [] [.node "xs:sequence" [] (children.map childReference)],
        extendingType f.tag f.attributes]
  | .mixed =>
      [complexType (elementsType f.tag) [("mixed", "true")] [.node "xs:sequence" [] [anyElement]],
        extendingType f.tag f.attributes]
  | .attributesOnly => [complexType f.tag.text [] (f.attributes.map attributeDeclaration)]

/-- All top-level elements of a fragment, the element declaration last. -/
def elements (f : Fragment) : List Element := f.types ++ [elementDeclaration f.tag]

/-- The text of a fragment. -/
def text (f : Fragment) : String := textOfLines (Element.linesOfAll 0 f.elements)

/-- What is reported when a fragment is written. -/
def event (f : Fragment) : Event :=
  match f.body with
  | .structural children =>
      ⟨.trace, "rendering structural fragment",
        [("tag", .text f.tag.text), ("children", .number children.length)]⟩
  | .mixed => ⟨.trace, "rendering mixed-content fragment", [("tag", .text f.tag.text)]⟩
  | .attributesOnly => ⟨.trace, "rendering attribute-only fragment", [("tag", .text f.tag.text)]⟩

/-- The content model a fragment was made by. -/
def model (f : Fragment) : ContentModel :=
  match f.body with
  | .structural _ => .structural
  | .mixed => .mixed
  | .attributesOnly => .attributesOnly

@[simp] theorem model_of (c : Component) (r : Registry) : (of c r).model = c.model := by
  cases h : c.model <;> simp [model, of, h]

end Fragment

/-- The fragments of all components of a registry, each against the whole of
it. -/
def fragments (r : Registry) : List Fragment := r.components.map fun c => .of c r

end Schema

end MarkupSchema
