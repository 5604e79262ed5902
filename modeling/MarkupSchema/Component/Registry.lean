import MarkupSchema.Component.Basic

/-!
# Registries

A registry is the list of the registered components. Registering appends and
never looks at what is there: a tag may be registered any number of times.
Looking a tag up answers with its first component, while the children of a
tag are all components that name it as a parent, one entry for each.
-/

namespace MarkupSchema

/-- The components in the order of their registration. -/
structure Registry where
  components : List Component := []
  deriving DecidableEq

namespace Registry

/-- The registry without components. -/
def empty : Registry := {}

instance : Inhabited Registry := ⟨empty⟩

/-- The registry that holds the given components. -/
def ofList (components : List Component) : Registry := ⟨components⟩

/-- Appends a component. -/
def register (r : Registry) (c : Component) : Registry := ⟨r.components ++ [c]⟩

/-- The number of registered components. -/
def size (r : Registry) : Nat := r.components.length

/-- The tags of all components in order. -/
def tags (r : Registry) : List Tag := r.components.map Component.tag

/-- The first component registered under the tag written `text`. -/
def get? (r : Registry) (text : String) : Option Component :=
  r.components.find? fun c => c.tag.text == text

/-- The tags of the components that may stand under the tag written `text`. -/
def childrenOf (r : Registry) (text : String) : List Tag :=
  (r.components.filter fun c => c.allowsParent text).map Component.tag

/-- Whether two registries hold the same components in the same order, the
order of attributes apart. -/
def agrees (a b : Registry) : Bool :=
  a.size == b.size && (a.components.zip b.components).all fun pair => pair.1.agrees pair.2

theorem ext {a b : Registry} (h : a.components = b.components) : a = b := by
  cases a
  cases b
  simp_all

@[simp] theorem components_register (r : Registry) (c : Component) :
    (r.register c).components = r.components ++ [c] := rfl

@[simp] theorem components_ofList (cs : List Component) : (ofList cs).components = cs := rfl

/-- A registration adds the component's tag to the children of each of its
parents, at the end, and to no others. -/
theorem childrenOf_register (r : Registry) (c : Component) (text : String) :
    (r.register c).childrenOf text =
      r.childrenOf text ++ if c.allowsParent text then [c.tag] else [] := by
  cases h : c.allowsParent text <;> simp [childrenOf, h]

end Registry

end MarkupSchema
