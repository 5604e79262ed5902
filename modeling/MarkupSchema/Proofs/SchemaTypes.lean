import MarkupSchema.Proofs.FragmentReading
import Mathlib.Data.List.Pairwise

/-!
# The types of a schema

A schema is put together from fragments that know nothing of each other, so
whether it hangs together is a question about the whole. Two things can go
wrong: a type is used that nobody declares, or a type is declared twice. Both
are asked here of what a reader sees in the text, and both come down to lists
of names, one for each fragment: the types it uses and the types it declares.

Nothing of the first kind happens. A type that a fragment uses is one of its
own or that of a child, and a child is a registered component, with a fragment
of its own in which its type is declared. It matters that children are looked
up in the registry and parents are not: a parent that nobody registered has no
fragment, and nothing refers to it.

The second does happen, although tags stand for themselves and no tag stands
twice, because the type of a body has a name that a tag may have as well. The
main statement says that this is the only way.
-/

namespace MarkupSchema.Schema

/-! ## Types as a reader finds them -/

namespace Node

def attribute? (node : Node) (name : String) : Option String := node.attributes.lookup name

mutual

/-- A node and all nodes in it. -/
def all : Node → List Node
  | ⟨name, attributes, content⟩ => ⟨name, attributes, content⟩ :: allOf content

def allOf : List Node → List Node
  | [] => []
  | node :: rest => all node ++ allOf rest

end

theorem allOf_eq_flatMap (nodes : List Node) : allOf nodes = nodes.flatMap all := by
  induction nodes with
  | nil => rfl
  | cons node rest ih => rw [allOf, ih, List.flatMap_cons]

/-- The type that a node refers to. -/
def usedType? (node : Node) : Option String :=
  if node.name = "xs:element" then node.attribute? "type"
  else if node.name = "xs:extension" then node.attribute? "base"
  else none

/-- The type that a node declares where it stands at the top of a schema. -/
def declaredType? (node : Node) : Option String :=
  if node.name = "xs:complexType" then node.attribute? "name" else none

end Node

/-- The types that a schema refers to, at the top or anywhere below it. -/
def usedTypes (nodes : List Node) : List String := (Node.allOf nodes).filterMap Node.usedType?

/-- The types that a schema declares. -/
def declaredTypes (nodes : List Node) : List String := nodes.filterMap Node.declaredType?

theorem usedTypes_cons (node : Node) (rest : List Node) :
    usedTypes (node :: rest)
      = node.usedType?.toList ++ usedTypes node.content ++ usedTypes rest := by
  obtain ⟨name, attributes, content⟩ := node
  rw [usedTypes, Node.allOf, Node.all, List.cons_append, List.filterMap_cons,
    List.filterMap_append, usedTypes, usedTypes]
  cases Node.usedType? ⟨name, attributes, content⟩ <;> rfl

open Element

@[simp] theorem usedTypes_nil : usedTypes [] = [] := rfl

theorem usedTypes_append (nodes nodes' : List Node) :
    usedTypes (nodes ++ nodes') = usedTypes nodes ++ usedTypes nodes' := by
  rw [usedTypes, Node.allOf_eq_flatMap, List.flatMap_append, List.filterMap_append,
    ← Node.allOf_eq_flatMap, ← Node.allOf_eq_flatMap, usedTypes, usedTypes]

theorem declaredTypes_append (nodes nodes' : List Node) :
    declaredTypes (nodes ++ nodes') = declaredTypes nodes ++ declaredTypes nodes' :=
  List.filterMap_append

theorem seenAll_append (es es' : List Element) :
    seenAll (es ++ es') = seenAll es ++ seenAll es' := by
  induction es with
  | nil => rfl
  | cons e es ih => rw [List.cons_append, seenAll, seenAll, ih, List.cons_append]

/-! ## Types of a fragment -/

theorem usedTypes_seenAll_cons (e : Element) (es : List Element) :
    usedTypes (seenAll (e :: es)) = usedTypes [seen e] ++ usedTypes (seenAll es) := by
  rw [seenAll, usedTypes_cons, usedTypes_cons, usedTypes_nil, List.append_nil]

/-- An element with content adds its own type, if it uses any, to those below. -/
theorem usedTypes_node {name : String} {attributes : List (String × String)}
    {content : List Element} :
    usedTypes [seen (.node name attributes content)]
      = (Node.usedType? ⟨name, attributes, []⟩).toList ++ usedTypes (seenAll content) := by
  rw [seen, usedTypes_cons, usedTypes_nil, List.append_nil]
  rfl

theorem usedTypes_childReferences (children : List Tag) :
    usedTypes (seenAll (children.map childReference)) = children.map Tag.text := by
  induction children with
  | nil => rfl
  | cons child children ih =>
      rw [List.map_cons, usedTypes_seenAll_cons, ih]
      rfl

theorem usedTypes_attributeDeclarations (names : List String) :
    usedTypes (seenAll (names.map attributeDeclaration)) = [] := by
  induction names with
  | nil => rfl
  | cons name names ih =>
      rw [List.map_cons, usedTypes_seenAll_cons, ih]
      rfl

theorem usedTypes_complexType (name : String) (more : List (String × String))
    (content : List Element) :
    usedTypes [seen (complexType name more content)] = usedTypes (seenAll content) :=
  usedTypes_node

theorem usedTypes_extendingType (tag : Tag) (attributes : List String) :
    usedTypes [seen (extendingType tag attributes)] = [elementsType tag] := by
  simp only [extendingType, usedTypes_complexType, usedTypes_seenAll_cons, usedTypes_node,
    usedTypes_attributeDeclarations]
  rfl

theorem usedTypes_elementDeclaration (tag : Tag) :
    usedTypes [seen (elementDeclaration tag)] = [tag.text] := rfl

namespace Fragment

def children (f : Fragment) : List Tag :=
  match f.body with
  | .structural children => children
  | .mixed | .attributesOnly => []

/-- The types that a fragment declares, in the order of its text. -/
def declares (f : Fragment) : List String :=
  match f.body with
  | .structural _ | .mixed => [elementsType f.tag, f.tag.text]
  | .attributesOnly => [f.tag.text]

/-- The types that a fragment refers to, in the order of its text: those of its
children, and then everything it declares itself. -/
def uses (f : Fragment) : List String := f.children.map Tag.text ++ f.declares

theorem usedTypes_elements (f : Fragment) : usedTypes (seenAll f.elements) = f.uses := by
  obtain ⟨tag, body, attributes⟩ := f
  cases body with
  | structural children =>
      simp only [elements, types, List.cons_append, List.nil_append, usedTypes_seenAll_cons,
        usedTypes_complexType, usedTypes_node, usedTypes_childReferences, usedTypes_extendingType,
        usedTypes_elementDeclaration]
      exact congrArg (· ++ [elementsType tag, tag.text]) (List.append_nil _)
  | mixed =>
      simp only [elements, types, List.cons_append, List.nil_append, usedTypes_seenAll_cons,
        usedTypes_complexType, usedTypes_node, usedTypes_extendingType,
        usedTypes_elementDeclaration]
      rfl
  | attributesOnly =>
      simp only [elements, types, List.cons_append, List.nil_append, usedTypes_seenAll_cons,
        usedTypes_complexType, usedTypes_attributeDeclarations, usedTypes_elementDeclaration]
      rfl

theorem declaredTypes_elements (f : Fragment) :
    declaredTypes (seenAll f.elements) = f.declares := by
  obtain ⟨tag, body, attributes⟩ := f
  cases body <;> rfl

theorem mem_declares {f : Fragment} {type : String} :
    type ∈ f.declares ↔
      type = f.tag.text ∨ f.model ≠ .attributesOnly ∧ type = elementsType f.tag := by
  obtain ⟨tag, body, attributes⟩ := f
  cases body <;> simp [declares, model, or_comm]

@[simp] theorem tag_of (c : Component) (r : Registry) : (of c r).tag = c.tag := rfl

/-- The children of a structural body are registered. -/
theorem mem_tags_of_mem_children {c : Component} {r : Registry} {child : Tag}
    (h : child ∈ (of c r).children) : child ∈ r.tags := by
  simp only [children, of] at h
  cases hmodel : c.model with
  | structural =>
      rw [hmodel] at h
      obtain ⟨d, hd, rfl⟩ := List.mem_map.mp h
      exact List.mem_map_of_mem (List.mem_filter.mp hd).1
  | mixed | attributesOnly =>
      rw [hmodel] at h
      cases h

end Fragment

/-! ## Types of a whole schema -/

theorem usedTypes_fragments (fs : List Fragment) :
    usedTypes (seenAll (fs.flatMap Fragment.elements)) = fs.flatMap Fragment.uses := by
  induction fs with
  | nil => rfl
  | cons f fs ih =>
      rw [List.flatMap_cons, seenAll_append, usedTypes_append, ih, Fragment.usedTypes_elements,
        List.flatMap_cons]

theorem declaredTypes_fragments (fs : List Fragment) :
    declaredTypes (seenAll (fs.flatMap Fragment.elements)) = fs.flatMap Fragment.declares := by
  induction fs with
  | nil => rfl
  | cons f fs ih =>
      rw [List.flatMap_cons, seenAll_append, declaredTypes_append, ih,
        Fragment.declaredTypes_elements, List.flatMap_cons]

theorem mem_flatMap_declares {r : Registry} {type : String} :
    type ∈ (fragments r).flatMap Fragment.declares ↔
      ∃ c ∈ r.components,
        type = c.tag.text ∨ c.model ≠ .attributesOnly ∧ type = elementsType c.tag := by
  rw [fragments, List.flatMap_map, List.mem_flatMap]
  simp only [Fragment.mem_declares, Fragment.model_of, Fragment.tag_of]

/-- What a fragment uses and does not declare is the type of a child, and the
fragment of that child declares it. -/
theorem mem_flatMap_uses {r : Registry} {type : String} :
    type ∈ (fragments r).flatMap Fragment.uses ↔
      type ∈ (fragments r).flatMap Fragment.declares := by
  constructor
  · intro h
    obtain ⟨f, hf, htype⟩ := List.mem_flatMap.mp h
    rw [Fragment.uses, List.mem_append] at htype
    rcases htype with hchild | hown
    · obtain ⟨child, hmem, rfl⟩ := List.mem_map.mp hchild
      obtain ⟨c, -, rfl⟩ := List.mem_map.mp hf
      obtain ⟨d, hd, rfl⟩ := List.mem_map.mp (Fragment.mem_tags_of_mem_children hmem)
      exact mem_flatMap_declares.mpr ⟨d, hd, .inl rfl⟩
    · exact List.mem_flatMap.mpr ⟨f, hf, hown⟩
  · intro h
    obtain ⟨f, hf, htype⟩ := List.mem_flatMap.mp h
    exact List.mem_flatMap.mpr ⟨f, hf, List.mem_append_right _ htype⟩

/-- A schema declares the type of every tag, and the types it uses are those it
declares. -/
theorem mem_usedTypes_iff_mem_declaredTypes (r : Registry) (h : ∀ c ∈ r.components, c.WellNamed) :
    ∃ nodes, read (assembled r) = some nodes ∧
      (∀ tag ∈ r.tags, tag.text ∈ declaredTypes nodes) ∧
      ∀ type, type ∈ usedTypes nodes ↔ type ∈ declaredTypes nodes := by
  refine ⟨_, read_assembled h, ?_, ?_⟩
  · intro tag htag
    obtain ⟨c, hc, rfl⟩ := List.mem_map.mp htag
    rw [declaredTypes_fragments]
    exact mem_flatMap_declares.mpr ⟨c, hc, .inl rfl⟩
  · intro type
    rw [usedTypes_fragments, declaredTypes_fragments]
    exact mem_flatMap_uses

theorem mem_usedTypes_iff_of_cyclic_parents :
    let root : Tag := ⟨"mjml", by decide⟩
    let column : Tag := ⟨"mj-column", by decide⟩
    let group : Tag := ⟨"mj-group", by decide⟩
    let absent : Tag := ⟨"mj-section", by decide⟩
    let width : Attributes := .ofList [("width", "px"), ("css-class", "string")]
    let r : Registry := .ofList
      [{ tag := column, attributes := width, parents := [group, absent, column] },
        { tag := group, selfClosing := true, parents := [column, column] },
        { tag := ⟨"mj-text", by decide⟩, ending := true, attributes := width, parents := [column] },
        { tag := ⟨"mj-image", by decide⟩, ending := true, selfClosing := true,
          parents := [column, root] },
        { tag := column, ending := true }]
    (∀ c ∈ r.components, c.WellNamed) ∧
      ∃ nodes, read (assembled r) = some nodes ∧
        (∀ tag ∈ r.tags, tag.text ∈ declaredTypes nodes) ∧
        ∀ type, type ∈ usedTypes nodes ↔ type ∈ declaredTypes nodes := by
  intro root column group absent width r
  have hnamed : ∀ c ∈ r.components, c.WellNamed := by decide
  exact ⟨hnamed, mem_usedTypes_iff_mem_declaredTypes r hnamed⟩

/-! ## Names that meet -/

/-- Whether the body type of one component is named like the tag of another. -/
def Meets (c d : Component) : Prop := c.model ≠ .attributesOnly ∧ elementsType c.tag = d.tag.text

instance (c d : Component) : Decidable (Meets c d) :=
  inferInstanceAs (Decidable (c.model ≠ .attributesOnly ∧ elementsType c.tag = d.tag.text))

theorem elementsType_ne_text (tag : Tag) : elementsType tag ≠ tag.text := by
  intro h
  have hlength := congrArg String.length h
  simp [elementsType] at hlength

theorem elementsType_inj {a b : Tag} (h : elementsType a = elementsType b) : a = b :=
  Tag.ext (by simpa [elementsType] using h)

theorem nodup_declares (f : Fragment) : f.declares.Nodup := by
  obtain ⟨tag, body, attributes⟩ := f
  cases body with
  | structural children => simp [Fragment.declares, elementsType_ne_text]
  | mixed => simp [Fragment.declares, elementsType_ne_text]
  | attributesOnly => simp [Fragment.declares]

/-- Two tags that differ give two names each that differ, up to names of the
one kind that meet names of the other. -/
theorem disjoint_declares_iff {c d : Component} {r : Registry} (htag : c.tag ≠ d.tag) :
    (∀ type ∈ (Fragment.of c r).declares, ∀ type' ∈ (Fragment.of d r).declares, type ≠ type') ↔
      ¬ Meets c d ∧ ¬ Meets d c := by
  simp only [Fragment.mem_declares, Fragment.model_of, Fragment.tag_of]
  constructor
  · intro h
    refine ⟨?_, ?_⟩
    · rintro ⟨hmodel, hname⟩
      exact h (elementsType c.tag) (.inr ⟨hmodel, rfl⟩) d.tag.text (.inl rfl) hname
    · rintro ⟨hmodel, hname⟩
      exact h c.tag.text (.inl rfl) (elementsType d.tag) (.inr ⟨hmodel, rfl⟩) hname.symm
  · rintro ⟨hcd, hdc⟩ type (rfl | ⟨hmodel, rfl⟩) type' (rfl | ⟨hmodel', rfl⟩) htype
    · exact htag (Tag.ext htype)
    · exact hdc ⟨hmodel', htype.symm⟩
    · exact hcd ⟨hmodel, htype⟩
    · exact htag (elementsType_inj htype)

theorem nodup_flatMap_declares_iff {r : Registry} (htags : r.tags.Nodup) :
    ((fragments r).flatMap Fragment.declares).Nodup ↔
      ∀ c ∈ r.components, ∀ d ∈ r.components, ¬ Meets c d := by
  have hpairs : r.components.Pairwise fun c d => c.tag ≠ d.tag := List.pairwise_map.mp htags
  rw [fragments, List.flatMap_map, List.Nodup, List.pairwise_flatMap]
  constructor
  · rintro ⟨-, hdisjoint⟩ c hc d hd hmeets
    -- The condition is made symmetric, so that it does not matter which of the two comes first.
    have hsymm : Std.Symm fun c d : Component => ¬ Meets c d ∧ ¬ Meets d c :=
      ⟨fun _ _ h => ⟨h.2, h.1⟩⟩
    have hapart : r.components.Pairwise fun c d => ¬ Meets c d ∧ ¬ Meets d c :=
      hpairs.imp₂ (fun c d htag => (disjoint_declares_iff htag).mp) hdisjoint
    have hne : c ≠ d := by
      rintro rfl
      exact elementsType_ne_text c.tag hmeets.2
    exact (hapart.forall hc hd hne).1 hmeets
  · intro h
    refine ⟨fun c _ => nodup_declares _, ?_⟩
    exact hpairs.imp_of_mem fun hc hd htag =>
      (disjoint_declares_iff htag).mpr ⟨h _ hc _ hd, h _ hd _ hc⟩

/-- Where no tag stands twice, a type is declared twice exactly if the body type
of a component is named like the tag of another one. -/
theorem nodup_declaredTypes_iff (r : Registry) (htags : r.tags.Nodup)
    (h : ∀ c ∈ r.components, c.WellNamed) :
    ∃ nodes, read (assembled r) = some nodes ∧
      ((declaredTypes nodes).Nodup ↔ ∀ c ∈ r.components, ∀ d ∈ r.components, ¬ Meets c d) := by
  refine ⟨_, read_assembled h, ?_⟩
  rw [declaredTypes_fragments]
  exact nodup_flatMap_declares_iff htags

theorem nodup_declaredTypes_of_bodiless :
    let bare : Component :=
      { tag := ⟨"mj-image", by decide⟩, ending := true, selfClosing := true,
        attributes := .ofList [("src", "string")] }
    let suffixed : Component := { tag := ⟨"mj-image-elements", by decide⟩, parents := [bare.tag] }
    let r : Registry := .ofList [bare, suffixed, { tag := ⟨"mj-text", by decide⟩, ending := true }]
    r.tags.Nodup ∧ (∀ c ∈ r.components, c.WellNamed) ∧
      ∃ nodes, read (assembled r) = some nodes ∧ (declaredTypes nodes).Nodup := by
  intro bare suffixed r
  have htags : r.tags.Nodup := by decide
  have hnamed : ∀ c ∈ r.components, c.WellNamed := by decide
  obtain ⟨nodes, hread, hiff⟩ := nodup_declaredTypes_iff r htags hnamed
  exact ⟨htags, hnamed, nodes, hread, hiff.mpr (by decide)⟩

/-- Two tags are enough for a type to be declared twice. -/
theorem not_nodup_declaredTypes_of_suffixed_tag :
    let r : Registry := .ofList [{ tag := ⟨"a", by decide⟩ }, { tag := ⟨"a-elements", by decide⟩ }]
    r.tags.Nodup ∧ (∀ c ∈ r.components, c.WellNamed) ∧
      ∃ nodes, read (assembled r) = some nodes ∧ ¬ (declaredTypes nodes).Nodup := by
  intro r
  have htags : r.tags.Nodup := by decide
  have hnamed : ∀ c ∈ r.components, c.WellNamed := by decide
  refine ⟨htags, hnamed, _, read_assembled hnamed, ?_⟩
  rw [declaredTypes_fragments, nodup_flatMap_declares_iff htags]
  decide

end MarkupSchema.Schema
