import MarkupSchema.Proofs.SchemaTypes
import Mathlib.Computability.Language
import Mathlib.Data.List.Chain

/-!
# What a structural body accepts

A structural body holds each of its children any number of times. The type that
is written for it is a sequence, and a sequence accepts its particles in the order
in which they are listed; that each of them may be repeated or left out does not
let one of them come back after another. What it accepts is a language over the
names of elements, and this file computes it from the text and compares it with
the largest one there could be, all words over the children.

The two agree only where there is nothing to put in order, that is, where all
children are one and the same. For the difference it is not enough to exchange
two children, because children may be listed more than once and each listing is
one more chance. But there are finitely many, and a word in which no name
stands next to itself uses up a particle for each of its letters.

The type of the body is the first thing in the text of a fragment, before any
attribute, so nothing has to be known of the names of attributes here.
-/

namespace MarkupSchema.Schema

open scoped Computability

/-! ## Languages -/

/-- The words that hold one name any number of times and nothing else. -/
def repeated (name : String) : Language String := ({[name]} : Language String)∗

/-- The words that hold names of a list only. -/
def wordsOver (names : List String) : Language String := {word | ∀ name ∈ word, name ∈ names}

/-- The language of a particle. It is known for an element that may be left out
and repeated. -/
def Node.particle? (node : Node) : Option (Language String) :=
  if node.name = "xs:element" ∧ node.attribute? "minOccurs" = some "0" ∧
      node.attribute? "maxOccurs" = some "unbounded" then
    (node.attribute? "name").map repeated
  else none

/-- The language of a complex type: a sequence accepts one after another what
its particles accept. -/
def Node.language? (type : Node) : Option (Language String) :=
  match type.content with
  | [⟨"xs:sequence", [], particles⟩] => (particles.mapM Node.particle?).map List.prod
  | _ => none

theorem mem_repeated {name : String} {word : List String} :
    word ∈ repeated name ↔ ∀ letter ∈ word, letter = name := by
  constructor
  · rintro ⟨parts, rfl, hparts⟩ letter hletter
    obtain ⟨part, hpart, hin⟩ := List.mem_flatten.mp hletter
    have hsingle : part = [name] := hparts part hpart
    rw [hsingle] at hin
    exact List.mem_singleton.mp hin
  · intro h
    refine ⟨word.map fun letter => [letter], ?_, ?_⟩
    · rw [← List.flatMap_def, List.flatMap_singleton']
    · rw [List.forall_mem_map]
      exact fun letter hletter => congrArg (fun name => [name]) (h letter hletter)

theorem mem_wordsOver {names word : List String} :
    word ∈ wordsOver names ↔ ∀ name ∈ word, name ∈ names := Iff.rfl

theorem nil_mem_prod (names : List String) : [] ∈ (names.map repeated).prod := by
  induction names with
  | nil => exact Language.nil_mem_one
  | cons name names ih =>
      rw [List.map_cons, List.prod_cons]
      exact Language.append_mem_mul (Language.nil_mem_kstar _) ih

theorem mem_wordsOver_of_mem_prod {names word : List String}
    (hword : word ∈ (names.map repeated).prod) : word ∈ wordsOver names := by
  induction names generalizing word with
  | nil =>
      rw [List.map_nil, List.prod_nil, Language.mem_one] at hword
      rw [hword]
      exact List.forall_mem_nil _
  | cons name names ih =>
      rw [List.map_cons, List.prod_cons, Language.mem_mul] at hword
      obtain ⟨front, hfront, rest, hrest, rfl⟩ := hword
      rw [mem_wordsOver, List.forall_mem_append]
      refine ⟨?_, fun letter hletter => List.mem_cons_of_mem _ (ih hrest letter hletter)⟩
      intro letter hletter
      rw [mem_repeated.mp hfront letter hletter]
      exact List.mem_cons_self

/-- Each particle takes at most one letter of a word in which no name stands
next to itself. -/
theorem length_le_of_mem_prod {names word : List String} (h : word.IsChain (· ≠ ·))
    (hword : word ∈ (names.map repeated).prod) : word.length ≤ names.length := by
  induction names generalizing word with
  | nil =>
      rw [List.map_nil, List.prod_nil, Language.mem_one] at hword
      rw [hword]
  | cons name names ih =>
      rw [List.map_cons, List.prod_cons, Language.mem_mul] at hword
      obtain ⟨front, hfront, rest, hrest, rfl⟩ := hword
      have hsame := mem_repeated.mp hfront
      have hone : front.length ≤ 1 := by
        match front, hsame, h with
        | [], _, _ => exact Nat.zero_le _
        | [_], _, _ => exact Nat.le_refl _
        | a :: b :: front, hsame, h =>
            have ha : a = name := hsame a (by simp)
            have hb : b = name := hsame b (by simp)
            rw [List.cons_append, List.cons_append, List.isChain_cons_cons] at h
            exact absurd (ha.trans hb.symm) h.1
      have hmore := ih h.right_of_append hrest
      rw [List.length_append, List.length_cons]
      omega

/-- Two names in turn. -/
def inTurn (a b : String) : Nat → List String
  | 0 => []
  | n + 1 => a :: inTurn b a n

theorem length_inTurn (a b : String) (n : Nat) : (inTurn a b n).length = n := by
  induction n generalizing a b with
  | zero => rfl
  | succ n ih => rw [inTurn, List.length_cons, ih]

theorem isChain_inTurn {a b : String} (h : a ≠ b) (n : Nat) : (inTurn a b n).IsChain (· ≠ ·) := by
  induction n generalizing a b with
  | zero => exact .nil
  | succ n ih =>
      rw [inTurn]
      cases n with
      | zero => exact .singleton _
      | succ n => exact .cons_cons h (ih h.symm)

theorem inTurn_mem_wordsOver {names : List String} {a b : String} (ha : a ∈ names) (hb : b ∈ names)
    (n : Nat) : inTurn a b n ∈ wordsOver names := by
  induction n generalizing a b with
  | zero => exact List.forall_mem_nil _
  | succ n ih => exact List.forall_mem_cons.mpr ⟨ha, ih hb ha⟩

/-- Listing names in order is no restriction only if they are all the same. -/
theorem prod_eq_wordsOver_iff {names : List String} :
    (names.map repeated).prod = wordsOver names ↔ ∀ a ∈ names, ∀ b ∈ names, a = b := by
  constructor
  · intro h a ha b hb
    by_contra hne
    -- One letter more than there are particles.
    have hword := inTurn_mem_wordsOver ha hb (names.length + 1)
    rw [← h] at hword
    have hlength := length_le_of_mem_prod (isChain_inTurn hne _) hword
    rw [length_inTurn] at hlength
    omega
  · intro h
    refine Language.ext fun word => ⟨mem_wordsOver_of_mem_prod, fun hword => ?_⟩
    cases names with
    | nil => exact List.eq_nil_iff_forall_not_mem.mpr fun name hname => nomatch hword name hname
    | cons name names =>
        have hsame : word ∈ repeated name := by
          refine mem_repeated.mpr fun letter hletter => ?_
          exact h letter (hword letter hletter) name List.mem_cons_self
        have happend := Language.append_mem_mul hsame (nil_mem_prod names)
        rw [List.append_nil] at happend
        rw [List.map_cons, List.prod_cons]
        exact happend

/-! ## Fragments -/

open Element

theorem mapM_particle?_childReferences (children : List Tag) :
    (seenAll (children.map childReference)).mapM Node.particle?
      = some ((children.map Tag.text).map repeated) := by
  induction children with
  | nil => rfl
  | cons child children ih =>
      have hchild : (seen (childReference child)).particle? = some (repeated child.text) := rfl
      rw [List.map_cons, seenAll, List.mapM_cons, hchild, ih]
      rfl

/-- The type of a structural body. -/
def structuralType (tag : Tag) (children : List Tag) : Element :=
  complexType (elementsType tag) [] [.node "xs:sequence" [] (children.map childReference)]

theorem language?_structuralType (tag : Tag) (children : List Tag) :
    (seen (structuralType tag children)).language?
      = some ((children.map Tag.text).map repeated).prod := by
  have hlanguage : (seen (structuralType tag children)).language?
      = ((seenAll (children.map childReference)).mapM Node.particle?).map List.prod := rfl
  rw [hlanguage, mapM_particle?_childReferences, Option.map_some]

theorem readable_structuralType (tag : Tag) (children : List Tag) :
    ∀ line ∈ layoutAll 0 [structuralType tag children], line.mark.Readable := by
  have htypes : ∀ line ∈ layoutAll 0 ([structuralType tag children] ++ [extendingType tag []]),
      line.mark.Readable :=
    Fragment.readable_types (f := ⟨tag, .structural children, []⟩) (List.forall_mem_nil _)
  rw [layoutAll_append, List.forall_mem_append] at htypes
  exact htypes.1

namespace Fragment

/-- The text of a structural fragment begins with the type of the body. -/
theorem exists_structural_front (c : Component) (r : Registry) (h : c.ending = false) :
    ∃ front rest type, (of c r).text = front ++ rest ∧ read front = some [type] ∧
      type.declaredType? = some (elementsType c.tag) ∧
      type.language? = some (((r.childrenOf c.tag.text).map Tag.text).map repeated).prod := by
  have hmodel : c.model = .structural := by
    rw [Component.model, h]
  have helements : (of c r).elements = [structuralType c.tag (r.childrenOf c.tag.text)] ++
      [extendingType c.tag c.attributes.names, elementDeclaration c.tag] := by
    simp only [elements, types, of, hmodel]
    rfl
  -- All attributes stand behind the front, so whatever their names do to the markup, they do it
  -- later.
  have hread := read_layout (readable_structuralType c.tag (r.childrenOf c.tag.text))
  have htext : (of c r).text
      = textOfLines (linesOfAll 0 [structuralType c.tag (r.childrenOf c.tag.text)]) ++
        textOfLines (linesOfAll 0
          [extendingType c.tag c.attributes.names, elementDeclaration c.tag]) := by
    rw [text, helements, linesOfAll_append, textOfLines_append]
  exact ⟨_, _, _, htext, hread, rfl, language?_structuralType _ _⟩

end Fragment

/-- A structural body accepts its children in the order of their registration,
each any number of times. These are all words over the children only if there
are no two children to be put in order. -/
theorem bodyLanguage_eq_wordsOver_iff (c : Component) (r : Registry) (h : c.ending = false) :
    let names := (r.childrenOf c.tag.text).map Tag.text
    ∃ front rest type, (Fragment.of c r).text = front ++ rest ∧ read front = some [type] ∧
      type.declaredType? = some (elementsType c.tag) ∧
      type.language? = some (names.map repeated).prod ∧
      ((names.map repeated).prod = wordsOver names ↔ ∀ a ∈ names, ∀ b ∈ names, a = b) := by
  intro names
  obtain ⟨front, rest, type, htext, hread, hname, hlanguage⟩ :=
    Fragment.exists_structural_front c r h
  exact ⟨front, rest, type, htext, hread, hname, hlanguage, prod_eq_wordsOver_iff⟩

theorem bodyLanguage_of_repeated_child :
    let column : Component :=
      { tag := ⟨"mj-column", by decide⟩, selfClosing := true,
        attributes := .ofList [("a\" b=\"", "px"), ("<", "px")] }
    let text : Component :=
      { tag := ⟨"mj-text", by decide⟩, ending := true, parents := [column.tag] }
    let r : Registry := .ofList [text, column, { text with ending := false }]
    column.ending = false ∧
      ∃ front rest type, (Fragment.of column r).text = front ++ rest ∧ read front = some [type] ∧
        type.declaredType? = some "mj-column-elements" ∧
        type.language? = some (wordsOver ["mj-text", "mj-text"]) := by
  intro column text r
  have hending : column.ending = false := rfl
  obtain ⟨front, rest, type, htext, hread, hname, hlanguage, hiff⟩ :=
    bodyLanguage_eq_wordsOver_iff column r hending
  have hall : ∀ a ∈ ["mj-text", "mj-text"], ∀ b ∈ ["mj-text", "mj-text"], a = b := by decide
  rw [hiff.mpr hall] at hlanguage
  exact ⟨hending, front, rest, type, htext, hread, hname, hlanguage⟩

/-- An image between two texts is refused where both may stand. -/
theorem bodyLanguage_of_two_children :
    let column : Component := { tag := ⟨"mj-column", by decide⟩ }
    let text : Component :=
      { tag := ⟨"mj-text", by decide⟩, ending := true, parents := [column.tag] }
    let image : Component := { tag := ⟨"mj-image", by decide⟩, parents := [column.tag] }
    let r : Registry := .ofList [column, text, image]
    let word := ["mj-text", "mj-image", "mj-text"]
    column.ending = false ∧ (r.childrenOf column.tag.text).map Tag.text = ["mj-text", "mj-image"] ∧
      ∃ front rest type language, (Fragment.of column r).text = front ++ rest ∧
        read front = some [type] ∧ type.declaredType? = some "mj-column-elements" ∧
        type.language? = some language ∧
        word ∈ wordsOver ["mj-text", "mj-image"] ∧ word ∉ language := by
  intro column text image r word
  obtain ⟨front, rest, type, htext, hread, hname, hlanguage⟩ :=
    Fragment.exists_structural_front column r rfl
  have hword : word ∈ wordsOver ["mj-text", "mj-image"] := by
    rw [mem_wordsOver]
    decide
  have hrefused : word ∉ (["mj-text", "mj-image"].map repeated).prod := by
    intro hmem
    exact absurd (length_le_of_mem_prod (by decide) hmem) (by decide)
  exact ⟨rfl, rfl, front, rest, type, _, htext, hread, hname, hlanguage, hword, hrefused⟩

end MarkupSchema.Schema
