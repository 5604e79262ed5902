import MarkupSchema.Proofs.FragmentText
import MarkupSchema.Proofs.MarkupReading

/-!
# Fragments are markup

Tags are confined to names so that they may stand in the markup as they are,
and this is where that pays: a tag holds nothing that ends a value, and neither
does a tag with more name characters behind it. Nothing of the kind is known of
the names of attributes, so a component is called well named here if the names
of its attributes could be tags. All that is used of such names is that they hold
nothing that ends a value either. The text of a fragment is then read back as the
elements of the fragment, whatever the content model, and so is the text of all
fragments of a registry put together, which is what a schema is made of.
-/

namespace MarkupSchema

/-- A component whose attributes have names that tags could have. -/
def Component.WellNamed (c : Component) : Prop :=
  ∀ name ∈ c.attributes.names, Tag.fault? name = none

instance (c : Component) : Decidable c.WellNamed :=
  inferInstanceAs (Decidable (∀ name ∈ c.attributes.names, Tag.fault? name = none))

namespace Schema

open Element

/-! ## Values that stay values -/

theorem isValueChar_of_continuesName {c : Char} (h : Tag.continuesName c = true) :
    isValueChar c = true := by
  have hne (d : Char) (hd : Tag.continuesName d = false) : (c != d) = true := by
    rw [bne_iff_ne]
    rintro rfl
    rw [h] at hd
    cases hd
  have hle : ' ' ≤ c := by
    rcases Nat.lt_or_ge c.toNat 32 with hlt | hge
    · -- No control character goes on with a name, and there are few of them.
      have hcontrol : ∀ n < 32, Tag.continuesName (Char.ofNat n) = false := by decide
      have hc := hcontrol c.toNat hlt
      rw [Char.ofNat_toNat, h] at hc
      cases hc
    · exact UInt32.le_iff_toNat_le.mpr hge
  rw [isValueChar, hne '"' (by decide), hne '<' (by decide), hne '&' (by decide),
    hne '\uFFFE' (by decide), hne '\uFFFF' (by decide), decide_eq_true hle]
  rfl

theorem all_isValueChar_of_fault?_eq_none {text : String} (h : Tag.fault? text = none) :
    text.toList.all isValueChar = true := by
  rw [List.all_eq_true]
  exact fun c hc => isValueChar_of_continuesName (Tag.continuesName_of_fault?_eq_none h c hc)

theorem all_isValueChar_of_wellNamed {c : Component} (h : c.WellNamed) :
    ∀ name ∈ c.attributes.names, name.toList.all isValueChar = true :=
  fun name hname => all_isValueChar_of_fault?_eq_none (h name hname)

theorem all_isValueChar_elementsType (tag : Tag) :
    (elementsType tag).toList.all isValueChar = true := by
  rw [elementsType, String.toList_append, List.all_append,
    all_isValueChar_of_fault?_eq_none tag.isName]
  decide

/-! ## The lines of fragments -/

/-- The names in a tag are fixed for each kind of line and only the values
vary, so what is asked of the names is decided once for a list of keys. -/
theorem readable_of_keys {name : String} {attributes : List (String × String)}
    (keys : List String) (hkeys : attributes.map Prod.fst = keys) (hnodup : keys.Nodup)
    (hnames : ∀ key ∈ name :: keys, isName key.toList = true)
    (hvalues : ∀ value ∈ attributes.map Prod.snd, value.toList.all isValueChar = true) :
    (Mark.start name attributes).Readable := by
  obtain ⟨hname, hnames⟩ := List.forall_mem_cons.mp hnames
  refine ⟨hname, hkeys ▸ hnodup, ?_⟩
  intro pair hpair
  have hkey : pair.1 ∈ keys := hkeys ▸ List.mem_map_of_mem hpair
  exact ⟨hnames pair.1 hkey, hvalues pair.2 (List.mem_map_of_mem hpair)⟩

theorem readable_elementLine (depth : Nat) (spaced : Bool) (tag : Tag) :
    (elementLine depth [] spaced tag).mark.Readable := by
  have htag := all_isValueChar_of_fault?_eq_none tag.isName
  refine readable_of_keys ["name", "type"] rfl (by decide) (by decide) ?_
  simp only [List.append_nil, List.map_cons, List.map_nil, List.forall_mem_cons, htag, true_and]
  exact List.forall_mem_nil _

theorem readable_childLine (depth : Nat) (tag : Tag) :
    (elementLine depth anyNumber false tag).mark.Readable := by
  have htag := all_isValueChar_of_fault?_eq_none tag.isName
  refine readable_of_keys ["name", "type", "minOccurs", "maxOccurs"] rfl (by decide) (by decide) ?_
  simp only [anyNumber, List.cons_append, List.nil_append, List.map_cons, List.map_nil,
    List.forall_mem_cons, htag, true_and]
  decide

theorem readable_attributeLine (depth : Nat) {name : String}
    (h : name.toList.all isValueChar = true) : (attributeLine depth name).mark.Readable := by
  refine readable_of_keys ["type", "name"] rfl (by decide) (by decide) ?_
  simp only [List.map_cons, List.map_nil, List.forall_mem_cons, h, true_and]
  decide

theorem readable_typeStart {name : String} (h : name.toList.all isValueChar = true) :
    (typeStart [("name", name)]).mark.Readable := by
  refine readable_of_keys ["name"] rfl (by decide) (by decide) ?_
  exact List.forall_mem_singleton.mpr h

theorem readable_mixedStart {name : String} (h : name.toList.all isValueChar = true) :
    (typeStart [("name", name), ("mixed", "true")]).mark.Readable := by
  refine readable_of_keys ["name", "mixed"] rfl (by decide) (by decide) ?_
  simp only [List.map_cons, List.map_nil, List.forall_mem_cons, h, true_and]
  decide

theorem readable_extendingLines (tag : Tag) {names : List String}
    (h : ∀ name ∈ names, name.toList.all isValueChar = true) :
    ∀ line ∈ extendingLines tag names, line.mark.Readable := by
  have hbase : (Mark.start "xs:extension" [("base", elementsType tag)]).Readable := by
    refine readable_of_keys ["base"] rfl (by decide) (by decide) ?_
    exact List.forall_mem_singleton.mpr (all_isValueChar_elementsType tag)
  simp only [extendingLines, List.forall_mem_append, List.forall_mem_cons, List.forall_mem_map]
  refine ⟨readable_typeStart (all_isValueChar_of_fault?_eq_none tag.isName), by decide, hbase,
    fun name hname => readable_attributeLine 3 (h name hname), ?_⟩
  decide

namespace Fragment

theorem readable_types {f : Fragment}
    (h : ∀ name ∈ f.attributes, name.toList.all isValueChar = true) :
    ∀ line ∈ layoutAll 0 f.types, line.mark.Readable := by
  obtain ⟨tag, body, attributes⟩ := f
  have hextending := readable_extendingLines tag h
  cases body with
  | structural children =>
      simp only [layout_structural, List.forall_mem_append, List.forall_mem_cons,
        List.forall_mem_map]
      exact ⟨readable_typeStart (all_isValueChar_elementsType tag), by decide,
        fun child _ => readable_childLine 2 child, by decide, by decide, hextending⟩
  | mixed =>
      simp only [layout_mixed, List.forall_mem_append, List.forall_mem_cons]
      exact ⟨readable_mixedStart (all_isValueChar_elementsType tag), by decide, by decide,
        by decide, by decide, hextending⟩
  | attributesOnly =>
      simp only [layout_attributesOnly, List.forall_mem_append, List.forall_mem_cons,
        List.forall_mem_map]
      exact ⟨readable_typeStart (all_isValueChar_of_fault?_eq_none tag.isName),
        fun name hname => readable_attributeLine 1 (h name hname), by decide⟩

theorem readable_layout {f : Fragment}
    (h : ∀ name ∈ f.attributes, name.toList.all isValueChar = true) :
    ∀ line ∈ f.layout, line.mark.Readable := by
  rw [layout_eq, List.forall_mem_append]
  exact ⟨readable_types h, List.forall_mem_singleton.mpr (readable_elementLine 0 true f.tag)⟩

end Fragment

/-! ## A whole schema -/

/-- The texts of all fragments of a registry, one after another. -/
def assembled (r : Registry) : String := String.join ((fragments r).map Fragment.text)

theorem textOfLines_append (lines lines' : List String) :
    textOfLines (lines ++ lines') = textOfLines lines ++ textOfLines lines' := by
  rw [textOfLines, List.flatMap_append, String.ofList_append]
  rfl

theorem join_map_text (fs : List Fragment) :
    String.join (fs.map Fragment.text)
      = textOfLines (linesOfAll 0 (fs.flatMap Fragment.elements)) := by
  induction fs with
  | nil => rfl
  | cons f fs ih =>
      rw [List.map_cons, String.join_cons, ih, List.flatMap_cons, linesOfAll_append,
        textOfLines_append, Fragment.text]

theorem readable_layoutAll {fs : List Fragment}
    (h : ∀ f ∈ fs, ∀ name ∈ f.attributes, name.toList.all isValueChar = true) :
    ∀ line ∈ layoutAll 0 (fs.flatMap Fragment.elements), line.mark.Readable := by
  induction fs with
  | nil => exact List.forall_mem_nil _
  | cons f fs ih =>
      obtain ⟨hf, hfs⟩ := List.forall_mem_cons.mp h
      rw [List.flatMap_cons, layoutAll_append, List.forall_mem_append]
      exact ⟨Fragment.readable_layout hf, ih hfs⟩

/-- The assembled text is read as the elements of all fragments in order. -/
theorem read_assembled {r : Registry} (h : ∀ c ∈ r.components, c.WellNamed) :
    read (assembled r) = some (seenAll ((fragments r).flatMap Fragment.elements)) := by
  have hnames : ∀ f ∈ fragments r, ∀ name ∈ f.attributes,
      name.toList.all isValueChar = true := by
    rw [fragments, List.forall_mem_map]
    exact fun c hc => all_isValueChar_of_wellNamed (h c hc)
  rw [assembled, join_map_text, read_layout (readable_layoutAll hnames)]

end Schema

end MarkupSchema
