import MarkupSchema.Schema.Element

/-!
# Markup as a row of tags

Elements are written by recursion over the tree, but a text has no tree in it:
it is a row of lines, and whoever reads it meets one tag after another. Every
line of a layout holds exactly one tag, so the row of tags is all there is
between the tree and the text. `Element.layout` is that row, and the lines of
an element are the texts of its layout.

What one can say of a text then follows from what one can say of each tag. The
first use is that a text gives its lines back. For this no name and no value
may hold a line feed, and nothing else is asked of them: a value with a quote
in it spoils the markup but not the lines.
-/

namespace MarkupSchema.Schema

/-- A tag of markup: the start or the end of an element, or a whole element
that holds nothing. -/
inductive Mark where
  | start (name : String) (attributes : List (String × String))
  | stop (name : String)
  | empty (name : String) (attributes : List (String × String))
  deriving DecidableEq, Repr

/-- All texts that a tag is made of. -/
def Mark.parts : Mark → List String
  | .start name attributes | .empty name attributes =>
      name :: attributes.flatMap fun pair => [pair.1, pair.2]
  | .stop name => [name]

/-- A line of a layout: a tag, the number of elements around it, and whether a
space stands before its closing slash. -/
structure Line where
  depth : Nat
  mark : Mark
  spaced : Bool := false

namespace Line

def slash (spaced : Bool) : String := if spaced then " />" else "/>"

/-- What follows the angle bracket that opens the tag. -/
def body (line : Line) : String :=
  match line.mark with
  | .start name attributes => name ++ Element.writeAttributes attributes ++ ">"
  | .stop name => "/" ++ name ++ ">"
  | .empty name attributes => name ++ Element.writeAttributes attributes ++ slash line.spaced

def text (line : Line) : String := Element.indent line.depth ++ "<" ++ line.body

end Line

namespace Element

mutual

/-- The tags of an element in the order of its lines. -/
def layout (depth : Nat) : Element → List Line
  | .leaf name attributes spaced => [⟨depth, .empty name attributes, spaced⟩]
  | .node name attributes content =>
      ⟨depth, .start name attributes, false⟩ ::
        (layoutAll (depth + 1) content ++ [⟨depth, .stop name, false⟩])

def layoutAll (depth : Nat) : List Element → List Line
  | [] => []
  | element :: rest => layout depth element ++ layoutAll depth rest

end

mutual

theorem lines_eq_map_text (depth : Nat) (e : Element) :
    lines depth e = (layout depth e).map Line.text := by
  match e with
  | .leaf name attributes spaced =>
      simp only [lines, layout, List.map_cons, List.map_nil, Line.text, Line.body, Line.slash,
        String.append_assoc]
  | .node name attributes content =>
      have hstop : indent depth ++ "</" ++ name ++ ">"
          = indent depth ++ "<" ++ ("/" ++ name ++ ">") := by
        rw [← String.toList_inj]
        simp
      simp only [lines, layout, List.map_cons, List.map_nil, List.map_append, Line.text,
        Line.body, linesOfAll_eq_map_text (depth + 1) content, hstop]
      simp only [String.append_assoc]

theorem linesOfAll_eq_map_text (depth : Nat) (es : List Element) :
    linesOfAll depth es = (layoutAll depth es).map Line.text := by
  match es with
  | [] => rfl
  | e :: rest =>
      rw [linesOfAll, layoutAll, List.map_append, lines_eq_map_text depth e,
        linesOfAll_eq_map_text depth rest]

end

theorem layoutAll_append (depth : Nat) (es es' : List Element) :
    layoutAll depth (es ++ es') = layoutAll depth es ++ layoutAll depth es' := by
  induction es with
  | nil => rfl
  | cons e es ih => rw [List.cons_append, layoutAll, layoutAll, ih, List.append_assoc]

theorem linesOfAll_append (depth : Nat) (es es' : List Element) :
    linesOfAll depth (es ++ es') = linesOfAll depth es ++ linesOfAll depth es' := by
  rw [linesOfAll_eq_map_text, layoutAll_append, List.map_append, ← linesOfAll_eq_map_text,
    ← linesOfAll_eq_map_text]

theorem layoutAll_map {α : Type} {f : α → Element} {line : α → Line} {depth : Nat}
    (h : ∀ a, layout depth (f a) = [line a]) (as : List α) :
    layoutAll depth (as.map f) = as.map line := by
  induction as with
  | nil => rfl
  | cons a as ih => rw [List.map_cons, layoutAll, h, ih, List.map_cons, List.singleton_append]

end Element

/-! ## A text gives its lines back -/

/-- The characters that a tag is held together by. -/
def punctuation : List Char := [' ', '=', '"', '/', '>']

theorem mem_writeAttributes {c : Char} {attributes : List (String × String)}
    (h : c ∈ (Element.writeAttributes attributes).toList) :
    c ∈ punctuation ∨
      ∃ part ∈ attributes.flatMap fun pair => [pair.1, pair.2], c ∈ part.toList := by
  induction attributes with
  | nil => cases h
  | cons pair rest ih =>
      have hspace : ∀ c ∈ " ".toList, c ∈ punctuation := by simp [punctuation]
      have hequals : ∀ c ∈ "=\"".toList, c ∈ punctuation := by simp [punctuation]
      have hquote : ∀ c ∈ "\"".toList, c ∈ punctuation := by simp [punctuation]
      simp only [Element.writeAttributes, String.toList_append, List.mem_append] at h
      rcases h with ((((h | h) | h) | h) | h) | h
      · exact .inl (hspace c h)
      · exact .inr ⟨pair.1, by simp, h⟩
      · exact .inl (hequals c h)
      · exact .inr ⟨pair.2, by simp, h⟩
      · exact .inl (hquote c h)
      · obtain hmark | ⟨part, hpart, hc⟩ := ih h
        · exact .inl hmark
        · exact .inr ⟨part, by simp [hpart], hc⟩

theorem mem_opening {c : Char} {name : String} {attributes : List (String × String)}
    (h : c ∈ (name ++ Element.writeAttributes attributes).toList) :
    c ∈ punctuation ∨ ∃ part ∈ (Mark.start name attributes).parts, c ∈ part.toList := by
  rw [String.toList_append, List.mem_append] at h
  rcases h with h | h
  · exact .inr ⟨name, List.mem_cons_self, h⟩
  · obtain hmark | ⟨part, hpart, hc⟩ := mem_writeAttributes h
    · exact .inl hmark
    · exact .inr ⟨part, List.mem_cons_of_mem _ hpart, hc⟩

namespace Line

/-- Whatever stands in a tag is punctuation or belongs to one of its parts. -/
theorem mem_body {line : Line} {c : Char} (h : c ∈ line.body.toList) :
    c ∈ punctuation ∨ ∃ part ∈ line.mark.parts, c ∈ part.toList := by
  obtain ⟨depth, mark, spaced⟩ := line
  have hend : ∀ c ∈ ">".toList, c ∈ punctuation := by simp [punctuation]
  cases mark with
  | start name attributes =>
      rw [body, String.toList_append, List.mem_append] at h
      rcases h with h | h
      · exact mem_opening h
      · exact .inl (hend c h)
  | stop name =>
      have hslash : ∀ c ∈ "/".toList, c ∈ punctuation := by simp [punctuation]
      simp only [body, String.toList_append, List.mem_append] at h
      rcases h with (h | h) | h
      · exact .inl (hslash c h)
      · exact .inr ⟨name, List.mem_cons_self, h⟩
      · exact .inl (hend c h)
  | empty name attributes =>
      have hslash : ∀ c ∈ (slash spaced).toList, c ∈ punctuation := by
        cases spaced <;> simp [slash, punctuation]
      rw [body, String.toList_append, List.mem_append] at h
      rcases h with h | h
      · exact mem_opening h
      · exact .inl (hslash c h)

theorem not_mem_body {line : Line} {c : Char} (hc : c ∉ punctuation)
    (h : ∀ part ∈ line.mark.parts, c ∉ part.toList) : c ∉ line.body.toList := by
  intro hmem
  obtain hmark | ⟨part, hpart, hin⟩ := mem_body hmem
  · exact hc hmark
  · exact h part hpart hin

theorem lineFeed_not_mem_text {line : Line} (h : ∀ part ∈ line.mark.parts, '\n' ∉ part.toList) :
    '\n' ∉ line.text.toList := by
  have hbody := not_mem_body (by decide) h
  simp [text, Element.indent, hbody]

end Line

theorem splitOn_flatMap_append {sep : Char} {lines : List String}
    (h : ∀ line ∈ lines, sep ∉ line.toList) (rest : List Char) :
    ((lines.flatMap fun line => line.toList ++ [sep]) ++ rest).splitOn sep
      = lines.map String.toList ++ rest.splitOn sep := by
  induction lines with
  | nil => rfl
  | cons line lines ih =>
      obtain ⟨hline, hlines⟩ := List.forall_mem_cons.mp h
      rw [List.flatMap_cons, List.append_assoc, List.append_assoc, List.singleton_append,
        List.splitOn_append_cons_self_of_not_mem hline, ih hlines, List.map_cons, List.cons_append]

theorem splitOn_flatMap_concat {sep : Char} {lines : List String}
    (h : ∀ line ∈ lines, sep ∉ line.toList) :
    (lines.flatMap fun line => line.toList ++ [sep]).splitOn sep
      = lines.map String.toList ++ [[]] := by
  rw [← List.append_nil (lines.flatMap _), splitOn_flatMap_append h]
  rfl

theorem textOfLines_inj {lines lines' : List String} (h : ∀ line ∈ lines, '\n' ∉ line.toList)
    (h' : ∀ line ∈ lines', '\n' ∉ line.toList) (htext : textOfLines lines = textOfLines lines') :
    lines = lines' := by
  have hlists := congrArg (fun text => text.toList.splitOn '\n') htext
  simp only [textOfLines, String.toList_ofList, splitOn_flatMap_concat h,
    splitOn_flatMap_concat h', List.append_cancel_right_eq] at hlists
  exact (List.map_inj_right fun _ _ => String.toList_inj.mp).mp hlists

end MarkupSchema.Schema
