import MarkupSchema.Proofs.MarkupLines
import MarkupSchema.Tag

/-!
# Reading markup

What a schema says is not in its text but in what a reader makes of the text,
and this file holds a reader: it takes any text at all and answers with the
elements, or with nothing where the text is no markup. It knows nothing of how
fragments are laid out. Line breaks and indentation are white space to it, an
element without content is the same in one tag or in two, and an end tag is
checked against the start tag that is open.

It reads elements only. Text beside them, references, comments and the like are
refused, and so is white space in a value other than spaces, which a processor
may change. A value may hold no character either that markup may not hold at all:
the rest of those below the space, U+FFFE and U+FFFF. What the reader does accept
is well-formed markup and means what it is read as. Two facts keep it simple: in
such markup an angle bracket opens a tag and stands nowhere else, and a double
quote begins or ends a value. So a text is cut at the first and a tag at the
second, and no piece has to be searched again.

The main statement is that a layout is read back as the elements it was made
from, if the names in it are names and the values hold nothing that ends them.
-/

namespace MarkupSchema.Schema

/-- An element as a reader sees it. -/
structure Node where
  name : String
  attributes : List (String × String)
  content : List Node

/-! ## The reader -/

def isSpace (c : Char) : Bool := c == ' ' || c == '\t' || c == '\r' || c == '\n'

def isNameChar (c : Char) : Bool := Tag.continuesName c || c == ':'

/-- The names of elements and attributes. They are tag names in which colons
may stand anywhere. -/
def isName : List Char → Bool
  | [] => false
  | c :: cs => (Tag.startsName c || c == ':') && cs.all isNameChar

/-- The characters of a value, without those that end it or begin something else
in it and without those that markup may not hold. -/
def isValueChar (c : Char) : Bool :=
  decide (' ' ≤ c) && c != '"' && c != '<' && c != '&' && c != '\uFFFE' && c != '\uFFFF'

/-- The name of an attribute, from all that stands before its value: white
space, the name and an equals sign. -/
def readLead (cs : List Char) : Option String :=
  let rest := cs.dropWhile isSpace
  let name := rest.takeWhile isNameChar
  if cs.head?.any isSpace && isName name && rest.dropWhile isNameChar == ['='] then
    some (String.ofList name)
  else none

/-- The attributes of a tag that has been cut at its quotes, and what follows
the last one. -/
def readAttributes : List (List Char) → Option (List (String × String) × List Char)
  | [] => none
  | [ending] => some ([], ending)
  | lead :: value :: pieces =>
      match readLead lead, readAttributes pieces with
      | some name, some (attributes, ending) =>
          if value.all isValueChar then some ((name, String.ofList value) :: attributes, ending)
          else none
      | _, _ => none

/-- The kind of a tag, from what follows its last attribute. -/
def readEnding (cs : List Char) : Option (String → List (String × String) → Mark) :=
  match cs.dropWhile isSpace with
  | '>' :: after => if after.all isSpace then some .start else none
  | '/' :: '>' :: after => if after.all isSpace then some .empty else none
  | _ => none

def readStart (cs : List Char) : Option Mark :=
  let name := cs.takeWhile isNameChar
  match readAttributes ((cs.dropWhile isNameChar).splitOn '"') with
  | none => none
  | some (attributes, ending) =>
      if isName name && decide (attributes.map Prod.fst).Nodup then
        (readEnding ending).map fun mark => mark (String.ofList name) attributes
      else none

def readStop (cs : List Char) : Option Mark :=
  let name := cs.takeWhile isNameChar
  match (cs.dropWhile isNameChar).dropWhile isSpace with
  | '>' :: after =>
      if isName name && after.all isSpace then some (.stop (String.ofList name)) else none
  | _ => none

/-- The tag that an angle bracket opens, from what follows the bracket up to
the next one. -/
def readMark : List Char → Option Mark
  | '/' :: cs => readStop cs
  | cs => readStart cs

/-- The tags of a text. -/
def marksOf (cs : List Char) : Option (List Mark) :=
  match cs.splitOn '<' with
  | [] => none
  | front :: chunks => if front.all isSpace then chunks.mapM readMark else none

/-- An element whose end has not been met, with its elder siblings, the last
of them first. -/
structure Frame where
  name : String
  attributes : List (String × String)
  before : List Node

/-- The elements that a row of tags stands for, given the open elements from
the inside out and what the innermost one holds so far, the last first. -/
def nest : List Frame → List Node → List Mark → Option (List Node)
  | [], done, [] => some done.reverse
  | _ :: _, _, [] => none
  | stack, done, .empty name attributes :: marks =>
      nest stack (⟨name, attributes, []⟩ :: done) marks
  | stack, done, .start name attributes :: marks =>
      nest (⟨name, attributes, done⟩ :: stack) [] marks
  | [], _, .stop _ :: _ => none
  | frame :: stack, done, .stop name :: marks =>
      if name = frame.name then
        nest stack (⟨name, frame.attributes, done.reverse⟩ :: frame.before) marks
      else none

/-- The elements of a text. -/
def read (text : String) : Option (List Node) := (marksOf text.toList).bind (nest [] [])

/-! ## One tag -/

/-- A tag whose names are names and whose values hold nothing that ends them. -/
def Mark.Readable : Mark → Prop
  | .start name attributes | .empty name attributes =>
      isName name.toList = true ∧ (attributes.map Prod.fst).Nodup ∧
        ∀ pair ∈ attributes, isName pair.1.toList = true ∧ pair.2.toList.all isValueChar = true
  | .stop name => isName name.toList = true

instance : DecidablePred Mark.Readable
  | .start name attributes | .empty name attributes =>
      inferInstanceAs (Decidable (isName name.toList = true ∧ (attributes.map Prod.fst).Nodup ∧
        ∀ pair ∈ attributes, isName pair.1.toList = true ∧ pair.2.toList.all isValueChar = true))
  | .stop name => inferInstanceAs (Decidable (isName name.toList = true))

theorem isNameChar_of_isName {cs : List Char} (h : isName cs = true) :
    ∀ c ∈ cs, isNameChar c = true := by
  cases cs with
  | nil => cases h
  | cons c cs =>
      simp only [isName, Bool.and_eq_true, Bool.or_eq_true, List.all_eq_true] at h
      rw [List.forall_mem_cons]
      refine ⟨?_, h.2⟩
      rcases h.1 with hstart | hcolon
      · rw [isNameChar, Tag.continuesName_of_startsName hstart, Bool.true_or]
      · rw [isNameChar, hcolon, Bool.or_true]

theorem not_mem_of_isName {c : Char} (hc : isNameChar c = false) {cs : List Char}
    (h : isName cs = true) : c ∉ cs := by
  intro hmem
  rw [isNameChar_of_isName h c hmem] at hc
  cases hc

/-- A run of characters of one kind is taken whole where another kind follows. -/
theorem span_append {p : Char → Bool} {run rest : List Char} (h : ∀ c ∈ run, p c = true)
    (hrest : ∀ c ∈ rest.head?, p c = false) :
    (run ++ rest).takeWhile p = run ∧ (run ++ rest).dropWhile p = rest := by
  rw [List.takeWhile_append_of_pos h, List.dropWhile_append_of_pos h]
  cases rest with
  | nil => simp
  | cons c rest =>
      have hc : p c = false := hrest c rfl
      simp [hc]

theorem not_isSpace_of_isNameChar {c : Char} (h : isNameChar c = true) : isSpace c = false := by
  cases hspace : isSpace c with
  | false => rfl
  | true =>
      simp only [isSpace, Bool.or_eq_true, beq_iff_eq] at hspace
      rcases hspace with ((rfl | rfl) | rfl) | rfl <;> cases h

theorem readLead_written {name : List Char} (h : isName name = true) :
    readLead (' ' :: (name ++ ['='])) = some (String.ofList name) := by
  have hhead : ∀ c ∈ (name ++ ['=']).head?, isSpace c = false := by
    cases name with
    | nil => cases h
    | cons c cs =>
        rintro _ ⟨⟩
        exact not_isSpace_of_isNameChar (isNameChar_of_isName h c List.mem_cons_self)
  have hspace : ([' '] ++ (name ++ ['='])).dropWhile isSpace = name ++ ['='] :=
    (span_append (List.forall_mem_singleton.mpr rfl) hhead).2
  have hequals : ∀ c ∈ ['='].head?, isNameChar c = false := by
    rintro _ ⟨⟩
    decide
  obtain ⟨htake, hdrop⟩ := span_append (isNameChar_of_isName h) hequals
  rw [List.singleton_append] at hspace
  rw [readLead, hspace, htake, hdrop, h]
  rfl

theorem readAttributes_written {attributes : List (String × String)} {ending : List Char}
    (h : ∀ pair ∈ attributes, isName pair.1.toList = true ∧ pair.2.toList.all isValueChar = true)
    (hending : '"' ∉ ending) :
    readAttributes (((Element.writeAttributes attributes).toList ++ ending).splitOn '"')
      = some (attributes, ending) := by
  induction attributes with
  | nil =>
      rw [Element.writeAttributes, String.toList_empty, List.nil_append,
        List.splitOn_eq_singleton hending]
      rfl
  | cons pair rest ih =>
      obtain ⟨⟨hname, hvalue⟩, hrest⟩ := List.forall_mem_cons.mp h
      have hlead : '"' ∉ ' ' :: (pair.1.toList ++ ['=']) := by
        have hin : '"' ∉ pair.1.toList := not_mem_of_isName (by decide) hname
        simp [hin]
      have hquote : '"' ∉ pair.2.toList := by
        intro hmem
        exact absurd (List.all_eq_true.mp hvalue '"' hmem) (by decide)
      have hsplit : (Element.writeAttributes (pair :: rest)).toList ++ ending
          = (' ' :: (pair.1.toList ++ ['='])) ++ '"' :: (pair.2.toList ++
            '"' :: ((Element.writeAttributes rest).toList ++ ending)) := by
        simp [Element.writeAttributes]
      rw [hsplit, List.splitOn_append_cons_self_of_not_mem hlead,
        List.splitOn_append_cons_self_of_not_mem hquote, readAttributes, readLead_written hname,
        ih hrest]
      simp only [hvalue, if_true, String.ofList_toList]

theorem readEnding_start {after : List Char} (h : after.all isSpace = true) :
    readEnding ('>' :: after) = some .start := by
  rw [readEnding, List.dropWhile_cons_of_neg (by decide)]
  simp only [h, if_true]

theorem readEnding_empty {after : List Char} (h : after.all isSpace = true) (spaced : Bool) :
    readEnding ((Line.slash spaced).toList ++ after) = some .empty := by
  have hdrop : ((Line.slash spaced).toList ++ after).dropWhile isSpace = '/' :: '>' :: after := by
    cases spaced <;> rfl
  rw [readEnding, hdrop]
  simp only [h, if_true]

/-- A tag with attributes, up to the kind that its ending gives. -/
theorem readStart_written {name : String} {attributes : List (String × String)}
    {ending : List Char} {mark : String → List (String × String) → Mark}
    (h : (Mark.start name attributes).Readable) (hquote : '"' ∉ ending)
    (hname : ∀ c ∈ ending.head?, isNameChar c = false) (hending : readEnding ending = some mark) :
    readStart (name.toList ++ ((Element.writeAttributes attributes).toList ++ ending))
      = some (mark name attributes) := by
  obtain ⟨hisName, hnodup, hattributes⟩ := h
  have hhead : ∀ c ∈ ((Element.writeAttributes attributes).toList ++ ending).head?,
      isNameChar c = false := by
    cases attributes with
    | nil => exact hname
    | cons pair rest =>
        simp only [Element.writeAttributes, String.toList_append, List.append_assoc]
        rintro _ ⟨⟩
        decide
  obtain ⟨htake, hdrop⟩ := span_append (isNameChar_of_isName hisName) hhead
  rw [readStart, htake, hdrop, readAttributes_written hattributes hquote]
  simp only [hisName, hnodup, decide_true, Bool.and_self, if_true, hending, Option.map_some,
    String.ofList_toList]

theorem readStop_written {name : String} {after : List Char} (h : isName name.toList = true)
    (hafter : after.all isSpace = true) :
    readStop (name.toList ++ '>' :: after) = some (.stop name) := by
  have hhead : ∀ c ∈ ('>' :: after).head?, isNameChar c = false := by
    rintro _ ⟨⟩
    decide
  obtain ⟨htake, hdrop⟩ := span_append (isNameChar_of_isName h) hhead
  rw [readStop, htake, hdrop, List.dropWhile_cons_of_neg (by decide)]
  simp only [h, hafter, Bool.and_self, if_true, String.ofList_toList]

theorem readMark_of_isName {name : String} (h : isName name.toList = true) (cs : List Char) :
    readMark (name.toList ++ cs) = readStart (name.toList ++ cs) := by
  cases hchars : name.toList with
  | nil =>
      rw [hchars] at h
      cases h
  | cons c rest =>
      have hc : c ≠ '/' := by
        rintro rfl
        exact not_mem_of_isName (by decide) h (hchars ▸ List.mem_cons_self)
      rw [List.cons_append, readMark]
      rintro _ ⟨⟩
      exact hc rfl

/-- The tag of a line is read back, with any white space behind it. -/
theorem readMark_body {line : Line} (h : line.mark.Readable) {after : List Char}
    (hafter : after.all isSpace = true) :
    readMark (line.body.toList ++ after) = some line.mark := by
  have hquote : '"' ∉ after := by
    intro hmem
    exact absurd (List.all_eq_true.mp hafter '"' hmem) (by decide)
  obtain ⟨depth, mark, spaced⟩ := line
  cases mark with
  | start name attributes =>
      have hbody : (Line.body ⟨depth, .start name attributes, spaced⟩).toList ++ after
          = name.toList ++ ((Element.writeAttributes attributes).toList ++ '>' :: after) := by
        simp [Line.body]
      rw [hbody, readMark_of_isName h.1]
      refine readStart_written h ?_ ?_ (readEnding_start hafter)
      · simp [hquote]
      · rintro _ ⟨⟩
        decide
  | stop name =>
      have hbody : (Line.body ⟨depth, .stop name, spaced⟩).toList ++ after
          = '/' :: (name.toList ++ '>' :: after) := by
        simp [Line.body]
      rw [hbody, readMark, readStop_written h hafter]
  | empty name attributes =>
      have hbody : (Line.body ⟨depth, .empty name attributes, spaced⟩).toList ++ after
          = name.toList ++ ((Element.writeAttributes attributes).toList ++
            ((Line.slash spaced).toList ++ after)) := by
        simp [Line.body]
      rw [hbody, readMark_of_isName h.1]
      refine readStart_written h ?_ ?_ (readEnding_empty hafter spaced)
      · cases spaced <;> simp [Line.slash, hquote]
      · cases spaced <;> rintro _ ⟨⟩ <;> decide

/-! ## A row of tags -/

theorem marksOf_eq_some {cs : List Char} {marks : List Mark} (h : marksOf cs = some marks) :
    ∃ front chunks, cs.splitOn '<' = front :: chunks ∧ front.all isSpace = true ∧
      chunks.mapM readMark = some marks := by
  rw [marksOf] at h
  split at h
  · cases h
  · next front chunks hsplit =>
      split at h
      · next hfront => exact ⟨front, chunks, hsplit, hfront, h⟩
      · cases h

/-- A character that stands neither in names nor in values stands in no part of a
readable tag. -/
theorem not_mem_parts_of_readable {mark : Mark} {c : Char} (h : mark.Readable)
    (hname : isNameChar c = false) (hvalue : isValueChar c = false) :
    ∀ part ∈ mark.parts, c ∉ part.toList := by
  have hvalues {value : List Char} (hall : value.all isValueChar = true) : c ∉ value := by
    intro hmem
    rw [List.all_eq_true.mp hall c hmem] at hvalue
    cases hvalue
  have hnames {name : List Char} (his : isName name = true) : c ∉ name :=
    not_mem_of_isName hname his
  cases mark with
  | stop name => exact List.forall_mem_singleton.mpr (hnames h)
  | start name attributes | empty name attributes =>
      obtain ⟨hisName, -, hattributes⟩ := h
      rw [Mark.parts, List.forall_mem_cons]
      refine ⟨hnames hisName, ?_⟩
      intro part hpart
      obtain ⟨pair, hpair, hin⟩ := List.mem_flatMap.mp hpart
      simp only [List.mem_cons, List.not_mem_nil, or_false] at hin
      rcases hin with rfl | rfl
      · exact hnames (hattributes pair hpair).1
      · exact hvalues (hattributes pair hpair).2

theorem angle_not_mem_body {line : Line} (h : line.mark.Readable) : '<' ∉ line.body.toList :=
  Line.not_mem_body (by decide) (not_mem_parts_of_readable h (by decide) (by decide))

theorem splitOn_append_of_not_mem {sep : Char} {front rest piece : List Char}
    {pieces : List (List Char)} (h : sep ∉ front) (hrest : rest.splitOn sep = piece :: pieces) :
    (front ++ rest).splitOn sep = (front ++ piece) :: pieces := by
  induction front with
  | nil => exact hrest
  | cons c front ih =>
      obtain ⟨hc, hfront⟩ := not_or.mp (mt List.mem_cons.mpr h)
      rw [List.cons_append, List.splitOn_cons_eq_if_modifyHead, ih hfront,
        if_neg (by simpa using Ne.symm hc)]
      rfl

/-- The lines of a text are read one tag at a time: a chunk of the text is what
follows the bracket on one line and the indentation of the next. -/
theorem marksOf_textOfLines {lines : List Line} (h : ∀ line ∈ lines, line.mark.Readable) :
    marksOf (textOfLines (lines.map Line.text)).toList = some (lines.map Line.mark) := by
  rw [textOfLines, String.toList_ofList, List.flatMap_map]
  induction lines with
  | nil => rfl
  | cons line lines ih =>
      obtain ⟨hline, hlines⟩ := List.forall_mem_cons.mp h
      obtain ⟨front, chunks, hsplit, hfront, hmarks⟩ := marksOf_eq_some (ih hlines)
      have htext : (line :: lines).flatMap (fun line => line.text.toList ++ ['\n'])
          = (Element.indent line.depth).toList ++ '<' :: (line.body.toList ++ ['\n'] ++
            lines.flatMap fun line => line.text.toList ++ ['\n']) := by
        simp [Line.text]
      have hindent : '<' ∉ (Element.indent line.depth).toList := by
        simp [Element.indent]
      have hbody : '<' ∉ line.body.toList ++ ['\n'] := by
        simp [angle_not_mem_body hline]
      have hmark : readMark (line.body.toList ++ ['\n'] ++ front) = some line.mark := by
        rw [List.append_assoc]
        exact readMark_body hline (by rw [List.all_append, hfront]; rfl)
      have hspaces : (Element.indent line.depth).toList.all isSpace = true := by
        simp [Element.indent, isSpace]
      rw [htext, marksOf, List.splitOn_append_cons_self_of_not_mem hindent,
        splitOn_append_of_not_mem hbody hsplit]
      simp only [hspaces, if_true, List.mapM_cons, hmark, hmarks, List.map_cons]
      rfl

/-! ## Elements -/

namespace Element

mutual

/-- What a reader sees of an element. -/
def seen : Element → Node
  | .leaf name attributes _ => ⟨name, attributes, []⟩
  | .node name attributes content => ⟨name, attributes, seenAll content⟩

def seenAll : List Element → List Node
  | [] => []
  | element :: rest => seen element :: seenAll rest

end

mutual

/-- The tags of an element are consumed, and the element is done. -/
theorem nest_layout (depth : Nat) (e : Element) (stack : List Frame) (done : List Node)
    (marks : List Mark) :
    nest stack done ((layout depth e).map Line.mark ++ marks)
      = nest stack (seen e :: done) marks := by
  match e with
  | .leaf name attributes spaced =>
      rw [layout, seen]
      cases stack <;> rfl
  | .node name attributes content =>
      rw [layout, seen, List.map_cons, List.map_append, List.cons_append, List.append_assoc]
      -- `nest` looks at the stack before it looks at the tag, so the stack is opened here.
      have hstart : nest stack done (.start name attributes ::
            ((layoutAll (depth + 1) content).map Line.mark ++ ([.stop name] ++ marks)))
          = nest (⟨name, attributes, done⟩ :: stack) []
            ((layoutAll (depth + 1) content).map Line.mark ++ ([.stop name] ++ marks)) := by
        cases stack <;> rfl
      refine hstart.trans ?_
      rw [nest_layoutAll (depth + 1) content, List.append_nil, List.singleton_append, nest,
        if_pos rfl, List.reverse_reverse]

theorem nest_layoutAll (depth : Nat) (es : List Element) (stack : List Frame) (done : List Node)
    (marks : List Mark) :
    nest stack done ((layoutAll depth es).map Line.mark ++ marks)
      = nest stack ((seenAll es).reverse ++ done) marks := by
  match es with
  | [] => rfl
  | e :: rest =>
      rw [layoutAll, seenAll, List.map_append, List.append_assoc, nest_layout depth e,
        nest_layoutAll depth rest, List.reverse_cons, List.append_assoc, List.singleton_append]

end

end Element

/-- A layout is read back as the elements it was made from. -/
theorem read_layout {depth : Nat} {es : List Element}
    (h : ∀ line ∈ Element.layoutAll depth es, line.mark.Readable) :
    read (textOfLines (Element.linesOfAll depth es)) = some (Element.seenAll es) := by
  have hnest := Element.nest_layoutAll depth es [] [] []
  rw [List.append_nil, List.append_nil] at hnest
  rw [read, Element.linesOfAll_eq_map_text, marksOf_textOfLines h, Option.bind_some, hnest, nest,
    List.reverse_reverse]

-- Other layouts are read alike, and an end tag has to fit.
example : read "<a b=\"1\" ><c></c>\n</a>" = some [⟨"a", [("b", "1")], [⟨"c", [], []⟩]⟩] := rfl

example : read "<a><c></a></c>" = none := rfl

end MarkupSchema.Schema
