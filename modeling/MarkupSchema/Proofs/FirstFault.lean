import Mathlib.Data.List.Induction
import MarkupSchema.Decode.Strict
import MarkupSchema.Proofs.FieldOrder

/-!
# The first fault

A map can be wrong in many places at once, and reading it reports one error. Which one it
is follows from the entries alone. An entry is checked against those before it, and all
that counts of them is which names they have: the drafts that go from entry to entry in
the code hold a field if and only if an entry with its name has been taken in. So what is
wrong with an entry can be said with a list of names in place of a draft, and this is what
`Shape.fault?` does. A shape is a table of names and of the kinds of values under them,
and the two maps that are read differ in their tables and in nothing else.

The first entry at fault ends the reading, and whatever comes after it is never looked at.
Fields that are absent are looked for in the end, so they count only where no entry is at
fault.
-/

namespace MarkupSchema.Decode

open Diagnostics (Code Record)

/-! ## What is wrong with a value -/

/-- The kinds of values that fields hold. -/
inductive Kind where
  | word
  | code
  | text
  | tag
  | bool
  | attributes
  | tags

/-- A number that is no 32-bit word. -/
def wordMisfit? (n : Int) : Option DecodeError :=
  if 0 ≤ n ∧ n ≤ 4294967295 then none else some (.outOfRange n)

/-- The sign is what can be wrong with a number as a code. -/
def codeMisfit? (n : Int) : Option DecodeError :=
  if 0 ≤ n then none else some (.code ⟨n.repr, .badCharacter⟩)

def textMisfit? : Value → Option DecodeError
  | .text _ => none
  | found => some (.wrongKind found .text)

def tagMisfit? : Value → Option DecodeError
  | .text words => (Tag.fault? words).map fun fault => .tag ⟨words, fault⟩
  | found => some (.wrongKind found .text)

/-- What is wrong with a value of a kind, if anything is. Of the items of a list and of the
types of attributes it is the first that is wrong. -/
def Kind.misfit? : Kind → Value → Option DecodeError
  | .word, .natural n => wordMisfit? n.toNat
  | .word, .integer n => wordMisfit? n.toInt
  | .word, found => some (.wrongKind found .word)
  | .code, .text words => (Code.fault? words).map fun fault => .code ⟨words, fault⟩
  | .code, .natural _ => none
  | .code, .integer n => codeMisfit? n.toInt
  | .code, found => some (.wrongKind found .code)
  | .text, found => textMisfit? found
  | .tag, found => tagMisfit? found
  | .bool, .bool _ => none
  | .bool, found => some (.wrongKind found .bool)
  | .attributes, .map entries => entries.findSome? fun entry => textMisfit? entry.2
  | .attributes, found => some (.wrongKind found .map)
  | .tags, .list items => items.findSome? tagMisfit?
  | .tags, found => some (.wrongKind found .list)

theorem error_eq_error_iff_some_eq_some {ε α : Type} {a b : ε} :
    (Except.error a : Except ε α) = .error b ↔ some a = some b := by
  rw [Except.error.injEq, Option.some.injEq]

theorem fits_of_eq_ok {ε α β : Type} {f : α → Except ε β} {misfit? : α → Option ε}
    (h : ∀ a e, f a = .error e ↔ misfit? a = some e) {a : α} {b : β} (hok : f a = .ok b) :
    misfit? a = none := by
  rw [Option.eq_none_iff_forall_ne_some]
  intro e hmisfit
  rw [(h a e).mpr hmisfit] at hok
  cases hok

/-- What is wrong with the items of a list is what is wrong with the first that is. -/
theorem mapM_eq_error_iff {ε α β : Type} {f : α → Except ε β} {misfit? : α → Option ε}
    (h : ∀ a e, f a = .error e ↔ misfit? a = some e) {l : List α} {e : ε} :
    l.mapM f = .error e ↔ l.findSome? misfit? = some e := by
  induction l with
  | nil => exact iff_of_false nofun nofun
  | cons a l ih =>
      rw [List.mapM_cons, List.findSome?_cons]
      cases hfirst : f a with
      | error e' =>
          rw [(h a e').mp hfirst]
          exact error_eq_error_iff_some_eq_some
      | ok b =>
          rw [fits_of_eq_ok h hfirst, ← ih]
          exact bind_pure_eq_error_iff

/-- The same of a list that is worked off, if nothing depends on what was there before. -/
theorem foldlM_eq_error_iff {ε α β : Type} {f : β → α → Except ε β} {misfit? : α → Option ε}
    (h : ∀ b a e, f b a = .error e ↔ misfit? a = some e) {l : List α} {b : β} {e : ε} :
    l.foldlM f b = .error e ↔ l.findSome? misfit? = some e := by
  induction l generalizing b with
  | nil => exact iff_of_false nofun nofun
  | cons a l ih =>
      rw [List.foldlM_cons, List.findSome?_cons]
      cases hfirst : f b a with
      | error e' =>
          rw [(h b a e').mp hfirst]
          exact error_eq_error_iff_some_eq_some
      | ok b' =>
          rw [fits_of_eq_ok (h b) hfirst, ← ih]
          exact Iff.rfl

namespace Value

theorem toText_eq_error_iff {value : Value} {e : DecodeError} :
    value.toText = .error e ↔ textMisfit? value = some e := by
  cases value <;> simp [toText, textMisfit?]

theorem toTag_eq_error_iff {value : Value} {e : DecodeError} :
    value.toTag = .error e ↔ tagMisfit? value = some e := by
  cases value with
  | text words =>
      show (Tag.ofString words).mapError DecodeError.tag = .error e ↔ _
      rw [mapError_eq_error_iff, tagMisfit?, Tag.ofString]
      split
      · next h => simp [h]
      · next fault h => simp [h]
  | unit | bool | natural | integer | float | list | map =>
      exact error_eq_error_iff_some_eq_some

theorem wordOfInt_eq_error_iff {n : Int} {e : DecodeError} :
    wordOfInt n = .error e ↔ wordMisfit? n = some e := by
  have hsize : (0 ≤ n ∧ n.toNat < UInt32.size) ↔ 0 ≤ n ∧ n ≤ 4294967295 := by
    rw [UInt32.size]
    omega
  rw [wordOfInt, wordMisfit?]
  by_cases h : 0 ≤ n ∧ n ≤ 4294967295
  · rw [if_pos (hsize.mpr h), if_pos h]
    exact iff_of_false nofun nofun
  · rw [if_neg (mt hsize.mp h), if_neg h]
    exact error_eq_error_iff_some_eq_some

theorem ofString_eq_error_of_fault? {text : String} {fault : Diagnostics.CodeFault}
    (h : Code.fault? text = some fault) : Code.ofString text = .error ⟨text, fault⟩ := by
  rw [Code.ofString]
  split
  · next hnone =>
      rw [h] at hnone
      cases hnone
  · next found hfound =>
      cases h.symm.trans hfound
      rfl

theorem fault?_minus (digits : String) : Code.fault? ("-" ++ digits) = some .badCharacter := by
  have htext : ("-" ++ digits).toList = '-' :: digits.toList := String.toList_append
  rw [Code.fault?, htext]
  rfl

theorem ofInt_eq_error_iff {n : Int} {e : DecodeError} :
    (Code.ofInt n).mapError DecodeError.code = .error e ↔ codeMisfit? n = some e := by
  cases n with
  | ofNat n =>
      have hfits : codeMisfit? (.ofNat n) = none := if_pos (Int.natCast_nonneg n)
      rw [hfits]
      exact iff_of_false nofun nofun
  | negSucc n =>
      have hmisfit : codeMisfit? (.negSucc n) =
          some (.code ⟨(Int.negSucc n).repr, .badCharacter⟩) :=
        if_neg (Int.negSucc_not_nonneg n).mp
      have hcode : Code.ofInt (.negSucc n) = .error ⟨(Int.negSucc n).repr, .badCharacter⟩ :=
        ofString_eq_error_of_fault? (fault?_minus _)
      rw [hmisfit, hcode]
      exact error_eq_error_iff_some_eq_some

/-- A value cannot be read as a field if and only if there is something wrong with it. -/
theorem toWord_eq_error_iff {value : Value} {e : DecodeError} :
    value.toWord = .error e ↔ Kind.word.misfit? value = some e := by
  cases value with
  | natural n | integer n => exact wordOfInt_eq_error_iff
  | unit | bool | float | text | list | map => simp [toWord, Kind.misfit?]

theorem toCode_eq_error_iff {value : Value} {e : DecodeError} :
    value.toCode = .error e ↔ Kind.code.misfit? value = some e := by
  cases value with
  | text words =>
      rw [toCode, mapError_eq_error_iff, Kind.misfit?, Code.ofString]
      split
      · next h => simp [h]
      · next fault h => simp [h]
  | integer n => exact ofInt_eq_error_iff
  | unit | bool | natural | float | list | map => simp [toCode, Kind.misfit?]

theorem toBool_eq_error_iff {value : Value} {e : DecodeError} :
    value.toBool = .error e ↔ Kind.bool.misfit? value = some e := by
  cases value <;> simp [toBool, Kind.misfit?]

theorem toTags_eq_error_iff {value : Value} {e : DecodeError} :
    value.toTags = .error e ↔ Kind.tags.misfit? value = some e := by
  cases value with
  | list items => exact mapM_eq_error_iff fun _ _ => toTag_eq_error_iff
  | unit | bool | natural | integer | float | text | map => simp [toTags, Kind.misfit?]

theorem toAttributes_eq_error_iff {value : Value} {e : DecodeError} :
    value.toAttributes = .error e ↔ Kind.attributes.misfit? value = some e := by
  cases value with
  | map entries =>
      refine foldlM_eq_error_iff fun table entry e => ?_
      rw [← toText_eq_error_iff]
      exact bind_pure_eq_error_iff
  | unit | bool | natural | integer | float | text | list => simp [toAttributes, Kind.misfit?]

end Value

/-! ## What is wrong with an entry -/

/-- What a map is read as: the names it may have with the kinds of their values, and the
names it must have. -/
structure Shape where
  fields : List (String × Kind)
  required : List String

namespace Shape

/-- What is wrong with an entry that stands after entries with the names `earlier`, if
anything is. -/
def fault? (shape : Shape) (earlier : List String) (entry : String × Value) :
    Option DecodeError :=
  match shape.fields.lookup entry.1 with
  | none => some (.unknownField entry.1 (shape.fields.map Prod.fst))
  | some kind =>
      if entry.1 ∈ earlier then some (.duplicateField entry.1) else kind.misfit? entry.2

/-- No entry is at fault. -/
def Faultless (shape : Shape) (entries : List (String × Value)) : Prop :=
  ∀ before entry after, entries = before ++ entry :: after →
    shape.fault? (before.map Prod.fst) entry = none

/-- The first name that is required and not there. -/
def absent? (shape : Shape) (entries : List (String × Value)) : Option String :=
  shape.required.find? fun name => name ∉ entries.map Prod.fst

variable {shape : Shape} {entries : List (String × Value)}

theorem faultless_nil : shape.Faultless [] := by
  intro before entry after h
  simp at h

theorem faultless_concat {entry : String × Value} :
    shape.Faultless (entries ++ [entry]) ↔
      shape.Faultless entries ∧ shape.fault? (entries.map Prod.fst) entry = none := by
  constructor
  · intro h
    refine ⟨?_, h entries entry [] rfl⟩
    rintro before first after rfl
    exact h before first (after ++ [entry]) (by simp)
  · rintro ⟨hall, hlast⟩ before first after h
    cases after using List.reverseRecOn with
    | nil =>
        obtain ⟨rfl, hsame⟩ := List.append_inj' h rfl
        cases hsame
        exact hlast
    | append_singleton after last =>
        rw [← List.cons_append, ← List.append_assoc] at h
        obtain ⟨rfl, -⟩ := List.append_inj' h rfl
        exact hall before first after rfl

/-- Where some entry is at fault there is one before which none is. -/
theorem exists_first_fault (h : ¬ shape.Faultless entries) :
    ∃ before entry after e, entries = before ++ entry :: after ∧ shape.Faultless before ∧
      shape.fault? (before.map Prod.fst) entry = some e := by
  induction entries using List.reverseRecOn with
  | nil => exact absurd faultless_nil h
  | append_singleton entries last ih =>
      by_cases hall : shape.Faultless entries
      · rw [faultless_concat, not_and] at h
        obtain ⟨e, he⟩ := Option.ne_none_iff_exists'.mp (h hall)
        exact ⟨entries, last, [], e, rfl, hall, he⟩
      · obtain ⟨before, entry, after, e, rfl, hbefore, he⟩ := ih hall
        exact ⟨before, entry, after ++ [last], e, by simp, hbefore, he⟩

end Shape

/-! ## What a form makes of it -/

/-- A form that takes in what a shape describes. -/
structure Form.Follows {Field Draft : Type} (form : Form Field Draft String Value DecodeError)
    (shape : Shape) (start : Draft) (name : Field → String) (kind : Field → Kind) : Prop where
  key : ∀ text, form.key text = .ok text
  field : ∀ text f, form.field? text = some f ↔ name f = text
  lookup : ∀ text, shape.fields.lookup text = (form.field? text).map kind
  unknown : ∀ text, form.unknown text = .unknownField text (shape.fields.map Prod.fst)
  duplicate : ∀ text, form.duplicate text = .duplicateField text
  read : ∀ d f value e, form.read d f value = .error e ↔ (kind f).misfit? value = some e
  start : ∀ f, form.has start f = false

namespace Form.Follows

variable {Field Draft : Type} {form : Form Field Draft String Value DecodeError} {shape : Shape}
  {start d : Draft} {name : Field → String} {kind : Field → Kind}
  {entries before after : List (String × Value)} {entry : String × Value} {e : DecodeError}

/-- A draft holds the fields whose names have been there. -/
theorem has_iff (h : form.Follows shape start name kind)
    (hfold : entries.foldlM form.take start = .ok d) (f : Field) :
    form.has d f = true ↔ name f ∈ entries.map Prod.fst := by
  have hkey (text : String) : form.fieldOf? text = form.field? text := by
    rw [fieldOf?, h.key]
    rfl
  rw [has_foldlM hfold, h.start, named, List.mem_map, List.mem_map]
  simp only [hkey, h.field, Bool.false_eq_true, or_false]
  exact exists_congr fun entry => and_congr_right fun _ => eq_comm

theorem take_eq_error_iff (h : form.Follows shape start name kind) {earlier : List String}
    (hhas : ∀ f, form.has d f = true ↔ name f ∈ earlier) :
    form.take d entry = .error e ↔ shape.fault? earlier entry = some e := by
  have hkey : form.key entry.1 = pure entry.1 := by
    rw [h.key]
    rfl
  rw [take, hkey, pure_bind, Shape.fault?, h.lookup]
  cases hfield : form.field? entry.1 with
  | none =>
      rw [← h.unknown]
      exact error_eq_error_iff_some_eq_some
  | some f =>
      have hname := (h.field entry.1 f).mp hfield
      show (if form.has d f then _ else _) = _ ↔ (if _ then _ else _) = _
      by_cases hmem : entry.1 ∈ earlier
      · rw [if_pos ((hhas f).mpr (hname ▸ hmem)), if_pos hmem, h.duplicate]
        exact error_eq_error_iff_some_eq_some
      · rw [if_neg (mt (hhas f).mp (hname ▸ hmem)), if_neg hmem]
        exact h.read d f entry.2 e

theorem exists_foldlM (h : form.Follows shape start name kind) (hall : shape.Faultless entries) :
    ∃ d, entries.foldlM form.take start = .ok d := by
  induction entries using List.reverseRecOn with
  | nil => exact ⟨start, rfl⟩
  | append_singleton entries last ih =>
      obtain ⟨hfront, hlast⟩ := Shape.faultless_concat.mp hall
      obtain ⟨d, hd⟩ := ih hfront
      rw [List.foldlM_append, hd]
      cases htake : form.take d last with
      | ok d' =>
          refine ⟨d', ?_⟩
          show [last].foldlM form.take d = .ok d'
          rw [List.foldlM_cons, htake]
          rfl
      | error e =>
          rw [h.take_eq_error_iff (h.has_iff hd), hlast] at htake
          cases htake

/-- Nothing that comes after the first entry at fault is looked at. -/
theorem foldlM_of_first_fault (h : form.Follows shape start name kind)
    (hbefore : shape.Faultless before)
    (hfault : shape.fault? (before.map Prod.fst) entry = some e) :
    (before ++ entry :: after).foldlM form.take start = .error e := by
  obtain ⟨d, hd⟩ := h.exists_foldlM hbefore
  rw [List.foldlM_append, hd]
  show (entry :: after).foldlM form.take d = .error e
  rw [List.foldlM_cons, (h.take_eq_error_iff (h.has_iff hd)).mpr hfault]
  rfl

/-- The first entry at fault is blamed whatever is still to be done. -/
theorem exists_error_of_fault (h : form.Follows shape start name kind) {α : Type}
    {finish : Draft → Except DecodeError α} (hall : ¬ shape.Faultless entries) :
    ∃ before entry after e, entries = before ++ entry :: after ∧ shape.Faultless before ∧
      shape.fault? (before.map Prod.fst) entry = some e ∧
      ∀ more, (entries ++ more).foldlM form.take start >>= finish = .error e := by
  obtain ⟨before, entry, after, e, rfl, hbefore, hfault⟩ := Shape.exists_first_fault hall
  refine ⟨before, entry, after, e, rfl, hbefore, hfault, fun more => ?_⟩
  rw [List.append_assoc, List.cons_append, h.foldlM_of_first_fault hbefore hfault]
  rfl

/-- If a reading ends with a look at fields that are needed, it blames the first that is
absent. -/
theorem error_iff_absent (h : form.Follows shape start name kind) {α : Type} {needed : List Field}
    {finish : Draft → Except DecodeError α} (hneeded : shape.required = needed.map name)
    (hfinish : ∀ d e, finish d = .error e ↔
      ∃ f, (needed.find? fun f => !form.has d f) = some f ∧ e = .missingField (name f))
    (hall : shape.Faultless entries) :
    entries.foldlM form.take start >>= finish = .error e ↔
      ∃ name, shape.absent? entries = some name ∧ e = .missingField name := by
  obtain ⟨d, hd⟩ := h.exists_foldlM hall
  have habsent : shape.absent? entries = (needed.find? fun f => !form.has d f).map name := by
    rw [Shape.absent?, hneeded, List.find?_map]
    refine congrArg (fun p => (needed.find? p).map name) (funext fun f => ?_)
    show decide (name f ∉ entries.map Prod.fst) = !form.has d f
    rw [decide_not, ← Bool.decide_coe (form.has d f)]
    exact congrArg not (decide_eq_decide.mpr (h.has_iff hd f).symm)
  rw [hd, habsent]
  show finish d = .error e ↔ _
  rw [hfinish]
  simp

end Form.Follows

/-! ## Records and components -/

def recordShape : Shape where
  fields := [("line", .word), ("column", .word), ("code", .code), ("message", .text)]
  required := ["line", "column", "code", "message"]

def componentShape : Shape where
  fields := [("tagName", .tag), ("selfClosingTag", .bool), ("endingTag", .bool),
    ("attributes", .attributes), ("parentTag", .tags)]
  required := ["tagName"]

def RecordField.kind : RecordField → Kind
  | .line | .column => .word
  | .code => .code
  | .message => .text

def ComponentField.kind : ComponentField → Kind
  | .tag => .tag
  | .selfClosing | .ending => .bool
  | .attributes => .attributes
  | .parents => .tags

theorem lookup_map {Field : Type} (name : Field → String) (kind : Field → Kind) (text : String)
    (fields : List Field) :
    (fields.map fun f => (name f, kind f)).lookup text =
      (fields.find? fun f => name f == text).map kind := by
  induction fields with
  | nil => rfl
  | cons f fields ih =>
      rw [List.map_cons, List.lookup_cons, List.find?_cons, ih, BEq.comm]
      cases name f == text <;> rfl

theorem follows_recordForm :
    (recordForm Value.source).Follows recordShape {} RecordField.name RecordField.kind where
  key _ := rfl
  field _ _ := RecordField.ofName?_eq_some_iff
  lookup text := lookup_map RecordField.name RecordField.kind text RecordField.all
  unknown _ := rfl
  duplicate _ := rfl
  read _ f value e := by
    cases f with
    | line | column => exact bind_pure_eq_error_iff.trans Value.toWord_eq_error_iff
    | code => exact bind_pure_eq_error_iff.trans Value.toCode_eq_error_iff
    | message => exact bind_pure_eq_error_iff.trans Value.toText_eq_error_iff
  start f := by cases f <;> rfl

theorem follows_componentForm :
    (componentForm Value.source).Follows componentShape {} ComponentField.name
      ComponentField.kind where
  key _ := rfl
  field _ _ := ComponentField.ofName?_eq_some_iff
  lookup text := lookup_map ComponentField.name ComponentField.kind text ComponentField.all
  unknown _ := rfl
  duplicate _ := rfl
  read _ f value e := by
    cases f with
    | tag => exact bind_pure_eq_error_iff.trans Value.toTag_eq_error_iff
    | selfClosing | ending => exact bind_pure_eq_error_iff.trans Value.toBool_eq_error_iff
    | «attributes» => exact bind_pure_eq_error_iff.trans Value.toAttributes_eq_error_iff
    | parents => exact bind_pure_eq_error_iff.trans Value.toTags_eq_error_iff
  start f := by cases f <;> rfl

theorem RecordDraft.finish_eq_error_iff {d : RecordDraft} {missing : RecordField → DecodeError}
    {e : DecodeError} :
    d.finish missing = .error e ↔
      ∃ f, (RecordField.all.find? fun f => !d.has f) = some f ∧ e = missing f := by
  obtain ⟨line, column, code, message⟩ := d
  cases line
  case none => simp [finish, RecordField.all, has, eq_comm]
  cases column
  case none => simp [finish, RecordField.all, has, eq_comm]
  cases code
  case none => simp [finish, RecordField.all, has, eq_comm]
  cases message
  case none => simp [finish, RecordField.all, has, eq_comm]
  case some => simp [finish, RecordField.all, has]

theorem ComponentDraft.finish_eq_error_iff {d : ComponentDraft}
    {missing : ComponentField → DecodeError} {e : DecodeError} :
    d.finish missing = .error e ↔
      ∃ f, ([ComponentField.tag].find? fun f => !d.has f) = some f ∧ e = missing f := by
  obtain ⟨tag, selfClosing, ending, «attributes», parents⟩ := d
  cases tag with
  | none => simp [finish, has, eq_comm]
  | some tag => simp [finish, has]

theorem toRecord_map_eq (entries : List (String × Value)) :
    (Value.map entries).toRecord = entries.foldlM (recordForm Value.source).take {} >>=
      RecordDraft.finish fun field => .missingField field.name := by
  rw [take_recordForm]
  rfl

theorem toComponent_map_eq (entries : List (String × Value)) :
    (Value.map entries).toComponent = entries.foldlM (componentForm Value.source).take {} >>=
      ComponentDraft.finish fun field => .missingField field.name := by
  rw [take_componentForm]
  rfl

/-- If some entry of a map is at fault, the first of them is blamed whatever comes after
it. If none is, a map is refused for the first required name that is absent, and for
nothing else. -/
theorem first_fault_decides :
    (∀ entries, ¬ recordShape.Faultless entries →
      ∃ before entry after e, entries = before ++ entry :: after ∧
        recordShape.Faultless before ∧
        recordShape.fault? (before.map Prod.fst) entry = some e ∧
        ∀ more, (Value.map (entries ++ more)).toRecord = .error e) ∧
    (∀ entries, recordShape.Faultless entries → ∀ e,
      (Value.map entries).toRecord = .error e ↔
        ∃ name, recordShape.absent? entries = some name ∧ e = .missingField name) ∧
    (∀ entries, ¬ componentShape.Faultless entries →
      ∃ before entry after e, entries = before ++ entry :: after ∧
        componentShape.Faultless before ∧
        componentShape.fault? (before.map Prod.fst) entry = some e ∧
        ∀ more, (Value.map (entries ++ more)).toComponent = .error e) ∧
    ∀ entries, componentShape.Faultless entries → ∀ e,
      (Value.map entries).toComponent = .error e ↔
        ∃ name, componentShape.absent? entries = some name ∧ e = .missingField name := by
  refine ⟨?_, ?_, ?_, ?_⟩
  · intro entries h
    simp only [toRecord_map_eq]
    exact follows_recordForm.exists_error_of_fault h
  · intro entries hall e
    rw [toRecord_map_eq]
    exact follows_recordForm.error_iff_absent rfl (fun _ _ => RecordDraft.finish_eq_error_iff) hall
  · intro entries h
    simp only [toComponent_map_eq]
    exact follows_componentForm.exists_error_of_fault h
  · intro entries hall e
    rw [toComponent_map_eq]
    exact follows_componentForm.error_iff_absent rfl
      (fun _ _ => ComponentDraft.finish_eq_error_iff) hall

/-- A bad parent is blamed before an unknown name, a repeated one and the absent tag. With
good parents and nothing else the tag is what is missing. -/
theorem first_fault_decides_of_bad_parent :
    let parents : String × Value := ("parentTag", .list [.text "mj-column", .text "9x", .unit])
    let entries : List (String × Value) := [parents, ("level", .unit), ("parentTag", .unit)]
    let fitting : List (String × Value) := [("parentTag", .list [.text "mj-column"])]
    ¬ componentShape.Faultless entries ∧
      (Value.map (entries ++ [("tagName", .bool true)])).toComponent =
        .error (.tag ⟨"9x", .badStart⟩) ∧
      componentShape.Faultless fitting ∧
      (Value.map fitting).toComponent = .error (.missingField "tagName") := by
  intro parents entries fitting
  have hfault : componentShape.fault? [] parents = some (.tag ⟨"9x", .badStart⟩) := by rfl
  have hentries : ¬ componentShape.Faultless entries := fun hall =>
    absurd ((hall [] parents _ rfl).symm.trans hfault) nofun
  have hfitting : componentShape.Faultless fitting :=
    Shape.faultless_concat.mpr ⟨Shape.faultless_nil, by rfl⟩
  obtain ⟨-, -, hfirst, habsent⟩ := first_fault_decides
  obtain ⟨before, entry, after, e, hsplit, hbefore, he, herror⟩ := hfirst entries hentries
  refine ⟨hentries, (herror _).trans ?_, hfitting, (habsent fitting hfitting _).mpr ⟨_, rfl, rfl⟩⟩
  cases before with
  | nil =>
      have hsame : parents = entry := (List.cons.inj hsplit).1
      rw [← hsame] at he
      exact congrArg Except.error (Option.some.inj (he.symm.trans hfault))
  | cons first before =>
      have hsame : parents = first := (List.cons.inj hsplit).1
      rw [← hsame] at hbefore
      exact absurd ((hbefore [] parents before rfl).symm.trans hfault) nofun

end MarkupSchema.Decode
