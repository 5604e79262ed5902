import Mathlib.Data.List.Perm.Basic
import MarkupSchema.Decode.Strict
import MarkupSchema.Proofs.FieldOrder

/-!
# What is a record

A self-describing value is a record if it is a map with an entry for each field, or
the list of the four values, and if each value fits its field. Everything else is
refused. The code does not say so in one place. Lists and maps are read by different
loops. A list is read as far as it goes, and that it has ended too early or goes on
for too long is only seen afterwards. In a map the fourth field is looked for when all
entries are done, and a fifth entry is refused for naming something twice or naming
nothing.

The two loops meet in the drafts they leave. Both have to come to the one draft in
which all fields of the record are filled, and in both each field was filled from one
value. So what a value has to be to fit its field can be said for one field at a time,
without a word on how the values are arranged, and this is also why all arrangements
of the same values give the same record.
-/

namespace MarkupSchema.Decode

open Diagnostics (Code Record)

namespace Value

/-! ## Values that fit -/

/-- The integer that a value is. -/
def integer? : Value → Option Int
  | .natural n => some n.toNat
  | .integer n => some n.toInt
  | .unit | .bool _ | .float _ | .text _ | .list _ | .map _ => none

/-- The text that a value stands for as a code. Of a number it is the decimal text. -/
def codeText? : Value → Option String
  | .text words => some words
  | .natural n => some n.toNat.repr
  | .integer n => some n.toInt.repr
  | .unit | .bool _ | .float _ | .list _ | .map _ => none

def IsWord (value : Value) : Prop := ∃ n, value.integer? = some n ∧ 0 ≤ n ∧ n ≤ 4294967295

/-- A run of ASCII digits, or a number without a sign. -/
def IsCode : Value → Prop
  | .text words => words.toList ≠ [] ∧ ∀ c ∈ words.toList, c.isDigit = true
  | .natural _ => True
  | .integer n => 0 ≤ n.toInt
  | .unit | .bool _ | .float _ | .list _ | .map _ => False

def IsText (value : Value) : Prop := ∃ words, value = .text words

theorem wordOfInt_eq_ok_iff {n : Int} {w : UInt32} :
    wordOfInt n = .ok w ↔ n = (w.toNat : Int) := by
  have hw : w.toNat < UInt32.size := w.toNat_lt
  rw [wordOfInt]
  constructor
  · intro h
    split at h
    · next hrange =>
        have htoNat : w.toNat = n.toNat := by
          rw [← Except.ok.inj h]
          exact UInt32.toNat_ofNat_of_lt' hrange.2
        omega
    · cases h
  · rintro rfl
    rw [if_pos ⟨Int.natCast_nonneg _, by rwa [Int.toNat_natCast]⟩, Int.toNat_natCast,
      UInt32.ofNat_toNat]

theorem toWord_eq_ok_iff {value : Value} {w : UInt32} :
    value.toWord = .ok w ↔ value.integer? = some (w.toNat : Int) := by
  cases value with
  | natural n | integer n =>
      rw [toWord, wordOfInt_eq_ok_iff, integer?, Option.some.injEq]
  | unit | bool | float | text | list | map => exact iff_of_false nofun nofun

theorem toCode_eq_ok_iff {value : Value} {code : Code} :
    value.toCode = .ok code ↔ value.codeText? = some code.text := by
  cases value with
  | text words =>
      rw [toCode, codeText?, mapError_eq_ok_iff, Code.ofString_eq_ok_iff, Option.some.injEq]
  | natural n =>
      rw [toCode, codeText?, Except.ok.injEq, Code.ofNat_eq_iff, Option.some.injEq]
  | integer n =>
      rw [toCode, codeText?, mapError_eq_ok_iff, Code.ofInt_eq_ok_iff, Option.some.injEq]
  | unit | bool | float | list | map => exact iff_of_false nofun nofun

theorem toText_eq_ok_iff {value : Value} {words : String} :
    value.toText = .ok words ↔ value = .text words := by
  cases value with
  | text words' => rw [toText, Except.ok.injEq, Value.text.injEq]
  | unit | bool | natural | integer | float | list | map => exact iff_of_false nofun nofun

theorem isWord_iff {value : Value} : value.IsWord ↔ ∃ w, value.toWord = .ok w := by
  constructor
  · rintro ⟨n, hn, hlow, hhigh⟩
    obtain ⟨k, rfl⟩ := Int.eq_ofNat_of_zero_le hlow
    have hk : k < UInt32.size := by
      rw [UInt32.size]
      omega
    exact ⟨UInt32.ofNat k, toWord_eq_ok_iff.mpr (by rw [hn, UInt32.toNat_ofNat_of_lt' hk])⟩
  · rintro ⟨w, hw⟩
    have hlt := w.toNat_lt
    exact ⟨w.toNat, toWord_eq_ok_iff.mp hw, by omega, by omega⟩

/-- The sign of a negative number is no digit. -/
theorem exists_ofInt_iff {n : Int} : (∃ code, Code.ofInt n = .ok code) ↔ 0 ≤ n := by
  cases n with
  | ofNat n => exact iff_of_true ⟨_, rfl⟩ (Int.natCast_nonneg n)
  | negSucc n =>
      refine iff_of_false ?_ (Int.negSucc_not_nonneg n).mp
      rintro ⟨code, hcode⟩
      have htext := Code.ofString_eq_ok_iff.mp hcode
      have hsign : '-' ∈ code.text.toList := by
        rw [← htext, String.toList_append]
        exact List.mem_cons_self
      exact absurd ((Code.fault?_eq_none_iff.mp code.isCode).2 '-' hsign) (by decide)

theorem isCode_iff {value : Value} : value.IsCode ↔ ∃ code, value.toCode = .ok code := by
  cases value with
  | text words =>
      simp only [toCode, mapError_eq_ok_iff, Code.ofString_eq_ok_iff]
      rw [IsCode, ← Code.fault?_eq_none_iff]
      constructor
      · intro h
        exact ⟨⟨words, h⟩, rfl⟩
      · rintro ⟨code, rfl⟩
        exact code.isCode
  | natural n => exact iff_of_true trivial ⟨_, rfl⟩
  | integer n =>
      simp only [toCode, mapError_eq_ok_iff]
      exact exists_ofInt_iff.symm
  | unit | bool | float | list | map => exact iff_of_false id nofun

theorem isText_iff {value : Value} : value.IsText ↔ ∃ words, value.toText = .ok words :=
  exists_congr fun _ => toText_eq_ok_iff.symm

end Value

/-! ## Drafts that are finished -/

section

variable {Key Node Error : Type} {source : Source Key Node Error}

/-- The value of a field is read as what the record holds there. -/
def RecordField.Reads (source : Source Key Node Error) (r : Record) (node : Node) :
    RecordField → Prop
  | .line => source.word node = .ok r.line
  | .column => source.word node = .ok r.column
  | .code => source.code node = .ok r.code
  | .message => source.text node = .ok r.message

namespace RecordDraft

def Agrees (d : RecordDraft) (r : Record) : RecordField → Prop
  | .line => d.line = some r.line
  | .column => d.column = some r.column
  | .code => d.code = some r.code
  | .message => d.message = some r.message

theorem agrees_iff_reads {d d' : RecordDraft} {node : Node} {field : RecordField}
    (h : d.read source field node = .ok d') (r : Record) :
    d'.Agrees r field ↔ field.Reads source r node := by
  cases field
  all_goals
    obtain ⟨value, hvalue, hdraft⟩ := bind_eq_ok_iff.mp h
    cases hdraft
    rw [Agrees, RecordField.Reads, hvalue, Option.some.injEq, Except.ok.injEq]

theorem exists_read_of_reads {r : Record} {node : Node} {field : RecordField}
    (h : field.Reads source r node) (d : RecordDraft) :
    ∃ d', d.read source field node = .ok d' := by
  cases field
  all_goals
    rw [RecordField.Reads] at h
    rw [read, h]
    exact ⟨_, rfl⟩

theorem finish_eq_ok_iff {missing : RecordField → Error} {d : RecordDraft} {r : Record} :
    d.finish missing = .ok r ↔ ∀ field, d.Agrees r field := by
  constructor
  · intro h field
    rw [finish] at h
    split at h
    all_goals cases h
    next hline hcolumn hcode hmessage => cases field <;> assumption
  · intro h
    have hline : d.line = some r.line := h .line
    have hcolumn : d.column = some r.column := h .column
    have hcode : d.code = some r.code := h .code
    have hmessage : d.message = some r.message := h .message
    rw [finish, hline, hcolumn, hcode, hmessage]

theorem has_of_agrees {d : RecordDraft} {r : Record} {field : RecordField}
    (h : d.Agrees r field) : d.has field = true := by
  cases field
  all_goals
    rw [Agrees] at h
    rw [has, h]
    rfl

end RecordDraft

end

theorem RecordField.fieldOf?_name (field : RecordField) :
    (recordForm Value.source).fieldOf? field.name = some field :=
  RecordField.ofName?_eq_some_iff.mpr rfl

theorem RecordField.has_empty (field : RecordField) :
    (recordForm Value.source).has {} field = false := by
  cases field <;> rfl

theorem RecordField.nodup_all : all.Nodup := by decide

theorem RecordField.mem_all (field : RecordField) : field ∈ all := by cases field <;> decide

namespace Value

/-! ## Maps and lists -/

/-- The ways to arrange four values: as a map, with its entries in any order, and as
a list. -/
inductive Arranges (line column code message : Value) : Value → Prop
  | map {entries : List (String × Value)}
      (h : entries.Perm
        [("line", line), ("column", column), ("code", code), ("message", message)]) :
      Arranges line column code message (.map entries)
  | list : Arranges line column code message (.list [line, column, code, message])

def byField (line column code message : Value) : RecordField → Value
  | .line => line
  | .column => column
  | .code => code
  | .message => message

theorem recordOfEntries_iff {values : RecordField → Value} {entries : List (String × Value)}
    (h : entries.Perm (RecordField.all.map fun field => (field.name, values field))) {r : Record} :
    recordOfEntries source entries = .ok r ↔
      ∀ field : RecordField, field.Reads source r (values field) := by
  have hmem (field : RecordField) : (field.name, values field) ∈ entries :=
    h.mem_iff.mpr (List.mem_map.mpr ⟨field, field.mem_all, rfl⟩)
  rw [recordOfEntries, ← take_recordForm]
  constructor
  · intro hread field
    obtain ⟨d, hfold, hfinish⟩ := bind_eq_ok_iff.mp hread
    obtain ⟨e, hlast⟩ := Form.exists_read_of_mem hfold (hmem field) field.fieldOf?_name
    exact (RecordDraft.agrees_iff_reads hlast r).mp (RecordDraft.finish_eq_ok_iff.mp hfinish field)
  · intro hreads
    have hread : ∀ field ∈ RecordField.all, ∃ d',
        (recordForm source).read {} field (values field) = .ok d' :=
      fun field _ => RecordDraft.exists_read_of_reads (hreads field) {}
    obtain ⟨d, hfold⟩ := Form.exists_foldlM_fields RecordField.fieldOf?_name RecordField.nodup_all
      (fun field _ => field.has_empty) hread h
    refine bind_eq_ok_iff.mpr ⟨d, hfold, RecordDraft.finish_eq_ok_iff.mpr ?_⟩
    intro field
    obtain ⟨e, hlast⟩ := Form.exists_read_of_mem hfold (hmem field) field.fieldOf?_name
    exact (RecordDraft.agrees_iff_reads hlast r).mpr (hreads field)

theorem toRecord_list_iff {values : RecordField → Value} {r : Record} :
    (Value.list (RecordField.all.map values)).toRecord = .ok r ↔
      ∀ field : RecordField, field.Reads source r (values field) := by
  have hfields (d : RecordDraft) :
      inOrder (RecordDraft.read source) RecordField.all (RecordField.all.map values) {} = .ok d ↔
        (RecordField.all.map fun field => (field.name, values field)).foldlM
          (recordForm source).take {} = .ok d :=
    (Form.foldlM_take_of_named RecordField.fieldOf?_name RecordField.nodup_all
      fun field _ => field.has_empty).symm
  rw [← recordOfEntries_iff (List.Perm.refl _), recordOfEntries, ← take_recordForm, toRecord,
    bind_eq_ok_iff, bind_eq_ok_iff]
  refine exists_congr fun d => ?_
  rw [hfields, RecordDraft.finish_eq_ok_iff]
  refine and_congr_right fun _ => ?_
  rw [bind_eq_ok_iff]
  constructor
  · rintro ⟨r', hfinish, hlength⟩
    obtain ⟨-, -, hsame⟩ := bind_eq_ok_iff.mp hlength
    cases hsame
    exact RecordDraft.finish_eq_ok_iff.mp hfinish
  · intro hagrees
    exact ⟨r, RecordDraft.finish_eq_ok_iff.mpr hagrees, rfl⟩

theorem toRecord_iff_reads {line column code message value : Value}
    (h : Arranges line column code message value) {r : Record} :
    value.toRecord = .ok r ↔
      ∀ field : RecordField, field.Reads source r (byField line column code message field) := by
  cases h with
  | map hperm => exact recordOfEntries_iff hperm
  | list => exact @toRecord_list_iff (byField line column code message) r

/-! ## Values that are arranged -/

theorem exists_arranges_map {entries : List (String × Value)} {r : Record}
    (h : (Value.map entries).toRecord = .ok r) :
    ∃ line column code message, Arranges line column code message (.map entries) := by
  obtain ⟨d, hfold, hfinish⟩ := bind_eq_ok_iff.mp h
  rw [← take_recordForm] at hfold
  have hall : (RecordField.all.map some).Perm ((recordForm source).named entries) := by
    obtain ⟨hnodup, hknown⟩ := Form.has_of_foldlM hfold
    rw [List.perm_ext_iff_of_nodup (by decide) hnodup]
    intro o
    constructor
    · intro ho
      obtain ⟨field, -, rfl⟩ := List.mem_map.mp ho
      have hhas := RecordDraft.has_of_agrees (RecordDraft.finish_eq_ok_iff.mp hfinish field)
      rcases (Form.has_foldlM hfold field).mp hhas with hmem | hempty
      · exact hmem
      · rw [RecordField.has_empty] at hempty
        cases hempty
    · intro ho
      obtain ⟨field, rfl, -⟩ := hknown o ho
      exact List.mem_map.mpr ⟨field, field.mem_all, rfl⟩
  have hentries : List.Forall₂ (fun o entry => (recordForm source).fieldOf? entry.1 = o)
      ((recordForm source).named entries) entries :=
    List.forall₂_map_left_iff.mpr (List.forall₂_same.mpr fun _ _ => rfl)
  -- the entries, brought into the order of the fields they name
  obtain ⟨sorted, hsorted, hperm⟩ := List.perm_comp_forall₂ hall hentries
  obtain ⟨⟨first, line⟩, sorted₁, hline, hsorted₁, rfl⟩ := List.forall₂_cons_left_iff.mp hsorted
  obtain ⟨⟨second, column⟩, sorted₂, hcolumn, hsorted₂, rfl⟩ :=
    List.forall₂_cons_left_iff.mp hsorted₁
  obtain ⟨⟨third, code⟩, sorted₃, hcode, hsorted₃, rfl⟩ := List.forall₂_cons_left_iff.mp hsorted₂
  obtain ⟨⟨fourth, message⟩, sorted₄, hmessage, hsorted₄, rfl⟩ :=
    List.forall₂_cons_left_iff.mp hsorted₃
  cases hsorted₄
  cases RecordField.ofName?_eq_some_iff.mp hline
  cases RecordField.ofName?_eq_some_iff.mp hcolumn
  cases RecordField.ofName?_eq_some_iff.mp hcode
  cases RecordField.ofName?_eq_some_iff.mp hmessage
  exact ⟨line, column, code, message, .map hperm.symm⟩

theorem exists_arranges_list {items : List Value} {r : Record}
    (h : (Value.list items).toRecord = .ok r) :
    ∃ line column code message, Arranges line column code message (.list items) := by
  obtain ⟨d, hfold, h⟩ := bind_eq_ok_iff.mp h
  obtain ⟨r', hfinish, h⟩ := bind_eq_ok_iff.mp h
  obtain ⟨_, hlength, -⟩ := bind_eq_ok_iff.mp h
  have hlast : RecordField.message ∈ (RecordField.all.zip items).map Prod.fst := by
    have hread : (RecordField.all.zip items).foldlM
        (fun d pair => (recordForm source).read d pair.1 pair.2) {} = .ok d := hfold
    have hhas := RecordDraft.has_of_agrees (RecordDraft.finish_eq_ok_iff.mp hfinish .message)
    rcases (Form.has_foldlM_read hread .message).mp hhas with hmem | hempty
    · exact hmem
    · cases hempty
  match items with
  | [line, column, code, message] => exact ⟨line, column, code, message, .list⟩
  | [] | [_] | [_, _] | [_, _, _] => simp [RecordField.all] at hlast
  | _ :: _ :: _ :: _ :: _ :: rest => simp [checkLength, RecordField.all] at hlength

theorem exists_arranges {value : Value} {r : Record} (h : value.toRecord = .ok r) :
    ∃ line column code message, Arranges line column code message value := by
  cases value with
  | map entries => exact exists_arranges_map h
  | list items => exact exists_arranges_list h
  | unit | bool | natural | integer | float | text => cases h

/-- A value is a record if and only if it arranges four values that fit. The record is
what the four values say, whatever their arrangement. -/
theorem toRecord_iff_arranges :
    (∀ value : Value, (∃ r, value.toRecord = .ok r) ↔
      ∃ line column code message, Arranges line column code message value ∧
        line.IsWord ∧ column.IsWord ∧ code.IsCode ∧ message.IsText) ∧
    (∀ (line column code message value : Value) (r : Record),
      Arranges line column code message value →
        (value.toRecord = .ok r ↔
          line.integer? = some (r.line.toNat : Int) ∧
          column.integer? = some (r.column.toNat : Int) ∧
          code.codeText? = some r.code.text ∧ message = .text r.message)) ∧
    ∀ (line column code message value value' : Value) (r : Record),
      Arranges line column code message value → Arranges line column code message value' →
        (value.toRecord = .ok r ↔ value'.toRecord = .ok r) := by
  refine ⟨?_, ?_, ?_⟩
  · intro value
    constructor
    · rintro ⟨r, hr⟩
      obtain ⟨line, column, code, message, harr⟩ := exists_arranges hr
      have hreads := (toRecord_iff_reads harr).mp hr
      exact ⟨line, column, code, message, harr, isWord_iff.mpr ⟨_, hreads .line⟩,
        isWord_iff.mpr ⟨_, hreads .column⟩, isCode_iff.mpr ⟨_, hreads .code⟩,
        isText_iff.mpr ⟨_, hreads .message⟩⟩
    · rintro ⟨line, column, code, message, harr, hline, hcolumn, hcode, hmessage⟩
      obtain ⟨l, hl⟩ := isWord_iff.mp hline
      obtain ⟨c, hc⟩ := isWord_iff.mp hcolumn
      obtain ⟨k, hk⟩ := isCode_iff.mp hcode
      obtain ⟨m, hm⟩ := isText_iff.mp hmessage
      refine ⟨⟨l, c, k, m⟩, (toRecord_iff_reads harr).mpr ?_⟩
      intro field
      cases field <;> assumption
  · intro line column code message value r harr
    rw [toRecord_iff_reads harr, ← toWord_eq_ok_iff, ← toWord_eq_ok_iff, ← toCode_eq_ok_iff,
      ← toText_eq_ok_iff]
    constructor
    · intro hreads
      exact ⟨hreads .line, hreads .column, hreads .code, hreads .message⟩
    · rintro ⟨hline, hcolumn, hcode, hmessage⟩ field
      cases field <;> assumption
  · intro line column code message value value' r harr harr'
    rw [toRecord_iff_reads harr, toRecord_iff_reads harr']

theorem toRecord_of_moved_entries :
    (Value.map [("code", .text "0042"), ("message", .text "stray end tag"), ("line", .natural 3),
      ("column", .integer 5)]).toRecord = .ok ⟨3, 5, ⟨"0042", by decide⟩, "stray end tag"⟩ ∧
    (Value.list [.natural 3, .integer 5, .text "0042", .text "stray end tag"]).toRecord =
      .ok ⟨3, 5, ⟨"0042", by decide⟩, "stray end tag"⟩ := by
  have harr : Arranges (.natural 3) (.integer 5) (.text "0042") (.text "stray end tag")
      (.map [("code", .text "0042"), ("message", .text "stray end tag"), ("line", .natural 3),
        ("column", .integer 5)]) :=
    .map (@List.perm_append_comm _ [_, _] [_, _])
  have hmap := (toRecord_iff_arranges.2.1 _ _ _ _ _ ⟨3, 5, ⟨"0042", by decide⟩, "stray end tag"⟩
    harr).mpr ⟨rfl, rfl, rfl, rfl⟩
  exact ⟨hmap, (toRecord_iff_arranges.2.2 _ _ _ _ _ _ _ harr .list).mp hmap⟩

end Value

end MarkupSchema.Decode
