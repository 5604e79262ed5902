import MarkupSchema.Decode.Strict
import MarkupSchema.Diagnostics.Report
import MarkupSchema.Load

/-!
# Records that are loaded

Loading answers with all records of a text or with none. There are two things that may be
wrong, and any number of records can have either of them: an item of the text cannot be
read as a record, or a record that was read has a zero in its position. Which of all these
is reported does not follow the text from left to right. All items are read before any
position is looked at, so an item that cannot be read is reported even if a zero stands in
front of it, and zeros are reported only where everything has been read.

After that the first record with a zero is the one that counts, and of a record with two
zeros the line. The search for it carries a number along, so what is shown by induction
is said for any number that the first record may have.

Nothing of this depends on how a text is read. The reader is any function from texts to
records or to a reason, and one that reads items in turn only where items are spoken of.
-/

namespace MarkupSchema

open Decode (DecodeError Value)
open Diagnostics (Code Record PositionError PositionFault diagnostics firstPositionError?)

namespace Diagnostics

/-! ## Positions -/

/-- When a record is refused for a fault. -/
def Record.ShowsFault (r : Record) : PositionFault → Prop
  | .zeroLine => r.line = 0
  | .zeroColumn => 1 ≤ r.line ∧ r.column = 0

theorem one_le_iff_ne_zero {n : UInt32} : 1 ≤ n ↔ n ≠ 0 := by
  rw [UInt32.le_iff_toNat_le, ne_eq, ← UInt32.toNat_inj]
  show 1 ≤ n.toNat ↔ ¬ n.toNat = 0
  omega

theorem Record.positionFault?_eq_none_iff {r : Record} :
    r.positionFault? = none ↔ 1 ≤ r.line ∧ 1 ≤ r.column := by
  rw [one_le_iff_ne_zero, one_le_iff_ne_zero, positionFault?]
  by_cases hline : r.line = 0
  · simp [hline]
  · by_cases hcolumn : r.column = 0 <;> simp [hline, hcolumn]

theorem Record.positionFault?_eq_some_iff {r : Record} {fault : PositionFault} :
    r.positionFault? = some fault ↔ r.ShowsFault fault := by
  rw [positionFault?]
  by_cases hline : r.line = 0
  · cases fault <;> simp [ShowsFault, hline]
  · by_cases hcolumn : r.column = 0 <;>
      cases fault <;> simp [ShowsFault, one_le_iff_ne_zero, hline, hcolumn]

theorem firstPositionError?_eq_none_iff {number : Nat} {records : List Record} :
    firstPositionError? number records = none ↔ ∀ r ∈ records, 1 ≤ r.line ∧ 1 ≤ r.column := by
  induction records generalizing number with
  | nil => simp [firstPositionError?]
  | cons r rest ih =>
      rw [firstPositionError?, List.forall_mem_cons, ← Record.positionFault?_eq_none_iff]
      cases r.positionFault? with
      | none => simp [ih]
      | some fault => simp

/-- The ways to point at one record of a list: it is the first, or it is one of the rest. -/
theorem exists_split_cons {first : Record} {rest : List Record}
    {p : List Record → Record → Prop} :
    (∃ before r after, first :: rest = before ++ r :: after ∧ p before r) ↔
      p [] first ∨ ∃ before r after, rest = before ++ r :: after ∧ p (first :: before) r := by
  constructor
  · rintro ⟨before, r, after, hsplit, hp⟩
    cases before with
    | nil =>
        cases hsplit
        exact .inl hp
    | cons b before =>
        cases hsplit
        exact .inr ⟨before, r, after, rfl, hp⟩
  · rintro (hp | ⟨before, r, after, rfl, hp⟩)
    · exact ⟨[], first, rest, rfl, hp⟩
    · exact ⟨first :: before, r, after, rfl, hp⟩

theorem firstPositionError?_eq_some_iff {number : Nat} {records : List Record}
    {e : PositionError} :
    firstPositionError? number records = some e ↔
      ∃ before r after, records = before ++ r :: after ∧
        (∀ b ∈ before, 1 ≤ b.line ∧ 1 ≤ b.column) ∧
        r.ShowsFault e.fault ∧ e.number = number + before.length := by
  induction records generalizing number with
  | nil => simp [firstPositionError?]
  | cons first rest ih =>
      rw [firstPositionError?, exists_split_cons, ← Record.positionFault?_eq_some_iff]
      simp only [List.forall_mem_cons, ← Record.positionFault?_eq_none_iff, List.length_cons]
      cases hfirst : first.positionFault? with
      | none =>
          -- The search goes on, and the number counts the record passed.
          simp only [ih, ← Record.positionFault?_eq_none_iff, true_and, reduceCtorEq, false_and,
            and_false, false_or, Nat.add_assoc, Nat.add_comm 1]
      | some fault =>
          -- The search ends here, since this record cannot be among those passed.
          simp only [reduceCtorEq, false_and, and_false, exists_false, or_false]
          constructor
          · rintro ⟨⟩
            exact ⟨List.forall_mem_nil _, rfl, rfl⟩
          · rintro ⟨-, hfault, hnumber⟩
            cases e
            cases hfault
            cases hnumber
            rfl

theorem PositionError.message_cases (e : PositionError) :
    e.fault = .zeroLine ∧ e.message = "invalid error record " ++ e.number.repr ++
        ": line must be a positive integer (>= 1)" ∨
      e.fault = .zeroColumn ∧ e.message = "invalid error record " ++ e.number.repr ++
        ": column must be a positive integer (>= 1)" := by
  have hline : ": " ++ PositionFault.reason .zeroLine
      = ": line must be a positive integer (>= 1)" := by
    simp only [PositionFault.reason, String.reduceAppend]
  have hcolumn : ": " ++ PositionFault.reason .zeroColumn
      = ": column must be a positive integer (>= 1)" := by
    simp only [PositionFault.reason, String.reduceAppend]
  obtain ⟨number, fault⟩ := e
  rw [← hline, ← hcolumn]
  cases fault with
  | zeroLine => exact .inl ⟨rfl, String.append_assoc ..⟩
  | zeroColumn => exact .inr ⟨rfl, String.append_assoc ..⟩

/-- A fault of a record together with the words it is reported in. -/
theorem Record.showsFault_iff {r : Record} {e : PositionError} :
    r.ShowsFault e.fault ↔
      r.line = 0 ∧ e.fault = .zeroLine ∧
          e.message = "invalid error record " ++ e.number.repr ++
            ": line must be a positive integer (>= 1)" ∨
        1 ≤ r.line ∧ r.column = 0 ∧ e.fault = .zeroColumn ∧
          e.message = "invalid error record " ++ e.number.repr ++
            ": column must be a positive integer (>= 1)" := by
  obtain ⟨hfault, hmessage⟩ | ⟨hfault, hmessage⟩ := e.message_cases
  · simp only [hfault, hmessage, ShowsFault, reduceCtorEq, false_and, and_false, or_false,
      and_true]
  · simp only [hfault, hmessage, ShowsFault, reduceCtorEq, false_and, and_false, false_or,
      and_true]

theorem checkPositions_eq_ok_iff {records checked : List Record} :
    checkPositions records = .ok checked ↔
      records = checked ∧ ∀ r ∈ checked, 1 ≤ r.line ∧ 1 ≤ r.column := by
  rw [checkPositions]
  cases h : firstPositionError? 1 records with
  | none =>
      have hall := firstPositionError?_eq_none_iff.mp h
      rw [Except.ok.injEq]
      exact ⟨fun hsame => ⟨hsame, hsame ▸ hall⟩, And.left⟩
  | some e =>
      refine iff_of_false nofun ?_
      rintro ⟨rfl, hall⟩
      rw [firstPositionError?_eq_none_iff.mpr hall] at h
      cases h

theorem checkPositions_eq_error_iff {records : List Record} {e : PositionError} :
    checkPositions records = .error e ↔ firstPositionError? 1 records = some e := by
  rw [checkPositions]
  cases firstPositionError? 1 records with
  | none => exact iff_of_false nofun nofun
  | some found => rw [Except.error.injEq, Option.some.injEq]

theorem Record.diagnostic_line (r : Record) : r.diagnostic.line = r.line := by
  rw [diagnostic]
  split <;> rfl

theorem Record.diagnostic_column (r : Record) : r.diagnostic.column = r.column := by
  rw [diagnostic]
  split <;> rfl

end Diagnostics

/-! ## Loading -/

section Loading

variable {ε : Type} {read : String → Except ε (List Record)} {text : String}

theorem loadRecordsBy_eq_ok_iff {records : List Record} :
    loadRecordsBy read text = .ok records ↔
      read text = .ok records ∧ ∀ r ∈ records, 1 ≤ r.line ∧ 1 ≤ r.column := by
  rw [loadRecordsBy, bind_eq_ok_iff]
  simp only [mapError_eq_ok_iff, Diagnostics.checkPositions_eq_ok_iff]
  constructor
  · rintro ⟨found, hread, rfl, hall⟩
    exact ⟨hread, hall⟩
  · rintro ⟨hread, hall⟩
    exact ⟨records, hread, rfl, hall⟩

theorem loadRecordsBy_eq_unreadable_iff {e : ε} :
    loadRecordsBy read text = .error (.unreadable e) ↔ read text = .error e := by
  rw [loadRecordsBy, bind_eq_error_iff]
  simp [mapError_eq_error_iff]

theorem loadRecordsBy_eq_position_iff {e : PositionError} :
    loadRecordsBy read text = .error (.position e) ↔
      ∃ records, read text = .ok records ∧ firstPositionError? 1 records = some e := by
  rw [loadRecordsBy, bind_eq_error_iff]
  simp [mapError_eq_error_iff, mapError_eq_ok_iff, Diagnostics.checkPositions_eq_error_iff]

end Loading

/-- A reader that takes a text apart and then reads its items from left to right. -/
def readEach {ε ι : Type} (items : String → Except ε (List ι)) (record : ι → Except ε Record)
    (text : String) : Except ε (List Record) := do
  (← items text).mapM record

/-- An item that is no record is what is reported of a list, whatever the records before it
are like. -/
theorem readEach_of_bad_item {ε ι : Type} {items : String → Except ε (List ι)}
    {record : ι → Except ε Record} {text : String} {before after : List ι} {item : ι} {e : ε}
    (htext : items text = .ok (before ++ item :: after))
    (hbefore : ∀ b ∈ before, ∃ r, record b = .ok r) (hitem : record item = .error e) :
    readEach items record text = .error e := by
  rw [readEach, htext]
  show (before ++ item :: after).mapM record = .error e
  clear htext
  induction before with
  | nil =>
      rw [List.nil_append, List.mapM_cons, hitem]
      rfl
  | cons b before ih =>
      obtain ⟨⟨r, hr⟩, hrest⟩ := List.forall_mem_cons.mp hbefore
      rw [List.cons_append, List.mapM_cons, hr]
      show (before ++ item :: after).mapM record >>= _ = .error e
      rw [ih hrest]
      rfl

/-- Whatever the reader is, records are loaded if and only if it can read the text and every
position counts from one. They are then just the records that were read, and so whatever is
shown for them has such a position too. A text that cannot be read is reported as that; where
the reader goes from item to item, even if a record before the place has a zero in it. If the
text can be read, the first record with a zero is reported by its number, and its line before
its column. -/
theorem loadRecordsBy_all_or_nothing {ε : Type} (read : String → Except ε (List Record))
    (text : String) :
    (∀ records, loadRecordsBy read text = .ok records ↔
      read text = .ok records ∧ ∀ r ∈ records, 1 ≤ r.line ∧ 1 ≤ r.column) ∧
    (∀ records, loadRecordsBy read text = .ok records →
      (∀ r ∈ records, ∀ d ∈ [r.diagnostic, r.fallback], 1 ≤ d.line ∧ 1 ≤ d.column) ∧
      ∀ d ∈ diagnostics records, 1 ≤ d.line ∧ 1 ≤ d.column) ∧
    (∀ e, loadRecordsBy read text = .error (.unreadable e) ↔ read text = .error e) ∧
    (∀ (ι : Type) (items : String → Except ε (List ι)) (record : ι → Except ε Record),
      read = readEach items record → ∀ (before after : List ι) (item : ι) (e : ε),
      items text = .ok (before ++ item :: after) → (∀ b ∈ before, ∃ r, record b = .ok r) →
      record item = .error e → loadRecordsBy read text = .error (.unreadable e)) ∧
    ∀ e, loadRecordsBy read text = .error (.position e) ↔
      ∃ before r after, read text = .ok (before ++ r :: after) ∧
        (∀ b ∈ before, 1 ≤ b.line ∧ 1 ≤ b.column) ∧ e.number = before.length + 1 ∧
        (r.line = 0 ∧ e.fault = .zeroLine ∧
            e.message = "invalid error record " ++ e.number.repr ++
              ": line must be a positive integer (>= 1)" ∨
          1 ≤ r.line ∧ r.column = 0 ∧ e.fault = .zeroColumn ∧
            e.message = "invalid error record " ++ e.number.repr ++
              ": column must be a positive integer (>= 1)") := by
  refine ⟨fun _ => loadRecordsBy_eq_ok_iff, ?_, fun _ => loadRecordsBy_eq_unreadable_iff, ?_, ?_⟩
  · intro records h
    have hall := (loadRecordsBy_eq_ok_iff.mp h).2
    have hshown : ∀ r ∈ records, 1 ≤ r.diagnostic.line ∧ 1 ≤ r.diagnostic.column := by
      intro r hr
      rw [r.diagnostic_line, r.diagnostic_column]
      exact hall r hr
    refine ⟨fun r hr => ?_, fun d hd => ?_⟩
    · exact List.forall_mem_cons.mpr ⟨hshown r hr, List.forall_mem_singleton.mpr (hall r hr)⟩
    · obtain ⟨r, hr, rfl⟩ := List.mem_map.mp hd
      exact hshown r (List.mem_filter.mp hr).1
  · rintro ι items record rfl before after item e htext hbefore hitem
    exact loadRecordsBy_eq_unreadable_iff.mpr (readEach_of_bad_item htext hbefore hitem)
  · intro e
    simp only [loadRecordsBy_eq_position_iff, Diagnostics.firstPositionError?_eq_some_iff,
      Diagnostics.Record.showsFault_iff, Nat.add_comm 1]
    constructor
    · rintro ⟨records, hread, before, r, after, rfl, hbefore, hfault, hnumber⟩
      exact ⟨before, r, after, hread, hbefore, hnumber, hfault⟩
    · rintro ⟨before, r, after, hread, hbefore, hnumber, hfault⟩
      exact ⟨_, hread, before, r, after, rfl, hbefore, hfault, hnumber⟩

/-- A list that can be loaded. -/
def goodText : String := "[{line: 1, column: 2, code: 7, message: a}]"

/-- A list in which a zero column stands before a zero line. -/
def lateText : String :=
  "[{line: 1, column: 2, code: 7, message: a},
    {line: 3, column: 0, code: 7, message: a},
    {line: 0, column: 4, code: 7, message: a}]"

/-- A list with both zeros in one record. -/
def zerosText : String := "[{line: 0, column: 0, code: 7, message: a}]"

/-- A list with a zero line before an item that is no record. -/
def brokenText : String := "[{line: 0, column: 2, code: 7, message: a}, {line: 1}]"

def listedRecord (line column : UInt64) : Value :=
  .map [("line", .natural line), ("column", .natural column), ("code", .natural 7),
    ("message", .text "a")]

/-- The items of these lists. No other text is taken for a list. -/
def listedItems (text : String) : Except DecodeError (List Value) :=
  if text = goodText then .ok [listedRecord 1 2]
  else if text = lateText then .ok [listedRecord 1 2, listedRecord 3 0, listedRecord 0 4]
  else if text = zerosText then .ok [listedRecord 0 0]
  else if text = brokenText then .ok [listedRecord 0 2, .map [("line", .natural 1)]]
  else .error (.wrongKind (.text text) .list)

theorem loadRecordsBy_all_or_nothing_of_lists :
    let read := readEach listedItems Value.toRecord
    let record (line column : UInt32) : Record := ⟨line, column, Code.ofNat 7, "a"⟩
    let late : PositionError := ⟨2, .zeroColumn⟩
    let zeros : PositionError := ⟨1, .zeroLine⟩
    loadRecordsBy read goodText = .ok [record 1 2] ∧
      (∀ d ∈ diagnostics [record 1 2], 1 ≤ d.line ∧ 1 ≤ d.column) ∧
      loadRecordsBy read lateText = .error (.position late) ∧
      late.message = "invalid error record 2: column must be a positive integer (>= 1)" ∧
      loadRecordsBy read zerosText = .error (.position zeros) ∧
      zeros.message = "invalid error record 1: line must be a positive integer (>= 1)" ∧
      loadRecordsBy read brokenText = .error (.unreadable (.missingField "column")) := by
  intro read record late zeros
  have hlate : late.message = "invalid error record 2: column must be a positive integer (>= 1)" :=
    by decide +kernel
  have hzeros : zeros.message = "invalid error record 1: line must be a positive integer (>= 1)" :=
    by decide +kernel
  obtain ⟨hok, hshown, -⟩ := loadRecordsBy_all_or_nothing read goodText
  obtain ⟨-, -, -, -, hlateText⟩ := loadRecordsBy_all_or_nothing read lateText
  obtain ⟨-, -, -, -, hzerosText⟩ := loadRecordsBy_all_or_nothing read zerosText
  obtain ⟨-, -, -, hbroken, -⟩ := loadRecordsBy_all_or_nothing read brokenText
  have hgood := (hok [record 1 2]).mpr ⟨rfl, by decide⟩
  refine ⟨hgood, (hshown _ hgood).2, (hlateText late).mpr ?_, hlate, (hzerosText zeros).mpr ?_,
    hzeros, ?_⟩
  · exact ⟨[record 1 2], record 3 0, [record 0 4], rfl, by decide, rfl,
      .inr ⟨by decide, rfl, rfl, hlate.trans (by decide +kernel)⟩⟩
  · exact ⟨[], record 0 0, [], rfl, by decide, rfl,
      .inl ⟨rfl, rfl, hzeros.trans (by decide +kernel)⟩⟩
  · exact hbroken Value listedItems Value.toRecord rfl [listedRecord 0 2] [] _ _ rfl
      (List.forall_mem_singleton.mpr ⟨record 0 2, rfl⟩) rfl

end MarkupSchema
