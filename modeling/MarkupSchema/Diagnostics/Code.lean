/-!
# Validator codes

A validator names each of its rules by a number, and the number is kept as
its decimal text: codes are compared as texts, so `0042` and `42` differ. The
type carries the fact that the text is a run of ASCII digits. Natural numbers
need no check, because their decimal text is such a run.
-/

namespace MarkupSchema.Diagnostics

/-- Why a text is no validator code. -/
inductive CodeFault where
  | empty
  | badCharacter
  deriving DecidableEq, Repr

/-- The wording of a fault. -/
def CodeFault.reason : CodeFault → String
  | .empty => "code must not be empty"
  | .badCharacter => "code must contain only ASCII digits"

/-- A text refused as a validator code. -/
structure CodeError where
  text : String
  fault : CodeFault
  deriving DecidableEq, Repr

/-- The refused text stands between single quotes just as it was given. -/
def CodeError.message (e : CodeError) : String :=
  "invalid error code '" ++ e.text ++ "': " ++ e.fault.reason

/-- What is wrong with a text as a validator code, if anything is. -/
def Code.fault? (text : String) : Option CodeFault :=
  if text.toList = [] then some .empty
  else if !text.toList.all Char.isDigit then some .badCharacter
  else none

/-- A validator code. -/
structure Code where
  text : String
  isCode : Code.fault? text = none
  deriving DecidableEq

namespace Code

/-- Reads a validator code, keeping the text as it is. -/
def ofString (text : String) : Except CodeError Code :=
  match h : fault? text with
  | none => .ok ⟨text, h⟩
  | some fault => .error ⟨text, fault⟩

theorem fault?_eq_none_iff {text : String} :
    fault? text = none ↔ text.toList ≠ [] ∧ ∀ c ∈ text.toList, c.isDigit = true := by
  unfold fault?
  by_cases hnil : text.toList = []
  · simp [hnil]
  · cases hall : text.toList.all Char.isDigit with
    | true =>
        rw [List.all_eq_true] at hall
        simpa [hnil] using hall
    | false =>
        rw [List.all_eq_false] at hall
        obtain ⟨c, hc, hd⟩ := hall
        simp only [hnil, if_false, Bool.not_false, if_true, reduceCtorEq, ne_eq, not_false_eq_true,
          true_and, false_iff]
        exact fun h => hd (h c hc)

/-- The code whose text is the decimal text of a number. -/
def ofNat (n : Nat) : Code where
  text := n.repr
  isCode := fault?_eq_none_iff.mpr <| by
    rw [Nat.toList_repr]
    exact ⟨Nat.toDigits_ne_nil, fun c hc => Nat.isDigit_of_mem_toDigits (by decide) (by decide) hc⟩

/-- The code of an integer. A negative one has a sign, which is no digit. -/
def ofInt : Int → Except CodeError Code
  | .ofNat n => .ok (ofNat n)
  | .negSucc n => ofString ("-" ++ (n + 1).repr)

theorem ext {a b : Code} (h : a.text = b.text) : a = b := by
  cases a
  cases b
  simp_all

/-- A code reads back as itself. -/
@[simp] theorem ofString_text (code : Code) : ofString code.text = .ok code := by
  unfold ofString
  split
  · rfl
  · next fault h => rw [code.isCode] at h; cases h

theorem ofString_eq_ok_iff {text : String} {code : Code} :
    ofString text = .ok code ↔ text = code.text := by
  constructor
  · intro h
    rw [ofString] at h
    split at h
    · cases h; rfl
    · cases h
  · rintro rfl
    exact ofString_text code

theorem ofNat_eq_iff {n : Nat} {code : Code} : ofNat n = code ↔ n.repr = code.text :=
  ⟨congrArg text, fun h => ext h⟩

theorem ofInt_eq_ok_iff {n : Int} {code : Code} : ofInt n = .ok code ↔ n.repr = code.text := by
  cases n with
  | ofNat n => rw [ofInt, Except.ok.injEq, ofNat_eq_iff, Int.repr]
  | negSucc n => rw [ofInt, ofString_eq_ok_iff, Int.repr]

end Code

end MarkupSchema.Diagnostics
