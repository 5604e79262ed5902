import MarkupSchema.Proofs.RecordShapes

/-!
# The ways to a code

A code is made from a text or from a number, written out in a program or read from
a value. Only texts and signed numbers are looked at on the way. An unsigned number
becomes its decimal text without a check, and that no check is needed is a fact
about decimal texts: they are never empty and hold nothing but digits.

Codes are compared as texts, so it matters which text a way leaves. It is the given
one, or the decimal text of the given number, and this holds on every way. What else
there is to say follows. A number makes the same code however it is given, and as its
decimal text, too; a negative one makes none because a sign is no digit; and decimal
texts tell numbers apart. A text keeps its zeros, so it may name a number by a code
that the number does not make.
-/

namespace MarkupSchema.Diagnostics

open Decode (Value)

/-- What a code is made from. -/
inductive Origin where
  | text (words : String)
  | word (n : UInt32)
  | readText (words : String)
  | readNatural (n : UInt64)
  | readInteger (n : Int64)

/-- A run of ASCII digits with something in it. -/
def Digits (words : String) : Prop :=
  words.toList ≠ [] ∧ ∀ c ∈ words.toList, '0' ≤ c ∧ c ≤ '9'

namespace Origin

/-- The code that is made, if one is. -/
def code? : Origin → Option Code
  | .text words => (Code.ofString words).toOption
  | .word n => some (Code.ofNat n.toNat)
  | .readText words => (Value.text words).toCode.toOption
  | .readNatural n => (Value.natural n).toCode.toOption
  | .readInteger n => (Value.integer n).toCode.toOption

/-- The text that is given, or the decimal text of the number. -/
def written : Origin → String
  | .text words | .readText words => words
  | .word n => n.toNat.repr
  | .readNatural n => n.toNat.repr
  | .readInteger n => n.toInt.repr

def number? : Origin → Option Int
  | .text _ | .readText _ => none
  | .word n => some n.toNat
  | .readNatural n => some n.toNat
  | .readInteger n => some n.toInt

end Origin

theorem digits_iff {words : String} : Digits words ↔ Code.fault? words = none := by
  have hdigit (c : Char) : c.isDigit = true ↔ '0' ≤ c ∧ c ≤ '9' := by
    simp [Char.isDigit, Char.le_def]
  simp only [Code.fault?_eq_none_iff, hdigit, Digits]

theorem toOption_eq_some_iff {ε α : Type} {x : Except ε α} {a : α} :
    x.toOption = some a ↔ x = .ok a := by
  cases x with
  | error e => exact iff_of_false nofun nofun
  | ok b =>
      show some b = some a ↔ Except.ok b = .ok a
      rw [Option.some.injEq, Except.ok.injEq]

namespace Origin

theorem code?_eq_some_iff {o : Origin} {code : Code} :
    o.code? = some code ↔ o.written = code.text := by
  cases o with
  | text words => rw [code?, toOption_eq_some_iff, Code.ofString_eq_ok_iff, written]
  | word n => rw [code?, Option.some.injEq, Code.ofNat_eq_iff, written]
  | readText words | readNatural n | readInteger n =>
      rw [code?, toOption_eq_some_iff, Value.toCode_eq_ok_iff, Value.codeText?,
        Option.some.injEq, written]

theorem exists_code?_iff {o : Origin} : (∃ code, o.code? = some code) ↔ Digits o.written := by
  simp only [code?_eq_some_iff]
  rw [digits_iff]
  constructor
  · rintro ⟨code, hcode⟩
    rw [hcode]
    exact code.isCode
  · exact fun h => ⟨⟨o.written, h⟩, rfl⟩

theorem written_of_number? {o : Origin} {n : Int} (h : o.number? = some n) :
    o.written = n.repr := by
  cases o with
  | text words | readText words => cases h
  | word m | readNatural m | readInteger m =>
      rw [← Option.some.inj h]
      rfl

theorem code?_of_number? {o : Origin} {n : Nat} (h : o.number? = some (n : Int)) :
    o.code? = some (Code.ofNat n) :=
  code?_eq_some_iff.mpr (written_of_number? h)

theorem nonneg_of_code? {o : Origin} {n : Int} {code : Code} (h : o.number? = some n)
    (hcode : o.code? = some code) : 0 ≤ n := by
  rw [code?_eq_some_iff, written_of_number? h, ← Code.ofInt_eq_ok_iff] at hcode
  exact Value.exists_ofInt_iff.mp ⟨code, hcode⟩

theorem code?_of_negative {o : Origin} {n : Int} (h : o.number? = some n) (hn : n < 0) :
    o.code? = none := by
  rw [Option.eq_none_iff_forall_ne_some]
  intro code hcode
  have hnonneg := nonneg_of_code? h hcode
  omega

/-- A number is read back from its code. -/
theorem number_eq_ofDigitChars {o : Origin} {n : Int} {code : Code} (h : o.number? = some n)
    (hcode : o.code? = some code) : n = Nat.ofDigitChars 10 code.text.toList 0 := by
  obtain ⟨k, rfl⟩ := Int.eq_ofNat_of_zero_le (nonneg_of_code? h hcode)
  have htext : k.repr = code.text := by
    rw [← code?_eq_some_iff.mp hcode, written_of_number? h]
    rfl
  rw [← htext, Nat.toList_repr, Nat.ofDigitChars_ten_toDigits]

end Origin

/-- On every way a code is a run of digits, the text that was given or the decimal text of
the number; every such text makes a code, and so does every number but the negative ones.
A number makes the code that its decimal text makes, whichever way it comes, and no two
numbers make the same one. -/
theorem codes_of_origins :
    (∀ (o : Origin) (code : Code), o.code? = some code →
      Digits code.text ∧ code.text = o.written) ∧
    (∀ o : Origin, (∃ code, o.code? = some code) ↔ Digits o.written) ∧
    (∀ (o : Origin) (n : Nat), o.number? = some (n : Int) →
      ∃ code, o.code? = some code ∧ (Origin.text n.repr).code? = some code) ∧
    (∀ n : Int64, n.toInt < 0 → (Origin.readInteger n).code? = none) ∧
    ∀ (o o' : Origin) (m n : Int) (code : Code), o.number? = some m → o'.number? = some n →
      o.code? = some code → o'.code? = some code → m = n := by
  refine ⟨fun o code hcode => ?_, fun o => Origin.exists_code?_iff, fun o n hn => ?_,
    fun n hn => Origin.code?_of_negative rfl hn, fun o o' m n code hm hn hcode hcode' => ?_⟩
  · have htext := Origin.code?_eq_some_iff.mp hcode
    exact ⟨digits_iff.mpr code.isCode, htext.symm⟩
  · exact ⟨Code.ofNat n, Origin.code?_of_number? hn, Origin.code?_eq_some_iff.mpr rfl⟩
  · rw [Origin.number_eq_ofDigitChars hm hcode, Origin.number_eq_ofDigitChars hn hcode']

/-- Forty-two as a word, as an unsigned and as a signed number, beside the texts with and
without zeros in front. -/
theorem codes_of_origins_of_zeros :
    let zeros : Code := ⟨"0042", by decide⟩
    (Origin.text "0042").code? = some zeros ∧ Digits zeros.text ∧
      (∃ code, (Origin.readNatural 42).code? = some code ∧ (Origin.text "42").code? = some code) ∧
      (Origin.word 42).code? = (Origin.readInteger 42).code? ∧
      (Origin.word 42).code? ≠ some zeros ∧ (Origin.readInteger (-42)).code? = none := by
  intro zeros
  obtain ⟨htext, -, hnumber, hnegative, -⟩ := codes_of_origins
  have hzeros : (Origin.text "0042").code? = some zeros := by decide
  refine ⟨hzeros, (htext _ _ hzeros).1, hnumber _ 42 (by decide), ?_, ?_, hnegative _ (by decide)⟩
  · obtain ⟨code, hword, hcode⟩ := hnumber (.word 42) 42 (by decide)
    obtain ⟨code', hinteger, hcode'⟩ := hnumber (.readInteger 42) 42 (by decide)
    rw [hword, hinteger, ← hcode, hcode']
  · intro h
    exact absurd (htext _ _ h).2 (by decide)

end MarkupSchema.Diagnostics
