import MarkupSchema.Text.Range

/-!
# Blank characters and trimming

The blank characters are the twenty-five code points with the Unicode
property White_Space. Zero-width characters and the byte order mark do not
have the property, so trimming leaves them alone.

Trimming removes blanks from both ends of a text and touches nothing between
them. It works on the list of characters, where each end is one `dropWhile`.
-/

namespace MarkupSchema.Text

/-- The code points with the property White_Space. -/
def blankRanges : List (Nat × Nat) :=
  [(0x09, 0x0D), (0x20, 0x20), (0x85, 0x85), (0xA0, 0xA0), (0x1680, 0x1680),
    (0x2000, 0x200A), (0x2028, 0x2029), (0x202F, 0x202F), (0x205F, 0x205F),
    (0x3000, 0x3000)]

/-- A character with the property White_Space. -/
def isBlank (c : Char) : Bool := within blankRanges c

/-- The text from its first character that is not blank. -/
def trimStart (cs : List Char) : List Char := cs.dropWhile isBlank

/-- The text up to its last character that is not blank. -/
def trimEnd (cs : List Char) : List Char := (cs.reverse.dropWhile isBlank).reverse

/-- The text without the blanks at either end. -/
def trim (cs : List Char) : List Char := trimEnd (trimStart cs)

example : (blankRanges.map fun range => range.2 + 1 - range.1).sum = 25 := by decide

/-- Trimming brings nothing in. -/
theorem mem_trim {c : Char} {cs : List Char} (h : c ∈ trim cs) : c ∈ cs := by
  have hrev := (List.dropWhile_sublist isBlank).subset (List.mem_reverse.mp h)
  exact (List.dropWhile_sublist isBlank).subset (List.mem_reverse.mp hrev)

theorem trimStart_append {front cs : List Char} (h : ∀ c ∈ front, isBlank c = true) :
    trimStart (front ++ cs) = trimStart cs :=
  List.dropWhile_append_of_pos h

theorem trimEnd_append {cs back : List Char} (h : ∀ c ∈ back, isBlank c = true) :
    trimEnd (cs ++ back) = trimEnd cs := by
  rw [trimEnd, trimEnd, List.reverse_append,
    List.dropWhile_append_of_pos fun c hc => h c (List.mem_reverse.mp hc)]

/-- Blanks around a text are no part of the trimmed text. -/
theorem trim_append {front cs back : List Char} (hfront : ∀ c ∈ front, isBlank c = true)
    (hback : ∀ c ∈ back, isBlank c = true) : trim (front ++ (cs ++ back)) = trim cs := by
  rw [trim, trim, trimStart_append hfront, trimStart, List.dropWhile_append]
  split
  · next hempty =>
      -- nothing but blanks anywhere
      have hcs : trimStart cs = [] := List.isEmpty_iff.mp hempty
      have hall : back.dropWhile isBlank = [] := by
        rw [← List.append_nil back, List.dropWhile_append_of_pos hback, List.dropWhile_nil]
      rw [hcs, hall]
  · exact trimEnd_append hback

theorem head?_trimStart {c : Char} {cs : List Char} (h : (trimStart cs).head? = some c) :
    isBlank c = false := by
  have hnot := List.head?_dropWhile_not isBlank cs
  rw [trimStart] at h
  rwa [h] at hnot

theorem trimEnd_prefix_self (cs : List Char) : trimEnd cs <+: cs := by
  rw [trimEnd, ← List.reverse_suffix, List.reverse_reverse]
  exact List.dropWhile_suffix isBlank

/-- A trimmed text begins with no blank. -/
theorem head?_trim {c : Char} {cs : List Char} (h : (trim cs).head? = some c) :
    isBlank c = false := by
  obtain ⟨back, hback⟩ := trimEnd_prefix_self (trimStart cs)
  have hstart : (trimStart cs).head? = some c := by
    rw [← hback, List.head?_append, ← trim, h, Option.some_or]
  exact head?_trimStart hstart

/-- A trimmed text ends with no blank. -/
theorem getLast?_trim {c : Char} {cs : List Char} (h : (trim cs).getLast? = some c) :
    isBlank c = false := by
  rw [trim, trimEnd, List.getLast?_reverse] at h
  have hnot := List.head?_dropWhile_not isBlank (trimStart cs).reverse
  rwa [h] at hnot

/-- A text without blanks at its ends is trimmed. -/
theorem trim_eq_self {cs : List Char} (hhead : ∀ c, cs.head? = some c → isBlank c = false)
    (hlast : ∀ c, cs.getLast? = some c → isBlank c = false) : trim cs = cs := by
  have hdrop (ds : List Char) (h : ∀ c, ds.head? = some c → isBlank c = false) :
      ds.dropWhile isBlank = ds := by
    cases ds with
    | nil => rfl
    | cons d ds => rw [List.dropWhile_cons_of_neg (by simp [h d rfl])]
  rw [trim, trimStart, hdrop cs hhead, trimEnd, hdrop cs.reverse, List.reverse_reverse]
  intro c hc
  exact hlast c (by rwa [List.head?_reverse] at hc)

theorem trim_trim (cs : List Char) : trim (trim cs) = trim cs :=
  trim_eq_self (fun _ => head?_trim) fun _ => getLast?_trim

end MarkupSchema.Text
