/-!
# Replacing the first occurrence of a text

The needle is looked for from the left, and only its first occurrence gives
way; the replacement is not read again.
-/

namespace MarkupSchema.Text

/-- The text with the first occurrence of `needle` replaced, or the text
itself where `needle` does not occur. The needle is never empty here. -/
def replaceFirst (needle replacement : List Char) : List Char → List Char
  | [] => []
  | c :: cs =>
      if needle.isPrefixOf (c :: cs) then
        replacement ++ (c :: cs).drop needle.length
      else c :: replaceFirst needle replacement cs

/-- Where the needle stands at the front, it is what gives way. -/
theorem replaceFirst_append {needle replacement rest : List Char} (h : needle ≠ []) :
    replaceFirst needle replacement (needle ++ rest) = replacement ++ rest := by
  cases needle with
  | nil => exact absurd rfl h
  | cons n ns =>
      have hp : (n :: ns).isPrefixOf (n :: (ns ++ rest)) = true := by
        rw [List.isPrefixOf_iff_prefix]
        exact ⟨rest, by simp⟩
      simp [replaceFirst, hp]

/-- A front that the needle's first character does not occur in is passed by. -/
theorem replaceFirst_append_of_not_mem {n : Char} {needle replacement front cs : List Char}
    (h : n ∉ front) :
    replaceFirst (n :: needle) replacement (front ++ cs)
      = front ++ replaceFirst (n :: needle) replacement cs := by
  induction front with
  | nil => rfl
  | cons c front ih =>
      have hc : n ≠ c := fun heq => h (heq ▸ List.mem_cons_self)
      have hp : (n :: needle).isPrefixOf (c :: (front ++ cs)) = false := by
        simp [List.isPrefixOf, hc]
      rw [List.cons_append, replaceFirst, hp, if_neg Bool.false_ne_true,
        ih fun hmem => h (List.mem_cons_of_mem _ hmem)]
      rfl

/-- So is a front that the needle does not occur in, if no occurrence can run
on beyond its end. -/
theorem replaceFirst_append_of_absent {needle replacement front cs : List Char}
    (h : ¬ needle <:+: front) (hcs : ∀ c ∈ cs.head?, c ∉ needle) :
    replaceFirst needle replacement (front ++ cs)
      = front ++ replaceFirst needle replacement cs := by
  induction front with
  | nil => rfl
  | cons c front ih =>
      have hp : ¬ needle.isPrefixOf (c :: (front ++ cs)) = true := by
        rw [List.isPrefixOf_iff_prefix, ← List.cons_append]
        rintro ⟨rest, hrest⟩
        rcases List.append_eq_append_iff.mp hrest with ⟨tail, hfront, -⟩ | ⟨tail, hneedle, hcs'⟩
        · exact h ⟨[], tail, by simp [hfront]⟩
        · cases tail with
          | nil =>
              rw [List.append_nil] at hneedle
              exact h (hneedle ▸ List.infix_refl _)
          | cons d tail =>
              refine hcs d (by simp [hcs']) ?_
              rw [hneedle]
              exact List.mem_append_right _ List.mem_cons_self
      rw [List.cons_append, replaceFirst, if_neg hp,
        ih fun hfront => h (hfront.trans (List.suffix_cons c front).isInfix)]
      rfl

theorem mem_replaceFirst {needle replacement cs : List Char} {c : Char}
    (h : c ∈ replaceFirst needle replacement cs) : c ∈ replacement ∨ c ∈ cs := by
  induction cs with
  | nil => exact .inr h
  | cons d cs ih =>
      rw [replaceFirst] at h
      split at h
      · rcases List.mem_append.mp h with hrep | hrest
        · exact .inl hrep
        · exact .inr (List.mem_of_mem_drop hrest)
      · rcases List.mem_cons.mp h with rfl | htail
        · exact .inr List.mem_cons_self
        · exact (ih htail).imp_right (List.mem_cons_of_mem _)

end MarkupSchema.Text
