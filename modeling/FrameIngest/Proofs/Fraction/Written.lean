/-
FrameIngest.Proofs.Fraction.Written — written fractions are read back.

Both terms are written as they are, so a fraction is read back unreduced, with
a negative or a zero denominator too (`read?_chars`). Its text is made of digits,
minuses and a slash, so there are no blanks in it. Any two texts around a slash
are read as two terms, each between blanks (`read?_trim_slash`).
-/
import FrameIngest.Fraction.Reading
import FrameIngest.Proofs.Text.Numeral

namespace FrameIngest.Fraction

open Text

theorem isBar_iff {c : Char} : isBar c = true ↔ c = '/' ∨ c = ':' := by
  simp [isBar]

theorem forall_isBar_iff {s : List Char} :
    (∀ c ∈ s, isBar c = false) ↔ '/' ∉ s ∧ ':' ∉ s := by
  constructor
  · intro before
    constructor
    · intro slash
      cases before _ slash
    · intro colon
      cases before _ colon
  · intro first c among
    refine Bool.eq_false_iff.mpr fun marks => ?_
    rcases isBar_iff.mp marks with rfl | rfl
    · exact first.1 among
    · exact first.2 among

/-- Two integers around a bar are the terms of a fraction. -/
theorem read?_of_bar {bar : Char} (h : isBar bar = true) {num : List Char}
    (before : ∀ c ∈ num, isBar c = false) (den : List Char) :
    read? (num ++ bar :: den) = ofTerms? num den := by
  rw [read?, cut_append_cons before h]

theorem read?_chars (r : Fraction) : read? r.chars = some r := by
  have noBar : ∀ c ∈ decimalMarks, isBar c = false := by decide
  rw [chars, read?_of_bar rfl fun c among => noBar c (mem_decimalMarks among), ofTerms?,
    (isTrimmed_signedDecimal _).trim_eq, (isTrimmed_signedDecimal _).trim_eq,
    readInt32_signedDecimal, readInt32_signedDecimal]
  rfl

theorem mem_chars {r : Fraction} {c : Char} (among : c ∈ r.chars) : c ∈ '/' :: decimalMarks := by
  rcases List.mem_append.mp among with first | rest
  · exact List.mem_cons_of_mem _ (mem_decimalMarks first)
  · exact List.mem_cons.mpr ((List.mem_cons.mp rest).imp id mem_decimalMarks)

theorem isTrimmed_chars (r : Fraction) : IsTrimmed r.chars := by
  have visible : ∀ c ∈ '/' :: decimalMarks, isBlank c = false := by decide
  exact .of_forall fun c among => visible c (mem_chars among)

/-! ## Two texts around a slash -/

section Terms

variable {num den : List Char}

/-- Two texts that are the terms of a fraction, each between blanks. -/
theorem ofTerms?_eq_some_iff {r : Fraction} :
    ofTerms? num den = some r
      ↔ readInt32 (trim num) = some r.num ∧ readInt32 (trim den) = some r.den := by
  unfold ofTerms?
  cases readInt32 (trim num) with
  | none => simp
  | some n =>
    cases readInt32 (trim den) with
    | none => simp
    | some d => cases r; simp

/-- No term holds a slash. -/
theorem readInt32_trim_of_slash (slash : '/' ∈ num) : readInt32 (trim num) = none :=
  readInt32_eq_none (by decide) (by decide) (by decide) (mem_trim rfl slash)

/-- Two texts around a slash are read as the two terms, unless they hold a colon. If the first text
has a slash of its own, the cut is made there; then the slash between the texts is part of what
should be the second term, and the first text is no term either. -/
theorem read?_trim_slash (noColon : ':' ∉ num) :
    read? (trim (num ++ '/' :: den)) = ofTerms? num den := by
  have before {a : List Char} (start : a ⊆ num) (free : '/' ∉ a) :
      ∀ c ∈ trimStart a, isBar c = false := by
    exact forall_isBar_iff.mpr ⟨fun slash => free (trimStart_subset a slash),
      fun colon => noColon (start (trimStart_subset a colon))⟩
  by_cases slash : '/' ∈ num
  · obtain ⟨a, b, rfl, free⟩ := List.eq_append_cons_of_mem slash
    have whole : trim (a ++ '/' :: b ++ '/' :: den)
        = trimStart a ++ '/' :: (b ++ '/' :: trimEnd den) := by
      rw [trim_append_cons rfl, trimStart_append_cons rfl]
      simp
    have inner : readInt32 (trim (b ++ '/' :: trimEnd den)) = none :=
      readInt32_trim_of_slash (by simp)
    rw [whole, read?_of_bar rfl (before (List.subset_append_left _ _) free), ofTerms?, ofTerms?,
      inner, readInt32_trim_of_slash slash]
    cases readInt32 (trim (trimStart a)) <;> rfl
  · rw [trim_append_cons rfl, read?_of_bar rfl (before (List.Subset.refl _) slash), ofTerms?,
      ofTerms?, trim_trimStart, trim_trimEnd]

end Terms

end FrameIngest.Fraction
