/-
FrameIngest.Text.Split — cutting a text at its first separator.

Splitting at *every* separator is `List.splitOnP` and `List.splitOn`; this
module adds the cut at the first one, which leaves later separators alone.

* `cut p s` — what stands before and after the first character with `p`;
* `cut_eq_some_iff`, `cut_eq_none_iff` — what it answers, in full.
-/

namespace FrameIngest.Text

/-- The parts of `s` before and after its first character with `p`. -/
def cut (p : Char → Bool) (s : List Char) : Option (List Char × List Char) :=
  match s.dropWhile (!p ·) with
  | [] => none
  | _ :: after => some (s.takeWhile (!p ·), after)

@[simp] theorem cut_nil (p : Char → Bool) : cut p [] = none := rfl

theorem cut_cons_of_pos {p : Char → Bool} {c : Char} (h : p c = true) (s : List Char) :
    cut p (c :: s) = some ([], s) := by
  simp [cut, h]

theorem cut_cons_of_neg {p : Char → Bool} {c : Char} (h : p c = false) (s : List Char) :
    cut p (c :: s) = (cut p s).map fun (a, b) => (c :: a, b) := by
  simp only [cut, List.dropWhile_cons, List.takeWhile_cons, h, Bool.not_false, if_true]
  cases s.dropWhile (!p ·) <;> rfl

/-- The first separator is the one that has none before it. -/
theorem cut_append_cons {p : Char → Bool} {a : List Char} (before : ∀ c ∈ a, p c = false)
    {c : Char} (h : p c = true) (b : List Char) : cut p (a ++ c :: b) = some (a, b) := by
  induction a with
  | nil => exact cut_cons_of_pos h b
  | cons d a ih =>
    rw [List.cons_append, cut_cons_of_neg (before d (by simp)),
      ih fun c hc => before c (by simp [hc])]
    rfl

/-- There is no cut exactly where there is no separator. -/
theorem cut_eq_none_iff {p : Char → Bool} {s : List Char} :
    cut p s = none ↔ ∀ c ∈ s, p c = false := by
  induction s with
  | nil => simp
  | cons c s ih =>
    cases h : p c with
    | true => simp [cut_cons_of_pos h, h]
    | false => simp [cut_cons_of_neg h, h, ih]

theorem cut_eq_some_iff {p : Char → Bool} {s a b : List Char} :
    cut p s = some (a, b) ↔ ∃ c, (∀ d ∈ a, p d = false) ∧ p c = true ∧ s = a ++ c :: b := by
  constructor
  · intro parts
    induction s generalizing a with
    | nil => cases parts
    | cons c s ih =>
      cases h : p c with
      | true =>
        rw [cut_cons_of_pos h] at parts
        cases parts
        exact ⟨c, nofun, h, rfl⟩
      | false =>
        rw [cut_cons_of_neg h] at parts
        obtain ⟨⟨first, rest⟩, inner, whole⟩ := Option.map_eq_some_iff.mp parts
        cases whole
        obtain ⟨mark, before, marks, rfl⟩ := ih inner
        exact ⟨mark, List.forall_mem_cons.mpr ⟨h, before⟩, marks, rfl⟩
  · rintro ⟨c, before, marks, rfl⟩
    exact cut_append_cons before marks b

end FrameIngest.Text
