/-
FrameIngest.Proofs.Text.Pieces — texts made of pieces.

A text that is written for a reader consists of pieces with a mark between each
two. The reader trims it, cuts it at the marks and trims the pieces, and gets
the pieces back if they hold no mark and have no blanks at their ends.

* `trim_append_cons`, `trim_trimStart`, `trim_trimEnd` — what trimming does to
  the two ends of a text and leaves alone between them;
* `IsTrimmed` — texts that trimming leaves as they are;
* `trimStart_intercalate`, `trimEnd_intercalate_concat` — what is trimmed off a
  joined text belongs to its first and its last piece;
* `splitOnP_intercalate`, `mapM_eq_pure_map` — splitting gives the pieces back,
  and they are read one by one;
* `map_trim_splitOnP_trim` — blanks around a text only touch the ends of its
  pieces.
-/
import FrameIngest.Text.Blank
import Mathlib.Data.List.DropRight

namespace FrameIngest.Text

/-! ## The two ends of a text -/

/-- A character that is not blank shields what follows it. -/
theorem trimStart_append_cons {c : Char} (h : isBlank c = false) (a b : List Char) :
    trimStart (a ++ c :: b) = trimStart a ++ c :: b := by
  induction a with
  | nil => simp [trimStart, h]
  | cons d a ih =>
    cases blank : isBlank d with
    | true => simpa [trimStart, blank] using ih
    | false => simp [trimStart, blank]

/-- A character that is not blank shields what stands before it. -/
theorem trimEnd_append_cons {c : Char} (h : isBlank c = false) (a b : List Char) :
    trimEnd (a ++ c :: b) = a ++ c :: trimEnd b := by
  have reversed : (a ++ c :: b).reverse = b.reverse ++ c :: a.reverse := by simp
  rw [trimEnd, reversed, trimStart_append_cons h]
  simp [trimEnd]

theorem trim_append_cons {c : Char} (h : isBlank c = false) (a b : List Char) :
    trim (a ++ c :: b) = trimStart a ++ c :: trimEnd b := by
  rw [trim, trimStart_append_cons h, trimEnd_append_cons h]

/-- The end of a text does not depend on how it starts. -/
theorem trimEnd_cons_congr (c : Char) {s t : List Char} (same : trimEnd s = trimEnd t) :
    trimEnd (c :: s) = trimEnd (c :: t) := by
  have reversed : s.reverse.dropWhile isBlank = t.reverse.dropWhile isBlank := by
    simpa [trimEnd, trimStart] using same
  simp [trimEnd, trimStart, List.dropWhile_append, reversed]

/-- Blanks behind do not matter. -/
theorem trim_append_blank {s b : List Char} (h : ∀ c ∈ b, isBlank c = true) :
    trim (s ++ b) = trim s := by
  have behind (t : List Char) : trimEnd (t ++ b) = trimEnd t := by
    rw [trimEnd, trimEnd, List.reverse_append, trimStart,
      List.dropWhile_append_of_pos (by simpa using h)]
    rfl
  have alone : trimStart b = [] := List.dropWhile_eq_nil_iff.mpr h
  rw [trim, trim, trimStart, List.dropWhile_append]
  split
  · next blanks =>
    have nothing : trimStart s = [] := List.isEmpty_iff.mp blanks
    rw [nothing]
    exact congrArg trimEnd alone
  · exact behind _

theorem trim_trimStart (s : List Char) : trim (trimStart s) = trim s := by
  rw [trim, trim, show trimStart (trimStart s) = trimStart s from List.dropWhile_idempotent ..]

/-- What is taken away at the end is blank. -/
theorem exists_eq_trimEnd_append (s : List Char) :
    ∃ b, (∀ c ∈ b, isBlank c = true) ∧ s = trimEnd s ++ b := by
  refine ⟨(s.reverse.takeWhile isBlank).reverse, fun c among => ?_, ?_⟩
  · exact List.mem_takeWhile_imp (List.mem_reverse.mp among)
  · have whole := List.takeWhile_append_dropWhile (p := isBlank) (l := s.reverse)
    rw [trimEnd, trimStart, ← List.reverse_append, whole, List.reverse_reverse]

theorem trimEnd_eq_self {s : List Char} (h : ∀ c ∈ s, isBlank c = false) : trimEnd s = s := by
  have kept : trimStart s.reverse = s.reverse :=
    List.dropWhile_eq_self_iff.mpr fun within => by
      simpa using h _ (List.mem_reverse.mp (List.getElem_mem within))
  rw [trimEnd, kept, List.reverse_reverse]

theorem trim_trimEnd (s : List Char) : trim (trimEnd s) = trim s := by
  obtain ⟨b, blank, parted⟩ := exists_eq_trimEnd_append s
  conv_rhs => rw [parted]
  exact (trim_append_blank blank).symm

@[simp] theorem trim_trim (s : List Char) : trim (trim s) = trim s := by
  conv_lhs => rw [trim.eq_def s]
  rw [trim_trimEnd, trim_trimStart]

theorem trimStart_subset (s : List Char) : trimStart s ⊆ s := (List.dropWhile_sublist _).subset

theorem trimEnd_subset (s : List Char) : trimEnd s ⊆ s := by
  intro c among
  exact List.mem_reverse.mp (trimStart_subset s.reverse (List.mem_reverse.mp among))

theorem mem_of_mem_trim {s : List Char} {c : Char} (among : c ∈ trim s) : c ∈ s :=
  trimStart_subset s (trimEnd_subset _ among)

theorem mem_trim {s : List Char} {c : Char} (visible : isBlank c = false) (among : c ∈ s) :
    c ∈ trim s := by
  obtain ⟨a, b, rfl⟩ := List.append_of_mem among
  simp [trim_append_cons visible]

theorem mem_trim_iff {s : List Char} {c : Char} (visible : isBlank c = false) :
    c ∈ trim s ↔ c ∈ s := ⟨mem_of_mem_trim, mem_trim visible⟩

/-! ## Trimmed texts -/

/-- There is no blank at the two ends. -/
def IsTrimmed (s : List Char) : Prop :=
  (∀ c ∈ s.head?, isBlank c = false) ∧ ∀ c ∈ s.getLast?, isBlank c = false

instance (s : List Char) : Decidable (IsTrimmed s) := inferInstanceAs (Decidable (_ ∧ _))

namespace IsTrimmed

variable {s : List Char}

theorem trim_eq (h : IsTrimmed s) : trim s = s := trim_eq_self h.1 h.2

theorem of_forall (h : ∀ c ∈ s, isBlank c = false) : IsTrimmed s :=
  ⟨fun c first => h c (List.mem_of_mem_head? first), fun c last => h c (List.mem_of_getLast? last)⟩

end IsTrimmed

/-! ## Joining and splitting -/

/-- Where there are more pieces, a mark stands behind the first one. -/
theorem intercalate_cons {mark : Char} {pieces : List (List Char)} (more : pieces ≠ [])
    (piece : List Char) :
    [mark].intercalate (piece :: pieces) = piece ++ mark :: [mark].intercalate pieces := by
  obtain ⟨next, rest, rfl⟩ := List.exists_cons_of_ne_nil more
  rw [List.intercalate_cons_cons, List.append_assoc, List.singleton_append]

/-- A joined text holds its pieces and its marks. -/
theorem mem_intercalate {mark c : Char} {pieces : List (List Char)}
    (among : c ∈ [mark].intercalate pieces) : c = mark ∨ ∃ piece ∈ pieces, c ∈ piece := by
  induction pieces with
  | nil => cases among
  | cons piece pieces ih =>
    by_cases more : pieces = []
    · subst more
      exact .inr ⟨piece, by simp, by simpa using among⟩
    · rw [intercalate_cons more] at among
      rcases List.mem_append.mp among with first | rest
      · exact .inr ⟨piece, by simp, first⟩
      · rcases List.mem_cons.mp rest with same | later
        · exact .inl same
        · refine (ih later).imp id ?_
          rintro ⟨p, within, holds⟩
          exact ⟨p, List.mem_cons_of_mem _ within, holds⟩

theorem mem_intercalate_of_mem {mark c : Char} {piece : List Char} {pieces : List (List Char)}
    (among : piece ∈ pieces) (within : c ∈ piece) : c ∈ [mark].intercalate pieces := by
  induction pieces with
  | nil => cases among
  | cons first pieces ih =>
    by_cases more : pieces = []
    · subst more
      simpa [← List.mem_singleton.mp among] using within
    · rw [intercalate_cons more]
      rcases List.mem_cons.mp among with rfl | later
      · exact List.mem_append_left _ within
      · exact List.mem_append_right _ (List.mem_cons_of_mem _ (ih later))

section Ends

variable {mark : Char} (visible : isBlank mark = false)

include visible

/-- Blanks in front of a text belong to its first piece. -/
theorem trimStart_intercalate (pieces : List (List Char)) :
    trimStart ([mark].intercalate pieces) = [mark].intercalate (pieces.modifyHead trimStart) := by
  cases pieces with
  | nil => rfl
  | cons piece pieces =>
    rw [List.modifyHead_cons]
    by_cases more : pieces = []
    · rw [more, List.intercalate_singleton, List.intercalate_singleton]
    · rw [intercalate_cons more, intercalate_cons more, trimStart_append_cons visible]

/-- Blanks behind a text belong to its last piece. -/
theorem trimEnd_intercalate_concat (pieces : List (List Char)) (last : List Char) :
    trimEnd ([mark].intercalate (pieces ++ [last]))
      = [mark].intercalate (pieces ++ [trimEnd last]) := by
  induction pieces with
  | nil => rw [List.nil_append, List.nil_append, List.intercalate_singleton,
      List.intercalate_singleton]
  | cons piece pieces ih =>
    rw [List.cons_append, List.cons_append, intercalate_cons (by simp), intercalate_cons (by simp),
      trimEnd_append_cons visible, ih]

end Ends

/-- Pieces without a mark are what is left when their text is split at the marks. -/
theorem splitOnP_intercalate {isMark : Char → Bool} {mark : Char} (marks : isMark mark = true)
    {pieces : List (List Char)} (nonempty : pieces ≠ [])
    (free : ∀ piece ∈ pieces, ∀ c ∈ piece, isMark c = false) :
    ([mark].intercalate pieces).splitOnP isMark = pieces := by
  induction pieces with
  | nil => exact absurd rfl nonempty
  | cons piece pieces ih =>
    have first := free piece List.mem_cons_self
    by_cases more : pieces = []
    · rw [more, List.intercalate_singleton]
      exact List.splitOnP_eq_singleton first
    · rw [intercalate_cons more, List.splitOnP_append_cons_of_forall_mem first mark marks,
        ih more fun p among => free p (List.mem_cons_of_mem _ among)]

/-- No mark is left in a piece. -/
theorem isMark_of_mem_splitOnP {isMark : Char → Bool} {s piece : List Char}
    (among : piece ∈ s.splitOnP isMark) : ∀ c ∈ piece, isMark c = false := by
  induction s generalizing piece with
  | nil =>
    rw [List.splitOnP_nil, List.mem_singleton] at among
    simp [among]
  | cons d s ih =>
    rw [List.splitOnP_cons_eq_if_modifyHead] at among
    split at among
    · rcases List.mem_cons.mp among with rfl | later
      · exact nofun
      · exact ih later
    · next unmarked =>
      obtain ⟨first, rest, parted⟩ := List.exists_cons_of_ne_nil (s.splitOnP_ne_nil isMark)
      rw [parted, List.modifyHead_cons] at among
      rw [parted] at ih
      rcases List.mem_cons.mp among with rfl | later
      · exact List.forall_mem_cons.mpr
          ⟨Bool.eq_false_iff.mpr unmarked, ih List.mem_cons_self⟩
      · exact ih (List.mem_cons_of_mem _ later)

section Trimmed

variable {isMark : Char → Bool} (visible : ∀ c, isMark c = true → isBlank c = false)

include visible

/-- No blank is a mark. -/
theorem isMark_of_isBlank {c : Char} (blank : isBlank c = true) : isMark c = false := by
  refine Bool.eq_false_iff.mpr fun marks => ?_
  rw [visible c marks] at blank
  cases blank

theorem map_trim_splitOnP_trimStart (s : List Char) :
    ((trimStart s).splitOnP isMark).map trim = (s.splitOnP isMark).map trim := by
  induction s with
  | nil => rfl
  | cons c s ih =>
    cases blank : isBlank c with
    | false => rw [show trimStart (c :: s) = c :: s by simp [trimStart, blank]]
    | true =>
      have unmarked := isMark_of_isBlank visible blank
      obtain ⟨piece, pieces, parted⟩ := List.exists_cons_of_ne_nil (s.splitOnP_ne_nil isMark)
      have same : trim (c :: piece) = trim piece :=
        trim_append_of_blank (b := [c]) (by simpa using blank)
      rw [show trimStart (c :: s) = trimStart s by simp [trimStart, blank], ih,
        List.splitOnP_cons_eq_if_modifyHead, if_neg (by simp [unmarked]), parted]
      simp [same]

theorem map_trimEnd_splitOnP_append {b : List Char} (blank : ∀ c ∈ b, isBlank c = true)
    (s : List Char) :
    ((s ++ b).splitOnP isMark).map trimEnd = (s.splitOnP isMark).map trimEnd := by
  induction s with
  | nil =>
    have unmarked : ∀ c ∈ b, isMark c = false :=
      fun c among => isMark_of_isBlank visible (blank c among)
    have nothing : trimEnd b = [] := by
      simpa [trimEnd, trimStart] using blank
    rw [List.nil_append, List.splitOnP_eq_singleton unmarked, List.map_singleton, nothing]
    rfl
  | cons c s ih =>
    rw [List.cons_append, List.splitOnP_cons_eq_if_modifyHead,
      List.splitOnP_cons_eq_if_modifyHead]
    split
    · rw [List.map_cons, List.map_cons, ih]
    · obtain ⟨piece, pieces, parted⟩ := List.exists_cons_of_ne_nil (s.splitOnP_ne_nil isMark)
      obtain ⟨piece', pieces', parted'⟩ :=
        List.exists_cons_of_ne_nil ((s ++ b).splitOnP_ne_nil isMark)
      rw [parted, parted'] at ih
      obtain ⟨first, rest⟩ := List.cons.inj ih
      rw [parted, parted', List.modifyHead_cons, List.modifyHead_cons, List.map_cons,
        List.map_cons, trimEnd_cons_congr c first]
      exact congrArg _ rest

/-- Blanks around a text only touch the ends of its pieces. -/
theorem map_trim_splitOnP_trim (s : List Char) :
    ((trim s).splitOnP isMark).map trim = (s.splitOnP isMark).map trim := by
  have ends (t : List Char) : (t.splitOnP isMark).map trim
      = ((t.splitOnP isMark).map trimEnd).map trim := by
    simp [trim_trimEnd]
  obtain ⟨b, blank, parted⟩ := exists_eq_trimEnd_append (trimStart s)
  have behind := map_trimEnd_splitOnP_append visible blank (trimEnd (trimStart s))
  rw [← parted] at behind
  rw [trim, ends, ← behind, ← ends, map_trim_splitOnP_trimStart visible]

end Trimmed

/-- Pieces that are all read, one by one, are read as a list. -/
theorem mapM_eq_pure_map {m : Type → Type} [Monad m] [LawfulMonad m] {α β : Type}
    {read : α → m β} {value : α → β} {xs : List α}
    (each : ∀ x ∈ xs, read x = pure (value x)) : xs.mapM read = pure (xs.map value) := by
  induction xs with
  | nil => rfl
  | cons x xs ih =>
    rw [List.mapM_cons, each x List.mem_cons_self, pure_bind,
      ih fun y among => each y (List.mem_cons_of_mem _ among), pure_bind, List.map_cons]

end FrameIngest.Text
