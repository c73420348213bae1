/-
FrameIngest.Proofs.Picture.Written — pixel formats and sizes are read back.

A pixel format is read back from its name, which comes before its index. A size
is written as two numbers, which no name of a size is, and is read back unless
one of them is zero. The two numbers can stand around an `X` too
(`Size.read?_spelled`), and no text is read as an empty size.
-/
import FrameIngest.Picture.Format
import FrameIngest.Picture.Size
import FrameIngest.Proofs.Text.Numeral

namespace FrameIngest

open Text

namespace PixelFormat

theorem ofName?_name (f : PixelFormat) : ofName? f.name = some f := by
  cases f <;> decide

theorem read?_name (f : PixelFormat) : read? f.name.toList = some f := by
  rw [read?, String.ofList_toList, ofName?_name, Option.some_or]

/-- Neither a name nor an index has an `=`. -/
theorem read?_eq_none {s : List Char} (mark : '=' ∈ s) : read? s = none := by
  have names : ∀ f ∈ all, '=' ∉ f.name.toList := by decide
  have unnamed : ofName? (String.ofList s) = none := by
    refine List.find?_eq_none.mpr fun f among same => names f among ?_
    rw [of_decide_eq_true same, String.toList_ofList]
    exact mark
  rw [read?, unnamed, readUInt64_eq_none (c := '=') (by decide) (by decide) mark]
  rfl

end PixelFormat

namespace Size

/-- The two numbers around a mark. -/
def spelled (mark : Char) (s : Size) : List Char :=
  decimal s.width.toNat ++ mark :: decimal s.height.toNat

theorem isTimes_iff {c : Char} : isTimes c = true ↔ c = 'x' ∨ c = 'X' := by
  simp [isTimes]

section Spelled

variable {mark : Char} {s : Size}

theorem mem_spelled {c : Char} (among : c ∈ s.spelled mark) : c ∈ mark :: decimalMarks := by
  rcases List.mem_append.mp among with first | rest
  · exact List.mem_cons_of_mem _ (mem_decimalMarks_of_decimal first)
  · exact List.mem_cons.mpr ((List.mem_cons.mp rest).imp id mem_decimalMarks_of_decimal)

variable (times : isTimes mark = true)

include times

/-- A name has a letter of its own. -/
theorem ofName?_spelled (s : Size) : ofName? (String.ofList (s.spelled mark)) = none := by
  have letter : ∀ mark ∈ ['x', 'X'], ∀ entry ∈ named, ∃ c ∈ entry.1.toList,
      c ∉ mark :: decimalMarks := by decide
  have unnamed : named.find? (·.1 = String.ofList (s.spelled mark)) = none := by
    refine List.find?_eq_none.mpr fun entry among same => ?_
    obtain ⟨c, within, foreign⟩ := letter mark (by simpa using isTimes_iff.mp times) entry among
    rw [of_decide_eq_true same, String.toList_ofList] at within
    exact foreign (mem_spelled within)
  rw [ofName?, unnamed, Option.map_none]

/-- Two numbers are a size unless one of them is zero. -/
theorem read?_spelled (s : Size) :
    read? (s.spelled mark) = if s.width = 0 ∨ s.height = 0 then none else some s := by
  have noTimes : ∀ c ∈ decimalMarks, isTimes c = false := by decide
  have before : ∀ c ∈ decimal s.width.toNat, isTimes c = false :=
    fun c among => noTimes c (mem_decimalMarks_of_decimal among)
  have parted : cut isTimes (s.spelled mark)
      = some (decimal s.width.toNat, decimal s.height.toNat) := cut_append_cons before times _
  rw [read?, ofName?_spelled times, Option.none_or, ofNumbers?, parted]
  simp [readUInt32_decimal]

theorem isTrimmed_spelled (s : Size) : IsTrimmed (s.spelled mark) := by
  have visible : ∀ mark ∈ ['x', 'X'], ∀ c ∈ mark :: decimalMarks, isBlank c = false := by decide
  exact .of_forall fun c among =>
    visible mark (by simpa using isTimes_iff.mp times) c (mem_spelled among)

/-- Blanks around the two numbers do not matter. -/
theorem parse?_spelled (s : Size) {b b' : List Char} (blank : ∀ c ∈ b, isBlank c = true)
    (blank' : ∀ c ∈ b', isBlank c = true) :
    parse? (String.ofList (b ++ s.spelled mark ++ b'))
      = if s.width = 0 ∨ s.height = 0 then none else some s := by
  rw [parse?, String.toList_ofList, trim_append_blank blank', trim_append_of_blank blank,
    (isTrimmed_spelled times s).trim_eq, read?_spelled times]

end Spelled

/-! ### The written form -/

theorem mem_chars {s : Size} {c : Char} (among : c ∈ s.chars) : c ∈ 'x' :: decimalMarks :=
  mem_spelled among

theorem read?_chars {s : Size} (wide : s.width ≠ 0) (high : s.height ≠ 0) :
    read? s.chars = some s :=
  (read?_spelled (rfl : isTimes 'x' = true) s).trans (if_neg (not_or.mpr ⟨wide, high⟩))

/-- No size is empty. -/
theorem ne_zero_of_read? {t : List Char} {s : Size} (read : read? t = some s) :
    s.width ≠ 0 ∧ s.height ≠ 0 := by
  have sizes : ∀ entry ∈ named, entry.2.width ≠ 0 ∧ entry.2.height ≠ 0 := by decide
  rcases Option.or_eq_some_iff.mp read with name | ⟨-, numbers⟩
  · obtain ⟨entry, found, rfl⟩ := Option.map_eq_some_iff.mp name
    exact sizes entry (List.mem_of_find?_eq_some found)
  · unfold ofNumbers? at numbers
    simp only [Option.bind_eq_bind, Option.bind_eq_some_iff] at numbers
    obtain ⟨_, -, width, -, height, -, made⟩ := numbers
    split at made
    · cases made
    · next some =>
      cases made
      exact not_or.mp some

theorem parse?_toString {s : Size} (wide : s.width ≠ 0) (high : s.height ≠ 0) :
    parse? (toString s) = some s := by
  have text : (toString s).toList = s.chars := String.toList_ofList
  have trimmed : trim s.chars = s.chars :=
    (isTrimmed_spelled (rfl : isTimes 'x' = true) s).trim_eq
  rw [parse?, text, trimmed, read?_chars wide high]

end Size

end FrameIngest
