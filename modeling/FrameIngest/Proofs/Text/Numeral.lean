/-
FrameIngest.Proofs.Text.Numeral — written numerals are read back.

A numeral is written with the digits of its base and, in base ten, perhaps a
minus; so it holds no blank and none of the marks that texts are cut at. What
is written is read back as the number it was, also where a reader of a wider
class looks for a sign first. A text with a character that is no digit and no
sign is not a numeral.

* `mem_decimalMarks`, `mem_hexadecimalMarks` — the characters of numerals;
* `readUInt32_decimal`, `readInt32_signedDecimal`, `readHex_toDigits` — reading
  back;
* `readInt32_eq_none` — texts that are no numerals.
-/
import FrameIngest.Proofs.Text.Pieces
import FrameIngest.Text.Numeral

namespace FrameIngest.Text

/-! ## The characters of numerals -/

/-- The characters that integers in base ten are written with. -/
def decimalMarks : List Char := ['-', '0', '1', '2', '3', '4', '5', '6', '7', '8', '9']

/-- The characters that masks in base sixteen are written with. -/
def hexadecimalMarks : List Char :=
  ['0', '1', '2', '3', '4', '5', '6', '7', '8', '9', 'a', 'b', 'c', 'd', 'e', 'f', 'x']

theorem mem_toDigits {base n : Nat} (large : 1 < base) {c : Char}
    (among : c ∈ Nat.toDigits base n) : ∃ d < base, c = d.digitChar := by
  induction n using Nat.strongRecOn with
  | ind n ih =>
    rw [Nat.toDigits_eq_if large] at among
    split at among
    · next h => exact ⟨n, h, List.mem_singleton.mp among⟩
    · next h =>
      rcases List.mem_append.mp among with before | last
      · exact ih (n / base) (Nat.div_lt_self (by omega) large) before
      · exact ⟨n % base, Nat.mod_lt n (by omega), List.mem_singleton.mp last⟩

theorem mem_decimalMarks_of_decimal {n : Nat} {c : Char} (among : c ∈ decimal n) :
    c ∈ decimalMarks := by
  have digits : ∀ d < 10, Nat.digitChar d ∈ decimalMarks := by decide
  obtain ⟨d, small, rfl⟩ := mem_toDigits (by decide) among
  exact digits d small

theorem mem_decimalMarks {z : Int} {c : Char} (among : c ∈ signedDecimal z) :
    c ∈ decimalMarks := by
  unfold signedDecimal at among
  split at among
  · rcases List.mem_cons.mp among with rfl | among
    · decide
    · exact mem_decimalMarks_of_decimal among
  · exact mem_decimalMarks_of_decimal among

theorem mem_hexadecimalMarks {n : Nat} {c : Char} (among : c ∈ hexadecimal n) :
    c ∈ hexadecimalMarks := by
  have digits : ∀ d < 16, Nat.digitChar d ∈ hexadecimalMarks := by decide
  rcases List.mem_cons.mp among with rfl | among
  · decide
  · rcases List.mem_cons.mp among with rfl | among
    · decide
    · obtain ⟨d, small, rfl⟩ := mem_toDigits (by decide) among
      exact digits d small

theorem isTrimmed_signedDecimal (z : Int) : IsTrimmed (signedDecimal z) := by
  have visible : ∀ c ∈ decimalMarks, isBlank c = false := by decide
  exact .of_forall fun c among => visible c (mem_decimalMarks among)

/-! ## Reading back -/

/-- A written number starts with a digit, and no digit is a sign. -/
theorem head?_toDigits_ne {base n : Nat} (large : 1 < base) {c : Char}
    (sign : ∀ d < base, d.digitChar ≠ c) : (Nat.toDigits base n).head? ≠ some c := by
  intro first
  obtain ⟨d, small, rfl⟩ := mem_toDigits large (List.mem_of_mem_head? first)
  exact sign d small rfl

theorem unsigned?_of_head?_ne {base : Nat} {s : List Char} (h : s.head? ≠ some '+') :
    unsigned? base s = natural? base s := by
  unfold unsigned?
  split
  · exact absurd rfl h
  · rfl

theorem signed?_of_head?_ne {s : List Char} (h : s.head? ≠ some '-') :
    signed? s = (unsigned? 10 s).map fun n : Nat => (n : Int) := by
  unfold signed?
  split
  · exact absurd rfl h
  · cases unsigned? 10 s <;> rfl

theorem unsigned?_toDigits {base : Nat} (large : 1 < base) (small : base ≤ 16) (n : Nat) :
    unsigned? base (Nat.toDigits base n) = some n := by
  have plus : ∀ d < 16, Nat.digitChar d ≠ '+' := by decide
  rw [unsigned?_of_head?_ne (head?_toDigits_ne large fun d h => plus d (by omega)),
    natural?_toDigits large small]

theorem signed?_signedDecimal (z : Int) : signed? (signedDecimal z) = some z := by
  have minus : ∀ d < 10, Nat.digitChar d ≠ '-' := by decide
  unfold signedDecimal
  split
  · next negative =>
    have value : -((z.natAbs : Nat) : Int) = z := by omega
    rw [decimal, signed?, natural?_toDigits (by decide) (by decide)]
    exact congrArg some value
  · next natural =>
    have value : ((z.natAbs : Nat) : Int) = z := by omega
    rw [decimal, signed?_of_head?_ne (head?_toDigits_ne (by decide) minus),
      unsigned?_toDigits (by decide) (by decide), Option.map_some, value]

theorem readUInt32_decimal (n : UInt32) : readUInt32 (decimal n.toNat) = some n := by
  simp [readUInt32, decimal, unsigned?_toDigits]

theorem readInt32_signedDecimal (n : Int32) : readInt32 (signedDecimal n.toInt) = some n := by
  simp [readInt32, signed?_signedDecimal]

theorem readHex_toDigits (n : UInt64) : readHex (Nat.toDigits 16 n.toNat) = some n := by
  simp [readHex, unsigned?_toDigits]

/-! ## Texts that are no numerals -/

variable {s : List Char} {c : Char}

theorem extend?_eq_none {base : Nat} (n : Nat) (bad : digit? base c = none) (among : c ∈ s) :
    extend? base n s = none := by
  induction s generalizing n with
  | nil => cases among
  | cons d s ih =>
    rw [extend?_cons]
    rcases List.mem_cons.mp among with rfl | among
    · rw [bad]
      rfl
    · cases digit? base d with
      | none => rfl
      | some _ => exact ih _ among

theorem natural?_eq_none {base : Nat} (bad : digit? base c = none) (among : c ∈ s) :
    natural? base s = none := by
  unfold natural?
  split
  · rfl
  · exact extend?_eq_none 0 bad among

theorem unsigned?_eq_none {base : Nat} (bad : digit? base c = none) (plus : c ≠ '+')
    (among : c ∈ s) : unsigned? base s = none := by
  unfold unsigned?
  split
  · rcases List.mem_cons.mp among with rfl | among
    · exact absurd rfl plus
    · exact natural?_eq_none bad among
  · exact natural?_eq_none bad among

theorem signed?_eq_none (bad : digit? 10 c = none) (plus : c ≠ '+') (minus : c ≠ '-')
    (among : c ∈ s) : signed? s = none := by
  unfold signed?
  split
  · rcases List.mem_cons.mp among with rfl | among
    · exact absurd rfl minus
    · rw [natural?_eq_none bad among]
      rfl
  · rw [unsigned?_eq_none bad plus among]
    rfl

/-- A text with a character that is no digit and no sign is no integer. -/
theorem readInt32_eq_none (bad : digit? 10 c = none) (plus : c ≠ '+') (minus : c ≠ '-')
    (among : c ∈ s) : readInt32 s = none := by
  rw [readInt32, signed?_eq_none bad plus minus among]
  rfl

theorem readUInt32_eq_none (bad : digit? 10 c = none) (plus : c ≠ '+') (among : c ∈ s) :
    readUInt32 s = none := by
  rw [readUInt32, unsigned?_eq_none bad plus among]
  rfl

theorem readUInt64_eq_none (bad : digit? 10 c = none) (plus : c ≠ '+') (among : c ∈ s) :
    readUInt64 s = none := by
  rw [readUInt64, unsigned?_eq_none bad plus among]
  rfl

end FrameIngest.Text
