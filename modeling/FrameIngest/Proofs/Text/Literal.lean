/-
FrameIngest.Proofs.Text.Literal — what is an integer in a text.

A literal is a string of ASCII digits, perhaps after a sign, and the readers of
integers take the literals whose value fits their word, and no other text
(`readInt32_eq_some_iff`, `readInt64_eq_some_iff`). The value of a string of
digits is that of the standard library, which knows nothing of these readers.

* `IsDigits`, `number` — strings of digits and their values;
* `IsLiteral` — a text that writes an integer.
-/
import FrameIngest.Proofs.Text.Numeral

namespace FrameIngest.Text

/-- At least one ASCII digit, and nothing else. -/
def IsDigits (s : List Char) : Prop := s ≠ [] ∧ ∀ c ∈ s, c.isDigit = true

/-- The number that a string of digits writes. -/
def number (s : List Char) : Nat := Nat.ofDigitChars 10 s 0

/-- The text writes the integer with digits, and perhaps a sign before them. -/
inductive IsLiteral : List Char → Int → Prop where
  | unsigned {s : List Char} (digits : IsDigits s) : IsLiteral s (number s)
  | plus {s : List Char} (digits : IsDigits s) : IsLiteral ('+' :: s) (number s)
  | minus {s : List Char} (digits : IsDigits s) : IsLiteral ('-' :: s) (-number s)

variable {s : List Char}

/-! ## Digits -/

theorem digit?_ten (c : Char) :
    digit? 10 c = if c.isDigit then some (c.toNat - '0'.toNat) else none := by
  unfold digit?
  split
  · next digit =>
    have small : c.toNat - '0'.toNat < 10 := by
      have bounds := Char.isDigit_iff_toNat.mp digit
      have zero : '0'.toNat = 48 := rfl
      have nine : '9'.toNat = 57 := rfl
      omega
    exact if_pos small
  · split
    · simp
    · split <;> simp

theorem extend?_of_digits (digits : ∀ c ∈ s, c.isDigit = true) (n : Nat) :
    extend? 10 n s = some (Nat.ofDigitChars 10 s n) := by
  induction s generalizing n with
  | nil => rfl
  | cons c s ih =>
    rw [extend?_cons, digit?_ten, if_pos (digits c List.mem_cons_self), Option.bind_some,
      ih fun d among => digits d (List.mem_cons_of_mem _ among), Nat.ofDigitChars_cons]

theorem natural?_eq_some_iff {n : Nat} :
    natural? 10 s = some n ↔ IsDigits s ∧ number s = n := by
  by_cases digits : ∀ c ∈ s, c.isDigit = true
  · cases s with
    | nil => simp [natural?, IsDigits]
    | cons c s =>
      rw [natural?, if_neg (by simp), extend?_of_digits digits, Option.some.injEq]
      exact ⟨fun value => ⟨⟨by simp, digits⟩, value⟩, fun h => h.2⟩
  · obtain ⟨c, among, other⟩ : ∃ c ∈ s, ¬ c.isDigit = true := by simpa using digits
    rw [natural?_eq_none (by rw [digit?_ten, if_neg other]) among]
    constructor
    · intro read
      cases read
    · intro h
      exact absurd (h.1.2 c among) other

theorem IsDigits.head?_ne (digits : IsDigits s) {sign : Char} (other : sign.isDigit = false) :
    s.head? ≠ some sign := by
  intro first
  rw [digits.2 sign (List.mem_of_mem_head? first)] at other
  cases other

/-! ## Literals -/

/-- A literal holds digits and signs only. -/
theorem IsLiteral.digit_or_sign {z : Int} (h : IsLiteral s z) :
    ∀ c ∈ s, c.isDigit = true ∨ c = '+' ∨ c = '-' := by
  intro c among
  cases h with
  | unsigned digits => exact .inl (digits.2 c among)
  | plus digits =>
    rcases List.mem_cons.mp among with rfl | among
    · exact .inr (.inl rfl)
    · exact .inl (digits.2 c among)
  | minus digits =>
    rcases List.mem_cons.mp among with rfl | among
    · exact .inr (.inr rfl)
    · exact .inl (digits.2 c among)

theorem unsigned?_of_digits (digits : IsDigits s) : unsigned? 10 s = some (number s) := by
  rw [unsigned?_of_head?_ne (digits.head?_ne rfl)]
  exact natural?_eq_some_iff.mpr ⟨digits, rfl⟩

theorem signed?_minus (s : List Char) :
    signed? ('-' :: s) = (natural? 10 s).map fun n : Nat => -(n : Int) := by
  cases h : natural? 10 s <;> simp [signed?, h]

/-- A reader of integers takes the literals. -/
theorem signed?_eq_some_iff {z : Int} : signed? s = some z ↔ IsLiteral s z := by
  constructor
  · intro read
    by_cases minus : s.head? = some '-'
    · obtain ⟨t, rfl⟩ := List.head?_eq_some_iff.mp minus
      rw [signed?_minus] at read
      obtain ⟨n, value, rfl⟩ := Option.map_eq_some_iff.mp read
      obtain ⟨digits, rfl⟩ := natural?_eq_some_iff.mp value
      exact .minus digits
    · rw [signed?_of_head?_ne minus] at read
      obtain ⟨n, value, rfl⟩ := Option.map_eq_some_iff.mp read
      by_cases plus : s.head? = some '+'
      · obtain ⟨t, rfl⟩ := List.head?_eq_some_iff.mp plus
        obtain ⟨digits, rfl⟩ := natural?_eq_some_iff.mp value
        exact .plus digits
      · rw [unsigned?_of_head?_ne plus] at value
        obtain ⟨digits, rfl⟩ := natural?_eq_some_iff.mp value
        exact .unsigned digits
  · intro literal
    cases literal with
    | unsigned digits =>
      rw [signed?_of_head?_ne (digits.head?_ne rfl), unsigned?_of_digits digits, Option.map_some]
    | plus digits =>
      rw [signed?_of_head?_ne (by simp), unsigned?, natural?_eq_some_iff.mpr ⟨digits, rfl⟩,
        Option.map_some]
    | minus digits =>
      rw [signed?_minus, natural?_eq_some_iff.mpr ⟨digits, rfl⟩, Option.map_some]

theorem IsLiteral.unique {y z : Int} (h : IsLiteral s y) (h' : IsLiteral s z) : y = z :=
  Option.some.inj ((signed?_eq_some_iff.mpr h).symm.trans (signed?_eq_some_iff.mpr h'))

/-- A sign alone is no integer. -/
theorem IsLiteral.not_bare {z : Int} (h : IsLiteral s z) : s ≠ [] ∧ s ≠ ['-'] := by
  have read := signed?_eq_some_iff.mpr h
  constructor
  · rintro rfl
    cases read
  · rintro rfl
    cases read

/-- Digits without a sign have one value. -/
theorem IsDigits.isLiteral_iff (digits : IsDigits s) {z : Int} :
    IsLiteral s z ↔ z = number s := by
  constructor
  · intro literal
    have read := signed?_eq_some_iff.mpr literal
    rw [signed?_eq_some_iff.mpr (.unsigned digits)] at read
    exact (Option.some.inj read).symm
  · rintro rfl
    exact .unsigned digits

theorem readInt32_eq_some_iff {n : Int32} : readInt32 s = some n ↔ IsLiteral s n.toInt := by
  simp [readInt32, Option.bind_eq_some_iff, signed?_eq_some_iff, Word.int32?_eq_some_iff]

theorem readInt64_eq_some_iff {n : Int64} : readInt64 s = some n ↔ IsLiteral s n.toInt := by
  simp [readInt64, Option.bind_eq_some_iff, signed?_eq_some_iff, Word.int64?_eq_some_iff]

end FrameIngest.Text
