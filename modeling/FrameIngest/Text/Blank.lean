/-
FrameIngest.Text.Blank — blank characters and trimming.

Every text that names a number, a format, a layout or an option may be
surrounded by blanks. *Blank* is the Unicode property `White_Space`, of which
the ASCII blanks are only a part: a no-break space or an ideographic space is
trimmed too, a zero-width space is not.

* `isBlank` — membership in the property;
* `trim` — a text without the blanks at its two ends;
* `decidableForallMem`, `decidableExistsMem` — what holds of the characters of a
  text is decided along the text.
-/

namespace FrameIngest.Text

/-- The Unicode property `White_Space`: 25 code points. -/
def isBlank (c : Char) : Bool :=
  let n := c.toNat
  (0x9 ≤ n && n ≤ 0xD) || n == 0x20 || n == 0x85 || n == 0xA0 || n == 0x1680
    || (0x2000 ≤ n && n ≤ 0x200A) || n == 0x2028 || n == 0x2029 || n == 0x202F
    || n == 0x205F || n == 0x3000

/-- `s` without its leading blanks. -/
def trimStart (s : List Char) : List Char := s.dropWhile isBlank

/-- `s` without its trailing blanks. -/
def trimEnd (s : List Char) : List Char := (trimStart s.reverse).reverse

/-- `s` without the blanks at its two ends. -/
def trim (s : List Char) : List Char := trimEnd (trimStart s)

/-! ## Characters of a text -/

section Decide

-- Where statements about all characters are decidable, these would be decided by going through all
-- of Unicode; the priority keeps that from happening.
variable (p : Char → Prop) [DecidablePred p]

instance (priority := 1100) decidableForallMem (s : List Char) : Decidable (∀ c ∈ s, p c) :=
  List.decidableBAll p s

instance (priority := 1100) decidableExistsMem (s : List Char) : Decidable (∃ c ∈ s, p c) :=
  List.decidableBEx p s

instance (priority := 1100) decidableForallMem? (c? : Option Char) : Decidable (∀ c ∈ c?, p c) :=
  c?.decidableForallMem

end Decide

/-! ## Blanks -/

/-- A decimal digit is not blank. -/
theorem isBlank_of_isDigit {c : Char} (h : c.isDigit = true) : isBlank c = false := by
  simp only [Char.isDigit, Bool.and_eq_true, decide_eq_true_eq, ge_iff_le,
    UInt32.le_iff_toNat_le] at h
  have lo : 48 ≤ c.toNat := h.1
  have hi : c.toNat ≤ 57 := h.2
  simp [isBlank]
  omega

/-! ## Trimming -/

@[simp] theorem trim_nil : trim [] = [] := rfl

/-- A text whose first and last characters are not blank is left as it is. -/
theorem trim_eq_self {s : List Char} (first : ∀ c ∈ s.head?, isBlank c = false)
    (last : ∀ c ∈ s.getLast?, isBlank c = false) : trim s = s := by
  have start : ∀ {t : List Char}, (∀ c ∈ t.head?, isBlank c = false) → trimStart t = t := by
    intro t ht
    cases t with
    | nil => rfl
    | cons c r => simp [trimStart, ht c (by simp)]
  rw [trim, start first, trimEnd, start (by simpa using last), List.reverse_reverse]

/-- Blanks in front do not matter. -/
theorem trim_append_of_blank {b s : List Char} (h : ∀ c ∈ b, isBlank c = true) :
    trim (b ++ s) = trim s := by
  rw [trim, trim, trimStart, List.dropWhile_append_of_pos h]
  rfl

end FrameIngest.Text
