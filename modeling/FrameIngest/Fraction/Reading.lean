/-
FrameIngest.Fraction.Reading — fractions from texts.

Three notations are read, and tried in this order: two integers around the
first slash or colon, kept unreduced; one integer, over one; and a decimal
with one to six places, reduced to lowest terms.

* `ofDecimal?` — the third notation, in 64-bit words;
* `read?` — all three, on a trimmed text;
* `parse` — trims, and names the text in the error.
-/
import FrameIngest.Fraction
import FrameIngest.Text.Blank
import FrameIngest.Text.Split
import FrameIngest.Text.Misread

namespace FrameIngest.Fraction

open Text

/-- The marks that stand between two terms. -/
def isBar (c : Char) : Bool := c == '/' || c == ':'

/-- Two integers, each trimmed. -/
def ofTerms? (num den : List Char) : Option Fraction := do
  let n ← readInt32 (trim num)
  let d ← readInt32 (trim den)
  return ⟨n, d⟩

/-- The integer part of a decimal; nothing and a lone minus stand for zero. -/
def wholePart? (s : List Char) : Option Int64 :=
  if s = [] ∨ s = ['-'] then some 0 else readInt64 s

/-- One to six ASCII digits. -/
def IsPlaces (s : List Char) : Prop := s ≠ [] ∧ s.length ≤ 6 ∧ ∀ c ∈ s, c.isDigit = true

instance (s : List Char) : Decidable (IsPlaces s) := inferInstanceAs (Decidable (_ ∧ _ ∧ _))

/-- The integer `whole.places` comes to when the point is taken out. The sign stands before the
integer part and covers the places too, so it is set aside and put back at the end. -/
def scaled? (whole places : List Char) : Option Int64 := do
  let w ← wholePart? whole
  let f ← readInt64 places
  let magnitude ← Word.add? (← Word.mul? (← Word.abs? w) (.ofNat (Nat.pow 10 places.length))) f
  return if whole.head? = some '-' then -magnitude else magnitude

/-- A decimal: an integer part, a point and one to six places. -/
def ofDecimal? (s : List Char) : Option Fraction := do
  let (whole, places) ← cut (· == '.') s
  if IsPlaces places then
    let num ← Word.int32? (← scaled? whole places).toInt
    return reduce ⟨num, .ofNat (Nat.pow 10 places.length)⟩
  else none

/-- The fraction that a trimmed text writes. -/
def read? (s : List Char) : Option Fraction :=
  match cut isBar s with
  | some (num, den) => ofTerms? num den
  | none =>
    match readInt32 s with
    | some n => some ⟨n, 1⟩
    | none => ofDecimal? s

/-- The fraction that a text writes between blanks. -/
def parse (text : String) : Except Misread Fraction :=
  let s := trim text.toList
  match read? s with
  | some r => .ok r
  | none => .error (.fraction (String.ofList s))

end FrameIngest.Fraction
