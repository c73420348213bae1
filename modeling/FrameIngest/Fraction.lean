/-
FrameIngest.Fraction — fractions of 32-bit terms.

Time bases, frame rates and aspect ratios are fractions that keep the terms
they were given: `2/4` is not `1/2`, and a zero denominator is a value like
any other, which only some uses refuse.

* `Fraction` — the two terms;
* `reduce` — lowest terms, the sign on the numerator;
* `chars`, `ToString` — the written form, `num/den`;
* `toFloat?` — the quotient, unless the denominator is zero.
-/
import FrameIngest.Text.Numeral

namespace FrameIngest

/-- The fraction `num / den`, kept as given. -/
structure Fraction where
  num : Int32
  den : Int32
  deriving DecidableEq, Repr

namespace Fraction

/-- `0/0`, which has no meaning of its own. -/
instance : Inhabited Fraction := ⟨⟨0, 0⟩⟩

/-- `0/1`, the value of a rate or an aspect that is not known. -/
def unknown : Fraction := ⟨0, 1⟩

/-- Both terms are above zero, as a usable time base has it. -/
def IsPositive (r : Fraction) : Prop := 0 < r.num ∧ 0 < r.den

instance (r : Fraction) : Decidable r.IsPositive := inferInstanceAs (Decidable (_ ∧ _))

/-- The numerator is zero. -/
def IsZero (r : Fraction) : Prop := r.num = 0

instance (r : Fraction) : Decidable r.IsZero := inferInstanceAs (Decidable (_ = _))

/-- The reciprocal. -/
def invert (r : Fraction) : Fraction := ⟨r.den, r.num⟩

@[simp] theorem invert_invert (r : Fraction) : r.invert.invert = r := rfl

/-- The greatest common divisor of the two magnitudes. -/
def content (r : Fraction) : Nat := (Word.gcd (Word.magnitude r.num) (Word.magnitude r.den)).toNat

/-- Lowest terms with the sign on the numerator; `0/0` stays as it is. The divisor is stored in
a word, so the content `2 ^ 31` divides as the least word does. -/
def reduce (r : Fraction) : Fraction :=
  if r.content = 0 then r
  else
    let divisor := Int32.ofNat r.content
    let num := r.num / divisor
    let den := r.den / divisor
    if den < 0 then ⟨-num, -den⟩ else ⟨num, den⟩

/-- The quotient as a float, unless the denominator is zero. -/
def toFloat? (r : Fraction) : Option Float :=
  if r.den = 0 then none else some (r.num.toFloat / r.den.toFloat)

/-- The written form: the two terms around a slash. -/
def chars (r : Fraction) : List Char :=
  Text.signedDecimal r.num.toInt ++ '/' :: Text.signedDecimal r.den.toInt

instance : ToString Fraction := ⟨fun r => String.ofList r.chars⟩

end Fraction

end FrameIngest
