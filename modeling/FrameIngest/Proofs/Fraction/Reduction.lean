/-
FrameIngest.Proofs.Fraction.Reduction — what reducing does to all fractions.

Reducing takes one factor out of both terms. The factor has the sign of the
denominator, nothing in common is left of the terms, and to reduce again changes
nothing. Over denominators that are not zero, reducing is a normal form: two
fractions come to the same one exactly if they are equal as quotients
(`reduce_eq_iff_cross_mul_eq`).

Two kinds of fractions stand apart. Some cannot be reduced in 32 bits, because a
term that is the least word would have to be negated (`negatesLeast_iff`). And
the least word over zero is divided by its content `2 ^ 31`, which as a word is
negative, so its sign is lost (`reduce_exact_unless_least_over_zero`).
-/
import FrameIngest.Proofs.Fraction.Lowest
import Mathlib.Data.Nat.GCD.Basic
import Mathlib.Data.Nat.Prime.Basic

namespace FrameIngest.Fraction

/-- The fraction `q` is `r` with the factor `k` taken out of both terms. The factor is negative
over a negative denominator only, so over a zero denominator the numerator keeps its sign. -/
def TakesOut (r q : Fraction) (k : Int) : Prop :=
  r.num.toInt = k * q.num.toInt ∧ r.den.toInt = k * q.den.toInt
    ∧ if r.den.toInt < 0 then k < 0 else 0 < k

instance (r q : Fraction) (k : Int) : Decidable (TakesOut r q k) :=
  inferInstanceAs (Decidable (_ ∧ _ ∧ ite _ _ _))

variable {r : Fraction}

/-! ## Where reducing leaves its words -/

/-- What has nothing in common with the least word are the odd numbers. -/
theorem gcd_least_eq_one_iff {z : Int} : Int.gcd Int32.minValue.toInt z = 1 ↔ z % 2 = 1 := by
  have powers : Nat.Coprime (2 ^ 31) z.natAbs ↔ Odd z.natAbs := by
    rw [Nat.coprime_pow_left_iff (by decide), Nat.coprime_two_left]
  have parity : Odd z.natAbs ↔ z % 2 = 1 := by
    rw [Nat.odd_iff]
    omega
  exact powers.trans parity

theorem divisor_of_content_eq_one (coprime : r.content = 1) : r.divisor = 1 := by
  rw [divisor, coprime]
  rfl

/-- Where a quotient is the least word and has to be negated, the terms have nothing in common. -/
theorem NegatesLeast.content_eq_one (h : r.NegatesLeast) : r.content = 1 := by
  obtain ⟨nonzero, below, least⟩ := h
  have num := toInt_eq_divisor_mul r.content_dvd_num
  have den := toInt_eq_divisor_mul r.content_dvd_den
  have negative : (r.den / r.divisor).toInt < 0 := Int32.lt_iff_toInt_lt.mp below
  have num_ge := r.num.le_toInt
  have den_ge := r.den.le_toInt
  have den_lt := r.den.toInt_lt
  have value : Int32.minValue.toInt = -2 ^ 31 := rfl
  rcases Nat.lt_or_eq_of_le r.content_le with small | large
  · rw [toInt_divisor small] at num den
    rcases least with same | same
    · rw [same, value] at num
      omega
    · rw [same, value] at den
      omega
  -- the largest content is the least word, which makes the denominator positive
  · rw [divisor_of_large large, value] at den
    rw [divisor_of_large large] at negative
    omega

/-- The fractions that cannot be reduced in 32 bits are the least word over a negative odd number,
and an odd number over the least word. -/
theorem negatesLeast_iff : r.NegatesLeast ↔
    (r.num = Int32.minValue ∧ r.den.toInt < 0 ∧ r.den.toInt % 2 = 1)
      ∨ (r.den = Int32.minValue ∧ r.num.toInt % 2 = 1) := by
  constructor
  · intro h
    have coprime := h.content_eq_one
    obtain ⟨-, below, least⟩ := h
    rw [divisor_of_content_eq_one coprime, Int32.div_one] at below
    rw [divisor_of_content_eq_one coprime, Int32.div_one, Int32.div_one] at least
    rw [content_eq_gcd] at coprime
    rcases least with same | same
    · rw [same, gcd_least_eq_one_iff] at coprime
      exact .inl ⟨same, Int32.lt_iff_toInt_lt.mp below, coprime⟩
    · rw [same, Int.gcd_comm, gcd_least_eq_one_iff] at coprime
      exact .inr ⟨same, coprime⟩
  · rintro (⟨least, below, odd⟩ | ⟨least, odd⟩)
    · have coprime : r.content = 1 := by rw [content_eq_gcd, least, gcd_least_eq_one_iff, odd]
      rw [NegatesLeast, divisor_of_content_eq_one coprime, Int32.div_one, Int32.div_one]
      exact ⟨by omega, Int32.lt_iff_toInt_lt.mpr below, .inl least⟩
    · have coprime : r.content = 1 := by
        rw [content_eq_gcd, least, Int.gcd_comm, gcd_least_eq_one_iff, odd]
      rw [NegatesLeast, divisor_of_content_eq_one coprime, Int32.div_one, Int32.div_one, least]
      exact ⟨by omega, by decide, .inr rfl⟩

/-! ## The factor -/

theorem reduce_zero_over_zero : reduce ⟨0, 0⟩ = ⟨0, 0⟩ :=
  if_pos (content_eq_zero_iff.mpr rfl)

/-- The content of the least word over zero is negative as a word. -/
theorem reduce_least_over_zero : reduce ⟨Int32.minValue, 0⟩ = ⟨1, 0⟩ := by
  have large : content ⟨Int32.minValue, 0⟩ = 2 ^ 31 := by
    rw [content_eq_gcd]
    rfl
  rw [reduce_of_not_neg (by omega), divisor_of_large large]
  · rfl
  · rw [divisor_of_large large]
    decide

theorem factor_neg (calm : ¬ r.NegatesLeast) (below : r.den.toInt < 0) : r.factor < 0 := by
  have nonzero := content_ne_zero_of_den below.ne
  by_contra natural
  have product := Int.mul_nonneg (not_lt.mp natural) (den_reduce_nonneg nonzero calm)
  rw [← (eq_factor_mul_reduce nonzero calm).2] at product
  omega

/-- Over zero, the factor is the content, unless the numerator is the least word. -/
theorem factor_pos_of_den_eq_zero (nonzero : r.content ≠ 0) (zero : r.den = 0)
    (other : r.num ≠ Int32.minValue) : 0 < r.factor := by
  have small : r.content < 2 ^ 31 := by
    have above : Int32.minValue.toInt ≠ r.num.toInt := fun same =>
      other (Int32.toInt_inj.mp same.symm)
    have value : Int32.minValue.toInt = -2 ^ 31 := rfl
    have num_ge := r.num.le_toInt
    have num_lt := r.num.toInt_lt
    rw [content_eq_gcd, zero, Int32.toInt_zero, Int.gcd_zero_right]
    omega
  have kept : ¬ r.den / r.divisor < 0 := by
    rw [zero, Int32.zero_div]
    decide
  rw [factor, if_neg kept, toInt_divisor small]
  omega

theorem factor_pos (nonzero : r.content ≠ 0) (calm : ¬ r.NegatesLeast) (natural : 0 ≤ r.den.toInt)
    (other : r ≠ ⟨Int32.minValue, 0⟩) : 0 < r.factor := by
  rcases natural.eq_or_lt with zero | above
  · have den : r.den = 0 := Int32.toInt_inj.mp zero.symm
    refine factor_pos_of_den_eq_zero nonzero den fun least => other ?_
    cases r
    exact congrArg₂ Fraction.mk least den
  · by_contra negative
    have product := Int.mul_nonpos_of_nonneg_of_nonpos (den_reduce_nonneg nonzero calm)
      (not_lt.mp negative)
    rw [mul_comm, ← (eq_factor_mul_reduce nonzero calm).2] at product
    omega

/-- Reducing takes out a factor of the right sign, except from the least word over zero. -/
theorem exists_takesOut_iff (calm : ¬ r.NegatesLeast) :
    (∃ k, r.TakesOut r.reduce k) ↔ r ≠ ⟨Int32.minValue, 0⟩ := by
  constructor
  · rintro ⟨k, num, -, sign⟩ rfl
    rw [reduce_least_over_zero] at num
    rw [if_neg (by decide)] at sign
    have value : Int32.minValue.toInt = -2 ^ 31 := rfl
    have one : (1 : Int32).toInt = 1 := rfl
    simp only [value, one] at num
    omega
  · intro other
    rcases eq_or_ne r.content 0 with zero | nonzero
    · rw [content_eq_zero_iff.mp zero, reduce_zero_over_zero]
      exact ⟨1, by decide⟩
    · obtain ⟨num, den⟩ := eq_factor_mul_reduce nonzero calm
      refine ⟨r.factor, num, den, ?_⟩
      split
      · next below => exact factor_neg calm below
      · next natural => exact factor_pos nonzero calm (not_lt.mp natural) other

/-! ## Reducing again -/

/-- What has nothing in common stays. -/
theorem reduce_eq_self (natural : 0 ≤ r.den.toInt)
    (coprime : Int.gcd r.num.toInt r.den.toInt = 1) : r.reduce = r := by
  have content : r.content = 1 := (content_eq_gcd r).trans coprime
  have kept : ¬ r.den / r.divisor < 0 := by
    have above : 0 ≤ r.den := Int32.le_iff_toInt_le.mpr natural
    rw [divisor_of_content_eq_one content, Int32.div_one]
    exact Int32.not_lt.mpr above
  rw [reduce_of_not_neg (by omega) kept, divisor_of_content_eq_one content, Int32.div_one,
    Int32.div_one]

/-- **Exact reduction.** Take a fraction that can be reduced in 32 bits. A factor is taken out of
both terms, negative exactly over a negative denominator, unless the fraction is the least word over
zero. The denominator is not negative afterwards, the terms have nothing in common unless both are
zero, which changes nothing, and to reduce again negates and changes nothing. -/
theorem reduce_exact_unless_least_over_zero (r : Fraction) (calm : ¬ r.NegatesLeast) :
    ((∃ k, r.TakesOut r.reduce k) ↔ r ≠ ⟨Int32.minValue, 0⟩)
      ∧ 0 ≤ r.reduce.den.toInt
      ∧ (r ≠ ⟨0, 0⟩ → Int.gcd r.reduce.num.toInt r.reduce.den.toInt = 1)
      ∧ (r = ⟨0, 0⟩ → r.reduce = r)
      ∧ ¬ r.reduce.NegatesLeast ∧ r.reduce.reduce = r.reduce := by
  refine ⟨exists_takesOut_iff calm, ?_⟩
  by_cases zero : r = ⟨0, 0⟩
  · rw [zero, reduce_zero_over_zero, reduce_zero_over_zero]
    refine ⟨by decide, fun other => absurd rfl other, fun _ => rfl, ?_, rfl⟩
    rw [negatesLeast_iff]
    decide
  · have nonzero : r.content ≠ 0 := mt content_eq_zero_iff.mp zero
    have natural := den_reduce_nonneg nonzero calm
    have coprime := gcd_reduce nonzero calm
    refine ⟨natural, fun _ => coprime, fun same => absurd same zero, ?_,
      reduce_eq_self natural coprime⟩
    rw [negatesLeast_iff]
    rintro (⟨-, below, -⟩ | ⟨least, -⟩)
    · omega
    · rw [least] at natural
      exact absurd natural (by decide)

/-- The least word over itself, whose content is negative as a word, is one. -/
theorem least_over_least_exact :
    let r : Fraction := ⟨Int32.minValue, Int32.minValue⟩
    ¬ r.NegatesLeast ∧ (∃ k, r.TakesOut r.reduce k)
      ∧ Int.gcd r.reduce.num.toInt r.reduce.den.toInt = 1 ∧ r.reduce.reduce = r.reduce := by
  intro r
  have calm : ¬ r.NegatesLeast := by
    rw [negatesLeast_iff]
    decide
  obtain ⟨exact_iff, -, coprime, -, -, again⟩ := reduce_exact_unless_least_over_zero r calm
  exact ⟨calm, exact_iff.mpr (by decide), coprime (by decide), again⟩

/-- The least word over zero turns positive. -/
theorem least_over_zero_turns_positive :
    ¬ NegatesLeast ⟨Int32.minValue, 0⟩ ∧ reduce ⟨Int32.minValue, 0⟩ = ⟨1, 0⟩
      ∧ ¬ ∃ k, TakesOut ⟨Int32.minValue, 0⟩ (reduce ⟨Int32.minValue, 0⟩) k := by
  have calm : ¬ NegatesLeast ⟨Int32.minValue, 0⟩ := by
    rw [negatesLeast_iff]
    decide
  exact ⟨calm, reduce_least_over_zero, fun found => (exists_takesOut_iff calm).mp found rfl⟩

/-! ## A normal form -/

/-- **Normal form.** Two fractions that can be reduced in 32 bits, over denominators that are not
zero, are reduced to the same fraction exactly if they are equal as quotients. -/
theorem reduce_eq_iff_cross_mul_eq (p q : Fraction) (hp : ¬ p.NegatesLeast)
    (hq : ¬ q.NegatesLeast) (hp0 : p.den ≠ 0) (hq0 : q.den ≠ 0) :
    p.reduce = q.reduce ↔ p.num.toInt * q.den.toInt = q.num.toInt * p.den.toInt := by
  have someP : p.den.toInt ≠ 0 := fun zero => hp0 (Int32.toInt_inj.mp zero)
  have someQ : q.den.toInt ≠ 0 := fun zero => hq0 (Int32.toInt_inj.mp zero)
  have lowestP := isLowest_reduce someP hp
  have lowestQ := isLowest_reduce someQ hq
  constructor
  · intro same
    exact lowestP.cross_mul_eq (same ▸ lowestQ)
  · intro same
    exact lowestP.unique someP (lowestQ.congr someQ same)

/-- The least word over itself and minus seven over itself are one and the same, and not minus one
half. -/
theorem least_over_least_is_one :
    let p : Fraction := ⟨Int32.minValue, Int32.minValue⟩
    (¬ p.NegatesLeast ∧ ¬ NegatesLeast ⟨-7, -7⟩ ∧ ¬ NegatesLeast ⟨3, -6⟩)
      ∧ p.reduce = reduce ⟨-7, -7⟩ ∧ p.reduce ≠ reduce ⟨3, -6⟩ := by
  intro p
  have calm : ¬ p.NegatesLeast ∧ ¬ NegatesLeast ⟨-7, -7⟩ ∧ ¬ NegatesLeast ⟨3, -6⟩ := by
    rw [negatesLeast_iff, negatesLeast_iff, negatesLeast_iff]
    decide
  refine ⟨calm, ?_, fun same => ?_⟩
  · exact (reduce_eq_iff_cross_mul_eq p ⟨-7, -7⟩ calm.1 calm.2.1 (by decide) (by decide)).mpr
      (by decide)
  · have equal :=
      (reduce_eq_iff_cross_mul_eq p ⟨3, -6⟩ calm.1 calm.2.2 (by decide) (by decide)).mp same
    exact absurd equal (by decide)

end FrameIngest.Fraction
