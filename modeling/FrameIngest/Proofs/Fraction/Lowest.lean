/-
FrameIngest.Proofs.Fraction.Lowest — lowest terms, in exact arithmetic.

Reducing a fraction divides its terms by their content, which is held in a
word of 32 bits. The word of the content `2 ^ 31` is negative, but every word
divides its terms exactly, so the terms are the divisor times the quotients.
Where the denominator comes out negative both quotients are negated, and that
is exact too unless one of them is the least word.

* `IsLowest`, `IsLowest.unique` — the value of a quotient in lowest terms, which
  is one fraction (and one for equal quotients, `IsLowest.congr`);
* `NegatesLeast` — where reducing negates the word that has no negative;
* `factor`, `eq_factor_mul_reduce` — what reducing takes out of both terms;
* `isLowest_reduce` — a fraction whose denominator is not zero is reduced.
-/
import FrameIngest.Fraction
import Mathlib.Data.Rat.Lemmas

namespace FrameIngest.Fraction

/-- The value `n / d`, in lowest terms over a positive denominator. -/
structure IsLowest (r : Fraction) (n d : Int) : Prop where
  value_eq : r.num.toInt * d = n * r.den.toInt
  den_pos : 0 < r.den.toInt
  coprime : Int.gcd r.num.toInt r.den.toInt = 1

/-- A value has one fraction in lowest terms. -/
theorem IsLowest.unique {r q : Fraction} {n d : Int} (nonzero : d ≠ 0) (hr : r.IsLowest n d)
    (hq : q.IsLowest n d) : r = q := by
  have quotient {a : Fraction} (h : a.IsLowest n d) :
      (a.num.toInt : Rat) / a.den.toInt = n / d := by
    have den : (a.den.toInt : Rat) ≠ 0 := by exact_mod_cast h.den_pos.ne'
    rw [div_eq_div_iff den (by exact_mod_cast nonzero)]
    exact_mod_cast h.value_eq
  obtain ⟨num, den⟩ := Rat.div_int_inj hr.den_pos hq.den_pos hr.coprime hq.coprime
    ((quotient hr).trans (quotient hq).symm)
  cases r
  cases q
  exact congrArg₂ Fraction.mk (Int32.toInt_inj.mp num) (Int32.toInt_inj.mp den)

/-- Fractions that are equal as quotients have the same lowest terms. -/
theorem IsLowest.congr {r : Fraction} {n d n' d' : Int} (nonzero : d' ≠ 0) (same : n * d' = n' * d)
    (lowest : r.IsLowest n' d') : r.IsLowest n d where
  value_eq := by
    refine Int.eq_of_mul_eq_mul_right nonzero ?_
    calc r.num.toInt * d * d'
        = r.num.toInt * d' * d := mul_right_comm ..
      _ = n' * d * r.den.toInt := by rw [lowest.value_eq, mul_right_comm]
      _ = n * r.den.toInt * d' := by rw [← same, mul_right_comm]
  den_pos := lowest.den_pos
  coprime := lowest.coprime

/-- What has the same lowest terms is equal as a quotient. -/
theorem IsLowest.cross_mul_eq {r : Fraction} {n d n' d' : Int} (lowest : r.IsLowest n d)
    (lowest' : r.IsLowest n' d') : n * d' = n' * d := by
  refine Int.eq_of_mul_eq_mul_right lowest.den_pos.ne' ?_
  calc n * d' * r.den.toInt
      = r.num.toInt * d * d' := by rw [mul_right_comm, ← lowest.value_eq]
    _ = r.num.toInt * d' * d := mul_right_comm ..
    _ = n' * d * r.den.toInt := by rw [lowest'.value_eq, mul_right_comm]

variable {r : Fraction}

/-! ## The content -/

theorem content_eq_gcd (r : Fraction) : r.content = Int.gcd r.num.toInt r.den.toInt := by
  rw [content, Word.toNat_gcd, Word.toNat_magnitude, Word.toNat_magnitude]
  rfl

theorem content_dvd_num (r : Fraction) : (r.content : Int) ∣ r.num.toInt := by
  rw [content_eq_gcd]
  exact Int.gcd_dvd_left ..

theorem content_dvd_den (r : Fraction) : (r.content : Int) ∣ r.den.toInt := by
  rw [content_eq_gcd]
  exact Int.gcd_dvd_right ..

theorem content_eq_zero_iff : r.content = 0 ↔ r = ⟨0, 0⟩ := by
  rw [content_eq_gcd, Int.gcd_eq_zero_iff]
  constructor
  · rintro ⟨num, den⟩
    cases r
    exact congrArg₂ Fraction.mk (Int32.toInt_inj.mp num) (Int32.toInt_inj.mp den)
  · rintro rfl
    exact ⟨rfl, rfl⟩

theorem content_ne_zero_of_den (den_ne : r.den.toInt ≠ 0) : r.content ≠ 0 := by
  intro zero
  rw [content_eq_zero_iff.mp zero] at den_ne
  exact den_ne rfl

theorem content_le (r : Fraction) : r.content ≤ 2 ^ 31 := by
  rw [content_eq_gcd]
  by_cases zero : r.num.toInt = 0
  · rw [zero, Int.gcd_zero_left]
    exact Word.natAbs_toInt_le r.den
  · exact (Int.gcd_le_natAbs_left _ zero).trans (Word.natAbs_toInt_le r.num)

/-! ## The divisor -/

/-- The content as a word, which reducing divides the terms by. -/
def divisor (r : Fraction) : Int32 := .ofNat r.content

theorem toInt_divisor (small : r.content < 2 ^ 31) : r.divisor.toInt = r.content :=
  Int32.toInt_ofNat_of_lt small

/-- The largest content wraps around. -/
theorem divisor_of_large (large : r.content = 2 ^ 31) : r.divisor = Int32.minValue := by
  rw [divisor, large]
  rfl

theorem natAbs_toInt_divisor (r : Fraction) : r.divisor.toInt.natAbs = r.content := by
  rcases Nat.lt_or_eq_of_le r.content_le with small | large
  · rw [toInt_divisor small, Int.natAbs_natCast]
  · rw [divisor_of_large large, large]
    rfl

theorem divisor_ne_neg_one (r : Fraction) : r.divisor ≠ -1 := by
  intro same
  rcases Nat.lt_or_eq_of_le r.content_le with small | large
  · have value := toInt_divisor small
    rw [same, show (-1 : Int32).toInt = -1 from rfl] at value
    omega
  · rw [divisor_of_large large] at same
    cases same

/-- A word that the content divides is the divisor times the quotient, also where the divisor is
the least word. -/
theorem toInt_eq_divisor_mul {a : Int32} (parts : (r.content : Int) ∣ a.toInt) :
    a.toInt = r.divisor.toInt * (a / r.divisor).toInt := by
  rw [← natAbs_toInt_divisor, Int.natAbs_dvd] at parts
  rw [Int32.toInt_div_of_ne_right _ _ r.divisor_ne_neg_one, Int.mul_tdiv_cancel' parts]

/-! ## The word that has no negative -/

/-- Reducing negates a term that is the least word, whose negative is no word. -/
def NegatesLeast (r : Fraction) : Prop :=
  r.content ≠ 0 ∧ r.den / r.divisor < 0
    ∧ (r.num / r.divisor = Int32.minValue ∨ r.den / r.divisor = Int32.minValue)

/-- Every other word has a negative. -/
theorem toInt_neg_of_ne_minValue {a : Int32} (other : a ≠ Int32.minValue) :
    (-a).toInt = -a.toInt := by
  have least : Int32.minValue.toInt = -2 ^ 31 := rfl
  have lower : Int32.minValue.toInt < a.toInt :=
    lt_of_le_of_ne a.minValue_le_toInt fun same => other (Int32.toInt_inj.mp same.symm)
  have upper := a.toInt_lt
  rw [Int32.toInt_neg]
  exact Int.bmod_eq_of_le (by omega) (by omega)

/-! ## What reducing takes out -/

/-- The divisor, negated where the denominator comes out negative. -/
def factor (r : Fraction) : Int :=
  if r.den / r.divisor < 0 then -r.divisor.toInt else r.divisor.toInt

theorem natAbs_factor (r : Fraction) : r.factor.natAbs = r.content := by
  unfold factor
  split
  · rw [Int.natAbs_neg, natAbs_toInt_divisor]
  · exact natAbs_toInt_divisor r

theorem reduce_of_neg (nonzero : r.content ≠ 0) (below : r.den / r.divisor < 0) :
    r.reduce = ⟨-(r.num / r.divisor), -(r.den / r.divisor)⟩ :=
  (if_neg nonzero).trans (if_pos below)

theorem reduce_of_not_neg (nonzero : r.content ≠ 0) (above : ¬ r.den / r.divisor < 0) :
    r.reduce = ⟨r.num / r.divisor, r.den / r.divisor⟩ :=
  (if_neg nonzero).trans (if_neg above)

section Exact

variable (nonzero : r.content ≠ 0) (calm : ¬ r.NegatesLeast)

include nonzero calm

/-- Both terms are the factor times what is left of them. -/
theorem eq_factor_mul_reduce :
    r.num.toInt = r.factor * r.reduce.num.toInt ∧ r.den.toInt = r.factor * r.reduce.den.toInt := by
  have num := toInt_eq_divisor_mul r.content_dvd_num
  have den := toInt_eq_divisor_mul r.content_dvd_den
  by_cases below : r.den / r.divisor < 0
  · have least : ¬ (r.num / r.divisor = Int32.minValue ∨ r.den / r.divisor = Int32.minValue) :=
      fun either => calm ⟨nonzero, below, either⟩
    obtain ⟨num_ne, den_ne⟩ := not_or.mp least
    rw [reduce_of_neg nonzero below, factor, if_pos below, toInt_neg_of_ne_minValue num_ne,
      toInt_neg_of_ne_minValue den_ne, Int.neg_mul_neg, Int.neg_mul_neg]
    exact ⟨num, den⟩
  · rw [reduce_of_not_neg nonzero below, factor, if_neg below]
    exact ⟨num, den⟩

theorem den_reduce_nonneg : 0 ≤ r.reduce.den.toInt := by
  by_cases below : r.den / r.divisor < 0
  · have den_ne : r.den / r.divisor ≠ Int32.minValue := fun same => calm ⟨nonzero, below, .inr same⟩
    have negative : (r.den / r.divisor).toInt < 0 := Int32.lt_iff_toInt_lt.mp below
    rw [reduce_of_neg nonzero below, toInt_neg_of_ne_minValue den_ne]
    omega
  · rw [reduce_of_not_neg nonzero below]
    exact not_lt.mp fun negative => below (Int32.lt_iff_toInt_lt.mpr negative)

/-- Nothing in common is left of the terms: it would be part of the content. -/
theorem gcd_reduce : Int.gcd r.reduce.num.toInt r.reduce.den.toInt = 1 := by
  obtain ⟨num, den⟩ := eq_factor_mul_reduce nonzero calm
  have content := content_eq_gcd r
  rw [num, den, Int.gcd_mul_left, natAbs_factor] at content
  exact Nat.eq_of_mul_eq_mul_left (Nat.pos_of_ne_zero nonzero) (content.symm.trans (mul_one _).symm)

end Exact

/-- Over a denominator that is not zero, reducing gives lowest terms. -/
theorem isLowest_reduce (den_ne : r.den.toInt ≠ 0) (calm : ¬ r.NegatesLeast) :
    r.reduce.IsLowest r.num.toInt r.den.toInt := by
  have content := content_ne_zero_of_den den_ne
  obtain ⟨num, den⟩ := eq_factor_mul_reduce content calm
  refine ⟨?_, ?_, gcd_reduce content calm⟩
  · calc r.reduce.num.toInt * r.den.toInt
        = r.reduce.num.toInt * (r.factor * r.reduce.den.toInt) := by rw [← den]
      _ = r.factor * r.reduce.num.toInt * r.reduce.den.toInt := by rw [mul_left_comm, mul_assoc]
      _ = r.num.toInt * r.reduce.den.toInt := by rw [← num]
  · refine lt_of_le_of_ne (den_reduce_nonneg content calm) fun zero => den_ne ?_
    rw [den, ← zero, mul_zero]

/-- A denominator above zero comes out above zero, and then nothing is negated. -/
theorem not_negatesLeast_of_den_pos (above : 0 < r.den.toInt) : ¬ r.NegatesLeast := by
  rintro ⟨-, below, -⟩
  have small : r.content < 2 ^ 31 := by
    rw [content_eq_gcd]
    have word := r.den.toInt_lt
    exact lt_of_le_of_lt (Int.gcd_le_natAbs_right _ above.ne') (by omega)
  have den := toInt_eq_divisor_mul r.content_dvd_den
  rw [toInt_divisor small] at den
  have negative : (r.den / r.divisor).toInt < 0 := Int32.lt_iff_toInt_lt.mp below
  have product := Int.mul_nonpos_of_nonneg_of_nonpos (Int.natCast_nonneg r.content) negative.le
  omega

end FrameIngest.Fraction
