/-
FrameIngest.Word — integers held in machine words, with the range checked.

Numbers in texts are exact integers until they are stored; storing one asks
whether it fits. The three 64-bit operations below answer `none` where the
machine's own operation would wrap.

* `int32?`, `int64?` — the word that holds an integer, if there is one;
* `abs?`, `mul?`, `add?` — 64-bit arithmetic that refuses to wrap;
* `magnitude`, `gcd` — the size of a word, and the greatest common divisor of
  two sizes.
-/

namespace FrameIngest.Word

/-- The signed 32-bit word of value `z`. -/
def int32? (z : Int) : Option Int32 :=
  if Int32.minValue.toInt ≤ z ∧ z ≤ Int32.maxValue.toInt then some (.ofInt z) else none

/-- The signed 64-bit word of value `z`. -/
def int64? (z : Int) : Option Int64 :=
  if Int64.minValue.toInt ≤ z ∧ z ≤ Int64.maxValue.toInt then some (.ofInt z) else none

/-- The unsigned 32-bit word of value `n`. -/
def uint32? (n : Nat) : Option UInt32 :=
  if n < UInt32.size then some (.ofNat n) else none

/-- The unsigned 64-bit word of value `n`. -/
def uint64? (n : Nat) : Option UInt64 :=
  if n < UInt64.size then some (.ofNat n) else none

/-- The magnitude of `a`, unless `a` is the least word. -/
def abs? (a : Int64) : Option Int64 := int64? a.toInt.natAbs

/-- The product, if it fits. -/
def mul? (a b : Int64) : Option Int64 := int64? (a.toInt * b.toInt)

/-- The sum, if it fits. -/
def add? (a b : Int64) : Option Int64 := int64? (a.toInt + b.toInt)

/-- The magnitude of `a` without a sign, which is a word for the least word too. -/
def magnitude (a : Int32) : UInt32 := .ofNat a.toInt.natAbs

/-- The greatest common divisor: the last remainder that is not zero. -/
def gcd (a b : UInt32) : UInt32 :=
  if b = 0 then a else gcd b (a % b)
termination_by b.toNat
decreasing_by
  rw [UInt32.toNat_mod]
  exact Nat.mod_lt _ (Nat.pos_of_ne_zero fun zero => ‹¬ b = 0› (UInt32.toNat_inj.mp zero))

/-! ## A word is the word of its own value -/

@[simp] theorem int32?_toInt (a : Int32) : int32? a.toInt = some a := by
  rw [int32?, if_pos ⟨a.minValue_le_toInt, a.toInt_le⟩, Int32.ofInt_toInt]

@[simp] theorem int64?_toInt (a : Int64) : int64? a.toInt = some a := by
  rw [int64?, if_pos ⟨a.minValue_le_toInt, a.toInt_le⟩, Int64.ofInt_toInt]

@[simp] theorem uint32?_toNat (a : UInt32) : uint32? a.toNat = some a := by
  rw [uint32?, if_pos a.toNat_lt_size, UInt32.ofNat_toNat]

@[simp] theorem uint64?_toNat (a : UInt64) : uint64? a.toNat = some a := by
  rw [uint64?, if_pos a.toNat_lt_size, UInt64.ofNat_toNat]

/-- A word found for `z` has value `z`. -/
theorem toInt_of_int32? {z : Int} {a : Int32} (h : int32? z = some a) : a.toInt = z := by
  simp only [int32?, Option.ite_none_right_eq_some, Option.some.injEq] at h
  obtain ⟨⟨lo, hi⟩, rfl⟩ := h
  exact Int32.toInt_ofInt_of_le lo (Int.lt_add_one_of_le hi)

/-- A word found for `z` has value `z`. -/
theorem toInt_of_int64? {z : Int} {a : Int64} (h : int64? z = some a) : a.toInt = z := by
  simp only [int64?, Option.ite_none_right_eq_some, Option.some.injEq] at h
  obtain ⟨⟨lo, hi⟩, rfl⟩ := h
  exact Int64.toInt_ofInt_of_le lo (Int.lt_add_one_of_le hi)

theorem int32?_eq_some_iff {z : Int} {a : Int32} : int32? z = some a ↔ a.toInt = z :=
  ⟨toInt_of_int32?, fun value => value ▸ int32?_toInt a⟩

theorem int64?_eq_some_iff {z : Int} {a : Int64} : int64? z = some a ↔ a.toInt = z :=
  ⟨toInt_of_int64?, fun value => value ▸ int64?_toInt a⟩

/-- Every integer in the range is the value of a word. -/
theorem exists_int64_of_le {z : Int} (lo : Int64.minValue.toInt ≤ z)
    (hi : z ≤ Int64.maxValue.toInt) : ∃ a : Int64, a.toInt = z :=
  ⟨.ofInt z, Int64.toInt_ofInt_of_le lo (Int.lt_add_one_of_le hi)⟩

/-! ## Magnitudes and their divisors -/

/-- The least word has the greatest magnitude. -/
theorem natAbs_toInt_le (a : Int32) : a.toInt.natAbs ≤ Int32.minValue.toInt.natAbs := by
  have value : Int32.minValue.toInt = -2147483648 := rfl
  have least := a.le_toInt
  have most := a.toInt_lt
  omega

theorem toNat_magnitude (a : Int32) : (magnitude a).toNat = a.toInt.natAbs :=
  UInt32.toNat_ofNat_of_lt (Nat.lt_of_le_of_lt (natAbs_toInt_le a) (by decide))

/-- The loop ends with the divisor that the words have as numbers. -/
theorem toNat_gcd (a b : UInt32) : (gcd a b).toNat = Nat.gcd a.toNat b.toNat := by
  fun_induction gcd a b with
  | case1 a => simp
  | case2 a b _ ih =>
    calc (gcd b (a % b)).toNat
        = Nat.gcd b.toNat (a.toNat % b.toNat) := by rw [ih, UInt32.toNat_mod]
      _ = Nat.gcd b.toNat a.toNat := by rw [Nat.gcd_comm, ← Nat.gcd_rec]
      _ = Nat.gcd a.toNat b.toNat := Nat.gcd_comm _ _

end FrameIngest.Word
