/-
FrameIngest.Text.Numeral — writing and reading integers.

A numeral is an optional sign and at least one ASCII digit; leading zeros are
free. An unsigned numeral may carry a `+` but no `-`, not even before a zero.
A numeral whose value does not fit its word is no numeral of that word.

* `natural?` — the value of a string of digits, in a base up to sixteen;
* `unsigned?`, `signed?` — the same with a sign;
* `readUInt32`, `readUInt64`, `readInt32`, `readInt64`, `readHex` — with the
  range of the word;
* `decimal`, `signedDecimal`, `hexadecimal` — the canonical numerals.
-/
import FrameIngest.Word

namespace FrameIngest.Text

/-! ## Writing -/

/-- The decimal digits of `n`, without leading zeros. -/
def decimal (n : Nat) : List Char := Nat.toDigits 10 n

/-- The decimal digits of the magnitude of `z`, after a minus if `z` is negative. -/
def signedDecimal (z : Int) : List Char :=
  if z < 0 then '-' :: decimal z.natAbs else decimal z.natAbs

/-- `0x` and the lowercase hexadecimal digits of `n`. -/
def hexadecimal (n : Nat) : List Char := '0' :: 'x' :: Nat.toDigits 16 n

/-! ## Reading -/

/-- The value of `c` as a digit of `base`, at most sixteen; letters count in either case. -/
def digit? (base : Nat) (c : Char) : Option Nat :=
  let value :=
    if c.isDigit then c.toNat - '0'.toNat
    else if 'a' ≤ c ∧ c ≤ 'f' then c.toNat - 'a'.toNat + 10
    else if 'A' ≤ c ∧ c ≤ 'F' then c.toNat - 'A'.toNat + 10
    else base
  if value < base then some value else none

/-- The number that the digits `s` write on after the number `n`. -/
def extend? (base : Nat) (n : Nat) (s : List Char) : Option Nat :=
  s.foldlM (fun n c => (digit? base c).map (base * n + ·)) n

/-- The number written by `s`, which holds at least one digit and nothing else. -/
def natural? (base : Nat) (s : List Char) : Option Nat :=
  if s.isEmpty then none else extend? base 0 s

/-- A natural number after an optional plus. -/
def unsigned? (base : Nat) : List Char → Option Nat
  | '+' :: s => natural? base s
  | s => natural? base s

/-- A natural number after an optional sign. -/
def signed? : List Char → Option Int
  | '-' :: s => (natural? 10 s).map fun n => -(n : Int)
  | s => (unsigned? 10 s).map fun n => (n : Int)

def readUInt32 (s : List Char) : Option UInt32 := (unsigned? 10 s).bind Word.uint32?

def readUInt64 (s : List Char) : Option UInt64 := (unsigned? 10 s).bind Word.uint64?

/-- An unsigned 64-bit number in hexadecimal, without its `0x`. -/
def readHex (s : List Char) : Option UInt64 := (unsigned? 16 s).bind Word.uint64?

def readInt32 (s : List Char) : Option Int32 := (signed? s).bind Word.int32?

def readInt64 (s : List Char) : Option Int64 := (signed? s).bind Word.int64?

/-! ## The value of a string of digits -/

@[simp] theorem extend?_nil (base n : Nat) : extend? base n [] = some n := rfl

theorem extend?_cons (base n : Nat) (c : Char) (s : List Char) :
    extend? base n (c :: s)
      = (digit? base c).bind fun d => extend? base (base * n + d) s := by
  simp only [extend?, List.foldlM_cons]
  cases digit? base c <;> rfl

theorem extend?_append (base n : Nat) (s t : List Char) :
    extend? base n (s ++ t) = (extend? base n s).bind fun m => extend? base m t := by
  simp only [extend?, List.foldlM_append]
  rfl

/-! ## Reading what is written -/

theorem digit?_digitChar {base d : Nat} (small : base ≤ 16) (h : d < base) :
    digit? base d.digitChar = some d := by
  have all : ∀ d < 16, ∀ base ≤ 16, d < base → digit? base d.digitChar = some d := by decide
  exact all d (by omega) base small h

theorem extend?_toDigits {base : Nat} (large : 1 < base) (small : base ≤ 16) (n : Nat) :
    extend? base 0 (Nat.toDigits base n) = some n := by
  induction n using Nat.strongRecOn with
  | ind n ih =>
    rw [Nat.toDigits_eq_if large]
    split
    · next h => simp [extend?_cons, digit?_digitChar small h]
    · next h =>
      have shorter : n / base < n := Nat.div_lt_self (by omega) large
      have last : n % base < base := Nat.mod_lt n (by omega)
      rw [extend?_append, ih _ shorter]
      simp [extend?_cons, digit?_digitChar small last, Nat.div_add_mod]

theorem natural?_toDigits {base : Nat} (large : 1 < base) (small : base ≤ 16) (n : Nat) :
    natural? base (Nat.toDigits base n) = some n := by
  simp [natural?, Nat.toDigits_ne_nil, extend?_toDigits large small]

end FrameIngest.Text
