/-
FrameIngest.Proofs.Fraction.Grammar — which texts are fractions, and which.

The three notations exclude each other: only the first holds a bar, and of the
others only the decimals hold a point. So the order in which they are tried
does not matter, and a text is read exactly if one of them writes it, as the
fraction of that value (`read?_eq_some_iff`).

A decimal is read in words of 64 bits. Some of the steps ask whether the result
fits, and a text for which it does not has a value far out of range. The other
steps never leave their word (`ExactSteps`).

* `IsWhole`, `withSign`, `IsScaled` — a decimal without its point, as an integer;
* `Writes` — the three notations and their values;
* `magnitude?` — a decimal without its point and its sign, as a word;
* `parse_ok_iff_writes` — what is read from a text between blanks.
-/
import FrameIngest.Proofs.Fraction.Lowest
import FrameIngest.Proofs.Fraction.Written
import FrameIngest.Proofs.Text.Literal

namespace FrameIngest.Fraction

open Text

/-! ## The notations -/

/-- The text before the point of a decimal, and its value on its own. -/
inductive IsWhole : List Char → Int → Prop where
  | nothing : IsWhole [] 0
  | minus : IsWhole ['-'] 0
  | literal {s : List Char} {z : Int} (h : IsLiteral s z) : IsWhole s z

/-- The integer `n`, negated if the text starts with a minus. -/
def withSign (s : List Char) (n : Int) : Int := if s.head? = some '-' then -n else n

/-- The decimal `whole.places` comes to `z` when its point is taken out. A minus in front counts
for the places too, also where it stands before a zero or before nothing. -/
def IsScaled (whole places : List Char) (z : Int) : Prop :=
  ∃ w, IsWhole whole w ∧ z = withSign whole (w.natAbs * 10 ^ places.length + number places)

/-- The text writes the fraction: as two integers between blanks around the first bar, as one
integer, or as a decimal whose digits fit a term, in lowest terms. -/
inductive Writes : List Char → Fraction → Prop where
  | terms {num den : List Char} {bar : Char} {r : Fraction} (first : '/' ∉ num ∧ ':' ∉ num)
      (between : bar = '/' ∨ bar = ':') (above : IsLiteral (trim num) r.num.toInt)
      (below : IsLiteral (trim den) r.den.toInt) : Writes (num ++ bar :: den) r
  | integer {s : List Char} {n : Int32} (h : IsLiteral s n.toInt) : Writes s ⟨n, 1⟩
  | decimal {whole places : List Char} {n : Int32} {r : Fraction} (digits : IsPlaces places)
      (scaled : IsScaled whole places n.toInt) (lowest : r.IsLowest n.toInt (10 ^ places.length)) :
      Writes (whole ++ '.' :: places) r

variable {s whole places : List Char}

/-! ## Marks -/

theorem isBar_of_digit {c : Char} (digit : c.isDigit = true) : isBar c = false := by
  refine Bool.eq_false_iff.mpr fun bar => ?_
  rcases isBar_iff.mp bar with rfl | rfl <;> cases digit

theorem IsWhole.digit_or_sign {z : Int} (h : IsWhole s z) :
    ∀ c ∈ s, c.isDigit = true ∨ c = '+' ∨ c = '-' := by
  cases h with
  | nothing => exact nofun
  | minus => simp
  | literal h => exact h.digit_or_sign

/-- There is neither a bar nor a point among digits and signs. -/
theorem no_mark_of_digit_or_sign {c : Char} (h : c.isDigit = true ∨ c = '+' ∨ c = '-') :
    isBar c = false ∧ c ≠ '.' := by
  rcases h with digit | rfl | rfl
  · refine ⟨isBar_of_digit digit, ?_⟩
    rintro rfl
    cases digit
  · decide
  · decide

theorem IsWhole.noPoint {z : Int} (h : IsWhole s z) : ∀ c ∈ s, (c == '.') = false :=
  fun c among => beq_eq_false_iff_ne.mpr (no_mark_of_digit_or_sign (h.digit_or_sign c among)).2

/-! ## Decimals in words -/

theorem wholePart?_eq_some_iff {w : Int64} : wholePart? s = some w ↔ IsWhole s w.toInt := by
  unfold wholePart?
  constructor
  · intro read
    split at read
    · next bare =>
      cases read
      rcases bare with rfl | rfl
      · exact .nothing
      · exact .minus
    · exact .literal (readInt64_eq_some_iff.mp read)
  · generalize value : w.toInt = z
    intro h
    cases h with
    | nothing => exact congrArg some (Int64.toInt_inj.mp value.symm)
    | minus => exact congrArg some (Int64.toInt_inj.mp value.symm)
    | literal h =>
      have read : readInt64 s = some w := readInt64_eq_some_iff.mpr (value ▸ h)
      rw [if_neg, read]
      rintro (rfl | rfl) <;> cases read

/-- The digits of a decimal as one word, without the sign. -/
def magnitude? (whole places : List Char) : Option Int64 := do
  let w ← wholePart? whole
  let f ← readInt64 places
  Word.add? (← Word.mul? (← Word.abs? w) (.ofNat (Nat.pow 10 places.length))) f

theorem scaled?_eq : scaled? whole places
    = (magnitude? whole places).map fun m => if whole.head? = some '-' then -m else m := by
  simp only [scaled?, magnitude?, Option.bind_eq_bind, Option.map_bind, Function.comp_def]
  simp only [Option.map_eq_bind]
  rfl

theorem IsPlaces.isDigits (h : IsPlaces places) : IsDigits places := ⟨h.1, h.2.2⟩

/-- Six places are few: the power of ten fits both words. -/
theorem IsPlaces.pow_le (h : IsPlaces places) : Nat.pow 10 places.length ≤ 1000000 :=
  Nat.pow_le_pow_right (by decide) h.2.1

theorem IsPlaces.toInt_scale (h : IsPlaces places) :
    (Int64.ofNat (Nat.pow 10 places.length)).toInt = 10 ^ places.length := by
  have few := h.pow_le
  rw [Int64.toInt_ofNat_of_lt (by omega)]
  exact Int.natCast_pow 10 _

theorem IsPlaces.toInt_den (h : IsPlaces places) :
    (Int32.ofNat (Nat.pow 10 places.length)).toInt = 10 ^ places.length := by
  have few := h.pow_le
  rw [Int32.toInt_ofNat_of_lt (by omega)]
  exact Int.natCast_pow 10 _

theorem magnitude?_eq_some_iff (digits : IsPlaces places) {m : Int64} :
    magnitude? whole places = some m
      ↔ ∃ w, IsWhole whole w ∧ m.toInt = w.natAbs * 10 ^ places.length + number places := by
  simp only [magnitude?, Option.bind_eq_bind, Option.bind_eq_some_iff, wholePart?_eq_some_iff,
    readInt64_eq_some_iff, digits.isDigits.isLiteral_iff, Word.abs?, Word.mul?, Word.add?,
    Word.int64?_eq_some_iff, digits.toInt_scale]
  constructor
  · rintro ⟨w, isWhole, f, frac, a, abs, p, product, sum⟩
    exact ⟨w.toInt, isWhole, by rw [sum, product, abs, frac]⟩
  -- no word on the way is above the last one: scaling and adding the places only make it larger
  · rintro ⟨w, isWhole, total⟩
    have least : Int64.minValue.toInt = -Int64.maxValue.toInt - 1 := rfl
    have most := m.toInt_le
    have grown : (w.natAbs : Int) ≤ w.natAbs * 10 ^ places.length := by
      exact_mod_cast Nat.le_mul_of_pos_right w.natAbs (Nat.pow_pos (by decide))
    obtain ⟨w', isWord⟩ : ∃ a : Int64, a.toInt = w := Word.exists_int64_of_le (by omega) (by omega)
    obtain ⟨f, frac⟩ : ∃ a : Int64, a.toInt = number places :=
      Word.exists_int64_of_le (by omega) (by omega)
    obtain ⟨a, abs⟩ : ∃ a : Int64, a.toInt = w.natAbs :=
      Word.exists_int64_of_le (by omega) (by omega)
    obtain ⟨p, product⟩ : ∃ a : Int64, a.toInt = w.natAbs * 10 ^ places.length :=
      Word.exists_int64_of_le (by omega) (by omega)
    exact ⟨w', isWord ▸ isWhole, f, frac, a, isWord ▸ abs, p, abs ▸ product, by
      rw [product, frac, total]⟩

/-- A magnitude is no negative word, so its negative is a word. -/
theorem toInt_neg_of_magnitude? (digits : IsPlaces places) {m : Int64}
    (read : magnitude? whole places = some m) : (-m).toInt = -m.toInt := by
  obtain ⟨w, -, total⟩ := (magnitude?_eq_some_iff digits).mp read
  have natural : 0 ≤ m.toInt := by
    rw [total]
    exact_mod_cast Nat.zero_le _
  have most := m.toInt_lt
  rw [Int64.toInt_neg]
  exact Int.bmod_eq_of_le (by omega) (by omega)

theorem toInt_sign_of_magnitude? (digits : IsPlaces places) {m : Int64}
    (read : magnitude? whole places = some m) :
    (if whole.head? = some '-' then -m else m).toInt = withSign whole m.toInt := by
  unfold withSign
  split
  · exact toInt_neg_of_magnitude? digits read
  · rfl

/-- The words come to the integer that the decimal writes. The least word is set apart because
its magnitude is not a word. -/
theorem scaled?_eq_some_iff (digits : IsPlaces places) {n : Int64}
    (above : Int64.minValue.toInt < n.toInt) :
    scaled? whole places = some n ↔ IsScaled whole places n.toInt := by
  rw [scaled?_eq, Option.map_eq_some_iff]
  constructor
  · rintro ⟨m, read, rfl⟩
    obtain ⟨w, isWhole, total⟩ := (magnitude?_eq_some_iff digits).mp read
    exact ⟨w, isWhole, total ▸ toInt_sign_of_magnitude? digits read⟩
  · rintro ⟨w, isWhole, total⟩
    have least : Int64.minValue.toInt = -Int64.maxValue.toInt - 1 := rfl
    have most := n.toInt_le
    obtain ⟨m, value⟩ :
        ∃ m : Int64, m.toInt = w.natAbs * 10 ^ places.length + number places := by
      have natural : (0 : Int) ≤ w.natAbs * 10 ^ places.length + number places := by
        exact_mod_cast Nat.zero_le _
      unfold withSign at total
      apply Word.exists_int64_of_le
      · omega
      · split at total <;> omega
    have read := (magnitude?_eq_some_iff digits).mpr ⟨w, isWhole, value⟩
    refine ⟨m, read, Int64.toInt_inj.mp ?_⟩
    rw [toInt_sign_of_magnitude? digits read, total, value]

/-! ## Reading -/

theorem IsPlaces.den_pos (digits : IsPlaces places) :
    0 < (Int32.ofNat (Nat.pow 10 places.length)).toInt := by
  rw [digits.toInt_den]
  exact_mod_cast Nat.pow_pos (by decide)

theorem IsPlaces.isLowest_reduce (digits : IsPlaces places) (n : Int32) :
    (reduce ⟨n, .ofNat (Nat.pow 10 places.length)⟩).IsLowest n.toInt (10 ^ places.length) := by
  have lowest := Fraction.isLowest_reduce (r := ⟨n, .ofNat (Nat.pow 10 places.length)⟩)
    digits.den_pos.ne' (not_negatesLeast_of_den_pos digits.den_pos)
  rwa [digits.toInt_den] at lowest

/-- Reducing is the only way to lowest terms. -/
theorem IsPlaces.reduce_eq_iff (digits : IsPlaces places) {n : Int32} {r : Fraction} :
    reduce ⟨n, .ofNat (Nat.pow 10 places.length)⟩ = r
      ↔ r.IsLowest n.toInt (10 ^ places.length) := by
  have above := digits.den_pos
  rw [digits.toInt_den] at above
  exact ⟨fun reduced => reduced ▸ digits.isLowest_reduce n,
    (digits.isLowest_reduce n).unique above.ne'⟩

theorem ofDecimal?_of_cut (digits : IsPlaces places)
    (parts : cut (· == '.') s = some (whole, places)) {r : Fraction} :
    ofDecimal? s = some r
      ↔ ∃ n : Int32, IsScaled whole places n.toInt ∧ r.IsLowest n.toInt (10 ^ places.length) := by
  simp only [ofDecimal?, parts, Option.bind_eq_bind, Option.bind_some, if_pos digits,
    Option.bind_eq_some_iff, Option.pure_def, Option.some.injEq, digits.reduce_eq_iff,
    Word.int32?_eq_some_iff]
  constructor
  · rintro ⟨m, scaled, n, value, lowest⟩
    have above : Int64.minValue.toInt < m.toInt :=
      value ▸ Int.lt_of_lt_of_le (by decide) n.minValue_le_toInt
    exact ⟨n, value ▸ (scaled?_eq_some_iff digits above).mp scaled, lowest⟩
  · rintro ⟨n, scaled, lowest⟩
    have value : n.toInt64.toInt = n.toInt := Int32.toInt_toInt64 n
    have above : Int64.minValue.toInt < n.toInt64.toInt :=
      value ▸ Int.lt_of_lt_of_le (by decide) n.minValue_le_toInt
    exact ⟨n.toInt64, (scaled?_eq_some_iff digits above).mpr (value ▸ scaled), n, value.symm,
      lowest⟩

theorem ofDecimal?_eq_some_iff {r : Fraction} :
    ofDecimal? s = some r ↔ ∃ whole places, s = whole ++ '.' :: places ∧ IsPlaces places
      ∧ ∃ n : Int32, IsScaled whole places n.toInt
        ∧ r.IsLowest n.toInt (10 ^ places.length) := by
  constructor
  · intro read
    obtain ⟨⟨whole, places⟩, parts, rest⟩ := Option.bind_eq_some_iff.mp read
    by_cases digits : IsPlaces places
    · obtain ⟨c, -, point, rfl⟩ := cut_eq_some_iff.mp parts
      obtain rfl : c = '.' := by simpa using point
      exact ⟨whole, places, rfl, digits, (ofDecimal?_of_cut digits parts).mp read⟩
    · simp [digits] at rest
  · rintro ⟨whole, places, rfl, digits, n, scaled, lowest⟩
    obtain ⟨w, isWhole, -⟩ := id scaled
    exact (ofDecimal?_of_cut digits (cut_append_cons isWhole.noPoint rfl places)).mpr
      ⟨n, scaled, lowest⟩

/-- What is read is written in one of the notations. -/
theorem writes_of_read? {r : Fraction} (read : read? s = some r) : Writes s r := by
  cases parts : cut isBar s with
  | some pair =>
    obtain ⟨num, den⟩ := pair
    obtain ⟨bar, before, between, rfl⟩ := cut_eq_some_iff.mp parts
    rw [read?_of_bar between before, ofTerms?_eq_some_iff, readInt32_eq_some_iff,
      readInt32_eq_some_iff] at read
    exact .terms (forall_isBar_iff.mp before) (isBar_iff.mp between) read.1 read.2
  | none =>
    simp only [read?, parts] at read
    cases integer : readInt32 s with
    | some n =>
      simp only [integer, Option.some.injEq] at read
      exact read ▸ .integer (readInt32_eq_some_iff.mp integer)
    | none =>
      simp only [integer] at read
      obtain ⟨whole, places, rfl, digits, n, scaled, lowest⟩ := ofDecimal?_eq_some_iff.mp read
      exact .decimal digits scaled lowest

/-- Each notation is read as what it writes; no earlier one takes its texts. -/
theorem read?_of_writes {r : Fraction} (writes : Writes s r) : read? s = some r := by
  cases writes with
  | terms first between above below =>
    rw [read?_of_bar (isBar_iff.mpr between) (forall_isBar_iff.mpr first), ofTerms?_eq_some_iff,
      readInt32_eq_some_iff, readInt32_eq_some_iff]
    exact ⟨above, below⟩
  | integer h =>
    have noBar : cut isBar s = none := cut_eq_none_iff.mpr fun c among =>
      (no_mark_of_digit_or_sign (h.digit_or_sign c among)).1
    simp only [read?, noBar, readInt32_eq_some_iff.mpr h]
  | @decimal whole places n _ digits scaled lowest =>
    obtain ⟨w, isWhole, -⟩ := id scaled
    have noBar : cut isBar (whole ++ '.' :: places) = none := by
      refine cut_eq_none_iff.mpr fun c among => ?_
      rcases List.mem_append.mp among with first | rest
      · exact (no_mark_of_digit_or_sign (isWhole.digit_or_sign c first)).1
      · rcases List.mem_cons.mp rest with rfl | last
        · rfl
        · exact isBar_of_digit (digits.2.2 c last)
    -- an integer holds no point
    have noInteger : readInt32 (whole ++ '.' :: places) = none :=
      readInt32_eq_none (c := '.') (by decide) (by decide) (by decide) (by simp)
    simp only [read?, noBar, noInteger]
    exact ofDecimal?_eq_some_iff.mpr ⟨whole, places, rfl, digits, n, scaled, lowest⟩

theorem read?_eq_some_iff {r : Fraction} : read? s = some r ↔ Writes s r :=
  ⟨writes_of_read?, read?_of_writes⟩

theorem parse_eq_ok_iff {text : String} {r : Fraction} :
    parse text = .ok r ↔ read? (trim text.toList) = some r := by
  cases read : read? (trim text.toList) <;> simp [parse, read]

theorem parse_of_read?_eq_none {text : String} (h : read? (trim text.toList) = none) :
    parse text = .error (.fraction (String.ofList (trim text.toList))) := by
  simp only [parse, h]

/-- Reading the decimal `whole.places` leaves no word where nothing asks whether it does: the
power of ten is exact in both widths, putting the sign back negates a magnitude, and reducing the
result never negates the least word. -/
structure ExactSteps (whole places : List Char) : Prop where
  scale : (Int64.ofNat (Nat.pow 10 places.length)).toInt = 10 ^ places.length
  den : (Int32.ofNat (Nat.pow 10 places.length)).toInt = 10 ^ places.length
  signed : scaled? whole places
    = (magnitude? whole places).map fun m => if whole.head? = some '-' then -m else m
  negation : ∀ m, magnitude? whole places = some m → (-m).toInt = -m.toInt
  reduction : ∀ n, ¬ NegatesLeast ⟨n, .ofNat (Nat.pow 10 places.length)⟩

theorem IsPlaces.exactSteps (digits : IsPlaces places) (whole : List Char) :
    ExactSteps whole places where
  scale := digits.toInt_scale
  den := digits.toInt_den
  signed := scaled?_eq
  negation := fun _ => toInt_neg_of_magnitude? digits
  reduction := fun _ => not_negatesLeast_of_den_pos digits.den_pos

/-- A text between blanks is read exactly if one of the notations writes it, with that value, and
is named in the error otherwise. A decimal is refused for its size only if its digits do not fit a
term, and its words are exact throughout. -/
theorem parse_ok_iff_writes (text : String) :
    (∀ r, parse text = .ok r ↔ Writes (trim text.toList) r)
      ∧ ((∀ r, ¬ Writes (trim text.toList) r)
        → parse text = .error (.fraction (String.ofList (trim text.toList))))
      ∧ (∀ whole places (n : Int32), trim text.toList = whole ++ '.' :: places
        → IsPlaces places → IsScaled whole places n.toInt
        → ∃ r, parse text = .ok r ∧ r.IsLowest n.toInt (10 ^ places.length))
      ∧ ∀ whole places, IsPlaces places → ExactSteps whole places := by
  have read (r : Fraction) : parse text = .ok r ↔ Writes (trim text.toList) r :=
    parse_eq_ok_iff.trans read?_eq_some_iff
  refine ⟨read, fun unwritten => ?_, fun whole places n parts digits scaled => ?_,
    fun whole places digits => digits.exactSteps whole⟩
  · refine parse_of_read?_eq_none (Option.eq_none_iff_forall_ne_some.mpr fun r found => ?_)
    exact unwritten r (read?_eq_some_iff.mp found)
  · have lowest := digits.isLowest_reduce n
    exact ⟨_, (read _).mpr (parts ▸ .decimal digits scaled lowest), lowest⟩

/-- The minus before a zero counts for the places. -/
theorem parse_minus_half : parse "-0.5" = .ok ⟨-1, 2⟩ := by
  have parts : trim "-0.5".toList = ['-', '0'] ++ '.' :: ['5'] := by decide
  have whole : IsWhole ['-', '0'] 0 := .literal (.minus ⟨by decide, by decide⟩)
  have scaled : IsScaled ['-', '0'] ['5'] (-5 : Int32).toInt := ⟨0, whole, by decide⟩
  refine ((parse_ok_iff_writes "-0.5").1 _).mpr ?_
  rw [parts]
  exact .decimal (by decide) scaled ⟨by decide, by decide, by decide⟩

end FrameIngest.Fraction
