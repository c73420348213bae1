/-
FrameIngest.Proofs.Fraction.Spellings — the texts of one fraction.

A fraction is read from many texts. The one it is written as is among them, so
reading, writing and reading again changes nothing (`fraction_reads_back`). A
zero behind a decimal leaves its value alone but makes the integer that it comes
to without its point ten times as large. That integer is held in a term before
it is reduced, so the longer text is refused where it does not fit, even if the
fraction in lowest terms would (`parse_append_zero`).

* `FitsTerm` — the integers that are terms;
* `read?_eq_some_iff_of_point` — what is read from a text with a point;
* `isScaled_append_zero_iff`, `read?_append_zero` — one place more.
-/
import FrameIngest.Proofs.Fraction.Grammar
import Mathlib.Tactic.Ring

namespace FrameIngest.Fraction

open Text

/-! ## The written form -/

theorem parse_toString (r : Fraction) : parse (toString r) = .ok r := by
  have text : (toString r).toList = r.chars := String.toList_ofList
  rw [parse_eq_ok_iff, text, (isTrimmed_chars r).trim_eq, read?_chars]

/-- **Fractions read back.** Every fraction is read from its written form as it is, unreduced. So
a text that is read means the same as the written form of what is read from it. -/
theorem fraction_reads_back :
    (∀ r : Fraction, parse (toString r) = .ok r)
      ∧ ∀ text, (parse text).bind (fun r => parse (toString r)) = parse text := by
  refine ⟨parse_toString, fun text => ?_⟩
  cases parse text with
  | error misread => rfl
  | ok r => rw [Except.bind, parse_toString]

/-! ## Texts with a point -/

variable {s whole places : List Char}

/-- No term holds a point. -/
theorem not_isLiteral_of_point {z : Int} (point : '.' ∈ s) : ¬ IsLiteral s z := fun literal =>
  (no_mark_of_digit_or_sign (literal.digit_or_sign _ point)).2 rfl

/-- A text with a point is read as a decimal, or not at all. -/
theorem read?_eq_some_iff_of_point (parts : cut (· == '.') s = some (whole, places))
    {r : Fraction} :
    read? s = some r
      ↔ IsPlaces places ∧ ∃ n : Int32, IsScaled whole places n.toInt
        ∧ r.IsLowest n.toInt (10 ^ places.length) := by
  obtain ⟨c, -, marks, whole_eq⟩ := cut_eq_some_iff.mp parts
  obtain rfl : c = '.' := by simpa using marks
  have point : '.' ∈ s := by simp [whole_eq]
  rw [read?_eq_some_iff]
  constructor
  · intro writes
    cases writes with
    | terms first between above below =>
      rcases List.mem_append.mp point with before | rest
      · exact absurd above (not_isLiteral_of_point (mem_trim rfl before))
      · rcases List.mem_cons.mp rest with rfl | behind
        · rcases between with bar | bar <;> cases bar
        · exact absurd below (not_isLiteral_of_point (mem_trim rfl behind))
    | integer literal => exact absurd literal (not_isLiteral_of_point point)
    | @decimal whole' places' n _ digits scaled lowest =>
      obtain ⟨w, isWhole, -⟩ := id scaled
      rw [cut_append_cons isWhole.noPoint rfl] at parts
      cases parts
      exact ⟨digits, n, scaled, lowest⟩
  · rintro ⟨digits, n, scaled, lowest⟩
    rw [whole_eq]
    exact .decimal digits scaled lowest

theorem parse_of_scaled {text : String} {n : Int32} {r : Fraction}
    (trimmed : trim text.toList = whole ++ '.' :: places) (digits : IsPlaces places)
    (scaled : IsScaled whole places n.toInt) (lowest : r.IsLowest n.toInt (10 ^ places.length)) :
    parse text = .ok r :=
  parse_eq_ok_iff.mpr (trimmed ▸ read?_of_writes (.decimal digits scaled lowest))

/-! ## One place more -/

theorem IsWhole.unique {y z : Int} (h : IsWhole s y) (h' : IsWhole s z) : y = z := by
  cases h with
  | nothing =>
    cases h' with
    | nothing => rfl
    | literal literal => exact absurd rfl literal.not_bare.1
  | minus =>
    cases h' with
    | minus => rfl
    | literal literal => exact absurd rfl literal.not_bare.2
  | literal literal =>
    cases h' with
    | nothing => exact absurd rfl literal.not_bare.1
    | minus => exact absurd rfl literal.not_bare.2
    | literal literal' => exact literal.unique literal'

theorem IsScaled.unique {y z : Int} (h : IsScaled whole places y) (h' : IsScaled whole places z) :
    y = z := by
  obtain ⟨w, isWhole, rfl⟩ := h
  obtain ⟨w', isWhole', rfl⟩ := h'
  rw [isWhole.unique isWhole']

/-- A literal is a decimal without places. -/
theorem isScaled_nil {z : Int} (h : IsLiteral s z) : IsScaled s [] z := by
  refine ⟨z, .literal h, ?_⟩
  have number_nil : number [] = 0 := rfl
  unfold withSign
  cases h with
  | unsigned digits => simp [number_nil, digits.head?_ne]
  | plus digits => simp [number_nil]
  | minus digits => simp [number_nil]

theorem number_append_zero (s : List Char) : number (s ++ ['0']) = 10 * number s := by
  rw [number, Nat.ofDigitChars_append]
  simp [Nat.ofDigitChars_cons, number]

/-- A zero behind the places multiplies the integer by ten. -/
theorem isScaled_append_zero_iff {z : Int} :
    IsScaled whole (places ++ ['0']) z ↔ ∃ y, IsScaled whole places y ∧ z = 10 * y := by
  have tenfold (w : Int) :
      withSign whole (w.natAbs * 10 ^ (places ++ ['0']).length + number (places ++ ['0']))
        = 10 * withSign whole (w.natAbs * 10 ^ places.length + number places) := by
    rw [number_append_zero, List.length_append, List.length_singleton, pow_succ]
    unfold withSign
    split
    · push_cast
      ring
    · push_cast
      ring
  constructor
  · rintro ⟨w, isWhole, rfl⟩
    exact ⟨_, ⟨w, isWhole, rfl⟩, tenfold w⟩
  · rintro ⟨_, ⟨w, isWhole, rfl⟩, rfl⟩
    exact ⟨w, isWhole, (tenfold w).symm⟩

/-- The integer is a term: it fits 32 bits. -/
def FitsTerm (z : Int) : Prop := -2 ^ 31 ≤ z ∧ z < 2 ^ 31

instance (z : Int) : Decidable (FitsTerm z) := inferInstanceAs (Decidable (_ ∧ _))

theorem fitsTerm_iff {z : Int} : FitsTerm z ↔ ∃ n : Int32, n.toInt = z := by
  constructor
  · rintro ⟨least, most⟩
    exact ⟨.ofInt z, Int32.toInt_ofInt_of_le least most⟩
  · rintro ⟨n, rfl⟩
    exact ⟨n.le_toInt, n.toInt_lt⟩

theorem isPlaces_append_zero (digits : ∀ c ∈ places, c.isDigit = true) (few : places.length < 6) :
    IsPlaces (places ++ ['0']) := by
  have length : (places ++ ['0']).length ≤ 6 := by
    rw [List.length_append]
    exact few
  refine ⟨by simp, length, fun c among => ?_⟩
  rcases List.mem_append.mp among with first | last
  · exact digits c first
  · rw [List.mem_singleton.mp last]
    rfl

/-- With one zero more a decimal, or an integer with a point, is read as the same fraction if its
digits still fit a term, and is not read otherwise. -/
theorem read?_append_zero {n : Int32} {r : Fraction} (digits : ∀ c ∈ places, c.isDigit = true)
    (few : places.length < 6) (scaled : IsScaled whole places n.toInt)
    (lowest : r.IsLowest n.toInt (10 ^ places.length)) :
    read? (whole ++ '.' :: (places ++ ['0']))
      = if FitsTerm (10 * n.toInt) then some r else none := by
  obtain ⟨w, isWhole, -⟩ := id scaled
  have read (q : Fraction) := read?_eq_some_iff_of_point (r := q)
    (cut_append_cons isWhole.noPoint (beq_self_eq_true '.') (places ++ ['0']))
  split
  · next fits =>
    obtain ⟨m, value⟩ := fitsTerm_iff.mp fits
    refine (read r).mpr ⟨isPlaces_append_zero digits few, m, ?_, ?_⟩
    · exact isScaled_append_zero_iff.mpr ⟨n.toInt, scaled, value⟩
    · rw [value, List.length_append, List.length_singleton]
      have scale : (10 : Int) ^ places.length ≠ 0 := pow_ne_zero _ (by decide)
      exact lowest.congr scale (by ring)
  · next large =>
    refine Option.eq_none_iff_forall_ne_some.mpr fun q found => large ?_
    obtain ⟨-, m, scaled', -⟩ := (read q).mp found
    obtain ⟨y, same, value⟩ := isScaled_append_zero_iff.mp scaled'
    exact fitsTerm_iff.mpr ⟨m, by rw [value, same.unique scaled]⟩

/-! ## Integers -/

theorem isLiteral_signedDecimal (z : Int) : IsLiteral (signedDecimal z) z :=
  signed?_eq_some_iff.mp (signed?_signedDecimal z)

theorem isLowest_one (n : Int32) : IsLowest ⟨n, 1⟩ n.toInt 1 where
  value_eq := rfl
  den_pos := (by decide : 0 < (1 : Int32).toInt)
  coprime := Int.gcd_one_right n.toInt

theorem read?_signedDecimal (n : Int32) : read? (signedDecimal n.toInt) = some ⟨n, 1⟩ :=
  read?_of_writes (.integer (isLiteral_signedDecimal n.toInt))

/-- An integer is a decimal with no places yet. -/
theorem read?_signedDecimal_point (n : Int32) :
    read? (signedDecimal n.toInt ++ ['.', '0'])
      = if FitsTerm (10 * n.toInt) then some ⟨n, 1⟩ else none := by
  have noPlaces : ∀ c ∈ ([] : List Char), c.isDigit = true := nofun
  exact read?_append_zero noPlaces (by decide) (isScaled_nil (isLiteral_signedDecimal n.toInt))
    (isLowest_one n)

theorem isTrimmed_signedDecimal_point (z : Int) : IsTrimmed (signedDecimal z ++ ['.', '0']) := by
  have visible : ∀ c ∈ '.' :: decimalMarks, isBlank c = false := by decide
  have point : ['.', '0'] ⊆ '.' :: decimalMarks := by decide
  refine .of_forall fun c among => visible c ?_
  rcases List.mem_append.mp among with first | last
  · exact List.mem_cons_of_mem _ (mem_decimalMarks first)
  · exact point last

/-! ## A zero behind a text -/

theorem parse_eq_of_read? {text : String} {s : List Char} (trimmed : trim text.toList = s)
    {fits : Prop} [Decidable fits] {r : Fraction} (read : read? s = if fits then some r else none) :
    parse text = if fits then .ok r else .error (.fraction (String.ofList s)) := by
  subst trimmed
  split
  · next holds => exact parse_eq_ok_iff.mpr (read.trans (if_pos holds))
  · next fails => exact parse_of_read?_eq_none (read.trans (if_neg fails))

/-- A text with a point keeps it when it is trimmed, and has its places at its end. -/
theorem exists_of_cut_trim (parts : cut (· == '.') (trim s) = some (whole, places)) :
    ∃ before after, s = before ++ '.' :: after ∧ whole = trimStart before
      ∧ places = trimEnd after := by
  obtain ⟨c, -, marks, trimmed⟩ := cut_eq_some_iff.mp parts
  obtain rfl : c = '.' := by simpa using marks
  obtain ⟨before, after, rfl, first⟩ :=
    List.eq_append_cons_of_mem (mem_of_mem_trim (s := s) (c := '.') (by simp [trimmed]))
  have noPoint : ∀ c ∈ trimStart before, (c == '.') = false := fun c among =>
    beq_eq_false_iff_ne.mpr fun same => first (same ▸ trimStart_subset before among)
  rw [trim_append_cons rfl, cut_append_cons noPoint rfl] at parts
  cases parts
  exact ⟨before, after, rfl, rfl, rfl⟩

/-- A zero behind a decimal that is read. -/
theorem read?_trim_append_zero {r : Fraction} (read : read? (trim s) = some r)
    (parts : cut (· == '.') (trim s) = some (whole, places)) (few : places.length < 6) :
    ∃ n : Int32, IsScaled whole places n.toInt
      ∧ read? (trim (s ++ ['0']))
        = if trimEnd s = s ∧ FitsTerm (10 * n.toInt) then some r else none := by
  obtain ⟨digits, n, scaled, lowest⟩ := (read?_eq_some_iff_of_point parts).mp read
  refine ⟨n, scaled, ?_⟩
  obtain ⟨before, after, rfl, rfl, rfl⟩ := exists_of_cut_trim parts
  have longer : trim (before ++ '.' :: after ++ ['0'])
      = trimStart before ++ '.' :: (after ++ ['0']) := by
    rw [List.append_assoc, List.cons_append, trim_append_cons rfl,
      trimEnd_append_cons (c := '0') rfl after []]
    rfl
  have ends : trimEnd (before ++ '.' :: after) = before ++ '.' :: after
      ↔ trimEnd after = after := by simp [trimEnd_append_cons (c := '.') rfl]
  rw [longer]
  by_cases clear : trimEnd after = after
  · rw [clear] at scaled lowest digits few
    rw [read?_append_zero digits.2.2 few scaled lowest]
    simp only [ends, clear, true_and]
  -- what is trimmed off the text would now stand among its places
  · have blanks : ¬ ∀ c ∈ after, c.isDigit = true := fun all =>
      clear (trimEnd_eq_self fun c among => isBlank_of_isDigit (all c among))
    obtain ⟨w, isWhole, -⟩ := id scaled
    rw [if_neg fun both => clear (ends.mp both.1)]
    refine Option.eq_none_iff_forall_ne_some.mpr fun q found => blanks fun c among => ?_
    obtain ⟨places, -⟩ := (read?_eq_some_iff_of_point
      (cut_append_cons isWhole.noPoint (beq_self_eq_true '.') (after ++ ['0']))).mp found
    exact places.2.2 c (List.mem_append_left _ among)

/-- **A zero more.** A decimal with fewer than six places is read with a zero behind it too, as
the same fraction, exactly if no blank stands between and ten times the integer that its digits
write is a term; an integer is read with a point and a zero behind it exactly if ten times it is.
The longer text is refused otherwise. -/
theorem parse_append_zero :
    (∀ text whole places r, parse text = .ok r
        → cut (· == '.') (trim text.toList) = some (whole, places) → places.length < 6
        → ∃ n : Int32, IsScaled whole places n.toInt
          ∧ parse (text ++ "0")
            = if trimEnd text.toList = text.toList ∧ FitsTerm (10 * n.toInt) then .ok r
              else .error (.fraction (String.ofList (trim (text ++ "0").toList))))
      ∧ ∀ n : Int32, parse (String.ofList (signedDecimal n.toInt)) = .ok ⟨n, 1⟩
        ∧ parse (String.ofList (signedDecimal n.toInt) ++ ".0")
          = if FitsTerm (10 * n.toInt) then .ok ⟨n, 1⟩
            else .error (.fraction (String.ofList (signedDecimal n.toInt) ++ ".0")) := by
  constructor
  · intro text whole places r read parts few
    obtain ⟨n, scaled, longer⟩ := read?_trim_append_zero (parse_eq_ok_iff.mp read) parts few
    have zero : (text ++ "0").toList = text.toList ++ ['0'] := String.toList_append
    rw [← zero] at longer
    exact ⟨n, scaled, parse_eq_of_read? rfl longer⟩
  · intro n
    have bare : (String.ofList (signedDecimal n.toInt)).toList = signedDecimal n.toInt :=
      String.toList_ofList
    have pointed : (String.ofList (signedDecimal n.toInt) ++ ".0").toList
        = signedDecimal n.toInt ++ ['.', '0'] := by rw [String.toList_append, bare]; rfl
    constructor
    · rw [parse_eq_ok_iff, bare, (isTrimmed_signedDecimal _).trim_eq, read?_signedDecimal]
    · have whole := (isTrimmed_signedDecimal_point n.toInt).trim_eq
      have read := parse_eq_of_read? (congrArg trim pointed) (whole ▸ read?_signedDecimal_point n)
      rwa [whole, ← pointed, String.ofList_toList] at read

/-- Minus twelve and a half, with one place and with two. -/
theorem parse_minus_twelve_fifty :
    parse "-12.5" = .ok ⟨-25, 2⟩ ∧ parse "-12.50" = .ok ⟨-25, 2⟩ := by
  have whole : IsWhole ['-', '1', '2'] (-12) := .literal (.minus ⟨by decide, by decide⟩)
  have scaled : IsScaled ['-', '1', '2'] ['5'] (-125 : Int32).toInt := ⟨-12, whole, by decide⟩
  have read : parse "-12.5" = .ok ⟨-25, 2⟩ :=
    parse_of_scaled (by decide) (by decide) scaled ⟨by decide, by decide, by decide⟩
  refine ⟨read, ?_⟩
  obtain ⟨n, same, longer⟩ := parse_append_zero.1 "-12.5" _ _ _ read rfl (by decide)
  rw [same.unique scaled] at longer
  exact longer.trans (if_pos ⟨by decide, by decide⟩)

/-- The largest term is read with a point or without, but not with a zero more: ten times it is no
term, although the fractions are the same. A zero behind a blank is no place. -/
theorem zero_refused_after_largest :
    (parse "214748364.7" = .ok ⟨2147483647, 10⟩
        ∧ parse "214748364.70" = .error (.fraction "214748364.70"))
      ∧ (parse "2147483647" = .ok ⟨2147483647, 1⟩
        ∧ parse "2147483647.0" = .error (.fraction "2147483647.0"))
      ∧ parse "1.5 " = .ok ⟨3, 2⟩ ∧ parse "1.5 0" = .error (.fraction "1.5 0") := by
  have digits : IsWhole "214748364".toList 214748364 := .literal (.unsigned ⟨by decide, by decide⟩)
  have one : IsWhole ['1'] 1 := .literal (.unsigned ⟨by decide, by decide⟩)
  have largest : IsScaled "214748364".toList ['7'] (2147483647 : Int32).toInt :=
    ⟨_, digits, by decide⟩
  have fifteen : IsScaled ['1'] ['5'] (15 : Int32).toInt := ⟨_, one, by decide⟩
  refine ⟨⟨?_, by decide⟩, ⟨by decide, by decide⟩, ?_, by decide⟩
  · exact parse_of_scaled (by decide) (by decide) largest ⟨by decide, by decide, by decide⟩
  · exact parse_of_scaled (by decide) (by decide) fifteen ⟨by decide, by decide, by decide⟩

end FrameIngest.Fraction
