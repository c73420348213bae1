/-
FrameIngest.Proofs.Sound.Notation — layouts are read back from their texts.

A layout without a standard name is the union of its *components*: a layout for
each of its named speakers, and one of the bits that no speaker names. They are
written as parts, in this order. The reader tries standard names, speakers,
counts and masks on each part; as the names are distinct, and a mask starts
with `0x`, which no name and no count does, every part is read as the component
that it writes (`part?_speaker`, `part?_hexadecimal`). The union of these is
the layout again (`union_components`), whichever of the `2 ^ 64 - 1` it is.

* `union_cons`, `union_append` — unions, part by part;
* `components` — what the parts of a layout write;
* `read?_chars` — the text of a layout is read as the layout.
-/
import FrameIngest.Proofs.Text.Numeral
import FrameIngest.Sound.Layout.Notation
import Mathlib.Data.Nat.Bitwise

namespace FrameIngest

/-! ## Masks and bits -/

theorem mask_and_or (a b c : UInt64) : a &&& (b ||| c) = (a &&& b) ||| (a &&& c) := by
  rw [← UInt64.toBitVec_inj]
  simp [BitVec.and_or_distrib_left]

/-- A union that is gathered on top of a mask. -/
theorem foldl_or {α : Type} (mask : α → UInt64) (m : UInt64) (xs : List α) :
    xs.foldl (fun m x => m ||| mask x) m = m ||| xs.foldl (fun m x => m ||| mask x) 0 := by
  induction xs generalizing m with
  | nil => simp
  | cons x xs ih => rw [List.foldl_cons, List.foldl_cons, ih, ih (0 ||| mask x), UInt64.zero_or,
      UInt64.or_assoc]

namespace Speaker

theorem maskOf_cons (s : Speaker) (ss : List Speaker) :
    maskOf (s :: ss) = s.mask ||| maskOf ss := by
  rw [maskOf, List.foldl_cons, foldl_or, UInt64.zero_or, maskOf]

theorem mem_all (s : Speaker) : s ∈ all := by
  cases s <;> decide

theorem mask_ne_zero (s : Speaker) : s.mask ≠ 0 := by
  cases s <;> decide

theorem toNat_mask (s : Speaker) : s.mask.toNat = 2 ^ s.bit := by
  cases s <;> rfl

/-- A speaker has one bit, which a mask has or has not. -/
theorem and_mask (m : UInt64) (s : Speaker) (h : m &&& s.mask ≠ 0) : m &&& s.mask = s.mask := by
  have bit : (m &&& s.mask).toNat = 2 ^ s.bit * (m.toNat.testBit s.bit).toNat := by
    rw [UInt64.toNat_and, toNat_mask, Nat.and_comm, Nat.two_pow_and]
  cases set : m.toNat.testBit s.bit with
  | false =>
    rw [set] at bit
    exact absurd (UInt64.toNat_inj.mp bit) h
  | true =>
    rw [set] at bit
    exact UInt64.toNat_inj.mp (by rw [bit, toNat_mask]; simp)

/-- The speakers that a mask holds make up its named part. -/
theorem maskOf_filter (m : UInt64) (ss : List Speaker) :
    maskOf (ss.filter fun s => m &&& s.mask ≠ 0) = m &&& maskOf ss := by
  induction ss with
  | nil => simp [maskOf]
  | cons s ss ih =>
    rw [maskOf_cons, mask_and_or]
    by_cases held : m &&& s.mask = 0
    · rw [List.filter_cons_of_neg (by simpa using held), ih, held, UInt64.zero_or]
    · rw [List.filter_cons_of_pos (by simpa using held), maskOf_cons, ih, and_mask m s held]

end Speaker

namespace Layout

open Text

/-! ## Unions -/

@[simp] theorem union_nil : union [] = 0 := rfl

theorem union_cons (l : Layout) (ls : List Layout) : union (l :: ls) = l.mask ||| union ls := by
  rw [union, List.foldl_cons, foldl_or, UInt64.zero_or, union]

theorem union_append (ls ls' : List Layout) : union (ls ++ ls') = union ls ||| union ls' := by
  induction ls with
  | nil => simp
  | cons l ls ih => rw [List.cons_append, union_cons, union_cons, ih, UInt64.or_assoc]

/-- The layout of one speaker. -/
def ofSpeaker (s : Speaker) : Layout := ⟨s.mask, s.mask_ne_zero⟩

theorem union_ofSpeaker (ss : List Speaker) : union (ss.map ofSpeaker) = Speaker.maskOf ss := by
  induction ss with
  | nil => rfl
  | cons s ss ih =>
    rw [List.map_cons, union_cons, Speaker.maskOf_cons, ih]
    rfl

theorem union_ofMask? (m : UInt64) : union (ofMask? m).toList = m := by
  cases made : ofMask? m with
  | none => exact (ofMask?_eq_none_iff.mp made).symm
  | some l => simp [union_cons, mask_of_ofMask? made]

/-- The layouts that the parts of a text write. -/
def components (mask : UInt64) : List Layout :=
  (speakers mask).map ofSpeaker ++ (ofMask? (unnamedBits mask)).toList

/-- A mask is the union of its named speakers and its other bits. -/
theorem union_components (mask : UInt64) : union (components mask) = mask := by
  rw [components, union_append, union_ofSpeaker, union_ofMask?, speakers, Speaker.maskOf_filter,
    unnamedBits, ← mask_and_or, UInt64.or_not_self]
  simp

/-! ## Names -/

/-- A text that no standard name is. -/
theorem standardMask?_eq_none {name : String} (h : ∀ entry ∈ standard, entry.1 ≠ name) :
    standardMask? name = none := by
  simpa [standardMask?] using h

/-- The standard names are distinct, and none is that of a speaker. -/
theorem standardMask?_of_mem : ∀ entry ∈ standard, standardMask? entry.1 = some entry.2 := by
  decide

theorem standardMask?_speaker (s : Speaker) : standardMask? s.name = none := by
  cases s <;> decide

theorem ofName?_speaker (s : Speaker) : Speaker.ofName? s.name = some s := by
  cases s <;> decide

/-! ## Parts -/

/-- A standard name is read as its layout. -/
theorem part?_name {l : Layout} {name : String} (named : l.name? = some name) :
    part? name.toList = some l := by
  obtain ⟨entry, found, rfl⟩ := Option.map_eq_some_iff.mp named
  have same : entry.2 = l.mask := by simpa using List.find?_some found
  rw [part?, String.ofList_toList, standardMask?_of_mem entry (List.mem_of_find?_eq_some found)]
  simp [same]

/-- The name of a speaker is read as its layout. -/
theorem part?_speaker (s : Speaker) : part? s.name.toList = some (ofSpeaker s) := by
  have bit : ofMask? s.mask = some (ofSpeaker s) := ofMask?_mask (ofSpeaker s)
  simp only [part?, String.ofList_toList, standardMask?_speaker, ofName?_speaker, bit]

/-- A hexadecimal mask is none of a count's texts, even if its last digit is a `c`. -/
theorem countPart?_hexadecimal (n : Nat) : countPart? (hexadecimal n) = none := by
  unfold countPart?
  split
  · refine readUInt32_eq_none (c := 'x') (by decide) (by decide) ?_
    rw [hexadecimal, List.dropLast_cons_of_ne_nil (by simp),
      List.dropLast_cons_of_ne_nil Nat.toDigits_ne_nil]
    simp
  · rfl

/-- A hexadecimal mask is read as the layout of its bits. -/
theorem part?_hexadecimal (m : UInt64) : part? (hexadecimal m.toNat) = ofMask? m := by
  have standardStart : ∀ entry ∈ standard, entry.1.toList.head? ≠ some '0' := by decide
  have speakerStart : ∀ s ∈ Speaker.all, s.name.toList.head? ≠ some '0' := by decide
  have noStandard : standardMask? (String.ofList (hexadecimal m.toNat)) = none := by
    refine standardMask?_eq_none fun entry among same => standardStart entry among ?_
    rw [same, String.toList_ofList]
    rfl
  have noSpeaker : Speaker.ofName? (String.ofList (hexadecimal m.toNat)) = none := by
    refine List.find?_eq_none.mpr fun s among same => speakerStart s among ?_
    rw [of_decide_eq_true same, String.toList_ofList]
    rfl
  have number : maskPart? (hexadecimal m.toNat) = some m := readHex_toDigits m
  rw [part?, noStandard, noSpeaker, countPart?_hexadecimal, number]
  rfl

/-! ## Whole texts -/

/-- A written part shows no blank, no join and no colon. -/
def IsPlainPart (s : List Char) : Prop :=
  s ≠ [] ∧ ∀ c ∈ s, isBlank c = false ∧ isJoin c = false ∧ c ≠ ':'

instance (s : List Char) : Decidable (IsPlainPart s) := inferInstanceAs (Decidable (_ ∧ _))

theorem IsPlainPart.isTrimmed {s : List Char} (h : IsPlainPart s) : IsTrimmed s :=
  .of_forall fun c among => (h.2 c among).1

theorem isPlainPart_name {l : Layout} {name : String} (named : l.name? = some name) :
    IsPlainPart name.toList := by
  have all : ∀ entry ∈ standard, IsPlainPart entry.1.toList := by decide
  obtain ⟨entry, found, rfl⟩ := Option.map_eq_some_iff.mp named
  exact all entry (List.mem_of_find?_eq_some found)

theorem isPlainPart_of_mem_parts {mask : UInt64} {s : List Char} (among : s ∈ parts mask) :
    IsPlainPart s := by
  rcases List.mem_append.mp among with named | other
  · have all : ∀ s ∈ Speaker.all, IsPlainPart s.name.toList := by decide
    obtain ⟨s, _, rfl⟩ := List.mem_map.mp named
    exact all s s.mem_all
  · have plain : ∀ c ∈ hexadecimalMarks, isBlank c = false ∧ isJoin c = false ∧ c ≠ ':' := by
      decide
    split at other
    · cases other
    · cases List.mem_singleton.mp other
      exact ⟨by simp [hexadecimal], fun c among => plain c (mem_hexadecimalMarks among)⟩

/-- The parts of a layout are read as its components. -/
theorem mapM_parts (mask : UInt64) :
    (parts mask).mapM (fun part => part? (trim part)) = some (components mask) := by
  have named : ((speakers mask).map fun s => s.name.toList).mapM (fun part => part? (trim part))
      = some ((speakers mask).map ofSpeaker) := by
    rw [List.mapM_map]
    refine mapM_eq_pure_map fun s among => ?_
    have part : s.name.toList ∈ parts mask :=
      List.mem_append_left _ (List.mem_map.mpr ⟨s, among, rfl⟩)
    have plain := isPlainPart_of_mem_parts part
    rw [Function.comp_apply, plain.isTrimmed.trim_eq, part?_speaker]
    rfl
  rw [parts, List.mapM_append, named]
  split
  · next named_all => simp [components, named_all, ofMask?]
  · next unnamed =>
    have part : hexadecimal (unnamedBits mask).toNat ∈ parts mask :=
      List.mem_append_right _ (by simp [unnamed])
    have plain := isPlainPart_of_mem_parts part
    simp [components, plain.isTrimmed.trim_eq, part?_hexadecimal, ofMask?, unnamed]

/-- Parts that are read as layouts make a text that is read as their union. -/
theorem read?_intercalate {pieces : List (List Char)} {layouts : List Layout}
    (nonempty : pieces ≠ []) (plain : ∀ piece ∈ pieces, IsPlainPart piece)
    (each : pieces.mapM (fun part => part? (trim part)) = some layouts) :
    read? (['+'].intercalate pieces) = ofMask? (union layouts) := by
  have whole : (['+'].intercalate pieces).splitOnP isJoin = pieces :=
    splitOnP_intercalate rfl nonempty fun piece among c within =>
      ((plain piece among).2 c within).2.1
  have written : ['+'].intercalate pieces ≠ [] := by
    intro blank
    -- a blank text would be split into one blank piece
    rw [blank, List.splitOnP_nil] at whole
    exact (plain [] (by simp [← whole])).1 rfl
  rw [read?, if_neg written, whole, each]
  rfl

theorem read?_chars (l : Layout) : read? l.chars = some l := by
  unfold chars
  split
  · next name named =>
    have plain := isPlainPart_name named
    have alone : [name.toList].mapM (fun part => part? (trim part)) = some [l] := by
      simp [plain.isTrimmed.trim_eq, part?_name named]
    have read := read?_intercalate (by simp) (by simpa using plain) alone
    simpa [union_cons] using read
  · have nonempty : parts l.mask ≠ [] := by
      intro partless
      have empty := mapM_parts l.mask
      rw [partless] at empty
      have whole := union_components l.mask
      rw [← Option.some.inj empty] at whole
      exact l.mask_ne_zero whole.symm
    rw [read?_intercalate nonempty (fun _ => isPlainPart_of_mem_parts) (mapM_parts l.mask),
      union_components, ofMask?_mask]

/-- The text of a layout has no blank and no colon. -/
theorem plain_chars (l : Layout) : ∀ c ∈ l.chars, isBlank c = false ∧ c ≠ ':' := by
  intro c among
  unfold chars at among
  split at among
  · next name named =>
    obtain ⟨visible, _, noColon⟩ := (isPlainPart_name named).2 c among
    exact ⟨visible, noColon⟩
  · rcases mem_intercalate among with rfl | ⟨part, written, within⟩
    · decide
    · obtain ⟨visible, _, noColon⟩ := (isPlainPart_of_mem_parts written).2 c within
      exact ⟨visible, noColon⟩

/-- **Every layout is read back from its text.** This holds of each mask that is not empty, whether
the text is a standard name, names of speakers, a hexadecimal mask of bits without a speaker, or
speakers and a mask together. So no two layouts have the same text. -/
theorem layout_reads_back (l : Layout) :
    parse (toString l) = .ok l ∧ ∀ l' : Layout, toString l' = toString l → l' = l := by
  have reads (l : Layout) : parse (toString l) = .ok l := by
    have text : (toString l).toList = l.chars := String.toList_ofList
    have trimmed : IsTrimmed l.chars := .of_forall fun c among => (plain_chars l c among).1
    simp only [parse, text, trimmed.trim_eq, read?_chars]
  refine ⟨reads l, fun l' same => ?_⟩
  have both : (Except.ok l' : Except Misread Layout) = .ok l :=
    (reads l').symm.trans ((congrArg parse same).trans (reads l))
  exact Except.ok.inj both

/-- Two speakers and the bits that no speaker names. -/
example : toString (Layout.mk 0x800c000040000001 (by decide)) = "FL+DR+0x800c000000000000" := by
  decide

end Layout

end FrameIngest
