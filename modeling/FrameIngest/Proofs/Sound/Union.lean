/-
FrameIngest.Proofs.Sound.Union — a joined text is the union of its parts.

A text is cut at every join, and its parts are trimmed; so two texts around a
join have together the parts that they have apart (`partsOf_append`), whatever
blanks and further joins they hold. The layout of a text is the union of the
layouts of its parts (`parse_eq_ok_iff`), and a channel is in a union if it is
in one of its members (`testBit_union`). That is why neither the order of the
parts nor their repetition matters, and why there is always something in the
union: a text has a part, and no part is read as nothing.

* `merge` — the union of two layouts;
* `partsOf` — the parts of a text;
* `parse_eq_ok_iff`, `exists_parse_iff` — what a text is read as, and when it is;
* `parse_joined_eq_union` — texts around a join.
-/
import FrameIngest.Proofs.Sound.Notation

namespace FrameIngest

namespace Layout

open Text

/-! ## Unions as sets of channels -/

/-- A channel is in a union if it is in a member. -/
theorem testBit_union {ls : List Layout} {i : Nat} :
    (union ls).toNat.testBit i = true ↔ ∃ l ∈ ls, l.mask.toNat.testBit i = true := by
  induction ls with
  | nil => simp
  | cons l ls ih => simp [union_cons, ih]

/-- A union depends on its members, and neither on their order nor on their number. -/
theorem union_congr {ls ls' : List Layout} (same : ∀ l, l ∈ ls ↔ l ∈ ls') :
    union ls = union ls' := by
  refine UInt64.toNat_inj.mp (Nat.eq_of_testBit_eq fun i => Bool.eq_iff_iff.mpr ?_)
  simp only [testBit_union, same]

/-- Layouts have channels, and so has a union of some. -/
theorem union_ne_zero {ls : List Layout} (nonempty : ls ≠ []) : union ls ≠ 0 := by
  obtain ⟨l, rest, rfl⟩ := List.exists_cons_of_ne_nil nonempty
  rw [union_cons]
  exact fun zero => l.mask_ne_zero (UInt64.or_eq_zero_iff.mp zero).1

/-- The layout with the channels of both. -/
def merge (l l' : Layout) : Layout where
  mask := l.mask ||| l'.mask
  mask_ne_zero := fun zero => l.mask_ne_zero (UInt64.or_eq_zero_iff.mp zero).1

theorem ofMask?_eq_some_iff {m : UInt64} {l : Layout} : ofMask? m = some l ↔ l.mask = m :=
  ⟨mask_of_ofMask?, fun same => same ▸ ofMask?_mask l⟩

theorem eq_merge_iff {l la lb : Layout} : l = la.merge lb ↔ l.mask = la.mask ||| lb.mask := by
  cases l
  simp [merge]

/-! ## Parts -/

/-- The parts of a text, without the blanks around them. -/
def partsOf (text : String) : List (List Char) := (text.toList.splitOnP isJoin).map trim

theorem partsOf_ne_nil (text : String) : partsOf text ≠ [] := by
  simp [partsOf, List.splitOnP_ne_nil]

/-- Two texts around a join have together the parts that they have apart. -/
theorem partsOf_append (a b : String) {mark : Char} (joins : isJoin mark = true) :
    partsOf (a ++ String.singleton mark ++ b) = partsOf a ++ partsOf b := by
  have whole : (a ++ String.singleton mark ++ b).toList = a.toList ++ mark :: b.toList := by simp
  rw [partsOf, whole, List.splitOnP_append_cons _ _ joins, List.map_append, partsOf, partsOf]

/-- Blanks around a text do not change its parts. -/
theorem map_trim_splitOnP_isJoin (text : String) :
    ((trim text.toList).splitOnP isJoin).map trim = partsOf text := by
  refine map_trim_splitOnP_trim (fun c joins => ?_) text.toList
  rcases Bool.or_eq_true .. ▸ joins with plus | bar
  · rw [beq_iff_eq.mp plus]
    rfl
  · rw [beq_iff_eq.mp bar]
    rfl

/-- No layout is written by nothing. -/
theorem part?_nil : part? [] = none := by
  decide

/-! ## Lists of parts -/

section Lists

variable {α β : Type} {f : α → Option β} {xs : List α} {ys : List β}

theorem mapM_eq_some_iff : xs.mapM f = some ys ↔ xs.map f = ys.map some := by
  induction xs generalizing ys with
  | nil => cases ys <;> simp
  | cons x xs ih =>
    cases ys with
    | nil => simp [Option.bind_eq_some_iff]
    | cons y ys =>
      rw [List.map_cons, List.map_cons, List.cons.injEq, ← ih]
      simp [Option.bind_eq_some_iff]

/-- What is read from a list is what is read from its members. -/
theorem mem_of_mapM_eq_some (read : xs.mapM f = some ys) {y : β} :
    y ∈ ys ↔ ∃ x ∈ xs, f x = some y := by
  have among : some y ∈ ys.map some ↔ y ∈ ys := by simp
  rw [← among, ← mapM_eq_some_iff.mp read, List.mem_map]

/-- A list is read if each of its members is. -/
theorem exists_mapM_iff : (∃ ys, xs.mapM f = some ys) ↔ ∀ x ∈ xs, ∃ y, f x = some y := by
  induction xs with
  | nil => simp
  | cons x xs ih =>
    rw [List.forall_mem_cons, ← ih]
    simp [Option.bind_eq_some_iff]

end Lists

/-! ## Whole texts -/

/-- A text is read as the union of its parts. A blank text has a part too, but an unreadable one. -/
theorem parse_eq_ok_iff {text : String} {l : Layout} :
    parse text = .ok l ↔ ∃ ls, (partsOf text).mapM part? = some ls ∧ l.mask = union ls := by
  have reads : parse text = .ok l ↔ read? (trim text.toList) = some l := by
    unfold parse
    cases read : read? (trim text.toList) <;> simp [read]
  have parted : (((trim text.toList).splitOnP isJoin).mapM fun part => part? (trim part))
      = (partsOf text).mapM part? := by
    rw [← map_trim_splitOnP_isJoin, List.mapM_map]
    rfl
  rw [reads, read?, parted]
  split
  · next blank =>
    have alone : partsOf text = [[]] := by
      rw [← map_trim_splitOnP_isJoin, blank]
      rfl
    simp [alone, part?_nil]
  · simp [Option.bind_eq_some_iff, ofMask?_eq_some_iff]

/-- A text is read if each of its parts is: what the parts stand for always has a union. -/
theorem exists_parse_iff {text : String} :
    (∃ l, parse text = .ok l) ↔ ∀ part ∈ partsOf text, ∃ l, part? part = some l := by
  rw [← exists_mapM_iff]
  constructor
  · rintro ⟨l, read⟩
    obtain ⟨ls, parts, _⟩ := parse_eq_ok_iff.mp read
    exact ⟨ls, parts⟩
  · rintro ⟨ls, parts⟩
    have nonempty : ls ≠ [] := by
      rintro rfl
      exact partsOf_ne_nil text (by simpa using mapM_eq_some_iff.mp parts)
    exact ⟨⟨union ls, union_ne_zero nonempty⟩, parse_eq_ok_iff.mpr ⟨ls, parts, rfl⟩⟩

/-- What a text is read as depends on the parts it has, and on nothing else. -/
theorem parse_congr {s t : String} (same : ∀ part, part ∈ partsOf s ↔ part ∈ partsOf t)
    {l : Layout} (read : parse s = .ok l) : parse t = .ok l := by
  obtain ⟨ls, parts, whole⟩ := parse_eq_ok_iff.mp read
  have readable : ∀ part ∈ partsOf t, ∃ l, part? part = some l := by
    intro part among
    exact exists_mapM_iff.mp ⟨ls, parts⟩ part ((same part).mpr among)
  obtain ⟨ls', parts'⟩ := exists_mapM_iff.mpr readable
  refine parse_eq_ok_iff.mpr ⟨ls', parts', whole.trans (union_congr fun l => ?_)⟩
  rw [mem_of_mapM_eq_some parts, mem_of_mapM_eq_some parts']
  simp only [same]

section Joined

variable {a b : String} {mark : Char} (joins : isJoin mark = true)

include joins

theorem parse_append {la lb : Layout} (readA : parse a = .ok la) (readB : parse b = .ok lb) :
    parse (a ++ String.singleton mark ++ b) = .ok (la.merge lb) := by
  obtain ⟨lsA, partsA, wholeA⟩ := parse_eq_ok_iff.mp readA
  obtain ⟨lsB, partsB, wholeB⟩ := parse_eq_ok_iff.mp readB
  refine parse_eq_ok_iff.mpr ⟨lsA ++ lsB, ?_, ?_⟩
  · rw [partsOf_append a b joins, List.mapM_append, partsA, partsB]
    rfl
  · rw [union_append, ← wholeA, ← wholeB, merge]

/-- A joined text is read if both of its sides are. -/
theorem exists_parse_append_iff : (∃ l, parse (a ++ String.singleton mark ++ b) = .ok l) ↔
    (∃ la, parse a = .ok la) ∧ ∃ lb, parse b = .ok lb := by
  rw [exists_parse_iff, exists_parse_iff, exists_parse_iff, partsOf_append a b joins,
    List.forall_mem_append]

/-- A joined text is read as the union of what its sides are read as. -/
theorem parse_append_eq_ok_iff {l : Layout} :
    parse (a ++ String.singleton mark ++ b) = .ok l ↔
      ∃ la lb, parse a = .ok la ∧ parse b = .ok lb ∧ l = la.merge lb := by
  constructor
  · intro read
    obtain ⟨⟨la, readA⟩, lb, readB⟩ := (exists_parse_append_iff joins).mp ⟨l, read⟩
    have whole := parse_append joins readA readB
    exact ⟨la, lb, readA, readB, Except.ok.inj (read.symm.trans whole)⟩
  · rintro ⟨la, lb, readA, readB, rfl⟩
    exact parse_append joins readA readB

end Joined

/-- **Reading turns joins into unions.** Two texts with a `+` or a bar between them, whatever joins
and blanks they hold themselves, are read together if both are read apart, and the layout has the
bits of both masks. So a text is read as what the set of its parts says: it does not matter which
marks join them, in which order and how often they stand. There is no other reason to refuse a text
than a part that stands for nothing, and no mask that is read is empty. -/
theorem parse_joined_eq_union :
    (∀ (a b : String) (mark : Char), mark = '+' ∨ mark = '|' → ∀ l : Layout,
      parse (a ++ String.singleton mark ++ b) = .ok l ↔
        ∃ la lb, parse a = .ok la ∧ parse b = .ok lb ∧ l.mask = la.mask ||| lb.mask) ∧
    (∀ s t : String, (∀ part, part ∈ partsOf s ↔ part ∈ partsOf t) →
      ∀ l, parse s = .ok l ↔ parse t = .ok l) ∧
    (∀ s : String, (∃ l, parse s = .ok l ∧ l.mask ≠ 0) ↔
      ∀ part ∈ partsOf s, ∃ l, part? part = some l) := by
  refine ⟨fun a b mark either l => ?_, fun s t same l => ?_, fun s => ?_⟩
  · have joins : isJoin mark = true := by rcases either with rfl | rfl <;> rfl
    rw [parse_append_eq_ok_iff joins]
    simp only [eq_merge_iff]
  · exact ⟨parse_congr same, parse_congr fun part => (same part).symm⟩
  · rw [← exists_parse_iff]
    exact ⟨fun ⟨l, read, _⟩ => ⟨l, read⟩, fun ⟨l, read⟩ => ⟨l, read, l.mask_ne_zero⟩⟩

/-- A speaker, a mask and a count: three channels, as the count means two of which the speaker is
one. In another order, with other joins and blanks, and with the count given twice, they are read
as the same. -/
theorem frontLeft_and_pair_joined :
    (∃ la lb, parse " FL|0x4" = .ok la ∧ parse "\t2c " = .ok lb ∧ 7 = la.mask ||| lb.mask) ∧
    (parse "2c|0x4 + 2c+FL" = .ok ⟨7, by decide⟩ ↔ parse " FL|0x4+\t2c " = .ok ⟨7, by decide⟩) ∧
    parse " FL|0x4+\t2c " = .ok ⟨7, by decide⟩ := by
  have same (part : List Char) :
      part ∈ partsOf "2c|0x4 + 2c+FL" ↔ part ∈ partsOf " FL|0x4+\t2c " := by
    have first : partsOf "2c|0x4 + 2c+FL"
        = ["2c".toList, "0x4".toList, "2c".toList, "FL".toList] := by decide
    have second : partsOf " FL|0x4+\t2c " = ["FL".toList, "0x4".toList, "2c".toList] := by decide
    rw [first, second]
    simp only [List.mem_cons, List.not_mem_nil, or_false]
    grind
  have whole : parse " FL|0x4+\t2c " = .ok ⟨7, by decide⟩ := by rfl
  exact ⟨(parse_joined_eq_union.1 " FL|0x4" "\t2c " '+' (by decide) ⟨7, by decide⟩).mp whole,
    parse_joined_eq_union.2.1 _ _ same _, whole⟩

end Layout

end FrameIngest
