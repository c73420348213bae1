/-
FrameIngest.Proofs.Stream.WellFormed — descriptors that a stream can have.

A well-formed descriptor has a size, or a rate and channels; a time base that
is above zero; and, where it names a layout, as many channels as the layout.
Parameters that pass their check give such a descriptor, whatever they were
(`isWellFormed_of_check`), and a descriptor that has come to terms with a link
is still one: it is as before, or it has taken the layout of the link in place
of none (`settled_cases`).
-/
import FrameIngest.Feed.Settlement
import FrameIngest.Proofs.Stream.Usable

namespace FrameIngest

/-! ## Layouts carry channels -/

namespace Layout

theorem bitCount_le (mask : UInt64) : bitCount mask ≤ 64 := by
  have bound := List.countP_le_length (p := fun i => mask.toNat.testBit i) (l := List.range 64)
  simpa [bitCount] using bound

theorem bitCount_pos {mask : UInt64} (h : mask ≠ 0) : 0 < bitCount mask := by
  have nonzero : mask.toNat ≠ 0 := by
    intro zero
    exact h (UInt64.toNat_inj.mp zero)
  obtain ⟨i, set⟩ := Nat.exists_testBit_of_ne_zero nonzero
  have low : i < 64 := by
    refine Nat.lt_of_not_le fun high => ?_
    have large := Nat.ge_two_pow_of_testBit set
    have grown : 2 ^ 64 ≤ 2 ^ i := Nat.pow_le_pow_right (by decide) high
    have small := mask.toNat_lt
    omega
  exact List.countP_pos_iff.mpr ⟨i, List.mem_range.mpr low, set⟩

/-- A layout carries at least one channel. -/
theorem channels_pos (l : Layout) : 0 < l.channels := by
  have positive := bitCount_pos l.mask_ne_zero
  have few : bitCount l.mask < 2 ^ 32 := Nat.lt_of_le_of_lt (bitCount_le l.mask) (by decide)
  rw [UInt32.lt_iff_toNat_lt, channels, UInt32.toNat_ofNat_of_lt' few]
  exact positive

end Layout

/-! ## Well-formed descriptors -/

/-- The stream has a size and a time base. -/
def VideoDescriptor.IsWellFormed (d : VideoDescriptor) : Prop :=
  0 < d.width ∧ 0 < d.height ∧ d.timeBase.IsPositive

/-- The stream has a rate, channels and a time base, and its layout is one of so many channels. -/
def AudioDescriptor.IsWellFormed (d : AudioDescriptor) : Prop :=
  0 < d.sampleRate ∧ 0 < d.channels ∧ d.timeBase.IsPositive ∧ d.IsConsistent

/-- The stream, of either kind, is well-formed. -/
def Descriptor.IsWellFormed : Descriptor → Prop
  | .video d => d.IsWellFormed
  | .audio d => d.IsWellFormed

/-! ## Checked parameters -/

theorem VideoParams.isWellFormed_of_check {p : VideoParams} {d : VideoDescriptor}
    (h : p.check = .ok d) : d.IsWellFormed := by
  obtain ⟨⟨width, height, _, base⟩, rfl⟩ := check_eq_ok_iff.mp h
  exact ⟨UInt32.pos_iff_ne_zero.mpr width, UInt32.pos_iff_ne_zero.mpr height, base⟩

theorem AudioParams.isWellFormed_of_check {p : AudioParams} {d : AudioDescriptor}
    (h : p.check = .ok d) : d.IsWellFormed := by
  obtain ⟨usable, asks⟩ := check_eq_ok_iff.mp h
  have rate : 0 < d.sampleRate := by
    rw [asks.sampleRate_eq]
    exact usable.rate_pos
  refine ⟨rate, ?_, asks.isPositive usable, fun l mem => ?_⟩
  · rcases usable.channels_known with ⟨l, named, _⟩ | ⟨bare, positive⟩
    · rw [asks.channels_of_layout l named]
      exact l.channels_pos
    · rw [asks.channels_of_count bare]
      exact positive
  · rw [asks.layout_eq] at mem
    exact (asks.channels_of_layout l mem).symm

/-- Checked parameters give a well-formed descriptor of their own kind. -/
theorem Params.isWellFormed_of_check {p : Params} {d : Descriptor} (h : p.check = .ok d) :
    d.media = p.media ∧ d.IsWellFormed := by
  cases p with
  | video p =>
    cases checked : p.check with
    | error e => simp [check, checked, Except.map] at h
    | ok d' =>
      simp only [check, checked, Except.map, Except.ok.injEq] at h
      subst h
      exact ⟨rfl, VideoParams.isWellFormed_of_check checked⟩
  | audio p =>
    cases checked : p.check with
    | error e => simp [check, checked, Except.map] at h
    | ok d' =>
      simp only [check, checked, Except.map, Except.ok.injEq] at h
      subst h
      exact ⟨rfl, AudioParams.isWellFormed_of_check checked⟩

/-! ## Descriptors that have come to terms with a link -/

/-- The second descriptor is the first with a layout of so many channels in place of none. -/
def Descriptor.Adopts (d d' : Descriptor) : Prop :=
  ∃ a l, d = .audio a ∧ a.layout = none ∧ l.channels = a.channels
    ∧ d' = .audio { a with layout := some l }

theorem AudioDescriptor.adopt_cases {d d' : AudioDescriptor} {proposed : Option Layout}
    (h : (d.adopt proposed).result = .ok d') :
    d' = d ∨ ∃ l, d.layout = none ∧ l.channels = d.channels ∧ d' = { d with layout := some l } := by
  unfold adopt at h
  split at h
  · rename_i l blank
    split at h
    · rename_i agrees
      cases h
      exact .inr ⟨l, blank, agrees, rfl⟩
    · cases h
  · cases h
    exact .inl rfl

namespace Descriptor

variable {d d' d'' : Descriptor} {link link' : Link}

/-- Coming to terms leaves the descriptor as it is, or has it adopt the layout of the link. -/
theorem settled_cases (h : (d.settled link).result = .ok (d', link')) : d' = d ∨ d.Adopts d' := by
  unfold settled at h
  rw [Logged.result_bind] at h
  cases checked : (link.checkMedia d).result with
  | error e =>
    rw [checked] at h
    cases h
  | ok _ =>
    rw [checked] at h
    cases d with
    | video v =>
      cases h
      exact .inl rfl
    | audio a =>
      simp only [Except.bind, Logged.result_bind] at h
      cases adopted : (a.adopt link.layout).result with
      | error e =>
        rw [adopted] at h
        cases h
      | ok a' =>
        rw [adopted] at h
        cases h
        rcases AudioDescriptor.adopt_cases adopted with rfl | ⟨l, blank, agrees, rfl⟩
        · exact .inl rfl
        · exact .inr ⟨a, l, rfl, blank, agrees, rfl⟩

theorem Adopts.media_eq (h : d.Adopts d') : d'.media = d.media := by
  obtain ⟨a, l, rfl, _, _, rfl⟩ := h
  rfl

theorem Adopts.isWellFormed (h : d.Adopts d') (formed : d.IsWellFormed) : d'.IsWellFormed := by
  obtain ⟨a, l, rfl, _, agrees, rfl⟩ := h
  obtain ⟨rate, channels, base, _⟩ := formed
  refine ⟨rate, channels, base, fun l' mem => ?_⟩
  cases mem
  exact agrees

/-- A layout that was adopted is not given up for another. -/
theorem Adopts.not_adopts (h : d.Adopts d') : ¬ d'.Adopts d'' := by
  obtain ⟨a, l, rfl, _, _, rfl⟩ := h
  rintro ⟨a', l', same, blank, _, _⟩
  cases same
  cases blank

end Descriptor

end FrameIngest
