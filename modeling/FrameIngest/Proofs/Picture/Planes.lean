/-
FrameIngest.Proofs.Picture.Planes — the planes of a picture hold its samples.

A picture in luma and chroma has one luma sample for each pixel, and two chroma
samples for each position of a coarser grid that covers all pixels. Where the
components lie in planes of their own, or the two of chroma share a plane, the
planes take just the bytes of these samples, for even and for odd sizes.

The packed formats keep two pixels and the chroma between them together, and
give a row two bytes for each pixel. So a row of an odd width ends after half a
pair, and has no room for one of its chroma samples
(`room_for_samples_unless_pair_cut`).
-/
import FrameIngest.Picture.Format
import Mathlib.Algebra.Order.Floor.Div
import Mathlib.Algebra.Order.Ring.Nat

namespace FrameIngest

/-! ## Rounding up -/

theorem shiftUp_eq_ceilDiv (n shift : Nat) : shiftUp n shift = n ⌈/⌉ 2 ^ shift := by
  rw [Nat.ceilDiv_eq_add_pred_div, shiftUp, Nat.shiftRight_eq_div_pow, Nat.one_shiftLeft]

namespace PixelFormat

/-! ## Luma and chroma -/

/-- Each component in a plane of its own. -/
def planar : List PixelFormat :=
  [.yuv420p, .yuv422p, .yuv444p, .yuv410p, .yuv411p, .yuvj420p, .yuvj422p, .yuvj444p, .yuv420p10le]

/-- Luma in one plane, and both components of chroma in another. -/
def semiPlanar : List PixelFormat := [.nv12, .nv21, .p010le]

/-- All components in one plane. -/
def packed : List PixelFormat := [.yuyv422, .uyvy422]

/-- The bytes of one sample of one component. -/
def sampleBytes : PixelFormat → Nat
  | .yuv420p10le | .p010le => 2
  | _ => 1

/-- The bytes of all samples: one of luma for each pixel, and two of chroma for each position, of
which there are enough to cover the pixels at the edges. -/
def samplesSize (f : PixelFormat) (width height : UInt32) : Nat :=
  f.sampleBytes * (width.toNat * height.toNat
    + 2 * ((width.toNat ⌈/⌉ 2 ^ f.chromaShift.1) * (height.toNat ⌈/⌉ 2 ^ f.chromaShift.2)))

/-- The bytes of all planes. -/
def planesSize (f : PixelFormat) (width height : UInt32) : Nat :=
  ((f.planes width height).map Plane.size).sum

variable {f : PixelFormat}

theorem length_planes (f : PixelFormat) (width height : UInt32) :
    (f.planes width height).length = f.planeCount := by
  cases f <;> rfl

/-! ## How many bytes the planes take -/

/-- Outside the packed formats, a pixel takes as much of the first plane as one sample. -/
theorem pixelStep_eq_sampleBytes : ∀ f ∈ planar ++ semiPlanar, f.pixelStep = f.sampleBytes := by
  decide

theorem planesSize_of_planar (h : f ∈ planar) (width height : UInt32) :
    f.planesSize width height = f.samplesSize width height := by
  have three : ∀ f ∈ planar, f.planeCount = 3 := by decide
  have step := pixelStep_eq_sampleBytes f (List.mem_append_left _ h)
  simp only [planesSize, planes, three f h, step, shiftUp_eq_ceilDiv, List.map_cons, List.map_nil,
    List.sum_cons, List.sum_nil, Plane.size, samplesSize]
  grind

theorem planesSize_of_semiPlanar (h : f ∈ semiPlanar) (width height : UInt32) :
    f.planesSize width height = f.samplesSize width height := by
  have two : ∀ f ∈ semiPlanar, f.planeCount = 2 := by decide
  have step := pixelStep_eq_sampleBytes f (List.mem_append_right _ h)
  simp only [planesSize, planes, two f h, step, shiftUp_eq_ceilDiv, List.map_cons, List.map_nil,
    List.sum_cons, List.sum_nil, Plane.size, samplesSize]
  grind

theorem planesSize_of_packed (h : f ∈ packed) (width height : UInt32) :
    f.planesSize width height = 2 * (width.toNat * height.toNat) := by
  have one : ∀ f ∈ packed, f.planeCount = 1 ∧ f.pixelStep = 2 := by decide
  obtain ⟨count, step⟩ := one f h
  simp only [planesSize, planes, count, step, List.map_cons, List.map_nil, List.sum_cons,
    List.sum_nil, Plane.size]
  grind

/-- A packed picture has a pair of chroma samples for each two pixels of a row, and one for the
last pixel of an odd row. -/
theorem samplesSize_of_packed (h : f ∈ packed) (width height : UInt32) :
    f.samplesSize width height
      = (width.toNat + 2 * ((width.toNat + 1) / 2)) * height.toNat := by
  have shape : ∀ f ∈ packed, f.sampleBytes = 1 ∧ f.chromaShift = (1, 0) := by decide
  obtain ⟨bytes, shift⟩ := shape f h
  have half : width.toNat ⌈/⌉ 2 ^ 1 = (width.toNat + 1) / 2 := Nat.ceilDiv_eq_add_pred_div ..
  have whole : height.toNat ⌈/⌉ 2 ^ 0 = height.toNat := ceilDiv_one _
  rw [samplesSize, bytes, shift, half, whole]
  grind

/-- The packed formats have room for their samples only in rows of even width. -/
theorem room_of_packed_iff (h : f ∈ packed) (width height : UInt32) :
    f.samplesSize width height ≤ f.planesSize width height
      ↔ width.toNat % 2 = 0 ∨ height = 0 := by
  have blank : height = 0 ↔ height.toNat = 0 := UInt32.toNat_inj.symm
  rw [samplesSize_of_packed h, planesSize_of_packed h, ← mul_assoc, blank]
  rcases Nat.eq_zero_or_pos height.toNat with zero | positive
  · simp [zero]
  · rw [Nat.mul_le_mul_right_iff positive]
    omega

/-! ## Sizes as words -/

theorem chromaShift_le (f : PixelFormat) : f.chromaShift.1 ≤ 2 ∧ f.chromaShift.2 ≤ 2 := by
  cases f <;> decide

theorem pixelStep_le (f : PixelFormat) : f.pixelStep ≤ 4 := by
  cases f <;> decide

/-- The sum that is shifted is far below the words of 64 bits, and so is what comes out. -/
theorem shiftUp_lt (n : UInt32) {shift : Nat} (few : shift ≤ 2) :
    n.toNat + (1 <<< shift) < 2 ^ 33 ∧ shiftUp n.toNat shift < 2 ^ 33 := by
  have word := n.toNat_lt
  have power : 1 <<< shift ≤ 4 := by
    rw [Nat.one_shiftLeft]
    exact Nat.pow_le_pow_right (by decide) few
  have shifted : shiftUp n.toNat shift ≤ n.toNat + (1 <<< shift) - 1 := Nat.shiftRight_le ..
  omega

theorem lt_of_mem_planes {width height : UInt32} {plane : Plane}
    (among : plane ∈ f.planes width height) : plane.lineSize < 2 ^ 36 ∧ plane.rows < 2 ^ 33 := by
  obtain ⟨few, few'⟩ := f.chromaShift_le
  obtain ⟨-, across⟩ := shiftUp_lt width few
  obtain ⟨-, down⟩ := shiftUp_lt height few'
  have wide := width.toNat_lt
  have high := height.toNat_lt
  have step (n : Nat) : n * f.pixelStep ≤ n * 4 := Nat.mul_le_mul_left _ f.pixelStep_le
  have first := step width.toNat
  have single := step (shiftUp width.toNat f.chromaShift.1)
  have double := step (shiftUp width.toNat f.chromaShift.1 * 2)
  simp only [planes] at among
  split at among <;> simp only [List.mem_cons, List.not_mem_nil, or_false] at among
  · subst among
    dsimp only
    omega
  · rcases among with rfl | rfl <;> dsimp only <;> omega
  · rcases among with rfl | rfl | rfl <;> dsimp only <;> omega

/-- Rounding a size up by shifting it, in words of 64 bits. -/
structure RoundsUp (n : UInt32) (shift : Nat) : Prop where
  sum_lt : n.toNat + (1 <<< shift) < UInt64.size
  eq_ceilDiv : shiftUp n.toNat shift = n.toNat ⌈/⌉ 2 ^ shift

theorem roundsUp (n : UInt32) {shift : Nat} (few : shift ≤ 2) : RoundsUp n shift where
  sum_lt := (shiftUp_lt n few).1.trans (by decide)
  eq_ceilDiv := shiftUp_eq_ceilDiv ..

/-- **Room for samples.** The planes of a picture in luma and chroma take the bytes of its samples
at least, unless the format is packed and the rows have odd width; outside the packed formats they
take no more. There are as many planes as the format has, their sizes fit words of 64 bits, and the
coarser grid of chroma is rounded up exactly. -/
theorem room_for_samples_unless_pair_cut (f : PixelFormat)
    (components : f ∈ planar ++ semiPlanar ++ packed) (width height : UInt32) :
    (f.samplesSize width height ≤ f.planesSize width height
        ↔ (f ∈ packed → width.toNat % 2 = 0 ∨ height = 0))
      ∧ (f ∈ planar ++ semiPlanar → f.planesSize width height = f.samplesSize width height)
      ∧ (f.planes width height).length = f.planeCount
      ∧ (∀ plane ∈ f.planes width height,
        plane.lineSize < UInt64.size ∧ plane.rows < UInt64.size)
      ∧ RoundsUp width f.chromaShift.1 ∧ RoundsUp height f.chromaShift.2 := by
  have equal : f ∈ planar ++ semiPlanar →
      f.planesSize width height = f.samplesSize width height := by
    intro apart
    rcases List.mem_append.mp apart with three | two
    · exact planesSize_of_planar three width height
    · exact planesSize_of_semiPlanar two width height
  obtain ⟨few, few'⟩ := f.chromaShift_le
  refine ⟨?_, equal, length_planes f width height, fun plane among => ?_, roundsUp width few,
    roundsUp height few'⟩
  · rcases List.mem_append.mp components with apart | one
    · have other : ∀ f ∈ planar ++ semiPlanar, f ∉ packed := by decide
      simp [equal apart, other f apart]
    · simp [room_of_packed_iff one, one]
  · obtain ⟨line, rows⟩ := lt_of_mem_planes among
    exact ⟨line.trans (by decide), rows.trans (by decide)⟩

/-- An odd picture in two planes of two-byte samples, and an even one in one plane. -/
theorem odd_and_even_room :
    [p010le, uyvy422] ⊆ planar ++ semiPlanar ++ packed
      ∧ planesSize .p010le 5 3 = samplesSize .p010le 5 3
      ∧ samplesSize .uyvy422 6 3 ≤ planesSize .uyvy422 6 3 := by
  have components : [p010le, uyvy422] ⊆ planar ++ semiPlanar ++ packed := by decide
  have apart := room_for_samples_unless_pair_cut .p010le (components (by decide)) 5 3
  have together := room_for_samples_unless_pair_cut .uyvy422 (components (by decide)) 6 3
  exact ⟨components, apart.2.1 (by decide), together.1.mpr (by decide)⟩

/-- Three packed rows of five pixels have thirty-three samples and thirty bytes. -/
theorem odd_packed_rows_lack_room :
    planesSize .yuyv422 5 3 = 30 ∧ samplesSize .yuyv422 5 3 = 33
      ∧ ¬ ∀ f ∈ planar ++ semiPlanar ++ packed, ∀ width height : UInt32,
        f.samplesSize width height ≤ f.planesSize width height := by
  refine ⟨by decide, by decide, fun room => ?_⟩
  exact absurd (room .yuyv422 (by decide) 5 3) (by decide)

end PixelFormat

end FrameIngest
