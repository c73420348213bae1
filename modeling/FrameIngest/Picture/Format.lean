/-
FrameIngest.Picture.Format — pixel formats and the planes of a picture.

A pixel format has a name, an index, and a rule that says how many bytes each
plane of a picture takes.

* `PixelFormat` — the known formats, `all` of them in index order;
* `planes` — bytes per row and rows of each plane, without padding;
* `parse` — a name or, failing that, an index.
-/
import FrameIngest.Text.Blank
import FrameIngest.Text.Misread
import FrameIngest.Text.Numeral

namespace FrameIngest

/-- How the samples of a picture are stored. -/
inductive PixelFormat where
  | yuv420p
  | yuyv422
  | rgb24
  | bgr24
  | yuv422p
  | yuv444p
  | yuv410p
  | yuv411p
  | gray
  | yuvj420p
  | yuvj422p
  | yuvj444p
  | uyvy422
  | nv12
  | nv21
  | argb
  | rgba
  | abgr
  | bgra
  | yuv420p10le
  | p010le
  deriving DecidableEq, Repr

/-- The room that one plane takes: bytes per row, and rows. -/
structure Plane where
  lineSize : Nat
  rows : Nat
  deriving DecidableEq, Repr

def Plane.size (p : Plane) : Nat := p.lineSize * p.rows

/-- `n / 2 ^ shift`, rounded up. -/
def shiftUp (n shift : Nat) : Nat := (n + (1 <<< shift) - 1) >>> shift

namespace PixelFormat

/-- Every format, in index order. -/
def all : List PixelFormat :=
  [.yuv420p, .yuyv422, .rgb24, .bgr24, .yuv422p, .yuv444p, .yuv410p, .yuv411p, .gray,
   .yuvj420p, .yuvj422p, .yuvj444p, .uyvy422, .nv12, .nv21, .argb, .rgba, .abgr, .bgra,
   .yuv420p10le, .p010le]

def name : PixelFormat → String
  | .yuv420p => "yuv420p"
  | .yuyv422 => "yuyv422"
  | .rgb24 => "rgb24"
  | .bgr24 => "bgr24"
  | .yuv422p => "yuv422p"
  | .yuv444p => "yuv444p"
  | .yuv410p => "yuv410p"
  | .yuv411p => "yuv411p"
  | .gray => "gray"
  | .yuvj420p => "yuvj420p"
  | .yuvj422p => "yuvj422p"
  | .yuvj444p => "yuvj444p"
  | .uyvy422 => "uyvy422"
  | .nv12 => "nv12"
  | .nv21 => "nv21"
  | .argb => "argb"
  | .rgba => "rgba"
  | .abgr => "abgr"
  | .bgra => "bgra"
  | .yuv420p10le => "yuv420p10le"
  | .p010le => "p010le"

instance : ToString PixelFormat := ⟨name⟩

/-- The place of a format in `all`. -/
def index (f : PixelFormat) : Nat := all.idxOf f

def ofIndex? (n : Nat) : Option PixelFormat := all[n]?

def ofName? (s : String) : Option PixelFormat := all.find? (·.name = s)

/-! ## Planes -/

def planeCount : PixelFormat → Nat
  | .yuv420p | .yuv422p | .yuv444p | .yuv410p | .yuv411p | .yuvj420p | .yuvj422p | .yuvj444p
  | .yuv420p10le => 3
  | .nv12 | .nv21 | .p010le => 2
  | .yuyv422 | .uyvy422 | .rgb24 | .bgr24 | .gray | .argb | .rgba | .abgr | .bgra => 1

/-- The base-two logarithms of the factors by which chroma is coarser than luma, across and
down. -/
def chromaShift : PixelFormat → Nat × Nat
  | .yuv420p | .yuvj420p | .nv12 | .nv21 | .yuv420p10le | .p010le => (1, 1)
  | .yuv422p | .yuvj422p | .yuyv422 | .uyvy422 => (1, 0)
  | .yuv410p => (2, 2)
  | .yuv411p => (2, 0)
  | _ => (0, 0)

/-- The bytes that one pixel takes in the first plane. -/
def pixelStep : PixelFormat → Nat
  | .yuyv422 | .uyvy422 | .yuv420p10le | .p010le => 2
  | .rgb24 | .bgr24 => 3
  | .argb | .rgba | .abgr | .bgra => 4
  | _ => 1

/-- The planes of a picture of `width` times `height` pixels. Two planes mean that the second
holds both chroma samples of a position side by side. -/
def planes (f : PixelFormat) (width height : UInt32) : List Plane :=
  let first : Plane := ⟨width.toNat * f.pixelStep, height.toNat⟩
  let across := shiftUp width.toNat f.chromaShift.1
  let down := shiftUp height.toNat f.chromaShift.2
  match f.planeCount with
  | 1 => [first]
  | 2 => [first, ⟨across * 2 * f.pixelStep, down⟩]
  | _ => [first, ⟨across * f.pixelStep, down⟩, ⟨across * f.pixelStep, down⟩]

/-! ## Reading -/

/-- The format that a trimmed text names, or whose index it is. -/
def read? (s : List Char) : Option PixelFormat :=
  (ofName? (String.ofList s)).or ((Text.readUInt64 s).bind fun n => ofIndex? n.toNat)

/-- The format that a text names between blanks. -/
def parse (text : String) : Except Text.Misread PixelFormat :=
  let s := Text.trim text.toList
  match read? s with
  | some f => .ok f
  | none => .error (.format (String.ofList s))

end PixelFormat

end FrameIngest
