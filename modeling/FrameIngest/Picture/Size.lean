/-
FrameIngest.Picture.Size — picture sizes from texts.

A size is written as two numbers around an `x`, or as one of the names that
common sizes have.

* `Size` — width and height;
* `Size.named` — the names;
* `Size.parse?` — a name or two positive numbers.
-/
import FrameIngest.Text.Blank
import FrameIngest.Text.Numeral
import FrameIngest.Text.Split

namespace FrameIngest

/-- Width and height of a picture, in pixels. -/
structure Size where
  width : UInt32
  height : UInt32
  deriving DecidableEq, Repr

namespace Size

/-- The sizes that have a name. -/
def named : List (String × Size) :=
  [("ntsc", ⟨720, 480⟩),
   ("pal", ⟨720, 576⟩),
   ("qntsc", ⟨352, 240⟩),
   ("qpal", ⟨352, 288⟩),
   ("sntsc", ⟨640, 480⟩),
   ("spal", ⟨768, 576⟩),
   ("film", ⟨352, 240⟩),
   ("ntsc-film", ⟨352, 240⟩),
   ("sqcif", ⟨128, 96⟩),
   ("qcif", ⟨176, 144⟩),
   ("cif", ⟨352, 288⟩),
   ("4cif", ⟨704, 576⟩),
   ("16cif", ⟨1408, 1152⟩),
   ("qqvga", ⟨160, 120⟩),
   ("qvga", ⟨320, 240⟩),
   ("vga", ⟨640, 480⟩),
   ("svga", ⟨800, 600⟩),
   ("xga", ⟨1024, 768⟩),
   ("sxga", ⟨1280, 1024⟩),
   ("uxga", ⟨1600, 1200⟩),
   ("hd480", ⟨852, 480⟩),
   ("hd720", ⟨1280, 720⟩),
   ("hd1080", ⟨1920, 1080⟩),
   ("uhd2160", ⟨3840, 2160⟩)]

/-- The size of a name. -/
def ofName? (s : String) : Option Size := (named.find? (·.1 = s)).map (·.2)

/-- The written form: the two numbers around an `x`. -/
def chars (s : Size) : List Char :=
  Text.decimal s.width.toNat ++ 'x' :: Text.decimal s.height.toNat

instance : ToString Size := ⟨fun s => String.ofList s.chars⟩

/-- The mark between width and height. -/
def isTimes (c : Char) : Bool := c == 'x' || c == 'X'

/-- Two positive numbers around the first `x`, in either case, with no blanks between. -/
def ofNumbers? (s : List Char) : Option Size := do
  let (w, h) ← Text.cut isTimes s
  let width ← Text.readUInt32 w
  let height ← Text.readUInt32 h
  if width = 0 ∨ height = 0 then none else return ⟨width, height⟩

/-- The size that a trimmed text writes. -/
def read? (s : List Char) : Option Size :=
  (ofName? (String.ofList s)).or (ofNumbers? s)

/-- The size that a text writes between blanks. -/
def parse? (text : String) : Option Size := read? (Text.trim text.toList)

end Size

end FrameIngest
