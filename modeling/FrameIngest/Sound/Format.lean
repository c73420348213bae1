/-
FrameIngest.Sound.Format — sample formats.

* `SampleFormat` — the known formats: five kinds of number, each interleaved
  or with a plane per channel;
* `parse` — the format of a name.
-/
import FrameIngest.Text.Blank
import FrameIngest.Text.Misread

namespace FrameIngest

/-- How the samples of a block are stored; a final `p` means a plane per channel. -/
inductive SampleFormat where
  | u8
  | s16
  | s32
  | flt
  | dbl
  | u8p
  | s16p
  | s32p
  | fltp
  | dblp
  deriving DecidableEq, Repr

namespace SampleFormat

/-- Every format. -/
def all : List SampleFormat := [.u8, .s16, .s32, .flt, .dbl, .u8p, .s16p, .s32p, .fltp, .dblp]

/-- The short name. -/
def name : SampleFormat → String
  | .u8 => "u8"
  | .s16 => "s16"
  | .s32 => "s32"
  | .flt => "flt"
  | .dbl => "dbl"
  | .u8p => "u8p"
  | .s16p => "s16p"
  | .s32p => "s32p"
  | .fltp => "fltp"
  | .dblp => "dblp"

instance : ToString SampleFormat := ⟨name⟩

/-- The bytes of one sample of one channel. -/
def bytes : SampleFormat → Nat
  | .u8 | .u8p => 1
  | .s16 | .s16p => 2
  | .s32 | .s32p | .flt | .fltp => 4
  | .dbl | .dblp => 8

/-- Each channel has a plane of its own. -/
def isPlanar : SampleFormat → Bool
  | .u8p | .s16p | .s32p | .fltp | .dblp => true
  | .u8 | .s16 | .s32 | .flt | .dbl => false

/-- The format that a trimmed text names. -/
def ofName? (s : String) : Option SampleFormat := all.find? (·.name = s)

/-- The format that a text names between blanks. -/
def parse (text : String) : Except Text.Misread SampleFormat :=
  let s := String.ofList (Text.trim text.toList)
  match ofName? s with
  | some f => .ok f
  | none => .error (.format s)

/-- The sizes in bytes of the planes of a block of `samples` samples per channel. -/
def planes (f : SampleFormat) (samples : Nat) (channels : UInt32) : List Nat :=
  if f.isPlanar then List.replicate channels.toNat (samples * f.bytes)
  else [samples * f.bytes * channels.toNat]

end SampleFormat

end FrameIngest
