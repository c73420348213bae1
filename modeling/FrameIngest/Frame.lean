/-
FrameIngest.Frame — pictures and blocks of samples.

A frame states its own format next to its planes. Of the planes only the sizes
in bytes are kept here; no rule of this library looks at what they hold.

* `VideoFrame`, `AudioFrame`, `Frame`;
* `VideoFrame.ofSize`, `AudioFrame.ofCount`, `AudioFrame.ofLayout` — frames
  with the planes that their format asks for.
-/
import FrameIngest.Fraction
import FrameIngest.Media
import FrameIngest.Picture.Format
import FrameIngest.Sound.Format
import FrameIngest.Sound.Layout

namespace FrameIngest

/-- A picture. -/
structure VideoFrame where
  width : UInt32
  height : UInt32
  format : PixelFormat
  /-- Bytes per row of each plane. -/
  lineSizes : List Nat
  /-- Bytes of each plane. -/
  planes : List Nat
  /-- Shape of a pixel; `0/1` when unknown. -/
  sampleAspect : Fraction := .unknown
  /-- Time of presentation, in units of the stream's time base. -/
  pts : Option Int64 := none
  isKey : Bool := false
  deriving DecidableEq, Repr

/-- A picture with tightly packed planes. -/
def VideoFrame.ofSize (width height : UInt32) (format : PixelFormat) : VideoFrame :=
  let planes := format.planes width height
  { width, height, format, lineSizes := planes.map (·.lineSize), planes := planes.map (·.size) }

/-- A block of samples. -/
structure AudioFrame where
  /-- Samples per channel. -/
  samples : Nat
  /-- Samples per second. -/
  rate : UInt32
  format : SampleFormat
  /-- The layout, if the producer knows it. -/
  layout : Option Layout := none
  /-- How many channels the planes hold. -/
  channels : UInt32
  /-- Bytes of each plane. -/
  planes : List Nat
  /-- Time of presentation, in units of the stream's time base. -/
  pts : Option Int64 := none
  deriving DecidableEq, Repr

namespace AudioFrame

/-- A block that only knows how many channels it has. -/
def ofCount (samples : Nat) (format : SampleFormat) (rate channels : UInt32) : AudioFrame :=
  { samples, rate, format, channels, planes := format.planes samples channels }

/-- A block with the channels of a layout. -/
def ofLayout (samples : Nat) (format : SampleFormat) (rate : UInt32) (layout : Layout) :
    AudioFrame :=
  { ofCount samples format rate layout.channels with layout := some layout }

end AudioFrame

/-- A frame on its way through a source. -/
inductive Frame where
  | video (frame : VideoFrame)
  | audio (frame : AudioFrame)
  deriving DecidableEq, Repr

namespace Frame

def media : Frame → Media
  | .video _ => .video
  | .audio _ => .audio

def pts : Frame → Option Int64
  | .video f => f.pts
  | .audio f => f.pts

def withPts (pts : Option Int64) : Frame → Frame
  | .video f => .video { f with pts }
  | .audio f => .audio { f with pts }

end Frame

end FrameIngest
