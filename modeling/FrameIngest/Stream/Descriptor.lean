/-
FrameIngest.Stream.Descriptor — what a stream has promised about its frames.

* `VideoDescriptor`, `AudioDescriptor`, `Descriptor`;
* `AudioDescriptor.spec` — the layout, or the bare count of channels;
* `ToString Descriptor` — the line that is logged when a source is configured.
-/
import FrameIngest.Fraction
import FrameIngest.Media
import FrameIngest.Picture.Format
import FrameIngest.Sound.Format
import FrameIngest.Sound.Layout.Notation

namespace FrameIngest

/-- The format of a stream of pictures. -/
structure VideoDescriptor where
  width : UInt32
  height : UInt32
  pixelFormat : PixelFormat
  /-- Shape of a pixel; `0/1` when unknown. -/
  sampleAspect : Fraction := .unknown
  /-- The unit of presentation times. -/
  timeBase : Fraction
  /-- Advisory; `0/1` when unknown. -/
  frameRate : Fraction := .unknown
  /-- Options of a scaler that may follow the source. -/
  scaler : Option String := none
  deriving DecidableEq, Repr

/-- The format of a stream of samples. -/
structure AudioDescriptor where
  sampleRate : UInt32
  sampleFormat : SampleFormat
  /-- Absent when only the count of channels is known. -/
  layout : Option Layout := none
  channels : UInt32
  /-- The unit of presentation times. -/
  timeBase : Fraction
  deriving DecidableEq, Repr

namespace AudioDescriptor

/-- What the stream says about its channels. -/
def spec (d : AudioDescriptor) : ChannelSpec :=
  match d.layout with
  | some l => .layout l
  | none => .count d.channels

/-- The layout, where there is one, has as many channels as the stream. -/
def IsConsistent (d : AudioDescriptor) : Prop := ∀ l ∈ d.layout, l.channels = d.channels

instance (d : AudioDescriptor) : Decidable d.IsConsistent :=
  inferInstanceAs (Decidable (∀ l ∈ d.layout, _))

end AudioDescriptor

/-- The format of a stream. -/
inductive Descriptor where
  | video (descriptor : VideoDescriptor)
  | audio (descriptor : AudioDescriptor)
  deriving DecidableEq, Repr

namespace Descriptor

/-- The kind of the stream. -/
def media : Descriptor → Media
  | .video _ => .video
  | .audio _ => .audio

/-- The unit of presentation times. -/
def timeBase : Descriptor → Fraction
  | .video d => d.timeBase
  | .audio d => d.timeBase

/-- The format in one line. -/
def text : Descriptor → String
  | .video d =>
    let scaler := d.scaler.getD ""
    s!"w:{d.width} h:{d.height} pixfmt:{d.pixelFormat} tb:{d.timeBase} fr:{d.frameRate} "
      ++ s!"sar:{d.sampleAspect} sws_param:{scaler}"
  | .audio d =>
    s!"tb:{d.timeBase} samplefmt:{d.sampleFormat} samplerate:{d.sampleRate} chlayout:{d.spec}"

instance : ToString Descriptor := ⟨text⟩

end Descriptor

end FrameIngest
