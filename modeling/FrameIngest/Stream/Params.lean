/-
FrameIngest.Stream.Params — the parameters of a source and their check.

Parameters may be incomplete; checking them gives a descriptor or the first
reason why there is none.

* `VideoParams`, `AudioParams`, `Params`;
* `check` — size, pixel format, time base; or sample format, rate, channels,
  time base, in this order;
* `ofDescriptor` — the parameters that ask for a given descriptor.
-/
import FrameIngest.Stream.Descriptor
import FrameIngest.Stream.SetupError

namespace FrameIngest

/-! ## Video -/

structure VideoParams where
  timeBase : Fraction := .unknown
  frameRate : Fraction := .unknown
  width : UInt32 := 0
  height : UInt32 := 0
  /-- Required. -/
  pixelFormat : Option PixelFormat := none
  pixelAspect : Fraction := .unknown
  scaler : Option String := none
  deriving DecidableEq, Repr, Inhabited

namespace VideoParams

def check (p : VideoParams) : Except SetupError VideoDescriptor :=
  if p.width = 0 ∨ p.height = 0 then .error (.invalidSize p.width p.height)
  else
    match p.pixelFormat with
    | none => .error .missingPixelFormat
    | some pixelFormat =>
      if p.timeBase.IsPositive then
        .ok { width := p.width, height := p.height, pixelFormat, sampleAspect := p.pixelAspect,
              timeBase := p.timeBase, frameRate := p.frameRate, scaler := p.scaler }
      else .error (.invalidTimeBase p.timeBase)

def ofDescriptor (d : VideoDescriptor) : VideoParams :=
  { timeBase := d.timeBase, frameRate := d.frameRate, width := d.width, height := d.height,
    pixelFormat := some d.pixelFormat, pixelAspect := d.sampleAspect, scaler := d.scaler }

end VideoParams

/-! ## Audio -/

structure AudioParams where
  /-- One over the sample rate, when absent or zero. -/
  timeBase : Option Fraction := none
  /-- Samples per second, required. -/
  sampleRate : UInt32 := 0
  /-- Required. -/
  sampleFormat : Option SampleFormat := none
  /-- Zero when only the layout is given. -/
  channels : UInt32 := 0
  layout : Option Layout := none
  deriving DecidableEq, Repr, Inhabited

namespace AudioParams

/-- The count of channels: that of the layout, with which a given count has to agree, or else the
given count, which is never turned into a layout. -/
def checkChannels (p : AudioParams) : Except SetupError UInt32 :=
  match p.layout with
  | some l =>
    if p.channels ≠ 0 ∧ p.channels ≠ l.channels then .error (.channelMismatch p.channels l)
    else .ok l.channels
  | none => if p.channels = 0 then .error .missingChannels else .ok p.channels

/-- One over the sample rate; a rate that is no 32-bit term counts as the largest term. -/
def usualTimeBase (sampleRate : UInt32) : Fraction :=
  ⟨1, .ofNat (min sampleRate.toNat 0x7fffffff)⟩

/-- The time base: the given one if it is not zero, and else the usual one. -/
def checkTimeBase (p : AudioParams) : Except SetupError Fraction :=
  match p.timeBase with
  | some timeBase =>
    if timeBase.IsZero then .ok (usualTimeBase p.sampleRate)
    else if timeBase.IsPositive then .ok timeBase
    else .error (.invalidTimeBase timeBase)
  | none => .ok (usualTimeBase p.sampleRate)

def check (p : AudioParams) : Except SetupError AudioDescriptor :=
  match p.sampleFormat with
  | none => .error .missingSampleFormat
  | some sampleFormat =>
    if p.sampleRate = 0 then .error .invalidSampleRate
    else do
      let channels ← p.checkChannels
      let timeBase ← p.checkTimeBase
      return { sampleRate := p.sampleRate, sampleFormat, layout := p.layout, channels, timeBase }

def ofDescriptor (d : AudioDescriptor) : AudioParams :=
  { timeBase := some d.timeBase, sampleRate := d.sampleRate,
    sampleFormat := some d.sampleFormat, channels := d.channels, layout := d.layout }

end AudioParams

/-! ## Either kind -/

/-- The parameters of a source. -/
inductive Params where
  | video (params : VideoParams)
  | audio (params : AudioParams)
  deriving DecidableEq, Repr

namespace Params

def media : Params → Media
  | .video _ => .video
  | .audio _ => .audio

def check : Params → Except SetupError Descriptor
  | .video p => p.check.map .video
  | .audio p => p.check.map .audio

def ofDescriptor : Descriptor → Params
  | .video d => .video (.ofDescriptor d)
  | .audio d => .audio (.ofDescriptor d)

end Params

end FrameIngest
