/-
FrameIngest.Feed.Admission — whether a frame fits its stream.

Pictures and samples are treated differently: a picture that drifts from the
promised format is let in and only noticed, a block of samples that drifts is
refused.

* `checkChannels` — a frame agrees with its own layout;
* `checkMedia` — a frame is of the kind of the stream;
* `checkFormat` — a frame has the format of the stream, or `drifts` from it.
-/
import FrameIngest.Feed.Outcome

namespace FrameIngest

/-- How a frame that is let in compares with its stream. -/
inductive Fit where
  | matches
  | drifts
  deriving DecidableEq, Repr

/-- The picture has the size and the pixel format of the stream. -/
def VideoDescriptor.Admits (d : VideoDescriptor) (f : VideoFrame) : Prop :=
  d.width = f.width ∧ d.height = f.height ∧ d.pixelFormat = f.format

instance (d : VideoDescriptor) (f : VideoFrame) : Decidable (d.Admits f) :=
  inferInstanceAs (Decidable (_ ∧ _ ∧ _))

/-- The layouts agree; where neither side has one, the counts of channels do. -/
def AudioDescriptor.AdmitsChannels (d : AudioDescriptor) (f : AudioFrame) : Prop :=
  d.layout = f.layout ∧ (d.layout = none → d.channels = f.channels)

instance (d : AudioDescriptor) (f : AudioFrame) : Decidable (d.AdmitsChannels f) :=
  inferInstanceAs (Decidable (_ ∧ (_ → _)))

/-- The block has the sample format, the rate and the channels of the stream. -/
def AudioDescriptor.Admits (d : AudioDescriptor) (f : AudioFrame) : Prop :=
  d.sampleFormat = f.format ∧ d.sampleRate = f.rate ∧ d.AdmitsChannels f

instance (d : AudioDescriptor) (f : AudioFrame) : Decidable (d.Admits f) :=
  inferInstanceAs (Decidable (_ ∧ _ ∧ _))

namespace Admission

/-- A block with a layout has as many channels as the layout. -/
def checkChannels : Frame → Logged Unit
  | .video _ => pure ()
  | .audio f =>
    match f.layout with
    | none => pure ()
    | some l =>
      if l.channels = f.channels then pure ()
      else .refuse (.layoutConflict l f.channels) [.layoutConflict l f.channels]

/-- The frame is of the kind of the stream. -/
def checkMedia (d : Descriptor) (f : Frame) : Logged Unit :=
  if d.media = f.media then pure () else .refuse (.frameMedia d.media f.media)

/-- A picture is let in whatever its format. -/
def checkVideo (source : String) (d : VideoDescriptor) (f : VideoFrame) : Logged Fit :=
  if d.Admits f then pure .matches else ⟨.ok .drifts, [.videoDrift source d f]⟩

/-- A block of samples is let in if it has the format of the stream. -/
def checkAudio (source : String) (d : AudioDescriptor) (f : AudioFrame) : Logged Fit :=
  if d.Admits f then pure .matches else .refuse .audioDrift [.audioDrift source d f]

/-- The frame, of either kind, against the format of the stream. -/
def checkFormat (source : String) : Descriptor → Frame → Logged Fit
  | .video d, .video f => checkVideo source d f
  | .audio d, .audio f => checkAudio source d f
  | .video _, .audio _ => .refuse (.frameMedia .video .audio)
  | .audio _, .video _ => .refuse (.frameMedia .audio .video)

end Admission

end FrameIngest
