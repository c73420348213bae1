/-
FrameIngest.Stream.Link — the link that a source feeds.

A link belongs to the filter graph. A source first offers its format on it,
and later writes the properties of its stream onto it.

* `Offer`, `Descriptor.offer` — the one format that a stream has to offer;
* `Link` — the fields that a source may fill in;
* `withVideo`, `withAudio` — a link that carries a given stream.
-/
import FrameIngest.Stream.Descriptor

namespace FrameIngest

/-- The formats that can be had on a link. -/
inductive Offer where
  | video (pixelFormats : List PixelFormat)
  | audio (sampleFormats : List SampleFormat) (sampleRates : List UInt32)
      (channels : List ChannelSpec)
  deriving DecidableEq, Repr

/-- The offer of a stream: its own format and no other. -/
def Descriptor.offer : Descriptor → Offer
  | .video d => .video [d.pixelFormat]
  | .audio d => .audio [d.sampleFormat] [d.sampleRate] [d.spec]

/-- A link of the filter graph. -/
structure Link where
  /-- The kind of frames that the link carries. -/
  media : Media
  offer : Option Offer := none
  width : UInt32 := 0
  height : UInt32 := 0
  sampleAspect : Fraction := .unknown
  timeBase : Fraction := .unknown
  frameRate : Fraction := .unknown
  sampleRate : UInt32 := 0
  /-- The layout that the graph has settled on, if any. -/
  layout : Option Layout := none
  channels : UInt32 := 0
  deriving DecidableEq, Repr

namespace Link

/-- The link with a layout that the graph has settled on. -/
def withLayout (link : Link) (layout : Layout) : Link :=
  { link with layout := some layout, channels := layout.channels }

/-- The link with the properties of a stream of pictures. -/
def withVideo (link : Link) (d : VideoDescriptor) : Link :=
  { link with
    width := d.width, height := d.height, sampleAspect := d.sampleAspect,
    frameRate := d.frameRate, timeBase := d.timeBase }

/-- The link with the properties of a stream of samples. -/
def withAudio (link : Link) (d : AudioDescriptor) : Link :=
  { link with
    layout := d.layout, channels := d.channels, sampleRate := d.sampleRate,
    timeBase := d.timeBase }

end Link

end FrameIngest
