/-
FrameIngest.Stream.SetupError — why a source cannot be set up.

Each constructor is one cause, met while an option text is read, while the
parameters are checked, or when a source is configured.
-/
import FrameIngest.Fraction
import FrameIngest.Media
import FrameIngest.Sound.Layout.Notation

namespace FrameIngest

/-- A reason to refuse the parameters of a stream. -/
inductive SetupError where
  /-- The option text is blank. -/
  | missingArguments
  /-- The positional form has the wrong number of fields. -/
  | positionalArity (expected found : Nat) (args : String)
  /-- A piece of the option text has no `=`. -/
  | malformedOption (piece : String)
  | unknownOption (key : String) (media : Media)
  | invalidValue (key value : String)
  | invalidPixelFormat (text : String)
  | missingPixelFormat
  | invalidSampleFormat (text : String)
  | missingSampleFormat
  | invalidLayout (text : String)
  /-- A count of channels is given next to a layout with another count. -/
  | channelMismatch (channels : UInt32) (layout : Layout)
  /-- Neither a count of channels nor a layout is given. -/
  | missingChannels
  | invalidSampleRate
  | invalidSize (width height : UInt32)
  | invalidTimeBase (timeBase : Fraction)
  /-- The parameters are for the other kind of source. -/
  | mediaMismatch (expected found : Media)
  | alreadyConfigured
  deriving DecidableEq, Repr

namespace SetupError

/-- The wording of the error. -/
def message : SetupError → String
  | .missingArguments => "arguments required"
  | .positionalArity expected found args =>
    s!"expected {expected} arguments, but {found} found in '{args}'"
  | .malformedOption piece => s!"option '{piece}' is not of the form key=value"
  | .unknownOption key media => s!"unknown option '{key}' for {media} source"
  | .invalidValue key value => s!"invalid value '{value}' for option '{key}'"
  | .invalidPixelFormat text => s!"invalid pixel format string '{text}'"
  | .missingPixelFormat => "pixel format not specified"
  | .invalidSampleFormat text => s!"invalid sample format '{text}'"
  | .missingSampleFormat => "sample format not specified"
  | .invalidLayout text => s!"invalid channel layout '{text}'"
  | .channelMismatch channels layout =>
    s!"mismatching channel count {channels} and layout '{layout}' ({layout.channels} channels)"
  | .missingChannels => "neither number of channels nor channel layout specified"
  | .invalidSampleRate => "sample rate must be positive"
  | .invalidSize width height => s!"invalid video size {width}x{height}"
  | .invalidTimeBase timeBase => s!"invalid time base {timeBase}"
  | .mediaMismatch expected found => s!"{expected} source cannot take {found} parameters"
  | .alreadyConfigured => "stream is already configured"

end SetupError

end FrameIngest
