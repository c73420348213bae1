/-
FrameIngest.Feed.Fault — why a source refuses.

* `Fault` — the causes of an invalid argument;
* `FeedError` — everything that a call can answer instead of a result; two of
  its cases, *would block* and *end of stream*, only steer the graph.
-/
import FrameIngest.Stream.SetupError

namespace FrameIngest

/-- What is wrong with an argument. -/
inductive Fault where
  /-- A frame has another count of channels than its own layout. -/
  | layoutConflict (layout : Layout) (channels : UInt32)
  /-- A frame is of the other kind than the stream. -/
  | frameMedia (stream frame : Media)
  /-- A block of samples has another format than the stream. -/
  | audioDrift
  | notConfigured (source : String)
  /-- No sink is attached to hand a frame to. -/
  | noOutput (source : String)
  /-- A link came after the first frame. -/
  | linkTooLate (source : String)
  /-- A second link came. -/
  | linkTwice (source : String)
  /-- A link is of the other kind than the stream. -/
  | linkMedia (stream link : Media)
  /-- A link has settled on a layout with another count of channels than the stream. -/
  | linkLayout (layout : Layout) (channels : UInt32)
  /-- A sink's own words. -/
  | other (text : String)
  deriving DecidableEq, Repr

def Fault.message : Fault → String
  | .layoutConflict layout channels =>
    s!"layout {layout} indicates a different number of channels than actually present ({channels})"
  | .frameMedia stream frame => s!"{frame} frame pushed into {stream} source"
  | .audioDrift => "audio frame properties differ from the stream"
  | .notConfigured source => s!"{source}: stream is not configured"
  | .noOutput source => s!"{source}: no output connected"
  | .linkTooLate source => s!"{source}: link configured after frames were emitted"
  | .linkTwice source => s!"{source}: link already configured"
  | .linkMedia stream link => s!"{stream} source cannot feed a {link} link"
  | .linkLayout layout channels => s!"link layout {layout} does not carry {channels} channels"
  | .other text => text

/-- What a call answers when it has no result. -/
inductive FeedError where
  | invalidArgument (fault : Fault)
  /-- A frame came after the end of the stream. -/
  | streamClosed
  | outOfMemory
  /-- Nothing is queued yet. -/
  | wouldBlock
  /-- Nothing is queued, and nothing will be. -/
  | endOfStream
  | setup (error : SetupError)
  deriving DecidableEq, Repr

namespace FeedError

def message : FeedError → String
  | .invalidArgument fault => s!"invalid argument: {fault.message}"
  | .streamClosed => "stream closed: frame pushed after end of stream"
  | .outOfMemory => "out of memory"
  | .wouldBlock => "no frame available yet"
  | .endOfStream => "end of stream"
  | .setup error => s!"configuration error: {error.message}"

/-- The error only steers the graph and is not to be reported. -/
def isControlFlow (e : FeedError) : Bool := e == .wouldBlock || e == .endOfStream

end FeedError

end FrameIngest
