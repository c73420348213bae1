/-
FrameIngest.Feed.Notice — what a source logs.

A notice is the event itself; its severity and its wording follow from it.
-/
import FrameIngest.Frame
import FrameIngest.Stream.Descriptor

namespace FrameIngest

inductive Severity where
  | error
  | warn
  | info
  | debug
  deriving DecidableEq, Repr

/-- An event that is logged. -/
inductive Notice where
  /-- A source got its descriptor. -/
  | configured (source : String) (descriptor : Descriptor)
  /-- The end of a stream was marked with some frames left. -/
  | ended (source : String) (left : Nat)
  /-- Frames pile up. -/
  | backlog (length : Nat)
  /-- A frame has another count of channels than its own layout. -/
  | layoutConflict (layout : Layout) (channels : UInt32)
  /-- A picture of another format than its stream is let in. -/
  | videoDrift (source : String) (stream : VideoDescriptor) (frame : VideoFrame)
  /-- A block of samples of another format than its stream is refused. -/
  | audioDrift (source : String) (stream : AudioDescriptor) (frame : AudioFrame)
  /-- A stream without a layout takes the one of its link. -/
  | layoutAdopted (layout : Layout)
  /-- A source goes away with frames that nobody took. -/
  | released (source : String) (left : Nat)
  deriving DecidableEq, Repr

namespace Notice

def severity : Notice → Severity
  | .layoutConflict .. | .audioDrift .. => .error
  | .backlog _ => .warn
  | .videoDrift .. => .info
  | .configured .. | .ended .. | .layoutAdopted _ | .released .. => .debug

def message : Notice → String
  | .configured source descriptor => s!"{source}: {descriptor}"
  | .ended source left => s!"{source}: end of stream, {left} frames left"
  | .backlog length => s!"{length} frames queued, something may be wrong"
  | .layoutConflict layout channels =>
    s!"layout {layout} indicates {layout.channels} channels but the frame carries {channels}"
  | .videoDrift source stream frame =>
    s!"{source}: changing frame properties on the fly is not supported by all filters "
      ++ s!"(stream {stream.width}x{stream.height} {stream.pixelFormat}, "
      ++ s!"frame {frame.width}x{frame.height} {frame.format})"
  | .audioDrift source stream frame =>
    s!"{source}: changing frame properties on the fly is not supported "
      ++ s!"(stream {stream.sampleFormat} {stream.sampleRate}Hz {stream.spec}, "
      ++ s!"frame {frame.format} {frame.rate}Hz {frame.channels} channels)"
  | .layoutAdopted layout => s!"adopting link channel layout {layout}"
  | .released source left => s!"{source}: releasing {left} unconsumed frames"

end Notice

end FrameIngest
