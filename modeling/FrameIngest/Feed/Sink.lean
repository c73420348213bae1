/-
FrameIngest.Feed.Sink — who takes frames from a source.

A sink is what it answers: to each frame, and to the end of the stream, its
answer may depend on all frames that it was given before. So a sink may fail
at any point and recover, and it needs no state but that history, which the
source's output keeps.

* `Sink` — the answers;
* `Output` — a sink that is attached, with the frames it was given.
-/
import FrameIngest.Feed.Outcome

namespace FrameIngest

/-- A consumer of frames. -/
structure Sink where
  name : String
  /-- The answer to a frame, after the frames given earlier. -/
  accept : List Frame → Frame → Except FeedError Unit
  /-- The answer to the end of the stream, after the frames given. -/
  finish : List Frame → Except FeedError Unit

/-- A sink that is only a function of frames and has nothing to say to the end of the stream. -/
def Sink.ofFunction (name : String) (accept : List Frame → Frame → Except FeedError Unit) : Sink :=
  { name, accept, finish := fun _ => .ok () }

/-- A sink attached to a source. -/
structure Output where
  sink : Sink
  /-- The frames that the sink was given since it was attached, oldest first. -/
  given : List Frame := []

namespace Output

def answer (o : Output) (f : Frame) : Except FeedError Unit := o.sink.accept o.given f

/-- The output once its sink has one more frame, whatever the sink answers. -/
def give (o : Output) (f : Frame) : Output := { o with given := o.given ++ [f] }

def finish (o : Output) : Except FeedError Unit := o.sink.finish o.given

end Output

end FrameIngest
