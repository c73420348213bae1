/-
FrameIngest.Feed.Delivery — how frames leave a source.

* `pop` — the oldest frame, to whoever asks;
* `request` — the oldest frame, to the sink that is attached.

When a request finds that the stream is over, the sink is told so, the first
time this happens in the life of the source.
-/
import FrameIngest.Feed.Source

namespace FrameIngest.Source

/-- The source once it has answered with a frame of its queue, which is `queue` from then on. -/
def emitted (s : Source) (queue : FrameQueue) : Source := { s with queue, framesEmitted := true }

/-- Take the oldest frame. -/
def pop (s : Source) : Outcome Source Frame :=
  let o := s.queue.pop
  match o.result with
  | .ok f => { result := .ok f, state := s.emitted o.state, moves := [.taken f] }
  | .error e => .fail e { s with queue := o.state }

/-- Announce the end of the stream to the sink, unless that was done before. The end counts as
announced even if the sink fails, and the sink's failure is then the answer. -/
def announceEnd (s : Source) (output : Output) : Outcome Source Unit :=
  if s.endForwarded then .fail .endOfStream s
  else
    { result := .error (match output.finish with | .ok _ => .endOfStream | .error e => e),
      state := { s with endForwarded := true },
      moves := [.ended output.sink.name] }

/-- Hand the oldest frame to the sink; the frame is gone whatever the sink answers. -/
def emit (s : Source) (output : Output) : Outcome Source Unit :=
  let o := s.queue.pop
  match o.result with
  | .ok f =>
    { result := output.answer f,
      state := { s.emitted o.state with output := some (output.give f) },
      moves := [.delivered output.sink.name f] }
  | .error .endOfStream => announceEnd { s with queue := o.state } output
  | .error e => .fail e { s with queue := o.state }

/-- Hand the oldest frame to the sink that is attached. -/
def request (s : Source) : Outcome Source Unit :=
  match s.output with
  | none => .refuse (.noOutput s.name) s
  | some output => s.emit output

end FrameIngest.Source
