/-
FrameIngest.Feed.Run — whole runs of a source.

Everything that can be done to a source is an operation, and every operation
leaves an event: what was answered, logged and moved. A run is a list of
operations done one after the other.

* `Op`, `Reply`, `Event` — operations and what they leave;
* `perform`, `run` — one operation, and a list of them;
* `entered`, `left` — the frames that came in and went out during a run.
-/
import FrameIngest.Feed.Intake
import FrameIngest.Feed.Linking

namespace FrameIngest

/-- Something that is done to a source. -/
inductive Op where
  | configure (params : Params)
  | configureText (args : String)
  | push (frame : Frame) (flags : PushFlags)
  | write (frame : Frame) (flags : PushFlags)
  | add (frame : Option Frame) (flags : PushFlags)
  | pushEnd
  | pop
  | request
  | poll
  | setLimit (limit : UInt64)
  | connect (sink : Sink)
  | disconnect
  | negotiate (link : Link)
  | configureLink (link : Link)

/-- What an operation answers. -/
inductive Reply where
  | done (result : Except FeedError Unit)
  | frame (result : Except FeedError Frame)
  | pending (pending : Pending)
  /-- Whether there was a sink to detach. -/
  | detached (found : Bool)
  /-- The link as it is afterwards. -/
  | link (result : Except FeedError Unit) (link : Link)

/-- What an operation leaves to be seen. -/
structure Event where
  reply : Reply
  notices : List Notice := []
  moves : List Move := []

namespace Source

/-- The state after an operation, and its event. -/
def finishWith {σ α : Type} (o : Outcome σ α) (state : Source) (reply : Reply) : Source × Event :=
  (state, { reply, notices := o.notices, moves := o.moves })

/-- The state after an operation that answers nothing but its success. -/
def done (o : Outcome Source Unit) : Source × Event := finishWith o o.state (.done o.result)

def perform (s : Source) : Op → Source × Event
  | .configure p => done (s.configure p)
  | .configureText args => done (s.configureText args)
  | .push f flags => done (s.push f flags)
  | .write f flags => done (s.write f flags)
  | .add f flags => done (s.add f flags)
  | .pushEnd => done s.pushEnd
  | .pop => let o := s.pop; finishWith o o.state (.frame o.result)
  | .request => done s.request
  | .poll => (s, { reply := .pending s.pending })
  | .setLimit limit => (s.withLimit limit, { reply := .done (.ok ()) })
  | .connect sink => (s.connect sink, { reply := .done (.ok ()) })
  | .disconnect => let (sink, s) := s.disconnect; (s, { reply := .detached sink.isSome })
  | .negotiate link => let o := s.negotiate link; finishWith o s (.link o.result o.state)
  | .configureLink link =>
    let o := s.configureLink link; finishWith o o.state.1 (.link o.result o.state.2)

def run (s : Source) : List Op → Source × List Event
  | [] => (s, [])
  | op :: ops =>
    let (s, event) := s.perform op
    let (s, events) := s.run ops
    (s, event :: events)

@[simp] theorem run_nil (s : Source) : s.run [] = (s, []) := rfl

@[simp] theorem run_cons (s : Source) (op : Op) (ops : List Op) :
    s.run (op :: ops)
      = (((s.perform op).1.run ops).1, (s.perform op).2 :: ((s.perform op).1.run ops).2) := rfl

theorem run_append (s : Source) (ops ops' : List Op) :
    s.run (ops ++ ops')
      = (((s.run ops).1.run ops').1, (s.run ops).2 ++ ((s.run ops).1.run ops').2) := by
  induction ops generalizing s with
  | nil => rfl
  | cons op ops ih => simp [ih]

end Source

/-- The frames that entered, in order. -/
def entered (events : List Event) : List Frame :=
  events.flatMap fun event => event.moves.filterMap Move.entering?

/-- The frames that left, in order. -/
def left (events : List Event) : List Frame :=
  events.flatMap fun event => event.moves.filterMap Move.leaving?

end FrameIngest
