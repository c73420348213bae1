/-
FrameIngest.Feed.Source — the source and its setup.

A source stands between a producer, which pushes frames at its own pace, and a
filter graph, which takes them one at a time. It is given its descriptor once.

* `Source` — the state;
* `phase`, `pending` — what can be seen of it;
* `configure`, `configureText` — the setup, from parameters or from a text;
* `create`, `createText` — a new source that is set up at once;
* `connect`, `disconnect` — the sink that frames are handed to;
* `release` — what is logged when a source goes away.
-/
import FrameIngest.Feed.Queue
import FrameIngest.Feed.Sink
import FrameIngest.Stream.Options
import FrameIngest.Text.Quoted

namespace FrameIngest

/-- The life of a source. -/
inductive Phase where
  /-- There is no descriptor yet. -/
  | configuring
  | ready
  | draining
  | closed
  deriving DecidableEq, Repr

/-- The word used in debug texts. -/
def Phase.tag : Phase → String
  | .configuring => "Configuring"
  | .ready => "Ready"
  | .draining => "Draining"
  | .closed => "Closed"

/-- A source of frames. -/
structure Source where
  name : String
  media : Media
  descriptor : Option Descriptor := none
  queue : FrameQueue := {}
  output : Option Output := none
  /-- A link has been configured. -/
  linkConfigured : Bool := false
  /-- A frame has left the source. -/
  framesEmitted : Bool := false
  /-- The end of the stream has been announced to a sink. -/
  endForwarded : Bool := false

namespace Source

/-! ## What can be seen -/

def phase (s : Source) : Phase :=
  match s.descriptor, s.queue.stage with
  | none, _ => .configuring
  | some _, .ready => .ready
  | some _, .draining => .draining
  | some _, .closed => .closed

def pending (s : Source) : Pending := s.queue.pending

def misses (s : Source) : Nat := s.queue.misses

def debugText (s : Source) : String :=
  s!"BufferSource \x7b name: {Text.quoted s.name}, media_type: {s.media.tag}, "
    ++ s!"state: {s.phase.tag}, queue: {s.queue.debugText} \x7d"

/-- What is logged when the source goes away: the frames that nobody took. -/
def release (s : Source) : List Notice :=
  if s.queue.length = 0 then [] else [.released s.name s.queue.length]

/-! ## Setup -/

/-- Give the source its descriptor, by parameters for its kind, once. -/
def configure (s : Source) (p : Params) : Outcome Source Unit :=
  if s.media ≠ p.media then .fail (.setup (.mediaMismatch s.media p.media)) s
  else if s.descriptor.isSome then .fail (.setup .alreadyConfigured) s
  else
    match p.check with
    | .error e => .fail (.setup e) s
    | .ok d =>
      { result := .ok (), state := { s with descriptor := some d },
        notices := [.configured s.name d] }

/-- Give the source its descriptor by an option text. -/
def configureText (s : Source) (args : String) : Outcome Source Unit :=
  match Params.parse s.media args with
  | .error e => .fail (.setup e) s
  | .ok p => s.configure p

/-- A source that is set up at once; there is none if that fails. -/
def create (name : String) (p : Params) : Logged Source :=
  let o := configure { name, media := p.media } p
  ⟨o.result.map fun _ => o.state, o.notices⟩

/-- A source that is set up at once by an option text. -/
def createText (name : String) (media : Media) (args : String) : Logged Source :=
  let o := configureText { name, media } args
  ⟨o.result.map fun _ => o.state, o.notices⟩

def withLimit (s : Source) (limit : UInt64) : Source := { s with queue := s.queue.withLimit limit }

/-! ## The sink -/

/-- Attach a sink, in place of the one that was attached. -/
def connect (s : Source) (sink : Sink) : Source := { s with output := some { sink } }

/-- The sink that is attached, and the source without it. -/
def disconnect (s : Source) : Option Sink × Source :=
  (s.output.map (·.sink), { s with output := none })

end Source

end FrameIngest
