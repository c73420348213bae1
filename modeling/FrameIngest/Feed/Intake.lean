/-
FrameIngest.Feed.Intake — how frames enter a source.

* `PushFlags` — what a producer may ask for with a frame;
* `admission` — whether a frame is let in. What may stand against it is tried
  in this order: its own layout, the end of the stream, a missing descriptor,
  its kind, its format, a missing sink;
* `push`, `write`, `add` — a frame is let in and queued; with `immediate`, the
  oldest frame is handed on at once;
* `pushEnd` — the end of the stream.
-/
import FrameIngest.Feed.Admission
import FrameIngest.Feed.Delivery

namespace FrameIngest

/-! ## Flags -/

/-- A flag that has a meaning. -/
inductive PushFlag where
  /-- The frame is not compared with the format of the stream. -/
  | noFormatCheck
  /-- A frame is handed to the sink right after this one is queued. -/
  | immediate
  /-- The producer keeps the frame, which it may in any case. -/
  | keepReference
  deriving DecidableEq, Repr

namespace PushFlag

def all : List PushFlag := [.noFormatCheck, .immediate, .keepReference]

def bit : PushFlag → UInt32
  | .noFormatCheck => 1
  | .immediate => 4
  | .keepReference => 8

end PushFlag

/-- The flags of one push; bits without a meaning are kept and ignored. -/
structure PushFlags where
  bits : UInt32 := 0
  deriving DecidableEq, Repr

namespace PushFlags

def Has (flags : PushFlags) (flag : PushFlag) : Prop := flags.bits &&& flag.bit ≠ 0

instance (flags : PushFlags) (flag : PushFlag) : Decidable (flags.Has flag) :=
  inferInstanceAs (Decidable (_ ≠ _))

def adding (flags : PushFlags) (flag : PushFlag) : PushFlags := ⟨flags.bits ||| flag.bit⟩

/-- The bits that have a meaning. -/
def meaningful : UInt32 := PushFlag.all.foldl (fun bits flag => bits ||| flag.bit) 0

/-- The flags without the bits that have no meaning. -/
def truncate (flags : PushFlags) : PushFlags := ⟨flags.bits &&& meaningful⟩

def toList (flags : PushFlags) : List PushFlag := PushFlag.all.filter fun flag => flags.Has flag

end PushFlags

namespace Source

/-! ## Frames -/

/-- Whether a frame is let in; nothing changes but the log. -/
def admission (s : Source) (f : Frame) (flags : PushFlags) : Logged Unit := do
  Admission.checkChannels f
  if s.queue.IsEnded then ⟨.error .streamClosed, []⟩
  else
    match s.descriptor with
    | none => .refuse (.notConfigured s.name)
    | some d =>
      Admission.checkMedia d f
      if ¬ flags.Has .noFormatCheck then
        let _ ← Admission.checkFormat s.name d f
      if flags.Has .immediate ∧ s.output.isNone then .refuse (.noOutput s.name)

/-- Queue a frame that is let in. -/
def enqueue (s : Source) (f : Frame) : Outcome Source Unit :=
  { result := .ok (), state := { s with queue := s.queue.append f },
    notices := s.queue.warning, moves := [.queued f] }

/-- Let a frame in and queue it; then hand one on, if that is asked for. -/
def intake (s : Source) (f : Frame) (flags : PushFlags) : Outcome Source Unit :=
  let checked := s.admission f flags
  match checked.result with
  | .error e => { result := .error e, state := s, notices := checked.notices }
  | .ok _ =>
    let queued := (s.enqueue f).after checked.notices []
    if flags.Has .immediate then queued.state.request.after queued.notices queued.moves
    else queued

def push (s : Source) (f : Frame) (flags : PushFlags) : Outcome Source Unit := s.intake f flags

/-- Push a frame that the producer also keeps. -/
def write (s : Source) (f : Frame) (flags : PushFlags) : Outcome Source Unit := s.intake f flags

/-! ## The end of the stream -/

/-- Mark the end of the stream; to mark it again changes nothing. -/
def pushEnd (s : Source) : Outcome Source Unit :=
  if s.descriptor.isNone then .refuse (.notConfigured s.name) s
  else
    { result := .ok (), state := { s with queue := s.queue.finish },
      notices := [.ended s.name s.queue.length] }

/-- Push a frame, or the end of the stream in place of one. -/
def add (s : Source) (f : Option Frame) (flags : PushFlags) : Outcome Source Unit :=
  match f with
  | some f => s.push f flags
  | none => s.pushEnd

end Source

end FrameIngest
