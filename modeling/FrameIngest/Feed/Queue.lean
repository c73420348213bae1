/-
FrameIngest.Feed.Queue — frames that wait.

A queue keeps frames in the order they came, remembers that the end of the
stream was marked, counts the requests that found it empty before that, and
warns when it grows long: once its length passes the limit, and again each
time the limit, doubled with every warning, is passed.

* `FrameQueue` — the contents, the stage and the two counters;
* `append`, `push`, `finish`, `pop` — the operations;
* `pending` — how many frames can be had.
-/
import FrameIngest.Feed.Outcome

namespace FrameIngest

/-- Where a stream is in its lifetime. -/
inductive Stage where
  /-- Frames are accepted. -/
  | ready
  /-- The end is marked; frames may still wait. -/
  | draining
  /-- The end has been seen by who takes the frames. -/
  | closed
  deriving DecidableEq, Repr

/-- What can be had from a queue. -/
inductive Pending where
  /-- So many frames. -/
  | frames (count : Nat)
  /-- Nothing, now and later. -/
  | ended
  deriving DecidableEq, Repr

/-- The limit where no other is set. -/
def FrameQueue.usualLimit : UInt64 := 100

/-- Frames in order of arrival. -/
structure FrameQueue where
  frames : List Frame := []
  stage : Stage := .ready
  /-- Requests that found the queue empty before the end was marked. -/
  misses : Nat := 0
  /-- The length beyond which the next warning is due; at least one. -/
  limit : UInt64 := FrameQueue.usualLimit
  deriving DecidableEq, Repr, Inhabited

namespace FrameQueue

/-- The queue with another limit; zero counts as one. -/
def withLimit (q : FrameQueue) (limit : UInt64) : FrameQueue := { q with limit := max limit 1 }

/-- Twice the limit, or the greatest word. -/
def doubled (limit : UInt64) : UInt64 := .ofNat (min (2 * limit.toNat) (UInt64.size - 1))

def length (q : FrameQueue) : Nat := q.frames.length

/-- The end of the stream is marked. -/
def IsEnded (q : FrameQueue) : Prop := q.stage ≠ .ready

instance (q : FrameQueue) : Decidable q.IsEnded := inferInstanceAs (Decidable (_ ≠ _))

/-- One more frame makes the queue longer than its limit. -/
def PassesLimit (q : FrameQueue) : Prop := q.limit.toNat < q.length + 1

instance (q : FrameQueue) : Decidable q.PassesLimit := inferInstanceAs (Decidable (_ < _))

/-- The queue with a frame at its end, and with a doubled limit if the limit is passed. -/
def append (q : FrameQueue) (f : Frame) : FrameQueue :=
  { q with
    frames := q.frames ++ [f]
    limit := if q.PassesLimit then doubled q.limit else q.limit }

/-- The warning that goes with one more frame, if the limit is passed. -/
def warning (q : FrameQueue) : List Notice :=
  if q.PassesLimit then [.backlog (q.length + 1)] else []

/-- Append a frame, unless the end is marked; the answer is the length after it. -/
def push (q : FrameQueue) (f : Frame) : Outcome FrameQueue Nat :=
  if q.IsEnded then .fail .streamClosed q
  else { result := .ok (q.append f).length, state := q.append f, notices := q.warning }

/-- Mark the end of the stream; to mark it again changes nothing. -/
def finish (q : FrameQueue) : FrameQueue :=
  match q.stage with
  | .ready => { q with stage := .draining }
  | .draining | .closed => q

/-- Take the oldest frame. An empty queue counts the miss, or closes once its end is marked. -/
def pop (q : FrameQueue) : Outcome FrameQueue Frame :=
  match q.frames, q.stage with
  | f :: rest, _ => { result := .ok f, state := { q with frames := rest } }
  | [], .ready => .fail .wouldBlock { q with misses := q.misses + 1 }
  | [], .draining | [], .closed => .fail .endOfStream { q with stage := .closed }

def pending (q : FrameQueue) : Pending :=
  if q.frames = [] ∧ q.IsEnded then .ended else .frames q.length

def debugText (q : FrameQueue) : String :=
  s!"FrameQueue \x7b len: {q.length}, eof: {decide q.IsEnded}, failed_requests: {q.misses} \x7d"

/-! ## What the operations do to the contents and the limit -/

@[simp] theorem frames_append (q : FrameQueue) (f : Frame) :
    (q.append f).frames = q.frames ++ [f] := rfl

@[simp] theorem stage_append (q : FrameQueue) (f : Frame) : (q.append f).stage = q.stage := rfl

@[simp] theorem misses_append (q : FrameQueue) (f : Frame) : (q.append f).misses = q.misses := rfl

@[simp] theorem frames_finish (q : FrameQueue) : q.finish.frames = q.frames := by
  unfold finish
  split <;> rfl

@[simp] theorem limit_finish (q : FrameQueue) : q.finish.limit = q.limit := by
  unfold finish
  split <;> rfl

@[simp] theorem misses_finish (q : FrameQueue) : q.finish.misses = q.misses := by
  unfold finish
  split <;> rfl

@[simp] theorem length_append (q : FrameQueue) (f : Frame) :
    (q.append f).length = q.length + 1 := by
  simp [length]

theorem toNat_doubled (limit : UInt64) :
    (doubled limit).toNat = min (2 * limit.toNat) (UInt64.size - 1) :=
  UInt64.toNat_ofNat_of_lt (Nat.lt_of_le_of_lt (Nat.min_le_right ..) (by decide))

theorem isEnded_finish (q : FrameQueue) : q.finish.IsEnded := by
  unfold IsEnded finish
  split <;> simp_all

theorem finish_of_isEnded {q : FrameQueue} (ended : q.IsEnded) : q.finish = q := by
  unfold IsEnded at ended
  unfold finish
  split <;> simp_all

theorem stage_finish_of_ready {q : FrameQueue} (ready : q.stage = .ready) :
    q.finish.stage = .draining := by
  simp [finish, ready]

theorem pop_of_cons {q : FrameQueue} {f : Frame} {rest : List Frame} (h : q.frames = f :: rest) :
    q.pop = { result := .ok f, state := { q with frames := rest } } := by
  simp [pop, h]

theorem pop_of_ready {q : FrameQueue} (h : q.frames = []) (ready : q.stage = .ready) :
    q.pop = .fail .wouldBlock { q with misses := q.misses + 1 } := by
  simp [pop, h, ready]

theorem pop_of_ended {q : FrameQueue} (h : q.frames = []) (ended : q.IsEnded) :
    q.pop = .fail .endOfStream { q with stage := .closed } := by
  unfold IsEnded at ended
  cases stage : q.stage <;> simp_all [pop]

end FrameQueue

end FrameIngest
