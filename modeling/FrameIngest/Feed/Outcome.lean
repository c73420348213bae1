/-
FrameIngest.Feed.Outcome — results, and what comes with them.

* `Logged` — a check: a result or an error, and the notices on the way;
* `Move` — a frame that enters or leaves a source, or the end of a stream;
* `Outcome` — an operation: a result or an error, the state it leaves behind
  in either case, the notices it logs and the moves it makes.
-/
import FrameIngest.Feed.Fault
import FrameIngest.Feed.Notice

namespace FrameIngest

/-! ## Checks -/

/-- A computation that logs and may fail; notices logged before a failure stay. -/
structure Logged (α : Type) where
  result : Except FeedError α
  notices : List Notice := []

namespace Logged

/-- Fail on account of an argument. -/
def refuse {α : Type} (fault : Fault) (notices : List Notice := []) : Logged α :=
  ⟨.error (.invalidArgument fault), notices⟩

/-- Go on with the results of the first computation, if it has one. -/
def andThen {α β : Type} (x : Logged α) (f : α → Logged β) : Logged β :=
  match x.result with
  | .error e => ⟨.error e, x.notices⟩
  | .ok a => ⟨(f a).result, x.notices ++ (f a).notices⟩

instance : Monad Logged where
  pure a := ⟨.ok a, []⟩
  bind := andThen

@[simp] theorem result_pure {α : Type} (a : α) : (pure a : Logged α).result = .ok a := rfl

@[simp] theorem notices_pure {α : Type} (a : α) : (pure a : Logged α).notices = [] := rfl

theorem bind_of_ok {α β : Type} {x : Logged α} {a : α} (h : x.result = .ok a)
    (f : α → Logged β) : x >>= f = ⟨(f a).result, x.notices ++ (f a).notices⟩ := by
  show andThen x f = _
  simp [andThen, h]

theorem bind_of_error {α β : Type} {x : Logged α} {e : FeedError} (h : x.result = .error e)
    (f : α → Logged β) : x >>= f = ⟨.error e, x.notices⟩ := by
  show andThen x f = _
  simp [andThen, h]

theorem result_bind {α β : Type} (x : Logged α) (f : α → Logged β) :
    (x >>= f).result = x.result.bind fun a => (f a).result := by
  cases h : x.result with
  | error e =>
    rw [bind_of_error h]
    rfl
  | ok a =>
    rw [bind_of_ok h]
    rfl

theorem mem_notices_bind {α β : Type} {x : Logged α} {f : α → Logged β} {n : Notice}
    (h : n ∈ (x >>= f).notices) : n ∈ x.notices ∨ ∃ a, n ∈ (f a).notices := by
  cases result : x.result with
  | error e =>
    rw [bind_of_error result] at h
    exact .inl h
  | ok a =>
    rw [bind_of_ok result] at h
    rcases List.mem_append.mp h with first | second
    · exact .inl first
    · exact .inr ⟨a, second⟩

end Logged

/-! ## Operations -/

/-- What happens to a frame, or to the end of a stream, at the edge of a source. -/
inductive Move where
  | queued (frame : Frame)
  /-- A frame is taken out by whoever asked for it. -/
  | taken (frame : Frame)
  /-- A frame is handed to the sink of a given name. -/
  | delivered (sink : String) (frame : Frame)
  /-- The end of the stream is announced to the sink of a given name. -/
  | ended (sink : String)
  deriving DecidableEq, Repr

namespace Move

/-- The frame that enters. -/
def entering? : Move → Option Frame
  | .queued f => some f
  | .taken _ | .delivered .. | .ended _ => none

/-- The frame that leaves. -/
def leaving? : Move → Option Frame
  | .taken f | .delivered _ f => some f
  | .queued _ | .ended _ => none

end Move

/-- What an operation answers and leaves behind. -/
structure Outcome (σ α : Type) where
  result : Except FeedError α
  state : σ
  notices : List Notice := []
  moves : List Move := []

namespace Outcome

variable {σ α : Type}

/-- The operation fails and leaves the state as it is. -/
def fail (e : FeedError) (s : σ) : Outcome σ α := { result := .error e, state := s }

/-- The operation fails on account of an argument and leaves the state as it is. -/
def refuse (fault : Fault) (s : σ) : Outcome σ α := fail (.invalidArgument fault) s

/-- The same outcome with notices and moves before its own. -/
def after (o : Outcome σ α) (notices : List Notice) (moves : List Move) : Outcome σ α :=
  { o with notices := notices ++ o.notices, moves := moves ++ o.moves }

end Outcome

end FrameIngest
