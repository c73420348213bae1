/-
FrameIngest.Proofs.Feed.Delivery — what it takes for a frame to leave.

Whether a frame leaves depends on the queue alone: it gives its oldest frame,
or it is empty for now, or it is empty for good. The lemmas give `pop` and
`emit` in each of the three cases, and `push` in terms of `emit`, so that no
later proof opens these operations again.
-/
import FrameIngest.Proofs.Feed.Objection

namespace FrameIngest

/-- A queue whose end is not marked is still open. -/
theorem FrameQueue.stage_of_not_isEnded {q : FrameQueue} (h : ¬ q.IsEnded) : q.stage = .ready :=
  Decidable.not_not.mp h

namespace Source

variable {s : Source} {f : Frame} {rest : List Frame} {flags : PushFlags}

/-! ## To whoever asks -/

theorem pop_of_cons (oldest : s.queue.frames = f :: rest) :
    s.pop = { result := .ok f, state := s.emitted { s.queue with frames := rest },
              moves := [.taken f] } := by
  simp [pop, FrameQueue.pop_of_cons oldest]

theorem pop_of_ready (empty : s.queue.frames = []) (ready : s.queue.stage = .ready) :
    s.pop = .fail .wouldBlock
      { s with queue := { s.queue with misses := s.queue.misses + 1 } } := by
  simp [pop, FrameQueue.pop_of_ready empty ready, Outcome.fail]

theorem pop_of_ended (empty : s.queue.frames = []) (ended : s.queue.IsEnded) :
    s.pop = .fail .endOfStream { s with queue := { s.queue with stage := .closed } } := by
  simp [pop, FrameQueue.pop_of_ended empty ended, Outcome.fail]

/-- Nothing leaves an empty queue, which stays empty. -/
theorem pop_of_nil (empty : s.queue.frames = []) :
    s.pop.moves = [] ∧ s.pop.state.queue.frames = [] := by
  by_cases ended : s.queue.IsEnded
  · rw [pop_of_ended empty ended]
    exact ⟨rfl, empty⟩
  · rw [pop_of_ready empty (FrameQueue.stage_of_not_isEnded ended)]
    exact ⟨rfl, empty⟩

/-! ## To the sink -/

variable {output : Output}

theorem emit_of_cons (oldest : s.queue.frames = f :: rest) :
    s.emit output
      = { result := output.answer f,
          state := { s.emitted { s.queue with frames := rest } with
                     output := some (output.give f) },
          moves := [.delivered output.sink.name f] } := by
  simp [emit, FrameQueue.pop_of_cons oldest]

theorem emit_of_ready (empty : s.queue.frames = []) (ready : s.queue.stage = .ready) :
    s.emit output = .fail .wouldBlock
      { s with queue := { s.queue with misses := s.queue.misses + 1 } } := by
  simp [emit, FrameQueue.pop_of_ready empty ready, Outcome.fail]

/-- The end is not announced again. -/
theorem emit_of_forwarded (empty : s.queue.frames = []) (ended : s.queue.IsEnded)
    (forwarded : s.endForwarded = true) :
    s.emit output
      = .fail .endOfStream { s with queue := { s.queue with stage := .closed } } := by
  simp [emit, FrameQueue.pop_of_ended empty ended, announceEnd, forwarded, Outcome.fail]

/-- The first time, the end is announced; the answer is the sink's failure if it fails. -/
theorem emit_of_first (empty : s.queue.frames = []) (ended : s.queue.IsEnded)
    (first : s.endForwarded = false) :
    s.emit output
      = { result := .error (match output.finish with | .ok _ => .endOfStream | .error e => e),
          state := { s with queue := { s.queue with stage := .closed }, endForwarded := true },
          moves := [.ended output.sink.name] } := by
  unfold emit announceEnd
  rw [FrameQueue.pop_of_ended empty ended]
  simp only [Outcome.fail, first]
  rfl

theorem request_of_none (detached : s.output = none) :
    s.request = .refuse (.noOutput s.name) s := by
  simp [request, detached]

theorem request_of_some (attached : s.output = some output) : s.request = s.emit output := by
  simp [request, attached]

/-! ## Along with a frame that enters -/

/-- A frame that is not let in leaves no trace but the notices. -/
theorem push_of_error {e : FeedError} (refused : (s.admission f flags).result = .error e) :
    s.push f flags
      = { result := .error e, state := s, notices := (s.admission f flags).notices } := by
  simp [push, intake, refused]

/-- A frame that is let in is queued. -/
theorem push_of_ok (admitted : (s.admission f flags).result = .ok ())
    (kept : ¬ flags.Has .immediate) :
    s.push f flags = (s.enqueue f).after (s.admission f flags).notices [] := by
  simp [push, intake, admitted, kept]

/-- Where no frame is handed on, a push succeeds if the frame is let in. -/
theorem push_ok_iff_admitted (kept : ¬ flags.Has .immediate) :
    (s.push f flags).result = .ok () ↔ (s.admission f flags).result = .ok () := by
  cases admitted : (s.admission f flags).result with
  | ok _ => simp [push_of_ok admitted kept, Outcome.after, enqueue]
  | error e => simp [push_of_error admitted]

/-- With `immediate` there is a sink once the frame is let in, and it is handed the oldest frame
after this one is queued. -/
theorem push_of_immediate (admitted : (s.admission f flags).result = .ok ())
    (handed : flags.Has .immediate) :
    ∃ output, s.output = some output ∧
      s.push f flags
        = (emit { s with queue := s.queue.append f } output).after
            ((s.admission f flags).notices ++ s.queue.warning) [.queued f] := by
  have clear := Objection.noneBefore_of_clear (admission_ok_iff.mp admitted) 6
  obtain ⟨output, attached⟩ := clear.exists_output (by decide) handed
  refine ⟨output, attached, ?_⟩
  have requested : request { s with queue := s.queue.append f }
      = emit { s with queue := s.queue.append f } output := request_of_some attached
  simp [push, intake, admitted, handed, enqueue, Outcome.after, requested]

end Source

end FrameIngest
