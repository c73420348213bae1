/-
FrameIngest.Proofs.Feed.Refusal — a push lets a frame in, or leaves everything as it was.

The answer of a push does not tell whether the frame was let in, since with
`immediate` it may be the error of a sink that was handed another frame. What
tells is the queue: `push_refused_iff_stands` says that a frame is refused
exactly when something stands against it, that the error is then that of the
first objection and nothing has changed, and that it enters the queue once
otherwise.
-/
import FrameIngest.Proofs.Feed.Delivery

namespace FrameIngest.Source

open Objection

variable {s : Source} {f : Frame} {flags : PushFlags}

/-- A frame that is let in is queued behind the others, of which the oldest may then leave. -/
theorem push_of_clear (clear : ∀ o e, ¬ Stands s f flags o e) :
    (s.push f flags).moves.filterMap Move.entering? = [f]
      ∧ s.queue.frames ++ [f]
        = (s.push f flags).moves.filterMap Move.leaving? ++ (s.push f flags).state.queue.frames
      ∧ (¬ flags.Has .immediate → (s.push f flags).result = .ok ()) := by
  have admitted := admission_ok_iff.mpr clear
  by_cases handed : flags.Has .immediate
  · obtain ⟨output, _, pushed⟩ := push_of_immediate admitted handed
    cases oldest : s.queue.frames ++ [f] with
    | nil => simp at oldest
    | cons g rest =>
      rw [pushed, emit_of_cons (s := { s with queue := s.queue.append f }) oldest]
      exact ⟨rfl, rfl, fun kept => absurd handed kept⟩
  · rw [push_of_ok admitted handed]
    exact ⟨rfl, rfl, fun _ => rfl⟩

/-- **Refusal.** However a frame is pushed, it is refused exactly when something stands against
it. Then one objection is the first: it gives the error, the source is as before, nothing is moved
and no sink is called. Otherwise the frame is queued once, behind the others. -/
theorem push_refused_iff_stands (s : Source) (f : Frame) (flags : PushFlags) :
    (s.write f flags = s.push f flags ∧ s.add (some f) flags = s.push f flags)
      ∧ ((s.push f flags).moves.filterMap Move.entering? = [] ↔ ∃ o e, Stands s f flags o e)
      ∧ ((∃ o e, Stands s f flags o e) →
        ∃ o e, IsFirst s f flags o e ∧ ∀ o' e', IsFirst s f flags o' e' → o' = o ∧ e' = e)
      ∧ (∀ o e, IsFirst s f flags o e →
        (s.push f flags).result = .error e ∧ (s.push f flags).state = s
          ∧ (s.push f flags).moves = [])
      ∧ ((∀ o e, ¬ Stands s f flags o e) →
        (s.push f flags).moves.filterMap Move.entering? = [f]
          ∧ s.queue.frames ++ [f]
            = (s.push f flags).moves.filterMap Move.leaving? ++ (s.push f flags).state.queue.frames
          ∧ (¬ flags.Has .immediate → (s.push f flags).result = .ok ())) := by
  have refused : ∀ o e, IsFirst s f flags o e →
      (s.push f flags).result = .error e ∧ (s.push f flags).state = s
        ∧ (s.push f flags).moves = [] := by
    intro o e first
    rw [push_of_error (admission_of_isFirst first)]
    exact ⟨rfl, rfl, rfl⟩
  refine ⟨⟨rfl, rfl⟩, ⟨fun outside => ?_, ?_⟩, ?_, refused, push_of_clear⟩
  · refine Classical.byContradiction fun unopposed => ?_
    have inside := (push_of_clear fun o e stands => unopposed ⟨o, e, stands⟩).1
    rw [outside] at inside
    cases inside
  · rintro ⟨o, e, stands⟩
    obtain ⟨o', e', first⟩ := stands.exists_isFirst
    rw [(refused o' e' first).2.2]
    rfl
  · rintro ⟨o, e, stands⟩
    obtain ⟨o₁, e₁, first⟩ := stands.exists_isFirst
    exact ⟨o₁, e₁, first, fun o' e' first' => first'.unique first⟩

end FrameIngest.Source
