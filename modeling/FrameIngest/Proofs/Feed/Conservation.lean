/-
FrameIngest.Proofs.Feed.Conservation — every frame that entered has left or waits.

A frame enters by one of three calls and leaves by one of three routes, and a
sink may fail after it was handed one. None of this loses, repeats, changes or
reorders a frame: at every point of a run the frames that entered are those
that left followed by those in the queue (`entered_eq_left_append_waiting`).
Whatever counts the waiting frames (a poll, the record of the end of the
stream, the record of a source that goes away) counts the difference.
-/
import FrameIngest.Proofs.Feed.Notice

namespace FrameIngest

/-- The frame that an operation brings. -/
def Op.frame? (op : Op) : Option Frame := op.offered?.map (·.1)

/-! ## One change -/

/-- A change adds what enters behind the queue and takes what leaves from its front. -/
theorem Transition.conserves {s s' : Source} {op : Op} {moves : List Move}
    (h : Transition s op moves s') :
    s.queue.frames ++ moves.filterMap Move.entering?
      = moves.filterMap Move.leaving? ++ s'.queue.frames := by
  cases h with
  | queued _ _ => rfl
  | relayed _ _ _ oldest => exact oldest
  | taken oldest | delivered _ oldest => exact (List.append_nil _).trans oldest
  | finished _ _ => exact (List.append_nil _).trans (FrameQueue.frames_finish _).symm
  | _ => exact List.append_nil _

/-- What enters is the very frame that the operation brings. -/
theorem Transition.entering_sublist {s s' : Source} {op : Op} {moves : List Move}
    (h : Transition s op moves s') :
    (moves.filterMap Move.entering?).Sublist op.frame?.toList := by
  cases h with
  | queued offered _ | relayed offered _ _ _ => simp [Op.frame?, offered, Move.entering?]
  | _ => exact List.nil_sublist _

/-- The frame that is handed to the sink. -/
def Move.delivered? : Move → Option Frame
  | .delivered _ f => some f
  | .queued _ | .taken _ | .ended _ => none

/-- A sink that stays attached has been given what the moves say, and nothing else. -/
theorem Transition.gives {s s' : Source} {op : Op} {moves : List Move} {output : Output}
    (h : Transition s op moves s') (attached : s.output = some output)
    (kept : op ≠ .disconnect ∧ ∀ sink, op ≠ .connect sink) :
    s'.output = some { output with given := output.given ++ moves.filterMap Move.delivered? } := by
  have same : some output = some { output with given := output.given ++ [] } := by
    rw [List.append_nil]
  cases h with
  | relayed _ _ attached' _ | delivered attached' _ =>
    cases attached.symm.trans attached'
    rfl
  | connected => exact absurd rfl (kept.2 _)
  | disconnected => exact absurd rfl kept.1
  | _ => exact attached.trans same

/-- A change marks that a frame has left when one leaves, and takes no mark back. -/
theorem Transition.framesEmitted_iff {s s' : Source} {op : Op} {moves : List Move}
    (h : Transition s op moves s') :
    s'.framesEmitted = true
      ↔ s.framesEmitted = true ∨ moves.filterMap Move.leaving? ≠ [] := by
  cases h with
  | relayed _ _ _ _ | taken _ | delivered _ _ =>
    exact ⟨fun _ => .inr (List.cons_ne_nil _ _), fun _ => rfl⟩
  | _ => exact ⟨.inl, fun either => either.resolve_right (fun moved => moved rfl)⟩

/-! ## Whole runs -/

namespace Source

/-- A run adds what enters behind the queue and takes what leaves from its front. -/
theorem run_conserves (s : Source) (ops : List Op) :
    s.queue.frames ++ entered (s.run ops).2
      = left (s.run ops).2 ++ (s.run ops).1.queue.frames := by
  rw [entered_eq, left_eq]
  refine run_keeps (I := fun past s' => s.queue.frames ++ past.filterMap Move.entering?
    = past.filterMap Move.leaving? ++ s'.queue.frames) (by simp) ops ?_
  intro op _ past s₁ moves s₂ balanced change
  calc s.queue.frames ++ (past ++ moves).filterMap Move.entering?
      = past.filterMap Move.leaving? ++ (s₁.queue.frames ++ moves.filterMap Move.entering?) := by
        rw [List.filterMap_append, ← List.append_assoc, balanced, List.append_assoc]
    _ = (past ++ moves).filterMap Move.leaving? ++ s₂.queue.frames := by
        rw [change.conserves, List.filterMap_append, List.append_assoc]

/-- A source is marked exactly when a frame has left it. -/
theorem framesEmitted_run_iff (s : Source) (ops : List Op) :
    (s.run ops).1.framesEmitted = true
      ↔ s.framesEmitted = true ∨ left (s.run ops).2 ≠ [] := by
  rw [left_eq]
  refine run_keeps (I := fun past s' => s'.framesEmitted = true
    ↔ s.framesEmitted = true ∨ past.filterMap Move.leaving? ≠ []) (by simp) ops ?_
  intro op _ past s₁ moves s₂ marked change
  rw [change.framesEmitted_iff, marked, List.filterMap_append, ne_eq, ne_eq, ne_eq,
    List.append_eq_nil_iff, Decidable.not_and_iff_not_or_not, or_assoc]

/-- Popping takes the frames from the front, one at a time, until none waits. -/
theorem run_pops (s : Source) (k : Nat) :
    left (s.run (List.replicate k .pop)).2 = s.queue.frames.take k
      ∧ (s.run (List.replicate k .pop)).1.queue.frames = s.queue.frames.drop k := by
  induction k generalizing s with
  | zero => exact ⟨rfl, rfl⟩
  | succ k ih =>
    have moves : (s.perform .pop).2.moves = s.pop.moves := rfl
    have state : (s.perform .pop).1 = s.pop.state := rfl
    obtain ⟨taken, waiting⟩ := ih s.pop.state
    rw [left_eq] at taken ⊢
    rw [List.replicate_succ, run_cons, movesOf_cons, List.filterMap_append, moves, state, taken,
      waiting]
    cases frames : s.queue.frames with
    | cons f rest =>
      rw [pop_of_cons frames]
      exact ⟨rfl, rfl⟩
    | nil =>
      obtain ⟨unmoved, empty⟩ := pop_of_nil frames
      rw [unmoved, empty, List.take_nil, List.take_nil, List.drop_nil, List.drop_nil]
      exact ⟨rfl, rfl⟩

/-- The frames that enter are, in order, among those that are brought. -/
theorem entered_sublist (s : Source) (ops : List Op) :
    (entered (s.run ops).2).Sublist (ops.filterMap Op.frame?) := by
  rw [entered_eq]
  induction ops generalizing s with
  | nil => exact List.Sublist.refl _
  | cons op ops ih =>
    have first := (s.perform_transition op).entering_sublist
    have both := first.append (ih (s.perform op).1)
    rw [run_cons, movesOf_cons, List.filterMap_append]
    cases brought : op.frame? <;> simpa [brought] using both

theorem pending_eq (s : Source) :
    s.pending
      = if s.queue.frames.length = 0 ∧ s.queue.IsEnded then .ended
        else .frames s.queue.frames.length := by
  simp [pending, FrameQueue.pending, FrameQueue.length, List.length_eq_zero_iff]

/-- A frame is answered by the operation that takes it, and by no other. -/
theorem reply_frame_iff (s : Source) (op : Op) (f : Frame) :
    (s.perform op).2.reply = .frame (.ok f) ↔ .taken f ∈ (s.perform op).2.moves := by
  constructor
  · intro answered
    cases op with
    | pop =>
      have result : s.pop.result = .ok f := by simpa [perform, finishWith] using answered
      show .taken f ∈ s.pop.moves
      cases frames : s.queue.frames with
      | cons g rest =>
        rw [pop_of_cons frames] at result ⊢
        cases result
        exact List.mem_singleton.mpr rfl
      | nil =>
        by_cases ended : s.queue.IsEnded
        · rw [pop_of_ended frames ended] at result
          cases result
        · rw [pop_of_ready frames (FrameQueue.stage_of_not_isEnded ended)] at result
          cases result
    | _ => cases answered
  · intro moved
    have change := s.perform_transition op
    generalize (s.perform op).1 = s' at change
    generalize same : (s.perform op).2.moves = moves at change moved
    cases change with
    | taken oldest =>
      cases List.mem_singleton.mp moved
      show Reply.frame s.pop.result = _
      rw [pop_of_cons oldest]
    | queued _ _ | relayed _ _ _ _ | delivered _ _ | announced _ _ _ _ => simp at moved
    | _ => cases moved

/-- **Conservation of frames.** After any run of a new source the frames that entered are those
that left, followed by those that wait; each entered as it was brought, and in that order. What
is said of the waiting frames by a poll, at the end of the stream and when the source goes away
is how many more entered than left. What left is seen outside: a frame that is taken is the answer
of the operation, and a frame that is delivered is one more that the attached sink was given. -/
theorem entered_eq_left_append_waiting (name : String) (media : Media) (ops : List Op) :
    let s := ((fresh name media).run ops).1
    let events := ((fresh name media).run ops).2
    let waiting := (entered events).length - (left events).length
    entered events = left events ++ s.queue.frames
      ∧ (entered events).Sublist (ops.filterMap Op.frame?)
      ∧ s.pending = (if waiting = 0 ∧ s.queue.IsEnded then .ended else .frames waiting)
      ∧ s.release = (if waiting = 0 then [] else [.released name waiting])
      ∧ ∀ op,
        (∀ source n, .ended source n ∈ (s.perform op).2.notices
          ↔ op.EndsStream ∧ s.descriptor ≠ none ∧ source = name ∧ n = waiting)
        ∧ (∀ f, (s.perform op).2.reply = .frame (.ok f) ↔ .taken f ∈ (s.perform op).2.moves)
        ∧ ∀ output, s.output = some output → (op ≠ .disconnect ∧ ∀ sink, op ≠ .connect sink) →
          (s.perform op).1.output
            = some { output with
                given := output.given ++ (s.perform op).2.moves.filterMap Move.delivered? } := by
  intro s events waiting
  have balanced : entered events = left events ++ s.queue.frames :=
    run_conserves (fresh name media) ops
  have count : waiting = s.queue.frames.length := by
    have lengths := congrArg List.length balanced
    rw [List.length_append] at lengths
    omega
  have named : s.name = name := ((fresh name media).identity_run ops).1
  refine ⟨balanced, entered_sublist _ ops, ?_, ?_, fun op => ⟨fun source n => ?_, fun f => ?_, ?_⟩⟩
  · rw [count]
    exact s.pending_eq
  · rw [count, ← named]
    rfl
  · rw [count, ← named]
    exact ended_mem_notices_iff s op source n
  · exact reply_frame_iff s op f
  · exact fun output attached kept => (s.perform_transition op).gives attached kept

end Source

end FrameIngest
