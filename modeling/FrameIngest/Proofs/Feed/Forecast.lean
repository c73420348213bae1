/-
FrameIngest.Proofs.Feed.Forecast — what a poll foretells, and what counts as a miss.

A poll looks at the queue and changes nothing, so its answer is a forecast. As
long as no frame is pushed and none goes to the sink, every pop takes one frame
from the front, whatever else is done in between: the pops that are foretold
succeed, and the next one fails (`answers_run`). An end that is foretold stays.

A miss is counted where a frame is asked for and the queue is empty before its
end. The same errors can come out of a sink, or after the end, and these count
for nothing: `misses_perform` says what one operation adds, whatever it answers.

* `answers` — what pops were answered;
* `starves` — the operations that are counted as misses;
* `marksEnd` — the operations that mark the end.
-/
import FrameIngest.Proofs.Feed.Lifecycle

namespace FrameIngest

/-- The operation pops a frame. -/
def Op.isPop : Op → Bool
  | .pop => true
  | _ => false

/-- The operation leaves the waiting frames to pops: it pushes no frame and asks for none on behalf
of the sink. -/
def Op.IsAside (op : Op) : Prop := op.offered? = none ∧ op ≠ .request

/-- What a pop is answered. -/
def Reply.answer? : Reply → Option (Except FeedError Frame)
  | .frame result => some result
  | _ => none

/-- What pops were answered, in order. -/
def answers (events : List Event) : List (Except FeedError Frame) :=
  events.filterMap fun event => event.reply.answer?

theorem answers_cons (event : Event) (events : List Event) :
    answers (event :: events) = event.reply.answer?.toList ++ answers events := by
  cases answer : event.reply.answer? <;> simp [answers, answer]

/-- The move is a call of a sink, for a frame or for the end. -/
def Move.IsCall : Move → Prop
  | .delivered .. | .ended _ => True
  | .queued _ | .taken _ => False

namespace Source

/-- The operation asks for a frame, be it for the attached sink, and finds the queue empty before
its end. -/
def starves (s : Source) : Op → Bool
  | .pop => s.queue.frames.isEmpty && !decide s.queue.IsEnded
  | .request => s.output.isSome && s.queue.frames.isEmpty && !decide s.queue.IsEnded
  | _ => false

/-- The operation ends the stream, and succeeds. -/
def marksEnd (s : Source) (op : Op) : Bool :=
  match op with
  | .pushEnd | .add none _ => (s.perform op).2.reply.isDone
  | _ => false

variable {s : Source} {op : Op}

theorem starves_iff :
    s.starves op = true ↔ op.Takes s ∧ s.queue.frames = [] ∧ ¬ s.queue.IsEnded := by
  cases op with
  | pop => simp [starves, Op.Takes]
  | request => simp [starves, Op.Takes, and_assoc]
  | _ => simp [starves, Op.Takes]

theorem marksEnd_iff :
    s.marksEnd op = true ↔ op.EndsStream ∧ (s.perform op).2.reply.isDone = true := by
  cases op with
  | pushEnd => simp [marksEnd, Op.EndsStream]
  | add f flags => cases f <;> simp [marksEnd, Op.EndsStream]
  | _ => simp [marksEnd, Op.EndsStream]

end Source

/-! ## One change -/

namespace Transition

variable {s s' : Source} {op : Op} {moves : List Move}

/-- The waiting frames stay if no frame is pushed and none is asked for. -/
theorem frames_eq (h : Transition s op moves s') (pushes : op.offered? = none)
    (asks : ¬ op.Takes s) : s'.queue.frames = s.queue.frames := by
  cases h with
  | queued offered _ | relayed offered _ _ _ => cases offered.symm.trans pushes
  | finished _ _ => exact FrameQueue.frames_finish _
  | taken _ => exact absurd trivial asks
  | delivered attached _ => exact absurd (by simp [Op.Takes, attached]) asks
  | _ => rfl

/-- A change counts a miss if a frame is asked for and the queue is empty before its end, and in no
other case. -/
theorem misses_cases (h : Transition s op moves s') :
    s'.misses = s.misses ∨ s.starves op = true := by
  cases h with
  | missed takes empty ready => exact .inr (Source.starves_iff.mpr ⟨takes, empty, (· ready)⟩)
  | finished _ _ => exact .inl (FrameQueue.misses_finish _)
  | _ => exact .inl rfl

/-- A change that calls the sink finds a frame for it, or the end. -/
theorem not_starves_of_call (h : Transition s op moves s') (called : ∃ m ∈ moves, m.IsCall) :
    s.starves op = false := by
  rw [← Bool.not_eq_true, Source.starves_iff]
  rintro ⟨takes, empty, open_⟩
  obtain ⟨m, among, call⟩ := called
  cases h with
  | queued _ _ | taken _ =>
    cases List.mem_singleton.mp among
    exact call
  | relayed offered _ _ _ =>
    -- what brings a frame does not ask for one
    cases op with
    | pop | request => cases offered
    | _ => exact takes
  | delivered _ oldest => cases oldest.symm.trans empty
  | announced _ _ ended _ => exact open_ ended
  | _ => cases among

/-- The end is marked by a change that marks it, and no change takes the mark back. -/
theorem isEnded_cases (h : Transition s op moves s') :
    (s'.queue.IsEnded ↔ s.queue.IsEnded) ∨ (op.EndsStream ∧ s.descriptor ≠ none) := by
  cases h with
  | finished ends configured => exact .inr ⟨ends, configured⟩
  | closed _ _ ended | announced _ _ ended _ =>
    exact .inl ⟨fun _ => ended, fun _ => by simp [FrameQueue.IsEnded]⟩
  | _ => exact .inl Iff.rfl

end Transition

namespace Source

variable {s : Source} {op : Op}

/-! ## One operation -/

/-- Of an empty queue a pop answers that the stream is over, or else that nothing is there yet. -/
theorem reply_pop_of_nil (empty : s.queue.frames = []) :
    (s.perform .pop).2.reply
      = .frame (.error (if s.queue.IsEnded then .endOfStream else .wouldBlock)) := by
  show Reply.frame s.pop.result = _
  by_cases ended : s.queue.IsEnded
  · rw [pop_of_ended empty ended, if_pos ended]
    rfl
  · rw [pop_of_ready empty (FrameQueue.stage_of_not_isEnded ended), if_neg ended]
    rfl

/-- A pop is answered with the oldest frame, and what is aside of pops is not answered with a frame
and leaves the frames where they are. -/
theorem answer_perform (aside : op.IsAside) (lasts : op.isPop.toNat ≤ s.queue.frames.length) :
    (s.perform op).2.reply.answer?.toList = (s.queue.frames.take op.isPop.toNat).map .ok
      ∧ (s.perform op).1.queue.frames = s.queue.frames.drop op.isPop.toNat := by
  cases op with
  | pop =>
    obtain ⟨f, rest, frames⟩ := List.exists_cons_of_length_pos lasts
    show (Reply.frame s.pop.result).answer?.toList = _ ∧ s.pop.state.queue.frames = _
    rw [pop_of_cons frames, frames]
    exact ⟨rfl, rfl⟩
  | request => exact absurd rfl aside.2
  | _ => exact ⟨rfl, (s.perform_transition _).frames_eq aside.1 id⟩

/-- An operation that starves is counted as a miss. -/
theorem misses_perform_of_starves (starving : s.starves op = true) :
    (s.perform op).1.misses = s.misses + 1 := by
  obtain ⟨takes, empty, unended⟩ := starves_iff.mp starving
  have ready := FrameQueue.stage_of_not_isEnded unended
  cases op with
  | pop =>
    show s.pop.state.misses = _
    rw [pop_of_ready empty ready]
    rfl
  | request =>
    obtain ⟨output, attached⟩ := Option.isSome_iff_exists.mp takes
    show s.request.state.misses = _
    rw [request_of_some attached, emit_of_ready empty ready]
    rfl
  | _ => exact takes.elim

/-- An operation adds a miss if it starves, and nothing if it does not. -/
theorem misses_perform (s : Source) (op : Op) :
    (s.perform op).1.misses = s.misses + (s.starves op).toNat := by
  cases starving : s.starves op with
  | true => exact misses_perform_of_starves starving
  | false =>
    rcases (s.perform_transition op).misses_cases with same | starving'
    · exact same
    · cases starving.symm.trans starving'

/-- The end is marked from the first operation on that marks it. -/
theorem isEnded_perform (s : Source) (op : Op) :
    decide (s.perform op).1.queue.IsEnded = (decide s.queue.IsEnded || s.marksEnd op) := by
  cases marks : s.marksEnd op with
  | true =>
    obtain ⟨ends, succeeded⟩ := marksEnd_iff.mp marks
    rw [decide_eq_true (isEnded_of_isDone ends succeeded), Bool.or_true]
  | false =>
    rw [Bool.or_false]
    rcases (s.perform_transition op).isEnded_cases with same | ⟨ends, configured⟩
    · exact decide_eq_decide.mpr same
    · have succeeded : (s.perform op).2.reply.isDone = true := by
        rw [perform_of_endsStream ends, pushEnd_of_described configured]
        rfl
      cases marks.symm.trans (marksEnd_iff.mpr ⟨ends, succeeded⟩)

/-! ## Whole runs -/

/-- The end is marked if an operation of the run has marked it. -/
theorem isEnded_run_iff (name : String) (media : Media) (ops : List Op) :
    ((fresh name media).run ops).1.queue.IsEnded ↔ 0 < (fresh name media).tally marksEnd ops := by
  have flag : decide ((fresh name media).run ops).1.queue.IsEnded
      = (false || decide (0 < (fresh name media).tally marksEnd ops)) :=
    @flag_run marksEnd (fun s => decide s.queue.IsEnded) isEnded_perform (fresh name media) ops
  rwa [Bool.false_or, decide_eq_decide] at flag

/-- While frames only leave by pops, and as long as frames last, each pop is answered with the
oldest one. -/
theorem answers_run (s : Source) (ops : List Op) (aside : ∀ op ∈ ops, op.IsAside)
    (last : ops.countP Op.isPop ≤ s.queue.frames.length) :
    answers (s.run ops).2 = (s.queue.frames.take (ops.countP Op.isPop)).map .ok
      ∧ (s.run ops).1.queue.frames = s.queue.frames.drop (ops.countP Op.isPop) := by
  induction ops generalizing s with
  | nil => exact ⟨rfl, rfl⟩
  | cons op ops ih =>
    have count : (op :: ops).countP Op.isPop = op.isPop.toNat + ops.countP Op.isPop := by
      rw [List.countP_cons, Nat.add_comm]
      cases op.isPop <;> rfl
    obtain ⟨first, others⟩ := List.forall_mem_cons.mp aside
    rw [count] at last ⊢
    obtain ⟨answered, left⟩ := answer_perform first (Nat.le_of_add_right_le last)
    have enough : ops.countP Op.isPop ≤ (s.perform op).1.queue.frames.length := by
      rw [left, List.length_drop]
      omega
    obtain ⟨answers_eq, frames_eq⟩ := ih (s.perform op).1 others enough
    constructor
    · rw [run_cons]
      dsimp only
      rw [answers_cons, answered, answers_eq, left, List.take_add, List.map_append]
    · rw [run_cons]
      dsimp only
      rw [frames_eq, left, List.drop_drop]

theorem pending_eq_frames_iff {n : Nat} (pending : s.pending = .frames n) :
    n = s.queue.frames.length := by
  rw [pending_eq] at pending
  split at pending
  · cases pending
  · cases pending
    rfl

theorem pending_eq_ended_iff : s.pending = .ended ↔ s.queue.frames = [] ∧ s.queue.IsEnded := by
  simp [pending, FrameQueue.pending]

/-- An end that is reported once is reported from then on. -/
theorem pending_run_of_ended (ended : s.pending = .ended) (ops : List Op) :
    (s.run ops).1.pending = .ended := by
  obtain ⟨empty, marked⟩ := pending_eq_ended_iff.mp ended
  obtain ⟨still, _, unentered⟩ := run_of_isEnded marked ops
  have balanced := run_conserves s ops
  rw [empty, unentered] at balanced
  exact pending_eq_ended_iff.mpr ⟨(List.append_eq_nil_iff.mp balanced.symm).2, still⟩

/-- **A poll foretells the pops, and misses are counted exactly.** Take any state that a new source
can come to. If a poll answers that `n` frames can be had, then as many pops succeed, with the
frames that wait and in their order, whatever is done in between that pushes no frame and asks for
none on behalf of the sink; and the next pop fails, saying that the stream is over if its end was
pushed. If it answers that the stream is over, it will always do so, and every pop says the same.

The misses are as many as the operations of the run that starved, which are the pops, and the
requests for an attached sink, that found the queue empty before its end. An operation adds one
miss if it starves, and none if it does not; so nothing is added by a push with any flags, by a
poll, by a request without a sink, by anything that comes after the end, nor by an operation that
calls a sink, whatever the sink answers. -/
theorem poll_foretells_and_misses_exact (name : String) (media : Media) (ops : List Op) :
    let s := ((fresh name media).run ops).1
    (∀ n, s.pending = .frames n → ∀ ops', (∀ op ∈ ops', op.IsAside) →
        (ops'.countP Op.isPop ≤ n →
          answers (s.run ops').2 = (s.queue.frames.take (ops'.countP Op.isPop)).map .ok)
        ∧ (ops'.countP Op.isPop = n →
          ((s.run ops').1.perform .pop).2.reply = .frame (.error
            (if 0 < (fresh name media).tally marksEnd (ops ++ ops') then .endOfStream
             else .wouldBlock))))
      ∧ (s.pending = .ended → ∀ ops', (s.run ops').1.pending = .ended
        ∧ ((s.run ops').1.perform .pop).2.reply = .frame (.error .endOfStream))
      ∧ s.misses = (fresh name media).tally starves ops
      ∧ ∀ op,
        (s.starves op = true ↔ op.Takes s ∧ s.queue.frames = []
          ∧ (fresh name media).tally marksEnd ops = 0)
        ∧ (s.perform op).1.misses = s.misses + (s.starves op).toNat
        ∧ (op.offered?.isSome = true ∨ op = .poll ∨ (op = .request ∧ s.output = none)
            ∨ 0 < (fresh name media).tally marksEnd ops
            ∨ (∃ m ∈ (s.perform op).2.moves, m.IsCall) →
          (s.perform op).1.misses = s.misses) := by
  intro s
  have marked_iff : s.queue.IsEnded ↔ 0 < (fresh name media).tally marksEnd ops :=
    isEnded_run_iff name media ops
  refine ⟨fun n pending ops' aside => ⟨fun few => ?_, fun all => ?_⟩,
    fun ended ops' => ⟨pending_run_of_ended ended ops', ?_⟩, ?_,
    fun op => ⟨?_, misses_perform s op, fun spared => ?_⟩⟩
  · rw [pending_eq_frames_iff pending] at few
    exact (answers_run s ops' aside few).1
  · rw [pending_eq_frames_iff pending] at all
    have drained := (answers_run s ops' aside (Nat.le_of_eq all)).2
    rw [all, List.drop_length] at drained
    have marked : (s.run ops').1.queue.IsEnded
        ↔ 0 < (fresh name media).tally marksEnd (ops ++ ops') := by
      have whole := isEnded_run_iff name media (ops ++ ops')
      rwa [run_append] at whole
    simp only [reply_pop_of_nil drained, marked]
  · obtain ⟨empty, marked⟩ := pending_eq_ended_iff.mp (pending_run_of_ended ended ops')
    rw [reply_pop_of_nil empty, if_pos marked]
  · have counted : s.misses = 0 + _ := count_run misses_perform (fresh name media) ops
    rwa [Nat.zero_add] at counted
  · rw [starves_iff, marked_iff, Nat.not_lt, Nat.le_zero]
  · have unstarved : s.starves op = false := by
      rcases spared with brings | rfl | ⟨rfl, detached⟩ | marked | called
      · cases op with
        | pop | request => cases brings
        | _ => rfl
      · rfl
      · simp [starves, detached]
      · exact Bool.eq_false_iff.mpr fun starving =>
          (starves_iff.mp starving).2.2 (marked_iff.mpr marked)
      · exact (s.perform_transition op).not_starves_of_call called
    rw [misses_perform, unstarved]
    rfl

/-- A stream that is asked for a picture too early, and then has two of them, one of which goes to
a sink that has no room. -/
def starvedStream : List Op :=
  [ .configure (.video { width := 2, height := 2, pixelFormat := some .gray, timeBase := ⟨1, 25⟩ }),
    .pop, .push (.video (.ofSize 2 2 .gray)) {}, .push (.video (.ofSize 1 1 .gray)) {},
    .connect (.ofFunction "full" fun _ _ => .error .wouldBlock), .request ]

/-- The other picture is foretold, and after it the end, which is pushed in between. Only the early
pop is a miss, though the sink said the same. -/
theorem starvedStream_foretold :
    let s := ((fresh "cam" .video).run starvedStream).1
    (s.pending = .frames 1 ∧ (∀ op ∈ [.pop, .pushEnd], Op.IsAside op)
        ∧ answers (s.run [.pop, .pushEnd]).2 = [.ok (.video (.ofSize 1 1 .gray))]
        ∧ ((s.run [.pop, .pushEnd]).1.perform .pop).2.reply = .frame (.error .endOfStream))
      ∧ (((fresh "cam" .video).run (starvedStream ++ [.pop, .pushEnd])).1.pending = .ended
        ∧ ∀ ops,
          (((fresh "cam" .video).run (starvedStream ++ [.pop, .pushEnd])).1.run ops).1.pending
            = .ended)
      ∧ s.misses = 1
      ∧ (s.perform .request).1.misses = 1 := by
  intro s
  have pending : s.pending = .frames 1 := by decide
  have aside : ∀ op ∈ [.pop, .pushEnd], Op.IsAside op := by simp [Op.IsAside, Op.offered?]
  have counted : (fresh "cam" .video).tally starves starvedStream = 1 := by decide
  have marked : 0 < (fresh "cam" .video).tally marksEnd (starvedStream ++ [.pop, .pushEnd]) := by
    decide
  have ended :
      ((fresh "cam" .video).run (starvedStream ++ [.pop, .pushEnd])).1.pending = .ended := by
    decide
  have called : ∃ m ∈ (s.perform .request).2.moves, m.IsCall :=
    ⟨.delivered "full" (.video (.ofSize 1 1 .gray)), List.mem_singleton.mpr rfl, trivial⟩
  obtain ⟨foretold, _, misses, spared⟩ :=
    poll_foretells_and_misses_exact "cam" .video starvedStream
  obtain ⟨_, settled, _⟩ :=
    poll_foretells_and_misses_exact "cam" .video (starvedStream ++ [.pop, .pushEnd])
  obtain ⟨answered, next⟩ := foretold 1 pending [.pop, .pushEnd] aside
  have replied := next rfl
  rw [if_pos marked] at replied
  have one : s.misses = 1 := misses.trans counted
  exact ⟨⟨pending, aside, answered (Nat.le_refl 1), replied⟩,
    ⟨ended, fun ops => (settled ended ops).1⟩, one,
    ((spared .request).2.2 (.inr (.inr (.inr (.inr called))))).trans one⟩

end Source

end FrameIngest
