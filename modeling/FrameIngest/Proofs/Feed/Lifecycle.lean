/-
FrameIngest.Proofs.Feed.Lifecycle — a source lives through its phases in order, and its end is
final.

The phase of a source is read off its descriptor and the stage of its queue,
which change at different operations. That the two never get out of step is
`IsOrderly`: while there is no descriptor nothing has happened yet, and a
closed queue is empty. So every change leaves the phase or moves it on to the
next (`Transition.phase_cases`).

`IsPast` collects what is true at any time after an end of the stream. The
frames that waited then can still be had, in their order, and nothing else
(`phase_in_order_and_end_final`).

* `Phase.rank`, `Stage.phase` — the order of the phases;
* `IsUntouched`, `IsOrderly` — the invariant;
* `IsPast` — a source after its end.
-/
import FrameIngest.Proofs.Feed.Commitment

namespace FrameIngest

/-! ## Phases -/

/-- The place of a phase in the life of a source. -/
def Phase.rank : Phase → Nat
  | .configuring => 0
  | .ready => 1
  | .draining => 2
  | .closed => 3

/-- The phase of a source that has a descriptor. -/
def Stage.phase : Stage → Phase
  | .ready => .ready
  | .draining => .draining
  | .closed => .closed

namespace Source

variable {s : Source}

theorem phase_of_blank (blank : s.descriptor = none) : s.phase = .configuring := by
  simp [phase, blank]

theorem phase_of_described (described : s.descriptor ≠ none) : s.phase = s.queue.stage.phase := by
  obtain ⟨d, has⟩ := Option.ne_none_iff_exists'.mp described
  cases stage : s.queue.stage <;> simp [phase, has, stage, Stage.phase]

theorem phase_eq_configuring_iff : s.phase = .configuring ↔ s.descriptor = none := by
  constructor
  · intro waiting
    refine Decidable.by_contra fun described => ?_
    rw [phase_of_described described] at waiting
    cases stage : s.queue.stage <;> simp [stage, Stage.phase] at waiting
  · exact phase_of_blank

theorem phase_eq_closed_iff :
    s.phase = .closed ↔ s.descriptor ≠ none ∧ s.queue.stage = .closed := by
  by_cases blank : s.descriptor = none
  · simp [phase_of_blank blank, blank]
  · rw [phase_of_described blank]
    cases stage : s.queue.stage <;> simp [Stage.phase, blank]

/-! ## The invariant -/

/-- No frame has come or left, no end is marked and no link is configured. -/
structure IsUntouched (s : Source) : Prop where
  empty : s.queue.frames = []
  ready : s.queue.stage = .ready
  unlinked : s.linkConfigured = false
  unmoved : s.framesEmitted = false

/-- The descriptor and the stage of the queue are in step. -/
structure IsOrderly (s : Source) : Prop where
  /-- While there is no descriptor, nothing has happened. -/
  untouched : s.descriptor = none → s.IsUntouched
  /-- A queue is closed only once it is empty. -/
  drained : s.queue.stage = .closed → s.queue.frames = []

theorem IsOrderly.described_of_ended (orderly : s.IsOrderly) (ended : s.queue.IsEnded) :
    s.descriptor ≠ none := by
  intro blank
  exact ended (orderly.untouched blank).ready

theorem isOrderly_fresh (name : String) (media : Media) : (fresh name media).IsOrderly where
  untouched := fun _ => ⟨rfl, rfl, rfl, rfl⟩
  drained := fun _ => rfl

end Source

namespace Transition

variable {s s' : Source} {op : Op} {moves : List Move}

/-- Every change keeps the descriptor and the stage of the queue in step. A frame is let in only
with a descriptor and before the end, so the queue of an orderly source is never closed under a
frame. -/
theorem isOrderly (h : Transition s op moves s') (orderly : s.IsOrderly) : s'.IsOrderly := by
  obtain ⟨untouched, drained⟩ := orderly
  cases h with
  | idle => exact ⟨untouched, drained⟩
  | described _ _ _ _ => exact ⟨fun blank => (by cases blank), drained⟩
  | queued _ admitted | relayed _ admitted _ _ =>
    obtain ⟨d, described⟩ := Source.exists_descriptor_of_admitted admitted
    have ready := FrameQueue.stage_of_not_isEnded (Source.not_isEnded_of_admitted admitted)
    refine ⟨fun blank => ?_, fun closed => ?_⟩
    · cases described.symm.trans blank
    · cases ready.symm.trans closed
  | finished _ configured =>
    refine ⟨fun blank => absurd blank configured, fun closed => ?_⟩
    show s.queue.finish.frames = []
    rw [FrameQueue.frames_finish]
    cases stage : s.queue.stage with
    | ready => cases (FrameQueue.stage_finish_of_ready stage).symm.trans closed
    | draining => simp [FrameQueue.finish, stage] at closed
    | closed => exact drained stage
  | taken oldest | delivered _ oldest =>
    refine ⟨fun blank => ?_, fun closed => ?_⟩
    · cases oldest.symm.trans (untouched blank).empty
    · cases oldest.symm.trans (drained closed)
  | missed _ empty ready =>
    refine ⟨fun blank => ⟨empty, ready, (untouched blank).unlinked, (untouched blank).unmoved⟩, ?_⟩
    exact fun _ => empty
  | closed _ empty ended | announced _ empty ended _ =>
    exact ⟨fun blank => absurd (untouched blank).ready ended, fun _ => empty⟩
  | limited | connected | disconnected =>
    refine ⟨fun blank => ?_, drained⟩
    obtain ⟨empty, ready, unlinked, unmoved⟩ := untouched blank
    exact ⟨empty, ready, unlinked, unmoved⟩
  | settled _ _ _ _ => exact ⟨fun blank => (by cases blank), drained⟩

/-- A change leaves the phase or moves it on to the next: a setup makes a source ready, an end of
the stream has it drain, and asking for a frame once none is left closes it. -/
theorem phase_cases (h : Transition s op moves s') (orderly : s.IsOrderly) :
    s'.phase = s.phase
      ∨ (s.phase = .configuring ∧ s'.phase = .ready)
      ∨ (op.EndsStream ∧ s.phase = .ready ∧ s'.phase = .draining)
      ∨ (op.Takes s ∧ s.queue.frames = [] ∧ s.phase = .draining ∧ s'.phase = .closed) := by
  have closes (takes : op.Takes s) (empty : s.queue.frames = []) (ended : s.queue.IsEnded)
      (same : s'.descriptor = s.descriptor) (closed : s'.queue.stage = .closed) :
      s'.phase = s.phase ∨ (op.Takes s ∧ s.queue.frames = []
        ∧ s.phase = .draining ∧ s'.phase = .closed) := by
    have described := orderly.described_of_ended ended
    have after : s'.phase = .closed :=
      Source.phase_eq_closed_iff.mpr ⟨same ▸ described, closed⟩
    cases stage : s.queue.stage with
    | ready => exact absurd stage ended
    | draining =>
      refine .inr ⟨takes, empty, ?_, after⟩
      rw [Source.phase_of_described described, stage]
      rfl
    | closed => exact .inl (after.trans (Source.phase_eq_closed_iff.mpr ⟨described, stage⟩).symm)
  cases h with
  | described _ _ blank _ =>
    refine .inr (.inl ⟨Source.phase_of_blank blank, ?_⟩)
    rw [Source.phase_of_described (by simp)]
    simp [(orderly.untouched blank).ready, Stage.phase]
  | finished ends configured =>
    by_cases ended : s.queue.IsEnded
    · rw [FrameQueue.finish_of_isEnded ended]
      exact .inl rfl
    · have ready := FrameQueue.stage_of_not_isEnded ended
      refine .inr (.inr (.inl ⟨ends, ?_, ?_⟩))
      · rw [Source.phase_of_described configured, ready]
        rfl
      · rw [Source.phase_of_described (s := { s with queue := s.queue.finish }) configured,
          FrameQueue.stage_finish_of_ready ready]
        rfl
  | closed takes empty ended =>
    rcases closes takes empty ended rfl rfl with same | moved
    · exact .inl same
    · exact .inr (.inr (.inr moved))
  | announced attached empty ended _ =>
    rcases closes (by simp [Op.Takes, attached]) empty ended rfl rfl with same | moved
    · exact .inl same
    · exact .inr (.inr (.inr moved))
  | settled _ described _ _ =>
    refine .inl ?_
    rw [Source.phase_of_described (by simp), Source.phase_of_described (by simp [described])]
  | _ => exact .inl rfl

/-- After the end no frame enters, no miss is counted, and the end is not taken back. -/
theorem of_isEnded (h : Transition s op moves s') (ended : s.queue.IsEnded) :
    s'.queue.IsEnded ∧ s'.misses = s.misses ∧ moves.filterMap Move.entering? = [] := by
  cases h with
  | queued _ admitted | relayed _ admitted _ _ =>
    exact absurd ended (Source.not_isEnded_of_admitted admitted)
  | finished _ _ =>
    refine ⟨FrameQueue.isEnded_finish _, ?_, rfl⟩
    rw [FrameQueue.finish_of_isEnded ended]
  | missed _ _ ready => exact absurd ready ended
  | closed _ _ _ | announced _ _ _ _ => exact ⟨by simp [FrameQueue.IsEnded], rfl, rfl⟩
  | _ => exact ⟨ended, rfl, rfl⟩

end Transition

/-! ## After the end -/

/-- What is true of `s'` if it came, by `events`, out of a source `s` with its end marked. -/
structure Source.IsPast (s : Source) (events : List Event) (s' : Source) : Prop where
  /-- No frame has entered. -/
  none_entered : entered events = []
  /-- The frames that waited have left, from the oldest on, or still wait. -/
  frames_eq : s.queue.frames = left events ++ s'.queue.frames
  /-- No miss has been counted. -/
  misses_eq : s'.misses = s.misses
  /-- A push fails and changes nothing. It is told that the stream is over, but that the frame
  disagrees with its own layout is told first. -/
  push_fails : ∀ op f flags, op.offered? = some (f, flags) →
    (s'.perform op).1 = s' ∧ ∃ e, (s'.perform op).2.reply = .done (.error e)
      ∧ (e = .streamClosed ↔ f.IsConsistent)
  /-- Ending the stream again succeeds and changes nothing. -/
  ends_again : ∀ op, op.EndsStream →
    (s'.perform op).1 = s' ∧ (s'.perform op).2.reply = .done (.ok ())
  /-- A pop answers with the oldest frame, or that the stream is over. -/
  pop_reply : (s'.perform .pop).2.reply
    = .frame (match s'.queue.frames with | f :: _ => .ok f | [] => .error .endOfStream)
  /-- Pops hand out the frames that wait, all of them and in their order. -/
  pops : ∀ k, left (s'.run (List.replicate k .pop)).2 = s'.queue.frames.take k
  /-- Asking for a frame once none is left closes the source, and nothing opens it again. -/
  closed_iff : ∀ op, (s'.perform op).1.phase = .closed
    ↔ s'.phase = .closed ∨ (s'.queue.frames = [] ∧ op.Takes s')

namespace Source

variable {s : Source} {op : Op}

/-! ### One operation -/

theorem rank_perform (orderly : s.IsOrderly) (op : Op) :
    s.phase.rank ≤ (s.perform op).1.phase.rank
      ∧ (s.perform op).1.phase.rank ≤ s.phase.rank + 1 := by
  rcases (s.perform_transition op).phase_cases orderly with same | ⟨before, after⟩
    | ⟨_, before, after⟩ | ⟨_, _, before, after⟩
  · rw [same]
    omega
  all_goals
    rw [before, after]
    decide

/-- After the end, what stands against a frame is that it disagrees with its own layout, or else
the end. -/
theorem push_of_isEnded (ended : s.queue.IsEnded) (f : Frame) (flags : PushFlags) :
    (s.push f flags).state = s ∧ ∃ e, (s.push f flags).result = .error e
      ∧ (e = .streamClosed ↔ f.IsConsistent) := by
  have late : Objection.Stands s f flags .streamOver .streamClosed := .streamOver ended
  obtain ⟨o, e, stands, least⟩ := late.exists_isFirst
  rw [push_of_error (admission_of_isFirst ⟨stands, least⟩)]
  refine ⟨rfl, e, rfl, ?_⟩
  have early : o.rank ≤ 1 := least _ _ late
  cases stands with
  | layoutConflict audio own differ =>
    refine ⟨fun told => (by cases told), fun agrees => ?_⟩
    subst audio
    exact absurd (agrees _ own) differ
  | streamOver _ => exact ⟨fun _ => least.isConsistent (by decide), fun _ => rfl⟩
  | notConfigured _ | otherMedia _ _ | otherFormat _ _ _ _ | noSink _ _ =>
    exact absurd early (by decide)

theorem pushEnd_of_described (described : s.descriptor ≠ none) :
    s.pushEnd
      = { result := .ok (), state := { s with queue := s.queue.finish },
          notices := [.ended s.name s.queue.length] } := by
  obtain ⟨d, has⟩ := Option.ne_none_iff_exists'.mp described
  simp [pushEnd, has]

/-- The end of a stream that is pushed with success is marked. -/
theorem isEnded_of_isDone (ends : op.EndsStream)
    (succeeded : (s.perform op).2.reply.isDone = true) : (s.perform op).1.queue.IsEnded := by
  rw [perform_of_endsStream ends] at succeeded ⊢
  by_cases blank : s.descriptor = none
  · simp [done, finishWith, pushEnd, blank, Outcome.refuse, Outcome.fail, Reply.isDone] at succeeded
  · rw [pushEnd_of_described blank]
    exact FrameQueue.isEnded_finish _

/-- Ending a stream that has ended changes nothing. -/
theorem perform_of_endsStream_again (ends : op.EndsStream) (described : s.descriptor ≠ none)
    (ended : s.queue.IsEnded) :
    s.perform op
      = (s, { reply := .done (.ok ()), notices := [.ended s.name s.queue.length] }) := by
  rw [perform_of_endsStream ends, pushEnd_of_described described,
    FrameQueue.finish_of_isEnded ended]
  rfl

theorem result_pop_of_isEnded (ended : s.queue.IsEnded) :
    s.pop.result = match s.queue.frames with
      | f :: _ => .ok f
      | [] => .error .endOfStream := by
  cases frames : s.queue.frames with
  | cons f rest => rw [pop_of_cons frames]
  | nil =>
    rw [pop_of_ended frames ended]
    rfl

/-- Asking for a frame of a queue that is empty for good closes it. -/
theorem stage_of_takes (takes : op.Takes s) (empty : s.queue.frames = [])
    (ended : s.queue.IsEnded) : (s.perform op).1.queue.stage = .closed := by
  cases op with
  | pop =>
    show s.pop.state.queue.stage = .closed
    rw [pop_of_ended empty ended]
    rfl
  | request =>
    obtain ⟨output, attached⟩ := Option.isSome_iff_exists.mp takes
    show s.request.state.queue.stage = .closed
    rw [request_of_some attached]
    by_cases forwarded : s.endForwarded = true
    · rw [emit_of_forwarded empty ended forwarded]
      rfl
    · rw [emit_of_first empty ended (by simpa using forwarded)]
  | _ => exact takes.elim

theorem descriptor_perform (described : s.descriptor ≠ none) (op : Op) :
    (s.perform op).1.descriptor ≠ none := by
  obtain ⟨d, has⟩ := Option.ne_none_iff_exists'.mp described
  rcases @descriptor_kept_or_adopts _ op _ has with kept | ⟨_, _, _, _, _, _, _, new⟩
  · simp [kept]
  · simp [new]

/-- After the end a source is closed by what asks for a frame once none is left. -/
theorem phase_perform_eq_closed_iff (orderly : s.IsOrderly) (ended : s.queue.IsEnded) (op : Op) :
    (s.perform op).1.phase = .closed
      ↔ s.phase = .closed ∨ (s.queue.frames = [] ∧ op.Takes s) := by
  have described := orderly.described_of_ended ended
  constructor
  · intro closed
    rcases (s.perform_transition op).phase_cases orderly with same | ⟨_, after⟩
      | ⟨_, _, after⟩ | ⟨takes, empty, _, _⟩
    · exact .inl (same.symm.trans closed)
    · cases after.symm.trans closed
    · cases after.symm.trans closed
    · exact .inr ⟨empty, takes⟩
  · rintro (closed | ⟨empty, takes⟩)
    · have forward := (rank_perform orderly op).1
      rw [closed] at forward
      cases after : (s.perform op).1.phase with
      | closed => rfl
      | _ =>
        rw [after] at forward
        exact absurd forward (by decide)
    · exact phase_eq_closed_iff.mpr
        ⟨descriptor_perform described op, stage_of_takes takes empty ended⟩

/-! ### Whole runs -/

theorem isOrderly_run (orderly : s.IsOrderly) (ops : List Op) : (s.run ops).1.IsOrderly :=
  run_keeps (I := fun _ s => s.IsOrderly) orderly ops
    fun _ _ _ _ _ _ orderly change => change.isOrderly orderly

theorem rank_run (orderly : s.IsOrderly) (ops : List Op) :
    s.phase.rank ≤ (s.run ops).1.phase.rank := by
  induction ops generalizing s with
  | nil => exact Nat.le_refl _
  | cons op ops ih =>
    have now := (rank_perform orderly op).1
    have later := ih ((s.perform_transition op).isOrderly orderly)
    exact Nat.le_trans now later

theorem run_of_isEnded (ended : s.queue.IsEnded) (ops : List Op) :
    (s.run ops).1.queue.IsEnded ∧ (s.run ops).1.misses = s.misses
      ∧ entered (s.run ops).2 = [] := by
  rw [entered_eq]
  refine run_keeps (I := fun past s' => s'.queue.IsEnded ∧ s'.misses = s.misses
    ∧ past.filterMap Move.entering? = []) ⟨ended, rfl, rfl⟩ ops ?_
  intro op _ past s₁ moves s₂ ⟨marked, same, before⟩ change
  obtain ⟨marked', same', now⟩ := change.of_isEnded marked
  refine ⟨marked', same'.trans same, ?_⟩
  rw [List.filterMap_append, before, now, List.append_nil]

/-- Whatever is done to a source with its end marked, it is past its end. -/
theorem isPast_run (orderly : s.IsOrderly) (ended : s.queue.IsEnded) (ops : List Op) :
    s.IsPast (s.run ops).2 (s.run ops).1 := by
  obtain ⟨ended', misses, unentered⟩ := run_of_isEnded ended ops
  have orderly' := isOrderly_run orderly ops
  have described := orderly'.described_of_ended ended'
  have balanced := run_conserves s ops
  rw [unentered, List.append_nil] at balanced
  refine ⟨unentered, balanced, misses, ?_, ?_, ?_, ?_, phase_perform_eq_closed_iff orderly' ended'⟩
  · intro op f flags offered
    rw [perform_of_offered offered]
    obtain ⟨same, e, refused, told⟩ := push_of_isEnded ended' f flags
    refine ⟨same, e, ?_, told⟩
    show Reply.done (((s.run ops).1.push f flags).result) = _
    rw [refused]
  · intro op ends
    rw [perform_of_endsStream_again ends described ended']
    exact ⟨rfl, rfl⟩
  · exact congrArg Reply.frame (result_pop_of_isEnded ended')
  · intro k
    exact (run_pops (s.run ops).1 k).1

/-- **Phases in order, and a final end.** After any run of a new source its phase is never behind
an earlier one, and an operation moves it on by one place at most. A source in which a frame waits,
the end is marked, a link is configured or which a frame has left has its descriptor; one that is
closed has its end marked and nothing waiting. From the first end of the stream that is pushed with
success, whatever is done next, the source is past its end: nothing enters, and the frames that
waited then are those that can still be had. -/
theorem phase_in_order_and_end_final (name : String) (media : Media) (ops : List Op) :
    let s := ((fresh name media).run ops).1
    let events := ((fresh name media).run ops).2
    (∀ op, s.phase.rank ≤ (s.perform op).1.phase.rank
        ∧ (s.perform op).1.phase.rank ≤ s.phase.rank + 1)
      ∧ (∀ ops', s.phase.rank ≤ (s.run ops').1.phase.rank)
      ∧ (s.queue.frames ≠ [] ∨ s.queue.IsEnded ∨ s.linkConfigured = true ∨ left events ≠ [] →
        s.phase ≠ .configuring ∧ s.descriptor ≠ none)
      ∧ (s.phase = .closed → s.queue.IsEnded ∧ s.queue.frames = [])
      ∧ ∀ op, op.EndsStream → (s.perform op).2.reply.isDone = true →
        ∀ ops', (s.perform op).1.IsPast ((s.perform op).1.run ops').2
          ((s.perform op).1.run ops').1 := by
  intro s events
  have orderly : s.IsOrderly := isOrderly_run (isOrderly_fresh name media) ops
  refine ⟨rank_perform orderly, rank_run orderly, fun happened => ?_, fun closed => ?_, ?_⟩
  · have described : s.descriptor ≠ none := by
      intro blank
      obtain ⟨empty, ready, unlinked, unmoved⟩ := orderly.untouched blank
      rcases happened with waits | ended | linked | moved
      · exact waits empty
      · exact ended ready
      · cases linked.symm.trans unlinked
      · have marked := (framesEmitted_run_iff (fresh name media) ops).mpr (.inr moved)
        cases marked.symm.trans unmoved
    exact ⟨fun waiting => described (phase_eq_configuring_iff.mp waiting), described⟩
  · have stage := (phase_eq_closed_iff.mp closed).2
    exact ⟨by simp [FrameQueue.IsEnded, stage], orderly.drained stage⟩
  · intro op ends succeeded ops'
    have orderly' := (s.perform_transition op).isOrderly orderly
    exact isPast_run orderly' (isEnded_of_isDone ends succeeded) ops'

/-- A stream of two small pictures, one of which leaves before the end. -/
def shortStream : List Op :=
  [ .configure (.video { width := 2, height := 2, pixelFormat := some .gray, timeBase := ⟨1, 25⟩ }),
    .push (.video (.ofSize 2 2 .gray)) {},
    .push (.video (.ofSize 2 2 .gray)) {},
    .pop ]

/-- A frame of the short stream has left, so the source has its descriptor; its end is final; and
once it is closed, its end is marked and nothing waits. -/
theorem shortStream_isPast :
    (left ((fresh "cam" .video).run shortStream).2 ≠ []
        ∧ ((fresh "cam" .video).run shortStream).1.phase ≠ .configuring)
      ∧ (((fresh "cam" .video).run (shortStream ++ [.pushEnd, .pop, .pop])).1.phase = .closed
        ∧ ((fresh "cam" .video).run (shortStream ++ [.pushEnd, .pop, .pop])).1.queue.frames = [])
      ∧ (Op.EndsStream .pushEnd
        ∧ (((fresh "cam" .video).run shortStream).1.perform .pushEnd).2.reply.isDone = true
        ∧ ∀ ops, (((fresh "cam" .video).run shortStream).1.perform .pushEnd).1.IsPast
          ((((fresh "cam" .video).run shortStream).1.perform .pushEnd).1.run ops).2
          ((((fresh "cam" .video).run shortStream).1.perform .pushEnd).1.run ops).1) := by
  have moved : left ((fresh "cam" .video).run shortStream).2 ≠ [] := by decide
  have succeeded :
      (((fresh "cam" .video).run shortStream).1.perform .pushEnd).2.reply.isDone = true := by
    decide
  have closed :
      ((fresh "cam" .video).run (shortStream ++ [.pushEnd, .pop, .pop])).1.phase = .closed := by
    decide
  obtain ⟨_, _, described, _, past⟩ := phase_in_order_and_end_final "cam" .video shortStream
  obtain ⟨_, _, _, drained, _⟩ :=
    phase_in_order_and_end_final "cam" .video (shortStream ++ [.pushEnd, .pop, .pop])
  have configured := (described (.inr (.inr (.inr moved)))).1
  exact ⟨⟨moved, configured⟩, ⟨closed, (drained closed).2⟩, trivial, succeeded,
    past .pushEnd trivial succeeded⟩

end Source

end FrameIngest
