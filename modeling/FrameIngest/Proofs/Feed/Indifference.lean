/-
FrameIngest.Proofs.Feed.Indifference — the limit makes no difference but to the warnings.

The limit is read and changed where a frame is queued, and nothing else looks
at it. So a source at another limit answers every operation alike, moves the
same frames, logs the same but for warnings, and is left at another limit at
most (`perform_atLimit`).

A run is compared with one in which the limit is set elsewhere, to something
else or not at all. In both of them an operation may depend on what was shown
before: a link is handed in as an earlier operation left it, a frame that was
popped is pushed again, a sink that was detached comes back with what it was
given. Therefore runs are driven by steps that look back (`follow`); that both
runs come to the same operations is not assumed but proved.

* `atLimit`, `SameButLimit` — sources that differ in the limit at most;
* `View`, `Shown` — what can be seen, apart from the limit and the warnings;
* `Step`, `follow` — runs whose operations look back on what was shown;
* `limit_makes_no_difference` — two runs that set the limit differently.
-/
import FrameIngest.Proofs.Feed.Linkage
import FrameIngest.Proofs.Feed.Separation

namespace FrameIngest

/-! ## Without warnings -/

/-- What was logged, without the warnings. -/
def unwarned (notices : List Notice) : List Notice := notices.filter (·.severity ≠ .warn)

@[simp] theorem unwarned_append (notices notices' : List Notice) :
    unwarned (notices ++ notices') = unwarned notices ++ unwarned notices' :=
  List.filter_append ..

/-- The length of a queue is a matter for warnings only. -/
@[simp] theorem unwarned_warning (q : FrameQueue) : unwarned q.warning = [] := by
  unfold FrameQueue.warning
  split <;> rfl

/-- The event without the warnings in it. -/
def Event.unwarned (event : Event) : Event :=
  { event with notices := FrameIngest.unwarned event.notices }

/-! ## At another limit -/

namespace FrameQueue

def atLimit (q : FrameQueue) (limit : UInt64) : FrameQueue := { q with limit }

theorem finish_atLimit (q : FrameQueue) (limit : UInt64) :
    (q.atLimit limit).finish = q.finish.atLimit limit := by
  obtain ⟨_, stage, _, _⟩ := q
  cases stage <;> rfl

theorem pop_atLimit (q : FrameQueue) (limit : UInt64) :
    (q.atLimit limit).pop = { q.pop with state := q.pop.state.atLimit limit } := by
  obtain ⟨frames, stage, _, _⟩ := q
  cases frames with
  | cons f rest => rfl
  | nil => cases stage <;> rfl

end FrameQueue

namespace Source

def atLimit (s : Source) (limit : UInt64) : Source := { s with queue := s.queue.atLimit limit }

section Fields

variable (s : Source) (limit : UInt64)

@[simp] theorem media_atLimit : (s.atLimit limit).media = s.media := rfl

@[simp] theorem descriptor_atLimit : (s.atLimit limit).descriptor = s.descriptor := rfl

@[simp] theorem queue_atLimit : (s.atLimit limit).queue = s.queue.atLimit limit := rfl

@[simp] theorem output_atLimit : (s.atLimit limit).output = s.output := rfl

@[simp] theorem linkConfigured_atLimit :
    (s.atLimit limit).linkConfigured = s.linkConfigured := rfl

@[simp] theorem framesEmitted_atLimit : (s.atLimit limit).framesEmitted = s.framesEmitted := rfl

@[simp] theorem endForwarded_atLimit : (s.atLimit limit).endForwarded = s.endForwarded := rfl

end Fields

/-- The two sources differ in the limits of their queues at most. -/
def SameButLimit (s t : Source) : Prop := ∃ limit, t = s.atLimit limit

variable {s t u : Source}

theorem SameButLimit.refl (s : Source) : s.SameButLimit s := ⟨s.queue.limit, rfl⟩

theorem SameButLimit.symm (alike : s.SameButLimit t) : t.SameButLimit s := by
  obtain ⟨_, rfl⟩ := alike
  exact ⟨s.queue.limit, rfl⟩

theorem SameButLimit.trans (first : s.SameButLimit t) (second : t.SameButLimit u) :
    s.SameButLimit u := by
  obtain ⟨_, rfl⟩ := first
  obtain ⟨limit, rfl⟩ := second
  exact ⟨limit, rfl⟩

/-- To set the limit is to change nothing else. -/
theorem sameButLimit_setLimit (s : Source) (limit : UInt64) :
    s.SameButLimit (s.perform (.setLimit limit)).1 :=
  ⟨max limit 1, rfl⟩

end Source

/-- The same outcome, but for the limit that is left. -/
def Outcome.atLimit {α : Type} (o : Outcome Source α) (limit : UInt64) : Outcome Source α :=
  { o with state := o.state.atLimit limit }

namespace Source

/-! ## One operation -/

variable (s : Source) (limit : UInt64)

theorem configure_atLimit (p : Params) :
    (s.atLimit limit).configure p = (s.configure p).atLimit limit := by
  unfold configure
  rw [media_atLimit, descriptor_atLimit]
  split
  · rfl
  split
  · rfl
  cases p.check <;> rfl

theorem configureText_atLimit (args : String) :
    (s.atLimit limit).configureText args = (s.configureText args).atLimit limit := by
  unfold configureText
  rw [media_atLimit]
  cases Params.parse s.media args with
  | error e => rfl
  | ok p => exact s.configure_atLimit limit p

theorem pop_atLimit : (s.atLimit limit).pop = s.pop.atLimit limit := by
  unfold pop
  rw [queue_atLimit, FrameQueue.pop_atLimit]
  dsimp only
  cases s.queue.pop.result <;> rfl

theorem announceEnd_atLimit (output : Output) :
    (s.atLimit limit).announceEnd output = (s.announceEnd output).atLimit limit := by
  unfold announceEnd
  rw [endForwarded_atLimit]
  split <;> rfl

theorem emit_atLimit (output : Output) :
    (s.atLimit limit).emit output = (s.emit output).atLimit limit := by
  unfold emit
  rw [queue_atLimit, FrameQueue.pop_atLimit]
  dsimp only
  cases s.queue.pop.result with
  | ok f => rfl
  | error e =>
    cases e with
    | endOfStream => exact announceEnd_atLimit { s with queue := s.queue.pop.state } limit output
    | _ => rfl

theorem request_atLimit : (s.atLimit limit).request = s.request.atLimit limit := by
  unfold request
  rw [output_atLimit]
  cases s.output with
  | none => rfl
  | some output => exact s.emit_atLimit limit output

theorem pushEnd_atLimit : (s.atLimit limit).pushEnd = s.pushEnd.atLimit limit := by
  by_cases described : s.descriptor ≠ none
  · rw [pushEnd_of_described described, pushEnd_of_described (s := s.atLimit limit) described,
      queue_atLimit, FrameQueue.finish_atLimit]
    rfl
  · have blank : s.descriptor = none := Decidable.not_not.mp described
    simp only [pushEnd, descriptor_atLimit, blank]
    rfl

/-- A frame is queued at any limit; the limit that is left and the warning depend on it. -/
theorem push_atLimit (f : Frame) (flags : PushFlags) :
    ∃ limit' notices, unwarned notices = unwarned (s.push f flags).notices
      ∧ (s.atLimit limit).push f flags = { (s.push f flags).atLimit limit' with notices } := by
  have admission_eq : (s.atLimit limit).admission f flags = s.admission f flags := rfl
  cases admitted : (s.admission f flags).result with
  | error e =>
    rw [push_of_error admitted, push_of_error (admission_eq ▸ admitted), admission_eq]
    exact ⟨limit, _, rfl, rfl⟩
  | ok _ =>
    have admitted' : ((s.atLimit limit).admission f flags).result = .ok () := admitted
    by_cases handed : flags.Has .immediate
    · obtain ⟨output, attached, pushed⟩ := push_of_immediate admitted handed
      obtain ⟨output', attached', pushed'⟩ := push_of_immediate admitted' handed
      obtain rfl : output = output' := Option.some.inj (attached.symm.trans attached')
      -- with the frame each queue is at a limit of its own, of which one may just have been doubled
      have queue_eq : ({ s.atLimit limit with queue := (s.atLimit limit).queue.append f } : Source)
          = ({ s with queue := s.queue.append f } : Source).atLimit
              ((s.atLimit limit).queue.append f).limit := rfl
      rw [pushed, pushed', queue_eq, emit_atLimit]
      refine ⟨_, _, ?_, rfl⟩
      simp [Outcome.after, Outcome.atLimit, admission_eq]
    · rw [push_of_ok admitted handed, push_of_ok admitted' handed]
      refine ⟨((s.atLimit limit).queue.append f).limit, _, ?_, rfl⟩
      simp [Outcome.after, enqueue, admission_eq]

theorem configureLink_atLimit (link : Link) :
    (s.atLimit limit).configureLink link
      = let o := s.configureLink link
        { o with state := (o.state.1.atLimit limit, o.state.2) } := by
  unfold configureLink
  rw [framesEmitted_atLimit, descriptor_atLimit, linkConfigured_atLimit]
  cases s.framesEmitted with
  | true => rfl
  | false =>
    cases s.descriptor with
    | none => rfl
    | some d =>
      cases s.linkConfigured with
      | true => rfl
      | false =>
        dsimp only
        cases (d.settle link).result <;> rfl

/-- At another limit an operation leaves the same to be seen but for warnings, and the source as it
leaves it but for the limit. -/
theorem perform_atLimit (op : Op) :
    ((s.atLimit limit).perform op).2.unwarned = (s.perform op).2.unwarned
      ∧ (s.perform op).1.SameButLimit ((s.atLimit limit).perform op).1 := by
  have both {o o' : Outcome Source Unit} (same : o' = o.atLimit limit) :
      (done o').2.unwarned = (done o).2.unwarned ∧ (done o).1.SameButLimit (done o').1 := by
    subst same
    exact ⟨rfl, limit, rfl⟩
  have pushed (f : Frame) (flags : PushFlags) :
      (done ((s.atLimit limit).push f flags)).2.unwarned = (done (s.push f flags)).2.unwarned
        ∧ (done (s.push f flags)).1.SameButLimit (done ((s.atLimit limit).push f flags)).1 := by
    obtain ⟨limit', notices, same, left⟩ := s.push_atLimit limit f flags
    rw [left]
    exact ⟨congrArg (Event.mk _ · _) same, limit', rfl⟩
  cases op with
  | configure p => exact both (s.configure_atLimit limit p)
  | configureText args => exact both (s.configureText_atLimit limit args)
  | push f flags | write f flags => exact pushed f flags
  | add f flags =>
    cases f with
    | some f => exact pushed f flags
    | none => exact both (s.pushEnd_atLimit limit)
  | pushEnd => exact both (s.pushEnd_atLimit limit)
  | pop =>
    simp only [perform, pop_atLimit]
    exact ⟨rfl, limit, rfl⟩
  | request => exact both (s.request_atLimit limit)
  | poll | connect _ | disconnect | negotiate _ => exact ⟨rfl, limit, rfl⟩
  | setLimit limit' => exact ⟨rfl, _, rfl⟩
  | configureLink link =>
    simp only [perform, configureLink_atLimit]
    exact ⟨rfl, limit, rfl⟩

end Source

/-! ## What is shown -/

/-- What can be seen of a source, but for the limit. -/
structure View where
  descriptor : Option Descriptor
  frames : List Frame
  pending : Pending
  misses : Nat
  phase : Phase
  /-- The sink that is attached, with the frames it was given. -/
  output : Option Output
  debugText : String

/-- What an operation shows: its event without warnings, and the source that it leaves. -/
structure Shown where
  op : Op
  event : Event
  view : View

namespace Source

variable {s t : Source}

def view (s : Source) : View where
  descriptor := s.descriptor
  frames := s.queue.frames
  pending := s.pending
  misses := s.misses
  phase := s.phase
  output := s.output
  debugText := s.debugText

def shown (s : Source) (op : Op) : Shown where
  op := op
  event := (s.perform op).2.unwarned
  view := (s.perform op).1.view

theorem SameButLimit.view_eq (alike : s.SameButLimit t) : s.view = t.view := by
  obtain ⟨_, rfl⟩ := alike
  rfl

theorem SameButLimit.release_eq (alike : s.SameButLimit t) : s.release = t.release := by
  obtain ⟨_, rfl⟩ := alike
  rfl

/-- Sources that differ in their limits at most show the same of an operation, and differ in their
limits at most afterwards. -/
theorem SameButLimit.shown_perform (alike : s.SameButLimit t) (op : Op) :
    s.shown op = t.shown op ∧ (s.perform op).1.SameButLimit (t.perform op).1 := by
  obtain ⟨limit, rfl⟩ := alike
  obtain ⟨event_eq, alike'⟩ := s.perform_atLimit limit op
  refine ⟨?_, alike'⟩
  simp only [shown, event_eq, alike'.view_eq]

end Source

/-! ## Steps that look back -/

/-- A step of who uses a source: the limit is set, or an operation is done that may depend on all
that was shown before. -/
inductive Step where
  | setLimit (limit : UInt64)
  | act (choose : List Shown → Op)

/-- The step does not only set the limit. -/
def Step.acts : Step → Bool
  | .setLimit _ => false
  | .act _ => true

def Op.setsLimit : Op → Bool
  | .setLimit _ => true
  | _ => false

/-- The step that does an operation without looking back. -/
def Step.ofOp : Op → Step
  | .setLimit limit => .setLimit limit
  | op => .act fun _ => op

theorem Step.ofOp_of_setsLimit_eq_false {op : Op} (h : op.setsLimit = false) :
    Step.ofOp op = .act fun _ => op := by
  cases op with
  | setLimit _ => cases h
  | _ => rfl

namespace Source

variable {s t : Source}

/-- The source after the steps, and all that was shown by then, `past` being what was shown before
the first of them. -/
def follow (s : Source) (past : List Shown) : List Step → Source × List Shown
  | [] => (s, past)
  | .setLimit limit :: steps => (s.perform (.setLimit limit)).1.follow past steps
  | .act choose :: steps =>
    let op := choose past
    (s.perform op).1.follow (past ++ [s.shown op]) steps

/-- To follow steps that do not look back is to run their operations. -/
theorem follow_ofOp (s : Source) (past : List Shown) (ops : List Op) :
    (s.follow past (ops.map Step.ofOp)).1 = (s.run ops).1
      ∧ (s.follow past (ops.map Step.ofOp)).2.map (fun shown => (shown.op, shown.event))
        = past.map (fun shown => (shown.op, shown.event))
          ++ (s.seen Event.unwarned ops).filter fun shown => !shown.1.setsLimit := by
  induction ops generalizing s past with
  | nil => simp [follow, seen]
  | cons op ops ih =>
    rw [List.map_cons, seen_cons]
    cases sets : op.setsLimit with
    | true =>
      cases op with
      | setLimit limit =>
        rw [List.filter_cons_of_neg (by simp [sets])]
        exact ih _ past
      | _ => cases sets
    | false =>
      rw [List.filter_cons_of_pos (by simp [sets]), Step.ofOp_of_setsLimit_eq_false sets]
      simpa [follow, shown] using ih (s.perform op).1 (past ++ [s.shown op])

/-- Steps that only set the limit can be left out. The operations that look back are the same
without them, since by then the same was shown; so leaving out operations of a given run, as in
`seen_filter`, would not do. -/
theorem follow_filter_acts (alike : s.SameButLimit t) (past : List Shown) (steps : List Step) :
    (s.follow past steps).2 = (t.follow past (steps.filter Step.acts)).2
      ∧ (s.follow past steps).1.SameButLimit (t.follow past (steps.filter Step.acts)).1 := by
  induction steps generalizing s t past with
  | nil => exact ⟨rfl, alike⟩
  | cons step steps ih =>
    cases step with
    | setLimit limit =>
      rw [List.filter_cons_of_neg (by simp [Step.acts])]
      exact ih ((s.sameButLimit_setLimit limit).symm.trans alike) past
    | act choose =>
      obtain ⟨shown_eq, alike'⟩ := alike.shown_perform (choose past)
      rw [List.filter_cons_of_pos (by simp [Step.acts])]
      simp only [follow, shown_eq]
      exact ih alike' _

/-- **The limit.** Take two lists of steps for one source that differ only in the limits that are
set: in their values, in how often and when. The operations that look back come out the same in
both. They are answered the same, a link that is handed in included, sinks are given the same, and
the same is logged but for warnings; and after each of them the descriptor, the frames that wait,
what a poll answers, the misses, the phase and the debug text are the same. The sources that are
left differ in their limits at most and leave the same record when they go away. Where no step
looks back, the two runs of the operations show the same at all operations that do not set the
limit. -/
theorem limit_makes_no_difference (s : Source) (steps steps' : List Step)
    (same : steps.filter Step.acts = steps'.filter Step.acts) :
    (s.follow [] steps).2 = (s.follow [] steps').2
      ∧ (s.follow [] steps).1.SameButLimit (s.follow [] steps').1
      ∧ (s.follow [] steps).1.release = (s.follow [] steps').1.release
      ∧ ∀ ops ops', steps = ops.map Step.ofOp → steps' = ops'.map Step.ofOp →
        (s.seen Event.unwarned ops).filter (fun shown => !shown.1.setsLimit)
            = (s.seen Event.unwarned ops').filter (fun shown => !shown.1.setsLimit)
          ∧ (s.run ops).1.SameButLimit (s.run ops').1 := by
  obtain ⟨shown_eq, alike⟩ := follow_filter_acts (SameButLimit.refl s) [] steps
  obtain ⟨shown_eq', alike'⟩ := follow_filter_acts (SameButLimit.refl s) [] steps'
  rw [same] at shown_eq alike
  have shown_same := shown_eq.trans shown_eq'.symm
  have left := alike.trans alike'.symm
  refine ⟨shown_same, left, left.release_eq, ?_⟩
  rintro ops ops' rfl rfl
  obtain ⟨run_eq, seen_eq⟩ := s.follow_ofOp [] ops
  obtain ⟨run_eq', seen_eq'⟩ := s.follow_ofOp [] ops'
  refine ⟨?_, run_eq ▸ run_eq' ▸ left⟩
  rw [shown_same, seen_eq'] at seen_eq
  simpa using seen_eq.symm

/-- The link of who hands it in again and again, as it was left the last time. -/
def heldLink (link : Link) (past : List Shown) : Link :=
  past.foldl (fun held shown =>
    match shown.event.reply with
    | .link _ left => left
    | _ => held) link

/-- The frame that was popped last. -/
def lastPopped? (past : List Shown) : Option Frame :=
  past.foldl (fun popped shown =>
    match shown.event.reply with
    | .frame (.ok f) => some f
    | _ => popped) none

/-- A block of two channels at a given time. -/
def blockAt (time : Int64) : Frame := (Frame.audio (.ofCount 4 .s16 8000 2)).withPts (some time)

/-- A stream is offered on a link and takes its layout. Of two blocks the first is popped and pushed
again, which names no layout and is not compared. -/
def broughtBack : List Step :=
  [ .act fun _ =>
      .configure (.audio { sampleRate := 8000, sampleFormat := some .s16, channels := 2 }),
    .act fun _ => .push (blockAt 1) {},
    .act fun _ => .push (blockAt 2) {},
    .act fun past => .negotiate (heldLink stereoLink past),
    .act fun past => .configureLink (heldLink stereoLink past),
    .act fun _ => .pop,
    .act fun past => .add (lastPopped? past) ⟨1⟩ ]

/-- Where the limit is one, the second block is warned of, which doubles it. Without that the same
is shown, and the link is offered the stream and then carries it. The hurried consumer does not look
back, and its limit is of no account either. -/
theorem broughtBack_indifferent :
    let s := fresh "mic" .audio
    let early := .setLimit 0 :: broughtBack
    let late := broughtBack ++ [.setLimit 3]
    let link := heldLink stereoLink (s.follow [] late).2
    let cam := fresh "cam" .video
    let limitless := hurriedConsumer.filter fun op => !op.setsLimit
    early.filter Step.acts = late.filter Step.acts
      ∧ (s.follow [] early).2 = (s.follow [] late).2
      ∧ (s.follow [] early).1.SameButLimit (s.follow [] late).1
      ∧ (s.follow [] early).1.queue.limit = 2 ∧ (s.follow [] late).1.queue.limit = 3
      ∧ (s.follow [] late).1.queue.frames = [blockAt 2, blockAt 1]
      ∧ link.offer.isSome ∧ link.sampleRate = 8000
      ∧ (cam.seen Event.unwarned hurriedConsumer).filter (fun shown => !shown.1.setsLimit)
        = (cam.seen Event.unwarned limitless).filter (fun shown => !shown.1.setsLimit) := by
  intro s early late link cam limitless
  have same : early.filter Step.acts = late.filter Step.acts := rfl
  obtain ⟨shown_eq, left, -, -⟩ := limit_makes_no_difference s early late same
  obtain ⟨-, -, -, plain⟩ := limit_makes_no_difference cam (hurriedConsumer.map Step.ofOp)
    (limitless.map Step.ofOp) rfl
  exact ⟨same, shown_eq, left, by decide, by decide, by decide, by decide, by decide,
    (plain _ _ rfl rfl).1⟩

end Source

end FrameIngest
