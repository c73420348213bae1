/-
FrameIngest.Proofs.Feed.Separation — who brings frames does not notice who takes them.

Two runs are compared: a run, and the same run without the operations of the
consumer. `seen_filter` is the general scheme for this. Operations that are
left out keep the two states alike, and the others show the same in both and
keep them alike too; then what the others show over the whole run is the same.

The states are alike for the producer if they have the same name, kind and
descriptor and the end is marked in both or in neither (`IsAlike`). The queue,
its counters, the sink and what has left are of no account. So the producer
gets the same answers however its operations are interleaved with those of a
consumer, and once everything is popped the frames have come out in the order
in which they entered (`producer_unaffected`).

* `seen`, `answers` — what the operations of a run show;
* `Op.isConsumer`, `Op.IsPlain` — the two sides;
* `IsAlike` — what the producer can tell.
-/
import FrameIngest.Proofs.Feed.Announcement

namespace FrameIngest

/-! ## Runs with and without some operations -/

namespace Source

/-- What each operation of a run shows. -/
def seen {α : Type} (see : Event → α) (s : Source) (ops : List Op) : List (Op × α) :=
  ops.zip ((s.run ops).2.map see)

/-- What each operation of a run answers. -/
def answers (s : Source) (ops : List Op) : List (Op × Reply) := s.seen (·.reply) ops

variable {α : Type} (see : Event → α)

theorem seen_cons (s : Source) (op : Op) (ops : List Op) :
    s.seen see (op :: ops) = (op, see (s.perform op).2) :: (s.perform op).1.seen see ops := rfl

/-- Operations of a run can be left out if this keeps the states alike, and if in alike states the
other operations show the same and leave alike states behind. -/
theorem seen_filter {hidden : Op → Bool} {R : Source → Source → Prop} {ops : List Op}
    (hides : ∀ op ∈ ops, hidden op = true → ∀ s t : Source, R s t → R (s.perform op).1 t)
    (shows : ∀ op ∈ ops, hidden op = false → ∀ s t : Source, R s t →
      see (s.perform op).2 = see (t.perform op).2 ∧ R (s.perform op).1 (t.perform op).1)
    {s t : Source} (alike : R s t) :
    (s.seen see ops).filter (fun shown => !hidden shown.1)
        = t.seen see (ops.filter fun op => !hidden op)
      ∧ R (s.run ops).1 (t.run (ops.filter fun op => !hidden op)).1 := by
  induction ops generalizing s t with
  | nil => exact ⟨rfl, alike⟩
  | cons op ops ih =>
    have later := @ih (fun op' among => hides op' (List.mem_cons_of_mem _ among))
      (fun op' among => shows op' (List.mem_cons_of_mem _ among))
    rw [seen_cons]
    cases out : hidden op with
    | true =>
      rw [List.filter_cons_of_neg (by simp [out]), List.filter_cons_of_neg (by simp [out])]
      exact later (hides op List.mem_cons_self out s t alike)
    | false =>
      obtain ⟨same, alike'⟩ := shows op List.mem_cons_self out s t alike
      obtain ⟨rest, final⟩ := later alike'
      rw [List.filter_cons_of_pos (by simp [out]), List.filter_cons_of_pos (by simp [out]),
        seen_cons, same, rest]
      exact ⟨rfl, final⟩

/-- What is gathered over a run is seen at its operations. -/
theorem flatMap_seen {β : Type} (gather : Event → List β) (s : Source) (ops : List Op) :
    (s.seen gather ops).flatMap (·.2) = (s.run ops).2.flatMap gather := by
  induction ops generalizing s with
  | nil => rfl
  | cons op ops ih => rw [run_cons, List.flatMap_cons, seen_cons, List.flatMap_cons, ih]

/-- Operations that give nothing can be left out when gathering. -/
theorem flatMap_seen_filter {β : Type} {gather : Event → List β} {hidden : Op → Bool}
    (silent : ∀ (s : Source) (op : Op), hidden op = true → gather (s.perform op).2 = [])
    (s : Source) (ops : List Op) :
    ((s.seen gather ops).filter fun shown => !hidden shown.1).flatMap (·.2)
      = (s.run ops).2.flatMap gather := by
  induction ops generalizing s with
  | nil => rfl
  | cons op ops ih =>
    rw [run_cons, List.flatMap_cons, ← ih (s.perform op).1, seen_cons]
    cases out : hidden op with
    | true => rw [List.filter_cons_of_neg (by simp [out]), silent s op out, List.nil_append]
    | false => rw [List.filter_cons_of_pos (by simp [out]), List.flatMap_cons]

end Source

/-! ## The two sides of a source -/

namespace Op

/-- The operation is one of the consumer, or only looks, warns or offers a format. -/
def isConsumer : Op → Bool
  | .pop | .request | .poll | .setLimit _ | .connect _ | .disconnect | .negotiate _ => true
  | .configure _ | .configureText _ | .push .. | .write .. | .add .. | .pushEnd
  | .configureLink _ => false

/-- The operation configures no link, and hands nothing on to a sink along with a frame. -/
def IsPlain (op : Op) : Prop :=
  (∀ link, op ≠ .configureLink link)
    ∧ ∀ f flags, op.offered? = some (f, flags) → ¬ flags.Has .immediate

/-- A consumer brings no frame, asks for no setup and ends no stream. -/
theorem brings_nothing {op : Op} (consumer : op.isConsumer = true) :
    op.offered? = none ∧ (∀ media, op.asked? media = none) ∧ ¬ op.EndsStream := by
  cases op with
  | pop | request | poll | setLimit _ | connect _ | disconnect | negotiate _ =>
    exact ⟨rfl, fun _ => rfl, id⟩
  | _ => cases consumer

end Op

namespace Source

/-- The producer cannot tell the two sources from each other. -/
structure IsAlike (s t : Source) : Prop where
  name_eq : s.name = t.name
  media_eq : s.media = t.media
  descriptor_eq : s.descriptor = t.descriptor
  isEnded_iff : s.queue.IsEnded ↔ t.queue.IsEnded

theorem IsAlike.refl (s : Source) : s.IsAlike s := ⟨rfl, rfl, rfl, Iff.rfl⟩

theorem IsAlike.trans {s t u : Source} (first : s.IsAlike t) (second : t.IsAlike u) :
    s.IsAlike u where
  name_eq := first.name_eq.trans second.name_eq
  media_eq := first.media_eq.trans second.media_eq
  descriptor_eq := first.descriptor_eq.trans second.descriptor_eq
  isEnded_iff := first.isEnded_iff.trans second.isEnded_iff

end Source

/-- What the consumer does cannot be told, and lets no frame in. -/
theorem Transition.of_isConsumer {s s' : Source} {op : Op} {moves : List Move}
    (h : Transition s op moves s') (consumer : op.isConsumer = true) :
    s'.IsAlike s ∧ moves.filterMap Move.entering? = [] := by
  obtain ⟨frameless, unasked, endless⟩ := Op.brings_nothing consumer
  cases h with
  | described asked _ _ _ => cases (unasked _).symm.trans asked
  | queued offered _ | relayed offered _ _ _ => cases frameless.symm.trans offered
  | finished ends _ => exact absurd ends endless
  | closed _ _ ended | announced _ _ ended _ =>
    exact ⟨⟨rfl, rfl, rfl, fun _ => ended, fun _ => by simp [FrameQueue.IsEnded]⟩, rfl⟩
  | settled _ _ _ _ => cases consumer
  | _ => exact ⟨⟨rfl, rfl, rfl, Iff.rfl⟩, rfl⟩

namespace Source

variable {s t : Source}

/-! ## What the producer does to alike sources -/

theorem configure_alike (alike : s.IsAlike t) (p : Params) :
    (s.configure p).result = (t.configure p).result
      ∧ (s.configure p).moves = (t.configure p).moves
      ∧ (s.configure p).state.IsAlike (t.configure p).state := by
  unfold configure
  rw [alike.media_eq, alike.descriptor_eq]
  split
  · exact ⟨rfl, rfl, alike⟩
  split
  · exact ⟨rfl, rfl, alike⟩
  split
  · exact ⟨rfl, rfl, alike⟩
  · exact ⟨rfl, rfl, alike.name_eq, rfl, rfl, alike.isEnded_iff⟩

theorem configureText_alike (alike : s.IsAlike t) (args : String) :
    (s.configureText args).result = (t.configureText args).result
      ∧ (s.configureText args).moves = (t.configureText args).moves
      ∧ (s.configureText args).state.IsAlike (t.configureText args).state := by
  unfold configureText
  rw [alike.media_eq]
  cases Params.parse t.media args with
  | error e => exact ⟨rfl, rfl, alike⟩
  | ok p => exact configure_alike alike p

theorem result_admission_alike (alike : s.IsAlike t) (f : Frame) {flags : PushFlags}
    (kept : ¬ flags.Has .immediate) :
    (s.admission f flags).result = (t.admission f flags).result := by
  simp only [admission, alike.isEnded_iff, alike.descriptor_eq, alike.name_eq, kept, false_and]

theorem push_alike (alike : s.IsAlike t) (f : Frame) {flags : PushFlags}
    (kept : ¬ flags.Has .immediate) :
    (s.push f flags).result = (t.push f flags).result
      ∧ (s.push f flags).moves = (t.push f flags).moves
      ∧ (s.push f flags).state.IsAlike (t.push f flags).state := by
  have same := result_admission_alike alike f kept
  cases admitted : (s.admission f flags).result with
  | error e =>
    rw [push_of_error admitted, push_of_error (same.symm.trans admitted)]
    exact ⟨rfl, rfl, alike⟩
  | ok _ =>
    rw [push_of_ok admitted kept, push_of_ok (same.symm.trans admitted) kept]
    exact ⟨rfl, rfl, alike.name_eq, alike.media_eq, alike.descriptor_eq, alike.isEnded_iff⟩

theorem pushEnd_alike (alike : s.IsAlike t) :
    s.pushEnd.result = t.pushEnd.result ∧ s.pushEnd.moves = t.pushEnd.moves
      ∧ s.pushEnd.state.IsAlike t.pushEnd.state := by
  by_cases blank : s.descriptor = none
  · have blank' : t.descriptor = none := alike.descriptor_eq.symm.trans blank
    simp only [pushEnd, blank, blank', alike.name_eq]
    exact ⟨rfl, rfl, alike⟩
  · have described : t.descriptor ≠ none := alike.descriptor_eq ▸ blank
    rw [pushEnd_of_described blank, pushEnd_of_described described]
    refine ⟨rfl, rfl, alike.name_eq, alike.media_eq, alike.descriptor_eq, ?_⟩
    exact ⟨fun _ => FrameQueue.isEnded_finish _, fun _ => FrameQueue.isEnded_finish _⟩

/-- In alike sources the producer gets the same answer, the same frame enters, and the sources are
alike afterwards. -/
theorem perform_alike (alike : s.IsAlike t) {op : Op} (producer : op.isConsumer = false)
    (plain : op.IsPlain) :
    (s.perform op).2.reply = (t.perform op).2.reply
      ∧ (s.perform op).2.moves = (t.perform op).2.moves
      ∧ (s.perform op).1.IsAlike (t.perform op).1 := by
  have both {o o' : Outcome Source Unit} (same : o.result = o'.result ∧ o.moves = o'.moves
      ∧ o.state.IsAlike o'.state) :
      (done o).2.reply = (done o').2.reply ∧ (done o).2.moves = (done o').2.moves
        ∧ (done o).1.IsAlike (done o').1 :=
    ⟨congrArg Reply.done same.1, same.2⟩
  cases op with
  | configure p => exact both (configure_alike alike p)
  | configureText args => exact both (configureText_alike alike args)
  | push f flags | write f flags => exact both (push_alike alike f (plain.2 f flags rfl))
  | add f flags =>
    cases f with
    | some f => exact both (push_alike alike f (plain.2 f flags rfl))
    | none => exact both (pushEnd_alike alike)
  | pushEnd => exact both (pushEnd_alike alike)
  | configureLink link => exact absurd rfl (plain.1 link)
  | _ => cases producer

/-! ## Whole runs -/

/-- Without the consumer the producer gets the same answers, and the same frames enter. -/
theorem run_without_consumer {ops : List Op} (plain : ∀ op ∈ ops, op.IsPlain)
    (alike : s.IsAlike t) :
    (s.answers ops).filter (fun shown => !shown.1.isConsumer)
        = t.answers (ops.filter fun op => !op.isConsumer)
      ∧ entered (s.run ops).2 = entered (t.run (ops.filter fun op => !op.isConsumer)).2
      ∧ (s.run ops).1.IsAlike (t.run (ops.filter fun op => !op.isConsumer)).1 := by
  have hides : ∀ op ∈ ops, op.isConsumer = true → ∀ s t : Source, s.IsAlike t →
      (s.perform op).1.IsAlike t :=
    fun op _ consumer s t alike =>
      ((s.perform_transition op).of_isConsumer consumer).1.trans alike
  have performed : ∀ op ∈ ops, op.isConsumer = false → ∀ s t : Source, s.IsAlike t →
      (s.perform op).2.reply = (t.perform op).2.reply
        ∧ (s.perform op).2.moves = (t.perform op).2.moves
        ∧ (s.perform op).1.IsAlike (t.perform op).1 :=
    fun op among producer _ _ alike => perform_alike alike producer (plain op among)
  have replies := seen_filter (·.reply) hides
    (fun op among producer s t alike =>
      ⟨(performed op among producer s t alike).1, (performed op among producer s t alike).2.2⟩)
    alike
  have entering := seen_filter (fun event => event.moves.filterMap Move.entering?) hides
    (fun op among producer s t alike =>
      ⟨congrArg _ (performed op among producer s t alike).2.1,
        (performed op among producer s t alike).2.2⟩)
    alike
  have quiet : ∀ (s : Source) (op : Op), op.isConsumer = true →
      (s.perform op).2.moves.filterMap Move.entering? = [] :=
    fun s op consumer => ((s.perform_transition op).of_isConsumer consumer).2
  refine ⟨replies.1, ?_, replies.2⟩
  unfold entered
  rw [← flatMap_seen_filter quiet, entering.1, flatMap_seen]

/-- Once the end is marked, popping until the stream is over takes what waits, and there is an end
to it. -/
theorem left_of_pops (ended : s.queue.IsEnded) (k : Nat) :
    (((s.run (List.replicate k .pop)).1.perform .pop).2.reply = .frame (.error .endOfStream)
        ↔ s.queue.frames.length ≤ k)
      ∧ (s.queue.frames.length ≤ k →
        left (s.run (List.replicate (k + 1) .pop)).2 = s.queue.frames) := by
  obtain ⟨ended', _, _⟩ := run_of_isEnded ended (List.replicate k .pop)
  have answer : ((s.run (List.replicate k .pop)).1.perform .pop).2.reply
      = .frame (s.run (List.replicate k .pop)).1.pop.result := rfl
  rw [answer, result_pop_of_isEnded ended', (run_pops s k).2, (run_pops s (k + 1)).1]
  constructor
  · cases rest : s.queue.frames.drop k with
    | nil => simpa using List.drop_eq_nil_iff.mp rest
    | cons f _ =>
      have waits : ¬ s.queue.frames.length ≤ k := by
        intro short
        cases rest.symm.trans (List.drop_eq_nil_iff.mpr short)
      simpa using waits
  · exact fun short => List.take_of_length_le (Nat.le_succ_of_le short)

/-- **The producer is not affected by the consumer.** Take any run of a new source in which no link
is configured and no frame is handed on along with a push, and leave out what the consumer does:
the other operations answer the same, and the same frames enter. If they close with an end of the
stream that is pushed with success, then popping until the answer is that the stream is over comes
to an end, and what has left by then are the frames that enter when the producer is alone, in the
order in which they are brought, whatever the consumer did before. -/
theorem producer_unaffected (name : String) (media : Media) (ops : List Op)
    (plain : ∀ op ∈ ops, op.IsPlain) :
    let s := fresh name media
    let produced := ops.filter fun op => !op.isConsumer
    (s.answers ops).filter (fun shown => !shown.1.isConsumer) = s.answers produced
      ∧ entered (s.run ops).2 = entered (s.run produced).2
      ∧ ∀ before op, produced = before ++ [op] → op.EndsStream →
        ((s.run before).1.perform op).2.reply.isDone = true →
        (∃ k, ((s.run (ops ++ List.replicate k .pop)).1.perform .pop).2.reply
            = .frame (.error .endOfStream))
          ∧ ∀ k, ((s.run (ops ++ List.replicate k .pop)).1.perform .pop).2.reply
              = .frame (.error .endOfStream) →
            left (s.run (ops ++ List.replicate (k + 1) .pop)).2 = entered (s.run produced).2
              ∧ (entered (s.run produced).2).Sublist (produced.filterMap Op.frame?) := by
  intro s produced
  obtain ⟨answered, same, alike⟩ := run_without_consumer plain (IsAlike.refl s)
  refine ⟨answered, same, fun before op last ends succeeded => ?_⟩
  have marked : (s.run produced).1.queue.IsEnded := by
    rw [last, run_append]
    exact isEnded_of_isDone ends succeeded
  have ended : (s.run ops).1.queue.IsEnded := alike.isEnded_iff.mpr marked
  have balanced : entered (s.run ops).2 = left (s.run ops).2 ++ (s.run ops).1.queue.frames :=
    run_conserves s ops
  have pops (k : Nat) := left_of_pops ended k
  simp only [run_append]
  refine ⟨⟨_, (pops (s.run ops).1.queue.frames.length).1.mpr (Nat.le_refl _)⟩, fun k told => ?_⟩
  refine ⟨?_, entered_sublist s produced⟩
  calc left ((s.run ops).2 ++ ((s.run ops).1.run (List.replicate (k + 1) .pop)).2)
      = left (s.run ops).2 ++ left ((s.run ops).1.run (List.replicate (k + 1) .pop)).2 :=
        List.flatMap_append
    _ = left (s.run ops).2 ++ (s.run ops).1.queue.frames := by
        rw [(pops k).2 ((pops k).1.mp told)]
    _ = entered (s.run produced).2 := balanced.symm.trans same

/-- A small gray picture, to be shown at a given time. -/
def pictureAt (time : Int64) : Frame := (Frame.video (.ofSize 2 2 .gray)).withPts (some time)

/-- Two pictures and the end of their stream, with a consumer that asks early and changes sinks. -/
def hurriedConsumer : List Op :=
  [ .pop, .connect strictSink,
    .configure (.video { width := 2, height := 2, pixelFormat := some .gray, timeBase := ⟨1, 25⟩ }),
    .request, .push (pictureAt 1) {}, .setLimit 0, .request, .write (pictureAt 2) {}, .poll,
    .disconnect, .pushEnd ]

/-- The hurried consumer has the first picture before the second is brought, and pops the rest. -/
theorem hurriedConsumer_unnoticed :
    (∀ op ∈ hurriedConsumer, op.IsPlain)
      ∧ entered ((fresh "cam" .video).run hurriedConsumer).2
        = entered ((fresh "cam" .video).run
            (hurriedConsumer.filter fun op => !op.isConsumer)).2
      ∧ (((fresh "cam" .video).run (hurriedConsumer ++ List.replicate 1 .pop)).1.perform
          .pop).2.reply = .frame (.error .endOfStream)
      ∧ left ((fresh "cam" .video).run (hurriedConsumer ++ List.replicate 2 .pop)).2
        = entered ((fresh "cam" .video).run
            (hurriedConsumer.filter fun op => !op.isConsumer)).2
      ∧ left ((fresh "cam" .video).run (hurriedConsumer ++ List.replicate 2 .pop)).2
        = [pictureAt 1, pictureAt 2] := by
  have plain : ∀ op ∈ hurriedConsumer, op.IsPlain := by
    intro op among
    simp only [hurriedConsumer, List.mem_cons, List.not_mem_nil, or_false] at among
    rcases among with rfl | rfl | rfl | rfl | rfl | rfl | rfl | rfl | rfl | rfl | rfl
    all_goals refine ⟨fun link same => (by cases same), fun f flags offered => ?_⟩
    all_goals cases offered
    all_goals decide
  have told : (((fresh "cam" .video).run (hurriedConsumer ++ List.replicate 1 .pop)).1.perform
      .pop).2.reply = .frame (.error .endOfStream) := rfl
  obtain ⟨_, same, completed⟩ := producer_unaffected "cam" .video hurriedConsumer plain
  have out := (completed [_, _, _] .pushEnd rfl trivial rfl).2 1 told
  exact ⟨plain, same, told, out.1, by decide⟩

end Source

end FrameIngest
