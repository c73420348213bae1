/-
FrameIngest.Proofs.Feed.Handover — handing a frame on is a push and then a request.

With `immediate` a push does two things, and does them together. Where a sink
is attached this shows in nothing: the answer, the state, what is logged and
what is moved are those of the push without the flag and, if that succeeds, of
a request after it (`push_adding_immediate`). The frame that the sink is handed
is the oldest, not the one that is pushed, and it is gone whatever the sink
answers; the sink's answer is that of the push.

* `Outcome.andThen` — an operation after another, if that succeeds;
* `PushFlags.has_adding_iff` — the flags of a push with one more.
-/
import FrameIngest.Proofs.Feed.Transition

namespace FrameIngest

/-! ## One operation after another -/

/-- The second operation is done in the state that the first leaves, if the first succeeds. -/
def Outcome.andThen {σ α β : Type} (o : Outcome σ α) (next : σ → Outcome σ β) : Outcome σ β :=
  match o.result with
  | .ok _ => (next o.state).after o.notices o.moves
  | .error e => { result := .error e, state := o.state, notices := o.notices, moves := o.moves }

theorem Outcome.andThen_of_ok {σ α β : Type} {o : Outcome σ α} {a : α} (h : o.result = .ok a)
    (next : σ → Outcome σ β) : o.andThen next = (next o.state).after o.notices o.moves := by
  simp [andThen, h]

theorem Outcome.andThen_of_error {σ α : Type} {o : Outcome σ α} {e : FeedError}
    (h : o.result = .error e) (next : σ → Outcome σ α) : o.andThen next = o := by
  obtain ⟨result, state, notices, moves⟩ := o
  cases h
  rfl

/-! ## Flags -/

namespace PushFlags

variable {flags : PushFlags} {flag flag' : PushFlag}

/-- Each flag has a bit of its own. -/
theorem bit_and_bit_ne_zero_iff : flag.bit &&& flag'.bit ≠ 0 ↔ flag = flag' := by
  cases flag <;> cases flag' <;> decide

theorem has_adding_iff : (flags.adding flag).Has flag' ↔ flags.Has flag' ∨ flag = flag' := by
  have parted : (flags.bits ||| flag.bit) &&& flag'.bit
      = (flags.bits &&& flag'.bit) ||| (flag.bit &&& flag'.bit) := by
    simp [← UInt32.toNat_inj, Nat.and_or_distrib_right]
  rw [← bit_and_bit_ne_zero_iff, Has, adding, parted, Ne, UInt32.or_eq_zero_iff,
    Decidable.not_and_iff_not_or_not]
  rfl

end PushFlags

namespace Source

variable {s : Source} {f : Frame} {flags : PushFlags} {output : Output}

/-- Where a sink is attached, a frame to be handed on is let in like any other. -/
theorem admission_adding_immediate (attached : s.output = some output) :
    s.admission f (flags.adding .immediate) = s.admission f flags := by
  have compared : (flags.adding .immediate).Has .noFormatCheck ↔ flags.Has .noFormatCheck := by
    simp [PushFlags.has_adding_iff]
  simp [admission, attached, compared]

/-- A request after a push finds the pushed frame behind the others. -/
theorem request_of_push (attached : s.output = some output) (plain : ¬ flags.Has .immediate)
    (accepted : (s.push f flags).result = .ok ()) :
    (s.push f flags).state.request = emit { s with queue := s.queue.append f } output := by
  rw [push_of_ok ((push_ok_iff_admitted plain).mp accepted) plain]
  exact request_of_some attached

/-- Where a sink is attached, a frame is pushed and handed on in one step as in two. -/
theorem push_adding_immediate (attached : s.output = some output)
    (plain : ¬ flags.Has .immediate) :
    s.push f (flags.adding .immediate) = (s.push f flags).andThen request := by
  have same : s.admission f (flags.adding .immediate) = s.admission f flags :=
    admission_adding_immediate attached
  cases admitted : (s.admission f flags).result with
  | error e =>
    have refused : (s.push f flags).result = .error e := by rw [push_of_error admitted]
    rw [Outcome.andThen_of_error refused, push_of_error admitted, push_of_error (same ▸ admitted),
      same]
  | ok _ =>
    have handed : (flags.adding .immediate).Has .immediate :=
      PushFlags.has_adding_iff.mpr (.inr rfl)
    have accepted := (push_ok_iff_admitted plain).mpr admitted
    obtain ⟨output', attached', relayed⟩ := push_of_immediate (same ▸ admitted) handed
    rw [Outcome.andThen_of_ok accepted, request_of_push attached' plain accepted, relayed,
      push_of_ok admitted plain, same]
    rfl

/-- Where a sink is attached, a frame that is accepted takes the place of the oldest, with which
the sink is handed one frame more. -/
theorem push_adding_immediate_of_ok (attached : s.output = some output)
    (plain : ¬ flags.Has .immediate) (accepted : (s.push f flags).result = .ok ()) :
    ∃ g rest, s.queue.frames ++ [f] = g :: rest ∧
      s.push f (flags.adding .immediate)
        = { result := output.answer g,
            state := { s.emitted { s.queue.append f with frames := rest } with
                       output := some (output.give g) },
            notices := (s.push f flags).notices,
            moves := [.queued f, .delivered output.sink.name g] } := by
  obtain ⟨g, rest, oldest⟩ := List.exists_cons_of_ne_nil (List.concat_ne_nil f s.queue.frames)
  refine ⟨g, rest, oldest, ?_⟩
  rw [push_adding_immediate attached plain, Outcome.andThen_of_ok accepted,
    request_of_push attached plain accepted,
    emit_of_cons (s := { s with queue := s.queue.append f }) oldest,
    push_of_ok ((push_ok_iff_admitted plain).mp accepted) plain]
  simp [Outcome.after, enqueue, emitted]

/-- **Handover.** Where a sink is attached, a push that hands a frame on is the push without that
and, if it succeeds, a request: the answer, the state that is left, the notices and the moves are
the same. If the frame is accepted, the sink is handed one frame, the oldest of those that waited
and the new one, and that is gone from then on whatever the sink answers, which is the answer of
the push. As many frames wait as before; the misses, the stage of the queue and whether the end was
announced are as they were. -/
theorem push_immediate_eq_push_then_request (s : Source) (output : Output) (f : Frame)
    (flags : PushFlags) (attached : s.output = some output) (plain : ¬ flags.Has .immediate) :
    s.push f (flags.adding .immediate) = (s.push f flags).andThen request
      ∧ ((s.push f flags).result = .ok () →
        ∃ g rest, s.queue.frames ++ [f] = g :: rest ∧
          let o := s.push f (flags.adding .immediate)
          o.result = output.answer g
            ∧ o.moves = [.queued f, .delivered output.sink.name g]
            ∧ o.state.queue.frames = rest
            ∧ o.state.queue.length = s.queue.length
            ∧ o.state.queue.misses = s.queue.misses
            ∧ o.state.queue.stage = s.queue.stage
            ∧ o.state.endForwarded = s.endForwarded
            ∧ o.state.output = some (output.give g)) := by
  refine ⟨push_adding_immediate attached plain, fun accepted => ?_⟩
  obtain ⟨g, rest, oldest, pushed⟩ := push_adding_immediate_of_ok attached plain accepted
  have kept : rest.length = s.queue.frames.length := by
    simpa using (congrArg List.length oldest).symm
  refine ⟨g, rest, oldest, ?_⟩
  rw [pushed]
  exact ⟨rfl, rfl, rfl, kept, rfl, rfl, rfl, rfl⟩

/-- A sink that never has room. -/
def fullSink : Sink := .ofFunction "full" fun _ _ => .error .wouldBlock

/-- A stream of pictures of which one waits, with a sink that never has room. -/
def backlog : List Op :=
  [ .configure (.video { width := 2, height := 2, pixelFormat := some .gray, timeBase := ⟨1, 25⟩ }),
    .push (.video (.ofSize 2 2 .gray)) {}, .connect fullSink ]

/-- The picture that waited is gone though there was no room for it, and a smaller one waits. -/
theorem backlog_handed_over :
    let s := ((fresh "cam" .video).run backlog).1
    let dot : Frame := .video (.ofSize 1 1 .gray)
    let o := s.push dot (({} : PushFlags).adding .immediate)
    (s.output = some { sink := fullSink } ∧ ¬ ({} : PushFlags).Has .immediate)
      ∧ o = (s.push dot {}).andThen request
      ∧ o.result = .error .wouldBlock
      ∧ o.moves = [.queued dot, .delivered "full" (.video (.ofSize 2 2 .gray))]
      ∧ o.state.queue.frames = [dot] := by
  intro s dot o
  have plain : ¬ ({} : PushFlags).Has .immediate := by decide
  obtain ⟨same, handed⟩ :=
    push_immediate_eq_push_then_request s { sink := fullSink } dot {} rfl plain
  obtain ⟨g, rest, oldest, answered, moved, waiting, _⟩ := handed rfl
  have both : [.video (.ofSize 2 2 .gray), dot] = g :: rest := oldest
  obtain ⟨rfl, rfl⟩ := List.cons.inj both
  exact ⟨⟨rfl, plain⟩, same, answered, moved, waiting⟩

end Source

end FrameIngest
