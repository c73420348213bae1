/-
FrameIngest.Proofs.Feed.Announcement — the end of a stream is announced once, and last of all.

A request reaches the end of the stream when it finds a sink attached, the end
marked and no frame left. The first request of a run to do so announces the end
to that sink, whatever the sink answers and whoever has seen the end before by
popping; no other operation does (`announced_iff`). Later requests that reach
the end call no sink, and as nothing enters a source any more, nothing moves
after the announcement (`end_announced_once`).

* `announced` — the sinks that were told of the end;
* `reachesEnd` — the requests that reach the end;
* `IsOver` — a source that has announced its end.
-/
import FrameIngest.Proofs.Feed.Lifecycle

namespace FrameIngest

/-! ## Announcements -/

/-- The sink that is told of the end. -/
def Move.announced? : Move → Option String
  | .ended sink => some sink
  | .queued _ | .taken _ | .delivered .. => none

/-- The sinks that were told of the end, in order. -/
def announced (events : List Event) : List String := (movesOf events).filterMap Move.announced?

/-- What a request answers that announces the end: the failure of the sink, if it fails. -/
def Output.endError (output : Output) : FeedError :=
  match output.finish with
  | .ok _ => .endOfStream
  | .error e => e

namespace Source

/-- The operation is a request that finds a sink attached, the end marked and no frame left. -/
def reachesEnd (s : Source) : Op → Bool
  | .request => s.output.isSome && decide s.queue.IsEnded && s.queue.frames.isEmpty
  | _ => false

/-- The source has announced its end, and has nothing left. -/
structure IsOver (s : Source) : Prop where
  forwarded : s.endForwarded = true
  ended : s.queue.IsEnded
  empty : s.queue.frames = []

variable {s : Source} {op : Op} {output : Output}

theorem reachesEnd_iff :
    s.reachesEnd op = true
      ↔ op = .request ∧ s.output.isSome = true ∧ s.queue.IsEnded ∧ s.queue.frames = [] := by
  cases op with
  | request => simp [reachesEnd, and_assoc]
  | _ => simp [reachesEnd]

/-! ## One operation -/

/-- The first request to reach the end announces it. -/
theorem perform_of_first (attached : s.output = some output) (ended : s.queue.IsEnded)
    (empty : s.queue.frames = []) (first : s.endForwarded = false) :
    s.perform .request
      = ({ s with queue := { s.queue with stage := .closed }, endForwarded := true },
         { reply := .done (.error output.endError), moves := [.ended output.sink.name] }) := by
  show done s.request = _
  rw [request_of_some attached, emit_of_first empty ended first]
  rfl

/-- Later requests that reach the end only find it. -/
theorem perform_of_forwarded (attached : s.output = some output) (ended : s.queue.IsEnded)
    (empty : s.queue.frames = []) (forwarded : s.endForwarded = true) :
    s.perform .request
      = ({ s with queue := { s.queue with stage := .closed } },
         { reply := .done (.error .endOfStream) }) := by
  show done s.request = _
  rw [request_of_some attached, emit_of_forwarded empty ended forwarded]
  rfl

end Source

namespace Transition

variable {s s' : Source} {op : Op} {moves : List Move}

/-- A change announces the end if a request reaches it for the first time, and in no other case. -/
theorem announced_cases (h : Transition s op moves s') :
    (moves.filterMap Move.announced? = [] ∧ s'.endForwarded = s.endForwarded)
      ∨ (s.reachesEnd op = true ∧ s.endForwarded = false ∧ s'.IsOver
        ∧ ∃ sink, moves = [.ended sink]) := by
  cases h with
  | announced attached empty ended first =>
    refine .inr ⟨?_, first, ⟨rfl, by simp [FrameQueue.IsEnded], empty⟩, _, rfl⟩
    exact Source.reachesEnd_iff.mpr ⟨rfl, by simp [attached], ended, empty⟩
  | _ => exact .inl ⟨rfl, rfl⟩

/-- Nothing moves in a source that is over. -/
theorem of_isOver (h : Transition s op moves s') (spent : s.IsOver) : moves = [] ∧ s'.IsOver := by
  obtain ⟨forwarded, ended, empty⟩ := spent
  have still : s'.queue.IsEnded := (h.of_isEnded ended).1
  cases h with
  | queued _ admitted | relayed _ admitted _ _ =>
    exact absurd ended (Source.not_isEnded_of_admitted admitted)
  | taken oldest | delivered _ oldest => cases oldest.symm.trans empty
  | announced _ _ _ first => cases first.symm.trans forwarded
  | finished _ _ => exact ⟨rfl, forwarded, still, (FrameQueue.frames_finish _).trans empty⟩
  | _ => exact ⟨rfl, forwarded, still, empty⟩

/-- A source that has announced its end is over. -/
theorem isOver_of_forwarded (h : Transition s op moves s')
    (before : s.endForwarded = true → s.IsOver) (forwarded : s'.endForwarded = true) :
    s'.IsOver := by
  rcases h.announced_cases with ⟨_, same⟩ | ⟨_, _, spent, _⟩
  · exact (h.of_isOver (before (same.symm.trans forwarded))).2
  · exact spent

end Transition

namespace Source

variable {s : Source} {op : Op} {output : Output}

/-- The end counts as announced from the first request that reaches it, and from nothing else. -/
theorem endForwarded_perform (s : Source) (op : Op) :
    (s.perform op).1.endForwarded = (s.endForwarded || s.reachesEnd op) := by
  cases reached : s.reachesEnd op with
  | true =>
    obtain ⟨rfl, hasSink, ended, empty⟩ := reachesEnd_iff.mp reached
    obtain ⟨output, attached⟩ := Option.isSome_iff_exists.mp hasSink
    cases forwarded : s.endForwarded with
    | true =>
      rw [perform_of_forwarded attached ended empty forwarded]
      exact forwarded
    | false => rw [perform_of_first attached ended empty forwarded, Bool.or_true]
  | false =>
    rw [Bool.or_false]
    rcases (s.perform_transition op).announced_cases with ⟨_, same⟩ | ⟨reached', _⟩
    · exact same
    · cases reached.symm.trans reached'

/-- An operation announces the end exactly if it is the first request to reach it. -/
theorem announced_iff (s : Source) (op : Op) :
    announced [(s.perform op).2] ≠ [] ↔ s.reachesEnd op = true ∧ s.endForwarded = false := by
  constructor
  · intro told
    rcases (s.perform_transition op).announced_cases with ⟨silent, _⟩ | ⟨reached, first, _⟩
    · exact absurd (by simpa [announced] using silent) told
    · exact ⟨reached, first⟩
  · rintro ⟨reached, first⟩
    obtain ⟨rfl, hasSink, ended, empty⟩ := reachesEnd_iff.mp reached
    obtain ⟨output, attached⟩ := Option.isSome_iff_exists.mp hasSink
    rw [perform_of_first attached ended empty first]
    exact List.cons_ne_nil _ _

/-- Whatever reaches the end, the source is over then. -/
theorem isOver_of_reachesEnd (reached : s.reachesEnd op = true) : (s.perform op).1.IsOver := by
  have forwarded : (s.perform op).1.endForwarded = true := by
    rw [endForwarded_perform, reached, Bool.or_true]
  obtain ⟨_, _, ended, empty⟩ := reachesEnd_iff.mp reached
  have change := s.perform_transition op
  have balanced := change.conserves
  obtain ⟨still, _, unentered⟩ := change.of_isEnded ended
  rw [empty, unentered, List.nil_append] at balanced
  exact ⟨forwarded, still, (List.append_eq_nil_iff.mp balanced.symm).2⟩

/-! ## Whole runs -/

/-- Nothing moves any more in a source that is over, whatever is done to it. -/
theorem movesOf_run_of_isOver (spent : s.IsOver) (ops : List Op) :
    movesOf (s.run ops).2 = [] := by
  have kept := run_keeps (s := s) (I := fun past s' => past = [] ∧ s'.IsOver) ⟨rfl, spent⟩ ops ?_
  · exact kept.1
  · intro op _ past s₁ moves s₂ ⟨before, spent₁⟩ change
    obtain ⟨now, spent₂⟩ := change.of_isOver spent₁
    exact ⟨by rw [before, now, List.append_nil], spent₂⟩

/-- A new source has announced its end as often as it is marked, which is once at most. -/
theorem announced_run (name : String) (media : Media) (ops : List Op) :
    let s := ((fresh name media).run ops).1
    (announced ((fresh name media).run ops).2).length = s.endForwarded.toNat
      ∧ (s.endForwarded = true → s.IsOver) := by
  refine run_keeps (s := fresh name media) (I := fun past s =>
    (past.filterMap Move.announced?).length = s.endForwarded.toNat
      ∧ (s.endForwarded = true → s.IsOver)) ⟨rfl, fun forwarded => by cases forwarded⟩ ops ?_
  intro op _ past s₁ moves s₂ ⟨counted, spent⟩ change
  refine ⟨?_, change.isOver_of_forwarded spent⟩
  rw [List.filterMap_append, List.length_append, counted]
  rcases change.announced_cases with ⟨silent, same⟩ | ⟨_, first, spent₂, sink, told⟩
  · rw [silent, same]
    rfl
  · rw [told, first, spent₂.forwarded]
    rfl

/-- **One announcement, at the true end.** Over any run of a new source, and over all sinks that
were ever attached, the end is announced at most once: by the first request that reaches it, and by
no other operation. Such a request finds that every frame that entered has left, and nothing moves
after it. The one that announces the end tells the attached sink, and answers with the failure of
that sink or else that the stream is over; a later request for a sink answers that the stream is
over, without a call to the sink. -/
theorem end_announced_once (name : String) (media : Media) (ops : List Op) :
    let s := ((fresh name media).run ops).1
    let events := ((fresh name media).run ops).2
    let reached := (fresh name media).tally reachesEnd ops
    (announced events).length = min reached 1
      ∧ (∀ op,
        (announced [(s.perform op).2] ≠ [] ↔ s.reachesEnd op = true ∧ reached = 0)
        ∧ (s.reachesEnd op = true ↔ op = .request ∧ s.output.isSome = true ∧ s.queue.IsEnded
          ∧ entered events = left events)
        ∧ (s.reachesEnd op = true → ∀ ops', movesOf ((s.perform op).1.run ops').2 = [])
        ∧ (op.offered?.isSome = true → announced [(s.perform op).2] = []))
      ∧ ∀ output, s.output = some output →
        (s.reachesEnd .request = true → reached = 0 →
          (s.perform .request).2
            = { reply := .done (.error output.endError), moves := [.ended output.sink.name] })
        ∧ (0 < reached → (s.perform .request).2 = { reply := .done (.error .endOfStream) }) := by
  intro s events reached
  obtain ⟨counted, spent⟩ := announced_run name media ops
  have flag : s.endForwarded = decide (0 < reached) :=
    flag_run endForwarded_perform (fresh name media) ops
  have marked : s.endForwarded = true ↔ 0 < reached := by rw [flag, decide_eq_true_iff]
  have unmarked : s.endForwarded = false ↔ reached = 0 := by
    rw [flag, decide_eq_false_iff_not, Nat.not_lt, Nat.le_zero]
  have drained : s.queue.frames = [] ↔ entered events = left events := by
    have balanced : entered events = left events ++ s.queue.frames :=
      run_conserves (fresh name media) ops
    rw [balanced, List.append_right_eq_self]
  refine ⟨?_, fun op => ⟨?_, ?_, ?_, ?_⟩, fun output attached => ⟨?_, ?_⟩⟩
  · rw [counted]
    cases forwarded : s.endForwarded with
    | true =>
      have reachedOnce := marked.mp forwarded
      show 1 = min reached 1
      omega
    | false =>
      rw [unmarked.mp forwarded]
      rfl
  · rw [announced_iff, unmarked]
  · rw [reachesEnd_iff, drained]
  · exact fun reaches ops' => movesOf_run_of_isOver (isOver_of_reachesEnd reaches) ops'
  · intro brings
    refine Decidable.by_contra fun told => ?_
    obtain ⟨rfl, _⟩ := reachesEnd_iff.mp ((announced_iff s op).mp told).1
    cases brings
  · intro reaches first
    obtain ⟨_, _, ended, empty⟩ := reachesEnd_iff.mp reaches
    rw [perform_of_first attached ended empty (unmarked.mpr first)]
  · intro later
    obtain ⟨forwarded, ended, empty⟩ := spent (marked.mpr later)
    rw [perform_of_forwarded attached ended empty forwarded]

/-- A sink that takes every frame and fails at the end. -/
def strictSink : Sink :=
  { name := "disk", accept := fun _ _ => .ok (),
    finish := fun _ => .error (.invalidArgument (.other "disk full")) }

/-- The rest of the short stream is popped, its end included, before a sink is attached. -/
def lateSink : List Op := shortStream ++ [.pop, .pushEnd, .pop, .connect strictSink]

/-- The late sink is told of the end all the same, and fails; another one is not told. -/
theorem lateSink_announced :
    (((fresh "cam" .video).run lateSink).1.reachesEnd .request = true
        ∧ (fresh "cam" .video).tally reachesEnd lateSink = 0
        ∧ (((fresh "cam" .video).run lateSink).1.perform .request).2
          = { reply := .done (.error (.invalidArgument (.other "disk full"))),
              moves := [.ended "disk"] })
      ∧ 0 < (fresh "cam" .video).tally reachesEnd (lateSink ++ [.request, .connect strictSink])
      ∧ (((fresh "cam" .video).run (lateSink ++ [.request, .connect strictSink])).1.perform
          .request).2 = { reply := .done (.error .endOfStream) } := by
  have reaches : ((fresh "cam" .video).run lateSink).1.reachesEnd .request = true := by decide
  have first : (fresh "cam" .video).tally reachesEnd lateSink = 0 := by decide
  have later : 0 < (fresh "cam" .video).tally reachesEnd
      (lateSink ++ [.request, .connect strictSink]) := by
    decide
  have told := (end_announced_once "cam" .video lateSink).2.2 { sink := strictSink } rfl
  have quiet := (end_announced_once "cam" .video
    (lateSink ++ [.request, .connect strictSink])).2.2 { sink := strictSink } rfl
  exact ⟨⟨reaches, first, told.1 reaches first⟩, later, quiet.2 later⟩

end Source

end FrameIngest
