/-
FrameIngest.Proofs.Feed.Transition — all that one operation can do to a source.

`Transition s op moves s'` lists the changes that an operation can make, each
with the conditions under which it is made, and `perform_transition` says that
every operation makes one of them. A property of runs is therefore proved by
one case for each change: `run_keeps` carries an invariant that ties the state
to the moves made so far through any list of operations.

* `Op.offered?`, `Op.asked?`, `Op.EndsStream`, `Op.Takes` — what an operation brings or asks;
* `Transition`, `perform_transition` — the changes;
* `Source.fresh`, `movesOf`, `run_keeps` — whole runs.
-/
import FrameIngest.Feed.Run
import FrameIngest.Proofs.Feed.Delivery

namespace FrameIngest

/-! ## What an operation brings or asks -/

namespace Op

/-- The frame that the operation brings, with its flags. -/
def offered? : Op → Option (Frame × PushFlags)
  | .push f flags | .write f flags | .add (some f) flags => some (f, flags)
  | _ => none

/-- The parameters with which the operation sets up a source of a given kind. -/
def asked? (media : Media) : Op → Option Params
  | .configure p => some p
  | .configureText args => (Params.parse media args).toOption
  | _ => none

/-- The operation pushes the end of the stream. -/
def EndsStream : Op → Prop
  | .pushEnd | .add none _ => True
  | _ => False

/-- The operation takes a frame from the queue of `s`: a request does so for the attached sink. -/
def Takes (s : Source) : Op → Prop
  | .pop => True
  | .request => s.output.isSome
  | _ => False

end Op

/-! ## The changes -/

/-- One operation on `s` can make these moves and leave this state behind. -/
inductive Transition (s : Source) : Op → List Move → Source → Prop where
  /-- Nothing changes: the operation only looks, or it is refused. -/
  | idle {op : Op} : Transition s op [] s
  /-- The source gets its descriptor. -/
  | described {op : Op} {p : Params} {d : Descriptor}
      (asked : op.asked? s.media = some p) (kind : p.media = s.media)
      (blank : s.descriptor = none) (checked : p.check = .ok d) :
      Transition s op [] { s with descriptor := some d }
  /-- A frame that is let in is queued. -/
  | queued {op : Op} {f : Frame} {flags : PushFlags}
      (offered : op.offered? = some (f, flags)) (admitted : (s.admission f flags).result = .ok ()) :
      Transition s op [.queued f] { s with queue := s.queue.append f }
  /-- A frame that is let in is queued, and the oldest frame goes to the sink. -/
  | relayed {op : Op} {f g : Frame} {flags : PushFlags} {rest : List Frame} {output : Output}
      (offered : op.offered? = some (f, flags)) (admitted : (s.admission f flags).result = .ok ())
      (attached : s.output = some output) (oldest : s.queue.frames ++ [f] = g :: rest) :
      Transition s op [.queued f, .delivered output.sink.name g]
        { s.emitted { s.queue.append f with frames := rest } with
          output := some (output.give g) }
  /-- The end of the stream is marked. -/
  | finished {op : Op} (ends : op.EndsStream) (configured : s.descriptor ≠ none) :
      Transition s op [] { s with queue := s.queue.finish }
  /-- The oldest frame goes to whoever asked. -/
  | taken {f : Frame} {rest : List Frame} (oldest : s.queue.frames = f :: rest) :
      Transition s .pop [.taken f] (s.emitted { s.queue with frames := rest })
  /-- The oldest frame goes to the sink. -/
  | delivered {f : Frame} {rest : List Frame} {output : Output}
      (attached : s.output = some output) (oldest : s.queue.frames = f :: rest) :
      Transition s .request [.delivered output.sink.name f]
        { s.emitted { s.queue with frames := rest } with output := some (output.give f) }
  /-- The queue is empty, which is counted. -/
  | missed {op : Op} (takes : op.Takes s) (empty : s.queue.frames = [])
      (ready : s.queue.stage = .ready) :
      Transition s op [] { s with queue := { s.queue with misses := s.queue.misses + 1 } }
  /-- The queue is empty for good. -/
  | closed {op : Op} (takes : op.Takes s) (empty : s.queue.frames = []) (ended : s.queue.IsEnded) :
      Transition s op [] { s with queue := { s.queue with stage := .closed } }
  /-- The queue is empty for good, which is announced to the sink. -/
  | announced {output : Output} (attached : s.output = some output)
      (empty : s.queue.frames = []) (ended : s.queue.IsEnded) (first : s.endForwarded = false) :
      Transition s .request [.ended output.sink.name]
        { s with queue := { s.queue with stage := .closed }, endForwarded := true }
  | limited {limit : UInt64} : Transition s (.setLimit limit) [] (s.withLimit limit)
  | connected {sink : Sink} : Transition s (.connect sink) [] (s.connect sink)
  | disconnected : Transition s .disconnect [] { s with output := none }
  /-- The stream and its link have come to terms. -/
  | settled {link link' : Link} {d d' : Descriptor} (early : s.framesEmitted = false)
      (described : s.descriptor = some d) (first : s.linkConfigured = false)
      (agreed : (d.settled link).result = .ok (d', link')) :
      Transition s (.configureLink link) []
        { s with descriptor := some d', linkConfigured := true }

namespace Source

/-! ## Operations that do the same -/

/-- All ways to bring a frame push it. -/
theorem perform_of_offered {s : Source} {op : Op} {f : Frame} {flags : PushFlags}
    (offered : op.offered? = some (f, flags)) : s.perform op = done (s.push f flags) := by
  cases op with
  | push _ _ | write _ _ =>
    cases offered
    rfl
  | add g _ =>
    cases g with
    | some _ =>
      cases offered
      rfl
    | none => cases offered
  | _ => cases offered

/-- Both ways to end the stream push its end. -/
theorem perform_of_endsStream {s : Source} {op : Op} (ends : op.EndsStream) :
    s.perform op = done s.pushEnd := by
  cases op with
  | pushEnd => rfl
  | add g _ =>
    cases g with
    | some _ => exact ends.elim
    | none => rfl
  | _ => exact ends.elim

/-! ## Every operation makes one of the changes -/

variable (s : Source)

theorem configure_transition {op : Op} {p : Params} (asked : op.asked? s.media = some p) :
    Transition s op (s.configure p).moves (s.configure p).state := by
  unfold configure
  split
  · exact .idle
  · rename_i kind
    split
    · exact .idle
    · rename_i blank
      cases checked : p.check with
      | error e => exact .idle
      | ok d =>
        exact .described asked (Decidable.not_not.mp kind).symm (by simpa using blank) checked

theorem configureText_transition (args : String) :
    Transition s (.configureText args) (s.configureText args).moves
      (s.configureText args).state := by
  unfold configureText
  cases parsed : Params.parse s.media args with
  | error e => exact .idle
  | ok p => exact s.configure_transition (by simp [Op.asked?, parsed, Except.toOption])

theorem push_transition {op : Op} {f : Frame} {flags : PushFlags}
    (offered : op.offered? = some (f, flags)) :
    Transition s op (s.push f flags).moves (s.push f flags).state := by
  cases admitted : (s.admission f flags).result with
  | error e =>
    rw [push_of_error admitted]
    exact .idle
  | ok _ =>
    by_cases handed : flags.Has .immediate
    · obtain ⟨output, attached, pushed⟩ := push_of_immediate admitted handed
      rw [pushed]
      cases oldest : s.queue.frames ++ [f] with
      | nil => simp at oldest
      | cons g rest =>
        rw [emit_of_cons (s := { s with queue := s.queue.append f }) oldest]
        exact .relayed offered admitted attached oldest
    · rw [push_of_ok admitted handed]
      exact .queued offered admitted

theorem pushEnd_transition {op : Op} (ends : op.EndsStream) :
    Transition s op s.pushEnd.moves s.pushEnd.state := by
  unfold pushEnd
  split
  · exact .idle
  · rename_i configured
    exact .finished ends (by simpa using configured)

theorem pop_transition : Transition s .pop s.pop.moves s.pop.state := by
  cases frames : s.queue.frames with
  | cons f rest =>
    rw [pop_of_cons frames]
    exact .taken frames
  | nil =>
    by_cases ended : s.queue.IsEnded
    · rw [pop_of_ended frames ended]
      exact .closed trivial frames ended
    · have ready := FrameQueue.stage_of_not_isEnded ended
      rw [pop_of_ready frames ready]
      exact .missed trivial frames ready

theorem request_transition : Transition s .request s.request.moves s.request.state := by
  cases attached : s.output with
  | none =>
    rw [request_of_none attached]
    exact .idle
  | some output =>
    have takes : Op.Takes s .request := by simp [Op.Takes, attached]
    rw [request_of_some attached]
    cases frames : s.queue.frames with
    | cons f rest =>
      rw [emit_of_cons frames]
      exact .delivered attached frames
    | nil =>
      by_cases ended : s.queue.IsEnded
      · by_cases forwarded : s.endForwarded = true
        · rw [emit_of_forwarded frames ended forwarded]
          exact .closed takes frames ended
        · have first : s.endForwarded = false := by simpa using forwarded
          rw [emit_of_first frames ended first]
          exact .announced attached frames ended first
      · have ready := FrameQueue.stage_of_not_isEnded ended
        rw [emit_of_ready frames ready]
        exact .missed takes frames ready

theorem configureLink_transition (link : Link) :
    Transition s (.configureLink link) (s.configureLink link).moves
      (s.configureLink link).state.1 := by
  unfold configureLink
  split
  · exact .idle
  · rename_i early
    split
    · exact .idle
    · rename_i d described
      split
      · exact .idle
      · rename_i first
        cases agreed : (d.settled link).result with
        | error e =>
          simp only [Descriptor.settle, agreed]
          exact .idle
        | ok terms =>
          simp only [Descriptor.settle, agreed]
          exact .settled (by simpa using early) described (by simpa using first) agreed

theorem moves_negotiate (link : Link) : (s.negotiate link).moves = [] := by
  unfold negotiate
  split
  · rfl
  · unfold Link.negotiate
    dsimp only
    split <;> rfl

/-- Every operation makes one of the changes. -/
theorem perform_transition (op : Op) :
    Transition s op (s.perform op).2.moves (s.perform op).1 := by
  cases op with
  | configure p => exact s.configure_transition rfl
  | configureText args => exact s.configureText_transition args
  | push f flags => exact s.push_transition rfl
  | write f flags => exact s.push_transition rfl
  | add f flags =>
    cases f with
    | some f => exact s.push_transition rfl
    | none => exact s.pushEnd_transition trivial
  | pushEnd => exact s.pushEnd_transition trivial
  | pop => exact s.pop_transition
  | request => exact s.request_transition
  | poll => exact .idle
  | setLimit limit => exact .limited
  | connect sink => exact .connected
  | disconnect => exact .disconnected
  | negotiate link =>
    show Transition s (.negotiate link) (s.negotiate link).moves s
    rw [moves_negotiate]
    exact .idle
  | configureLink link => exact s.configureLink_transition link

end Source

/-- No operation renames a source or turns it into one of the other kind. -/
theorem Transition.identity {s s' : Source} {op : Op} {moves : List Move}
    (h : Transition s op moves s') : s'.name = s.name ∧ s'.media = s.media := by
  cases h <;> exact ⟨rfl, rfl⟩

/-! ## Whole runs -/

/-- A source to which nothing has been done yet. -/
def Source.fresh (name : String) (media : Media) : Source := { name, media }

/-- The moves of a run, in order. -/
def movesOf (events : List Event) : List Move := events.flatMap (·.moves)

@[simp] theorem movesOf_nil : movesOf [] = [] := rfl

@[simp] theorem movesOf_cons (event : Event) (events : List Event) :
    movesOf (event :: events) = event.moves ++ movesOf events := rfl

theorem entered_eq (events : List Event) :
    entered events = (movesOf events).filterMap Move.entering? :=
  (List.filterMap_flatMap ..).symm

theorem left_eq (events : List Event) :
    left events = (movesOf events).filterMap Move.leaving? :=
  (List.filterMap_flatMap ..).symm

/-- What ties a state to the moves made so far holds after a run if it holds at the start and
every change keeps it. -/
theorem Source.run_keeps {I : List Move → Source → Prop} {s : Source} (start : I [] s)
    (ops : List Op)
    (keeps : ∀ op ∈ ops, ∀ past s moves s', I past s → Transition s op moves s' →
      I (past ++ moves) s') :
    I (movesOf (s.run ops).2) (s.run ops).1 := by
  have onward : ∀ ops' : List Op, ops' ⊆ ops → ∀ past s, I past s →
      I (past ++ movesOf (s.run ops').2) (s.run ops').1 := by
    intro ops' among
    induction ops' with
    | nil =>
      intro past s ties
      simpa using ties
    | cons op rest ih =>
      intro past s ties
      have stepped := keeps op (among List.mem_cons_self) past s _ _ ties (s.perform_transition op)
      have rested := ih (fun _ mem => among (List.mem_cons_of_mem _ mem)) _ _ stepped
      simpa [List.append_assoc] using rested
  simpa using onward ops (List.Subset.refl _) [] s start

theorem Source.identity_run (s : Source) (ops : List Op) :
    (s.run ops).1.name = s.name ∧ (s.run ops).1.media = s.media := by
  refine run_keeps (I := fun _ s' => s'.name = s.name ∧ s'.media = s.media) ⟨rfl, rfl⟩ ops ?_
  intro op _ past s₁ moves s₂ same change
  obtain ⟨name, media⟩ := change.identity
  exact ⟨name.trans same.1, media.trans same.2⟩

end FrameIngest
