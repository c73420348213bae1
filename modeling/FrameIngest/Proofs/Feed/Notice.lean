/-
FrameIngest.Proofs.Feed.Notice — what an operation logs.

A frame that is offered is remarked on for its format only, and then perhaps
for the length of the queue; taking frames logs nothing. So the end of a
stream is recorded by the operation that pushes it and by no other
(`ended_mem_notices_iff`).
-/
import FrameIngest.Proofs.Feed.Transition

namespace FrameIngest

/-- The notice remarks on the format of a frame. -/
def Notice.IsRemark : Notice → Prop
  | .layoutConflict .. | .videoDrift .. | .audioDrift .. => True
  | _ => False

namespace Admission

theorem isRemark_of_checkChannels {f : Frame} {n : Notice}
    (h : n ∈ (checkChannels f).notices) : n.IsRemark := by
  unfold checkChannels at h
  repeat' split at h
  all_goals simp [Logged.refuse] at h
  subst h
  trivial

theorem isRemark_of_checkFormat {source : String} {d : Descriptor} {f : Frame} {n : Notice}
    (h : n ∈ (checkFormat source d f).notices) : n.IsRemark := by
  unfold checkFormat at h
  split at h
  · unfold checkVideo at h
    split at h <;> simp at h
    subst h
    trivial
  · unfold checkAudio at h
    split at h <;> simp [Logged.refuse] at h
    subst h
    trivial
  all_goals simp [Logged.refuse] at h

end Admission

/-- Coming to terms with a link is remarked on only where a layout is adopted. -/
theorem Descriptor.exists_of_mem_notices_settled {d : Descriptor} {link : Link} {n : Notice}
    (h : n ∈ (d.settled link).notices) : ∃ l, n = .layoutAdopted l := by
  unfold settled at h
  rcases Logged.mem_notices_bind h with h | ⟨_, h⟩
  · unfold Link.checkMedia at h
    split at h <;> simp [Logged.refuse] at h
  split at h
  · simp at h
  · rcases Logged.mem_notices_bind h with h | ⟨_, h⟩
    · unfold AudioDescriptor.adopt at h
      split at h
      · split at h <;> simp [Logged.refuse] at h
        exact ⟨_, h⟩
      · simp at h
    · simp at h

namespace Source

variable {s : Source} {f : Frame} {flags : PushFlags} {n : Notice}

/-- Looking at a frame is remarked on for its format only. -/
theorem isRemark_of_admission (h : n ∈ (s.admission f flags).notices) : n.IsRemark := by
  unfold admission at h
  rcases Logged.mem_notices_bind h with h | ⟨_, h⟩
  · exact Admission.isRemark_of_checkChannels h
  split at h
  · simp at h
  split at h
  · simp [Logged.refuse] at h
  rcases Logged.mem_notices_bind h with h | ⟨_, h⟩
  · unfold Admission.checkMedia at h
    split at h <;> simp [Logged.refuse] at h
  have sinkless : n ∉ (if flags.Has .immediate ∧ s.output.isNone = true then
      Logged.refuse (.noOutput s.name) else (pure () : Logged Unit)).notices := by
    split <;> simp [Logged.refuse]
  dsimp only at h
  split at h
  · rcases Logged.mem_notices_bind h with h | ⟨_, h⟩
    · exact Admission.isRemark_of_checkFormat h
    · exact absurd h sinkless
  · exact absurd h sinkless

theorem notices_emit (output : Output) : (s.emit output).notices = [] := by
  cases frames : s.queue.frames with
  | cons g rest => rw [emit_of_cons frames]
  | nil =>
    by_cases ended : s.queue.IsEnded
    · by_cases forwarded : s.endForwarded = true
      · rw [emit_of_forwarded frames ended forwarded]
        rfl
      · rw [emit_of_first frames ended (by simpa using forwarded)]
    · rw [emit_of_ready frames (FrameQueue.stage_of_not_isEnded ended)]
      rfl

theorem notices_request : s.request.notices = [] := by
  cases attached : s.output with
  | none =>
    rw [request_of_none attached]
    rfl
  | some output =>
    rw [request_of_some attached]
    exact notices_emit output

theorem notices_pop : s.pop.notices = [] := by
  cases frames : s.queue.frames with
  | cons g rest => rw [pop_of_cons frames]
  | nil =>
    by_cases ended : s.queue.IsEnded
    · rw [pop_of_ended frames ended]
      rfl
    · rw [pop_of_ready frames (FrameQueue.stage_of_not_isEnded ended)]
      rfl

/-- A frame that is let in is followed in the log by the length of the queue, if that is too
great; what is handed on at once adds nothing. -/
theorem notices_push_of_ok (admitted : (s.admission f flags).result = .ok ()) :
    (s.push f flags).notices = (s.admission f flags).notices ++ s.queue.warning := by
  by_cases handed : flags.Has .immediate
  · obtain ⟨output, _, pushed⟩ := push_of_immediate admitted handed
    simp [pushed, Outcome.after, notices_emit]
  · simp [push_of_ok admitted handed, Outcome.after, enqueue]

/-- A push logs what looking at the frame logs, and then perhaps the length of the queue. -/
theorem mem_notices_push (h : n ∈ (s.push f flags).notices) :
    n.IsRemark ∨ n ∈ s.queue.warning := by
  cases admitted : (s.admission f flags).result with
  | error e =>
    rw [push_of_error admitted] at h
    exact .inl (isRemark_of_admission h)
  | ok _ =>
    rw [notices_push_of_ok admitted] at h
    rcases List.mem_append.mp h with h | h
    · exact .inl (isRemark_of_admission h)
    · exact .inr h

/-- A push never records the end of a stream. -/
theorem ended_not_mem_notices_push (source : String) (left : Nat) :
    .ended source left ∉ (s.push f flags).notices := by
  intro h
  rcases mem_notices_push h with remark | warning
  · exact remark
  · unfold FrameQueue.warning at warning
    split at warning <;> simp at warning

/-- The end of the stream is recorded with the length of the queue. -/
theorem ended_mem_notices_pushEnd (source : String) (left : Nat) :
    .ended source left ∈ s.pushEnd.notices
      ↔ s.descriptor ≠ none ∧ source = s.name ∧ left = s.queue.length := by
  unfold pushEnd
  cases s.descriptor <;> simp [Outcome.refuse, Outcome.fail]

theorem ended_not_mem_notices_configure (p : Params) (source : String) (left : Nat) :
    .ended source left ∉ (s.configure p).notices := by
  unfold configure
  repeat' split
  all_goals simp [Outcome.fail]

theorem notices_negotiate (link : Link) : (s.negotiate link).notices = [] := by
  unfold negotiate
  split
  · rfl
  · unfold Link.negotiate Link.checkMedia
    dsimp only
    split <;> split <;> rfl

theorem ended_not_mem_notices_configureLink (link : Link) (source : String) (left : Nat) :
    .ended source left ∉ (s.configureLink link).notices := by
  unfold configureLink
  split
  · simp [Outcome.refuse, Outcome.fail]
  split
  · simp [Outcome.refuse, Outcome.fail]
  rename_i d _
  split
  · simp [Outcome.refuse, Outcome.fail]
  intro h
  have settled : .ended source left ∈ (d.settled link).notices := by
    cases agreed : (d.settled link).result <;> simpa [Descriptor.settle, agreed] using h
  obtain ⟨l, adopted⟩ := Descriptor.exists_of_mem_notices_settled settled
  cases adopted

/-- The end of a stream is recorded exactly by an operation that pushes it into a source with a
descriptor, and with the length of the queue. -/
theorem ended_mem_notices_iff (s : Source) (op : Op) (source : String) (left : Nat) :
    .ended source left ∈ (s.perform op).2.notices
      ↔ op.EndsStream ∧ s.descriptor ≠ none ∧ source = s.name ∧ left = s.queue.length := by
  have others (silent : .ended source left ∉ (s.perform op).2.notices) (other : ¬ op.EndsStream) :
      .ended source left ∈ (s.perform op).2.notices
        ↔ op.EndsStream ∧ s.descriptor ≠ none ∧ source = s.name ∧ left = s.queue.length :=
    ⟨fun h => absurd h silent, fun h => absurd h.1 other⟩
  have silent {notices : List Notice} (empty : notices = []) : .ended source left ∉ notices := by
    simp [empty]
  cases op with
  | configure p => exact others (ended_not_mem_notices_configure p source left) id
  | configureText args =>
    refine others ?_ id
    show .ended source left ∉ (s.configureText args).notices
    unfold configureText
    split
    · simp [Outcome.fail]
    · exact ended_not_mem_notices_configure _ source left
  | push f flags => exact others (ended_not_mem_notices_push source left) id
  | write f flags => exact others (ended_not_mem_notices_push source left) id
  | add f flags =>
    cases f with
    | some f => exact others (ended_not_mem_notices_push source left) id
    | none => exact (ended_mem_notices_pushEnd source left).trans (by simp [Op.EndsStream])
  | pushEnd => exact (ended_mem_notices_pushEnd source left).trans (by simp [Op.EndsStream])
  | pop => exact others (silent notices_pop) id
  | request => exact others (silent notices_request) id
  | poll | setLimit _ | connect _ | disconnect => exact others (silent rfl) id
  | negotiate link => exact others (silent (notices_negotiate link)) id
  | configureLink link => exact others (ended_not_mem_notices_configureLink link source left) id

end Source

end FrameIngest
