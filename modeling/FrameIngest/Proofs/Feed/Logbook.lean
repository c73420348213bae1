/-
FrameIngest.Proofs.Feed.Logbook — what each operation logs, in full.

A push has four things to log about its frame (`Logs`): that it disagrees with
its own layout, that it is a block of samples or a picture of another format
than the stream, and that too many frames wait. It logs each of them once if it
is so, and nothing else (`mem_notices_push_iff`, `severities_push_sublist`).
The first two are errors and come with a refusal, but most refusals are not
logged, and neither is the failure of a sink. A picture of another format is
remarked on also where a missing sink then stands against it.

A setup, the end of the stream and a layout that is taken from a link are each
recorded once, if they succeed, and a source that goes away records that frames
still wait. The operations of the consumer are silent (`operations_accounted`).

* `Logs` — what there is to log of a frame;
* `admission_cases` — what is logged on looking at it;
* `IsAccounted` — what a push logs, by severity;
* `configureLink_logged` — what is logged of a link.
-/
import FrameIngest.Proofs.Feed.Refusal
import FrameIngest.Proofs.Feed.Separation

namespace FrameIngest

/-! ## What there is to log of a frame -/

/-- The picture differs from the stream in width, in height or in pixel format. -/
def VideoDescriptor.Differs (d : VideoDescriptor) (f : VideoFrame) : Prop :=
  d.width ≠ f.width ∨ d.height ≠ f.height ∨ d.pixelFormat ≠ f.format

theorem VideoDescriptor.differs_iff_not_admits (d : VideoDescriptor) (f : VideoFrame) :
    d.Differs f ↔ ¬ d.Admits f := by
  simp only [Differs, Admits, Decidable.not_and_iff_not_or_not, ne_eq]

namespace Objection

/-- The objection is logged, and not only answered. -/
def IsReported : Objection → Prop
  | layoutConflict | otherFormat => True
  | streamOver | notConfigured | otherMedia | noSink => False

variable {s : Source} {f : Frame} {flags : PushFlags} {n : Nat}

/-- Where something stands before a place, the first objection is before that place. -/
theorem exists_isFirst_of_not_noneBefore (h : ¬ NoneBefore s f flags n) :
    ∃ o e, IsFirst s f flags o e ∧ o.rank < n := by
  simp only [NoneBefore, Classical.not_forall, Nat.not_le] at h
  obtain ⟨o, e, stands, before⟩ := h
  obtain ⟨o', e', first⟩ := stands.exists_isFirst
  exact ⟨o', e', first, Nat.lt_of_le_of_lt (first.2 o e stands) before⟩

end Objection

namespace Source

open Objection

/-- A push of `f` has this to log. The two comparisons with the stream are made where nothing that
is looked for earlier stands against the frame, and the queue is measured once it has the frame. -/
inductive Logs (s : Source) (f : Frame) (flags : PushFlags) : Notice → Prop where
  | layoutConflict {a : AudioFrame} {l : Layout} (audio : f = .audio a) (own : a.layout = some l)
      (differ : l.channels ≠ a.channels) : Logs s f flags (.layoutConflict l a.channels)
  | audioDrift {d : AudioDescriptor} {a : AudioFrame}
      (clear : NoneBefore s f flags otherFormat.rank) (compared : ¬ flags.Has .noFormatCheck)
      (described : s.descriptor = some (.audio d)) (audio : f = .audio a) (differ : d.Differs a) :
      Logs s f flags (.audioDrift s.name d a)
  | videoDrift {d : VideoDescriptor} {v : VideoFrame}
      (clear : NoneBefore s f flags otherFormat.rank) (compared : ¬ flags.Has .noFormatCheck)
      (described : s.descriptor = some (.video d)) (video : f = .video v) (differ : d.Differs v) :
      Logs s f flags (.videoDrift s.name d v)
  | backlog (clear : ∀ o e, ¬ Stands s f flags o e)
      (long : s.queue.limit.toNat < s.queue.length + 1) :
      Logs s f flags (.backlog (s.queue.length + 1))

end Source

/-! ## The single checks -/

namespace Admission

variable {f : Frame} {n : Notice}

theorem notices_checkChannels_of_isConsistent (h : f.IsConsistent) :
    (checkChannels f).notices = [] := by
  cases f with
  | video _ => rfl
  | audio a =>
    cases own : a.layout with
    | none => simp [checkChannels, own]
    | some l =>
      have same : l.channels = a.channels := h l own
      simp [checkChannels, own, same]

theorem notices_checkChannels_of_conflict {a : AudioFrame} {l : Layout} (own : a.layout = some l)
    (differ : l.channels ≠ a.channels) :
    (checkChannels (.audio a)).notices = [.layoutConflict l a.channels] := by
  simp [checkChannels, own, differ, Logged.refuse]

theorem notices_checkMedia (d : Descriptor) (f : Frame) : (checkMedia d f).notices = [] := by
  unfold checkMedia
  split <;> rfl

theorem mem_notices_checkFormat_iff {source : String} {d : Descriptor} :
    n ∈ (checkFormat source d f).notices
      ↔ (∃ d' a, d = .audio d' ∧ f = .audio a ∧ d'.Differs a ∧ n = .audioDrift source d' a)
        ∨ ∃ d' v, d = .video d' ∧ f = .video v ∧ d'.Differs v ∧ n = .videoDrift source d' v := by
  cases d with
  | video d =>
    cases f with
    | video v =>
      by_cases admitted : d.Admits v <;>
        simp [checkFormat, checkVideo, admitted, d.differs_iff_not_admits v]
    | audio a => simp [checkFormat, Logged.refuse]
  | audio d =>
    cases f with
    | video v => simp [checkFormat, Logged.refuse]
    | audio a =>
      by_cases admitted : d.Admits a <;>
        simp [checkFormat, checkAudio, admitted, d.differs_iff_not_admits a, Logged.refuse]

/-- The comparison has one thing to say at most. -/
theorem severities_checkFormat_sublist (source : String) (d : Descriptor) (f : Frame) :
    ((checkFormat source d f).notices.map Notice.severity).Sublist [.error, .info] := by
  unfold checkFormat
  split
  · unfold checkVideo
    split <;> simp [Notice.severity]
  · unfold checkAudio
    split <;> simp [Logged.refuse, Notice.severity]
  all_goals simp [Logged.refuse]

end Admission

namespace Source

open Objection

variable {s : Source} {f : Frame} {flags : PushFlags} {n : Notice}

/-! ## Looking at a frame -/

theorem notices_admission_of_conflict {a : AudioFrame} {l : Layout} (audio : f = .audio a)
    (own : a.layout = some l) (differ : l.channels ≠ a.channels) :
    (s.admission f flags).notices = [.layoutConflict l a.channels] := by
  subst audio
  rw [admission, Logged.bind_of_error (Admission.checkChannels_of_conflict own differ)]
  exact Admission.notices_checkChannels_of_conflict own differ

/-- What stands against a frame before its format, but for its own layout, is not logged. -/
theorem notices_admission_of_isFirst {o : Objection} {e : FeedError} (first : IsFirst s f flags o e)
    (late : layoutConflict.rank < o.rank) (early : o.rank < otherFormat.rank) :
    (s.admission f flags).notices = [] := by
  obtain ⟨stands, clear⟩ := first
  have consistent := clear.isConsistent late
  have channels := Admission.checkChannels_of_isConsistent consistent
  have silent := Admission.notices_checkChannels_of_isConsistent consistent
  rw [admission, Logged.bind_of_ok channels, silent, List.nil_append]
  cases stands with
  | layoutConflict _ _ _ => exact absurd late (Nat.lt_irrefl _)
  | streamOver ended => rw [if_pos ended]
  | notConfigured blank =>
    rw [if_neg (clear.not_isEnded (by decide)), blank]
    rfl
  | otherMedia described differ =>
    rw [if_neg (clear.not_isEnded (by decide)), described]
    simp only [Logged.bind_of_error (Admission.checkMedia_of_ne differ),
      Admission.notices_checkMedia]
  | otherFormat _ _ _ _ => exact absurd early (Nat.lt_irrefl _)
  | noSink _ _ => exact absurd early (by decide)

/-- Where nothing stands before the format, what is logged is what the comparison says. -/
theorem notices_admission_of_noneBefore (clear : NoneBefore s f flags otherFormat.rank)
    {d : Descriptor} (described : s.descriptor = some d) :
    (s.admission f flags).notices
      = if flags.Has .noFormatCheck then [] else (Admission.checkFormat s.name d f).notices := by
  have consistent := clear.isConsistent (by decide)
  have channels := Admission.checkChannels_of_isConsistent consistent
  have silent := Admission.notices_checkChannels_of_isConsistent consistent
  have media := checkMedia_of_noneBefore clear (by decide) described
  have sinkless : (if flags.Has .immediate ∧ s.output.isNone = true then
      Logged.refuse (.noOutput s.name) else (pure () : Logged Unit)).notices = [] := by
    split <;> rfl
  rw [admission, Logged.bind_of_ok channels, silent, if_neg (clear.not_isEnded (by decide)),
    described]
  simp only [Logged.bind_of_ok media, Admission.notices_checkMedia, List.nil_append]
  by_cases compared : flags.Has .noFormatCheck
  · simp only [compared, not_true, if_false, if_true]
    exact sinkless
  · simp only [compared, not_false_eq_true, if_true, if_false]
    cases format : (Admission.checkFormat s.name d f).result with
    | error e => rw [Logged.bind_of_error format]
    | ok fit => simp only [Logged.bind_of_ok format, sinkless, List.append_nil]

/-- What is logged on looking at a frame: that it disagrees with its own layout; or nothing, if
something else stands against it before its format; or what the comparison says. -/
theorem admission_cases (s : Source) (f : Frame) (flags : PushFlags) :
    (∃ a l, f = .audio a ∧ a.layout = some l ∧ l.channels ≠ a.channels
        ∧ (s.admission f flags).notices = [.layoutConflict l a.channels])
      ∨ (f.IsConsistent ∧ ¬ NoneBefore s f flags otherFormat.rank
        ∧ (s.admission f flags).notices = [])
      ∨ (f.IsConsistent ∧ NoneBefore s f flags otherFormat.rank ∧ ∃ d, s.descriptor = some d
        ∧ (s.admission f flags).notices
          = if flags.Has .noFormatCheck then []
            else (Admission.checkFormat s.name d f).notices) := by
  by_cases clear : NoneBefore s f flags otherFormat.rank
  · obtain ⟨d, described⟩ := clear.exists_descriptor (by decide)
    exact .inr (.inr ⟨clear.isConsistent (by decide), clear, d, described,
      notices_admission_of_noneBefore clear described⟩)
  · obtain ⟨o, e, first, early⟩ := exists_isFirst_of_not_noneBefore clear
    by_cases conflict : o = layoutConflict
    · subst conflict
      cases first.1 with
      | layoutConflict audio own differ =>
        exact .inl ⟨_, _, audio, own, differ, notices_admission_of_conflict audio own differ⟩
    · have late : layoutConflict.rank < o.rank :=
        Nat.pos_of_ne_zero fun first_rank => conflict (rank_injective first_rank)
      exact .inr (.inl ⟨first.2.isConsistent late, clear,
        notices_admission_of_isFirst first late early⟩)

/-- What is logged on looking at a frame is what there is to log of its format. -/
theorem mem_notices_admission_iff :
    n ∈ (s.admission f flags).notices ↔ n.IsRemark ∧ s.Logs f flags n := by
  rcases s.admission_cases f flags with ⟨a, l, rfl, own, differ, logged⟩
    | ⟨consistent, blocked, logged⟩ | ⟨consistent, clear, d, described, logged⟩
  all_goals rw [logged]
  · rw [List.mem_singleton]
    constructor
    · rintro rfl
      exact ⟨trivial, .layoutConflict rfl own differ⟩
    · rintro ⟨remark, logs⟩
      cases logs with
      | layoutConflict audio own' _ =>
        cases audio
        cases own.symm.trans own'
        rfl
      | audioDrift clear _ _ _ _ | videoDrift clear _ _ _ _ =>
        exact absurd (clear.isConsistent (by decide) l own) differ
      | backlog _ _ => exact remark.elim
  · constructor
    · intro among
      cases among
    · rintro ⟨remark, logs⟩
      cases logs with
      | layoutConflict audio own differ =>
        subst audio
        exact absurd (consistent _ own) differ
      | audioDrift clear _ _ _ _ | videoDrift clear _ _ _ _ => exact absurd clear blocked
      | backlog _ _ => exact remark.elim
  · constructor
    · intro among
      split at among
      · cases among
      · rename_i compared
        rcases Admission.mem_notices_checkFormat_iff.mp among with
          ⟨d', a, rfl, rfl, differ, rfl⟩ | ⟨d', v, rfl, rfl, differ, rfl⟩
        · exact ⟨trivial, .audioDrift clear compared described rfl differ⟩
        · exact ⟨trivial, .videoDrift clear compared described rfl differ⟩
    · rintro ⟨remark, logs⟩
      cases logs with
      | layoutConflict audio own differ =>
        subst audio
        exact absurd (consistent _ own) differ
      | audioDrift _ compared described' audio differ =>
        cases described.symm.trans described'
        rw [if_neg compared, Admission.mem_notices_checkFormat_iff]
        exact .inl ⟨_, _, rfl, audio, differ, rfl⟩
      | videoDrift _ compared described' video differ =>
        cases described.symm.trans described'
        rw [if_neg compared, Admission.mem_notices_checkFormat_iff]
        exact .inr ⟨_, _, rfl, video, differ, rfl⟩
      | backlog _ _ => exact remark.elim

/-- Looking at a frame is logged once at most. -/
theorem severities_admission_sublist :
    ((s.admission f flags).notices.map Notice.severity).Sublist [.error, .info] := by
  rcases s.admission_cases f flags with ⟨a, l, _, _, _, logged⟩ | ⟨_, _, logged⟩
    | ⟨_, _, d, _, logged⟩
  all_goals rw [logged]
  · exact .cons_cons _ (List.nil_sublist _)
  · exact List.nil_sublist _
  · split
    · exact List.nil_sublist _
    · exact Admission.severities_checkFormat_sublist s.name d f

/-! ## Pushing a frame -/

/-- A push logs what there is to log of its frame. -/
theorem mem_notices_push_iff : n ∈ (s.push f flags).notices ↔ s.Logs f flags n := by
  cases admitted : (s.admission f flags).result with
  | error e =>
    rw [push_of_error admitted, mem_notices_admission_iff]
    refine ⟨fun h => h.2, fun logs => ⟨?_, logs⟩⟩
    cases logs with
    | backlog clear _ => cases (admission_ok_iff.mpr clear).symm.trans admitted
    | _ => trivial
  | ok _ =>
    have clear := admission_ok_iff.mp admitted
    rw [notices_push_of_ok admitted, List.mem_append, mem_notices_admission_iff,
      FrameQueue.warning]
    constructor
    · rintro (⟨_, logs⟩ | warned)
      · exact logs
      · split at warned
        · next long =>
          rw [List.mem_singleton.mp warned]
          exact .backlog clear long
        · cases warned
    · intro logs
      cases logs with
      | backlog _ long =>
        have passed : s.queue.PassesLimit := long
        exact .inr (by simp [passed])
      | layoutConflict audio own differ =>
        exact .inl ⟨trivial, .layoutConflict audio own differ⟩
      | audioDrift clear' compared described audio differ =>
        exact .inl ⟨trivial, .audioDrift clear' compared described audio differ⟩
      | videoDrift clear' compared described video differ =>
        exact .inl ⟨trivial, .videoDrift clear' compared described video differ⟩

/-- A push logs at most one notice of a severity: an error, then the format of a picture, then the
length of the queue. -/
theorem severities_push_sublist :
    ((s.push f flags).notices.map Notice.severity).Sublist [.error, .info, .warn] := by
  cases admitted : (s.admission f flags).result with
  | error e =>
    rw [push_of_error admitted]
    exact severities_admission_sublist.trans (.cons_cons _ (.cons_cons _ (List.nil_sublist _)))
  | ok _ =>
    have warning : (s.queue.warning.map Notice.severity).Sublist [.warn] := by
      unfold FrameQueue.warning
      split
      · exact .refl _
      · exact List.nil_sublist _
    rw [notices_push_of_ok admitted, List.map_append]
    exact severities_admission_sublist.append warning

end Source

/-- The severities of what an operation logs, in order. -/
def Event.severities (event : Event) : List Severity := event.notices.map Notice.severity

namespace Source

open Objection

/-- The event of a push of `f` into `s` is accounted for: each severity has its one reason. -/
structure IsAccounted (s : Source) (f : Frame) (flags : PushFlags) (event : Event) : Prop where
  /-- Nothing is logged twice, and nothing but an error, the drift of a picture and a backlog. -/
  in_order : event.severities.Sublist [.error, .info, .warn]
  /-- An error is logged for the reported objections, and not for what a sink answers. -/
  error_iff : .error ∈ event.severities ↔ ∃ o e, IsFirst s f flags o e ∧ o.IsReported
  /-- A picture is remarked on where it is compared, whether or not it is let in afterwards. -/
  info_iff : .info ∈ event.severities
    ↔ ∃ d v, s.descriptor = some (.video d) ∧ f = .video v ∧ ¬ flags.Has .noFormatCheck
      ∧ NoneBefore s f flags otherFormat.rank
      ∧ (d.width ≠ v.width ∨ d.height ≠ v.height ∨ d.pixelFormat ≠ v.format)
  /-- A backlog is warned of by the frame that enters and makes it. -/
  warn_iff : .warn ∈ event.severities
    ↔ .queued f ∈ event.moves ∧ s.queue.limit.toNat < s.queue.length + 1
  /-- The first objection is what the frame is refused for. -/
  refused : ∀ o e, IsFirst s f flags o e → event.reply = .done (.error e) ∧ event.moves = []
  /-- The notices name what they are about. -/
  contents : ∀ n, n ∈ event.notices ↔ s.Logs f flags n

variable {s : Source} {f : Frame} {flags : PushFlags} {n : Notice} {op : Op} {link : Link}

theorem severity_mem_push_iff {severity : Severity} :
    severity ∈ (done (s.push f flags)).2.severities
      ↔ ∃ n, s.Logs f flags n ∧ n.severity = severity := by
  simp only [Event.severities, List.mem_map]
  exact exists_congr fun n => and_congr_left fun _ => mem_notices_push_iff

theorem error_mem_push_iff : .error ∈ (done (s.push f flags)).2.severities
    ↔ ∃ o e, IsFirst s f flags o e ∧ o.IsReported := by
  rw [severity_mem_push_iff]
  constructor
  · rintro ⟨n, logs, grave⟩
    cases logs with
    | layoutConflict audio own differ =>
      exact ⟨_, _, ⟨.layoutConflict audio own differ, fun _ _ _ => Nat.zero_le _⟩, trivial⟩
    | audioDrift clear compared described audio differ =>
      exact ⟨_, _, ⟨.otherFormat compared described audio differ, clear⟩, trivial⟩
    | videoDrift _ _ _ _ _ | backlog _ _ => cases grave
  · rintro ⟨o, e, ⟨stands, clear⟩, reported⟩
    cases stands with
    | layoutConflict audio own differ => exact ⟨_, .layoutConflict audio own differ, rfl⟩
    | otherFormat compared described audio differ =>
      exact ⟨_, .audioDrift clear compared described audio differ, rfl⟩
    | _ => exact reported.elim

theorem info_mem_push_iff : .info ∈ (done (s.push f flags)).2.severities
    ↔ ∃ d v, s.descriptor = some (.video d) ∧ f = .video v ∧ ¬ flags.Has .noFormatCheck
      ∧ NoneBefore s f flags otherFormat.rank ∧ d.Differs v := by
  rw [severity_mem_push_iff]
  constructor
  · rintro ⟨n, logs, mild⟩
    cases logs with
    | videoDrift clear compared described video differ =>
      exact ⟨_, _, described, video, compared, clear, differ⟩
    | layoutConflict _ _ _ | audioDrift _ _ _ _ _ | backlog _ _ => cases mild
  · rintro ⟨d, v, described, video, compared, clear, differ⟩
    exact ⟨_, .videoDrift clear compared described video differ, rfl⟩

/-- A frame enters exactly where nothing stands against it. -/
theorem queued_mem_push_iff :
    .queued f ∈ (s.push f flags).moves ↔ ∀ o e, ¬ Stands s f flags o e := by
  constructor
  · intro moved o e stands
    obtain ⟨o', e', first⟩ := stands.exists_isFirst
    rw [push_of_error (admission_of_isFirst first)] at moved
    cases moved
  · intro clear
    have entered := (push_of_clear clear).1
    obtain ⟨move, among, enters⟩ := List.mem_filterMap.mp (entered ▸ List.mem_singleton_self f)
    cases move with
    | queued g =>
      cases enters
      exact among
    | _ => cases enters

theorem warn_mem_push_iff : .warn ∈ (done (s.push f flags)).2.severities
    ↔ .queued f ∈ (s.push f flags).moves ∧ s.queue.limit.toNat < s.queue.length + 1 := by
  rw [severity_mem_push_iff, queued_mem_push_iff]
  constructor
  · rintro ⟨n, logs, severe⟩
    cases logs with
    | backlog clear long => exact ⟨clear, long⟩
    | layoutConflict _ _ _ | audioDrift _ _ _ _ _ | videoDrift _ _ _ _ _ => cases severe
  · rintro ⟨clear, long⟩
    exact ⟨_, .backlog clear long, rfl⟩

theorem isAccounted_push (s : Source) (f : Frame) (flags : PushFlags) :
    s.IsAccounted f flags (done (s.push f flags)).2 where
  in_order := severities_push_sublist
  error_iff := error_mem_push_iff
  info_iff := info_mem_push_iff
  warn_iff := warn_mem_push_iff
  refused o e first := by
    rw [push_of_error (admission_of_isFirst first)]
    exact ⟨rfl, rfl⟩
  contents n := mem_notices_push_iff

/-! ## The other operations -/

theorem notices_of_isConsumer (consumer : op.isConsumer = true) :
    (s.perform op).2.notices = [] := by
  cases op with
  | pop => exact notices_pop
  | request => exact notices_request
  | poll | setLimit _ | connect _ | disconnect => rfl
  | negotiate link => exact notices_negotiate link
  | _ => cases consumer

/-- A setup, or the end of the stream, is recorded if it succeeds. -/
theorem severities_of_record (record : op.isSetup = true ∨ op.EndsStream) :
    (s.perform op).2.severities = if (s.perform op).2.reply.isDone then [.debug] else [] := by
  rcases record with setup | ends
  · rcases s.perform_setup setup with ⟨d, _, performed⟩ | ⟨_, e, performed⟩
    · rw [performed]
      rfl
    · rw [performed]
      rfl
  · rw [perform_of_endsStream ends]
    unfold pushEnd
    split <;> rfl

end Source

/-- A stream takes the layout that is proposed, which is recorded, or stays as it is, or refuses. -/
theorem AudioDescriptor.adopt_logged (d : AudioDescriptor) (proposed : Option Layout) :
    (∃ l, d.layout = none ∧ l.channels = d.channels
        ∧ d.adopt proposed = ⟨.ok { d with layout := some l }, [.layoutAdopted l]⟩)
      ∨ d.adopt proposed = ⟨.ok d, []⟩
      ∨ ∃ e, d.adopt proposed = ⟨.error e, []⟩ := by
  unfold adopt
  split
  · next l blank =>
    split
    · next agrees => exact .inl ⟨l, blank, agrees, rfl⟩
    · exact .inr (.inr ⟨_, rfl⟩)
  · exact .inr (.inl rfl)

/-- A stream and a link come to terms over the layout of the link, which is recorded, or without a
change to the stream, or not at all. -/
theorem Descriptor.settled_logged (d : Descriptor) (link : Link) :
    (∃ d' l link', d.Adopts d' ∧ d.settled link = ⟨.ok (d', link'), [.layoutAdopted l]⟩)
      ∨ (∃ link', d.settled link = ⟨.ok (d, link'), []⟩)
      ∨ ∃ e, d.settled link = ⟨.error e, []⟩ := by
  unfold settled Link.checkMedia
  split
  · cases d with
    | video d => exact .inr (.inl ⟨_, rfl⟩)
    | audio d =>
      dsimp only
      rcases d.adopt_logged link.layout with ⟨l, blank, agrees, adopted⟩ | kept | ⟨e, refused⟩
      · rw [adopted]
        exact .inl ⟨_, l, _, ⟨d, l, rfl, blank, agrees, rfl⟩, rfl⟩
      · rw [kept]
        exact .inr (.inl ⟨_, rfl⟩)
      · rw [refused]
        exact .inr (.inr ⟨e, rfl⟩)
  · exact .inr (.inr ⟨_, rfl⟩)

namespace Source

variable {s : Source} {link : Link}

section Settled

variable {d : Descriptor} (early : s.framesEmitted = false) (described : s.descriptor = some d)
  (first : s.linkConfigured = false)

include early described first

/-- Where the source may configure a link, it logs what coming to terms with it logs. -/
theorem configureLink_of_settled {d' : Descriptor} {link' : Link} {notices : List Notice}
    (settled : d.settled link = ⟨.ok (d', link'), notices⟩) :
    s.configureLink link
      = { result := .ok (), notices,
          state := ({ s with descriptor := some d', linkConfigured := true }, link') } := by
  simp [configureLink, early, described, first, Descriptor.settle, settled]

theorem configureLink_of_not_settled {e : FeedError} {notices : List Notice}
    (settled : d.settled link = ⟨.error e, notices⟩) :
    s.configureLink link = { result := .error e, state := (s, link), notices } := by
  simp [configureLink, early, described, first, Descriptor.settle, settled]

end Settled

/-- A link is configured, and recorded if the stream takes its layout; or it is refused, and not
recorded. -/
theorem configureLink_logged (s : Source) (link : Link) :
    ((s.configureLink link).result = .ok ()
        ∧ ∃ d d', s.descriptor = some d ∧ (s.configureLink link).state.1.descriptor = some d'
          ∧ ((d.Adopts d' ∧ ∃ l, (s.configureLink link).notices = [.layoutAdopted l])
            ∨ d' = d ∧ (s.configureLink link).notices = []))
      ∨ ∃ e, (s.configureLink link).result = .error e ∧ (s.configureLink link).notices = [] := by
  cases early : s.framesEmitted with
  | true => exact .inr ⟨.invalidArgument (.linkTooLate s.name), by
      simp [configureLink, early, Outcome.refuse, Outcome.fail]⟩
  | false =>
    cases described : s.descriptor with
    | none => exact .inr ⟨.invalidArgument (.notConfigured s.name), by
        simp [configureLink, early, described, Outcome.refuse, Outcome.fail]⟩
    | some d =>
      cases first : s.linkConfigured with
      | true => exact .inr ⟨.invalidArgument (.linkTwice s.name), by
          simp [configureLink, early, described, first, Outcome.refuse, Outcome.fail]⟩
      | false =>
        rcases d.settled_logged link with ⟨d', l, link', adopts, settled⟩ | ⟨link', settled⟩
          | ⟨e, settled⟩
        · rw [configureLink_of_settled early described first settled]
          exact .inl ⟨rfl, d, d', rfl, rfl, .inl ⟨adopts, l, rfl⟩⟩
        · rw [configureLink_of_settled early described first settled]
          exact .inl ⟨rfl, d, d, rfl, rfl, .inr ⟨rfl, rfl⟩⟩
        · rw [configureLink_of_not_settled early described first settled]
          exact .inr ⟨e, rfl, rfl⟩

/-- A source that goes away records the frames it still has. -/
theorem severities_release (s : Source) :
    s.release.map Notice.severity = if s.queue.frames = [] then [] else [.debug] := by
  simp only [release, FrameQueue.length, List.length_eq_zero_iff]
  split <;> rfl

/-! ## Whole runs -/

/-- Each operation leaves its event in the place that it has in the run. -/
theorem getElem?_run (s : Source) (before : List Op) (op : Op) (after : List Op) :
    (s.run (before ++ op :: after)).2[before.length]? = some ((s.run before).1.perform op).2 := by
  induction before generalizing s with
  | nil => rfl
  | cons first before ih => simpa using ih (s.perform first).1

/-- **What is logged.** Take any operation of any run of a new source, in the state that it finds.
The operations of the consumer log nothing. The push of a frame logs an error if the frame is
refused because it disagrees with its own layout or is a block of another format than the stream,
the drift of a picture that is compared with the stream, and a warning if the frame enters and makes
the queue longer than its limit, each once and in this order, and nothing else. A setup and the end
of the stream are recorded once if they succeed, and not otherwise. A link is recorded once if it is
configured and the stream takes its layout, and not otherwise. A source that goes away leaves a
record exactly if frames still wait. -/
theorem operations_accounted (name : String) (media : Media) (before : List Op) (op : Op)
    (after : List Op) :
    let s := ((fresh name media).run before).1
    let event := (s.perform op).2
    ((fresh name media).run (before ++ op :: after)).2[before.length]? = some event
      ∧ (op.isConsumer = true → event.notices = [])
      ∧ (∀ f flags, op.offered? = some (f, flags) → s.IsAccounted f flags event)
      ∧ (op.isSetup = true ∨ op.EndsStream →
        event.severities = if event.reply.isDone then [.debug] else [])
      ∧ (∀ link, op = .configureLink link →
        (∃ link' d d', event.reply = .link (.ok ()) link'
            ∧ s.descriptor = some d ∧ (s.perform op).1.descriptor = some d'
            ∧ (d.Adopts d' ∧ event.severities = [.debug] ∨ d' = d ∧ event.severities = []))
          ∨ ∃ e link', event.reply = .link (.error e) link' ∧ event.severities = [])
      ∧ s.release.map Notice.severity = (if s.queue.frames = [] then [] else [.debug]) := by
  intro s event
  refine ⟨getElem?_run _ before op after, notices_of_isConsumer, fun f flags offered => ?_,
    severities_of_record, ?_, severities_release s⟩
  · show s.IsAccounted f flags (s.perform op).2
    rw [perform_of_offered offered]
    exact isAccounted_push s f flags
  · rintro link rfl
    have answered : event.reply
        = .link (s.configureLink link).result (s.configureLink link).state.2 := rfl
    have logged : event.severities = (s.configureLink link).notices.map Notice.severity := rfl
    rw [answered, logged]
    rcases s.configureLink_logged link with ⟨succeeded, d, d', described, left, either⟩
      | ⟨e, refused, silent⟩
    · refine .inl ⟨_, d, d', by rw [succeeded], described, left, ?_⟩
      rcases either with ⟨adopts, l, recorded⟩ | ⟨kept, silent⟩
      · exact .inl ⟨adopts, by rw [recorded]; rfl⟩
      · exact .inr ⟨kept, by rw [silent]; rfl⟩
    · exact .inr ⟨e, _, by rw [refused], by rw [silent]; rfl⟩

/-- A picture that is too large is remarked on, and is then refused since there is no sink. -/
example :
    let setup : Params :=
      .video { width := 2, height := 2, pixelFormat := some .gray, timeBase := ⟨1, 25⟩ }
    ((fresh "cam" .video).run [.configure setup, .push (.video (.ofSize 4 4 .gray)) ⟨4⟩]).2.map
      Event.severities = [[.debug], [.info]] := by
  decide

end Source

end FrameIngest
