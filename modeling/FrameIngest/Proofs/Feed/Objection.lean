/-
FrameIngest.Proofs.Feed.Objection — what may stand against a frame.

Six things can stand against a frame that is offered to a source. `Stands` says
when each of them does and by which error it is told, without regard to the
order in which a source looks for them; `rank` is that order. A source refuses
a frame with the error of the first thing that stands against it, and lets it
in when nothing does.

* `Frame.IsConsistent`, `AudioDescriptor.Differs` — the two conditions on formats;
* `Objection`, `Stands`, `IsFirst` — the objections and their order;
* `admission_of_isFirst`, `admission_ok_iff` — what a source does.
-/
import FrameIngest.Feed.Intake

namespace FrameIngest

/-! ## Two conditions on formats -/

/-- The block has as many channels as its own layout, where it has one. -/
def AudioFrame.IsConsistent (f : AudioFrame) : Prop := ∀ l ∈ f.layout, l.channels = f.channels

/-- The frame agrees with its own layout, where it has one. -/
def Frame.IsConsistent : Frame → Prop
  | .video _ => True
  | .audio f => f.IsConsistent

/-- The block differs from the stream in sample format, in rate or in layout, or in the count of
channels when neither names a layout. -/
def AudioDescriptor.Differs (d : AudioDescriptor) (f : AudioFrame) : Prop :=
  d.sampleFormat ≠ f.format ∨ d.sampleRate ≠ f.rate ∨ d.layout ≠ f.layout
    ∨ (d.layout = none ∧ f.layout = none ∧ d.channels ≠ f.channels)

theorem AudioDescriptor.differs_iff_not_admits (d : AudioDescriptor) (f : AudioFrame) :
    d.Differs f ↔ ¬ d.Admits f := by
  unfold Differs Admits AdmitsChannels
  constructor
  · rintro (format | rate | layout | ⟨own, _, channels⟩) ⟨format', rate', layout', channels'⟩
    · exact format format'
    · exact rate rate'
    · exact layout layout'
    · exact channels (channels' own)
  · intro refused
    by_cases format : d.sampleFormat = f.format
    · by_cases rate : d.sampleRate = f.rate
      · by_cases layout : d.layout = f.layout
        · refine .inr (.inr (.inr ?_))
          have counts : ¬ (d.layout = none → d.channels = f.channels) :=
            fun counts => refused ⟨format, rate, layout, counts⟩
          have own : d.layout = none := Decidable.by_contra fun own => counts fun h => absurd h own
          exact ⟨own, layout ▸ own, fun channels => counts fun _ => channels⟩
        · exact .inr (.inr (.inl layout))
      · exact .inr (.inl rate)
    · exact .inl format

/-! ## Objections -/

/-- Something that may stand against a frame. -/
inductive Objection where
  /-- The frame disagrees with its own layout. -/
  | layoutConflict
  /-- The end of the stream is marked. -/
  | streamOver
  /-- The source has no descriptor. -/
  | notConfigured
  /-- The frame is of the other kind than the stream. -/
  | otherMedia
  /-- The frame is compared with the format of the stream, and differs. -/
  | otherFormat
  /-- A frame is to be handed on at once, and there is no sink. -/
  | noSink
  deriving DecidableEq, Repr

namespace Objection

/-- The place of the objection in the order in which a source looks for them. -/
def rank : Objection → Nat
  | layoutConflict => 0
  | streamOver => 1
  | notConfigured => 2
  | otherMedia => 3
  | otherFormat => 4
  | noSink => 5

theorem rank_injective {o o' : Objection} (h : o.rank = o'.rank) : o = o' := by
  cases o <;> cases o' <;> first | rfl | cases h

/-- The objection stands against `f` under `flags`, and the error tells so. -/
inductive Stands (s : Source) (f : Frame) (flags : PushFlags) : Objection → FeedError → Prop where
  | layoutConflict {a : AudioFrame} {l : Layout} (audio : f = .audio a) (own : a.layout = some l)
      (differ : l.channels ≠ a.channels) :
      Stands s f flags layoutConflict (.invalidArgument (.layoutConflict l a.channels))
  | streamOver (ended : s.queue.IsEnded) : Stands s f flags streamOver .streamClosed
  | notConfigured (blank : s.descriptor = none) :
      Stands s f flags notConfigured (.invalidArgument (.notConfigured s.name))
  | otherMedia {d : Descriptor} (described : s.descriptor = some d) (differ : d.media ≠ f.media) :
      Stands s f flags otherMedia (.invalidArgument (.frameMedia d.media f.media))
  | otherFormat {d : AudioDescriptor} {a : AudioFrame} (compared : ¬ flags.Has .noFormatCheck)
      (described : s.descriptor = some (.audio d)) (audio : f = .audio a) (differ : d.Differs a) :
      Stands s f flags otherFormat (.invalidArgument .audioDrift)
  | noSink (handed : flags.Has .immediate) (detached : s.output = none) :
      Stands s f flags noSink (.invalidArgument (.noOutput s.name))

/-- No objection with a place before `n` stands. -/
def NoneBefore (s : Source) (f : Frame) (flags : PushFlags) (n : Nat) : Prop :=
  ∀ o e, Stands s f flags o e → n ≤ o.rank

/-- The objection stands, and none stands before it. -/
def IsFirst (s : Source) (f : Frame) (flags : PushFlags) (o : Objection) (e : FeedError) : Prop :=
  Stands s f flags o e ∧ NoneBefore s f flags o.rank

variable {s : Source} {f : Frame} {flags : PushFlags} {o o' : Objection} {e e' : FeedError}

/-- An objection has only one error. -/
theorem Stands.error_unique (h : Stands s f flags o e) (h' : Stands s f flags o e') : e = e' := by
  cases h with
  | layoutConflict audio own _ =>
    cases h' with
    | layoutConflict audio' own' _ =>
      cases audio.symm.trans audio'
      cases own.symm.trans own'
      rfl
  | otherMedia described _ =>
    cases h' with
    | otherMedia described' _ =>
      cases described.symm.trans described'
      rfl
  | _ => cases h'; rfl

/-- There is only one first objection. -/
theorem IsFirst.unique (h : IsFirst s f flags o e) (h' : IsFirst s f flags o' e') :
    o = o' ∧ e = e' := by
  obtain ⟨stands, least⟩ := h
  obtain ⟨stands', least'⟩ := h'
  have same : o = o' := rank_injective (Nat.le_antisymm (least _ _ stands') (least' _ _ stands))
  subst same
  exact ⟨rfl, stands.error_unique stands'⟩

/-- Where something stands, something stands first. -/
theorem Stands.exists_isFirst (h : Stands s f flags o e) : ∃ o e, IsFirst s f flags o e := by
  generalize place : o.rank = n
  induction n using Nat.strongRecOn generalizing o e with
  | ind n ih =>
    by_cases least : NoneBefore s f flags o.rank
    · exact ⟨o, e, h, least⟩
    · simp only [NoneBefore, Classical.not_forall, Nat.not_le] at least
      obtain ⟨o', e', stands, before⟩ := least
      exact ih o'.rank (place ▸ before) stands rfl

/-! What is known of the frame once the objections before some place do not stand. -/

variable {n : Nat}

theorem NoneBefore.isConsistent (h : NoneBefore s f flags n) (place : 0 < n) :
    f.IsConsistent := by
  cases f with
  | video _ => trivial
  | audio a =>
    intro l own
    refine Decidable.by_contra fun differ => ?_
    have bound : n ≤ 0 := h _ _ (.layoutConflict rfl own differ)
    omega

theorem NoneBefore.not_isEnded (h : NoneBefore s f flags n) (place : 1 < n) :
    ¬ s.queue.IsEnded := by
  intro ended
  have bound : n ≤ 1 := h _ _ (.streamOver ended)
  omega

theorem NoneBefore.exists_descriptor (h : NoneBefore s f flags n) (place : 2 < n) :
    ∃ d, s.descriptor = some d := by
  cases described : s.descriptor with
  | some d => exact ⟨d, rfl⟩
  | none =>
    have bound : n ≤ 2 := h _ _ (.notConfigured described)
    omega

theorem NoneBefore.media_eq (h : NoneBefore s f flags n) (place : 3 < n) {d : Descriptor}
    (described : s.descriptor = some d) : d.media = f.media := by
  refine Decidable.by_contra fun differ => ?_
  have bound : n ≤ 3 := h _ _ (.otherMedia described differ)
  omega

theorem NoneBefore.not_differs (h : NoneBefore s f flags n) (place : 4 < n)
    (compared : ¬ flags.Has .noFormatCheck) {d : AudioDescriptor} {a : AudioFrame}
    (described : s.descriptor = some (.audio d)) (audio : f = .audio a) : ¬ d.Differs a := by
  intro differ
  have bound : n ≤ 4 := h _ _ (.otherFormat compared described audio differ)
  omega

theorem NoneBefore.exists_output (h : NoneBefore s f flags n) (place : 5 < n)
    (handed : flags.Has .immediate) : ∃ output, s.output = some output := by
  cases attached : s.output with
  | some output => exact ⟨output, rfl⟩
  | none =>
    have bound : n ≤ 5 := h _ _ (.noSink handed attached)
    omega

/-- Where nothing stands, nothing stands before any place. -/
theorem noneBefore_of_clear (h : ∀ o e, ¬ Stands s f flags o e) (n : Nat) :
    NoneBefore s f flags n :=
  fun o e stands => absurd stands (h o e)

end Objection

/-! ## The single checks -/

namespace Admission

variable {f : Frame}

theorem checkChannels_of_isConsistent (h : f.IsConsistent) : (checkChannels f).result = .ok () := by
  cases f with
  | video _ => rfl
  | audio a =>
    cases own : a.layout with
    | none => simp [checkChannels, own]
    | some l =>
      have same : l.channels = a.channels := h l own
      simp [checkChannels, own, same]

theorem checkChannels_of_conflict {a : AudioFrame} {l : Layout} (own : a.layout = some l)
    (differ : l.channels ≠ a.channels) :
    (checkChannels (.audio a)).result
      = .error (.invalidArgument (.layoutConflict l a.channels)) := by
  simp [checkChannels, own, differ, Logged.refuse]

theorem checkMedia_of_eq {d : Descriptor} (h : d.media = f.media) :
    (checkMedia d f).result = .ok () := by
  simp [checkMedia, h]

theorem checkMedia_of_ne {d : Descriptor} (h : d.media ≠ f.media) :
    (checkMedia d f).result = .error (.invalidArgument (.frameMedia d.media f.media)) := by
  simp [checkMedia, h, Logged.refuse]

theorem checkFormat_of_differs (source : String) {d : AudioDescriptor} {a : AudioFrame}
    (h : d.Differs a) :
    (checkFormat source (.audio d) (.audio a)).result = .error (.invalidArgument .audioDrift) := by
  have refused : ¬ d.Admits a := (d.differs_iff_not_admits a).mp h
  simp [checkFormat, checkAudio, refused, Logged.refuse]

/-- The format is no objection to a picture, nor to a block that does not differ. -/
theorem checkFormat_of_not_differs (source : String) {d : Descriptor} (kind : d.media = f.media)
    (h : ∀ d' a, d = .audio d' → f = .audio a → ¬ d'.Differs a) :
    ∃ fit, (checkFormat source d f).result = .ok fit := by
  cases d with
  | video d =>
    cases f with
    | video a =>
      by_cases admitted : d.Admits a
      · exact ⟨.matches, by simp [checkFormat, checkVideo, admitted]⟩
      · exact ⟨.drifts, by simp [checkFormat, checkVideo, admitted]⟩
    | audio a => cases kind
  | audio d =>
    cases f with
    | video a => cases kind
    | audio a =>
      have admitted : d.Admits a :=
        Decidable.by_contra fun refused => h d a rfl rfl ((d.differs_iff_not_admits a).mpr refused)
      exact ⟨.matches, by simp [checkFormat, checkAudio, admitted]⟩

end Admission

/-! ## What a source does -/

namespace Source

open Objection

variable {s : Source} {f : Frame} {flags : PushFlags} {n : Nat}

theorem checkChannels_of_noneBefore (h : NoneBefore s f flags n) (place : 0 < n) :
    (Admission.checkChannels f).result = .ok () :=
  Admission.checkChannels_of_isConsistent (h.isConsistent place)

theorem checkMedia_of_noneBefore (h : NoneBefore s f flags n) (place : 3 < n) {d : Descriptor}
    (described : s.descriptor = some d) : (Admission.checkMedia d f).result = .ok () :=
  Admission.checkMedia_of_eq (h.media_eq place described)

/-- The format is no objection: it is not compared, or it is that of the stream. -/
theorem checkFormat_of_noneBefore (h : NoneBefore s f flags n) (place : 4 < n) {d : Descriptor}
    (described : s.descriptor = some d) (compared : ¬ flags.Has .noFormatCheck) :
    ∃ fit, (Admission.checkFormat s.name d f).result = .ok fit := by
  refine Admission.checkFormat_of_not_differs s.name (h.media_eq (by omega) described) ?_
  rintro d' a rfl rfl
  exact h.not_differs place compared described rfl

/-- Past the format, only a missing sink can stand against a frame. -/
theorem result_admission_of_noneBefore (h : NoneBefore s f flags 5) :
    (s.admission f flags).result
      = if flags.Has .immediate ∧ s.output = none then .error (.invalidArgument (.noOutput s.name))
        else .ok () := by
  have channels := checkChannels_of_noneBefore h (by decide)
  have calm := h.not_isEnded (by decide)
  obtain ⟨d, described⟩ := h.exists_descriptor (by decide)
  have media := checkMedia_of_noneBefore h (by decide) described
  by_cases compared : flags.Has .noFormatCheck
  · simp [admission, Logged.result_bind, channels, calm, described, media, compared, Except.bind]
    split <;> rfl
  · obtain ⟨fit, format⟩ := checkFormat_of_noneBefore h (by decide) described compared
    simp [admission, Logged.result_bind, channels, calm, described, media, compared, format,
      Except.bind]
    split <;> rfl

/-- A source refuses a frame on account of the first objection. -/
theorem admission_of_isFirst {o : Objection} {e : FeedError} (h : IsFirst s f flags o e) :
    (s.admission f flags).result = .error e := by
  obtain ⟨stands, clear⟩ := h
  cases stands with
  | layoutConflict audio own differ =>
    subst audio
    simp [admission, Logged.result_bind, Admission.checkChannels_of_conflict own differ,
      Except.bind]
  | streamOver ended =>
    have channels := checkChannels_of_noneBefore clear (by decide)
    simp [admission, Logged.result_bind, channels, ended, Except.bind]
  | notConfigured blank =>
    have channels := checkChannels_of_noneBefore clear (by decide)
    have calm := clear.not_isEnded (by decide)
    simp [admission, Logged.result_bind, channels, calm, blank, Except.bind, Logged.refuse]
  | otherMedia described differ =>
    have channels := checkChannels_of_noneBefore clear (by decide)
    have calm := clear.not_isEnded (by decide)
    have media := Admission.checkMedia_of_ne differ
    simp [admission, Logged.result_bind, channels, calm, described, media, Except.bind]
  | otherFormat compared described audio differ =>
    have channels := checkChannels_of_noneBefore clear (by decide)
    have calm := clear.not_isEnded (by decide)
    have media := checkMedia_of_noneBefore clear (by decide) described
    subst audio
    have format := Admission.checkFormat_of_differs s.name differ
    simp [admission, Logged.result_bind, channels, calm, described, media, compared, format,
      Except.bind]
  | noSink handed detached =>
    rw [result_admission_of_noneBefore clear, if_pos ⟨handed, detached⟩]

/-- A source lets a frame in when nothing stands against it, and only then. -/
theorem admission_ok_iff :
    (s.admission f flags).result = .ok () ↔ ∀ o e, ¬ Stands s f flags o e := by
  constructor
  · intro admitted o e stands
    obtain ⟨o', e', first⟩ := stands.exists_isFirst
    have refused := admission_of_isFirst first
    rw [admitted] at refused
    cases refused
  · intro clear
    rw [result_admission_of_noneBefore (noneBefore_of_clear clear 5), if_neg]
    rintro ⟨handed, detached⟩
    exact clear _ _ (.noSink handed detached)

/-- A frame is let in only by a source that has its descriptor. -/
theorem exists_descriptor_of_admitted (admitted : (s.admission f flags).result = .ok ()) :
    ∃ d, s.descriptor = some d :=
  (noneBefore_of_clear (admission_ok_iff.mp admitted) 6).exists_descriptor (by decide)

/-- A frame is let in only before the end. -/
theorem not_isEnded_of_admitted (admitted : (s.admission f flags).result = .ok ()) :
    ¬ s.queue.IsEnded :=
  (noneBefore_of_clear (admission_ok_iff.mp admitted) 6).not_isEnded (by decide)

end Source

end FrameIngest
