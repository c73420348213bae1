/-
FrameIngest.Proofs.Feed.Acceptance — the blocks that a stream of samples accepts.

Neither the check of a block against its own layout nor the one against the
stream compares the counts of channels where a layout is named. Together they
still make them equal: a block that passes is exactly one that the stream
describes, in format, rate, layout and count (`passes_iff_describes`). So a
source of samples that is not over accepts the blocks that its descriptor
describes, and no others (`push_ok_iff_describes`).

* `AudioDescriptor.Describes` — a block with the properties of the stream;
* `Admission.Passes` — a frame that no check refuses.
-/
import FrameIngest.Proofs.Feed.Conformity

namespace FrameIngest

/-- The block has the format, the rate, the layout and the count of channels of the stream; of a
stream without a layout it has none. -/
structure AudioDescriptor.Describes (d : AudioDescriptor) (a : AudioFrame) : Prop where
  format_eq : a.format = d.sampleFormat
  rate_eq : a.rate = d.sampleRate
  layout_eq : a.layout = d.layout
  channels_eq : a.channels = d.channels

namespace AudioDescriptor

variable {d : AudioDescriptor} {a : AudioFrame}

theorem Describes.admits (h : d.Describes a) : d.Admits a :=
  ⟨h.format_eq.symm, h.rate_eq.symm, h.layout_eq.symm, fun _ => h.channels_eq.symm⟩

theorem Describes.isConsistent (h : d.Describes a) (consistent : d.IsConsistent) :
    a.IsConsistent := by
  intro l named
  rw [h.channels_eq]
  exact consistent l (h.layout_eq ▸ named)

theorem describes_of_admits (consistent : d.IsConsistent) (own : a.IsConsistent)
    (h : d.Admits a) : d.Describes a where
  format_eq := h.1.symm
  rate_eq := h.2.1.symm
  layout_eq := h.2.2.1.symm
  channels_eq := channels_eq_of_admits consistent own h

end AudioDescriptor

/-! ## The three checks -/

namespace Admission

variable {d : Descriptor} {f : Frame} {source : String}

theorem checkChannels_ok_iff : (checkChannels f).result = .ok () ↔ f.IsConsistent := by
  refine ⟨fun passed => ?_, checkChannels_of_isConsistent⟩
  cases f with
  | video _ => trivial
  | audio a =>
    intro l own
    refine Decidable.by_contra fun differ => ?_
    cases passed.symm.trans (checkChannels_of_conflict own differ)

theorem checkMedia_ok_iff : (checkMedia d f).result = .ok () ↔ d.media = f.media := by
  refine ⟨fun passed => ?_, checkMedia_of_eq⟩
  refine Decidable.by_contra fun differ => ?_
  cases passed.symm.trans (checkMedia_of_ne differ)

/-- A stream of samples lets in blocks only, and never with a drift. -/
theorem checkFormat_audio_ok_iff {d : AudioDescriptor} {fit : Fit} :
    (checkFormat source (.audio d) f).result = .ok fit
      ↔ fit = .matches ∧ ∃ a, f = .audio a ∧ d.Admits a := by
  cases f with
  | video _ => simp [checkFormat, Logged.refuse]
  | audio a =>
    by_cases admitted : d.Admits a
    · simp [checkFormat, checkAudio, admitted, eq_comm]
    · simp [checkFormat, checkAudio, admitted, Logged.refuse]

/-- No check refuses the frame. -/
def Passes (source : String) (d : Descriptor) (f : Frame) : Prop :=
  (checkChannels f).result = .ok () ∧ (checkMedia d f).result = .ok ()
    ∧ ∃ fit, (checkFormat source d f).result = .ok fit

/-- What passes the checks of a stream of samples are the blocks that the stream describes. -/
theorem passes_iff_describes {d : AudioDescriptor} (consistent : d.IsConsistent) :
    Passes source (.audio d) f ↔ ∃ a, f = .audio a ∧ d.Describes a := by
  unfold Passes
  rw [checkChannels_ok_iff, checkMedia_ok_iff]
  constructor
  · rintro ⟨own, _, fit, passed⟩
    obtain ⟨_, a, rfl, admitted⟩ := checkFormat_audio_ok_iff.mp passed
    exact ⟨a, rfl, AudioDescriptor.describes_of_admits consistent own admitted⟩
  · rintro ⟨a, rfl, described⟩
    refine ⟨described.isConsistent consistent, rfl, .matches, ?_⟩
    exact checkFormat_audio_ok_iff.mpr ⟨rfl, a, rfl, described.admits⟩

end Admission

/-! ## The source -/

namespace Source

variable {s : Source} {d : AudioDescriptor} {a : AudioFrame}

/-- A source of samples that is not over accepts the blocks that its descriptor describes. -/
theorem push_ok_iff_describes (consistent : d.IsConsistent)
    (described : s.descriptor = some (.audio d)) (calm : ¬ s.queue.IsEnded) :
    (s.push (.audio a) {}).result = .ok () ↔ d.Describes a := by
  have compared : ¬ ({} : PushFlags).Has .noFormatCheck := by decide
  have kept : ¬ ({} : PushFlags).Has .immediate := by decide
  rw [push_ok_iff_admitted kept, admission_ok_iff]
  constructor
  · intro clear
    have before := Objection.noneBefore_of_clear clear 6
    have own : a.IsConsistent := before.isConsistent (by decide)
    have alike : ¬ d.Differs a := before.not_differs (by decide) compared described rfl
    have admitted : d.Admits a := Decidable.not_not.mp (mt (d.differs_iff_not_admits a).mpr alike)
    exact AudioDescriptor.describes_of_admits consistent own admitted
  · intro block o e stands
    cases stands with
    | layoutConflict audio own differ =>
      cases audio
      exact differ (block.isConsistent consistent _ own)
    | streamOver ended => exact calm ended
    | notConfigured blank => cases blank.symm.trans described
    | otherMedia described' differ =>
      cases described'.symm.trans described
      exact differ rfl
    | otherFormat _ described' audio differ =>
      cases described'.symm.trans described
      cases audio
      exact (d.differs_iff_not_admits a).mp differ block.admits
    | noSink handed _ => exact kept handed

/-- The layout of a stream of samples, where it has one, has as many channels as the stream, in
every source that a run leads to. -/
theorem isConsistent_run {name : String} {media : Media} {ops : List Op}
    (described : ((fresh name media).run ops).1.descriptor = some (.audio d)) : d.IsConsistent :=
  (isSound_run name media ops _ described).2.2.2.2

/-- **Acceptance.** A stream of samples whose layout agrees with its count of channels lets a frame
past its three checks exactly if it is a block that the stream describes: one of its format, its
rate, its layout, or none if it has none, and its count. The answer is then that the block matches.
After any run of a new source that has left it with a stream of samples which is not over, the
blocks that its descriptor describes, and no others, are accepted when they are pushed without
flags. -/
theorem block_accepted_iff_described :
    (∀ (source : String) (d : AudioDescriptor) (f : Frame), d.IsConsistent →
        (Admission.Passes source (.audio d) f ↔ ∃ a, f = .audio a ∧ d.Describes a)
          ∧ (Admission.Passes source (.audio d) f →
            (Admission.checkFormat source (.audio d) f).result = .ok .matches))
      ∧ ∀ (name : String) (media : Media) (ops : List Op) (d : AudioDescriptor) (a : AudioFrame),
        let s := ((fresh name media).run ops).1
        s.descriptor = some (.audio d) → ¬ s.queue.IsEnded →
          ((s.push (.audio a) {}).result = .ok () ↔ d.Describes a) := by
  constructor
  · intro source d f consistent
    refine ⟨Admission.passes_iff_describes consistent, fun passes => ?_⟩
    obtain ⟨_, _, fit, passed⟩ := passes
    obtain ⟨rfl, _⟩ := Admission.checkFormat_audio_ok_iff.mp passed
    exact passed
  · intro name media ops d a s described calm
    exact push_ok_iff_describes (isConsistent_run described) described calm

/-- A stream of which only the count of channels is known. -/
def countStream : List Op :=
  [.configure (.audio { sampleRate := 8000, sampleFormat := some .s16, channels := 2 })]

/-- The stream of two channels, without a layout, has no place for a block that names one. -/
theorem countStream_accepts :
    let s := ((fresh "mic" .audio).run countStream).1
    let d : AudioDescriptor :=
      { sampleRate := 8000, sampleFormat := .s16, channels := 2, timeBase := ⟨1, 8000⟩ }
    (d.IsConsistent ∧ s.descriptor = some (.audio d) ∧ ¬ s.queue.IsEnded)
      ∧ (s.push (.audio (.ofCount 4 .s16 8000 2)) {}).result = .ok ()
      ∧ (Admission.checkFormat "mic" (.audio d) (.audio (.ofCount 4 .s16 8000 2))).result
        = .ok .matches
      ∧ (s.push (.audio (.ofLayout 4 .s16 8000 ⟨3, by decide⟩)) {}).result ≠ .ok () := by
  intro s d
  have consistent : d.IsConsistent := nofun
  have described : s.descriptor = some (.audio d) := by decide
  have calm : ¬ s.queue.IsEnded := by decide
  have block : d.Describes (.ofCount 4 .s16 8000 2) := ⟨rfl, rfl, rfl, rfl⟩
  have foreign : ¬ d.Describes (.ofLayout 4 .s16 8000 ⟨3, by decide⟩) :=
    fun same => by cases same.layout_eq
  obtain ⟨checks, accepts⟩ := block_accepted_iff_described
  obtain ⟨passes_iff, answer⟩ := checks "mic" d (.audio (.ofCount 4 .s16 8000 2)) consistent
  have accepted := accepts "mic" .audio countStream d
  exact ⟨⟨consistent, described, calm⟩, (accepted _ described calm).mpr block,
    answer (passes_iff.mpr ⟨_, rfl, block⟩), fun ok => foreign ((accepted _ described calm).mp ok)⟩

end Source

end FrameIngest
