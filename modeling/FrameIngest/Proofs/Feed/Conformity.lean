/-
FrameIngest.Proofs.Feed.Conformity — the frames of a run are those that the stream promised.

A block of samples fits a stream when it has the format, the rate and the count
of channels of the stream, and either no layout or that of the stream. A source
of samples compares every block with its descriptor as it is at the time. The
descriptor may still take the layout of a link afterwards, under blocks that
wait; they fit it all the same, as it had no layout before and keeps its count
(`Adopts.fits`). So every frame of a run fits the descriptor as it is now
(`entered_conforms`), unless the producer asked not to compare; of the kind of
the source and in agreement with its own layout it is even then.
-/
import FrameIngest.Proofs.Feed.Commitment

namespace FrameIngest

/-! ## Blocks that fit a stream -/

namespace AudioDescriptor

/-- The block has the format, the rate and the channels of the stream, and no other layout. -/
def Fits (d : AudioDescriptor) (a : AudioFrame) : Prop :=
  a.format = d.sampleFormat ∧ a.rate = d.sampleRate ∧ a.channels = d.channels
    ∧ (a.layout = none ∨ a.layout = d.layout)

variable {d : AudioDescriptor} {a : AudioFrame}

/-- A block that is let in has as many channels as the stream. The counts are compared only where
neither names a layout; where both name the same, each has as many channels as that. -/
theorem channels_eq_of_admits (consistent : d.IsConsistent) (own : a.IsConsistent)
    (h : d.Admits a) : a.channels = d.channels := by
  obtain ⟨_, _, layout, counts⟩ := h
  cases named : d.layout with
  | none => exact (counts named).symm
  | some l =>
    have ofBlock : l.channels = a.channels := own l (layout.symm.trans named)
    have ofStream : l.channels = d.channels := consistent l named
    exact ofBlock.symm.trans ofStream

/-- A block that does not differ from the stream fits it. -/
theorem fits_of_not_differs (formed : d.IsWellFormed) (own : a.IsConsistent)
    (h : ¬ d.Differs a) : d.Fits a := by
  have admitted : d.Admits a := Decidable.not_not.mp (mt (d.differs_iff_not_admits a).mpr h)
  obtain ⟨_, _, _, consistent⟩ := formed
  have channels := channels_eq_of_admits consistent own admitted
  obtain ⟨format, rate, layout, _⟩ := admitted
  exact ⟨format.symm, rate.symm, channels, .inr layout.symm⟩

end AudioDescriptor

namespace Source

/-- The frame is a block that fits the stream of the source as it is now. -/
def Carries (s : Source) (f : Frame) : Prop :=
  ∃ d a, s.descriptor = some (.audio d) ∧ f = .audio a ∧ d.Fits a

end Source

/-- A stream that takes a layout has had none, so a block that fitted has none either. -/
theorem Descriptor.Adopts.fits {d : AudioDescriptor} {d' : Descriptor} {a : AudioFrame}
    (h : Descriptor.Adopts (.audio d) d') (fits : d.Fits a) :
    ∃ d₁, d' = .audio d₁ ∧ d₁.Fits a := by
  obtain ⟨_, l, same, blank, _, new⟩ := h
  cases same
  obtain ⟨format, rate, channels, layout⟩ := fits
  have unnamed : a.layout = none := layout.elim id (fun same => same.trans blank)
  exact ⟨_, new, format, rate, channels, .inl unnamed⟩

/-! ## Frames that are let in -/

namespace Source

variable {s : Source} {f : Frame} {flags : PushFlags}

/-- A frame that is let in is of the kind of the source and agrees with its own layout. -/
theorem media_eq_of_admitted (sound : s.IsSound)
    (admitted : (s.admission f flags).result = .ok ()) :
    f.media = s.media ∧ f.IsConsistent := by
  have clear := Objection.noneBefore_of_clear (admission_ok_iff.mp admitted) 6
  obtain ⟨d, described⟩ := clear.exists_descriptor (by decide)
  have kind : d.media = f.media := clear.media_eq (by decide) described
  exact ⟨kind.symm.trans (sound d described).1, clear.isConsistent (by decide)⟩

/-- A source of samples that lets a frame in after comparing it carries it from then on. -/
theorem carries_of_admitted (sound : s.IsSound) (samples : s.media = .audio)
    (compared : ¬ flags.Has .noFormatCheck) (admitted : (s.admission f flags).result = .ok ()) :
    s.Carries f := by
  have clear := Objection.noneBefore_of_clear (admission_ok_iff.mp admitted) 6
  obtain ⟨kind, own⟩ := media_eq_of_admitted sound admitted
  obtain ⟨d, described⟩ := clear.exists_descriptor (by decide)
  obtain ⟨media, formed⟩ := sound d described
  cases d with
  | video _ => cases media.trans samples
  | audio d =>
    cases f with
    | video _ => cases kind.trans samples
    | audio a =>
      have alike : ¬ d.Differs a := clear.not_differs (by decide) compared described rfl
      exact ⟨d, a, described, rfl, d.fits_of_not_differs formed own alike⟩

end Source

namespace Transition

variable {s s' : Source} {op : Op} {moves : List Move} {f : Frame}

/-- Only frames that are let in enter. -/
theorem admitted_of_entering (h : Transition s op moves s')
    (enters : f ∈ moves.filterMap Move.entering?) :
    ∃ flags, op.offered? = some (f, flags) ∧ (s.admission f flags).result = .ok () := by
  cases h with
  | queued offered admitted | relayed offered admitted _ _ =>
    cases List.mem_singleton.mp enters
    exact ⟨_, offered, admitted⟩
  | _ => cases enters

/-- What a source carries it carries after any change. -/
theorem carries (h : Transition s op moves s') (carried : s.Carries f) : s'.Carries f := by
  obtain ⟨d, a, described, rfl, fits⟩ := carried
  rcases h.descriptor_cases with same | ⟨_, ⟨_, _, _, blank, _⟩, _⟩
    | ⟨_, _, d', _, _, old, adopts, new⟩
  · exact ⟨d, a, same.trans described, rfl, fits⟩
  · cases blank.symm.trans described
  · cases old.symm.trans described
    obtain ⟨d₁, rfl, fits'⟩ := adopts.fits fits
    exact ⟨d₁, a, new, rfl, fits'⟩

end Transition

/-! ## Whole runs -/

namespace Source

/-- What holds of every frame when it is let in, and stays true of it under every change, holds of
every frame that entered. -/
theorem forall_entered {P : Source → Frame → Prop} {name : String} {media : Media} {ops : List Op}
    (keeps : ∀ s op moves s' f, Transition s op moves s' → P s f → P s' f)
    (lets_in : ∀ s : Source, s.IsSound → s.media = media → ∀ op ∈ ops, ∀ f flags,
      op.offered? = some (f, flags) → (s.admission f flags).result = .ok () → P s f) :
    ∀ f ∈ entered ((fresh name media).run ops).2, P ((fresh name media).run ops).1 f := by
  have all := run_keeps (s := fresh name media)
    (I := fun past s => s.IsSound ∧ s.media = media ∧ ∀ f ∈ past.filterMap Move.entering?, P s f)
    ?_ ops ?_
  · rw [entered_eq]
    exact all.2.2
  · exact ⟨isSound_run name media [], rfl, fun f enters => by cases enters⟩
  · intro op among past s₁ moves s₂ ⟨sound, kind, before⟩ change
    refine ⟨change.isSound sound, change.identity.2.trans kind, fun f enters => ?_⟩
    rw [List.filterMap_append, List.mem_append] at enters
    rcases enters with earlier | now
    · exact keeps _ _ _ _ f change (before f earlier)
    · obtain ⟨flags, offered, admitted⟩ := change.admitted_of_entering now
      exact keeps _ _ _ _ f change (lets_in s₁ sound kind op among f flags offered admitted)

/-- **Frames that the stream promised.** After any run of a new source of samples in which every
block is compared, every frame that entered fits the descriptor as it is now, whether the frame
waits or has left. Compared or not, every frame that entered a source of either kind is of that
kind, and has as many channels as its own layout where it has one. -/
theorem entered_conforms (name : String) (media : Media) (ops : List Op) :
    let s := ((fresh name media).run ops).1
    let events := ((fresh name media).run ops).2
    (media = .audio →
        (∀ op ∈ ops, ∀ f flags, op.offered? = some (f, flags) → ¬ flags.Has .noFormatCheck) →
        ∀ f ∈ entered events, s.Carries f)
      ∧ ∀ f ∈ entered events, f.media = media ∧ f.IsConsistent := by
  intro s events
  constructor
  · intro samples compared
    refine forall_entered (fun _ _ _ _ _ change carried => change.carries carried) ?_
    intro s' sound kind op among f flags offered admitted
    have asked := compared op among f flags offered
    exact carries_of_admitted sound (kind.trans samples) asked admitted
  · refine forall_entered (P := fun _ f => f.media = media ∧ f.IsConsistent)
      (fun _ _ _ _ _ _ agrees => agrees) ?_
    intro s' sound kind op _ f flags _ admitted
    exact kind ▸ media_eq_of_admitted sound admitted

/-- A stream of two channels takes a stereo layout under a block that waits, and then gets a block
with that layout. -/
def lateLayout : List Op :=
  [ .configure (.audio { sampleRate := 8000, sampleFormat := some .s16, channels := 2 }),
    .push (.audio (.ofCount 4 .s16 8000 2)) {},
    .configureLink { media := .audio, layout := some ⟨3, by decide⟩ },
    .push (.audio (.ofLayout 4 .s16 8000 ⟨3, by decide⟩)) {},
    .pop ]

theorem lateLayout_conforms :
    entered ((fresh "mic" .audio).run lateLayout).2
        = [.audio (.ofCount 4 .s16 8000 2), .audio (.ofLayout 4 .s16 8000 ⟨3, by decide⟩)]
      ∧ ∀ f ∈ entered ((fresh "mic" .audio).run lateLayout).2,
        ((fresh "mic" .audio).run lateLayout).1.Carries f := by
  have compared : ∀ op ∈ lateLayout, ∀ f flags, op.offered? = some (f, flags) →
      ¬ flags.Has .noFormatCheck := by
    intro op among f flags offered
    simp only [lateLayout, List.mem_cons, List.not_mem_nil, or_false] at among
    rcases among with rfl | rfl | rfl | rfl | rfl
    all_goals cases offered
    all_goals decide
  exact ⟨by decide, (entered_conforms "mic" .audio lateLayout).1 rfl compared⟩

end Source

end FrameIngest
