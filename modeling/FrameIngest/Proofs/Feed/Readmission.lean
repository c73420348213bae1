/-
FrameIngest.Proofs.Feed.Readmission — the blocks that are accepted before and after a link.

Between two pushes a link may be configured, and a stream that knew only its
count of channels may take the layout of the link. The blocks that such a
stream accepted until then name no layout, and are refused from then on: to a
stream with a layout, a block without one is a block of another format. What is
accepted in their place are the same blocks with the layout that was taken. A
link that brings no layout to the stream makes no difference to its blocks
(`readmitted_unless_layout_taken`).
-/
import FrameIngest.Proofs.Feed.Acceptance
import FrameIngest.Proofs.Feed.Linkage

namespace FrameIngest

namespace AudioDescriptor

variable {d : AudioDescriptor} {a : AudioFrame} {link : Link}

/-- The stream once it has come to terms with a link: with its own layout or else that of the
link. -/
def beside (d : AudioDescriptor) (link : Link) : AudioDescriptor :=
  { d with layout := d.layout.or link.layout }

/-- A link that suits the stream has no layout of another count to give. -/
theorem isConsistent_beside (suits : (Descriptor.audio d).Suits link)
    (consistent : d.IsConsistent) : (d.beside link).IsConsistent := by
  intro l named
  cases own : d.layout with
  | none =>
    have given : link.layout = some l := by simpa [beside, own] using named
    exact suits.2 d l rfl own given
  | some l' =>
    have same : l' = l := by simpa [beside, own] using named
    exact same ▸ consistent l' own

/-- The stream with a layout of its own, or beside a link that has none, is as it was. -/
theorem beside_eq_self (kept : ∀ l, d.layout = none → link.layout ≠ some l) :
    d.beside link = d := by
  have same : d.layout.or link.layout = d.layout := by
    cases own : d.layout with
    | none => exact Option.eq_none_iff_forall_ne_some.mpr fun l => kept l own
    | some l => rfl
  rw [beside, same]

end AudioDescriptor

namespace Source

variable {s : Source} {link : Link} {d : AudioDescriptor} {a : AudioFrame}

/-- A source of samples that configures a link has the stream beside that link from then on. -/
theorem configureLink_of_audio (succeeded : (s.configureLink link).result = .ok ())
    (described : s.descriptor = some (.audio d)) :
    (Descriptor.audio d).Suits link
      ∧ (s.configureLink link).state.1
        = { s with descriptor := some (.audio (d.beside link)), linkConfigured := true } := by
  obtain ⟨early, first, d', described', suits⟩ := configureLink_ok_iff.mp succeeded
  cases described'.symm.trans described
  exact ⟨suits, congrArg Prod.fst (configureLink_of_suits early described' first suits).2⟩

/-- A source that accepts a block without flags is one of samples, and is not over. -/
theorem exists_audio_of_push (accepted : (s.push (.audio a) {}).result = .ok ()) :
    ∃ d, s.descriptor = some (.audio d) ∧ ¬ s.queue.IsEnded := by
  have admitted := (push_ok_iff_admitted (by decide)).mp accepted
  have before := Objection.noneBefore_of_clear (admission_ok_iff.mp admitted) 6
  obtain ⟨d, described⟩ := before.exists_descriptor (by decide)
  have kind : d.media = .audio := before.media_eq (by decide) described
  cases d with
  | video _ => cases kind
  | audio d => exact ⟨d, described, before.not_isEnded (by decide)⟩

/-- A block that agrees with its own layout but differs from the stream is told to differ. -/
theorem push_of_differs (described : s.descriptor = some (.audio d)) (calm : ¬ s.queue.IsEnded)
    (own : a.IsConsistent) (differs : d.Differs a) :
    (s.push (.audio a) {}).result = .error (.invalidArgument .audioDrift) := by
  have compared : ¬ ({} : PushFlags).Has .noFormatCheck := by decide
  have first : Objection.IsFirst s (.audio a) {} .otherFormat (.invalidArgument .audioDrift) := by
    refine ⟨.otherFormat compared described rfl differs, fun o e stands => ?_⟩
    cases stands with
    | layoutConflict audio named differ =>
      cases audio
      exact absurd (own _ named) differ
    | streamOver ended => exact absurd ended calm
    | notConfigured blank => cases blank.symm.trans described
    | otherMedia described' differ =>
      cases described'.symm.trans described
      exact absurd rfl differ
    | otherFormat _ _ _ _ => exact Nat.le_refl _
    | noSink _ _ => exact Nat.le_succ _
  rw [push_of_error (admission_of_isFirst first)]

/-- The stream of the source has no layout and the link has this one. -/
def TakesLayout (s : Source) (link : Link) (l : Layout) : Prop :=
  ∃ d, s.descriptor = some (.audio d) ∧ d.layout = none ∧ link.layout = some l

/-- **Readmission.** After any run of a new source, take a block that is accepted when it is pushed
without flags, and a link that is configured with success. If the stream has a layout or the link
has none, the block is accepted afterwards as well. If the stream takes the layout of the link, the
block, which names none, is refused afterwards for its format, and with that layout it is accepted.
-/
theorem readmitted_unless_layout_taken (name : String) (media : Media) (ops : List Op)
    (link : Link) (a : AudioFrame) :
    let s := ((fresh name media).run ops).1
    let s' := (s.configureLink link).state.1
    (s.push (.audio a) {}).result = .ok () → (s.configureLink link).result = .ok () →
      ((∀ l, ¬ s.TakesLayout link l) → (s'.push (.audio a) {}).result = .ok ())
        ∧ ∀ l, s.TakesLayout link l →
          a.layout = none
            ∧ (s'.push (.audio a) {}).result = .error (.invalidArgument .audioDrift)
            ∧ (s'.push (.audio { a with layout := some l }) {}).result = .ok () := by
  intro s s' accepted configured
  obtain ⟨d, described, calm⟩ := exists_audio_of_push accepted
  have consistent : d.IsConsistent := isConsistent_run described
  have block : d.Describes a := (push_ok_iff_describes consistent described calm).mp accepted
  obtain ⟨suits, reached⟩ := configureLink_of_audio configured described
  have described' : s'.descriptor = some (.audio (d.beside link)) := congrArg descriptor reached
  have calm' : ¬ s'.queue.IsEnded := by rwa [congrArg queue reached]
  have consistent' := AudioDescriptor.isConsistent_beside suits consistent
  constructor
  · intro kept
    have same : d.beside link = d :=
      AudioDescriptor.beside_eq_self fun l blank given => kept l ⟨d, described, blank, given⟩
    exact (push_ok_iff_describes consistent' described' calm').mpr (same.symm ▸ block)
  · rintro l ⟨d', described'', blank, given⟩
    cases described''.symm.trans described
    have taken : (d.beside link).layout = some l := by simp [AudioDescriptor.beside, blank, given]
    have unnamed : a.layout = none := block.layout_eq.trans blank
    refine ⟨unnamed, ?_, ?_⟩
    · have differs : (d.beside link).Differs a := by
        refine .inr (.inr (.inl ?_))
        rw [taken, unnamed]
        exact Option.some_ne_none l
      exact push_of_differs described' calm' (block.isConsistent consistent) differs
    · refine (push_ok_iff_describes consistent' described' calm').mpr ?_
      exact ⟨block.format_eq, block.rate_eq, taken.symm, block.channels_eq⟩

/-- A block of two channels that names no layout. -/
def twoChannelBlock : AudioFrame := .ofCount 4 .s16 8000 2

/-- The block is accepted until the stream takes the layout of a stereo link, and refused then. -/
theorem twoChannelBlock_readmitted_named :
    let s := ((fresh "mic" .audio).run countStream).1
    let s' := (s.configureLink stereoLink).state.1
    (s.push (.audio twoChannelBlock) {}).result = .ok ()
      ∧ (s.configureLink stereoLink).result = .ok ()
      ∧ s.TakesLayout stereoLink ⟨3, by decide⟩
      ∧ (s'.push (.audio twoChannelBlock) {}).result = .error (.invalidArgument .audioDrift)
      ∧ (s'.push (.audio { twoChannelBlock with layout := some ⟨3, by decide⟩ }) {}).result
        = .ok () := by
  intro s s'
  have accepted : (s.push (.audio twoChannelBlock) {}).result = .ok () := rfl
  have configured : (s.configureLink stereoLink).result = .ok () := rfl
  have takes : s.TakesLayout stereoLink ⟨3, by decide⟩ := ⟨_, rfl, rfl, rfl⟩
  obtain ⟨_, refused, renamed⟩ :=
    (readmitted_unless_layout_taken "mic" .audio countStream stereoLink twoChannelBlock
      accepted configured).2 _ takes
  exact ⟨accepted, configured, takes, refused, renamed⟩

/-- Not every block that is accepted is accepted again once a link is configured. -/
theorem accepted_block_shut_out :
    ¬ ∀ (name : String) (media : Media) (ops : List Op) (link : Link) (a : AudioFrame),
      let s := ((fresh name media).run ops).1
      (s.push (.audio a) {}).result = .ok () → (s.configureLink link).result = .ok () →
        ((s.configureLink link).state.1.push (.audio a) {}).result = .ok () := by
  intro readmitted
  have again := readmitted "mic" .audio (countStream ++ [.push (.audio twoChannelBlock) {}])
    stereoLink twoChannelBlock rfl rfl
  cases again

end Source

end FrameIngest
