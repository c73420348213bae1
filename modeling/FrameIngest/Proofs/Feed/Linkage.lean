/-
FrameIngest.Proofs.Feed.Linkage — a link is configured once, before the first frame, and whole.

A link suits a stream if it is of the same kind and, where the stream has no
layout but the link has one, that is one of as many channels. The properties of
the stream are then written onto the link, after the stream has taken the
layout of the link in place of none (`settled_of_suits`); otherwise nothing is
written (`settled_of_not_suits`).

A source offers itself for this until a link is configured or a frame leaves
it. `link_configured_once` ties that to what happened in the run: whether a
link can be configured depends on nothing but the descriptor, the link, the
frames that left and the links that were configured.

* `Descriptor.Suits`, `resolved`, `onto`, `Written` — stream and link;
* `links` — the operations that configure a link.
-/
import FrameIngest.Proofs.Feed.Commitment

namespace FrameIngest

/-! ## A stream and a link -/

namespace Descriptor

/-- The link is of the kind of the stream; where it has a layout and a stream of samples has none,
the layout is one of as many channels as the stream. -/
def Suits (d : Descriptor) (link : Link) : Prop :=
  link.media = d.media
    ∧ ∀ a l, d = .audio a → a.layout = none → link.layout = some l → l.channels = a.channels

/-- The stream with the layout that is proposed, unless it has its own. -/
def resolved (proposed : Option Layout) : Descriptor → Descriptor
  | .video d => .video d
  | .audio d => .audio { d with layout := d.layout.or proposed }

/-- The link with the properties of the stream. -/
def onto (link : Link) : Descriptor → Link
  | .video d => link.withVideo d
  | .audio d => link.withAudio d

/-- `link'` has the properties of the stream, and is `link` in all else. -/
def Written (link link' : Link) : Descriptor → Prop
  | .video d =>
    (link'.width = d.width ∧ link'.height = d.height ∧ link'.sampleAspect = d.sampleAspect
        ∧ link'.frameRate = d.frameRate ∧ link'.timeBase = d.timeBase)
      ∧ link'.media = link.media ∧ link'.offer = link.offer
      ∧ link'.layout = link.layout ∧ link'.channels = link.channels
      ∧ link'.sampleRate = link.sampleRate
  | .audio d =>
    (link'.layout = d.layout ∧ link'.channels = d.channels ∧ link'.sampleRate = d.sampleRate
        ∧ link'.timeBase = d.timeBase)
      ∧ link'.media = link.media ∧ link'.offer = link.offer
      ∧ link'.width = link.width ∧ link'.height = link.height
      ∧ link'.sampleAspect = link.sampleAspect ∧ link'.frameRate = link.frameRate

theorem written_onto (link : Link) (d : Descriptor) : d.Written link (d.onto link) := by
  cases d with
  | video d => exact ⟨⟨rfl, rfl, rfl, rfl, rfl⟩, rfl, rfl, rfl, rfl, rfl⟩
  | audio d => exact ⟨⟨rfl, rfl, rfl, rfl⟩, rfl, rfl, rfl, rfl, rfl, rfl⟩

end Descriptor

namespace AudioDescriptor

variable {d : AudioDescriptor} {proposed : Option Layout}

/-- A layout is proposed to a stream without one, and is not one of as many channels. -/
def Conflicts (d : AudioDescriptor) (proposed : Option Layout) : Prop :=
  ∃ l, d.layout = none ∧ proposed = some l ∧ l.channels ≠ d.channels

theorem adopt_of_conflicts (h : d.Conflicts proposed) :
    ∃ e, (d.adopt proposed).result = .error e := by
  obtain ⟨l, blank, rfl, differ⟩ := h
  exact ⟨_, by simp [adopt, blank, differ, Logged.refuse]; rfl⟩

theorem adopt_of_not_conflicts (h : ¬ d.Conflicts proposed) :
    (d.adopt proposed).result = .ok { d with layout := d.layout.or proposed } := by
  obtain ⟨rate, format, layout, channels, base⟩ := d
  cases layout with
  | some l => rfl
  | none =>
    cases proposed with
    | none => rfl
    | some l =>
      have agrees : l.channels = channels :=
        Decidable.by_contra fun differ => h ⟨l, rfl, rfl, differ⟩
      simp [adopt, agrees]

end AudioDescriptor

namespace Descriptor

variable {d : Descriptor} {link : Link}

theorem suits_audio_iff {a : AudioDescriptor} :
    (Descriptor.audio a).Suits link ↔ link.media = .audio ∧ ¬ a.Conflicts link.layout := by
  constructor
  · rintro ⟨kind, counts⟩
    refine ⟨kind, ?_⟩
    rintro ⟨l, blank, named, differ⟩
    exact differ (counts a l rfl blank named)
  · rintro ⟨kind, agrees⟩
    refine ⟨kind, fun a' l same blank named => ?_⟩
    cases same
    exact Decidable.by_contra fun differ => agrees ⟨l, blank, named, differ⟩

/-- A stream and a link that suits it come to terms. -/
theorem settled_of_suits (suits : d.Suits link) :
    (d.settled link).result = .ok (d.resolved link.layout, (d.resolved link.layout).onto link) := by
  have checked : (link.checkMedia d).result = .ok () := by simp [Link.checkMedia, suits.1]
  unfold settled
  rw [Logged.result_bind, checked]
  cases d with
  | video d => rfl
  | audio d =>
    have adopted := AudioDescriptor.adopt_of_not_conflicts (suits_audio_iff.mp suits).2
    simp only [Except.bind, Logged.result_bind, adopted]
    rfl

/-- A stream and a link that does not suit it do not. -/
theorem settled_of_not_suits (unfit : ¬ d.Suits link) :
    ∃ e, (d.settled link).result = .error e := by
  unfold settled
  rw [Logged.result_bind]
  by_cases kind : link.media = d.media
  · have checked : (link.checkMedia d).result = .ok () := by simp [Link.checkMedia, kind]
    rw [checked]
    cases d with
    | video d => exact absurd ⟨kind, fun _ _ same => by cases same⟩ unfit
    | audio d =>
      have conflicts : d.Conflicts link.layout :=
        Classical.byContradiction fun agrees => unfit (suits_audio_iff.mpr ⟨kind, agrees⟩)
      obtain ⟨e, refused⟩ := AudioDescriptor.adopt_of_conflicts conflicts
      simp only [Except.bind, Logged.result_bind, refused]
      exact ⟨e, rfl⟩
  · simp only [Link.checkMedia, kind, Logged.refuse, Except.bind]
    exact ⟨_, rfl⟩

end Descriptor

/-! ## One operation -/

namespace Source

variable {s : Source} {link : Link} {d : Descriptor}

/-- A source configures a link if no frame has left, it has a descriptor, no link is configured
yet and the link suits the stream. -/
theorem configureLink_of_suits (early : s.framesEmitted = false) (described : s.descriptor = some d)
    (first : s.linkConfigured = false) (suits : d.Suits link) :
    (s.configureLink link).result = .ok ()
      ∧ (s.configureLink link).state
        = ({ s with descriptor := some (d.resolved link.layout), linkConfigured := true },
           (d.resolved link.layout).onto link) := by
  have agreed := Descriptor.settled_of_suits suits
  simp [configureLink, early, described, first, Descriptor.settle, agreed]

/-- A source configures a link in no other case. -/
theorem configureLink_ok_iff :
    (s.configureLink link).result = .ok ()
      ↔ s.framesEmitted = false ∧ s.linkConfigured = false
        ∧ ∃ d, s.descriptor = some d ∧ d.Suits link := by
  constructor
  · intro succeeded
    cases early : s.framesEmitted with
    | true => simp [configureLink, early, Outcome.refuse, Outcome.fail] at succeeded
    | false =>
      cases described : s.descriptor with
      | none => simp [configureLink, early, described, Outcome.refuse, Outcome.fail] at succeeded
      | some d =>
        cases first : s.linkConfigured with
        | true =>
          simp [configureLink, early, described, first, Outcome.refuse, Outcome.fail] at succeeded
        | false =>
          refine ⟨rfl, rfl, d, rfl, Classical.byContradiction fun unfit => ?_⟩
          obtain ⟨e, refused⟩ := Descriptor.settled_of_not_suits unfit
          simp [configureLink, early, described, first, Descriptor.settle, refused] at succeeded
  · rintro ⟨early, first, d, described, suits⟩
    exact (configureLink_of_suits early described first suits).1

/-- The operation configures a link, with success. -/
def links (s : Source) : Op → Bool
  | .configureLink link => (s.configureLink link).result.isOk
  | _ => false

theorem links_configureLink_iff :
    s.links (.configureLink link) = true ↔ (s.configureLink link).result = .ok () := by
  cases result : (s.configureLink link).result <;> simp [links, result, Except.isOk, Except.toBool]

end Source

/-- Only a link that is configured marks the source. -/
theorem Transition.linkConfigured_eq {s s' : Source} {op : Op} {moves : List Move}
    (h : Transition s op moves s') (other : ∀ link, op ≠ .configureLink link) :
    s'.linkConfigured = s.linkConfigured := by
  cases h with
  | settled _ _ _ _ => exact absurd rfl (other _)
  | _ => rfl

namespace Source

variable {s : Source} {link : Link} {d : Descriptor}

/-- A source is marked once it configures a link, and by nothing else. -/
theorem linkConfigured_perform (s : Source) (op : Op) :
    (s.perform op).1.linkConfigured = (s.linkConfigured || s.links op) := by
  cases op with
  | configureLink link =>
    show (s.configureLink link).state.1.linkConfigured = _
    cases done : s.links (.configureLink link) with
    | true =>
      obtain ⟨early, first, d, described, suits⟩ :=
        configureLink_ok_iff.mp (links_configureLink_iff.mp done)
      rw [(configureLink_of_suits early described first suits).2, Bool.or_true]
    | false =>
      cases result : (s.configureLink link).result with
      | ok _ => cases (links_configureLink_iff.mpr result).symm.trans done
      | error e => rw [configureLink_of_error result, Bool.or_false]
  | _ =>
    rw [(s.perform_transition _).linkConfigured_eq fun _ same => by cases same]
    exact (Bool.or_false _).symm

/-- A link is configured only where none is yet. -/
theorem linkConfigured_of_links {op : Op} (done : s.links op = true) :
    s.linkConfigured = false := by
  cases op with
  | configureLink link => exact (configureLink_ok_iff.mp (links_configureLink_iff.mp done)).2.1
  | _ => cases done

/-- How many links can still be configured. -/
def linksLeft (s : Source) : Nat := (!s.linkConfigured).toNat

theorem links_pays (s : Source) (op : Op) :
    (s.links op).toNat + (s.perform op).1.linksLeft ≤ s.linksLeft := by
  unfold linksLeft
  rw [linkConfigured_perform]
  cases done : s.links op with
  | true =>
    rw [linkConfigured_of_links done]
    decide
  | false => simp

/-! ## Whole runs -/

/-- **One link, before the first frame, and whole.** After any run of a new source a link can be
configured exactly if no frame has left yet, no link was configured, and the source has a descriptor
which the link suits; a frame that was handed to a sink has left, also if the sink failed on it. So
at most one link is configured in a run. A link that is refused is as it was, and so is the source.
A link that is configured has the properties of the stream, and nothing else of it has changed; the
stream has its layout, if it had none, and is otherwise as it was. -/
theorem link_configured_once (name : String) (media : Media) (ops : List Op) :
    let s := ((fresh name media).run ops).1
    let events := ((fresh name media).run ops).2
    let configured := (fresh name media).tally links ops
    configured ≤ 1
      ∧ ∀ link,
        ((s.configureLink link).result = .ok ()
          ↔ left events = [] ∧ configured = 0 ∧ ∃ d, s.descriptor = some d ∧ d.Suits link)
        ∧ (∀ e, (s.configureLink link).result = .error e →
          (s.configureLink link).state = (s, link))
        ∧ ((s.configureLink link).result = .ok () →
          ∃ d link', s.descriptor = some d
            ∧ (s.configureLink link).state
              = ({ s with descriptor := some (d.resolved link.layout), linkConfigured := true },
                 link')
            ∧ (d.resolved link.layout).Written link link') := by
  intro s events configured
  have unlinked : s.linkConfigured = false ↔ configured = 0 := by
    have flag : s.linkConfigured = decide (0 < configured) :=
      flag_run linkConfigured_perform (fresh name media) ops
    rw [flag, decide_eq_false_iff_not, Nat.not_lt, Nat.le_zero]
  have early : s.framesEmitted = false ↔ left events = [] := by
    have moved := framesEmitted_run_iff (fresh name media) ops
    rw [← Bool.not_eq_true, moved]
    exact ⟨fun kept => Decidable.by_contra fun moved => kept (.inr moved),
      fun unmoved either => either.elim nofun fun moved => moved unmoved⟩
  refine ⟨tally_le links_pays _ ops, fun link => ⟨?_, fun e => configureLink_of_error, ?_⟩⟩
  · rw [configureLink_ok_iff, early, unlinked]
  · intro succeeded
    obtain ⟨unmoved, first, d, described, suits⟩ := configureLink_ok_iff.mp succeeded
    refine ⟨d, _, described, (configureLink_of_suits unmoved described first suits).2, ?_⟩
    exact Descriptor.written_onto link _

/-- A link of samples that has settled on one speaker, in the middle. -/
def monoLink : Link := { media := .audio, layout := Layout.ofMask? 4, channels := 1 }

/-- A link of samples that has settled on a left and a right speaker. -/
def stereoLink : Link := { media := .audio, layout := Layout.ofMask? 3, channels := 2 }

/-- A stream of two channels to which a mono link came. -/
def refusedLink : List Op :=
  [ .configure (.audio { sampleRate := 8000, sampleFormat := some .s16, channels := 2 }),
    .configureLink monoLink ]

/-- The mono link is refused again, and a stereo link can still be configured. -/
theorem refusedLink_leaves_room :
    let s := ((fresh "mic" .audio).run refusedLink).1
    ((s.configureLink monoLink).result
          = .error (.invalidArgument (.linkLayout ⟨4, by decide⟩ 2))
        ∧ (s.configureLink monoLink).state = (s, monoLink))
      ∧ (s.configureLink stereoLink).result = .ok ()
      ∧ ∃ d link', s.descriptor = some d
        ∧ (s.configureLink stereoLink).state
          = ({ s with descriptor := some (d.resolved stereoLink.layout), linkConfigured := true },
             link')
        ∧ (d.resolved stereoLink.layout).Written stereoLink link' := by
  intro s
  obtain ⟨_, each⟩ := link_configured_once "mic" .audio refusedLink
  obtain ⟨_, refusal, _⟩ := each monoLink
  obtain ⟨_, _, success⟩ := each stereoLink
  have refused : (s.configureLink monoLink).result
      = .error (.invalidArgument (.linkLayout ⟨4, by decide⟩ 2)) := rfl
  have configured : (s.configureLink stereoLink).result = .ok () := rfl
  exact ⟨⟨refused, refusal _ refused⟩, configured, success configured⟩

end Source

end FrameIngest
