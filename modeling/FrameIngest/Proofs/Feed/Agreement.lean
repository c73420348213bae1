/-
FrameIngest.Proofs.Feed.Agreement — what a stream writes onto its link is what it offered.

A stream offers its own format and no other. Whatever layout the graph then
puts on the link, a stream that comes to terms with the link leaves it within
the offer (`admits_offer`). Where only a count of channels was offered, the
stream and the link have the same layout from then on, and a new offer names
it (`offer_resolved`). A link that carries a stream is left as it is when the
stream is written onto it again (`settle_onto`).

* `Offer.IsSingle` — one candidate of each sort;
* `Offer.Admits` — what a link may be under an offer;
* `Offer.narrowed` — the offer once a layout is settled on;
* `negotiate_settle_agree` — the offer and the written link, side by side.
-/
import FrameIngest.Proofs.Feed.Linkage

namespace FrameIngest

/-! ## Offers -/

namespace ChannelSpec

/-- The layout of a link is the known one; or, where only a count is known, it is one of as many
channels, if there is a layout at all. -/
def Admits (layout : Option Layout) : ChannelSpec → Prop
  | .layout l => layout = some l
  | .count n => ∀ l ∈ layout, l.channels = n

/-- What is known once a layout is settled on. -/
def narrowed (settled : Option Layout) : ChannelSpec → ChannelSpec
  | .layout l => .layout l
  | .count n => settled.elim (.count n) .layout

end ChannelSpec

namespace Offer

/-- Each list has exactly one candidate. -/
def IsSingle : Offer → Prop
  | .video formats => formats.length = 1
  | .audio formats rates specs => formats.length = 1 ∧ rates.length = 1 ∧ specs.length = 1

/-- The link is within the offer. A link of pictures has no property that an offer restricts. -/
def Admits (link : Link) : Offer → Prop
  | .video _ => True
  | .audio _ rates specs =>
    link.sampleRate ∈ rates
      ∧ ∃ spec ∈ specs, link.channels = spec.channels ∧ spec.Admits link.layout

/-- The offer once a layout is settled on. -/
def narrowed (settled : Option Layout) : Offer → Offer
  | .video formats => .video formats
  | .audio formats rates specs => .audio formats rates (specs.map (·.narrowed settled))

end Offer

namespace Descriptor

variable {d : Descriptor} {link : Link}

/-- A layout of the stream has as many channels as the stream. -/
def IsConsistent : Descriptor → Prop
  | .video _ => True
  | .audio d => d.IsConsistent

theorem isSingle_offer (d : Descriptor) : d.offer.IsSingle := by
  cases d with
  | video d => rfl
  | audio d => exact ⟨rfl, rfl, rfl⟩

theorem media_resolved (d : Descriptor) (proposed : Option Layout) :
    (d.resolved proposed).media = d.media := by
  cases d <;> rfl

theorem media_onto (d : Descriptor) (link : Link) : (d.onto link).media = link.media := by
  cases d <;> rfl

/-- A stream that has taken a layout from its link offers that layout, and else what it offered
before. -/
theorem offer_resolved (d : Descriptor) (link : Link) :
    (d.resolved link.layout).offer
      = d.offer.narrowed ((d.resolved link.layout).onto link).layout := by
  cases d with
  | video d => rfl
  | audio d =>
    obtain ⟨rate, format, layout, channels, base⟩ := d
    cases layout with
    | some l => rfl
    | none =>
      cases named : link.layout <;>
        simp [resolved, offer, AudioDescriptor.spec, onto, Link.withAudio, Offer.narrowed,
          ChannelSpec.narrowed]

/-- A stream written onto a link that suits it stays within its offer. -/
theorem admits_offer (consistent : d.IsConsistent) (suits : d.Suits link) :
    d.offer.Admits ((d.resolved link.layout).onto link) := by
  cases d with
  | video d => trivial
  | audio d =>
    refine ⟨List.mem_singleton_self _, d.spec, List.mem_singleton_self _, ?_⟩
    cases own : d.layout with
    | some l =>
      have counts : d.channels = l.channels := (consistent l own).symm
      simpa [AudioDescriptor.spec, own, ChannelSpec.channels, ChannelSpec.Admits, resolved, onto,
        Link.withAudio] using counts
    | none =>
      have agrees : ∀ l ∈ link.layout, l.channels = d.channels := fun l => suits.2 d l rfl own
      simpa [AudioDescriptor.spec, own, ChannelSpec.channels, ChannelSpec.Admits, resolved, onto,
        Link.withAudio] using agrees

/-! ## Negotiation -/

/-- A stream offers its format on a link of its kind, and changes nothing else. -/
theorem negotiate_of_media_eq (kind : link.media = d.media) :
    (link.negotiate d).result = .ok ()
      ∧ (link.negotiate d).state = { link with offer := some d.offer } := by
  simp [Link.negotiate, Link.checkMedia, kind]

/-- A stream offers nothing on a link of the other kind. -/
theorem negotiate_of_media_ne (kind : link.media ≠ d.media) :
    (link.negotiate d).result = .error (.invalidArgument (.linkMedia d.media link.media))
      ∧ (link.negotiate d).state = link := by
  simp [Link.negotiate, Link.checkMedia, kind, Logged.refuse]

/-! ## Settlement -/

theorem settle_of_suits (suits : d.Suits link) :
    (d.settle link).result = .ok ()
      ∧ (d.settle link).state
        = (d.resolved link.layout, (d.resolved link.layout).onto link) := by
  simp [settle, settled_of_suits suits]

theorem suits_of_settle (succeeded : (d.settle link).result = .ok ()) : d.Suits link := by
  refine Classical.byContradiction fun unfit => ?_
  obtain ⟨e, refused⟩ := settled_of_not_suits unfit
  simp [settle, refused] at succeeded

/-- A stream is not written onto a link of the other kind, and both stay as they are. -/
theorem settle_of_media_ne (kind : link.media ≠ d.media) :
    (d.settle link).result = .error (.invalidArgument (.linkMedia d.media link.media))
      ∧ (d.settle link).state = (d, link) := by
  have refused : (d.settled link).result
      = .error (.invalidArgument (.linkMedia d.media link.media)) := by
    unfold settled
    rw [Logged.result_bind]
    simp [Link.checkMedia, kind, Logged.refuse, Except.bind]
  simp [settle, refused]

/-- A stream is written onto a link that carries it without a change. -/
theorem settle_onto (kind : link.media = d.media) :
    (d.settle (d.onto link)).result = .ok ()
      ∧ (d.settle (d.onto link)).state = (d, d.onto link) := by
  cases d with
  | video d => exact settle_of_suits ⟨kind, fun _ _ same => by cases same⟩
  | audio d =>
    have suits : (Descriptor.audio d).Suits ((Descriptor.audio d).onto link) := by
      refine ⟨kind, fun a l same blank named => ?_⟩
      cases same
      cases blank.symm.trans named
    have kept : (Descriptor.audio d).resolved ((Descriptor.audio d).onto link).layout
        = .audio d := by
      simp [resolved, onto, Link.withAudio]
    have settled := settle_of_suits suits
    rw [kept] at settled
    exact settled

/-- **The offer and the written link agree.** On a link of its kind, a stream offers one candidate
of each sort. If the graph then puts any layout, or none, on the link and the stream is written
onto it, the link is within the offer, has the layout of the stream, and is offered that layout
from then on; to write the stream onto it again changes nothing. On a link of the other kind both
operations fail, and change nothing. -/
theorem negotiate_settle_agree (d : Descriptor) (link : Link) (consistent : d.IsConsistent) :
    (link.media = d.media →
      d.offer.IsSingle
        ∧ (link.negotiate d).result = .ok ()
        ∧ (link.negotiate d).state = { link with offer := some d.offer }
        ∧ ∀ (proposed : Option Layout) (d' : Descriptor) (link' : Link),
          (d.settle { (link.negotiate d).state with layout := proposed }).result = .ok () →
          (d.settle { (link.negotiate d).state with layout := proposed }).state = (d', link') →
            d.offer.Admits link'
              ∧ (∀ a, d = .audio a → ∃ a', d' = .audio a' ∧ link'.layout = a'.layout)
              ∧ (link'.negotiate d').result = .ok ()
              ∧ (link'.negotiate d').state
                = { link' with offer := some (d.offer.narrowed link'.layout) }
              ∧ (d'.settle link').result = .ok ()
              ∧ (d'.settle link').state = (d', link'))
      ∧ (link.media ≠ d.media →
        ((∃ e, (link.negotiate d).result = .error e) ∧ (link.negotiate d).state = link)
          ∧ (∃ e, (d.settle link).result = .error e) ∧ (d.settle link).state = (d, link)) := by
  constructor
  · intro kind
    obtain ⟨offered, offering⟩ := negotiate_of_media_eq kind
    refine ⟨d.isSingle_offer, offered, offering, fun proposed d' link' succeeded reached => ?_⟩
    rw [offering] at succeeded reached
    have suits := suits_of_settle succeeded
    obtain ⟨rfl, rfl⟩ := Prod.mk.inj ((settle_of_suits suits).2.symm.trans reached)
    have kind' := suits.1.trans (media_resolved d proposed).symm
    obtain ⟨offeredAgain, offeringAgain⟩ :=
      negotiate_of_media_eq ((media_onto (d.resolved proposed) _).trans kind')
    obtain ⟨settledAgain, kept⟩ := settle_onto kind'
    refine ⟨admits_offer consistent suits, fun a same => ?_, offeredAgain, ?_, settledAgain, kept⟩
    · subst same
      exact ⟨_, rfl, rfl⟩
    · rw [offeringAgain, ← offer_resolved]
  · intro kind
    obtain ⟨unoffered, same⟩ := negotiate_of_media_ne kind
    obtain ⟨refused, kept⟩ := settle_of_media_ne kind
    exact ⟨⟨⟨_, unoffered⟩, same⟩, ⟨_, refused⟩, kept⟩

/-- A stream of which only the count of channels is known. -/
def twoChannels : Descriptor :=
  .audio { sampleRate := 44100, sampleFormat := .fltp, channels := 2, timeBase := ⟨1, 44100⟩ }

/-- The stream, once its link has settled on a left and a right speaker. -/
def twoSpeakers : Descriptor := twoChannels.resolved (Layout.ofMask? 3)

theorem twoSpeakers_agree :
    twoChannels.IsConsistent
      ∧ ∃ link' : Link, link'.layout = Layout.ofMask? 3
        ∧ twoChannels.offer = .audio [.fltp] [44100] [.count 2]
        ∧ twoChannels.offer.Admits link'
        ∧ (link'.negotiate twoSpeakers).state
          = { link' with offer := some (.audio [.fltp] [44100] [.layout ⟨3, by decide⟩]) }
        ∧ (twoSpeakers.settle link').state = (twoSpeakers, link') := by
  have consistent : twoChannels.IsConsistent := nofun
  obtain ⟨_, _, offering, settling⟩ :=
    (negotiate_settle_agree twoChannels { media := .audio } consistent).1 rfl
  obtain ⟨within, _, _, renewed, _, kept⟩ :=
    settling (Layout.ofMask? 3) twoSpeakers _ (by rw [offering]; rfl) (by rw [offering]; rfl)
  exact ⟨consistent, _, rfl, rfl, within, renewed, kept⟩

end Descriptor

end FrameIngest
