/-
FrameIngest.Feed.Settlement — a stream and its link come to terms.

* `Link.negotiate` — the stream offers its format on the link;
* `AudioDescriptor.adopt` — a stream that knows only its count of channels
  takes the layout of the link, if the counts agree;
* `Descriptor.settle` — the stream's properties are written onto the link.
-/
import FrameIngest.Feed.Outcome
import FrameIngest.Stream.Link

namespace FrameIngest

/-- The link is of the kind of the stream. -/
def Link.checkMedia (link : Link) (d : Descriptor) : Logged Unit :=
  if link.media = d.media then pure () else .refuse (.linkMedia d.media link.media)

/-- Offer the stream's format on the link. -/
def Link.negotiate (link : Link) (d : Descriptor) : Outcome Link Unit :=
  let checked := link.checkMedia d
  match checked.result with
  | .ok _ =>
    { result := .ok (), state := { link with offer := some d.offer }, notices := checked.notices }
  | .error e => { result := .error e, state := link, notices := checked.notices }

/-- The stream with the layout of its link, if it has none of its own and the counts of channels
agree. -/
def AudioDescriptor.adopt (d : AudioDescriptor) (proposed : Option Layout) :
    Logged AudioDescriptor :=
  match d.layout, proposed with
  | none, some l =>
    if l.channels = d.channels then ⟨.ok { d with layout := some l }, [.layoutAdopted l]⟩
    else .refuse (.linkLayout l d.channels)
  | _, _ => pure d

/-- The stream and the link as they are once the link carries the stream. -/
def Descriptor.settled (d : Descriptor) (link : Link) : Logged (Descriptor × Link) := do
  link.checkMedia d
  match d with
  | .video d => return (.video d, link.withVideo d)
  | .audio d =>
    let d ← d.adopt link.layout
    return (.audio d, link.withAudio d)

/-- Write the stream's properties onto the link; a refusal leaves both as they are. -/
def Descriptor.settle (d : Descriptor) (link : Link) : Outcome (Descriptor × Link) Unit :=
  let settled := d.settled link
  match settled.result with
  | .ok state => { result := .ok (), state, notices := settled.notices }
  | .error e => { result := .error e, state := (d, link), notices := settled.notices }

end FrameIngest
