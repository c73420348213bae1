/-
FrameIngest.Feed.Linking — a source and the link it feeds.

* `negotiate` — offer the format of the stream on a link;
* `configureLink` — write the properties of the stream onto a link, once and
  before the first frame leaves.
-/
import FrameIngest.Feed.Settlement
import FrameIngest.Feed.Source

namespace FrameIngest.Source

/-- Offer the format of the stream on a link. -/
def negotiate (s : Source) (link : Link) : Outcome Link Unit :=
  match s.descriptor with
  | none => .refuse (.notConfigured s.name) link
  | some d => link.negotiate d

/-- Write the properties of the stream onto a link, whose layout the stream may adopt. -/
def configureLink (s : Source) (link : Link) : Outcome (Source × Link) Unit :=
  if s.framesEmitted then .refuse (.linkTooLate s.name) (s, link)
  else
    match s.descriptor with
    | none => .refuse (.notConfigured s.name) (s, link)
    | some d =>
      if s.linkConfigured then .refuse (.linkTwice s.name) (s, link)
      else
        let o := d.settle link
        match o.result with
        | .error e => { result := .error e, state := (s, link), notices := o.notices }
        | .ok _ =>
          { result := .ok (),
            state := ({ s with descriptor := some o.state.1, linkConfigured := true }, o.state.2),
            notices := o.notices }

end FrameIngest.Source
