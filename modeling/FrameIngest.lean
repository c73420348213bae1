import FrameIngest.Feed.Admission
import FrameIngest.Feed.Delivery
import FrameIngest.Feed.Fault
import FrameIngest.Feed.Intake
import FrameIngest.Feed.Linking
import FrameIngest.Feed.Notice
import FrameIngest.Feed.Outcome
import FrameIngest.Feed.Queue
import FrameIngest.Feed.Run
import FrameIngest.Feed.Settlement
import FrameIngest.Feed.Sink
import FrameIngest.Feed.Source
import FrameIngest.Fraction
import FrameIngest.Fraction.Reading
import FrameIngest.Frame
import FrameIngest.Media
import FrameIngest.Picture.Format
import FrameIngest.Picture.Size
import FrameIngest.Sound.Format
import FrameIngest.Sound.Layout
import FrameIngest.Sound.Layout.Notation
import FrameIngest.Sound.Speaker
import FrameIngest.Stream.Descriptor
import FrameIngest.Stream.Link
import FrameIngest.Stream.Options
import FrameIngest.Stream.Params
import FrameIngest.Stream.SetupError
import FrameIngest.Text.Blank
import FrameIngest.Text.Misread
import FrameIngest.Text.Numeral
import FrameIngest.Text.Printable
import FrameIngest.Text.Quoted
import FrameIngest.Text.Split
import FrameIngest.Word
import FrameIngest.Proofs.Feed.Commitment
import FrameIngest.Proofs.Feed.Conformity
import FrameIngest.Proofs.Feed.Conservation
import FrameIngest.Proofs.Feed.Delivery
import FrameIngest.Proofs.Feed.Notice
import FrameIngest.Proofs.Feed.Objection
import FrameIngest.Proofs.Feed.Refusal
import FrameIngest.Proofs.Feed.Transition
import FrameIngest.Proofs.Stream.WellFormed
import FrameIngest.Proofs.Feed.Lifecycle
import FrameIngest.Proofs.Feed.Announcement
import FrameIngest.Proofs.Feed.Linkage
import FrameIngest.Proofs.Feed.Separation
import FrameIngest.Proofs.Text.Numeral
import FrameIngest.Proofs.Fraction.Written
import FrameIngest.Proofs.Sound.Notation
import FrameIngest.Proofs.Picture.Written
import FrameIngest.Proofs.Stream.OptionText
import FrameIngest.Proofs.Stream.VideoForms
import FrameIngest.Proofs.Feed.Agreement
import FrameIngest.Proofs.Feed.Acceptance
import FrameIngest.Proofs.Feed.Readmission
import FrameIngest.Proofs.Feed.Handover
import FrameIngest.Proofs.Fraction.Lowest
import FrameIngest.Proofs.Text.Literal
import FrameIngest.Proofs.Fraction.Grammar
import FrameIngest.Proofs.Fraction.Reduction
import FrameIngest.Proofs.Fraction.Spellings
import FrameIngest.Proofs.Picture.Planes
import FrameIngest.Proofs.Feed.Backlog
import FrameIngest.Proofs.Feed.Forecast
import FrameIngest.Proofs.Stream.Usable
import FrameIngest.Proofs.Sound.Union
import FrameIngest.Proofs.Stream.OptionReader
import FrameIngest.Proofs.Stream.Piecewise
import FrameIngest.Proofs.Feed.Logbook
import FrameIngest.Proofs.Stream.SizeForms
import FrameIngest.Proofs.Feed.Indifference
