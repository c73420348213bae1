/-
FrameIngest.Media — the two kinds of media.
-/

namespace FrameIngest

/-- What a stream, a frame or a link carries. -/
inductive Media where
  /-- Pictures. -/
  | video
  /-- Blocks of samples. -/
  | audio
  deriving DecidableEq, Repr

namespace Media

/-- The word used in messages. -/
def name : Media → String
  | .video => "video"
  | .audio => "audio"

instance : ToString Media := ⟨name⟩

/-- The word used in debug texts. -/
def tag : Media → String
  | .video => "Video"
  | .audio => "Audio"

end Media

end FrameIngest
