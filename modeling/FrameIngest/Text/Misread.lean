/-
FrameIngest.Text.Misread — texts that name nothing.

A fraction, a format and a layout are each read from a text of their own; when
that fails, the error names the kind of thing looked for and the trimmed text.
-/

namespace FrameIngest.Text

/-- A text that is not the kind of thing it was read as. -/
inductive Misread where
  | fraction (text : String)
  | format (text : String)
  | layout (text : String)
  deriving DecidableEq, Repr

/-- The wording of the error. -/
def Misread.message : Misread → String
  | .fraction text => s!"invalid rational '{text}'"
  | .format text => s!"unknown format '{text}'"
  | .layout text => s!"invalid channel layout '{text}'"

end FrameIngest.Text
