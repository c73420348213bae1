/-
FrameIngest.Proofs.Stream.VideoForms — the two forms of video parameters agree.

Seven texts can be given as bare fields, or as the values of five options with
a slash between the terms of a fraction. Both forms write the same parameters
(`Writes`): each text is read between blanks by the same reader. Blanks around
the whole text touch only the first and the last field or option, which are
trimmed again; and where a slash within a text makes the cut of a fraction fall
elsewhere, neither form is read.

* `VideoFields` — the seven texts, with the two forms;
* `parse_keyed_iff`, `parse_positional_iff` — what each form is read as;
* `forms_agree` — they are read alike.
-/
import FrameIngest.Proofs.Stream.OptionText

namespace FrameIngest

open Text

/-- Texts for a size, a pixel format, a time base and a pixel aspect. -/
structure VideoFields where
  width : String
  height : String
  format : String
  baseNum : String
  baseDen : String
  aspectNum : String
  aspectDen : String

namespace VideoFields

def toList (f : VideoFields) : List String :=
  [f.width, f.height, f.format, f.baseNum, f.baseDen, f.aspectNum, f.aspectDen]

/-- The texts as bare fields. -/
def positional (f : VideoFields) : String :=
  s!"{f.width}:{f.height}:{f.format}:{f.baseNum}:{f.baseDen}:{f.aspectNum}:{f.aspectDen}"

/-- The texts as options. -/
def keyed (f : VideoFields) : String :=
  s!"width={f.width}:height={f.height}:pix_fmt={f.format}:time_base={f.baseNum}/{f.baseDen}"
    ++ s!":pixel_aspect={f.aspectNum}/{f.aspectDen}"

/-- No text holds a mark of the option syntax. -/
def IsFree (f : VideoFields) : Prop := ∀ text ∈ f.toList, ':' ∉ text.toList ∧ '=' ∉ text.toList

instance (f : VideoFields) : Decidable f.IsFree :=
  inferInstanceAs (Decidable (∀ text ∈ f.toList, _))

/-- Each text, between blanks, is what the parameters have in its place. -/
def Writes (f : VideoFields) (p : VideoParams) : Prop :=
  ∃ width height format timeBase pixelAspect,
    readUInt32 (trim f.width.toList) = some width
      ∧ readUInt32 (trim f.height.toList) = some height
      ∧ PixelFormat.read? (trim f.format.toList) = some format
      ∧ Fraction.ofTerms? f.baseNum.toList f.baseDen.toList = some timeBase
      ∧ Fraction.ofTerms? f.aspectNum.toList f.aspectDen.toList = some pixelAspect
      ∧ p = { width, height, pixelFormat := some format, timeBase, pixelAspect }

variable {f : VideoFields} {p : VideoParams}

/-! ## Options -/

/-- The options of the keyed form. -/
def options (f : VideoFields) : List KeyValue :=
  [⟨"width", f.width.toList⟩, ⟨"height", f.height.toList⟩, ⟨"pix_fmt", f.format.toList⟩,
   ⟨"time_base", f.baseNum.toList ++ '/' :: f.baseDen.toList⟩,
   ⟨"pixel_aspect", f.aspectNum.toList ++ '/' :: f.aspectDen.toList⟩]

theorem keyed_eq (f : VideoFields) : f.keyed = optionText (f.options.map KeyValue.piece) := by
  rw [← String.toList_inj]
  -- The equation of `keyed` would have its literals evaluated, at great length.
  unfold keyed
  simp [optionText, options, KeyValue.piece, pieceOf, List.intercalate_cons_cons, toString]

theorem IsFree.isPlain (free : f.IsFree) : ∀ o ∈ f.options, o.IsPlain := by
  have keys : IsKey "width" ∧ IsKey "height" ∧ IsKey "pix_fmt" ∧ IsKey "time_base"
      ∧ IsKey "pixel_aspect" := by decide
  obtain ⟨width, height, format, timeBase, pixelAspect⟩ := keys
  have colon : ∀ text ∈ f.toList, ':' ∉ text.toList := fun text among => (free text among).1
  simp only [toList, List.forall_mem_cons] at colon
  obtain ⟨noWidth, noHeight, noFormat, noNum, noDen, noNum', noDen', _⟩ := colon
  simp only [options, List.forall_mem_cons]
  refine ⟨⟨width, noWidth⟩, ⟨height, noHeight⟩, ⟨format, noFormat⟩, ⟨timeBase, ?_⟩,
    ⟨pixelAspect, ?_⟩, nofun⟩
  · simp [noNum, noDen]
  · simp [noNum', noDen']

/-- The keyed form is read as what the texts write. -/
theorem parse_keyed_iff (free : f.IsFree) : VideoParams.parse f.keyed = .ok p ↔ f.Writes p := by
  have noColon : ∀ text ∈ f.toList, ':' ∉ text.toList := fun text among => (free text among).1
  have base : ':' ∉ f.baseNum.toList := noColon _ (by simp [toList])
  have aspect : ':' ∉ f.aspectNum.toList := noColon _ (by simp [toList])
  rw [keyed_eq, VideoParams.parse_options (by simp [options]) free.isPlain, map_eq_ok_iff]
  simp only [options, List.map_cons, List.map_nil, KeyValue.trimmed, mapM_cons_eq_ok_iff,
    mapM_nil_eq_ok_iff, VideoSetting.ofOption, map_eq_ok_iff, KeyValue.readWith_eq_ok_iff,
    KeyValue.readPixelFormat_eq_ok_iff, trim_trim, Fraction.read?_trim_slash base,
    Fraction.read?_trim_slash aspect]
  constructor
  · rintro ⟨settings, read, rfl⟩
    obtain ⟨_, ⟨width, widthRead, rfl⟩, _, read, rfl⟩ := read
    obtain ⟨_, ⟨height, heightRead, rfl⟩, _, read, rfl⟩ := read
    obtain ⟨_, ⟨format, formatRead, rfl⟩, _, read, rfl⟩ := read
    obtain ⟨_, ⟨timeBase, baseRead, rfl⟩, _, read, rfl⟩ := read
    obtain ⟨_, ⟨pixelAspect, aspectRead, rfl⟩, _, rfl, rfl⟩ := read
    exact ⟨width, height, format, timeBase, pixelAspect, widthRead, heightRead, formatRead,
      baseRead, aspectRead, rfl⟩
  · rintro ⟨width, height, format, timeBase, pixelAspect, widthRead, heightRead, formatRead,
      baseRead, aspectRead, rfl⟩
    refine ⟨[.width width, .height height, .pixelFormat format, .timeBase timeBase,
      .pixelAspect pixelAspect], ?_, rfl⟩
    refine ⟨_, ⟨width, widthRead, rfl⟩, _, ?_, rfl⟩
    refine ⟨_, ⟨height, heightRead, rfl⟩, _, ?_, rfl⟩
    refine ⟨_, ⟨format, formatRead, rfl⟩, _, ?_, rfl⟩
    refine ⟨_, ⟨timeBase, baseRead, rfl⟩, _, ?_, rfl⟩
    exact ⟨_, ⟨pixelAspect, aspectRead, rfl⟩, _, rfl, rfl⟩

/-! ## Fields -/

theorem positional_eq (f : VideoFields) :
    f.positional = optionText (f.toList.map String.toList) := by
  rw [← String.toList_inj]
  simp [positional, optionText, toList, List.intercalate_cons_cons, toString]

/-- The positional form is not taken for the keyed one. -/
theorem IsFree.not_isKeyed (free : f.IsFree) :
    ¬ VideoParams.IsKeyed (trim f.positional.toList) := by
  intro keyed
  have among := mem_of_mem_trim ((List.takeWhile_sublist _).subset keyed)
  rw [positional_eq, optionText, String.toList_ofList] at among
  rcases mem_intercalate among with same | ⟨field, within, holds⟩
  · exact absurd same (by decide)
  · obtain ⟨text, given, rfl⟩ := List.mem_map.mp within
    exact (free text given).2 holds

/-- The positional form is cut into its texts, up to blanks. -/
theorem IsFree.map_trim_splitOn (free : f.IsFree) :
    ((trim f.positional.toList).splitOn ':').map trim
      = f.toList.map fun text => trim text.toList := by
  have whole : f.positional.toList.splitOn ':' = f.toList.map String.toList := by
    rw [positional_eq, optionText, String.toList_ofList]
    refine List.splitOn_intercalate _ (fun field among => ?_) (by simp [toList])
    obtain ⟨text, given, rfl⟩ := List.mem_map.mp among
    exact (free text given).1
  rw [map_trim_splitOn_trim, whole, List.map_map]
  rfl

/-- The positional form is read as what the texts write. -/
theorem parse_positional_iff (free : f.IsFree) :
    VideoParams.parse f.positional = .ok p ↔ f.Writes p := by
  have parted := free.map_trim_splitOn
  have nonempty : trim f.positional.toList ≠ [] := by
    intro blank
    rw [blank] at parted
    simp [toList] at parted
  simp only [toList, List.map_cons, List.map_nil, List.map_eq_cons_iff, List.map_eq_nil_iff]
    at parted
  obtain ⟨width, _, cut, width_eq, height, _, rfl, height_eq, format, _, rfl, format_eq,
    baseNum, _, rfl, baseNum_eq, baseDen, _, rfl, baseDen_eq, aspectNum, _, rfl, aspectNum_eq,
    aspectDen, _, rfl, aspectDen_eq, rfl⟩ := parted
  rw [VideoParams.parse]
  simp only [nonempty, free.not_isKeyed, if_false, VideoParams.ofFields, cut, bind_eq_ok_iff,
    KeyValue.readWith_eq_ok_iff, KeyValue.readPixelFormat_eq_ok_iff, width_eq, height_eq,
    format_eq, baseNum_eq, baseDen_eq, aspectNum_eq, aspectDen_eq, Writes,
    Fraction.ofTerms?_eq_some_iff]
  constructor
  · rintro ⟨width, widthRead, height, heightRead, format, formatRead, baseNum, baseNumRead,
      baseDen, baseDenRead, aspectNum, aspectNumRead, aspectDen, aspectDenRead, ⟨rfl⟩⟩
    exact ⟨width, height, format, ⟨baseNum, baseDen⟩, ⟨aspectNum, aspectDen⟩, widthRead, heightRead,
      formatRead, ⟨baseNumRead, baseDenRead⟩, ⟨aspectNumRead, aspectDenRead⟩, rfl⟩
  · rintro ⟨width, height, format, timeBase, pixelAspect, widthRead, heightRead, formatRead,
      ⟨baseNumRead, baseDenRead⟩, ⟨aspectNumRead, aspectDenRead⟩, rfl⟩
    exact ⟨width, widthRead, height, heightRead, format, formatRead, _, baseNumRead, _, baseDenRead,
      _, aspectNumRead, _, aspectDenRead, rfl⟩

/-- **The two forms agree.** Seven texts without a colon or an `=`, whatever else they hold, are
read in both forms or in neither, as the same parameters. -/
theorem forms_agree (f : VideoFields) (free : f.IsFree) (p : VideoParams) :
    VideoParams.parse f.positional = .ok p ↔ VideoParams.parse f.keyed = .ok p :=
  (parse_positional_iff free).trans (parse_keyed_iff free).symm

/-- Texts with blanks and signs, and with a denominator that is zero. -/
def padded : VideoFields :=
  { width := "\t640", height := "+480 ", format := " rgb24", baseNum := " -1", baseDen := "+25",
    aspectNum := "007", aspectDen := "-0\n" }

theorem padded_forms_agree :
    padded.IsFree ∧ ∃ p : VideoParams, VideoParams.parse padded.positional = .ok p
      ∧ VideoParams.parse padded.keyed = .ok p
      ∧ p = { width := 640, height := 480, pixelFormat := some .rgb24, timeBase := ⟨-1, 25⟩,
              pixelAspect := ⟨7, 0⟩ } := by
  have free : padded.IsFree := by decide
  have written : padded.Writes { width := 640, height := 480, pixelFormat := some .rgb24,
                                 timeBase := ⟨-1, 25⟩, pixelAspect := ⟨7, 0⟩ } :=
    ⟨640, 480, .rgb24, ⟨-1, 25⟩, ⟨7, 0⟩, by decide, by decide, by decide, by decide, by decide, rfl⟩
  have read := (parse_positional_iff free).mpr written
  exact ⟨free, _, read, (forms_agree padded free _).mp read, rfl⟩

end VideoFields

end FrameIngest
