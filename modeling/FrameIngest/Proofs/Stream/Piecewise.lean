/-
FrameIngest.Proofs.Stream.Piecewise — option texts are read piece by piece.

An audio text is a list of options unless it is blank, and a video text is one
if an `=` stands before its first colon. Both are read piece by piece
(`options_compose`). Pieces can be taken out of a text and be joined to another
one, or stand alone; a video piece without an `=` is then in the positional
form, which has seven fields and no `=` (`VideoParams.marks_of_ofFields`), and
is read in neither form.

* `piecesOf_optionText` — joined pieces are the pieces of their text;
* `AudioParams.reader`, `VideoParams.reader` — the parameters, and the keys that
  set them;
* `options_compose` — both readers compose.
-/
import FrameIngest.Proofs.Stream.OptionReader

namespace FrameIngest

open Text

/-! ## Texts and their pieces -/

section Joined

variable {pieces : List (List Char)} (nonempty : pieces ≠ [])
  (plain : ∀ piece ∈ pieces, IsPiece piece)

include nonempty plain

/-- The pieces of a text are those that it was made of. -/
theorem piecesOf_optionText : piecesOf (optionText pieces).toList = pieces := by
  rw [optionText, String.toList_ofList, piecesOf_joined nonempty plain]

theorem trim_optionText_ne_nil : trim (optionText pieces).toList ≠ [] := by
  rw [optionText, String.toList_ofList]
  exact trim_joined_ne_nil nonempty plain

end Joined

theorem optionText_singleton (piece : List Char) : optionText [piece] = String.ofList piece := by
  rw [optionText, List.intercalate_singleton]

/-- The options of a text are read as the settings of its pieces. -/
theorem options_eq_ok_iff {P σ : Type} {ofOption : KeyValue → Except SetupError σ}
    {args : List Char} {make : List σ → P} {p : P} :
    (do let options ← optionsOf (trim args)
        let settings ← options.mapM ofOption
        return make settings) = .ok p
      ↔ ∃ settings, (piecesOf args).mapM (OptionReader.settingOf ofOption) = .ok settings
        ∧ p = make settings := by
  have steps {settings : List σ} :
      (piecesOf args).mapM (OptionReader.settingOf ofOption) = .ok settings
        ↔ ∃ options, optionsOf (trim args) = .ok options
          ∧ options.mapM ofOption = .ok settings := by
    simp only [optionsOf_trim_eq_ok_iff]
    exact mapM_bind_eq_ok_iff
  simp only [bind_eq_ok_iff, steps]
  constructor
  · rintro ⟨options, read, settings, made, ⟨rfl⟩⟩
    exact ⟨settings, ⟨options, read, made⟩, rfl⟩
  · rintro ⟨settings, ⟨options, read, made⟩, rfl⟩
    exact ⟨options, read, settings, made, rfl⟩

/-! ## Audio -/

theorem AudioSetting.key_of_ofOption {o : KeyValue} {s : AudioSetting}
    (read : AudioSetting.ofOption o = .ok s) : o.key = s.option.key := by
  unfold AudioSetting.ofOption at read
  split at read
  case h_6 => cases read
  all_goals
    next key =>
      obtain ⟨_, _, rfl⟩ := map_eq_ok_iff.mp read
      exact key

namespace AudioParams

/-- Every text that is not blank is a list of options. -/
def reader : OptionReader AudioParams where
  parse := parse
  defaults := {}
  parameters := [⟨["time_base"], timeBase⟩, ⟨["sample_rate"], sampleRate⟩,
    ⟨["sample_fmt"], sampleFormat⟩, ⟨["channels"], channels⟩, ⟨["channel_layout"], layout⟩]
  IsList text := trim text.toList ≠ []

theorem reads_piecesOf {text : String} (lists : reader.IsList text) :
    reader.Reads AudioSetting.ofOption AudioSetting.apply text (piecesOf text.toList) := by
  intro p
  have read : reader.parse text = ofOptions (trim text.toList) := if_neg lists
  rw [read]
  exact options_eq_ok_iff

theorem reads_optionText {pieces : List (List Char)} (nonempty : pieces ≠ [])
    (plain : ∀ piece ∈ pieces, IsPiece piece) :
    reader.Reads AudioSetting.ofOption AudioSetting.apply (optionText pieces) pieces := by
  have reads := reads_piecesOf (trim_optionText_ne_nil nonempty plain)
  rwa [piecesOf_optionText nonempty plain] at reads

theorem makes : reader.Makes AudioSetting.ofOption AudioSetting.apply where
  complete p q same := by
    simp only [reader, List.forall_mem_cons] at same
    obtain ⟨base, rate, format, count, layout, _⟩ := same
    cases p
    exact AudioParams.mk.injEq .. ▸ ⟨base, rate, format, count, layout⟩
  sets a among o s read p := by
    rw [AudioSetting.key_of_ofOption read]
    simp only [reader, List.mem_cons, List.not_mem_nil, or_false] at among
    rcases among with rfl | rfl | rfl | rfl | rfl <;> cases s <;> rfl
  whole _ := reads_piecesOf
  alone piece plain := by
    rw [← optionText_singleton]
    exact reads_optionText (by simp) (by simpa using plain)
  joined text _ order nonempty perm :=
    reads_optionText nonempty fun _ among =>
      isPiece_of_mem_piecesOf (perm.subset among)

end AudioParams

/-! ## Video -/

theorem VideoSetting.key_of_ofOption {o : KeyValue} {s : VideoSetting}
    (read : VideoSetting.ofOption o = .ok s) : o.key = s.option.key := by
  unfold VideoSetting.ofOption at read
  split at read
  case h_8 key =>
    cases read
    exact key
  case h_9 => cases read
  all_goals
    next key =>
      obtain ⟨_, _, rfl⟩ := map_eq_ok_iff.mp read
      exact key

namespace VideoParams

/-! ### The two forms -/

/-- A text in the positional form has a colon and no `=`. -/
theorem marks_of_ofFields {args : List Char} {p : VideoParams} (read : ofFields args = .ok p) :
    ':' ∈ args ∧ '=' ∉ args := by
  have number (s : List Char) (mark : '=' ∈ s) : readUInt32 s = none :=
    readUInt32_eq_none (by decide) (by decide) mark
  have term (s : List Char) (mark : '=' ∈ s) : readInt32 s = none :=
    readInt32_eq_none (by decide) (by decide) (by decide) mark
  have format (s : List Char) (mark : '=' ∈ s) : PixelFormat.read? s = none :=
    PixelFormat.read?_eq_none mark
  have free {α : Type} {read? : List Char → Option α} {field : List Char} {a : α}
      (unread : ∀ s, '=' ∈ s → read? s = none) (read : read? (trim field) = some a) :
      '=' ∉ field := by
    intro mark
    rw [unread _ ((mem_trim_iff rfl).mpr mark)] at read
    cases read
  unfold ofFields at read
  split at read
  · next width height format' baseNum baseDen aspectNum aspectDen parted =>
    simp only [bind_eq_ok_iff, KeyValue.readWith_eq_ok_iff,
      KeyValue.readPixelFormat_eq_ok_iff] at read
    obtain ⟨_, widthRead, _, heightRead, _, formatRead, _, baseNumRead, _, baseDenRead,
      _, aspectNumRead, _, aspectDenRead, _⟩ := read
    have noMark : ∀ field ∈ args.splitOn ':', '=' ∉ field := by
      rw [parted]
      simp only [List.forall_mem_cons]
      exact ⟨free number widthRead, free number heightRead, free format formatRead,
        free term baseNumRead, free term baseDenRead, free term aspectNumRead,
        free term aspectDenRead, nofun⟩
    constructor
    · refine Decidable.byContradiction fun colon => ?_
      rw [List.splitOn_eq_singleton colon] at parted
      cases parted
    · have whole : [':'].intercalate (args.splitOn ':') = args := List.intercalate_splitOn ':'
      intro mark
      rw [← whole] at mark
      rcases mem_intercalate mark with same | ⟨field, among, within⟩
      · cases same
      · exact noMark field among within
  · cases read

/-! ### Pieces -/

/-- The texts in the keyed form are lists of options. -/
def reader : OptionReader VideoParams where
  parse := parse
  defaults := {}
  parameters := [⟨["time_base"], timeBase⟩, ⟨["frame_rate"], frameRate⟩,
    ⟨["width", "video_size"], width⟩, ⟨["height", "video_size"], height⟩,
    ⟨["pix_fmt"], pixelFormat⟩, ⟨["pixel_aspect"], pixelAspect⟩, ⟨["sws_param"], scaler⟩]
  IsList text := IsKeyed text.toList

theorem reads_piecesOf {text : String} (lists : reader.IsList text) :
    reader.Reads VideoSetting.ofOption VideoSetting.apply text (piecesOf text.toList) := by
  intro p
  have read : reader.parse text = ofOptions (trim text.toList) :=
    parse_of_isKeyed (isKeyed_trim_iff.mpr lists)
  rw [read]
  exact options_eq_ok_iff

/-- A text that is made of one piece, or of pieces that have an `=`, is read piece by piece even if
it is not keyed: neither form admits it then. -/
theorem reads_optionText {pieces : List (List Char)} (nonempty : pieces ≠ [])
    (plain : ∀ piece ∈ pieces, IsPiece piece)
    (marked : (∃ piece, pieces = [piece]) ∨ ∃ piece ∈ pieces, '=' ∈ piece) :
    reader.Reads VideoSetting.ofOption VideoSetting.apply (optionText pieces) pieces := by
  by_cases keyed : IsKeyed (optionText pieces).toList
  · have reads := reads_piecesOf keyed
    rwa [piecesOf_optionText nonempty plain] at reads
  · intro p
    constructor
    · intro read
      have fields : reader.parse (optionText pieces) = ofFields (trim (optionText pieces).toList) :=
        (if_neg (trim_optionText_ne_nil nonempty plain)).trans
          (if_neg fun trimmed => keyed (isKeyed_trim_iff.mp trimmed))
      obtain ⟨colon, free⟩ := marks_of_ofFields (fields.symm.trans read)
      rcases marked with ⟨piece, rfl⟩ | ⟨piece, among, mark⟩
      · rw [optionText_singleton, String.toList_ofList] at colon
        exact absurd (mem_of_mem_trim colon) (plain piece List.mem_cons_self).2
      · rw [mem_trim_iff rfl, optionText, String.toList_ofList] at free
        exact absurd (mem_intercalate_of_mem among mark) free
    · rintro ⟨settings, made, _⟩
      rw [isKeyed_iff, optionText, String.toList_ofList, splitOn_joined nonempty plain] at keyed
      obtain ⟨first, rest, rfl⟩ := List.exists_cons_of_ne_nil nonempty
      have unmarked : '=' ∉ first := fun mark => keyed ⟨first, rfl, mark⟩
      obtain ⟨s, makes, _⟩ := mapM_cons_eq_ok_iff.mp made
      rw [OptionReader.settingOf, KeyValue.ofPiece_of_not_mem unmarked] at makes
      cases makes

theorem makes : reader.Makes VideoSetting.ofOption VideoSetting.apply where
  complete p q same := by
    simp only [reader, List.forall_mem_cons] at same
    obtain ⟨base, rate, width, height, format, aspect, scaler, _⟩ := same
    cases p
    exact VideoParams.mk.injEq .. ▸ ⟨base, rate, width, height, format, aspect, scaler⟩
  sets a among o s read p := by
    rw [VideoSetting.key_of_ofOption read]
    simp only [reader, List.mem_cons, List.not_mem_nil, or_false] at among
    rcases among with rfl | rfl | rfl | rfl | rfl | rfl | rfl <;> cases s <;> rfl
  whole _ := reads_piecesOf
  alone piece plain := by
    rw [← optionText_singleton]
    exact reads_optionText (by simp) (by simpa using plain) (.inl ⟨piece, rfl⟩)
  joined text keyed order nonempty perm := by
    obtain ⟨first, head, mark⟩ := isKeyed_iff.mp keyed
    have visible : trim first ≠ [] := List.ne_nil_of_mem ((mem_trim_iff rfl).mpr mark)
    have among : first ∈ piecesOf text.toList :=
      List.mem_filter.mpr ⟨List.mem_of_mem_head? head, decide_eq_true visible⟩
    exact reads_optionText nonempty
      (fun _ within => isPiece_of_mem_piecesOf (perm.subset within))
      (.inr ⟨first, perm.mem_iff.mpr among, mark⟩)

end VideoParams

/-- **Lists of options are read piece by piece.** An audio text that is not blank and a video text
in the keyed form are read if each of their pieces is, on its own. Each parameter has the value that
it has in the last piece whose key sets it, or else its default; a size sets a width and a height.
So blank pieces have no effect, nor has a piece after which all that it sets is set again, and
pieces that set no parameter in common may be put in any order. -/
theorem options_compose : AudioParams.reader.Composes ∧ VideoParams.reader.Composes :=
  ⟨AudioParams.makes.composes, VideoParams.makes.composes⟩

/-- A size, of which the width is set again, twice, and a blank piece. -/
def doubledWidth : String := "video_size=vga:width=320: :pix_fmt=rgb24:width = 400 "

/-- The first of the two widths can be left out, and the format can come first. -/
theorem doubledWidth_composes :
    VideoParams.reader.IsList doubledWidth
      ∧ VideoParams.parse doubledWidth
        = .ok { width := 400, height := 480, pixelFormat := some .rgb24 }
      ∧ VideoParams.parse "video_size=vga:pix_fmt=rgb24:width = 400 "
        = .ok { width := 400, height := 480, pixelFormat := some .rgb24 }
      ∧ VideoParams.parse "pix_fmt=rgb24:video_size=vga:width=320:width = 400 "
        = .ok { width := 400, height := 480, pixelFormat := some .rgb24 } := by
  have keyed : VideoParams.IsKeyed doubledWidth.toList
      ∧ VideoParams.IsKeyed "video_size=vga:pix_fmt=rgb24:width = 400 ".toList := by decide
  have read : VideoParams.parse doubledWidth
      = .ok { width := 400, height := 480, pixelFormat := some .rgb24 } := by rfl
  have shorter := options_compose.2.repeated_last doubledWidth
    "video_size=vga:pix_fmt=rgb24:width = 400 " keyed.1 keyed.2
    ["video_size=vga".toList] "width=320".toList ["pix_fmt=rgb24".toList, "width = 400 ".toList]
    (by decide) (by decide) (by decide)
  have reordered := options_compose.2.order_free doubledWidth keyed.1
    ["pix_fmt=rgb24".toList, "video_size=vga".toList, "width=320".toList, "width = 400 ".toList]
    (by decide) (by decide) (by decide)
  exact ⟨keyed.1, read, ((shorter _).mp read).2, (reordered _).mpr read⟩

end FrameIngest
