/-
FrameIngest.Proofs.Stream.SizeForms — sizes in one piece and in two.

A size has a name, or is written as two numbers around an `x`; either way it is
not empty and is read back from its written form. In a keyed option text it can
also be given by its width and its height, in two pieces. That leaves the result
as it is, an error included: the pieces before and after are cut out of both
texts alike (`exists_optionsOf_trim_joined`), and the two settings come to the
same as the one, wherever they are made (`VideoParams.parse_exchange`).

* `KeyValue.ofPieces` — the options of pieces that are cut out already;
* `IsMarked` — pieces with an `=`, for which blanks at the ends do not matter;
* `VideoParams.settingsOf`, `VideoParams.IsExchange` — pieces that can stand for
  each other;
* `size_written_or_divided` — the ways to give a size.
-/
import FrameIngest.Proofs.Stream.OptionText

namespace FrameIngest

open Text

/-! ## Pieces that are cut out already -/

namespace KeyValue

/-- The options of the pieces that are not blank. -/
def ofPieces (pieces : List (List Char)) : Except SetupError (List KeyValue) :=
  (pieces.filter fun piece => trim piece ≠ []).mapM ofPiece

theorem ofPieces_append (pieces pieces' : List (List Char)) :
    ofPieces (pieces ++ pieces') = (do
      let options ← ofPieces pieces
      let options' ← ofPieces pieces'
      pure (options ++ options')) := by
  rw [ofPieces, List.filter_append, List.mapM_append]
  rfl

theorem ofPieces_singleton {piece : List Char} (mark : '=' ∈ piece) :
    ofPieces [piece] = (ofPiece piece).map fun o => [o] := by
  have visible : trim piece ≠ [] := List.ne_nil_of_mem (mem_trim rfl mark)
  have kept : [piece].filter (fun piece => trim piece ≠ []) = [piece] := by simp [visible]
  rw [ofPieces, kept, List.mapM_cons]
  cases ofPiece piece <;> rfl

/-- Blanks around pieces with an `=` do not matter. -/
theorem ofPieces_map_trim {pieces : List (List Char)} (marked : ∀ piece ∈ pieces, '=' ∈ piece) :
    ofPieces (pieces.map trim) = ofPieces pieces := by
  induction pieces with
  | nil => rfl
  | cons piece pieces ih =>
    have mark := marked piece List.mem_cons_self
    have first : ofPieces [trim piece] = ofPieces [piece] := by
      rw [ofPieces_singleton mark, ofPieces_singleton (mem_trim rfl mark), ofPiece_trim mark]
    have rest := ih fun p among => marked p (List.mem_cons_of_mem _ among)
    rw [List.map_cons, ← List.singleton_append, ofPieces_append, first, rest, ← ofPieces_append,
      List.singleton_append]

end KeyValue

/-! ## The ends of a text -/

/-- There are pieces, each with an `=` and without a colon. -/
structure IsMarked (pieces : List (List Char)) : Prop where
  nonempty : pieces ≠ []
  mark : ∀ piece ∈ pieces, '=' ∈ piece
  free : ∀ piece ∈ pieces, ':' ∉ piece

theorem IsMarked.of_map_trim {pieces pieces' : List (List Char)} (marked : IsMarked pieces)
    (same : pieces'.map trim = pieces.map trim) : IsMarked pieces' := by
  have trimmed {piece : List Char} (among : piece ∈ pieces') :
      ∃ piece' ∈ pieces, trim piece' = trim piece :=
    List.mem_map.mp (same ▸ List.mem_map_of_mem among)
  refine ⟨?_, fun piece among => ?_, fun piece among colon => ?_⟩
  · rintro rfl
    exact marked.nonempty (List.map_eq_nil_iff.mp same.symm)
  · obtain ⟨piece', within, alike⟩ := trimmed among
    rw [← mem_trim_iff rfl, ← alike]
    exact mem_trim rfl (marked.mark piece' within)
  · obtain ⟨piece', within, alike⟩ := trimmed among
    rw [← mem_trim_iff rfl, ← alike] at colon
    exact marked.free piece' within (mem_of_mem_trim colon)

theorem IsMarked.splitOn_joined {before pieces after : List (List Char)} (marked : IsMarked pieces)
    (before_free : ∀ piece ∈ before, ':' ∉ piece) (after_free : ∀ piece ∈ after, ':' ∉ piece) :
    ([':'].intercalate (before ++ pieces ++ after)).splitOn ':' = before ++ pieces ++ after := by
  refine List.splitOn_intercalate _ ?_ (by simp [marked.nonempty])
  simp only [List.forall_mem_append]
  exact ⟨⟨before_free, marked.free⟩, after_free⟩

section Ends

variable {before after : List (List Char)}

/-- What stands before the marked pieces loses the same blanks, whatever these pieces are. -/
theorem exists_trimStart_joined (free : ∀ piece ∈ before, ':' ∉ piece) :
    ∃ before' : List (List Char), (∀ piece ∈ before', ':' ∉ piece)
      ∧ ∀ pieces after, pieces ≠ [] → ∃ pieces' : List (List Char),
        pieces'.map trim = pieces.map trim
          ∧ trimStart ([':'].intercalate (before ++ pieces ++ after))
            = [':'].intercalate (before' ++ pieces' ++ after) := by
  cases before with
  | nil =>
    refine ⟨[], nofun, fun pieces after nonempty => ?_⟩
    obtain ⟨first, rest, rfl⟩ := List.exists_cons_of_ne_nil nonempty
    refine ⟨trimStart first :: rest, by simp [trim_trimStart], ?_⟩
    exact trimStart_intercalate rfl _
  | cons first rest =>
    rw [List.forall_mem_cons] at free
    refine ⟨trimStart first :: rest, List.forall_mem_cons.mpr ⟨fun colon => ?_, free.2⟩,
      fun pieces after _ => ⟨pieces, rfl, trimStart_intercalate rfl _⟩⟩
    exact free.1 (trimStart_subset first colon)

/-- So does what stands after them. -/
theorem exists_trimEnd_joined (free : ∀ piece ∈ after, ':' ∉ piece) :
    ∃ after' : List (List Char), (∀ piece ∈ after', ':' ∉ piece)
      ∧ ∀ before pieces, pieces ≠ [] → ∃ pieces' : List (List Char),
        pieces'.map trim = pieces.map trim
          ∧ trimEnd ([':'].intercalate (before ++ pieces ++ after))
            = [':'].intercalate (before ++ pieces' ++ after') := by
  rcases after.eq_nil_or_concat' with rfl | ⟨rest, last, rfl⟩
  · refine ⟨[], nofun, fun before pieces nonempty => ?_⟩
    obtain ⟨first, last, rfl⟩ := pieces.eq_nil_or_concat'.resolve_left nonempty
    refine ⟨first ++ [trimEnd last], by simp [trim_trimEnd], ?_⟩
    rw [List.append_nil, List.append_nil, ← List.append_assoc, ← List.append_assoc,
      trimEnd_intercalate_concat rfl]
  · rw [List.forall_mem_append, List.forall_mem_singleton] at free
    have kept : ':' ∉ trimEnd last := fun colon => free.2 (trimEnd_subset last colon)
    refine ⟨rest ++ [trimEnd last], ?_, fun before pieces _ => ⟨pieces, rfl, ?_⟩⟩
    · exact List.forall_mem_append.mpr ⟨free.1, List.forall_mem_singleton.mpr kept⟩
    · rw [← List.append_assoc, ← List.append_assoc, trimEnd_intercalate_concat rfl]

/-- The options of a text with marked pieces in it are those of the pieces before, of the marked
pieces and of the pieces after. -/
theorem exists_optionsOf_trim_joined (free : ∀ piece ∈ before, ':' ∉ piece)
    (free' : ∀ piece ∈ after, ':' ∉ piece) :
    ∃ before' after' : List (List Char), ∀ pieces, IsMarked pieces →
      optionsOf (trim ([':'].intercalate (before ++ pieces ++ after)))
        = KeyValue.ofPieces (before' ++ pieces ++ after') := by
  obtain ⟨before', beforeFree, start⟩ := exists_trimStart_joined free
  obtain ⟨after', afterFree, finish⟩ := exists_trimEnd_joined free'
  refine ⟨before', after', fun pieces marked => ?_⟩
  obtain ⟨pieces₁, same₁, started⟩ := start pieces after marked.nonempty
  obtain ⟨pieces₂, same₂, finished⟩ := finish before' pieces₁ (marked.of_map_trim same₁).nonempty
  -- at an end of the text the marked pieces lose blanks too, which are of no account to them
  have same : pieces₂.map trim = pieces.map trim := same₂.trans same₁
  have marked₂ : IsMarked pieces₂ := marked.of_map_trim same
  have alike : KeyValue.ofPieces pieces₂ = KeyValue.ofPieces pieces := by
    rw [← KeyValue.ofPieces_map_trim marked₂.mark, same, KeyValue.ofPieces_map_trim marked.mark]
  have read (args : List Char) : optionsOf args = KeyValue.ofPieces (args.splitOn ':') := rfl
  rw [trim, started, finished, read, marked₂.splitOn_joined beforeFree afterFree]
  simp only [KeyValue.ofPieces_append, alike]

end Ends

/-! ## Exchanging pieces -/

namespace VideoParams

/-- The settings of pieces that are cut out already. -/
def settingsOf (pieces : List (List Char)) : Except SetupError (List VideoSetting) := do
  let options ← KeyValue.ofPieces pieces
  options.mapM VideoSetting.ofOption

/-- The settings of options, all made. -/
def ofKeyValues (options : List KeyValue) : Except SetupError VideoParams := do
  let settings ← options.mapM VideoSetting.ofOption
  return ofSettings settings

/-- Both lists of pieces are read, as settings that make the same of any parameters. -/
structure IsExchange (pieces pieces' : List (List Char)) : Prop where
  marked : IsMarked pieces
  marked' : IsMarked pieces'
  alike : ∃ settings settings', settingsOf pieces = .ok settings
    ∧ settingsOf pieces' = .ok settings'
    ∧ ∀ p, settings.foldl VideoSetting.apply p = settings'.foldl VideoSetting.apply p

variable {before after pieces pieces' : List (List Char)}

/-- In a list of pieces that are cut out already, exchanging some does not change the result. The
pieces before and after are the same, and so is the first error among them. -/
theorem ofPieces_exchange (exchange : IsExchange pieces pieces') :
    (KeyValue.ofPieces (before ++ pieces ++ after) >>= ofKeyValues)
      = (KeyValue.ofPieces (before ++ pieces' ++ after) >>= ofKeyValues) := by
  obtain ⟨settings, settings', made, made', alike⟩ := exchange.alike
  obtain ⟨options, read, made⟩ := bind_eq_ok_iff.mp made
  obtain ⟨options', read', made'⟩ := bind_eq_ok_iff.mp made'
  simp only [KeyValue.ofPieces_append, read, read', bind_assoc, pure_bind, ok_bind]
  -- errors in the pieces around come from the same readers in the same order on both sides
  cases KeyValue.ofPieces before with
  | error e => rfl
  | ok first =>
    cases KeyValue.ofPieces after with
    | error e => rfl
    | ok last =>
      simp only [ok_bind, ofKeyValues, List.mapM_append, made, made', bind_assoc, pure_bind]
      cases first.mapM VideoSetting.ofOption with
      | error e => rfl
      | ok start =>
        cases last.mapM VideoSetting.ofOption with
        | error e => rfl
        | ok rest => simp only [ok_bind, ofSettings, List.foldl_append, alike]

section Joined

variable (before_free : ∀ piece ∈ before, ':' ∉ piece) (after_free : ∀ piece ∈ after, ':' ∉ piece)

include before_free after_free

/-- Marked pieces keep a text in the keyed form: either its first piece is another one, or it has
an `=`. -/
theorem isKeyed_exchange (marked : IsMarked pieces) (marked' : IsMarked pieces')
    (keyed : IsKeyed (trim (optionText (before ++ pieces ++ after)).toList)) :
    IsKeyed (trim (optionText (before ++ pieces' ++ after)).toList) := by
  rw [isKeyed_trim_iff, isKeyed_iff, optionText, String.toList_ofList,
    marked.splitOn_joined before_free after_free] at keyed
  rw [isKeyed_trim_iff, isKeyed_iff, optionText, String.toList_ofList,
    marked'.splitOn_joined before_free after_free]
  cases before with
  | cons first rest => exact keyed
  | nil =>
    obtain ⟨first, rest, rfl⟩ := List.exists_cons_of_ne_nil marked'.nonempty
    exact ⟨first, rfl, marked'.mark first List.mem_cons_self⟩

/-- In a keyed text, exchanging pieces does not change the result. -/
theorem parse_exchange (exchange : IsExchange pieces pieces')
    (keyed : IsKeyed (trim (optionText (before ++ pieces ++ after)).toList)) :
    parse (optionText (before ++ pieces' ++ after))
      = parse (optionText (before ++ pieces ++ after)) := by
  have keyed' := isKeyed_exchange before_free after_free exchange.marked exchange.marked' keyed
  obtain ⟨before', after', options⟩ := exists_optionsOf_trim_joined before_free after_free
  have text (between : List (List Char)) : (optionText (before ++ between ++ after)).toList
      = [':'].intercalate (before ++ between ++ after) := String.toList_ofList
  have steps (args : List Char) : ofOptions args = (optionsOf args >>= ofKeyValues) := rfl
  rw [parse_of_isKeyed keyed, parse_of_isKeyed keyed', steps, steps, text, text,
    options _ exchange.marked, options _ exchange.marked', ofPieces_exchange exchange]

end Joined

/-! ## Sizes -/

/-- Settings that a text can carry are read back from their pieces. -/
theorem settingsOf_chars {settings : List VideoSetting} (writable : ∀ s ∈ settings, s.IsWritable) :
    settingsOf (settings.map VideoSetting.chars) = .ok settings := by
  have fits : ∀ s ∈ settings, IsValue s.option.value := fun s among =>
    VideoSetting.isValue_option (writable s among)
  have plain := forall_isPlain (fun s (_ : s ∈ settings) => s.isKey_option) fits
  have whole : KeyValue.ofPieces ((settings.map VideoSetting.option).map KeyValue.piece)
      = .ok (settings.map VideoSetting.option) := by
    rw [KeyValue.ofPieces, List.filter_eq_self.mpr, mapM_ofPiece_piece plain,
      map_trimmed_option fits]
    exact fun piece among => decide_eq_true (forall_isPiece plain piece among).1
  rw [settingsOf, VideoSetting.map_chars, whole]
  exact mapM_ofOption fun s among => VideoSetting.ofOption_option (writable s among)

theorem isMarked_chars {settings : List VideoSetting} (nonempty : settings ≠ [])
    (writable : ∀ s ∈ settings, s.IsWritable) : IsMarked (settings.map VideoSetting.chars) where
  nonempty := by simpa using nonempty
  mark := by
    simp only [List.forall_mem_map, ← VideoSetting.piece_option]
    intro s _
    simp [KeyValue.piece, pieceOf]
  free := by
    simp only [List.forall_mem_map, ← VideoSetting.piece_option]
    intro s among
    exact KeyValue.IsPlain.piece_free
      ⟨s.isKey_option, (VideoSetting.isValue_option (writable s among)).2⟩

/-- A size comes to the same as its width and its height. -/
theorem isExchange_size {key value : List Char} {s : Size} (free : ':' ∉ value)
    (named : trim key = "video_size".toList) (read : Size.read? (trim value) = some s) :
    IsExchange [key ++ '=' :: value]
      ([.width s.width, .height s.height].map VideoSetting.chars) := by
  have plain {c : Char} (visible : isBlank c = false) (other : c ∉ "video_size".toList) :
      c ∉ key := fun among => other (named ▸ mem_trim visible among)
  have noMark : '=' ∉ key := plain rfl (by decide)
  have noColon : ':' ∉ key := plain rfl (by decide)
  have writable : ∀ t ∈ [VideoSetting.width s.width, .height s.height], t.IsWritable := by
    simp [VideoSetting.IsWritable]
  have option : VideoSetting.ofOption ⟨"video_size", trim value⟩ = .ok (.size s) := by
    have found : (KeyValue.mk "video_size" (trim value)).readWith Size.read? = .ok s :=
      KeyValue.readWith_eq_ok_iff.mpr (by rw [trim_trim, read])
    exact congrArg (Except.map VideoSetting.size) found
  refine ⟨⟨by simp, by simp, by simp [noColon, free]⟩, isMarked_chars (by simp) writable,
    [.size s], _, ?_, settingsOf_chars writable, fun p => rfl⟩
  rw [settingsOf, KeyValue.ofPieces_singleton (by simp), KeyValue.ofPiece_append_cons noMark,
    named, String.ofList_toList]
  show [KeyValue.mk "video_size" (trim value)].mapM VideoSetting.ofOption = .ok [.size s]
  rw [List.mapM_cons, option]
  rfl

end VideoParams

/-- **Sizes, written and divided.** A text that is read as a size names one that is not empty, and
the same size is read from its two numbers around an `x`. Two numbers around an `x` of either case
are a size, whatever blanks stand around them, unless one of them is zero. In a keyed option text a
piece that gives a size can be replaced by one for its width and one for its height; the result is
the same, an error included. -/
theorem size_written_or_divided :
    (∀ text s, Size.parse? text = some s →
        0 < s.width ∧ 0 < s.height ∧ Size.parse? (toString s) = some s)
      ∧ (∀ (w h : UInt32) (mark : Char) (b b' : List Char), mark = 'x' ∨ mark = 'X' →
        (∀ c ∈ b, isBlank c = true) → (∀ c ∈ b', isBlank c = true) →
          Size.parse? (String.ofList (b ++ (decimal w.toNat ++ mark :: decimal h.toNat) ++ b'))
            = if w = 0 ∨ h = 0 then none else some ⟨w, h⟩)
      ∧ ∀ (text : String) (before after : List (List Char)) (key value : List Char) (s : Size),
        VideoParams.IsKeyed (trim text.toList) →
          text.toList.splitOn ':' = before ++ [key ++ '=' :: value] ++ after →
          trim key = "video_size".toList → Size.parse? (String.ofList value) = some s →
          VideoParams.parse (optionText (before
              ++ [pieceOf "width" (decimal s.width.toNat),
                pieceOf "height" (decimal s.height.toNat)]
              ++ after))
            = VideoParams.parse text := by
  refine ⟨fun text s read => ?_, fun w h mark b b' times blank blank' => ?_,
    fun text before after key value s keyed parted named read => ?_⟩
  · obtain ⟨wide, high⟩ := Size.ne_zero_of_read? read
    exact ⟨UInt32.pos_iff_ne_zero.mpr wide, UInt32.pos_iff_ne_zero.mpr high,
      Size.parse?_toString wide high⟩
  · exact Size.parse?_spelled (Size.isTimes_iff.mpr times) ⟨w, h⟩ blank blank'
  · have whole : text = optionText (before ++ [key ++ '=' :: value] ++ after) := by
      rw [optionText, ← parted, List.intercalate_splitOn, String.ofList_toList]
    have free : ∀ piece ∈ before ++ [key ++ '=' :: value] ++ after, ':' ∉ piece := by
      rw [← parted, List.splitOn_eq_splitOnP]
      intro piece among colon
      exact absurd (isMark_of_mem_splitOnP among ':' colon) (by decide)
    simp only [List.forall_mem_append, List.forall_mem_singleton] at free
    obtain ⟨⟨before_free, piece_free⟩, after_free⟩ := free
    have value_free : ':' ∉ value := fun colon => piece_free (by simp [colon])
    rw [Size.parse?, String.toList_ofList] at read
    rw [whole] at keyed ⊢
    exact VideoParams.parse_exchange before_free after_free
      (VideoParams.isExchange_size value_free named read) keyed

/-- A size by name, between a format and a width that is set again. -/
def namedSize : String := "pix_fmt=rgb24: video_size = hd720 :width=640"

/-- The name can be replaced by its two numbers, in one piece or in two. -/
theorem namedSize_divided :
    Size.parse? "1280x720" = some ⟨1280, 720⟩
      ∧ Size.parse? " 1280X720\n" = some ⟨1280, 720⟩
      ∧ VideoParams.parse namedSize
        = .ok { width := 640, height := 720, pixelFormat := some .rgb24 }
      ∧ VideoParams.parse "pix_fmt=rgb24:width=1280:height=720:width=640"
        = .ok { width := 640, height := 720, pixelFormat := some .rgb24 } := by
  have name : Size.parse? "hd720" = some ⟨1280, 720⟩ := by decide
  have read : VideoParams.parse namedSize
      = .ok { width := 640, height := 720, pixelFormat := some .rgb24 } := by rfl
  obtain ⟨written, spelled, divided⟩ := size_written_or_divided
  have between := spelled 1280 720 'X' [' '] ['\n'] (.inr rfl) (by decide) (by decide)
  have same := divided namedSize ["pix_fmt=rgb24".toList] ["width=640".toList] " video_size ".toList
    " hd720 ".toList ⟨1280, 720⟩ (by decide) (by decide) (by decide) (by decide)
  exact ⟨(written _ _ name).2.2, between, read, same.trans read⟩

end FrameIngest
