/-
FrameIngest.Proofs.Stream.OptionText — parameters are read back from their options.

An option is written as a key and a value around an `=`. The key is plain and
the value has no colon, so the piece is cut out of the text whole and cut again
at its first `=`; blanks around the text or around a piece are of no account
(`optionsOf_joined`, `optionsOf_trim_eq_ok_iff`). Each written value is read
back by the reader that its key calls for (`AudioSetting.ofOption_option`,
`VideoSetting.ofOption_option`); the only values that a text may fail to carry
are free texts and empty sizes (`VideoSetting.IsWritable`).

So whole parameters are read back from their settings in any order
(`params_read_back`).

* `optionText` — pieces with a colon between each two;
* `IsKey`, `IsValue`, `KeyValue.IsPlain` — what a piece may hold;
* `IsPiece`, `piecesOf_joined` — pieces, joined and cut out again;
* `VideoParams.isKeyed_iff` — the keyed form, seen from the first piece;
* `AudioParams.parse_options`, `VideoParams.parse_options` — reading a text
  whose options are known.
-/
import FrameIngest.Proofs.Fraction.Written
import FrameIngest.Proofs.Picture.Written
import FrameIngest.Proofs.Sound.Notation
import FrameIngest.Proofs.Stream.Settings

namespace FrameIngest

open Text

/-- The option text of some pieces. -/
def optionText (pieces : List (List Char)) : String := String.ofList ([':'].intercalate pieces)

/-! ## Results -/

section Results

variable {ε α β : Type}

theorem ok_bind (a : α) (f : α → Except ε β) : (Except.ok a >>= f) = f a := rfl

theorem bind_eq_ok_iff {x : Except ε α} {f : α → Except ε β} {b : β} :
    (x >>= f) = .ok b ↔ ∃ a, x = .ok a ∧ f a = .ok b := by
  cases x with
  | error e => exact ⟨nofun, nofun⟩
  | ok a => simp [ok_bind]

theorem map_eq_ok_iff {x : Except ε α} {f : α → β} {b : β} :
    x.map f = .ok b ↔ ∃ a, x = .ok a ∧ f a = b := by
  cases x with
  | error e => exact ⟨nofun, nofun⟩
  | ok a => simp [Except.map]

theorem mapM_nil_eq_ok_iff {f : α → Except ε β} {ys : List β} :
    [].mapM f = .ok ys ↔ ys = [] := by
  rw [List.mapM_nil]
  exact ⟨fun | rfl => rfl, fun | rfl => rfl⟩

/-- A list is read piece by piece. -/
theorem mapM_cons_eq_ok_iff {f : α → Except ε β} {x : α} {xs : List α} {ys : List β} :
    (x :: xs).mapM f = .ok ys
      ↔ ∃ y, f x = .ok y ∧ ∃ rest, xs.mapM f = .ok rest ∧ ys = y :: rest := by
  simp only [List.mapM_cons, bind_eq_ok_iff]
  constructor
  · rintro ⟨y, first, rest, others, ⟨rfl⟩⟩
    exact ⟨y, first, rest, others, rfl⟩
  · rintro ⟨y, first, rest, others, rfl⟩
    exact ⟨y, first, rest, others, rfl⟩

/-- A list is read if each of its pieces is. -/
theorem exists_mapM_eq_ok_iff {f : α → Except ε β} {xs : List α} :
    (∃ ys, xs.mapM f = .ok ys) ↔ ∀ x ∈ xs, ∃ y, f x = .ok y := by
  induction xs with
  | nil => exact ⟨nofun, fun _ => ⟨[], rfl⟩⟩
  | cons x xs ih =>
    rw [List.forall_mem_cons, ← ih]
    simp only [mapM_cons_eq_ok_iff]
    constructor
    · rintro ⟨_, y, first, rest, others, _⟩
      exact ⟨⟨y, first⟩, rest, others⟩
    · rintro ⟨⟨y, first⟩, rest, others⟩
      exact ⟨y :: rest, y, first, rest, others, rfl⟩

/-- What is read in two steps from all pieces is read in two steps from each. -/
theorem mapM_bind_eq_ok_iff {γ : Type} {f : α → Except ε β} {g : β → Except ε γ} {xs : List α}
    {zs : List γ} : xs.mapM (fun x => f x >>= g) = .ok zs
      ↔ ∃ ys, xs.mapM f = .ok ys ∧ ys.mapM g = .ok zs := by
  induction xs generalizing zs with
  | nil =>
    constructor
    · intro read
      exact ⟨[], rfl, read⟩
    · rintro ⟨_, ⟨rfl⟩, read⟩
      exact read
  | cons x xs ih =>
    simp only [mapM_cons_eq_ok_iff, bind_eq_ok_iff, ih]
    constructor
    · rintro ⟨z, ⟨y, first, made⟩, rest, ⟨ys, others, later⟩, rfl⟩
      exact ⟨y :: ys, ⟨y, first, ys, others, rfl⟩,
        mapM_cons_eq_ok_iff.mpr ⟨z, made, rest, later, rfl⟩⟩
    · rintro ⟨_, ⟨y, first, ys, others, rfl⟩, read⟩
      obtain ⟨z, made, rest, later, rfl⟩ := mapM_cons_eq_ok_iff.mp read
      exact ⟨z, ⟨y, first, made⟩, rest, ⟨ys, others, later⟩, rfl⟩

/-- Readers that succeed alike on each piece succeed alike on a list. -/
theorem mapM_eq_ok_congr {f g : α → Except ε β} (alike : ∀ a b, f a = .ok b ↔ g a = .ok b)
    {xs : List α} {ys : List β} : xs.mapM f = .ok ys ↔ xs.mapM g = .ok ys := by
  induction xs generalizing ys with
  | nil => rfl
  | cons x xs ih => simp only [mapM_cons_eq_ok_iff, alike, ih]

end Results

/-! ## Keys and values -/

/-- The text can stand before an `=`: there is something, and no mark and no blank. -/
def IsKey (key : String) : Prop :=
  key.toList ≠ [] ∧ ∀ c ∈ key.toList, isBlank c = false ∧ c ≠ ':' ∧ c ≠ '='

instance (key : String) : Decidable (IsKey key) := inferInstanceAs (Decidable (_ ∧ _))

theorem IsKey.isTrimmed {key : String} (h : IsKey key) : IsTrimmed key.toList :=
  .of_forall fun c among => (h.2 c among).1

/-- The text can stand between colons: it has none, and no blanks at its ends. -/
def IsValue (value : List Char) : Prop := IsTrimmed value ∧ ':' ∉ value

instance (value : List Char) : Decidable (IsValue value) := inferInstanceAs (Decidable (_ ∧ _))

theorem isValue_of_forall {value : List Char} (h : ∀ c ∈ value, isBlank c = false ∧ c ≠ ':') :
    IsValue value :=
  ⟨.of_forall fun c among => (h c among).1, fun among => (h ':' among).2 rfl⟩

theorem isValue_fraction (r : Fraction) : IsValue r.chars := by
  have marks : ∀ c ∈ '/' :: decimalMarks, isBlank c = false ∧ c ≠ ':' := by decide
  exact isValue_of_forall fun c among => marks c (Fraction.mem_chars among)

theorem isValue_size (s : Size) : IsValue s.chars := by
  have marks : ∀ c ∈ 'x' :: decimalMarks, isBlank c = false ∧ c ≠ ':' := by decide
  exact isValue_of_forall fun c among => marks c (Size.mem_chars among)

theorem isValue_decimal (n : Nat) : IsValue (decimal n) := by
  have marks : ∀ c ∈ decimalMarks, isBlank c = false ∧ c ≠ ':' := by decide
  exact isValue_of_forall fun c among => marks c (mem_decimalMarks_of_decimal among)

theorem isValue_layout (l : Layout) : IsValue l.chars := isValue_of_forall l.plain_chars

theorem SampleFormat.ofName?_name (f : SampleFormat) : ofName? f.name = some f := by
  cases f <;> decide

theorem isValue_sampleFormat (f : SampleFormat) : IsValue f.name.toList := by
  cases f <;> decide

theorem isValue_pixelFormat (f : PixelFormat) : IsValue f.name.toList := by
  cases f <;> decide

namespace KeyValue

variable {o : KeyValue} {α : Type} {a : α}

/-- A value is read as what its reader finds between blanks. -/
theorem readWith_eq_ok_iff {read? : List Char → Option α} :
    o.readWith read? = .ok a ↔ read? (trim o.value) = some a := by
  unfold readWith
  cases read? (trim o.value) <;> simp

theorem readPixelFormat_eq_ok_iff {f : PixelFormat} :
    o.readPixelFormat = .ok f ↔ PixelFormat.read? (trim o.value) = some f := by
  unfold readPixelFormat
  cases PixelFormat.read? (trim o.value) <;> simp

theorem readSampleFormat_eq_ok_iff {f : SampleFormat} :
    o.readSampleFormat = .ok f ↔ SampleFormat.ofName? (String.ofList (trim o.value)) = some f := by
  unfold readSampleFormat
  cases SampleFormat.ofName? (String.ofList (trim o.value)) <;> simp

theorem readLayout_eq_ok_iff {l : Layout} :
    o.readLayout = .ok l ↔ Layout.read? (trim o.value) = some l := by
  unfold readLayout
  cases Layout.read? (trim o.value) <;> simp

theorem readWith_of_trimmed {read? : List Char → Option α} {key : String} {value : List Char}
    (trimmed : IsTrimmed value) (read : read? value = some a) :
    readWith ⟨key, value⟩ read? = .ok a := by
  rw [readWith_eq_ok_iff, trimmed.trim_eq, read]

/-! ## Pieces -/

/-- A piece is cut at its first `=`. -/
theorem ofPiece_append_cons {key : List Char} (free : '=' ∉ key) (value : List Char) :
    ofPiece (key ++ '=' :: value) = .ok ⟨String.ofList (trim key), trim value⟩ := by
  have before : ∀ c ∈ key, (c == '=') = false := by
    intro c among
    exact beq_eq_false_iff_ne.mpr fun same => free (same ▸ among)
  rw [ofPiece, cut_append_cons before rfl]

theorem ofPiece_of_not_mem {piece : List Char} (free : '=' ∉ piece) :
    ofPiece piece = .error (.malformedOption (String.ofList piece)) := by
  have uncut : cut (· == '=') piece = none := by
    rw [cut_eq_none_iff]
    intro c among
    exact beq_eq_false_iff_ne.mpr fun same => free (same ▸ among)
  rw [ofPiece, uncut]

/-- Blanks around a piece do not matter, if it has an `=`. -/
theorem ofPiece_trim {piece : List Char} (mark : '=' ∈ piece) :
    ofPiece (trim piece) = ofPiece piece := by
  obtain ⟨key, value, rfl, free⟩ := List.eq_append_cons_of_mem mark
  have free' : '=' ∉ trimStart key := fun among => free (trimStart_subset key among)
  rw [trim_append_cons rfl, ofPiece_append_cons free, ofPiece_append_cons free',
    trim_trimStart, trim_trimEnd]

/-- A piece without an `=` is refused with its blanks or without. -/
theorem ofPiece_trim_eq_ok_iff {piece : List Char} :
    ofPiece (trim piece) = .ok o ↔ ofPiece piece = .ok o := by
  by_cases mark : '=' ∈ piece
  · rw [ofPiece_trim mark]
  · rw [ofPiece_of_not_mem mark, ofPiece_of_not_mem fun among => mark (mem_of_mem_trim among)]
    exact ⟨nofun, nofun⟩

/-- The text of the option. -/
def piece (o : KeyValue) : List Char := pieceOf o.key o.value

theorem trim_piece_ne_nil (o : KeyValue) : trim o.piece ≠ [] := by
  simp [piece, pieceOf, trim_append_cons (c := '=') rfl]

/-- The option without blanks around its value. -/
def trimmed (o : KeyValue) : KeyValue := ⟨o.key, trim o.value⟩

theorem trimmed_eq_self (fits : IsValue o.value) : o.trimmed = o := by
  rw [trimmed, fits.1.trim_eq]

/-- A key without marks, and a value without a colon. -/
structure IsPlain (o : KeyValue) : Prop where
  key_plain : IsKey o.key
  value_free : ':' ∉ o.value

namespace IsPlain

theorem piece_free (h : o.IsPlain) : ':' ∉ o.piece := by
  simp only [piece, pieceOf, List.mem_append, List.mem_cons]
  rintro (key | mark | value)
  · exact (h.key_plain.2 _ key).2.1 rfl
  · exact absurd mark (by decide)
  · exact h.value_free value

/-- A plain option is read back from its piece, also if there is another `=` in its value. -/
theorem ofPiece_piece (h : o.IsPlain) : ofPiece o.piece = .ok o.trimmed := by
  have free : '=' ∉ o.key.toList := fun among => (h.key_plain.2 _ among).2.2 rfl
  rw [piece, pieceOf, ofPiece_append_cons free, h.key_plain.isTrimmed.trim_eq,
    String.ofList_toList, trimmed]

end IsPlain

end KeyValue

/-! ## Lists of options -/

/-- Blanks around a text only touch the ends of what stands between its colons. -/
theorem map_trim_splitOn_trim (args : List Char) :
    ((trim args).splitOn ':').map trim = (args.splitOn ':').map trim := by
  have visible : ∀ c, (c == ':') = true → isBlank c = false := by
    intro c mark
    rw [beq_iff_eq.mp mark]
    rfl
  rw [List.splitOn_eq_splitOnP, List.splitOn_eq_splitOnP, map_trim_splitOnP_trim visible]

theorem map_trim_piecesOf_trim (args : List Char) :
    (piecesOf (trim args)).map trim = (piecesOf args).map trim := by
  have trimmed (s : List Char) :
      (piecesOf s).map trim = ((s.splitOn ':').map trim).filter (· ≠ []) := by
    rw [piecesOf, List.filter_map]
    rfl
  rw [trimmed, trimmed, map_trim_splitOn_trim]

/-- Blanks around an option text do not matter. -/
theorem optionsOf_trim_eq_ok_iff {args : List Char} {options : List KeyValue} :
    optionsOf (trim args) = .ok options ↔ optionsOf args = .ok options := by
  have blanks (pieces : List (List Char)) :
      pieces.mapM KeyValue.ofPiece = .ok options
        ↔ (pieces.map trim).mapM KeyValue.ofPiece = .ok options := by
    rw [List.mapM_map]
    exact mapM_eq_ok_congr fun piece o => KeyValue.ofPiece_trim_eq_ok_iff.symm
  rw [optionsOf, optionsOf, blanks, map_trim_piecesOf_trim, ← blanks]

/-- There is something in the piece, and no colon. -/
def IsPiece (piece : List Char) : Prop := trim piece ≠ [] ∧ ':' ∉ piece

theorem isPiece_of_mem_piecesOf {args piece : List Char} (among : piece ∈ piecesOf args) :
    IsPiece piece := by
  obtain ⟨part, visible⟩ := List.mem_filter.mp among
  rw [List.splitOn_eq_splitOnP] at part
  refine ⟨of_decide_eq_true visible, fun colon => ?_⟩
  exact absurd (isMark_of_mem_splitOnP part ':' colon) (by decide)

/-- A text of which pieces are left is not blank. -/
theorem trim_ne_nil_of_piecesOf {args : List Char} (nonempty : piecesOf args ≠ []) :
    trim args ≠ [] := by
  intro blank
  have pieces := map_trim_piecesOf_trim args
  rw [blank] at pieces
  exact nonempty (List.map_eq_nil_iff.mp pieces.symm)

section Pieces

variable {pieces : List (List Char)} (nonempty : pieces ≠ [])
  (plain : ∀ piece ∈ pieces, IsPiece piece)

include nonempty plain

theorem splitOn_joined : ([':'].intercalate pieces).splitOn ':' = pieces :=
  List.splitOn_intercalate _ (fun piece among => (plain piece among).2) nonempty

/-- Pieces, joined by colons, are the pieces of their text. -/
theorem piecesOf_joined : piecesOf ([':'].intercalate pieces) = pieces := by
  rw [piecesOf, splitOn_joined nonempty plain, List.filter_eq_self]
  exact fun piece among => decide_eq_true (plain piece among).1

theorem trim_joined_ne_nil : trim ([':'].intercalate pieces) ≠ [] := by
  refine trim_ne_nil_of_piecesOf ?_
  rwa [piecesOf_joined nonempty plain]

end Pieces

namespace VideoParams

/-- A text is keyed if there is an `=` in what stands before its first colon. -/
theorem isKeyed_iff {args : List Char} :
    IsKeyed args ↔ ∃ first ∈ (args.splitOn ':').head?, '=' ∈ first := by
  by_cases colon : ':' ∈ args
  · obtain ⟨first, rest, rfl, free⟩ := List.eq_append_cons_of_mem colon
    have before : ∀ c ∈ first, decide (c ≠ ':') = true := by
      intro c among
      exact decide_eq_true fun same => free (same ▸ among)
    rw [IsKeyed, List.takeWhile_append_of_pos before, List.splitOn_append_cons_self_of_not_mem free]
    simp
  · have before : ∀ c ∈ args, decide (c ≠ ':') = true := by
      intro c among
      exact decide_eq_true fun same => colon (same ▸ among)
    rw [IsKeyed, List.takeWhile_eq_self_iff.mpr before, List.splitOn_eq_singleton colon]
    simp

/-- Blanks around a text do not matter to its form. -/
theorem isKeyed_trim_iff {args : List Char} : IsKeyed (trim args) ↔ IsKeyed args := by
  have marked (parts : List (List Char)) : (∃ first ∈ parts.head?, '=' ∈ first)
      ↔ ∃ first ∈ (parts.map trim).head?, '=' ∈ first := by
    simp [List.head?_map, mem_trim_iff (c := '=') rfl]
  rw [isKeyed_iff, isKeyed_iff, marked, map_trim_splitOn_trim, ← marked]

theorem parse_of_isKeyed {text : String} (keyed : IsKeyed (trim text.toList)) :
    parse text = ofOptions (trim text.toList) := by
  have nonblank : trim text.toList ≠ [] := by
    intro blank
    rw [blank] at keyed
    cases keyed
  exact (if_neg nonblank).trans (if_pos keyed)

end VideoParams

section Joined

variable {options : List KeyValue} (nonempty : options ≠ []) (plain : ∀ o ∈ options, o.IsPlain)

include plain

theorem forall_isPiece : ∀ piece ∈ options.map KeyValue.piece, IsPiece piece := by
  intro piece among
  obtain ⟨o, within, rfl⟩ := List.mem_map.mp among
  exact ⟨o.trim_piece_ne_nil, (plain o within).piece_free⟩

/-- Plain options are read back from their pieces. -/
theorem mapM_ofPiece_piece : (options.map KeyValue.piece).mapM KeyValue.ofPiece
    = .ok (options.map KeyValue.trimmed) := by
  rw [List.mapM_map]
  exact mapM_eq_pure_map fun o among => (plain o among).ofPiece_piece

include nonempty

/-- Plain options, joined by colons, are all read back. -/
theorem optionsOf_joined : optionsOf ([':'].intercalate (options.map KeyValue.piece))
    = .ok (options.map KeyValue.trimmed) := by
  rw [optionsOf, piecesOf_joined (by simpa using nonempty) (forall_isPiece plain),
    mapM_ofPiece_piece plain]

/-- The text of plain options starts with a key and an `=`. -/
theorem isKeyed_trim_joined :
    VideoParams.IsKeyed (trim ([':'].intercalate (options.map KeyValue.piece))) := by
  rw [VideoParams.isKeyed_trim_iff, VideoParams.isKeyed_iff,
    splitOn_joined (by simpa using nonempty) (forall_isPiece plain)]
  obtain ⟨o, rest, rfl⟩ := List.exists_cons_of_ne_nil nonempty
  exact ⟨o.piece, rfl, by simp [KeyValue.piece, pieceOf]⟩

/-- A text of plain options is read option by option. -/
theorem AudioParams.parse_options : parse (optionText (options.map KeyValue.piece))
    = ((options.map KeyValue.trimmed).mapM AudioSetting.ofOption).map ofSettings := by
  have read := optionsOf_trim_eq_ok_iff.mpr (optionsOf_joined nonempty plain)
  have nonblank := trim_joined_ne_nil (by simpa using nonempty) (forall_isPiece plain)
  rw [parse, optionText, String.toList_ofList]
  simp only [nonblank, if_false, ofOptions, read, ok_bind]
  cases (options.map KeyValue.trimmed).mapM AudioSetting.ofOption <;> rfl

/-- A text of plain options is read option by option. -/
theorem VideoParams.parse_options : parse (optionText (options.map KeyValue.piece))
    = ((options.map KeyValue.trimmed).mapM VideoSetting.ofOption).map ofSettings := by
  have read := optionsOf_trim_eq_ok_iff.mpr (optionsOf_joined nonempty plain)
  have nonblank := trim_joined_ne_nil (by simpa using nonempty) (forall_isPiece plain)
  rw [parse, optionText, String.toList_ofList]
  simp only [nonblank, isKeyed_trim_joined nonempty plain, if_false, if_true, ofOptions, read,
    ok_bind]
  cases (options.map KeyValue.trimmed).mapM VideoSetting.ofOption <;> rfl

end Joined

section Written

variable {σ : Type} {option : σ → KeyValue} {settings : List σ}

theorem forall_isPlain (keys : ∀ s ∈ settings, IsKey (option s).key)
    (fits : ∀ s ∈ settings, IsValue (option s).value) : ∀ o ∈ settings.map option, o.IsPlain := by
  intro o among
  obtain ⟨s, within, rfl⟩ := List.mem_map.mp among
  exact ⟨keys s within, (fits s within).2⟩

/-- Options whose values can stand between colons have nothing to trim. -/
theorem map_trimmed_option (fits : ∀ s ∈ settings, IsValue (option s).value) :
    (settings.map option).map KeyValue.trimmed = settings.map option := by
  rw [List.map_map]
  exact List.map_congr_left fun s among => KeyValue.trimmed_eq_self (fits s among)

/-- Settings whose options are all read back are read as a list. -/
theorem mapM_ofOption {ofOption : KeyValue → Except SetupError σ}
    (each : ∀ s ∈ settings, ofOption (option s) = .ok s) :
    (settings.map option).mapM ofOption = .ok settings := by
  have read : settings.mapM (ofOption ∘ option) = .ok (settings.map id) := mapM_eq_pure_map each
  rw [List.mapM_map, read, List.map_id]

end Written

/-! ## Audio -/

namespace AudioSetting

/-- The key and the value that a setting is written with. -/
def option : AudioSetting → KeyValue
  | .timeBase r => ⟨"time_base", r.chars⟩
  | .sampleRate n => ⟨"sample_rate", decimal n.toNat⟩
  | .sampleFormat f => ⟨"sample_fmt", f.name.toList⟩
  | .channels n => ⟨"channels", decimal n.toNat⟩
  | .layout l => ⟨"channel_layout", l.chars⟩

theorem piece_option (s : AudioSetting) : s.option.piece = s.chars := by
  cases s <;> rfl

theorem map_chars (settings : List AudioSetting) :
    settings.map chars = (settings.map option).map KeyValue.piece := by
  simp [piece_option]

/-- The keys that audio parameters have. -/
def keys : List String := ["time_base", "sample_rate", "sample_fmt", "channels", "channel_layout"]

theorem isKey_option (s : AudioSetting) : IsKey s.option.key := by
  have plain : ∀ key ∈ keys, IsKey key := by decide
  exact plain _ (by cases s <;> simp [option, keys])

theorem isValue_option (s : AudioSetting) : IsValue s.option.value := by
  cases s with
  | timeBase r => exact isValue_fraction r
  | sampleRate n => exact isValue_decimal _
  | sampleFormat f => exact isValue_sampleFormat f
  | channels n => exact isValue_decimal _
  | layout l => exact isValue_layout l

/-- The reader that the key calls for reads the value back. -/
theorem ofOption_option (s : AudioSetting) : ofOption s.option = .ok s := by
  cases s with
  | timeBase r =>
    exact congrArg (Except.map timeBase)
      (KeyValue.readWith_of_trimmed (isValue_fraction r).1 r.read?_chars)
  | sampleRate n =>
    exact congrArg (Except.map sampleRate)
      (KeyValue.readWith_of_trimmed (isValue_decimal _).1 (readUInt32_decimal n))
  | sampleFormat f =>
    have read : KeyValue.readSampleFormat ⟨"sample_fmt", f.name.toList⟩ = .ok f := by
      rw [KeyValue.readSampleFormat_eq_ok_iff, (isValue_sampleFormat f).1.trim_eq,
        String.ofList_toList, SampleFormat.ofName?_name]
    exact congrArg (Except.map sampleFormat) read
  | channels n =>
    exact congrArg (Except.map channels)
      (KeyValue.readWith_of_trimmed (isValue_decimal _).1 (readUInt32_decimal n))
  | layout l =>
    have read : KeyValue.readLayout ⟨"channel_layout", l.chars⟩ = .ok l := by
      rw [KeyValue.readLayout_eq_ok_iff, (isValue_layout l).1.trim_eq, l.read?_chars]
    exact congrArg (Except.map layout) read

end AudioSetting

/-- Settings are read back from their text, and made in its order. -/
theorem AudioParams.parse_optionText {settings : List AudioSetting} (nonempty : settings ≠ []) :
    parse (optionText (settings.map AudioSetting.chars)) = .ok (ofSettings settings) := by
  have fits : ∀ s ∈ settings, IsValue s.option.value := fun s _ => s.isValue_option
  have plain := forall_isPlain (fun s _ => s.isKey_option) fits
  have read := mapM_ofOption fun (s : AudioSetting) (_ : s ∈ settings) => s.ofOption_option
  rw [AudioSetting.map_chars, parse_options (by simpa using nonempty) plain,
    map_trimmed_option fits, read]
  rfl

/-! ## Video -/

namespace VideoSetting

/-- The key and the value that a setting is written with. -/
def option : VideoSetting → KeyValue
  | .timeBase r => ⟨"time_base", r.chars⟩
  | .frameRate r => ⟨"frame_rate", r.chars⟩
  | .pixelAspect r => ⟨"pixel_aspect", r.chars⟩
  | .size s => ⟨"video_size", s.chars⟩
  | .width n => ⟨"width", decimal n.toNat⟩
  | .height n => ⟨"height", decimal n.toNat⟩
  | .pixelFormat f => ⟨"pix_fmt", f.name.toList⟩
  | .scaler text => ⟨"sws_param", text.toList⟩

theorem piece_option (s : VideoSetting) : s.option.piece = s.chars := by
  cases s <;> rfl

theorem map_chars (settings : List VideoSetting) :
    settings.map chars = (settings.map option).map KeyValue.piece := by
  simp [piece_option]

/-- A text can carry the setting: a size is not empty, and a free text can stand between colons. -/
def IsWritable : VideoSetting → Prop
  | .size s => s.width ≠ 0 ∧ s.height ≠ 0
  | .scaler text => IsValue text.toList
  | _ => True

/-- The keys that video parameters have. -/
def keys : List String :=
  ["time_base", "frame_rate", "pixel_aspect", "video_size", "width", "height", "pix_fmt",
   "sws_param"]

variable {s : VideoSetting}

theorem isKey_option (s : VideoSetting) : IsKey s.option.key := by
  have plain : ∀ key ∈ keys, IsKey key := by decide
  exact plain _ (by cases s <;> simp [option, keys])

theorem isValue_option (writable : s.IsWritable) : IsValue s.option.value := by
  cases s with
  | timeBase r | frameRate r | pixelAspect r => exact isValue_fraction r
  | size s => exact isValue_size s
  | width n | height n => exact isValue_decimal _
  | pixelFormat f => exact isValue_pixelFormat f
  | scaler text => exact writable

/-- The reader that the key calls for reads the value back. -/
theorem ofOption_option (writable : s.IsWritable) : ofOption s.option = .ok s := by
  have fraction {key : String} (r : Fraction) :
      KeyValue.readWith ⟨key, r.chars⟩ Fraction.read? = .ok r :=
    KeyValue.readWith_of_trimmed (isValue_fraction r).1 r.read?_chars
  have number {key : String} (n : UInt32) :
      KeyValue.readWith ⟨key, decimal n.toNat⟩ readUInt32 = .ok n :=
    KeyValue.readWith_of_trimmed (isValue_decimal _).1 (readUInt32_decimal n)
  cases s with
  | timeBase r => exact congrArg (Except.map timeBase) (fraction r)
  | frameRate r => exact congrArg (Except.map frameRate) (fraction r)
  | pixelAspect r => exact congrArg (Except.map pixelAspect) (fraction r)
  | size s =>
    exact congrArg (Except.map size)
      (KeyValue.readWith_of_trimmed (isValue_size s).1 (Size.read?_chars writable.1 writable.2))
  | width n => exact congrArg (Except.map width) (number n)
  | height n => exact congrArg (Except.map height) (number n)
  | pixelFormat f =>
    have read : KeyValue.readPixelFormat ⟨"pix_fmt", f.name.toList⟩ = .ok f := by
      rw [KeyValue.readPixelFormat_eq_ok_iff, (isValue_pixelFormat f).1.trim_eq,
        PixelFormat.read?_name]
    exact congrArg (Except.map pixelFormat) read
  | scaler text => exact congrArg (Except.ok ∘ scaler) String.ofList_toList

end VideoSetting

/-- Settings that a text can carry are read back from it, and made in its order. -/
theorem VideoParams.parse_optionText {settings : List VideoSetting} (nonempty : settings ≠ [])
    (writable : ∀ s ∈ settings, s.IsWritable) :
    parse (optionText (settings.map VideoSetting.chars)) = .ok (ofSettings settings) := by
  have fits : ∀ s ∈ settings, IsValue s.option.value := fun s within =>
    VideoSetting.isValue_option (writable s within)
  have plain := forall_isPlain (fun s _ => s.isKey_option) fits
  have read := mapM_ofOption fun s (within : s ∈ settings) =>
    VideoSetting.ofOption_option (writable s within)
  rw [VideoSetting.map_chars, parse_options (by simpa using nonempty) plain,
    map_trimmed_option fits, read]
  rfl

/-! ## Whole parameters -/

/-- The only setting of given parameters that a text may fail to carry is that of the scaler. -/
theorem VideoParams.isWritable_of_mem_settings {p : VideoParams}
    (free : ∀ text ∈ p.scaler, IsValue text.toList) {s : VideoSetting} (among : s ∈ p.settings) :
    s.IsWritable := by
  cases s with
  | size s => simp [settings] at among
  | scaler text => exact free text (by simpa [settings] using among)
  | _ => trivial

/-- **Parameters are read back from their options, in any order.** An option for each parameter
that is present, joined by colons in any order, is read as these parameters: audio parameters of
every rate, count, layout and time base, and video parameters of every size and all fractions,
whose scaler text, if there is one, has no colon and no blanks at its ends. -/
theorem params_read_back :
    (∀ (p : AudioParams) (order : List AudioSetting), order.Perm p.settings →
      AudioParams.parse (optionText (order.map AudioSetting.chars)) = .ok p)
    ∧ ∀ (p : VideoParams) (order : List VideoSetting), order.Perm p.settings →
      (∀ text ∈ p.scaler, ':' ∉ text.toList ∧ IsTrimmed text.toList) →
        VideoParams.parse (optionText (order.map VideoSetting.chars)) = .ok p := by
  constructor
  · intro p order perm
    have nonempty : order ≠ [] := by
      rintro rfl
      simp [AudioParams.settings] at perm
    rw [AudioParams.parse_optionText nonempty, AudioParams.ofSettings_of_perm perm]
  · intro p order perm free
    have nonempty : order ≠ [] := by
      rintro rfl
      simp [VideoParams.settings] at perm
    have writable : ∀ s ∈ order, s.IsWritable := fun s among =>
      VideoParams.isWritable_of_mem_settings (fun text given => (free text given).symm)
        (perm.subset among)
    rw [VideoParams.parse_optionText nonempty writable, VideoParams.ofSettings_of_perm perm]

/-- Audio parameters at the ends of their ranges, with a layout that has no name. -/
def extremeAudio : AudioParams where
  timeBase := some ⟨-2147483648, 0⟩
  sampleRate := 4294967295
  sampleFormat := some .fltp
  layout := Layout.ofMask? 0x8000000000000001

/-- Video parameters at the ends of their ranges, with an `=` in the scaler text. -/
def extremeVideo : VideoParams where
  timeBase := ⟨-1, -25⟩
  frameRate := ⟨0, 0⟩
  width := 4294967295
  pixelFormat := some .p010le
  pixelAspect := ⟨2147483647, -2147483648⟩
  scaler := some "flags=lanczos accurate"

/-- Both are read back from their options in the opposite order. -/
theorem extremeParams_read_back :
    (extremeAudio.settings.reverse.Perm extremeAudio.settings
        ∧ AudioParams.parse (optionText (extremeAudio.settings.reverse.map AudioSetting.chars))
          = .ok extremeAudio)
      ∧ extremeVideo.settings.reverse.Perm extremeVideo.settings
      ∧ (∀ text ∈ extremeVideo.scaler, ':' ∉ text.toList ∧ IsTrimmed text.toList)
      ∧ VideoParams.parse (optionText (extremeVideo.settings.reverse.map VideoSetting.chars))
        = .ok extremeVideo := by
  have audio := List.reverse_perm extremeAudio.settings
  have video := List.reverse_perm extremeVideo.settings
  have free : ∀ text ∈ extremeVideo.scaler, ':' ∉ text.toList ∧ IsTrimmed text.toList := by decide
  exact ⟨⟨audio, params_read_back.1 _ _ audio⟩, video, free, params_read_back.2 _ _ video free⟩

example : optionText (extremeAudio.settings.reverse.map AudioSetting.chars)
    = "time_base=-2147483648/0:channel_layout=FL+0x8000000000000000:channels=0:"
      ++ "sample_fmt=fltp:sample_rate=4294967295" := by
  decide

end FrameIngest
