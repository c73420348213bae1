/-
FrameIngest.Proofs.Stream.OptionReader — readers of lists of options.

Of a text that is a list of options, nothing is read but its pieces, each as if
it stood alone. The text is read if they all are; and each parameter has the
value that it has in the last piece whose key sets it, or its default. A reader
of which this holds *composes* its pieces (`OptionReader.Composes`), and then
blank pieces are skipped, a piece is lost if all it sets is set again, and
pieces that set no parameter in common may change places. Which piece an error
names is not part of it, since the first that cannot be read does.

All of it follows from what a reader does with its settings
(`OptionReader.Makes`): each piece makes one, which changes the parameters that
the key of the piece sets, and they are made in order.

* `Parameter`, `OptionReader` — the parameters of a reader, and the keys that
  set them;
* `given?` — the value of a parameter in one piece;
* `Reads`, `parse_eq_ok_iff` — texts of which the pieces are known;
* `Makes.composes` — readers that make settings compose.
-/
import FrameIngest.Proofs.Stream.OptionText

namespace FrameIngest

open Text

/-! ## Readers of options -/

/-- One of the parameters `P`, with the keys of the options that set it. -/
structure Parameter (P : Type) where
  {Value : Type}
  keys : List String
  get : P → Value

/-- How the parameters `P` are read from options. -/
structure OptionReader (P : Type) where
  parse : String → Except SetupError P
  /-- What no option changes. -/
  defaults : P
  parameters : List (Parameter P)
  /-- The texts that are lists of options. -/
  IsList : String → Prop

/-- The key of a piece: what stands before its first `=`, trimmed. -/
def keyOf (piece : List Char) : String := String.ofList (trim (piece.takeWhile (· ≠ '=')))

/-- A piece is cut at its first `=`. -/
theorem keyOf_append_cons {key : List Char} (free : '=' ∉ key) (value : List Char) :
    keyOf (key ++ '=' :: value) = String.ofList (trim key) := by
  have before : ∀ c ∈ key, decide (c ≠ '=') = true := by
    intro c among
    exact decide_eq_true fun same => free (same ▸ among)
  rw [keyOf, List.takeWhile_append_of_pos before]
  simp

namespace Parameter

variable {P : Type}

/-- The key of the piece sets the parameter. -/
def IsSetBy (a : Parameter P) (piece : List Char) : Prop := keyOf piece ∈ a.keys

instance (a : Parameter P) (piece : List Char) : Decidable (a.IsSetBy piece) :=
  inferInstanceAs (Decidable (_ ∈ _))

end Parameter

namespace OptionReader

variable {P : Type} (r : OptionReader P)

/-- The piece is read as a text of its own. -/
def Accepts (piece : List Char) : Prop := ∃ q, r.parse (String.ofList piece) = .ok q

/-- The value that a parameter has in a piece that sets it, when this is read alone. -/
def given? (a : Parameter P) (piece : List Char) : Option a.Value :=
  if a.IsSetBy piece then (r.parse (String.ofList piece)).toOption.map a.get else none

variable {r} {a : Parameter P} {piece : List Char}

theorem isSetBy_of_given? (given : (r.given? a piece).isSome) : a.IsSetBy piece := by
  unfold given? at given
  split at given
  · assumption
  · cases given

theorem isSome_given? (accepted : r.Accepts piece) (set : a.IsSetBy piece) :
    (r.given? a piece).isSome := by
  obtain ⟨q, read⟩ := accepted
  rw [given?, if_pos set, read]
  rfl

/-- A piece does not matter if all it sets is set again later. -/
theorem latest_of_set_again {before after : List (List Char)}
    (accepted : ∀ later ∈ after, r.Accepts later)
    (again : a.IsSetBy piece → ∃ later ∈ after, a.IsSetBy later) (value : a.Value) :
    latest (r.given? a) (before ++ piece :: after) value
      = latest (r.given? a) (before ++ after) value := by
  rw [latest_append, latest_cons, latest_append]
  by_cases set : a.IsSetBy piece
  · obtain ⟨later, among, setLater⟩ := again set
    exact latest_eq_of_given ⟨later, among, isSome_given? (accepted later among) setLater⟩ _ _
  · rw [given?, if_neg set]
    rfl

variable (r)

/-- Lists of options are read piece by piece. -/
structure Composes : Prop where
  /-- There is nothing in `P` but the parameters. -/
  complete : ∀ p q : P, (∀ a ∈ r.parameters, a.get p = a.get q) → p = q
  /-- A text is read if each of its pieces is. -/
  accepts_iff : ∀ text, r.IsList text →
    ((∃ p, r.parse text = .ok p) ↔ ∀ piece ∈ piecesOf text.toList, r.Accepts piece)
  /-- The last piece that sets a parameter gives it its value; else it has its default. -/
  last_given : ∀ text, r.IsList text → ∀ p, r.parse text = .ok p → ∀ a ∈ r.parameters,
    a.get p = latest (r.given? a) (piecesOf text.toList) (a.get r.defaults)
  /-- Texts that differ in blank pieces are read alike. -/
  blank_skipped : ∀ text text', r.IsList text → r.IsList text' →
    piecesOf text'.toList = piecesOf text.toList →
      ∀ p, r.parse text' = .ok p ↔ r.parse text = .ok p
  /-- A piece whose parameters are all set again later, as they are if its key is repeated, can be
  left out, if it is read at all. -/
  repeated_last : ∀ text text', r.IsList text → r.IsList text' → ∀ before piece after,
    piecesOf text.toList = before ++ piece :: after → piecesOf text'.toList = before ++ after →
    (∀ a ∈ r.parameters, a.IsSetBy piece → ∃ later ∈ after, a.IsSetBy later) →
      ∀ p, r.parse text = .ok p ↔ r.Accepts piece ∧ r.parse text' = .ok p
  /-- The pieces may be put in another order in which those that set a parameter in common keep
  theirs, so in any order if no two of them do. -/
  order_free : ∀ text, r.IsList text → ∀ order, order ≠ [] → order.Perm (piecesOf text.toList) →
    (∀ a ∈ r.parameters, order.filter a.IsSetBy = (piecesOf text.toList).filter a.IsSetBy) →
      ∀ p, r.parse (optionText order) = .ok p ↔ r.parse text = .ok p

/-! ## Settings -/

section Makes

variable {σ : Type} (ofOption : KeyValue → Except SetupError σ) (apply : P → σ → P)

/-- The setting that a piece makes. -/
def settingOf (piece : List Char) : Except SetupError σ := KeyValue.ofPiece piece >>= ofOption

/-- The text is read as the settings of the pieces, made in order. -/
def Reads (text : String) (pieces : List (List Char)) : Prop :=
  ∀ p, r.parse text = .ok p
    ↔ ∃ settings, pieces.mapM (settingOf ofOption) = .ok settings
        ∧ p = settings.foldl apply r.defaults

/-- What a reader does with its settings. -/
structure Makes : Prop where
  complete : ∀ p q : P, (∀ a ∈ r.parameters, a.get p = a.get q) → p = q
  /-- A setting changes the parameters that its key sets, whatever was there, and no other. -/
  sets : ∀ a ∈ r.parameters, ∀ o s, ofOption o = .ok s → ∀ p,
    a.get (apply p s) = if o.key ∈ a.keys then a.get (apply r.defaults s) else a.get p
  whole : ∀ text, r.IsList text → r.Reads ofOption apply text (piecesOf text.toList)
  alone : ∀ piece, IsPiece piece → r.Reads ofOption apply (String.ofList piece) [piece]
  joined : ∀ text, r.IsList text → ∀ order, order ≠ [] → order.Perm (piecesOf text.toList) →
    r.Reads ofOption apply (optionText order) order

/-! ### What a piece gives -/

variable {r ofOption apply}

/-- The setting of a piece is that of an option with the key of the piece. -/
theorem exists_option_of_settingOf {piece : List Char} {s : σ}
    (made : settingOf ofOption piece = .ok s) : ∃ o, ofOption o = .ok s ∧ o.key = keyOf piece := by
  obtain ⟨o, option, read⟩ := bind_eq_ok_iff.mp made
  refine ⟨o, read, ?_⟩
  by_cases mark : '=' ∈ piece
  · obtain ⟨key, value, rfl, free⟩ := List.eq_append_cons_of_mem mark
    rw [KeyValue.ofPiece_append_cons free] at option
    cases option
    exact (keyOf_append_cons free value).symm
  · rw [KeyValue.ofPiece_of_not_mem mark] at option
    cases option

namespace Makes

variable (m : r.Makes ofOption apply)

include m

/-- A piece is read alone as its setting, made on the defaults. -/
theorem parse_piece_eq_ok_iff {piece : List Char} (plain : IsPiece piece) {q : P} :
    r.parse (String.ofList piece) = .ok q
      ↔ ∃ s, settingOf ofOption piece = .ok s ∧ q = apply r.defaults s := by
  rw [m.alone piece plain q]
  constructor
  · rintro ⟨_, read, rfl⟩
    obtain ⟨s, made, _, rest_made, rfl⟩ := mapM_cons_eq_ok_iff.mp read
    cases mapM_nil_eq_ok_iff.mp rest_made
    exact ⟨s, made, rfl⟩
  · rintro ⟨s, made, rfl⟩
    exact ⟨[s], mapM_cons_eq_ok_iff.mpr ⟨s, made, [], rfl, rfl⟩, rfl⟩

theorem accepts_iff {piece : List Char} (plain : IsPiece piece) :
    r.Accepts piece ↔ ∃ s, settingOf ofOption piece = .ok s := by
  constructor
  · rintro ⟨q, read⟩
    obtain ⟨s, made, _⟩ := (m.parse_piece_eq_ok_iff plain).mp read
    exact ⟨s, made⟩
  · rintro ⟨s, made⟩
    exact ⟨_, (m.parse_piece_eq_ok_iff plain).mpr ⟨s, made, rfl⟩⟩

/-- A piece gives a parameter the value that its setting makes, or leaves it as it was. -/
theorem get_apply {piece : List Char} (plain : IsPiece piece) {s : σ}
    (made : settingOf ofOption piece = .ok s) {a : Parameter P} (among : a ∈ r.parameters) (p : P) :
    a.get (apply p s) = (r.given? a piece).getD (a.get p) := by
  obtain ⟨o, read, key⟩ := exists_option_of_settingOf made
  rw [m.sets a among o s read p, key, given?,
    (m.parse_piece_eq_ok_iff plain).mpr ⟨s, made, rfl⟩]
  by_cases set : keyOf piece ∈ a.keys
  · rw [if_pos set, if_pos (show a.IsSetBy piece from set)]
    rfl
  · rw [if_neg set, if_neg (show ¬ a.IsSetBy piece from set)]
    rfl

/-- Each parameter has the last value that the pieces give it. -/
theorem get_foldl {pieces : List (List Char)} (plain : ∀ piece ∈ pieces, IsPiece piece)
    {settings : List σ} (made : pieces.mapM (settingOf ofOption) = .ok settings) {a : Parameter P}
    (among : a ∈ r.parameters) (p : P) :
    a.get (settings.foldl apply p) = latest (r.given? a) pieces (a.get p) := by
  induction pieces generalizing settings p with
  | nil =>
    cases mapM_nil_eq_ok_iff.mp made
    rfl
  | cons piece pieces ih =>
    obtain ⟨first, others⟩ := List.forall_mem_cons.mp plain
    obtain ⟨s, makes, rest, later, rfl⟩ := mapM_cons_eq_ok_iff.mp made
    rw [List.foldl_cons, ih others later, m.get_apply first makes among, latest_cons]

section Reads

variable {text : String} {pieces : List (List Char)} (reads : r.Reads ofOption apply text pieces)
  (plain : ∀ piece ∈ pieces, IsPiece piece)

include reads plain

/-- A text is read if each of its pieces is. -/
theorem exists_parse_iff : (∃ p, r.parse text = .ok p) ↔ ∀ piece ∈ pieces, r.Accepts piece := by
  have each : (∀ piece ∈ pieces, r.Accepts piece)
      ↔ ∀ piece ∈ pieces, ∃ s, settingOf ofOption piece = .ok s :=
    forall₂_congr fun piece among => m.accepts_iff (plain piece among)
  rw [each, ← exists_mapM_eq_ok_iff]
  constructor
  · rintro ⟨p, read⟩
    obtain ⟨settings, made, _⟩ := (reads p).mp read
    exact ⟨settings, made⟩
  · rintro ⟨settings, made⟩
    exact ⟨_, (reads _).mpr ⟨settings, made, rfl⟩⟩

/-- A text is read as what its pieces give. -/
theorem parse_eq_ok_iff {p : P} : r.parse text = .ok p ↔
    (∀ piece ∈ pieces, r.Accepts piece)
      ∧ ∀ a ∈ r.parameters, a.get p = latest (r.given? a) pieces (a.get r.defaults) := by
  have gives {q : P} (read : r.parse text = .ok q) (a : Parameter P) (among : a ∈ r.parameters) :
      a.get q = latest (r.given? a) pieces (a.get r.defaults) := by
    obtain ⟨settings, made, rfl⟩ := (reads q).mp read
    exact m.get_foldl plain made among r.defaults
  constructor
  · intro read
    exact ⟨(m.exists_parse_iff reads plain).mp ⟨p, read⟩, gives read⟩
  · rintro ⟨accepted, given⟩
    obtain ⟨q, read⟩ := (m.exists_parse_iff reads plain).mpr accepted
    have same : q = p := m.complete q p fun a among =>
      (gives read a among).trans (given a among).symm
    rw [read, same]

end Reads

/-! ### What follows for texts -/

variable {text text' : String} {p : P}

theorem repeated_last {before after : List (List Char)} {piece : List Char}
    (reads : r.Reads ofOption apply text (before ++ piece :: after))
    (reads' : r.Reads ofOption apply text' (before ++ after))
    (plain : ∀ piece' ∈ before ++ piece :: after, IsPiece piece')
    (again : ∀ a ∈ r.parameters, a.IsSetBy piece → ∃ later ∈ after, a.IsSetBy later) :
    r.parse text = .ok p ↔ r.Accepts piece ∧ r.parse text' = .ok p := by
  have plain' : ∀ piece' ∈ before ++ after, IsPiece piece' := by
    rw [List.forall_mem_append, List.forall_mem_cons] at plain
    exact List.forall_mem_append.mpr ⟨plain.1, plain.2.2⟩
  rw [m.parse_eq_ok_iff reads plain, m.parse_eq_ok_iff reads' plain']
  simp only [List.forall_mem_append, List.forall_mem_cons]
  constructor
  · rintro ⟨⟨first, this, rest⟩, given⟩
    exact ⟨this, ⟨first, rest⟩, fun a among =>
      (given a among).trans (latest_of_set_again rest (again a among) _)⟩
  · rintro ⟨this, ⟨first, rest⟩, given⟩
    exact ⟨⟨first, this, rest⟩, fun a among =>
      (given a among).trans (latest_of_set_again rest (again a among) _).symm⟩

theorem order_free {pieces order : List (List Char)} (reads : r.Reads ofOption apply text pieces)
    (reads' : r.Reads ofOption apply text' order) (plain : ∀ piece ∈ pieces, IsPiece piece)
    (perm : order.Perm pieces)
    (same : ∀ a ∈ r.parameters, order.filter a.IsSetBy = pieces.filter a.IsSetBy) :
    r.parse text' = .ok p ↔ r.parse text = .ok p := by
  have plain' : ∀ piece ∈ order, IsPiece piece := fun piece among => plain piece (perm.subset among)
  have kept {a : Parameter P} (piece : List Char) (given : (r.given? a piece).isSome) :
      decide (a.IsSetBy piece) = true := decide_eq_true (isSetBy_of_given? given)
  rw [m.parse_eq_ok_iff reads plain, m.parse_eq_ok_iff reads' plain']
  refine and_congr ⟨fun each piece among => each piece (perm.mem_iff.mpr among),
    fun each piece among => each piece (perm.mem_iff.mp among)⟩ (forall₂_congr fun a among => ?_)
  rw [← latest_filter kept order, same a among, latest_filter kept]

theorem composes : r.Composes where
  complete := m.complete
  accepts_iff text lists := m.exists_parse_iff (m.whole text lists) fun _ => isPiece_of_mem_piecesOf
  last_given text lists p read :=
    ((m.parse_eq_ok_iff (m.whole text lists) fun _ => isPiece_of_mem_piecesOf).mp read).2
  blank_skipped text text' lists lists' same p :=
    m.order_free (m.whole text lists) (m.whole text' lists') (fun _ => isPiece_of_mem_piecesOf)
      (.of_eq same) (fun a _ => by rw [same])
  repeated_last text text' lists lists' before piece after parted parted' again p := by
    have plain : ∀ piece ∈ piecesOf text.toList, IsPiece piece := fun _ => isPiece_of_mem_piecesOf
    rw [parted] at plain
    exact m.repeated_last (parted ▸ m.whole text lists) (parted' ▸ m.whole text' lists') plain again
  order_free text lists order nonempty perm same p :=
    m.order_free (m.whole text lists) (m.joined text lists order nonempty perm)
      (fun _ => isPiece_of_mem_piecesOf) perm same

end Makes

end Makes

end OptionReader

end FrameIngest
