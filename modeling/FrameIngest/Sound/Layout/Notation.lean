/-
FrameIngest.Sound.Layout.Notation — layouts as texts.

A layout is written by its standard name if it has one, and else as the names
of its speakers and a hexadecimal mask of its other bits, joined by `+`. More
is read than is written: parts may also be joined by a bar, may be trimmed,
may be counts such as `6c`, and may be masks in either base.

* `chars`, `ToString` — the written form;
* `partMask?` — what one part of a text stands for;
* `parse` — the union of the parts of a text.
-/
import FrameIngest.Sound.Layout
import FrameIngest.Text.Blank
import FrameIngest.Text.Misread
import FrameIngest.Text.Numeral

namespace FrameIngest

namespace Layout

open Text

/-! ## Writing -/

/-- The named speakers of a mask, in the order of their bits. -/
def speakers (mask : UInt64) : List Speaker :=
  Speaker.all.filter fun s => mask &&& s.mask ≠ 0

/-- The bits of a mask that no speaker names. -/
def unnamedBits (mask : UInt64) : UInt64 := mask &&& ~~~(Speaker.maskOf Speaker.all)

/-- The parts that a layout without a standard name is written in. -/
def parts (mask : UInt64) : List (List Char) :=
  (speakers mask).map (fun s => s.name.toList)
    ++ if unnamedBits mask = 0 then [] else [hexadecimal (unnamedBits mask).toNat]

/-- The written form of a layout. -/
def chars (l : Layout) : List Char :=
  match l.name? with
  | some name => name.toList
  | none => ['+'].intercalate (parts l.mask)

instance : ToString Layout := ⟨fun l => String.ofList l.chars⟩

/-! ## Reading -/

/-- The marks that join the parts of a layout. -/
def isJoin (c : Char) : Bool := c == '+' || c == '|'

/-- The count in a part such as `6c`. -/
def countPart? (s : List Char) : Option UInt32 :=
  match s.getLast? with
  | some 'c' => readUInt32 s.dropLast
  | _ => none

/-- The number in a part such as `0x3f` or `63`. -/
def maskPart? : List Char → Option UInt64
  | '0' :: 'x' :: digits => readHex digits
  | '0' :: 'X' :: digits => readHex digits
  | digits => readUInt64 digits

/-- The layout that one trimmed part stands for: a standard name, a speaker, a count of channels
that has a usual layout, or a mask. -/
def part? (s : List Char) : Option Layout :=
  match standardMask? (String.ofList s) with
  | some mask => ofMask? mask
  | none =>
    match Speaker.ofName? (String.ofList s) with
    | some speaker => ofMask? speaker.mask
    | none =>
      match countPart? s with
      | some count => ofCount? count
      | none => (maskPart? s).bind ofMask?

/-- The union of the masks of all parts. -/
def union (layouts : List Layout) : UInt64 := layouts.foldl (fun m l => m ||| l.mask) 0

/-- The layout that a trimmed text writes. -/
def read? (s : List Char) : Option Layout :=
  if s = [] then none
  else ((s.splitOnP isJoin).mapM fun part => part? (trim part)).bind fun ls => ofMask? (union ls)

/-- The layout that a text writes between blanks. -/
def parse (text : String) : Except Misread Layout :=
  let s := trim text.toList
  match read? s with
  | some l => .ok l
  | none => .error (.layout (String.ofList s))

end Layout

instance : ToString ChannelSpec where
  toString
    | .layout l => toString l
    | .count n => s!"{n} channels"

end FrameIngest
