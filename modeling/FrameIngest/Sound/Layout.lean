/-
FrameIngest.Sound.Layout — channel layouts.

A layout is a nonempty set of speaker positions, held as a 64-bit mask; bits
without a speaker's name are allowed. It carries as many channels as it has
bits.

* `Layout` — the mask, with the proof that it is not empty;
* `standard` — the layouts that have a name of their own;
* `ofCount?` — the layout that a count of channels usually means;
* `ChannelSpec` — a layout, or a bare count of channels.
-/
import FrameIngest.Sound.Speaker

namespace FrameIngest

/-- A nonempty set of speaker positions. -/
structure Layout where
  mask : UInt64
  mask_ne_zero : mask ≠ 0
  deriving DecidableEq, Repr

namespace Layout

/-- The layout of a mask, unless the mask is empty. -/
def ofMask? (mask : UInt64) : Option Layout :=
  if h : mask = 0 then none else some ⟨mask, h⟩

@[simp] theorem ofMask?_mask (l : Layout) : ofMask? l.mask = some l := by
  simp [ofMask?, l.mask_ne_zero]

theorem mask_of_ofMask? {m : UInt64} {l : Layout} (h : ofMask? m = some l) : l.mask = m := by
  unfold ofMask? at h
  split at h
  · simp at h
  · cases h; rfl

@[simp] theorem ofMask?_eq_none_iff {m : UInt64} : ofMask? m = none ↔ m = 0 := by
  simp [ofMask?]

/-- How many of the 64 bits are set. -/
def bitCount (mask : UInt64) : Nat :=
  (List.range 64).countP fun i => mask.toNat.testBit i

/-- How many channels the layout carries: one for each bit. -/
def channels (l : Layout) : UInt32 := .ofNat (bitCount l.mask)

/-! ## Standard layouts -/

open Speaker in
/-- The speakers of the layouts that have a name. -/
def standardSpeakers : List (String × List Speaker) :=
  [("mono", [frontCenter]),
   ("stereo", [frontLeft, frontRight]),
   ("2.1", [frontLeft, frontRight, lowFrequency]),
   ("3.0", [frontLeft, frontRight, frontCenter]),
   ("3.0(back)", [frontLeft, frontRight, backCenter]),
   ("3.1", [frontLeft, frontRight, frontCenter, lowFrequency]),
   ("4.0", [frontLeft, frontRight, frontCenter, backCenter]),
   ("4.1", [frontLeft, frontRight, frontCenter, backCenter, lowFrequency]),
   ("quad", [frontLeft, frontRight, backLeft, backRight]),
   ("quad(side)", [frontLeft, frontRight, sideLeft, sideRight]),
   ("5.0", [frontLeft, frontRight, frontCenter, backLeft, backRight]),
   ("5.0(side)", [frontLeft, frontRight, frontCenter, sideLeft, sideRight]),
   ("5.1", [frontLeft, frontRight, frontCenter, backLeft, backRight, lowFrequency]),
   ("5.1(side)", [frontLeft, frontRight, frontCenter, sideLeft, sideRight, lowFrequency]),
   ("6.0", [frontLeft, frontRight, frontCenter, sideLeft, sideRight, backCenter]),
   ("6.1", [frontLeft, frontRight, frontCenter, sideLeft, sideRight, backCenter, lowFrequency]),
   ("7.0", [frontLeft, frontRight, frontCenter, backLeft, backRight, sideLeft, sideRight]),
   ("7.1", [frontLeft, frontRight, frontCenter, backLeft, backRight, sideLeft, sideRight,
     lowFrequency]),
   ("7.1(wide)", [frontLeft, frontRight, frontCenter, backLeft, backRight, frontLeftOfCenter,
     frontRightOfCenter, lowFrequency]),
   ("downmix", [downmixLeft, downmixRight])]

/-- The layouts that have a name, as masks. -/
def standard : List (String × UInt64) :=
  standardSpeakers.map fun (name, speakers) => (name, Speaker.maskOf speakers)

/-- The mask of a standard name. -/
def standardMask? (name : String) : Option UInt64 :=
  (standard.find? (·.1 = name)).map (·.2)

/-- The standard name of a layout, if it has one. -/
def name? (l : Layout) : Option String :=
  (standard.find? (·.2 = l.mask)).map (·.1)

/-- The name of the layout that `count` channels usually have. -/
def usualName? : UInt32 → Option String
  | 1 => some "mono"
  | 2 => some "stereo"
  | 3 => some "2.1"
  | 4 => some "4.0"
  | 5 => some "5.0"
  | 6 => some "5.1"
  | 7 => some "6.1"
  | 8 => some "7.1"
  | _ => none

/-- The layout that `count` channels usually have. -/
def ofCount? (count : UInt32) : Option Layout :=
  ((usualName? count).bind standardMask?).bind ofMask?

end Layout

/-- What is known of a stream's channels: their layout, or only how many they are. -/
inductive ChannelSpec where
  | layout (layout : Layout)
  | count (count : UInt32)
  deriving DecidableEq, Repr

namespace ChannelSpec

/-- How many channels are described. -/
def channels : ChannelSpec → UInt32
  | .layout l => l.channels
  | .count n => n

/-- The layout, if it is known. -/
def layout? : ChannelSpec → Option Layout
  | .layout l => some l
  | .count _ => none

end ChannelSpec

end FrameIngest
