/-
FrameIngest.Sound.Speaker — speaker positions.

Each position has a short name and a bit of its own in a 64-bit mask.

* `Speaker` — the named positions, `all` of them in the order of their bits;
* `maskOf` — the mask of a set of speakers.
-/

namespace FrameIngest

/-- A named speaker position. -/
inductive Speaker where
  | frontLeft
  | frontRight
  | frontCenter
  | lowFrequency
  | backLeft
  | backRight
  | frontLeftOfCenter
  | frontRightOfCenter
  | backCenter
  | sideLeft
  | sideRight
  | topCenter
  | topFrontLeft
  | topFrontCenter
  | topFrontRight
  | topBackLeft
  | topBackCenter
  | topBackRight
  | downmixLeft
  | downmixRight
  deriving DecidableEq, Repr

namespace Speaker

/-- Every named position, in the order of the bits. -/
def all : List Speaker :=
  [.frontLeft, .frontRight, .frontCenter, .lowFrequency, .backLeft, .backRight,
   .frontLeftOfCenter, .frontRightOfCenter, .backCenter, .sideLeft, .sideRight, .topCenter,
   .topFrontLeft, .topFrontCenter, .topFrontRight, .topBackLeft, .topBackCenter, .topBackRight,
   .downmixLeft, .downmixRight]

/-- The short name. -/
def name : Speaker → String
  | .frontLeft => "FL"
  | .frontRight => "FR"
  | .frontCenter => "FC"
  | .lowFrequency => "LFE"
  | .backLeft => "BL"
  | .backRight => "BR"
  | .frontLeftOfCenter => "FLC"
  | .frontRightOfCenter => "FRC"
  | .backCenter => "BC"
  | .sideLeft => "SL"
  | .sideRight => "SR"
  | .topCenter => "TC"
  | .topFrontLeft => "TFL"
  | .topFrontCenter => "TFC"
  | .topFrontRight => "TFR"
  | .topBackLeft => "TBL"
  | .topBackCenter => "TBC"
  | .topBackRight => "TBR"
  | .downmixLeft => "DL"
  | .downmixRight => "DR"

/-- The number of the speaker's bit. -/
def bit : Speaker → Nat
  | .frontLeft => 0
  | .frontRight => 1
  | .frontCenter => 2
  | .lowFrequency => 3
  | .backLeft => 4
  | .backRight => 5
  | .frontLeftOfCenter => 6
  | .frontRightOfCenter => 7
  | .backCenter => 8
  | .sideLeft => 9
  | .sideRight => 10
  | .topCenter => 11
  | .topFrontLeft => 12
  | .topFrontCenter => 13
  | .topFrontRight => 14
  | .topBackLeft => 15
  | .topBackCenter => 16
  | .topBackRight => 17
  | .downmixLeft => 29
  | .downmixRight => 30

/-- The mask that holds the speaker alone. -/
def mask (s : Speaker) : UInt64 := 1 <<< (UInt64.ofNat s.bit)

/-- The mask that holds exactly the given speakers. -/
def maskOf (speakers : List Speaker) : UInt64 :=
  speakers.foldl (fun m s => m ||| s.mask) 0

/-- The speaker of a name. -/
def ofName? (s : String) : Option Speaker := all.find? (·.name = s)

end Speaker

end FrameIngest
