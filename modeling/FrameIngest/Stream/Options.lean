/-
FrameIngest.Stream.Options — parameters from option texts.

An option text is a list of `key=value` pieces between colons. Every piece
becomes one *setting*; the parameters are the defaults with the settings made
one after the other, so a later piece wins over an earlier one. Video
parameters can also be written as seven bare fields.

* `optionsOf` — the keys and values of a text; blank pieces are skipped, and a
  piece without `=` is refused before any key is looked at;
* `VideoSetting`, `AudioSetting` — what one piece sets, with the reader
  `ofOption` and the writer `chars`;
* `VideoParams.parse`, `AudioParams.parse`, `Params.parse` — whole texts;
* `VideoParams.settings`, `AudioParams.settings` — settings that make given
  parameters.
-/
import FrameIngest.Fraction.Reading
import FrameIngest.Picture.Size
import FrameIngest.Stream.Params

namespace FrameIngest

open Text

/-! ## Keys and values -/

/-- A key and its value, as text. -/
structure KeyValue where
  key : String
  value : List Char
  deriving DecidableEq, Repr

namespace KeyValue

/-- The key and the value of one piece: what stands around its first `=`, trimmed. -/
def ofPiece (piece : List Char) : Except SetupError KeyValue :=
  match cut (· == '=') piece with
  | some (key, value) => .ok ⟨String.ofList (trim key), trim value⟩
  | none => .error (.malformedOption (String.ofList piece))

/-- The value as the reader `read?` understands it between blanks, or the error that names it. -/
def readWith {α : Type} (o : KeyValue) (read? : List Char → Option α) : Except SetupError α :=
  match read? (trim o.value) with
  | some a => .ok a
  | none => .error (.invalidValue o.key (String.ofList o.value))

def readPixelFormat (o : KeyValue) : Except SetupError PixelFormat :=
  match PixelFormat.read? (trim o.value) with
  | some f => .ok f
  | none => .error (.invalidPixelFormat (String.ofList o.value))

def readSampleFormat (o : KeyValue) : Except SetupError SampleFormat :=
  match SampleFormat.ofName? (String.ofList (trim o.value)) with
  | some f => .ok f
  | none => .error (.invalidSampleFormat (String.ofList o.value))

def readLayout (o : KeyValue) : Except SetupError Layout :=
  match Layout.read? (trim o.value) with
  | some l => .ok l
  | none => .error (.invalidLayout (String.ofList o.value))

end KeyValue

/-- The pieces of an option text that are not blank. -/
def piecesOf (args : List Char) : List (List Char) :=
  (args.splitOn ':').filter fun piece => trim piece ≠ []

/-- The keys and values of an option text, or the first piece that has none. -/
def optionsOf (args : List Char) : Except SetupError (List KeyValue) :=
  (piecesOf args).mapM KeyValue.ofPiece

/-- A piece of an option text. -/
def pieceOf (key : String) (value : List Char) : List Char := key.toList ++ '=' :: value

/-! ## Video -/

/-- What one piece of a video option text sets. -/
inductive VideoSetting where
  | timeBase (timeBase : Fraction)
  | frameRate (frameRate : Fraction)
  | pixelAspect (pixelAspect : Fraction)
  | size (size : Size)
  | width (width : UInt32)
  | height (height : UInt32)
  | pixelFormat (format : PixelFormat)
  | scaler (text : String)
  deriving DecidableEq, Repr

namespace VideoSetting

def ofOption (o : KeyValue) : Except SetupError VideoSetting :=
  match o.key with
  | "time_base" => (o.readWith Fraction.read?).map .timeBase
  | "frame_rate" => (o.readWith Fraction.read?).map .frameRate
  | "pixel_aspect" => (o.readWith Fraction.read?).map .pixelAspect
  | "video_size" => (o.readWith Size.read?).map .size
  | "width" => (o.readWith readUInt32).map .width
  | "height" => (o.readWith readUInt32).map .height
  | "pix_fmt" => o.readPixelFormat.map .pixelFormat
  | "sws_param" => .ok (.scaler (String.ofList o.value))
  | key => .error (.unknownOption key .video)

def apply (p : VideoParams) : VideoSetting → VideoParams
  | .timeBase r => { p with timeBase := r }
  | .frameRate r => { p with frameRate := r }
  | .pixelAspect r => { p with pixelAspect := r }
  | .size s => { p with width := s.width, height := s.height }
  | .width n => { p with width := n }
  | .height n => { p with height := n }
  | .pixelFormat f => { p with pixelFormat := some f }
  | .scaler text => { p with scaler := some text }

def chars : VideoSetting → List Char
  | .timeBase r => pieceOf "time_base" r.chars
  | .frameRate r => pieceOf "frame_rate" r.chars
  | .pixelAspect r => pieceOf "pixel_aspect" r.chars
  | .size s => pieceOf "video_size" s.chars
  | .width n => pieceOf "width" (decimal n.toNat)
  | .height n => pieceOf "height" (decimal n.toNat)
  | .pixelFormat f => pieceOf "pix_fmt" f.name.toList
  | .scaler text => pieceOf "sws_param" text.toList

end VideoSetting

namespace VideoParams

/-- The defaults with all settings made, in order. -/
def ofSettings (settings : List VideoSetting) : VideoParams :=
  settings.foldl VideoSetting.apply {}

/-- Settings that make the parameters out of the defaults. -/
def settings (p : VideoParams) : List VideoSetting :=
  [.width p.width, .height p.height] ++ (p.pixelFormat.map .pixelFormat).toList
    ++ [.timeBase p.timeBase, .frameRate p.frameRate, .pixelAspect p.pixelAspect]
    ++ (p.scaler.map .scaler).toList

/-- The keyed form: a setting for each piece. -/
def ofOptions (args : List Char) : Except SetupError VideoParams := do
  let options ← optionsOf args
  let settings ← options.mapM VideoSetting.ofOption
  return ofSettings settings

/-- The positional form: width, height, pixel format, and the terms of time base and pixel
aspect. -/
def ofFields (args : List Char) : Except SetupError VideoParams :=
  match args.splitOn ':' with
  | [width, height, format, baseNum, baseDen, aspectNum, aspectDen] => do
    let width ← (KeyValue.mk "width" width).readWith readUInt32
    let height ← (KeyValue.mk "height" height).readWith readUInt32
    let format ← (KeyValue.mk "pix_fmt" format).readPixelFormat
    let baseNum ← (KeyValue.mk "time_base" baseNum).readWith readInt32
    let baseDen ← (KeyValue.mk "time_base" baseDen).readWith readInt32
    let aspectNum ← (KeyValue.mk "pixel_aspect" aspectNum).readWith readInt32
    let aspectDen ← (KeyValue.mk "pixel_aspect" aspectDen).readWith readInt32
    return { width, height, pixelFormat := some format, timeBase := ⟨baseNum, baseDen⟩,
             pixelAspect := ⟨aspectNum, aspectDen⟩ }
  | fields => .error (.positionalArity 7 fields.length (String.ofList args))

/-- A text is keyed when an `=` stands before its first colon. -/
def IsKeyed (args : List Char) : Prop := '=' ∈ args.takeWhile (· ≠ ':')

instance (args : List Char) : Decidable (IsKeyed args) :=
  inferInstanceAs (Decidable ('=' ∈ args.takeWhile (· ≠ ':')))

/-- The parameters that a text writes, in either form. -/
def parse (text : String) : Except SetupError VideoParams :=
  let args := trim text.toList
  if args = [] then .error .missingArguments
  else if IsKeyed args then ofOptions args
  else ofFields args

end VideoParams

/-! ## Audio -/

/-- What one piece of an audio option text sets. -/
inductive AudioSetting where
  | timeBase (timeBase : Fraction)
  | sampleRate (rate : UInt32)
  | sampleFormat (format : SampleFormat)
  | channels (count : UInt32)
  | layout (layout : Layout)
  deriving DecidableEq, Repr

namespace AudioSetting

def ofOption (o : KeyValue) : Except SetupError AudioSetting :=
  match o.key with
  | "time_base" => (o.readWith Fraction.read?).map .timeBase
  | "sample_rate" => (o.readWith readUInt32).map .sampleRate
  | "sample_fmt" => o.readSampleFormat.map .sampleFormat
  | "channels" => (o.readWith readUInt32).map .channels
  | "channel_layout" => o.readLayout.map .layout
  | key => .error (.unknownOption key .audio)

def apply (p : AudioParams) : AudioSetting → AudioParams
  | .timeBase r => { p with timeBase := some r }
  | .sampleRate n => { p with sampleRate := n }
  | .sampleFormat f => { p with sampleFormat := some f }
  | .channels n => { p with channels := n }
  | .layout l => { p with layout := some l }

def chars : AudioSetting → List Char
  | .timeBase r => pieceOf "time_base" r.chars
  | .sampleRate n => pieceOf "sample_rate" (decimal n.toNat)
  | .sampleFormat f => pieceOf "sample_fmt" f.name.toList
  | .channels n => pieceOf "channels" (decimal n.toNat)
  | .layout l => pieceOf "channel_layout" l.chars

end AudioSetting

namespace AudioParams

/-- The defaults with all settings made, in order. -/
def ofSettings (settings : List AudioSetting) : AudioParams :=
  settings.foldl AudioSetting.apply {}

/-- Settings that make the parameters out of the defaults. -/
def settings (p : AudioParams) : List AudioSetting :=
  [.sampleRate p.sampleRate] ++ (p.sampleFormat.map .sampleFormat).toList
    ++ [.channels p.channels] ++ (p.layout.map .layout).toList
    ++ (p.timeBase.map .timeBase).toList

/-- A setting for each piece. -/
def ofOptions (args : List Char) : Except SetupError AudioParams := do
  let options ← optionsOf args
  let settings ← options.mapM AudioSetting.ofOption
  return ofSettings settings

/-- The parameters that a text writes. -/
def parse (text : String) : Except SetupError AudioParams :=
  let args := trim text.toList
  if args = [] then .error .missingArguments else ofOptions args

end AudioParams

/-! ## Either kind -/

/-- The parameters that a text writes for a source of a given kind. -/
def Params.parse (media : Media) (text : String) : Except SetupError Params :=
  match media with
  | .video => (VideoParams.parse text).map .video
  | .audio => (AudioParams.parse text).map .audio

end FrameIngest
