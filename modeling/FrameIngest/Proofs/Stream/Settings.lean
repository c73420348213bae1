/-
FrameIngest.Proofs.Stream.Settings — what a list of settings comes to.

Settings are made one after the other, so each parameter has the value of the
last setting that gives it one, or its default (`ofSettings_eq`). The settings
of given parameters give no parameter twice; made in any order they come to
these parameters (`ofSettings_of_perm`).

* `latest` — the last value that settings give;
* `AudioSetting.channels?` and its like — what a setting gives a parameter.
-/
import FrameIngest.Stream.Options

namespace FrameIngest

/-! ## The last value -/

/-- The last of the values that settings give a parameter, or the value it had before. -/
def latest {σ α : Type} (value? : σ → Option α) (settings : List σ) (before : α) : α :=
  (settings.filterMap value?).getLastD before

section Latest

variable {σ α : Type} {value? : σ → Option α}

theorem latest_cons (s : σ) (settings : List σ) (before : α) :
    latest value? (s :: settings) before = latest value? settings ((value? s).getD before) := by
  unfold latest
  cases given : value? s with
  | none => rw [List.filterMap_cons_none given, Option.getD_none]
  | some a => rw [List.filterMap_cons_some given, List.getLastD_cons, Option.getD_some]

/-- A parameter that is given one value, or none where that is the value it had before, has this
value in whatever order the settings are made. -/
theorem latest_of_perm {settings order : List σ} {before value : α} (perm : order.Perm settings)
    (once : settings.filterMap value? = [value]
      ∨ settings.filterMap value? = [] ∧ before = value) :
    latest value? order before = value := by
  have given := perm.filterMap value?
  unfold latest
  rcases once with single | ⟨absent, rfl⟩
  · rw [single] at given
    rw [given.eq_singleton]
    rfl
  · rw [absent] at given
    rw [given.eq_nil]
    rfl

theorem latest_append (settings settings' : List σ) (before : α) :
    latest value? (settings ++ settings') before
      = latest value? settings' (latest value? settings before) := by
  induction settings generalizing before with
  | nil => rfl
  | cons s settings ih => rw [List.cons_append, latest_cons, latest_cons, ih]

/-- What was there before does not matter if a value is given. -/
theorem latest_eq_of_given {settings : List σ} (given : ∃ s ∈ settings, (value? s).isSome)
    (before before' : α) : latest value? settings before = latest value? settings before' := by
  obtain ⟨s, among, isGiven⟩ := given
  obtain ⟨a, value⟩ := Option.isSome_iff_exists.mp isGiven
  obtain ⟨first, rest, rfl⟩ := List.append_of_mem among
  rw [latest_append, latest_append, latest_cons, latest_cons, value]
  rfl

/-- Settings that give no value can be left out. -/
theorem latest_filter {p : σ → Bool} (only : ∀ s, (value? s).isSome → p s = true)
    (settings : List σ) (before : α) :
    latest value? (settings.filter p) before = latest value? settings before := by
  have same : (fun s => if p s = true then value? s else none) = value? := by
    funext s
    split
    · rfl
    · next dropped =>
      exact (Option.not_isSome_iff_eq_none.mp fun given => dropped (only s given)).symm
  rw [latest, latest, List.filterMap_filter, same]

end Latest

/-! ## Audio -/

namespace AudioSetting

def timeBase? : AudioSetting → Option (Option Fraction)
  | .timeBase r => some (some r)
  | _ => none

def sampleRate? : AudioSetting → Option UInt32
  | .sampleRate n => some n
  | _ => none

def sampleFormat? : AudioSetting → Option (Option SampleFormat)
  | .sampleFormat f => some (some f)
  | _ => none

def channels? : AudioSetting → Option UInt32
  | .channels n => some n
  | _ => none

def layout? : AudioSetting → Option (Option Layout)
  | .layout l => some (some l)
  | _ => none

/-- A setting changes the parameter that it gives a value, and no other. -/
theorem apply_eq (p : AudioParams) (s : AudioSetting) :
    s.apply p = { timeBase := s.timeBase?.getD p.timeBase
                  sampleRate := s.sampleRate?.getD p.sampleRate
                  sampleFormat := s.sampleFormat?.getD p.sampleFormat
                  channels := s.channels?.getD p.channels
                  layout := s.layout?.getD p.layout } := by
  cases s <;> rfl

end AudioSetting

namespace AudioParams

open AudioSetting

theorem foldl_apply (p : AudioParams) (settings : List AudioSetting) :
    settings.foldl AudioSetting.apply p
      = { timeBase := latest timeBase? settings p.timeBase
          sampleRate := latest sampleRate? settings p.sampleRate
          sampleFormat := latest sampleFormat? settings p.sampleFormat
          channels := latest channels? settings p.channels
          layout := latest layout? settings p.layout } := by
  induction settings generalizing p with
  | nil => rfl
  | cons s settings ih => rw [List.foldl_cons, ih, apply_eq]; simp only [latest_cons]

/-- Each parameter has the last value it is given, or its default. -/
theorem ofSettings_eq (settings : List AudioSetting) :
    ofSettings settings
      = { timeBase := latest timeBase? settings none
          sampleRate := latest sampleRate? settings 0
          sampleFormat := latest sampleFormat? settings none
          channels := latest channels? settings 0
          layout := latest layout? settings none } :=
  foldl_apply {} settings

/-- The settings of given parameters, in any order, come to these parameters. -/
theorem ofSettings_of_perm {p : AudioParams} {order : List AudioSetting}
    (perm : order.Perm p.settings) : ofSettings order = p := by
  obtain ⟨base, rate, format, count, layout⟩ := p
  rw [ofSettings_eq]
  -- which settings there are depends on the parameters that may be absent
  congr 1 <;> refine latest_of_perm perm ?_ <;> cases base <;> cases format <;> cases layout <;>
    simp [settings, List.filterMap_cons, timeBase?, sampleRate?, sampleFormat?, channels?, layout?]

end AudioParams

/-! ## Video -/

namespace VideoSetting

def timeBase? : VideoSetting → Option Fraction
  | .timeBase r => some r
  | _ => none

def frameRate? : VideoSetting → Option Fraction
  | .frameRate r => some r
  | _ => none

def width? : VideoSetting → Option UInt32
  | .width n => some n
  | .size s => some s.width
  | _ => none

def height? : VideoSetting → Option UInt32
  | .height n => some n
  | .size s => some s.height
  | _ => none

def pixelFormat? : VideoSetting → Option (Option PixelFormat)
  | .pixelFormat f => some (some f)
  | _ => none

def pixelAspect? : VideoSetting → Option Fraction
  | .pixelAspect r => some r
  | _ => none

def scaler? : VideoSetting → Option (Option String)
  | .scaler text => some (some text)
  | _ => none

/-- A setting changes the parameters that it gives a value, and no other. -/
theorem apply_eq (p : VideoParams) (s : VideoSetting) :
    s.apply p = { timeBase := s.timeBase?.getD p.timeBase
                  frameRate := s.frameRate?.getD p.frameRate
                  width := s.width?.getD p.width
                  height := s.height?.getD p.height
                  pixelFormat := s.pixelFormat?.getD p.pixelFormat
                  pixelAspect := s.pixelAspect?.getD p.pixelAspect
                  scaler := s.scaler?.getD p.scaler } := by
  cases s <;> rfl

end VideoSetting

namespace VideoParams

open VideoSetting

theorem foldl_apply (p : VideoParams) (settings : List VideoSetting) :
    settings.foldl VideoSetting.apply p
      = { timeBase := latest timeBase? settings p.timeBase
          frameRate := latest frameRate? settings p.frameRate
          width := latest width? settings p.width
          height := latest height? settings p.height
          pixelFormat := latest pixelFormat? settings p.pixelFormat
          pixelAspect := latest pixelAspect? settings p.pixelAspect
          scaler := latest scaler? settings p.scaler } := by
  induction settings generalizing p with
  | nil => rfl
  | cons s settings ih => rw [List.foldl_cons, ih, apply_eq]; simp only [latest_cons]

/-- Each parameter has the last value it is given, or its default. -/
theorem ofSettings_eq (settings : List VideoSetting) :
    ofSettings settings
      = { timeBase := latest timeBase? settings .unknown
          frameRate := latest frameRate? settings .unknown
          width := latest width? settings 0
          height := latest height? settings 0
          pixelFormat := latest pixelFormat? settings none
          pixelAspect := latest pixelAspect? settings .unknown
          scaler := latest scaler? settings none } :=
  foldl_apply {} settings

/-- The settings of given parameters, in any order, come to these parameters. -/
theorem ofSettings_of_perm {p : VideoParams} {order : List VideoSetting}
    (perm : order.Perm p.settings) : ofSettings order = p := by
  obtain ⟨base, rate, width, height, format, aspect, scaler⟩ := p
  rw [ofSettings_eq]
  congr 1 <;> refine latest_of_perm perm ?_ <;> cases format <;> cases scaler <;>
    simp [settings, List.filterMap_cons, timeBase?, frameRate?, width?, height?, pixelFormat?,
      pixelAspect?, scaler?]

end VideoParams

end FrameIngest
