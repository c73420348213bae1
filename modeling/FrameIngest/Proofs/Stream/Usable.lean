/-
FrameIngest.Proofs.Stream.Usable — which parameters pass their check, and what comes out.

Parameters are usable if nothing that is required is missing and nothing that
is given contradicts the rest (`IsUsable`). These, and no others, pass the
check; the descriptor then has what was given, and what follows from it
(`VideoParams.check_eq_ok_iff`, `AudioParams.check_eq_ok_iff`). Nothing is left
to fill in for parameters that are taken from a descriptor, so checking them
gives the descriptor back (`AudioParams.check_ofDescriptor`).

* `IsUsable` — what is required;
* `AudioParams.Describes` — the descriptor that the parameters ask for.
-/
import FrameIngest.Stream.Params

namespace FrameIngest

/-! ## Video -/

namespace VideoParams

/-- There are a size, a pixel format and a time base above zero. -/
structure IsUsable (p : VideoParams) : Prop where
  width_ne : p.width ≠ 0
  height_ne : p.height ≠ 0
  format_given : p.pixelFormat ≠ none
  timeBase_pos : p.timeBase.IsPositive

variable {p : VideoParams} {d : VideoDescriptor}

theorem check_eq_ok_iff : p.check = .ok d ↔ p.IsUsable ∧ p = .ofDescriptor d := by
  constructor
  · intro checked
    unfold check at checked
    split at checked
    · cases checked
    · next size =>
      obtain ⟨width, height⟩ := not_or.mp size
      split at checked
      · cases checked
      · next format given =>
        split at checked
        · next positive =>
          cases checked
          exact ⟨⟨width, height, by simp [given], positive⟩, by simp [ofDescriptor, ← given]⟩
        · cases checked
  · rintro ⟨⟨width, height, _, positive⟩, rfl⟩
    simp_all [check, ofDescriptor]

/-- Usable parameters are those of a descriptor. -/
theorem IsUsable.exists_ofDescriptor (h : p.IsUsable) : ∃ d, p = .ofDescriptor d := by
  obtain ⟨format, given⟩ := Option.ne_none_iff_exists'.mp h.format_given
  exact ⟨{ width := p.width, height := p.height, pixelFormat := format,
           sampleAspect := p.pixelAspect, timeBase := p.timeBase, frameRate := p.frameRate,
           scaler := p.scaler }, by simp [ofDescriptor, ← given]⟩

theorem check_ofDescriptor (h : p.check = .ok d) : (ofDescriptor d).check = .ok d := by
  obtain ⟨usable, rfl⟩ := check_eq_ok_iff.mp h
  exact check_eq_ok_iff.mpr ⟨usable, rfl⟩

end VideoParams

/-! ## Audio -/

namespace AudioParams

/-- There are a sample format, a rate and channels, with which a count that is given next to a
layout agrees; and a time base, if there is one, is above zero or stands for the usual one. -/
structure IsUsable (p : AudioParams) : Prop where
  format_given : p.sampleFormat ≠ none
  rate_pos : 0 < p.sampleRate
  channels_known : (∃ l, p.layout = some l ∧ (p.channels = 0 ∨ p.channels = l.channels))
    ∨ (p.layout = none ∧ 0 < p.channels)
  timeBase_fits : ∀ r ∈ p.timeBase, r.IsZero ∨ r.IsPositive

/-- The descriptor has what the parameters give. Its channels are those of the layout, or else as
many as are given, without a layout; its time base is the one that is given, or else one over the
rate, as far as a signed word goes. -/
structure Describes (p : AudioParams) (d : AudioDescriptor) : Prop where
  sampleFormat_eq : p.sampleFormat = some d.sampleFormat
  sampleRate_eq : d.sampleRate = p.sampleRate
  layout_eq : d.layout = p.layout
  channels_of_layout : ∀ l ∈ p.layout, d.channels = l.channels
  channels_of_count : p.layout = none → d.channels = p.channels
  timeBase_of_given : ∀ r ∈ p.timeBase, ¬ r.IsZero → d.timeBase = r
  timeBase_of_rate : (∀ r ∈ p.timeBase, r.IsZero) →
    d.timeBase.num = 1 ∧ d.timeBase.den.toInt = (min p.sampleRate.toNat 0x7fffffff : Nat)

variable {p : AudioParams} {d : AudioDescriptor}

/-! ### Channels -/

theorem checkChannels_eq_ok_iff {n : UInt32} :
    p.checkChannels = .ok n
      ↔ ((∃ l, p.layout = some l ∧ (p.channels = 0 ∨ p.channels = l.channels))
          ∨ (p.layout = none ∧ 0 < p.channels))
        ∧ (∀ l ∈ p.layout, n = l.channels) ∧ (p.layout = none → n = p.channels) := by
  unfold checkChannels
  cases p.layout with
  | some l =>
    by_cases clash : p.channels ≠ 0 ∧ p.channels ≠ l.channels
    · simp [clash]
    · have agrees : p.channels = 0 ∨ p.channels = l.channels := by
        rwa [Decidable.not_and_iff_not_or_not, Decidable.not_not, Decidable.not_not] at clash
      simp [clash, agrees, eq_comm]
  | none => by_cases zero : p.channels = 0 <;> simp [zero, UInt32.pos_iff_ne_zero, eq_comm]

/-! ### Time bases -/

/-- The usual time base is one over the rate, or over the greatest term. -/
theorem eq_usualTimeBase_iff {r : Fraction} {rate : UInt32} :
    r = usualTimeBase rate ↔ r.num = 1 ∧ r.den.toInt = (min rate.toNat 0x7fffffff : Nat) := by
  have value : (usualTimeBase rate).den.toInt = (min rate.toNat 0x7fffffff : Nat) :=
    Int32.toInt_ofNat_of_lt (by omega)
  obtain ⟨num, den⟩ := r
  rw [← value, Int32.toInt_inj, usualTimeBase, Fraction.mk.injEq]

/-- No fraction above zero is zero. -/
theorem not_isZero_of_isPositive {r : Fraction} (h : r.IsPositive) : ¬ r.IsZero := by
  intro zero
  exact absurd (zero ▸ h.1) (by decide)

/-- One over a rate is above zero, also where the rate is no signed word. -/
theorem isPositive_usualTimeBase {rate : UInt32} (h : rate ≠ 0) :
    (usualTimeBase rate).IsPositive := by
  have above : 0 < rate.toNat := UInt32.lt_iff_toNat_lt.mp (UInt32.pos_iff_ne_zero.mpr h)
  obtain ⟨num, den⟩ := eq_usualTimeBase_iff.mp (rfl : usualTimeBase rate = _)
  rw [Fraction.IsPositive, num, Int32.lt_iff_toInt_lt (y := Fraction.den _), den, Int32.toInt_zero]
  exact ⟨by decide, by omega⟩

theorem checkTimeBase_eq_ok_iff {base : Fraction} :
    p.checkTimeBase = .ok base
      ↔ (∀ r ∈ p.timeBase, r.IsZero ∨ r.IsPositive)
        ∧ (∀ r ∈ p.timeBase, ¬ r.IsZero → base = r)
        ∧ ((∀ r ∈ p.timeBase, r.IsZero) → base = usualTimeBase p.sampleRate) := by
  unfold checkTimeBase
  cases p.timeBase with
  | none => simp [eq_comm]
  | some r =>
    by_cases zero : r.IsZero
    · simp [zero, eq_comm]
    · by_cases positive : r.IsPositive <;> simp [zero, positive, eq_comm]

/-! ### Whole parameters -/

/-- The check is that of the parts, in their order. -/
theorem check_eq_ok_iff_parts :
    p.check = .ok d
      ↔ p.sampleFormat = some d.sampleFormat ∧ 0 < p.sampleRate ∧ d.sampleRate = p.sampleRate
        ∧ d.layout = p.layout ∧ p.checkChannels = .ok d.channels
        ∧ p.checkTimeBase = .ok d.timeBase := by
  obtain ⟨rate, format, layout, channels, base⟩ := d
  unfold check
  cases p.sampleFormat with
  | none => simp
  | some f =>
    by_cases zero : p.sampleRate = 0
    · simp [zero]
    · have positive : 0 < p.sampleRate := UInt32.pos_iff_ne_zero.mpr zero
      simp only [zero, if_false]
      cases p.checkChannels with
      | error e => simp [bind, Except.bind]
      | ok n =>
        cases p.checkTimeBase with
        | error e => simp [bind, Except.bind]
        | ok r => simp [bind, Except.bind, pure, Except.pure, positive, eq_comm, and_left_comm]

theorem check_eq_ok_iff : p.check = .ok d ↔ p.IsUsable ∧ p.Describes d := by
  rw [check_eq_ok_iff_parts, checkChannels_eq_ok_iff, checkTimeBase_eq_ok_iff,
    eq_usualTimeBase_iff]
  constructor
  · rintro ⟨format, positive, rate, layout, ⟨known, ofLayout, ofCount⟩, fits, given, usual⟩
    exact ⟨⟨by simp [format], positive, known, fits⟩,
      ⟨format, rate, layout, ofLayout, ofCount, given, usual⟩⟩
  · rintro ⟨⟨_, positive, known, fits⟩, format, rate, layout, ofLayout, ofCount, given, usual⟩
    exact ⟨format, positive, rate, layout, ⟨known, ofLayout, ofCount⟩, fits, given, usual⟩

/-- Either a time base is given, or the usual one is asked for. -/
theorem timeBase_cases (p : AudioParams) :
    (∃ r, p.timeBase = some r ∧ ¬ r.IsZero) ∨ ∀ r ∈ p.timeBase, r.IsZero := by
  cases p.timeBase with
  | none => exact .inr nofun
  | some r =>
    by_cases zero : r.IsZero
    · exact .inr (by simp [zero])
    · exact .inl ⟨r, rfl, zero⟩

/-- Usable parameters ask for a descriptor. -/
theorem IsUsable.exists_describes (h : p.IsUsable) : ∃ d, p.Describes d := by
  obtain ⟨format, given⟩ := Option.ne_none_iff_exists'.mp h.format_given
  obtain ⟨n, ofLayout, ofCount⟩ : ∃ n : UInt32,
      (∀ l ∈ p.layout, n = l.channels) ∧ (p.layout = none → n = p.channels) := by
    cases p.layout with
    | some l => exact ⟨l.channels, by simp, nofun⟩
    | none => exact ⟨p.channels, nofun, fun _ => rfl⟩
  obtain ⟨base, given', usual⟩ : ∃ base : Fraction, (∀ r ∈ p.timeBase, ¬ r.IsZero → base = r)
      ∧ ((∀ r ∈ p.timeBase, r.IsZero) → base = usualTimeBase p.sampleRate) := by
    rcases p.timeBase_cases with ⟨r, given, nonzero⟩ | zero
    · exact ⟨r, by simp [given], fun zero => absurd (zero r given) nonzero⟩
    · exact ⟨_, fun r mem nonzero => absurd (zero r mem) nonzero, fun _ => rfl⟩
  exact ⟨{ sampleRate := p.sampleRate, sampleFormat := format, layout := p.layout, channels := n,
           timeBase := base },
    ⟨given, rfl, rfl, ofLayout, ofCount, given', fun zero => eq_usualTimeBase_iff.mp (usual zero)⟩⟩

/-- The descriptor of usable parameters has a time base above zero. -/
theorem Describes.isPositive (h : p.Describes d) (usable : p.IsUsable) : d.timeBase.IsPositive := by
  rcases p.timeBase_cases with ⟨r, given, nonzero⟩ | zero
  · rw [h.timeBase_of_given r given nonzero]
    exact (usable.timeBase_fits r given).resolve_left nonzero
  · rw [eq_usualTimeBase_iff.mpr (h.timeBase_of_rate zero)]
    exact isPositive_usualTimeBase (UInt32.pos_iff_ne_zero.mp usable.rate_pos)

/-- Parameters that are taken from the descriptor give it back; next to a layout the count may be
left out. -/
theorem check_rebuilt (h : p.check = .ok d) {n : UInt32}
    (count : n = d.channels ∨ (n = 0 ∧ d.layout ≠ none)) :
    check { ofDescriptor d with channels := n } = .ok d := by
  obtain ⟨usable, asks⟩ := check_eq_ok_iff.mp h
  have positive := asks.isPositive usable
  have ofLayout : ∀ l ∈ d.layout, d.channels = l.channels := by
    rw [asks.layout_eq]
    exact asks.channels_of_layout
  refine check_eq_ok_iff.mpr ⟨⟨by simp [ofDescriptor], ?_, ?_, ?_⟩,
    ⟨rfl, rfl, rfl, ofLayout, fun bare => ?_, ?_, fun zero => ?_⟩⟩
  · show 0 < d.sampleRate
    rw [asks.sampleRate_eq]
    exact usable.rate_pos
  · show (∃ l, d.layout = some l ∧ (n = 0 ∨ n = l.channels)) ∨ (d.layout = none ∧ 0 < n)
    cases layout : d.layout with
    | some l =>
      have same := ofLayout l layout
      exact .inl ⟨l, rfl, count.symm.imp And.left fun given => given.trans same⟩
    | none =>
      have bare : p.layout = none := asks.layout_eq.symm.trans layout
      have given : 0 < p.channels :=
        (usable.channels_known.resolve_left fun ⟨l, named, _⟩ => by simp [bare] at named).2
      rw [count.resolve_right fun named => named.2 layout, asks.channels_of_count bare]
      exact .inr ⟨rfl, given⟩
  · rintro r ⟨⟩
    exact .inr positive
  · exact (count.resolve_right fun named => named.2 bare).symm
  · rintro r ⟨⟩ _
    rfl
  · exact absurd (zero _ rfl) (not_isZero_of_isPositive positive)

end AudioParams

/-! ## Either kind -/

/-- **Usable parameters and no others pass the check, which repeats itself.** Video parameters give
a descriptor exactly if they are usable, and it has all their fields. Audio parameters give one
exactly if they are usable, and it is the one they describe. Parameters that are rebuilt from a
descriptor that came out of a check give the same descriptor, next to a layout also where they leave
out the count of channels. -/
theorem checked_iff_usable_and_stable :
    (∀ p : VideoParams, ((∃ d, p.check = .ok d) ↔ p.IsUsable)
      ∧ ∀ d, p.check = .ok d → p = .ofDescriptor d ∧ (VideoParams.ofDescriptor d).check = .ok d)
    ∧ ∀ p : AudioParams, ((∃ d, p.check = .ok d) ↔ p.IsUsable)
      ∧ ∀ d, p.check = .ok d → p.Describes d
        ∧ (AudioParams.ofDescriptor d).check = .ok d
        ∧ (d.layout ≠ none →
          AudioParams.check { AudioParams.ofDescriptor d with channels := 0 } = .ok d) := by
  refine ⟨fun p => ⟨⟨?_, fun usable => ?_⟩, fun d checked => ?_⟩,
    fun p => ⟨⟨?_, fun usable => ?_⟩, fun d checked => ?_⟩⟩
  · rintro ⟨d, checked⟩
    exact (VideoParams.check_eq_ok_iff.mp checked).1
  · obtain ⟨d, rfl⟩ := usable.exists_ofDescriptor
    exact ⟨d, VideoParams.check_eq_ok_iff.mpr ⟨usable, rfl⟩⟩
  · exact ⟨(VideoParams.check_eq_ok_iff.mp checked).2, VideoParams.check_ofDescriptor checked⟩
  · rintro ⟨d, checked⟩
    exact (AudioParams.check_eq_ok_iff.mp checked).1
  · obtain ⟨d, asks⟩ := usable.exists_describes
    exact ⟨d, AudioParams.check_eq_ok_iff.mpr ⟨usable, asks⟩⟩
  · exact ⟨(AudioParams.check_eq_ok_iff.mp checked).2, AudioParams.check_rebuilt checked (.inl rfl),
      fun named => AudioParams.check_rebuilt checked (.inr ⟨rfl, named⟩)⟩

/-- Samples at the greatest rate, which is no term of a fraction, with a time base that is zero and
two unnamed channels. -/
def fastAudio : AudioParams where
  timeBase := some ⟨0, -1⟩
  sampleRate := 4294967295
  sampleFormat := some .fltp
  layout := some ⟨0x8000000080000000, by decide⟩

/-- Pictures of one pixel, with options for a scaler. -/
def dotVideo : VideoParams where
  timeBase := ⟨1, 25⟩
  width := 1
  height := 1
  pixelFormat := some .gray
  scaler := some "flags=area"

/-- Both pass, and pass again with what came out. -/
theorem fastAudio_checked_twice :
    (∃ d, fastAudio.check = .ok d ∧ d.channels = 2 ∧ d.timeBase.num = 1
        ∧ d.timeBase.den.toInt = 2147483647 ∧ d.layout ≠ none
        ∧ (AudioParams.ofDescriptor d).check = .ok d
        ∧ AudioParams.check { AudioParams.ofDescriptor d with channels := 0 } = .ok d)
      ∧ ∃ d, dotVideo.check = .ok d ∧ (VideoParams.ofDescriptor d).check = .ok d := by
  obtain ⟨video, audio⟩ := checked_iff_usable_and_stable
  obtain ⟨d, checked⟩ : ∃ d, fastAudio.check = .ok d := ⟨_, rfl⟩
  obtain ⟨d', checked'⟩ : ∃ d, dotVideo.check = .ok d := ⟨_, rfl⟩
  obtain ⟨asks, again, bare⟩ := (audio fastAudio).2 d checked
  have count : d.channels = 2 := (asks.channels_of_layout _ rfl).trans (by decide)
  obtain ⟨num, den⟩ := asks.timeBase_of_rate (by decide)
  have named : d.layout ≠ none := by
    rw [asks.layout_eq]
    decide
  exact ⟨⟨d, checked, count, num, den, named, again, bare named⟩, d', checked',
    ((video dotVideo).2 d' checked').2⟩

end FrameIngest
