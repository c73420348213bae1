/-
FrameIngest.Proofs.Feed.Commitment — a source keeps to its descriptor.

A source gets a descriptor at most once, a well-formed one of its own kind, and
keeps it. One thing about it may still change: a stream of samples without a
layout takes the layout of its link, which happens at most once and before any
frame has left (`descriptor_committed`).

That something happens at most once in a run is shown by a budget: `tally`
counts the operations at which it happens, and each of them pays one out of a
budget that no operation raises (`tally_le`).
-/
import FrameIngest.Proofs.Feed.Conservation
import FrameIngest.Proofs.Stream.WellFormed

namespace FrameIngest

/-! ## Counting operations of a run -/

namespace Source

/-- At how many operations of a run something happens. -/
def tally (happens : Source → Op → Bool) (s : Source) : List Op → Nat
  | [] => 0
  | op :: ops => (happens s op).toNat + (s.perform op).1.tally happens ops

/-- What each operation pays for out of a budget happens no more often than the budget allows. -/
theorem tally_le {happens : Source → Op → Bool} {budget : Source → Nat}
    (pays : ∀ s op, (happens s op).toNat + budget (s.perform op).1 ≤ budget s)
    (s : Source) (ops : List Op) : s.tally happens ops ≤ budget s := by
  induction ops generalizing s with
  | nil => exact Nat.zero_le _
  | cons op ops ih =>
    have now := pays s op
    have later := ih (s.perform op).1
    simp only [tally]
    omega

/-- A flag that is set by what happens, and by nothing else, tells whether it has happened. -/
theorem flag_run {happens : Source → Op → Bool} {flag : Source → Bool}
    (sets : ∀ s op, flag (s.perform op).1 = (flag s || happens s op)) (s : Source)
    (ops : List Op) :
    flag (s.run ops).1 = (flag s || decide (0 < s.tally happens ops)) := by
  induction ops generalizing s with
  | nil => simp [tally]
  | cons op ops ih =>
    rw [run_cons, ih (s.perform op).1, sets s op, tally]
    cases now : happens s op with
    | true =>
      have counted : 0 < true.toNat + (s.perform op).1.tally happens ops :=
        Nat.lt_add_right _ Nat.one_pos
      rw [decide_eq_true counted, Bool.or_true, Bool.true_or]
    | false => rw [Bool.or_false, Bool.toNat_false, Nat.zero_add]

/-- A counter to which each occurrence adds one, and nothing else does, tells how often it has
happened. -/
theorem count_run {happens : Source → Op → Bool} {count : Source → Nat}
    (adds : ∀ s op, count (s.perform op).1 = count s + (happens s op).toNat) (s : Source)
    (ops : List Op) : count (s.run ops).1 = count s + s.tally happens ops := by
  induction ops generalizing s with
  | nil => rfl
  | cons op ops ih => rw [run_cons, ih (s.perform op).1, adds s op, tally, Nat.add_assoc]

end Source

/-! ## What may happen to the descriptor -/

namespace Op

/-- The operation asks for a setup. -/
def isSetup : Op → Bool
  | .configure _ | .configureText _ => true
  | _ => false

end Op

/-- The operation answered that it is done. -/
def Reply.isDone : Reply → Bool
  | .done (.ok _) => true
  | _ => false

namespace Source

/-- The operation is a setup, and succeeds. -/
def setsUp (s : Source) (op : Op) : Bool := op.isSetup && (s.perform op).2.reply.isDone

/-- The operation puts another descriptor in place of the one that is there. -/
def revises (s : Source) (op : Op) : Bool :=
  s.descriptor.isSome && decide ((s.perform op).1.descriptor ≠ s.descriptor)

/-- The operation asks for a setup that the source can take, and `d` is what it gives. -/
def Accepts (s : Source) (op : Op) (d : Descriptor) : Prop :=
  ∃ p, op.asked? s.media = some p ∧ p.media = s.media ∧ s.descriptor = none ∧ p.check = .ok d

/-- The descriptor is one that the source can have. -/
def IsSound (s : Source) : Prop := ∀ d, s.descriptor = some d → d.media = s.media ∧ d.IsWellFormed

end Source

/-- A change leaves the descriptor, sets it up, or has it adopt the layout of a link. -/
theorem Transition.descriptor_cases {s s' : Source} {op : Op} {moves : List Move}
    (h : Transition s op moves s') :
    s'.descriptor = s.descriptor
      ∨ (∃ d, s.Accepts op d ∧ s'.descriptor = some d)
      ∨ ∃ link d d', op = .configureLink link ∧ s.framesEmitted = false
        ∧ s.descriptor = some d ∧ d.Adopts d' ∧ s'.descriptor = some d' := by
  cases h with
  | described asked kind blank checked =>
    exact .inr (.inl ⟨_, ⟨_, asked, kind, blank, checked⟩, rfl⟩)
  | settled early described _ agreed =>
    rcases Descriptor.settled_cases agreed with rfl | adopts
    · exact .inl described.symm
    · exact .inr (.inr ⟨_, _, _, rfl, early, described, adopts, rfl⟩)
  | _ => exact .inl rfl

/-- A change leaves a sound source sound. -/
theorem Transition.isSound {s s' : Source} {op : Op} {moves : List Move}
    (h : Transition s op moves s') (sound : s.IsSound) : s'.IsSound := by
  intro d described
  rw [h.identity.2]
  rcases h.descriptor_cases with same | ⟨d', ⟨p, _, kind, _, checked⟩, new⟩
    | ⟨_, d', d'', _, _, old, adopts, new⟩
  · exact sound d (same.symm.trans described)
  · cases described.symm.trans new
    obtain ⟨media, formed⟩ := Params.isWellFormed_of_check checked
    exact ⟨media.trans kind, formed⟩
  · cases described.symm.trans new
    obtain ⟨media, formed⟩ := sound d' old
    exact ⟨adopts.media_eq.trans media, adopts.isWellFormed formed⟩

namespace Source

variable {s : Source}

/-! ## Setup -/

theorem configure_of_accepted {p : Params} {d : Descriptor} (kind : p.media = s.media)
    (blank : s.descriptor = none) (checked : p.check = .ok d) :
    s.configure p
      = { result := .ok (), state := { s with descriptor := some d },
          notices := [.configured s.name d] } := by
  simp [configure, kind, blank, checked]

theorem configure_of_refused {p : Params}
    (h : ∀ d, ¬ (p.media = s.media ∧ s.descriptor = none ∧ p.check = .ok d)) :
    ∃ e, s.configure p = .fail e s := by
  unfold configure
  split
  · exact ⟨_, rfl⟩
  rename_i kind
  split
  · exact ⟨_, rfl⟩
  rename_i blank
  cases checked : p.check with
  | error e => exact ⟨_, rfl⟩
  | ok d =>
    exact absurd ⟨(Decidable.not_not.mp kind).symm, by simpa using blank, checked⟩ (h d)

/-- Both kinds of setup configure the source with the parameters that they ask for. -/
theorem perform_of_asked {op : Op} {p : Params} (asked : op.asked? s.media = some p) :
    s.perform op = done (s.configure p) := by
  cases op with
  | configure p' =>
    cases asked
    rfl
  | configureText args =>
    cases parsed : Params.parse s.media args with
    | error e => simp [Op.asked?, parsed, Except.toOption] at asked
    | ok p' =>
      obtain rfl : p' = p := by simpa [Op.asked?, parsed, Except.toOption] using asked
      simp [perform, configureText, parsed]
  | _ => cases asked

/-- A setup that the source accepts gives it the descriptor, and any other leaves no trace. -/
theorem perform_setup (s : Source) {op : Op} (setup : op.isSetup = true) :
    (∃ d, s.Accepts op d ∧
      s.perform op
        = ({ s with descriptor := some d },
           { reply := .done (.ok ()), notices := [.configured s.name d] }))
      ∨ ((∀ d, ¬ s.Accepts op d) ∧ ∃ e, s.perform op = (s, { reply := .done (.error e) })) := by
  cases asked : op.asked? s.media with
  | some p =>
    by_cases accepted : ∃ d, p.media = s.media ∧ s.descriptor = none ∧ p.check = .ok d
    · obtain ⟨d, kind, blank, checked⟩ := accepted
      refine .inl ⟨d, ⟨p, asked, kind, blank, checked⟩, ?_⟩
      rw [perform_of_asked asked, configure_of_accepted kind blank checked]
      rfl
    · have refused : ∀ d, ¬ (p.media = s.media ∧ s.descriptor = none ∧ p.check = .ok d) :=
        fun d h => accepted ⟨d, h⟩
      obtain ⟨e, failed⟩ := configure_of_refused refused
      refine .inr ⟨?_, e, ?_⟩
      · rintro d ⟨p', asked', rest⟩
        cases asked.symm.trans asked'
        exact refused d rest
      · rw [perform_of_asked asked, failed]
        rfl
  | none =>
    -- Only a text can fail to give parameters.
    cases op with
    | configureText args =>
      cases parsed : Params.parse s.media args with
      | ok p => simp [Op.asked?, parsed, Except.toOption] at asked
      | error e =>
        refine .inr ⟨?_, .setup e, ?_⟩
        · rintro d ⟨p, asked', _⟩
          cases asked.symm.trans asked'
        · simp [perform, configureText, parsed, done, finishWith, Outcome.fail]
    | configure p => cases asked
    | _ => cases setup

theorem isSetup_of_accepts {op : Op} {d : Descriptor} (h : s.Accepts op d) :
    op.isSetup = true := by
  obtain ⟨p, asked, _⟩ := h
  cases op with
  | configure _ | configureText _ => rfl
  | _ => cases asked

/-- A setup succeeds exactly when the source accepts it. -/
theorem setsUp_iff (s : Source) (op : Op) :
    s.setsUp op = true
      ↔ ∃ d, s.Accepts op d ∧ (s.perform op).1 = { s with descriptor := some d } := by
  constructor
  · intro up
    have setup : op.isSetup = true := by
      simp only [setsUp, Bool.and_eq_true] at up
      exact up.1
    rcases s.perform_setup setup with ⟨d, accepted, performed⟩ | ⟨_, e, performed⟩
    · exact ⟨d, accepted, by rw [performed]⟩
    · simp [setsUp, performed, Reply.isDone] at up
  · rintro ⟨d, accepted, _⟩
    have setup := isSetup_of_accepts accepted
    rcases s.perform_setup setup with ⟨_, _, performed⟩ | ⟨refused, _⟩
    · simp [setsUp, setup, performed, Reply.isDone]
    · exact absurd accepted (refused d)

/-- A setup that fails changes nothing. -/
theorem perform_eq_of_not_setsUp {op : Op} (setup : op.isSetup = true)
    (failed : s.setsUp op = false) : (s.perform op).1 = s := by
  rcases s.perform_setup setup with ⟨d, _, performed⟩ | ⟨_, e, performed⟩
  · simp [setsUp, setup, performed, Reply.isDone] at failed
  · rw [performed]

/-! ## Links -/

/-- A link that is refused leaves the source, and itself, as they were. -/
theorem configureLink_of_error {link : Link} {e : FeedError}
    (h : (s.configureLink link).result = .error e) : (s.configureLink link).state = (s, link) := by
  unfold configureLink at h ⊢
  split
  · rfl
  rename_i early
  split
  · rfl
  rename_i d described
  split
  · rfl
  rename_i first
  dsimp only
  split
  · rfl
  · rename_i agreed
    simp [early, described, first, agreed] at h

/-- A link changes the descriptor only when it is answered that all went well. -/
theorem reply_of_descriptor_ne {link : Link} {d : Descriptor} (old : s.descriptor = some d)
    (changed : (s.perform (.configureLink link)).1.descriptor ≠ some d) :
    ∃ link', (s.perform (.configureLink link)).2.reply = .link (.ok ()) link' := by
  cases answered : (s.configureLink link).result with
  | ok _ =>
    refine ⟨(s.configureLink link).state.2, ?_⟩
    show Reply.link (s.configureLink link).result _ = _
    rw [answered]
  | error e =>
    have same : (s.perform (.configureLink link)).1 = s := by
      show (s.configureLink link).state.1 = s
      rw [configureLink_of_error answered]
    rw [same] at changed
    exact absurd old changed

/-- A descriptor that is there is kept, or it adopts the layout of a link that is configured with
success before any frame has left. -/
theorem descriptor_kept_or_adopts {op : Op} {d : Descriptor} (described : s.descriptor = some d) :
    (s.perform op).1.descriptor = some d
      ∨ (s.framesEmitted = false ∧ ∃ link link' d', op = .configureLink link
        ∧ (s.perform op).2.reply = .link (.ok ()) link'
        ∧ d.Adopts d' ∧ (s.perform op).1.descriptor = some d') := by
  rcases (s.perform_transition op).descriptor_cases with same | ⟨_, ⟨_, _, _, blank, _⟩, _⟩
    | ⟨link, _, d', rfl, early, old, adopts, new⟩
  · exact .inl (same.trans described)
  · cases blank.symm.trans described
  · cases old.symm.trans described
    have changed : (s.perform (.configureLink link)).1.descriptor ≠ some d := by
      rw [new]
      rintro ⟨⟩
      exact adopts.not_adopts adopts
    obtain ⟨link', answered⟩ := reply_of_descriptor_ne described changed
    exact .inr ⟨early, link, link', d', rfl, answered, adopts, new⟩

/-! ## How often -/

/-- How many setups can still succeed. -/
def setupsLeft (s : Source) : Nat := s.descriptor.isNone.toNat

/-- How often the descriptor can still change once it is there. -/
def revisionsLeft (s : Source) : Nat :=
  match s.descriptor with
  | none => 1
  | some (.video _) => 0
  | some (.audio d) => d.layout.isNone.toNat

theorem setsUp_pays (s : Source) (op : Op) :
    (s.setsUp op).toNat + (s.perform op).1.setupsLeft ≤ s.setupsLeft := by
  cases up : s.setsUp op with
  | true =>
    obtain ⟨d, ⟨_, _, _, blank, _⟩, performed⟩ := (s.setsUp_iff op).mp up
    simp [setupsLeft, performed, blank]
  | false =>
    rcases (s.perform_transition op).descriptor_cases with same | ⟨d, _, new⟩
      | ⟨_, _, d, _, _, _, _, new⟩
    · simp [setupsLeft, same]
    · simp [setupsLeft, new]
    · simp [setupsLeft, new]

theorem revises_pays (s : Source) (op : Op) :
    (s.revises op).toNat + (s.perform op).1.revisionsLeft ≤ s.revisionsLeft := by
  rcases (s.perform_transition op).descriptor_cases with same | ⟨d, ⟨_, _, _, blank, _⟩, new⟩
    | ⟨_, _, d, _, _, old, ⟨a, l, rfl, unnamed, _, rfl⟩, new⟩
  · simp [revises, revisionsLeft, same]
  · have rest : (s.perform op).1.revisionsLeft ≤ 1 := by
      cases d with
      | video _ => simp [revisionsLeft, new]
      | audio d => simpa [revisionsLeft, new] using Bool.toNat_le d.layout.isNone
    simpa [revises, revisionsLeft, blank] using rest
  · have once : (s.revises op).toNat ≤ 1 := Bool.toNat_le _
    simpa [revisionsLeft, old, unnamed, new] using once

/-! ## The main statement -/

theorem isSound_run (name : String) (media : Media) (ops : List Op) :
    ((fresh name media).run ops).1.IsSound := by
  refine run_keeps (I := fun _ s => s.IsSound) ?_ ops ?_
  · intro d described
    cases described
  · intro op _ past s₁ moves s₂ sound change
    exact change.isSound sound

/-- **Commitment to the descriptor.** After any run of a new source a descriptor that is there is
well-formed and of the kind of the source. At most one setup has succeeded: one for the kind of
the source, when there was no descriptor, with parameters that pass their check; a setup that
fails changes nothing. A descriptor stays; at most once it has changed, when no frame had left yet
and a link was configured with success, by taking the layout of the link in place of none. -/
theorem descriptor_committed (name : String) (media : Media) (ops : List Op) :
    let s := ((fresh name media).run ops).1
    let events := ((fresh name media).run ops).2
    (∀ d, s.descriptor = some d → d.media = media ∧ d.IsWellFormed)
      ∧ (fresh name media).tally setsUp ops ≤ 1
      ∧ (fresh name media).tally revises ops ≤ 1
      ∧ ∀ op,
        (s.setsUp op = true
          ↔ ∃ p d, op.asked? media = some p ∧ p.media = media ∧ s.descriptor = none
            ∧ p.check = .ok d ∧ (s.perform op).1 = { s with descriptor := some d })
        ∧ (op.isSetup = true → s.setsUp op = false → (s.perform op).1 = s)
        ∧ ∀ d, s.descriptor = some d →
          (s.perform op).1.descriptor = some d
            ∨ (left events = [] ∧ ∃ link link' d', op = .configureLink link
              ∧ (s.perform op).2.reply = .link (.ok ()) link'
              ∧ d.Adopts d' ∧ (s.perform op).1.descriptor = some d') := by
  intro s events
  have kind : s.media = media := ((fresh name media).identity_run ops).2
  have sound : s.IsSound := isSound_run name media ops
  have marked : s.framesEmitted = true ↔ left events ≠ [] := by
    rw [framesEmitted_run_iff (fresh name media) ops]
    exact ⟨fun either => either.resolve_left Bool.false_ne_true, .inr⟩
  refine ⟨fun d described => kind ▸ sound d described, ?_, ?_, fun op => ⟨?_, ?_, ?_⟩⟩
  · exact tally_le setsUp_pays _ ops
  · exact tally_le revises_pays _ ops
  · rw [setsUp_iff, ← kind]
    constructor
    · rintro ⟨d, ⟨p, asked, rest⟩, performed⟩
      exact ⟨p, d, asked, rest.1, rest.2.1, rest.2.2, performed⟩
    · rintro ⟨p, d, asked, same, blank, checked, performed⟩
      exact ⟨d, ⟨p, asked, same, blank, checked⟩, performed⟩
  · exact perform_eq_of_not_setsUp
  · intro d described
    rcases descriptor_kept_or_adopts described with kept | ⟨early, adopted⟩
    · exact .inl kept
    · have unmoved : left events = [] := by
        refine Decidable.by_contra fun moved => ?_
        rw [marked.mpr moved] at early
        cases early
      exact .inr ⟨unmoved, adopted⟩

end Source

end FrameIngest
