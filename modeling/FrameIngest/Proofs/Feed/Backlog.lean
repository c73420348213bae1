/-
FrameIngest.Proofs.Feed.Backlog — when a queue warns.

A queue warns when a push takes it past its limit, and the limit is doubled. In
a run in which nobody sets the limit, the lengths warned of are therefore one
more than the first limit, twice that limit, four times that limit and so on,
and each is warned of when it is reached for the first time. The limit never
sinks, so a queue that is drained and filled again is silent until it is longer
than it ever was.

* `QueueOp`, `QueueEvent`, `FrameQueue.run` — runs of a queue;
* `peak`, `warnings` — the greatest length that a push came to, and what was logged;
* `Growth`, `growth_perform` — what an operation does to the length and the limit;
* `Tracks`, `tracks_run` — the limit and the warnings follow from the peak;
* `backlog_warned_at_doublings` — all warnings of a run.
-/
import FrameIngest.Feed.Queue
import Mathlib.Algebra.Order.Ring.Nat
import Mathlib.Data.List.Induction
import Mathlib.Order.Bounds.Defs

namespace FrameIngest

/-! ## Runs of a queue -/

/-- Something that is done to a queue, other than to set its limit. -/
inductive QueueOp where
  | push (frame : Frame)
  | finish
  | pop

/-- What an operation on a queue leaves to be seen. -/
structure QueueEvent where
  /-- The length after the push of a frame, unless it is refused. -/
  reached : Option Nat := none
  notices : List Notice := []

namespace FrameQueue

def perform (q : FrameQueue) : QueueOp → FrameQueue × QueueEvent
  | .push f => let o := q.push f; (o.state, { reached := o.result.toOption, notices := o.notices })
  | .finish => (q.finish, {})
  | .pop => let o := q.pop; (o.state, { notices := o.notices })

def run (q : FrameQueue) : List QueueOp → FrameQueue × List QueueEvent
  | [] => (q, [])
  | op :: ops =>
    let (q, event) := q.perform op
    let (q, events) := q.run ops
    (q, event :: events)

theorem run_concat (q : FrameQueue) (ops : List QueueOp) (op : QueueOp) :
    q.run (ops ++ [op])
      = (((q.run ops).1.perform op).1, (q.run ops).2 ++ [((q.run ops).1.perform op).2]) := by
  induction ops generalizing q with
  | nil => rfl
  | cons first ops ih => simp [run, ih]

end FrameQueue

/-- The greatest length that a push came to. -/
def peak (events : List QueueEvent) : Nat :=
  events.foldl (fun high event => max high (event.reached.getD 0)) 0

/-- What was logged, in order. -/
def warnings (events : List QueueEvent) : List Notice := events.flatMap (·.notices)

@[simp] theorem peak_concat (events : List QueueEvent) (event : QueueEvent) :
    peak (events ++ [event]) = max (peak events) (event.reached.getD 0) := by
  simp [peak]

@[simp] theorem warnings_concat (events : List QueueEvent) (event : QueueEvent) :
    warnings (events ++ [event]) = warnings events ++ event.notices := by
  simp [warnings]

namespace FrameQueue

variable {q q' : FrameQueue} {op : QueueOp} {event : QueueEvent} {events : List QueueEvent}

/-! ## One operation -/

/-- What an operation does to the length and the limit of a queue. -/
inductive Growth (q : FrameQueue) : QueueOp → FrameQueue → QueueEvent → Prop where
  /-- No frame is let in. -/
  | still {op : QueueOp} {q' : FrameQueue} (length_le : q'.length ≤ q.length)
      (limit_eq : q'.limit = q.limit) : Growth q op q' {}
  /-- A frame is let in, and the queue stays within its limit. -/
  | grown {f : Frame} {q' : FrameQueue} (length_eq : q'.length = q.length + 1)
      (limit_eq : q'.limit = q.limit) (within : q.length + 1 ≤ q.limit.toNat) :
      Growth q (.push f) q' { reached := some (q.length + 1) }
  /-- A frame is let in, and the queue passes its limit. -/
  | warned {f : Frame} {q' : FrameQueue} (length_eq : q'.length = q.length + 1)
      (limit_eq : q'.limit = doubled q.limit) (passed : q.limit.toNat < q.length + 1) :
      Growth q (.push f) q'
        { reached := some (q.length + 1), notices := [.backlog (q.length + 1)] }

theorem growth_perform (q : FrameQueue) (op : QueueOp) :
    Growth q op (q.perform op).1 (q.perform op).2 := by
  cases op with
  | push f =>
    by_cases ended : q.IsEnded
    · have refused : q.push f = .fail .streamClosed q := if_pos ended
      simp only [perform, refused]
      exact .still (Nat.le_refl _) rfl
    · have taken : q.push f = { result := .ok (q.append f).length, state := q.append f,
                                notices := q.warning } := if_neg ended
      simp only [perform, taken, length_append, Except.toOption]
      by_cases passed : q.PassesLimit
      · rw [warning, if_pos passed]
        exact .warned (length_append q f) (if_pos passed) passed
      · rw [warning, if_neg passed]
        exact .grown (length_append q f) (if_neg passed) (Nat.not_lt.mp passed)
  | finish => exact .still (by simp [perform, length]) (limit_finish q)
  | pop =>
    cases frames : q.frames with
    | cons f rest =>
      simp only [perform, pop_of_cons frames]
      exact .still (by simp [length, frames]) rfl
    | nil =>
      by_cases ended : q.IsEnded
      · simp only [perform, pop_of_ended frames ended]
        exact .still (Nat.le_refl _) rfl
      · simp only [perform, pop_of_ready frames (Decidable.not_not.mp ended)]
        exact .still (Nat.le_refl _) rfl

/-! ## The peak and the limit -/

/-- After these events of a queue whose limit was `L` at first: the limit was doubled once for each
warning, the warnings are just as many as the peak asks for, and they name the doublings. -/
structure Tracks (L : Nat) (q : FrameQueue) (events : List QueueEvent) : Prop where
  length_le : q.length ≤ peak events
  limit_eq : q.limit.toNat = min (L * 2 ^ (warnings events).length) (UInt64.size - 1)
  isLeast : IsLeast {k | peak events ≤ L * 2 ^ k} (warnings events).length
  warnings_eq : warnings events
    = (List.range (warnings events).length).map fun j => .backlog (L * 2 ^ j + 1)

variable {L : Nat}

/-- A queue is within its limit, also where the limit is the greatest word. -/
theorem Tracks.length_le_limit (tracks : Tracks L q events) (fits : peak events < UInt64.size) :
    q.length ≤ q.limit.toNat := by
  have within : peak events ≤ L * 2 ^ (warnings events).length := tracks.isLeast.1
  have := tracks.length_le
  rw [tracks.limit_eq]
  omega

/-- The limit is passed from the peak only, and when all doublings so far are used up. -/
theorem Tracks.passed (tracks : Tracks L q events) (fits : q.length + 1 < UInt64.size)
    (passed : q.limit.toNat < q.length + 1) :
    q.limit.toNat = L * 2 ^ (warnings events).length
      ∧ q.length = L * 2 ^ (warnings events).length
      ∧ peak events = L * 2 ^ (warnings events).length := by
  have within : peak events ≤ L * 2 ^ (warnings events).length := tracks.isLeast.1
  have longest := tracks.length_le
  have limit := tracks.limit_eq
  omega

/-- A power of two counts as one more as soon as it is not enough. -/
theorem isLeast_succ {n : Nat} (positive : 0 < L) :
    IsLeast {k | L * 2 ^ n + 1 ≤ L * 2 ^ k} (n + 1) := by
  constructor
  · have power_pos : 0 < L * 2 ^ n := Nat.mul_pos positive (Nat.two_pow_pos n)
    show L * 2 ^ n + 1 ≤ L * 2 ^ (n + 1)
    rw [Nat.pow_succ, ← Nat.mul_assoc]
    omega
  · intro k enough
    have more : L * 2 ^ n < L * 2 ^ k := enough
    exact (Nat.pow_lt_pow_iff_right (by decide)).mp (Nat.lt_of_mul_lt_mul_left more)

theorem Tracks.of_growth (positive : 0 < L) (tracks : Tracks L q events)
    (growth : Growth q op q' event) (fits : peak (events ++ [event]) < UInt64.size) :
    Tracks L q' (events ++ [event]) := by
  have within : peak events ≤ L * 2 ^ (warnings events).length := tracks.isLeast.1
  have longest := tracks.length_le
  have limit := tracks.limit_eq
  cases growth with
  | still length_le limit_eq =>
    have high : peak (events ++ [({} : QueueEvent)]) = peak events := by simp
    refine ⟨?_, ?_, ?_, ?_⟩
    · omega
    · simpa [limit_eq] using limit
    · simpa using tracks.isLeast
    · simpa using tracks.warnings_eq
  | grown length_eq limit_eq fitting =>
    have high : peak (events ++ [{ reached := some (q.length + 1) }])
        = max (peak events) (q.length + 1) := peak_concat ..
    refine ⟨?_, ?_, ⟨?_, fun k enough => ?_⟩, ?_⟩
    · omega
    · simpa [limit_eq] using limit
    · show peak _ ≤ _
      simp only [warnings_concat, List.append_nil]
      omega
    · have lower : peak events ≤ L * 2 ^ k := by
        have higher : peak _ ≤ L * 2 ^ k := enough
        omega
      simpa using tracks.isLeast.2 lower
    · simpa using tracks.warnings_eq
  | warned length_eq limit_eq passed =>
    have high := peak_concat events
      { reached := some (q.length + 1), notices := [.backlog (q.length + 1)] }
    rw [Option.getD_some] at high
    obtain ⟨same, longest, highest⟩ := tracks.passed (by omega) passed
    have top : max (peak events) (q.length + 1) = L * 2 ^ (warnings events).length + 1 := by omega
    have count : (warnings events ++ [Notice.backlog (q.length + 1)]).length
        = (warnings events).length + 1 := by simp
    refine ⟨?_, ?_, ?_, ?_⟩ <;> simp only [high, top, warnings_concat, count]
    · omega
    · rw [limit_eq, toNat_doubled, same, Nat.pow_succ, Nat.mul_left_comm, Nat.mul_comm 2]
    · exact isLeast_succ positive
    · rw [List.range_succ, List.map_append, ← tracks.warnings_eq, longest]
      rfl

/-- An operation that does not take the queue beyond its peak logs nothing. -/
theorem Tracks.notices_eq_nil (tracks : Tracks L q events) (growth : Growth q op q' event)
    (fits : peak events < UInt64.size) (same : peak (events ++ [event]) = peak events) :
    event.notices = [] := by
  cases growth with
  | still _ _ | grown _ _ _ => rfl
  | warned _ _ passed =>
    rw [peak_concat, Option.getD_some] at same
    have used := tracks.passed (by omega) passed
    omega

/-! ## Whole runs -/

/-- A new queue, whose limit is at least one. -/
def fresh (limit : UInt64) : FrameQueue := ({} : FrameQueue).withLimit limit

theorem toNat_limit_fresh (limit : UInt64) : (fresh limit).limit.toNat = max limit.toNat 1 := by
  have max_eq : max limit 1 = if limit ≤ 1 then 1 else limit := rfl
  simp only [fresh, withLimit, max_eq, Nat.max_def, UInt64.le_iff_toNat_le, UInt64.toNat_one]
  split <;> rfl

theorem tracks_fresh (limit : UInt64) : Tracks (max limit.toNat 1) (fresh limit) [] where
  length_le := Nat.le_refl 0
  limit_eq := by
    have word := limit.toNat_lt
    rw [toNat_limit_fresh]
    simp [warnings]
    omega
  isLeast := ⟨Nat.zero_le _, fun k _ => Nat.zero_le k⟩
  warnings_eq := rfl

theorem tracks_run (limit : UInt64) (ops : List QueueOp)
    (fits : peak ((fresh limit).run ops).2 < UInt64.size) :
    Tracks (max limit.toNat 1) ((fresh limit).run ops).1 ((fresh limit).run ops).2 := by
  induction ops using List.reverseRecOn with
  | nil => exact tracks_fresh limit
  | append_singleton ops op ih =>
    rw [run_concat] at fits ⊢
    have before : peak ((fresh limit).run ops).2 < UInt64.size := by
      rw [peak_concat] at fits
      omega
    exact (ih before).of_growth (by omega) (growth_perform _ op) fits

/-- After the operations `before`, the push of `f` is the first to bring the queue to more than `n`
frames. This is warned of, and is warning number `j`, counted from zero. -/
structure FirstPasses (q : FrameQueue) (before : List QueueOp) (f : Frame) (n j : Nat) : Prop where
  peak_eq : peak (q.run before).2 = n
  event_eq : ((q.run before).1.perform (.push f)).2
    = { reached := some (n + 1), notices := [.backlog (n + 1)] }
  count_eq : (warnings (q.run before).2).length = j

/-- Each warning comes from a push that passes a doubling for the first time. -/
theorem exists_firstPasses (limit : UInt64) (ops : List QueueOp) {j : Nat}
    (fits : peak ((fresh limit).run ops).2 < UInt64.size)
    (below : j < (warnings ((fresh limit).run ops).2).length) :
    ∃ before f after, ops = before ++ .push f :: after
      ∧ FirstPasses (fresh limit) before f (max limit.toNat 1 * 2 ^ j) j := by
  induction ops using List.reverseRecOn with
  | nil => exact absurd below (Nat.not_lt_zero j)
  | append_singleton ops op ih =>
    rw [run_concat] at fits below
    have within : peak ((fresh limit).run ops).2 < UInt64.size := by
      rw [peak_concat] at fits
      omega
    by_cases earlier : j < (warnings ((fresh limit).run ops).2).length
    · obtain ⟨before, f, after, rfl, passes⟩ := ih within earlier
      exact ⟨before, f, after ++ [op], by simp, passes⟩
    · have tracks := tracks_run limit ops within
      have growth := growth_perform ((fresh limit).run ops).1 op
      generalize same : (((fresh limit).run ops).1.perform op).2 = event at growth fits below
      rw [warnings_concat, List.length_append] at below
      cases growth with
      | still _ _ | grown _ _ _ =>
        rw [List.length_nil] at below
        omega
      | @warned f _ _ _ passed =>
        rw [List.length_singleton] at below
        rw [peak_concat, Option.getD_some] at fits
        obtain rfl : j = (warnings ((fresh limit).run ops).2).length := by omega
        obtain ⟨-, longest, highest⟩ := tracks.passed (by omega) passed
        exact ⟨ops, f, [], rfl, highest, by rw [same, longest], rfl⟩

/-- **Warnings of a backlog.** Take any run of a new queue in which the limit is not set, `L` being
the limit at first, and no push comes to more frames than a word counts. The number `k` of warnings
is the least for which `L * 2 ^ k` is no less than the greatest length that a push came to. Warning
number `j`, counted from zero, names `L * 2 ^ j + 1` frames and comes from the push that reaches
them for the first time. The limit is `L * 2 ^ k` or else the greatest word, and the queue is within
it. An operation that does not take the queue beyond its greatest length logs nothing. -/
theorem backlog_warned_at_doublings (limit : UInt64) (ops : List QueueOp) :
    let L := max limit.toNat 1
    let q := ((fresh limit).run ops).1
    let events := ((fresh limit).run ops).2
    let k := (warnings events).length
    peak events < UInt64.size →
      IsLeast {k | peak events ≤ L * 2 ^ k} k
        ∧ warnings events = (List.range k).map (fun j => .backlog (L * 2 ^ j + 1))
        ∧ (∀ j < k, ∃ before f after, ops = before ++ .push f :: after
          ∧ FirstPasses (fresh limit) before f (L * 2 ^ j) j)
        ∧ q.limit.toNat = min (L * 2 ^ k) (UInt64.size - 1)
        ∧ q.length ≤ q.limit.toNat
        ∧ ∀ op, peak (events ++ [(q.perform op).2]) = peak events →
          (q.perform op).2.notices = [] := by
  intro L q events k fits
  have tracks : Tracks L q events := tracks_run limit ops fits
  refine ⟨tracks.isLeast, tracks.warnings_eq,
    fun j below => exists_firstPasses limit ops fits below,
    tracks.limit_eq, tracks.length_le_limit fits, fun op same => ?_⟩
  exact tracks.notices_eq_nil (growth_perform q op) fits same

/-- A queue that is filled, emptied and filled again, for longer than before. -/
def refilled : List QueueOp :=
  let push : QueueOp := .push (.video (.ofSize 2 2 .gray))
  [push, push, .pop, .pop, push, push, push, .finish, push]

/-- The second filling is warned of at three frames only, and two were warned of before. -/
theorem refilled_warned_twice :
    peak ((fresh 0).run refilled).2 = 3
      ∧ warnings ((fresh 0).run refilled).2 = [.backlog 2, .backlog 3]
      ∧ ((fresh 0).run refilled).1.limit.toNat = 4
      ∧ ((fresh 0).run refilled).1.length ≤ 4 := by
  have high : peak ((fresh 0).run refilled).2 = 3 := by decide
  have count : (warnings ((fresh 0).run refilled).2).length = 2 := by decide
  have fits : peak ((fresh 0).run refilled).2 < UInt64.size := high ▸ by decide
  obtain ⟨-, named, -, limit, within, -⟩ := backlog_warned_at_doublings 0 refilled fits
  rw [count] at named limit
  exact ⟨high, named, limit, Nat.le_trans within (Nat.le_of_eq limit)⟩

end FrameQueue

end FrameIngest
