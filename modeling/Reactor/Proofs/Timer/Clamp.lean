import Mathlib.Algebra.Order.Ring.Nat
import Reactor.Proofs.Timer.Lookup
import Reactor.Proofs.Timer.Roster

/-!
# Deadlines near the end of the clock

An interval that leads past the end of the clock is halved until it fits, so the
deadline is not put at the last instant but somewhere on the way there.  It is
the last instant only if one of the halvings hits it.  Of two intervals counted
from one instant the longer has the later deadline as long as the clock reaches
that deadline.  Beyond, it may be due before the shorter one.
-/

namespace Reactor

theorem Duration.nanos_half_div (span : Duration) (k : Nat) :
    span.half.nanos / 2 ^ k = span.nanos / 2 ^ (k + 1) := by
  rw [nanos_half, Nat.div_div_eq_div_mul, pow_succ, Nat.mul_comm]

namespace Instant

variable {now : Instant} {interval longer : Duration}

theorem eq_of_nanos_eq {a b : Instant} (h : a.nanos = b.nanos) : a = b := by
  cases a
  cases b
  cases h
  rfl

/-- The nanoseconds that are left of the clock. -/
def room (now : Instant) : Nat :=
  last.nanos - now.nanos

theorem nanos_add_room (now : Instant) : now.nanos + now.room = last.nanos := by
  have hlt := now.nanos_lt
  have hlast : last.nanos = limit - 1 := rfl
  unfold room
  omega

theorem add?_eq_none_iff_room_lt : now.add? interval = none ↔ now.room < interval.nanos := by
  have hroom := now.nanos_add_room
  have hlast : last.nanos = limit - 1 := rfl
  have hlimit : 0 < limit := Nat.zero_lt_of_lt now.nanos_lt
  rw [add?_eq_none_iff]
  omega

/-- The deadline is one of the halvings of the interval away, and it is the first that fits. -/
theorem exists_halving (now : Instant) (interval : Duration) :
    ∃ k, (now.deadlineAfter interval).nanos = now.nanos + interval.nanos / 2 ^ k ∧
      interval.nanos / 2 ^ k ≤ now.room ∧ ∀ j < k, now.room < interval.nanos / 2 ^ j := by
  fun_induction deadlineAfter now interval with
  | case1 interval deadline h =>
      have hdeadline := add?_eq_some_iff.1 h
      have hfits : ¬ now.room < interval.nanos := by
        rw [← add?_eq_none_iff_room_lt, h]
        simp
      refine ⟨0, by simpa using hdeadline, ?_, by simp⟩
      simpa using hfits
  | case2 interval h ih =>
      obtain ⟨k, hdeadline, hfits, hfirst⟩ := ih
      rw [interval.nanos_half_div] at hdeadline hfits
      refine ⟨k + 1, hdeadline, hfits, fun j hj => ?_⟩
      cases j with
      | zero => simpa using add?_eq_none_iff_room_lt.1 h
      | succ j =>
          rw [← interval.nanos_half_div]
          exact hfirst j (by omega)

/-- Before the last instant, an interval that is not empty leads to a later instant. -/
theorem lt_deadlineAfter (inner : now < last) (lasting : interval ≠ .zero) :
    now < now.deadlineAfter interval := by
  obtain ⟨k, hdeadline, -, hfirst⟩ := now.exists_halving interval
  have hroom := now.nanos_add_room
  have positive : 0 < interval.nanos := by
    rcases Nat.eq_zero_or_pos interval.nanos with hzero | hpos
    · cases interval
      cases hzero
      exact absurd rfl lasting
    · exact hpos
  have away : 0 < interval.nanos / 2 ^ k := by
    cases k with
    | zero => simpa using positive
    | succ k =>
        -- The halving before did not fit, so it was at least two nanoseconds long.
        have hlong := hfirst k (Nat.lt_succ_self k)
        rw [lt_def] at inner
        rw [pow_succ, ← Nat.div_div_eq_div_mul]
        omega
  rw [lt_def]
  omega

theorem nanos_deadlineAfter_of_le (h : interval.nanos ≤ now.room) :
    (now.deadlineAfter interval).nanos = now.nanos + interval.nanos := by
  cases hadd : now.add? interval with
  | none =>
      have hroom := add?_eq_none_iff_room_lt.1 hadd
      omega
  | some deadline =>
      rw [deadlineAfter_of_some hadd]
      exact add?_eq_some_iff.1 hadd

theorem deadlineAfter_zero (now : Instant) : now.deadlineAfter .zero = now := by
  have fits : Duration.zero.nanos ≤ now.room := Nat.zero_le _
  exact eq_of_nanos_eq (nanos_deadlineAfter_of_le fits)

theorem nanos_advance (now : Instant) (interval : Duration) :
    (now.advance interval).nanos = now.nanos + min interval.nanos now.room := by
  have hroom := now.nanos_add_room
  unfold advance
  cases hadd : now.add? interval with
  | none =>
      have hlt := add?_eq_none_iff_room_lt.1 hadd
      simp only [Option.getD_none]
      omega
  | some deadline =>
      have hdeadline := add?_eq_some_iff.1 hadd
      have hfits : ¬ now.room < interval.nanos := by
        rw [← add?_eq_none_iff_room_lt, hadd]
        simp
      simp only [Option.getD_some]
      omega

/-- The interval fits into the clock, or one of its halvings ends with the clock. -/
def Hits (now : Instant) (interval : Duration) : Prop :=
  interval.nanos ≤ now.room ∨ ∃ k, interval.nanos / 2 ^ k = now.room

/-- When the deadline is the whole interval away, or else the last instant. -/
theorem deadlineAfter_eq_advance_iff :
    now.deadlineAfter interval = now.advance interval ↔ now.Hits interval := by
  obtain ⟨k, hdeadline, hfits, hfirst⟩ := now.exists_halving interval
  have hadvance := now.nanos_advance interval
  constructor
  · intro same
    rw [← same, hdeadline] at hadvance
    rcases Nat.lt_or_ge now.room interval.nanos with hlt | hle
    · refine .inr ⟨k, ?_⟩
      omega
    · exact .inl hle
  · intro hits
    apply eq_of_nanos_eq
    rw [hdeadline, hadvance]
    rcases hits with hle | ⟨m, hm⟩
    · have hzero : k = 0 := by
        rcases Nat.eq_zero_or_pos k with hk | hk
        · exact hk
        · have hlong := hfirst 0 hk
          simp only [pow_zero, Nat.div_one] at hlong
          omega
      rw [hzero, pow_zero, Nat.div_one, Nat.min_eq_left hle]
    · -- The first halving that fits is at least as long as the one that ends with the clock.
      have hkm : k ≤ m := by
        by_contra hlt
        have hlong := hfirst m (by omega)
        omega
      have hpow : 2 ^ k ≤ 2 ^ m := Nat.pow_le_pow_right (by decide) hkm
      have hlonger : interval.nanos / 2 ^ m ≤ interval.nanos / 2 ^ k :=
        Nat.div_le_div_left hpow (Nat.two_pow_pos k)
      have hwhole : interval.nanos / 2 ^ k ≤ interval.nanos := Nat.div_le_self _ _
      omega

/-- As far as the clock reaches, a longer interval has a later deadline. -/
theorem deadlineAfter_le_of_le (h : interval.nanos ≤ longer.nanos)
    (fits : longer.nanos ≤ now.room) : now.deadlineAfter interval <= now.deadlineAfter longer := by
  rw [le_def, nanos_deadlineAfter_of_le fits, nanos_deadlineAfter_of_le (Nat.le_trans h fits)]
  omega

end Instant

namespace TimerSet

variable {ω : Type} {timers : TimerSet ω}

/-- Where the deadlines of a set of timers come to lie, and what follows for their order. -/
structure Clamped (timers : TimerSet ω) : Prop where
  /-- Beyond the end of the clock, a timer is dated with the last instant only if a halving of
  its interval hits it. -/
  armed : ∀ owner now interval mode, ∃ timer,
    (timers.insert owner now interval mode).2.2.armed?
        (timers.insert owner now interval mode).1 = some timer ∧
      timer.toTimer = ⟨owner, interval, mode⟩ ∧
      (timer.deadline = now.advance interval ↔ now.Hits interval)
  rearmed : ∀ now id owner after, timers.popExpired now = some ((id, owner), after) ->
    ∀ timer, after.armed? id = some timer ->
      (timer.deadline = now.advance timer.interval ↔ now.Hits timer.interval)
  /-- A timer goes before one that is armed later, counts from the same reading and has an
  interval at least as long, if the clock reaches the later deadline. -/
  inOrder : ∀ timer ∈ timers.agenda, ∀ owner now interval mode,
    timer.deadline = now.deadlineAfter timer.interval ->
    timer.interval.nanos ≤ interval.nanos -> interval.nanos ≤ now.room ->
    timer.before (timers.newcomer owner now interval mode)
  /-- No timer is taken while one that goes before it is armed. -/
  least : ∀ now id owner after, timers.popExpired now = some ((id, owner), after) ->
    ∀ timer, timers.armed? id = some timer -> ∀ other ∈ timers.agenda, ¬ other.before timer

theorem Indexed.armed_insert (h : timers.Indexed) (owner : ω) (now : Instant)
    (interval : Duration) (mode : TimerMode) :
    (timers.insert owner now interval mode).2.2.armed?
      (timers.insert owner now interval mode).1 =
        some (timers.newcomer owner now interval mode) := by
  have hid : (timers.insert owner now interval mode).1 = ⟨timers.issued + 1⟩ := rfl
  rw [hid, h.armed?_insert, if_pos rfl]

theorem Indexed.deadline_of_popExpired (h : timers.Indexed) {after : TimerSet ω} {now : Instant}
    {id : TimerId} {owner : ω} (hpop : timers.popExpired now = some ((id, owner), after))
    {timer : ArmedTimer ω} (harmed : after.armed? id = some timer) :
    timer.deadline = now.deadlineAfter timer.interval := by
  obtain ⟨fired, -, -, -, hagain, -⟩ := h.armed?_popExpired hpop
  rw [hagain] at harmed
  unfold ArmedTimer.again? at harmed
  split at harmed
  · cases harmed
  · cases harmed
    rfl

theorem Indexed.before_newcomer (h : timers.Indexed) {timer : ArmedTimer ω}
    (hmem : timer ∈ timers.agenda) {owner : ω} {now : Instant} {interval : Duration}
    {mode : TimerMode} (hle : timer.deadline <= now.deadlineAfter interval) :
    timer.before (timers.newcomer owner now interval mode) := by
  have hid := h.issued timer hmem
  rw [Instant.le_def] at hle
  rw [ArmedTimer.before_iff]
  simp only [newcomer]
  omega

theorem deadlines_lie_on_the_way (calls : List (TimerCall ω)) :
    Clamped ((empty : TimerSet ω).run calls).2 := by
  have refines := (refines_empty.run calls).2
  have indexed := refines.indexed
  refine ⟨?_, ?_, ?_, ?_⟩
  · intro owner now interval mode
    exact ⟨_, indexed.armed_insert owner now interval mode, rfl,
      Instant.deadlineAfter_eq_advance_iff⟩
  · intro now id owner after hpop timer harmed
    rw [indexed.deadline_of_popExpired hpop harmed]
    exact Instant.deadlineAfter_eq_advance_iff
  · intro timer hmem owner now interval mode hdeadline hle hfits
    apply indexed.before_newcomer hmem
    rw [hdeadline]
    exact Instant.deadlineAfter_le_of_le hle hfits
  · intro now id owner after hpop timer harmed other hmem
    obtain ⟨head, rest, hagenda, rfl, -, -, -⟩ := popExpired_eq_some hpop
    have same : timer = head := by
      obtain ⟨hin, hid⟩ := mem_of_armed?_eq_some harmed
      exact indexed.eq_of_id_eq hin (hagenda ▸ .head _) hid
    rw [same]
    exact refines.ordered.not_before_head hagenda hmem

/-- Of two timers that are armed at the same reading, the one with the longer interval, which
leads past the end of the clock, gets the earlier deadline and fires first. -/
theorem longer_interval_is_due_earlier :
    ∃ (short long : Duration) (timers : TimerSet Nat) (now : Instant),
      short.nanos < long.nanos ∧
      timers = (((empty : TimerSet Nat).insert 0 .first short .oneShot).2.2.insert 1 .first long
        .oneShot).2.2 ∧
      (Instant.first.add? short).isSome = true ∧ Instant.first.add? long = none ∧
      Instant.first.deadlineAfter long < Instant.first.deadlineAfter short ∧
      Instant.first.deadlineAfter long ≠ Instant.last ∧
      (timers.popExpired now).map Prod.fst = some (⟨2⟩, 1) := by
  refine ⟨⟨4611686018427388904 * nanosPerSecond, by decide⟩,
    ⟨9223372036854775808 * nanosPerSecond, by decide⟩, _,
    ⟨4611686018427387904 * nanosPerSecond, by decide⟩, by decide, rfl, ?_⟩
  decide +kernel

end TimerSet

end Reactor
