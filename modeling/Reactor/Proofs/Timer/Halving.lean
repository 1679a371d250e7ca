import Reactor.Proofs.Timer.Clamp

/-!
# The halving of intervals

An interval that leads past the end of the clock is halved until it fits.  Nothing
counts the halvings, but there are no more than 94 of them, since a span has fewer
than `2 ^ 94` nanoseconds.  The first halving that fits is at least half as long as
the clock still runs, because twice as much did not fit, and so the deadline is a
good part of the way to the last instant.
-/

namespace Reactor

namespace Instant

variable {now deadline : Instant} {interval : Duration} {count : Nat}

/-- The search for a deadline ends after this number of halvings. -/
inductive Halves (now : Instant) : Duration -> Nat -> Instant -> Prop
  | fits {interval : Duration} {deadline : Instant} :
      now.add? interval = some deadline -> Halves now interval 0 deadline
  | halve {interval : Duration} {count : Nat} {deadline : Instant} :
      now.add? interval = none -> Halves now interval.half count deadline ->
      Halves now interval (count + 1) deadline

theorem ofNanos?_eq_some_iff {nanos : Nat} :
    ofNanos? nanos = some deadline ↔ deadline.nanos = nanos := by
  unfold ofNanos?
  split
  · next h =>
      constructor
      · intro same
        cases same
        rfl
      · intro same
        exact congrArg some (eq_of_nanos_eq same.symm)
  · next h =>
      constructor
      · intro same
        cases same
      · intro same
        exact absurd (same ▸ deadline.nanos_lt) h

/-- What the interval is halved to is the first that fits, and it leads to the deadline. -/
theorem halves_iff :
    now.Halves interval count deadline ↔
      ofNanos? (now.nanos + interval.nanos / 2 ^ count) = some deadline ∧
        ∀ k < count, ofNanos? (now.nanos + interval.nanos / 2 ^ k) = none := by
  have whole : ∀ interval : Duration,
      ofNanos? (now.nanos + interval.nanos / 2 ^ 0) = now.add? interval := by
    intro interval
    rw [pow_zero, Nat.div_one]
    rfl
  induction count generalizing interval with
  | zero =>
      rw [whole]
      constructor
      · intro halves
        cases halves with
        | fits h => exact ⟨h, fun k hk => absurd hk (Nat.not_lt_zero k)⟩
      · rintro ⟨h, -⟩
        exact .fits h
  | succ count ih =>
      constructor
      · intro halves
        cases halves with
        | halve h halves =>
            obtain ⟨hdeadline, hfirst⟩ := ih.1 halves
            rw [Duration.nanos_half_div] at hdeadline
            refine ⟨hdeadline, fun k hk => ?_⟩
            cases k with
            | zero => rw [whole, h]
            | succ k =>
                rw [← Duration.nanos_half_div]
                exact hfirst k (Nat.lt_of_succ_lt_succ hk)
      · rintro ⟨hdeadline, hfirst⟩
        refine .halve ?_ (ih.2 ⟨?_, fun k hk => ?_⟩)
        · rw [← whole]
          exact hfirst 0 (Nat.succ_pos count)
        · rw [Duration.nanos_half_div]
          exact hdeadline
        · rw [Duration.nanos_half_div]
          exact hfirst (k + 1) (Nat.succ_lt_succ hk)

theorem Halves.unique {other : Instant} {count' : Nat}
    (h : now.Halves interval count deadline) (h' : now.Halves interval count' other) :
    count = count' ∧ deadline = other := by
  induction h generalizing count' with
  | fits hadd =>
      cases h' with
      | fits hadd' => exact ⟨rfl, Option.some.inj (hadd.symm.trans hadd')⟩
      | halve hnone => exact nomatch hadd.symm.trans hnone
  | halve hnone _ ih =>
      cases h' with
      | fits hadd => exact nomatch hnone.symm.trans hadd
      | halve _ h' =>
          obtain ⟨rfl, same⟩ := ih h'
          exact ⟨rfl, same⟩

theorem exists_halves (now : Instant) (interval : Duration) :
    ∃ count, now.Halves interval count (now.deadlineAfter interval) := by
  fun_induction deadlineAfter now interval with
  | case1 interval deadline h => exact ⟨0, .fits h⟩
  | case2 interval h ih =>
      obtain ⟨count, halves⟩ := ih
      exact ⟨count + 1, .halve h halves⟩

/-- After 94 halvings nothing is left even of the longest span, and this fits. -/
theorem Halves.count_le (h : now.Halves interval count deadline) : count ≤ 94 := by
  by_contra many
  have unfit := (halves_iff.1 h).2 94 (by omega)
  have short : interval.nanos < 2 ^ 94 :=
    Nat.lt_trans interval.nanos_lt (by decide)
  rw [Nat.div_eq_of_lt short, Nat.add_zero] at unfit
  have fits : ofNanos? now.nanos = some now := ofNanos?_eq_some_iff.2 rfl
  rw [fits] at unfit
  cases unfit

/-- What did not fit was more than the clock had left, so its half is at least half of that. -/
theorem room_le_of_unfit (h : now.room < interval.nanos) :
    now.room ≤ 2 * ((now.deadlineAfter interval).nanos - now.nanos) := by
  obtain ⟨k, hdeadline, -, hfirst⟩ := now.exists_halving interval
  cases k with
  | zero =>
      rw [pow_zero, Nat.div_one] at hdeadline
      omega
  | succ k =>
      have hlong := hfirst k (Nat.lt_succ_self k)
      rw [pow_succ, ← Nat.div_div_eq_div_mul] at hdeadline
      omega

/-- How the deadline an interval away from `now` is found, and where it lies. -/
structure Approaches (now : Instant) (interval : Duration) (deadline : Instant) : Prop where
  /-- The search ends with the deadline, after the least number of halvings that makes the
  interval fit, and it does not end otherwise. -/
  ends : ∃ count ≤ 94,
    (∀ count' other, now.Halves interval count' other ↔ count' = count ∧ other = deadline) ∧
      ofNanos? (now.nanos + interval.nanos / 2 ^ count) = some deadline ∧
      ∀ k < count, ofNanos? (now.nanos + interval.nanos / 2 ^ k) = none
  whole : interval.nanos ≤ now.room -> deadline.nanos = now.nanos + interval.nanos
  notBefore : now <= deadline
  notAfter : deadline.nanos ≤ now.nanos + interval.nanos
  later : 0 < interval.nanos -> 0 < now.room -> now < deadline
  /-- An interval that does not fit leads at least half of the way to the last instant. -/
  halfway : now.room < interval.nanos -> now.room ≤ 2 * (deadline.nanos - now.nanos)

theorem deadline_is_approached (now : Instant) (interval : Duration) :
    now.Approaches interval (now.deadlineAfter interval) where
  ends := by
    obtain ⟨count, halves⟩ := now.exists_halves interval
    refine ⟨count, halves.count_le, fun count' other => ⟨fun h => h.unique halves, ?_⟩,
      halves_iff.1 halves⟩
    rintro ⟨rfl, rfl⟩
    exact halves
  whole := nanos_deadlineAfter_of_le
  notBefore := le_deadlineAfter now interval
  notAfter := nanos_deadlineAfter_le now interval
  later lasting inner := by
    refine lt_deadlineAfter ?_ ?_
    · have hroom := now.nanos_add_room
      rw [lt_def]
      omega
    · rintro rfl
      exact absurd lasting (Nat.lt_irrefl 0)
  halfway := room_le_of_unfit

/-- From the last instant on, the longest span is halved 94 times. -/
example : last.Halves .longest 94 last :=
  halves_iff.2 ⟨by decide +kernel, by decide +kernel⟩

end Instant

end Reactor
