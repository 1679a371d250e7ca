/-!
# Clock

Spans of time and readings of a monotone clock, both counted in nanoseconds.
Both kinds of number have an end: a span has a largest value, and the clock has
a last instant.  `Instant.deadlineAfter` is the deadline a span away from an
instant, and it stays on the near side of the last instant by halving the span
until the sum fits.
-/

namespace Reactor

def nanosPerSecond : Nat :=
  1000000000

/-- The number of nanoseconds in `2 ^ 64` seconds. -/
def Duration.limit : Nat :=
  18446744073709551616 * nanosPerSecond

/-- A span of time of fewer than `2 ^ 64` whole seconds. -/
structure Duration where
  nanos : Nat
  nanos_lt : nanos < Duration.limit
  deriving DecidableEq

namespace Duration

/-- The span of `nanos` nanoseconds, if it is not too long. -/
def ofNanos? (nanos : Nat) : Option Duration :=
  if h : nanos < limit then
    some ⟨nanos, h⟩
  else
    none

def zero : Duration :=
  ⟨0, by decide⟩

def longest : Duration :=
  ⟨limit - 1, by decide⟩

/-- Half of a span, rounded down to a whole nanosecond. -/
def half (span : Duration) : Duration :=
  ⟨span.nanos / 2, Nat.lt_of_le_of_lt (Nat.div_le_self _ _) span.nanos_lt⟩

@[simp] theorem nanos_half (span : Duration) :
    span.half.nanos = span.nanos / 2 :=
  rfl

/-- The span of a number of milliseconds, cut off at the longest span. -/
def ofMillis (millis : Nat) : Duration :=
  (ofNanos? (millis * 1000000)).getD longest

/-- Digits behind the decimal point: `places` places, without trailing zeros. -/
def fractionText (places part : Nat) : String :=
  let digits := (Nat.repr part).toList
  let padded := List.replicate (places - digits.length) '0' ++ digits
  let kept := (padded.reverse.dropWhile (· == '0')).reverse
  if kept.isEmpty then "" else "." ++ String.ofList kept

/--
A span for people: in the largest unit of which it holds at least one whole
piece, with as many decimals as it needs.
-/
def text (span : Duration) : String :=
  let inUnit (places : Nat) (unit : String) : String :=
    Nat.repr (span.nanos / Nat.pow 10 places) ++
      fractionText places (span.nanos % Nat.pow 10 places) ++ unit
  if nanosPerSecond <= span.nanos then
    inUnit 9 "s"
  else if 1000000 <= span.nanos then
    inUnit 6 "ms"
  else if 1000 <= span.nanos then
    inUnit 3 "µs"
  else
    Nat.repr span.nanos ++ "ns"

end Duration

/-- The number of nanoseconds in `2 ^ 63` seconds. -/
def Instant.limit : Nat :=
  9223372036854775808 * nanosPerSecond

/-- A reading of the clock, which has no reading of `2 ^ 63` seconds or more. -/
structure Instant where
  nanos : Nat
  nanos_lt : nanos < Instant.limit
  deriving DecidableEq

namespace Instant

def first : Instant :=
  ⟨0, by decide⟩

def last : Instant :=
  ⟨limit - 1, by decide⟩

/-- The instant `nanos` nanoseconds after the first, if the clock gets there. -/
def ofNanos? (nanos : Nat) : Option Instant :=
  if h : nanos < limit then
    some ⟨nanos, h⟩
  else
    none

instance : LE Instant :=
  ⟨fun a b => a.nanos <= b.nanos⟩

instance : LT Instant :=
  ⟨fun a b => a.nanos < b.nanos⟩

instance (a b : Instant) : Decidable (a <= b) :=
  inferInstanceAs (Decidable (a.nanos <= b.nanos))

instance (a b : Instant) : Decidable (a < b) :=
  inferInstanceAs (Decidable (a.nanos < b.nanos))

theorem le_def {a b : Instant} : a <= b ↔ a.nanos <= b.nanos :=
  Iff.rfl

theorem lt_def {a b : Instant} : a < b ↔ a.nanos < b.nanos :=
  Iff.rfl

def add? (now : Instant) (span : Duration) : Option Instant :=
  ofNanos? (now.nanos + span.nanos)

/-- The instant a span later, or the last one. -/
def advance (now : Instant) (span : Duration) : Instant :=
  (now.add? span).getD last

theorem add?_eq_some_iff {now deadline : Instant} {span : Duration} :
    now.add? span = some deadline ↔
      deadline.nanos = now.nanos + span.nanos := by
  obtain ⟨d, hd⟩ := deadline
  unfold add? ofNanos?
  split
  · constructor
    · intro h
      cases h
      rfl
    · intro h
      subst h
      rfl
  · rename_i h
    constructor
    · intro h
      cases h
    · intro h'
      exact absurd (h' ▸ hd) h

theorem add?_eq_none_iff {now : Instant} {span : Duration} :
    now.add? span = none ↔
      limit <= now.nanos + span.nanos := by
  unfold add? ofNanos?
  split
  · rename_i h
    exact ⟨(nomatch ·), fun h' => absurd h (Nat.not_lt.2 h')⟩
  · rename_i h
    exact ⟨fun _ => Nat.not_lt.1 h, fun _ => rfl⟩

/-- A span that leads past the end of the clock is not empty. -/
theorem nanos_pos_of_add?_eq_none {now : Instant} {span : Duration}
    (h : now.add? span = none) : 0 < span.nanos := by
  have hle := add?_eq_none_iff.1 h
  have hlt := now.nanos_lt
  omega

/--
The deadline a span away from `now`.  If the clock ends before it, half of the
span is tried instead, and so on; an empty span always fits.
-/
def deadlineAfter (now : Instant) (interval : Duration) : Instant :=
  match _h : now.add? interval with
  | some deadline => deadline
  | none => now.deadlineAfter interval.half
termination_by interval.nanos
decreasing_by
  have := nanos_pos_of_add?_eq_none ‹_›
  simp only [Duration.nanos_half]
  omega

theorem deadlineAfter_of_some {now deadline : Instant} {interval : Duration}
    (h : now.add? interval = some deadline) :
    now.deadlineAfter interval = deadline := by
  rw [deadlineAfter]
  split
  · simp_all
  · simp_all

/-- A deadline is never before the instant from which it is counted. -/
theorem le_deadlineAfter (now : Instant) (interval : Duration) :
    now <= now.deadlineAfter interval := by
  fun_induction deadlineAfter now interval with
  | case1 interval deadline h =>
      have := add?_eq_some_iff.1 h
      rw [le_def]
      omega
  | case2 interval h ih => exact ih

/-- A deadline is never later than the whole interval asks for. -/
theorem nanos_deadlineAfter_le (now : Instant) (interval : Duration) :
    (now.deadlineAfter interval).nanos <= now.nanos + interval.nanos := by
  fun_induction deadlineAfter now interval with
  | case1 interval deadline h =>
      have := add?_eq_some_iff.1 h
      omega
  | case2 interval h ih =>
      rw [Duration.nanos_half] at ih
      omega

end Instant

end Reactor
