import Reactor.Timer.Basic

/-!
# The set of armed timers

`TimerSet` holds the armed timers of one loop in two forms that are kept in
step: the agenda lists them in the order in which they become due, and the
index gives the deadline of each identifier.  Identifiers are issued from 1
upwards and never again, not even after `clear`.
-/

namespace Reactor

structure TimerSet (ω : Type) where
  /-- Armed timers in the order in which they become due. -/
  agenda : List (ArmedTimer ω)
  /-- Deadline of every armed timer, newest first. -/
  index : List (TimerId × Instant)
  /-- How many identifiers have been issued. -/
  issued : Nat

namespace TimerSet

variable {ω : Type}

/-- No timer is armed and no identifier has been issued. -/
def empty : TimerSet ω :=
  ⟨[], [], 0⟩

instance : Inhabited (TimerSet ω) :=
  ⟨empty⟩

/-- Put a timer at its place in an agenda. -/
def schedule (timer : ArmedTimer ω) : List (ArmedTimer ω) -> List (ArmedTimer ω)
  | [] => [timer]
  | next :: rest =>
      if timer.before next then
        timer :: next :: rest
      else
        next :: schedule timer rest

@[simp] theorem mem_schedule {timer other : ArmedTimer ω}
    {agenda : List (ArmedTimer ω)} :
    other ∈ schedule timer agenda ↔ other = timer ∨ other ∈ agenda := by
  induction agenda with
  | nil => simp [schedule]
  | cons next rest ih =>
      unfold schedule
      split
      · simp
      · simp only [List.mem_cons, ih]
        exact or_left_comm

def unschedule (deadline : Instant) (id : TimerId)
    (agenda : List (ArmedTimer ω)) : List (ArmedTimer ω) :=
  agenda.filter fun timer => !(timer.deadline = deadline ∧ timer.id = id)

def deadline? (timers : TimerSet ω) (id : TimerId) : Option Instant :=
  timers.index.lookup id

def forget (id : TimerId) (index : List (TimerId × Instant)) :
    List (TimerId × Instant) :=
  index.filter fun entry => entry.1 ≠ id

/-- Deadline of the timer that is due next. -/
def nextDeadline (timers : TimerSet ω) : Option Instant :=
  timers.agenda.head?.map (·.deadline)

def size (timers : TimerSet ω) : Nat :=
  timers.agenda.length

def isEmpty (timers : TimerSet ω) : Bool :=
  timers.agenda.isEmpty

/--
Arm a timer that is due `interval` after `now`.  The answer is its identifier,
and whether it is due strictly before every timer armed so far.
-/
def insert (timers : TimerSet ω) (owner : ω) (now : Instant)
    (interval : Duration) (mode : TimerMode) :
    TimerId × Bool × TimerSet ω :=
  let deadline := now.deadlineAfter interval
  let id : TimerId := ⟨timers.issued + 1⟩
  let earliest :=
    match timers.nextDeadline with
    | some next => decide (deadline < next)
    | none => true
  (id, earliest,
    { agenda := schedule ⟨⟨owner, interval, mode⟩, id, deadline⟩ timers.agenda
      index := (id, deadline) :: timers.index
      issued := timers.issued + 1 })

/-- Disarm a timer.  The answer says whether it was armed. -/
def erase (timers : TimerSet ω) (id : TimerId) : Bool × TimerSet ω :=
  match timers.deadline? id with
  | some deadline =>
      (true,
        { timers with
          agenda := unschedule deadline id timers.agenda
          index := forget id timers.index })
  | none => (false, timers)

/-- Owner of a timer, if it is armed. -/
def owner? (timers : TimerSet ω) (id : TimerId) : Option ω := do
  let deadline ← timers.deadline? id
  let timer ← timers.agenda.find? fun timer =>
    timer.deadline = deadline ∧ timer.id = id
  return timer.owner

/-- Disarm every timer whose owner satisfies `p`, and count them. -/
def eraseWhere (timers : TimerSet ω) (p : ω -> Bool) : Nat × TimerSet ω :=
  let gone := timers.agenda.filter fun timer => p timer.owner
  (gone.length,
    { timers with
      agenda := timers.agenda.filter fun timer => !p timer.owner
      index := gone.foldl (fun index timer => forget timer.id index) timers.index })

/--
Take the timer that is due next if its deadline has been reached.  A one-shot
timer is disarmed; a repeating one is armed again, its interval counted from
`now`, so that a late reading skips the firings it missed.
-/
def popExpired (timers : TimerSet ω) (now : Instant) :
    Option ((TimerId × ω) × TimerSet ω) :=
  match timers.agenda with
  | [] => none
  | timer :: rest =>
      if timer.deadline <= now then
        let remaining := forget timer.id timers.index
        let after : TimerSet ω :=
          match timer.mode with
          | .oneShot => { timers with agenda := rest, index := remaining }
          | .repeating =>
              let again := timer.rearm now
              { timers with
                agenda := schedule again rest
                index := (again.id, again.deadline) :: remaining }
        some ((timer.id, timer.owner), after)
      else
        none

/--
Take expired timers until none is left or `limit` were taken.  A repeating
timer with an empty interval is expired again at once, so only the limit ends
the taking then.
-/
def popAllExpired (timers : TimerSet ω) (now : Instant) :
    Nat -> List (TimerId × ω) × TimerSet ω
  | 0 => ([], timers)
  | limit + 1 =>
      match timers.popExpired now with
      | none => ([], timers)
      | some (taken, after) =>
          let (others, final) := after.popAllExpired now limit
          (taken :: others, final)

/-- Disarm every timer; identifiers go on from where they were. -/
def clear (timers : TimerSet ω) : TimerSet ω :=
  { timers with agenda := [], index := [] }

end TimerSet

end Reactor
