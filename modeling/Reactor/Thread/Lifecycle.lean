import Reactor.Machine
import Reactor.Thread.Basic

/-!
# The life of a worker thread object

The owner of a worker thread object starts threads with it, joins them, and gives
the object up in the end, one call after the other.  Each request for a thread comes
with an entry, and the entries are numbered in the order of the requests.  Whether
the system grants a request is left open, and so is how an entry ends.  A thread that
was granted calls its entry and ends with it, at any time, whatever the owner does
meanwhile.  It can be joined when it has ended.
-/

namespace Reactor

/-- What has become of an entry; those that end in a failure have a payload. -/
inductive EntryState (ρ : Type) where
  /-- It was destroyed without being called. -/
  | dropped
  /-- The thread was granted and has not called it yet. -/
  | granted
  | called
  | ended (outcome : Except ρ Unit)

inductive LifecycleMove (ρ : Type) where
  /-- The owner asks for a thread; `system` is what the system would answer. -/
  | run (system : Except String Unit)
  | join
  /-- The owner gives the object up, maybe while a failure unwinds its thread. -/
  | drop (unwinding : Bool)
  /-- The thread that was granted for an entry calls it. -/
  | call (entry : Nat)
  | finish (entry : Nat) (outcome : Except ρ Unit)

inductive LifecycleAnswer (ρ : Type) where
  | ran (result : Except ThreadError Unit)
  | joined (outcome : Except ρ Unit)
  | dropped (parting : ThreadDrop)
  | done

/-- A worker thread object, until it is given up, and all entries that came with requests. -/
structure Lifecycle (ρ : Type) where
  /-- The handle of a started thread is the number of its entry. -/
  thread : Option (WorkerThread Nat)
  entries : List (EntryState ρ)
  /-- The program has ended. -/
  aborted : Bool

namespace Lifecycle

variable {ρ : Type}

def new (name : String) (stackSize : Option Nat) : Lifecycle ρ :=
  ⟨some (.new name stackSize), [], false⟩

/-- A request that is not granted leaves its entry to be destroyed. -/
def run (state : Lifecycle ρ) (thread : WorkerThread Nat) (system : Except String Unit) :
    LifecycleAnswer ρ × Lifecycle ρ :=
  match thread.run (system.map fun _ => state.entries.length) with
  | (.error error, thread) =>
      (.ran (.error error),
        { state with thread := some thread, entries := state.entries ++ [.dropped] })
  | (.ok (), thread) =>
      (.ran (.ok ()),
        { state with thread := some thread, entries := state.entries ++ [.granted] })

/-- There is no answer as long as the thread that is to be joined has not ended. -/
def join? (state : Lifecycle ρ) (thread : WorkerThread Nat) :
    Option (LifecycleAnswer ρ × Lifecycle ρ) :=
  match thread.join with
  | (none, thread) => some (.joined (.ok ()), { state with thread := some thread })
  | (some entry, thread) =>
      match state.entries[entry]? with
      | some (.ended outcome) => some (.joined outcome, { state with thread := some thread })
      | _ => none

def drop (state : Lifecycle ρ) (thread : WorkerThread Nat) (unwinding : Bool) :
    LifecycleAnswer ρ × Lifecycle ρ :=
  let parting := thread.drop unwinding
  (.dropped parting, { state with thread := none, aborted := parting = .abort })

def move? : Machine (Lifecycle ρ) (LifecycleMove ρ) (LifecycleAnswer ρ)
  | state, .run system => state.thread.map fun thread => state.run thread system
  | state, .join => state.thread.bind fun thread => state.join? thread
  | state, .drop unwinding => state.thread.map fun thread => state.drop thread unwinding
  | state, .call entry =>
      match state.aborted, state.entries[entry]? with
      | false, some .granted =>
          some (.done, { state with entries := state.entries.set entry .called })
      | _, _ => none
  | state, .finish entry outcome =>
      match state.aborted, state.entries[entry]? with
      | false, some .called =>
          some (.done, { state with entries := state.entries.set entry (.ended outcome) })
      | _, _ => none

abbrev Reaches : Lifecycle ρ -> List (LifecycleMove ρ × LifecycleAnswer ρ) -> Lifecycle ρ -> Prop :=
  Machine.Reaches move?

/-- Moves with their answers that lead from a new object to a state.  The object has a name that
the system can give to a thread, which is one without a NUL character. -/
def Runs (past : List (LifecycleMove ρ × LifecycleAnswer ρ)) (state : Lifecycle ρ) : Prop :=
  ∃ name stackSize, '\x00' ∉ name.toList ∧ Reaches (.new name stackSize) past state

end Lifecycle

end Reactor
