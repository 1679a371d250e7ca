import Reactor.Clock

/-!
# Journals

A journal is a record of observations in the order in which they were made.  A
reader can wait until it holds a number of them, and any condition can be
polled until it holds.
-/

namespace Reactor

structure Journal (α : Type) where
  entries : List α

namespace Journal

variable {α : Type}

def empty : Journal α :=
  ⟨[]⟩

def record (journal : Journal α) (entry : α) : Journal α :=
  ⟨journal.entries ++ [entry]⟩

def recordAll (journal : Journal α) (entries : List α) : Journal α :=
  ⟨journal.entries ++ entries⟩

def size (journal : Journal α) : Nat :=
  journal.entries.length

def isEmpty (journal : Journal α) : Bool :=
  journal.entries.isEmpty

/-- What a reader says who waited in vain for `count` entries. -/
def shortageText (journal : Journal α) (count : Nat) (timeout : Duration) :
    String :=
  "expected " ++ Nat.repr count ++ " journal entries within " ++ timeout.text ++
    ", got " ++ Nat.repr journal.size

/--
Wait for `count` entries while `arrivals` are recorded one after the other.
The reader gets all entries as soon as there are enough of them, or the text of
the failure; the journal keeps all arrivals in either case.
-/
def waitFor (journal : Journal α) (count : Nat) (timeout : Duration)
    (arrivals : List α) : Except String (List α) × Journal α :=
  let final := journal.recordAll arrivals
  if final.size < count then
    (.error (final.shortageText count timeout), final)
  else
    (.ok (journal.recordAll (arrivals.take (count - journal.size))).entries, final)

end Journal

/--
Poll a condition once in a millisecond, for `millis` milliseconds, the first
time at once.  `holds n` is its answer to the `n`-th call; the result is the
last answer and the number of calls.
-/
def poll (holds : Nat -> Bool) : (millis : Nat) -> (call : Nat) -> Bool × Nat
  | 0, call => (holds call, call)
  | millis + 1, call =>
      if holds call then (true, call) else poll holds millis (call + 1)

end Reactor
