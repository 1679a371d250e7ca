import Reactor.Text.Quoted
import Reactor.Thread.Error

/-!
# Worker threads

A worker thread object has a name and at most one started thread, which has to
be joined before another one is started and before the object is given up.
What the object holds of a started thread is its handle.
-/

namespace Reactor

structure WorkerThread (η : Type) where
  name : String
  /-- The size of the thread's stack, where it is not the usual one. -/
  stackSize : Option Nat
  /-- The thread that was started and has not been joined. -/
  handle : Option η

/-- What giving up a worker thread object calls for. -/
inductive ThreadDrop where
  | nothing
  /-- Other failures are on their way: the thread is left to itself. -/
  | detach
  /-- A started thread was given up without being joined. -/
  | abort
  deriving DecidableEq

namespace WorkerThread

variable {η : Type}

def new (name : String) (stackSize : Option Nat) : WorkerThread η :=
  ⟨name, stackSize, none⟩

def isJoinable (thread : WorkerThread η) : Bool :=
  thread.handle.isSome

/-- No address space has room for a stack of this size, `2 ^ 47`, or more. -/
def stackLimit : Nat :=
  140737488355328

/-- What the system answers to a request for a thread, given its handle. -/
def spawn (thread : WorkerThread η) (handle : η) : Except String η :=
  match thread.stackSize with
  | some size =>
      if stackLimit <= size then .error "out of memory" else .ok handle
  | none => .ok handle

/--
Start a thread, `spawned` being the system's answer to the request.  Nothing is
requested while an earlier thread has not been joined.
-/
def run (thread : WorkerThread η) (spawned : Except String η) :
    Except ThreadError Unit × WorkerThread η :=
  if thread.isJoinable then
    (.error (.alreadyRunning thread.name), thread)
  else
    match spawned with
    | .error cause => (.error (.spawn thread.name cause), thread)
    | .ok handle => (.ok (), { thread with handle := some handle })

/-- Take the handle of the thread that is to be joined. -/
def join (thread : WorkerThread η) : Option η × WorkerThread η :=
  (thread.handle, { thread with handle := none })

/-- What it takes to give the object up, on a thread that may be unwinding. -/
def drop (thread : WorkerThread η) (unwinding : Bool) : ThreadDrop :=
  if thread.isJoinable then
    if unwinding then .detach else .abort
  else
    .nothing

def text (thread : WorkerThread η) : String :=
  "WorkerThread \x7b name: " ++ Text.quote thread.name ++ ", joinable: " ++
    toString thread.isJoinable ++ ", .. \x7d"

end WorkerThread

end Reactor
