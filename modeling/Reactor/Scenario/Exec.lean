import Reactor.Scenario.World

/-!
# Running in a world

What is carried out in a world has a value, or fails, or ends the program, or
can never go on.  A failure unwinds: what it passes is destroyed on the way,
and a second failure from there ends the program.
-/

namespace Reactor.Scenario

inductive Ending (α : Type) where
  | value (result : α)
  | failure (message : String)
  | abort
  /-- It waits for something that cannot happen. -/
  | stuck

def Exec (α : Type) : Type :=
  World -> Ending α × World

namespace Exec

variable {α β : Type}

protected def pure (result : α) : Exec α :=
  fun world => (.value result, world)

protected def bind (first : Exec α) (next : α -> Exec β) : Exec β :=
  fun world =>
    match first world with
    | (.value result, world) => next result world
    | (.failure message, world) => (.failure message, world)
    | (.abort, world) => (.abort, world)
    | (.stuck, world) => (.stuck, world)

instance : Monad Exec where
  pure := Exec.pure
  bind := Exec.bind

def fail (message : String) : Exec α :=
  fun world => (.failure message, world)

def abort : Exec α :=
  fun world => (.abort, world)

def stuck : Exec α :=
  fun world => (.stuck, world)

def world : Exec World :=
  fun world => (.value world, world)

def update (f : World -> World) : Exec Unit :=
  fun world => (.value (), f world)

def readClock : Exec Instant :=
  fun world =>
    let (now, world) := world.readClock
    (.value now, world)

/-- Carry something out and look at how it ended. -/
def attempt (exec : Exec α) : Exec (Except String α) :=
  fun world =>
    match exec world with
    | (.value result, world) => (.value (.ok result), world)
    | (.failure message, world) => (.value (.error message), world)
    | (.abort, world) => (.abort, world)
    | (.stuck, world) => (.stuck, world)

/-- Carry something out while a failure unwinds; another failure is fatal. -/
def whileUnwinding (exec : Exec α) : Exec α := do
  match ← exec.attempt with
  | .ok result => return result
  | .error _ => abort

/--
Carry something out and clean up after it.  The cleaning up is told whether a
failure is on its way.
-/
def andThen (exec : Exec α) (cleanUp : (unwinding : Bool) -> Exec Unit) :
    Exec α := do
  match ← exec.attempt with
  | .ok result =>
      cleanUp false
      return result
  | .error message =>
      (cleanUp true).whileUnwinding
      fail message

/-- The value, or else it can never go on. -/
def orStuck : Option α -> Exec α
  | some result => Exec.pure result
  | none => stuck

end Exec

/-- On which thread something is carried out, and in what circumstances. -/
structure Context where
  runner : Runner
  /-- A failure is unwinding the thread. -/
  unwinding : Bool
  /-- Who acts, where the results of actions are recorded. -/
  actor : Option String

namespace Context

def onMain : Context :=
  ⟨.main, false, none⟩

/-- A worker at the beginning of a turn. -/
def onWorker (loop : LoopId) : Context :=
  ⟨.worker loop, false, none⟩

def onHelper (number : Nat) : Context :=
  ⟨.helper number, false, none⟩

/-- The same with `unwinding` as it is given or was. -/
def alsoUnwinding (context : Context) (unwinding : Bool) : Context :=
  { context with unwinding := context.unwinding || unwinding }

/-- The same with another actor. -/
def actingAs (context : Context) (actor : String) : Context :=
  { context with actor := some actor }

def write (context : Context) (line : String) : Exec Unit :=
  Exec.update (·.write context.runner line)

def say (context : Context) (record : LogRecord) : Exec Unit :=
  Exec.update (·.logRecord context.runner record)

def log (context : Context) (level : LogLevel) (message : String)
    (fields : List (String × String)) : Exec Unit :=
  context.say ⟨level, message, fields⟩

end Context

end Reactor.Scenario
