import Reactor.Datum
import Reactor.EventLoop.Basic
import Reactor.Labelled
import Reactor.Log
import Reactor.Scenario.Action

/-!
# The world of a scenario

The world holds the event loops and handlers of a scenario, the labels under
which the script knows them, the helper threads that have not ended, and what
each thread has recorded.  Threads take turns: a worker runs when the thread
that is acting waits for it, and when a step of the script has been carried
out.
-/

namespace Reactor.Scenario

/-- Identity of an event loop in its world. -/
structure LoopId where
  value : Nat
  deriving DecidableEq

inductive Runner where
  | main
  | worker (loop : LoopId)
  /-- A helper, by its number in the order of creation. -/
  | helper (number : Nat)
  deriving DecidableEq

/-- A callback that waits to be let go. -/
structure HeldCallback where
  handler : HandlerId
  /-- What it does afterwards. -/
  actions : List Action
  released : Bool

structure LoopCell where
  label : String
  eventLoop : EventLoop (Event Kind)
  /-- Its worker is in the middle of a turn. -/
  busy : Bool
  held : Option HeldCallback

namespace LoopCell

/-- A callback waits and has not been let go. -/
def isHeld (cell : LoopCell) : Bool :=
  cell.held.any fun held => !held.released

end LoopCell

structure HandlerCell where
  label : String
  loop : LoopId
  /-- How many hold the handler object, or its core if there is no object. -/
  refs : Nat
  /-- There is no handler object. -/
  dead : Bool
  /-- Its destruction does not remove it. -/
  raw : Bool
  chain : List Kind
  onDrop : List Action
  maxTicks : Nat
  /-- What is left to do at the firings of timers. -/
  scripts : List (TimerId × List (List Action))
  /-- How often timers have fired. -/
  fired : List (TimerId × Nat)

/-- What a helper thread waits for. -/
inductive HelperTask where
  /-- The end of the callback of a handler that it removes. -/
  | removal (handler : HandlerId)
  /-- The end of a worker that it joins. -/
  | stopping (loop : LoopId)

structure Helper where
  number : Nat
  task : HelperTask
  /-- What it has recorded; it is shown when the helper ends. -/
  lines : List String

structure World where
  /-- Whether the log of the library itself is wanted. -/
  trace : Bool
  clock : Instant
  loops : List LoopCell
  /-- Loops that can be used. -/
  liveLoops : Labelled LoopId
  /-- The latest loop under each label, in use or not. -/
  knownLoops : Labelled LoopId
  handlers : List HandlerCell
  names : Labelled HandlerId
  helpers : List Helper
  /-- How many helpers there have been. -/
  helperCount : Nat
  /-- What threads have recorded since the last report. -/
  log : Labelled (List String)

namespace World

/-- An empty world, whose clock is some way from its beginning. -/
def new (trace : Bool) : World :=
  { trace
    clock := ⟨10 * nanosPerSecond, by decide⟩
    loops := []
    liveLoops := .empty
    knownLoops := .empty
    handlers := []
    names := .empty
    helpers := []
    helperCount := 0
    log := .empty }

def loop? (world : World) (id : LoopId) : Option LoopCell :=
  world.loops[id.value]?

def handler? (world : World) (id : HandlerId) : Option HandlerCell :=
  world.handlers[id.value]?

def modifyLoop (world : World) (id : LoopId) (f : LoopCell -> LoopCell) :
    World :=
  { world with loops := world.loops.modify id.value f }

def modifyHandler (world : World) (id : HandlerId)
    (f : HandlerCell -> HandlerCell) : World :=
  { world with handlers := world.handlers.modify id.value f }

def setEventLoop (world : World) (id : LoopId)
    (eventLoop : EventLoop (Event Kind)) : World :=
  world.modifyLoop id fun cell => { cell with eventLoop }

def setShared (world : World) (id : LoopId) (loop : Loop (Event Kind)) :
    World :=
  world.modifyLoop id fun cell =>
    { cell with eventLoop := { cell.eventLoop with loop } }

def slot (world : World) (id : HandlerId) : HandlerSlot :=
  match world.handler? id with
  | some cell =>
      match world.loop? cell.loop with
      | some loop => loop.eventLoop.loop.slots id
      | none => .fresh .gone
  | none => .fresh .gone

def handlerLabel (world : World) (id : HandlerId) : String :=
  ((world.handler? id).map (·.label)).getD ""

/-- Read the clock; the next reading is a later one. -/
def readClock (world : World) : Instant × World :=
  (world.clock,
    { world with clock := world.clock.advance ⟨1, by decide⟩ })

def publish (world : World) (key : String) (lines : List String) : World :=
  let old := (world.log.find? key).getD []
  { world with log := world.log.insert key (old ++ lines) }

/-- The key under which a helper's lines are shown. -/
def helperKey (number : Nat) : String :=
  "async" ++ Nat.repr number

def write (world : World) (runner : Runner) (line : String) : World :=
  match runner with
  | .main => world.publish "main" [line]
  | .worker id =>
      world.publish (((world.loop? id).map (·.label)).getD "") [line]
  | .helper number =>
      { world with
        helpers := world.helpers.map fun helper =>
          if helper.number = number then
            { helper with lines := helper.lines ++ [line] }
          else
            helper }

/-- The library says something on a thread. -/
def logRecord (world : World) (runner : Runner) (record : LogRecord) : World :=
  if world.trace then world.write runner record.line else world

/-- A new helper thread with a task. -/
def addHelper (world : World) (task : HelperTask) : Nat × World :=
  let number := world.helperCount + 1
  (number,
    { world with
      helpers := world.helpers ++ [⟨number, task, []⟩]
      helperCount := number })

def endHelper (world : World) (number : Nat) : World :=
  match world.helpers.find? fun helper => helper.number = number with
  | some helper =>
      let world :=
        if helper.lines.isEmpty then world
        else world.publish (helperKey number) helper.lines
      { world with
        helpers := world.helpers.filter fun helper => helper.number ≠ number }
  | none => world

def hasHelper (world : World) (number : Nat) : Bool :=
  world.helpers.any fun helper => helper.number = number

end World

/-- The thread that a loop knows a runner as. -/
def Runner.threadId : Runner -> ThreadId
  | .main => ⟨0⟩
  | .worker id => ⟨2 * id.value + 1⟩
  | .helper number => ⟨2 * number⟩

/-- How a runner removes handlers of a loop. -/
def Runner.remover (runner : Runner) (loop : LoopId) : Remover :=
  if runner = .worker loop then .worker else .thread runner.threadId

end Reactor.Scenario
