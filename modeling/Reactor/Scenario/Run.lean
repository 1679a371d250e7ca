import Reactor.Scenario.Deed

/-!
# Running scenarios

A scenario is a list of steps, each an action of the main thread.  After each
step the workers go on until none can, and then a report is made: the result,
what every thread has recorded, what every loop has queued and armed, and the
states of the handlers that the script holds.
-/

namespace Reactor.Scenario

mutual

/-- A bound for the work that an action can give rise to by itself. -/
def Deed.weight : Deed -> Nat
  | .newHandler _ _ _ _ _ onDrop maxTicks => weightAll onDrop + maxTicks + 2
  | .send _ posting => posting.weight + 2
  | .sendMany _ count _ => count + 2
  | .onTick _ _ scripts => weightScripts scripts + 2
  | _ => 2

def Posting.weight : Posting -> Nat
  | .act actions | .hold actions => weightAll actions + 1
  | .carry token | .tracked token => token.weight + 1
  | _ => 1

def Token.weight : Token -> Nat
  | .mk _ actions _ => weightAll actions + 1

def Action.weight : Action -> Nat
  | .mk deed _ => deed.weight + 1

def weightAll : List Action -> Nat
  | [] => 0
  | action :: rest => action.weight + weightAll rest

def weightScripts : List (List Action) -> Nat
  | [] => 0
  | script :: rest => weightAll script + weightScripts rest + 1

end

structure Step where
  action : Action
  /-- Wait for the timers that are due soon as well. -/
  drain : Bool

/-- What is seen after a step. -/
structure StepReport where
  result : Datum
  log : List (String × List String)
  /-- The numbers of queued events and of armed timers, by loop. -/
  loops : List (String × Nat × Nat)
  handlers : List (String × HandlerState)

/--
Ways to carry out deeds and to give workers their turns, nested to this depth.
A worker makes no more turns in a row than `limit`.
-/
def performer (limit : Nat) : (depth : Nat) -> Performer
  | 0 => ⟨fun _ _ => Exec.stuck, fun _ => Exec.stuck⟩
  | depth + 1 =>
      let inner := performer limit depth
      ⟨carryOut inner limit, work inner limit⟩

def runStep (perform : Performer) (limit : Nat) (step : Step) : Exec Datum := do
  let result ←
    match ← (perform.deed .onMain step.action.deed).attempt with
    | .ok result => pure result
    | .error message => pure (failureDatum message)
  if step.drain then
    drain perform (fun _ cell => cell.canDrain) limit limit
  else
    settle perform limit
  return result

/-- Report on the world after a step, and forget what threads have recorded. -/
def World.report (world : World) (result : Datum) : StepReport × World :=
  ({ result
     log := world.log.entries
     loops := world.knownLoops.entries.filterMap fun (label, id) =>
       (world.loop? id).map fun cell =>
         (label, cell.eventLoop.loop.queue.length,
           cell.eventLoop.loop.timers.size)
     handlers := world.names.entries.map fun (label, id) =>
       (label, (world.slot id).state) },
    { world with log := .empty })

/-- How a scenario has ended. -/
inductive Outcome where
  | complete
  | aborted
  | stuck
  deriving DecidableEq

/-- Carry out steps until one cannot be completed. -/
def runSteps (perform : Performer) (limit : Nat) (world : World) :
    List Step -> List StepReport × Outcome
  | [] => ([], .complete)
  | step :: rest =>
      match runStep perform limit step world with
      | (.value result, world) =>
          let (report, world) := world.report result
          let (reports, outcome) := runSteps perform limit world rest
          (report :: reports, outcome)
      | (.abort, _) => ([], .aborted)
      | (.failure _, _) | (.stuck, _) => ([], .stuck)

/--
Run a scenario.  Every action is carried out once, so actions nest no deeper
than there are actions; every round of a worker takes an event that was posted
or a firing of a timer that was armed, so their number is bounded too.
-/
def run (trace : Bool) (steps : List Step) : List StepReport × Outcome :=
  let weight := weightAll (steps.map (·.action)) + 4
  let limit := 4 * weight * weight
  runSteps (performer limit (2 * weight)) limit (.new trace) steps

end Reactor.Scenario
