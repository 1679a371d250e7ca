import Reactor.Scenario.Exec

/-!
# Destruction and removal

What happens when events, tokens and handlers are destroyed, and when handlers
are removed.  Destruction can act in turn, and removal can wait for a worker;
how a deed is carried out and how a worker gets its turn are parameters here.
-/

namespace Reactor.Scenario

/-- A way to carry out deeds and to give workers their turns. -/
structure Performer where
  deed : Context -> Deed -> Exec Datum
  /-- Let the worker of a loop go on for as long as it can. -/
  work : LoopId -> Exec Unit

/-- The result of a deed that failed and was caught. -/
def failureDatum (message : String) : Datum :=
  .record [("panic", .text message)]

/-- Carry out an action, and record its result if it has one to record. -/
def runAction (perform : Performer) (context : Context) (action : Action) :
    Exec Unit := do
  let result ←
    if action.catches then do
      match ← (perform.deed context action.deed).attempt with
      | .ok result => pure result
      | .error message => pure (failureDatum message)
    else
      perform.deed context action.deed
  match context.actor with
  | some actor =>
      if result.isNull then
        return ()
      else
        context.write
          (actor ++ " " ++ action.deed.verb ++ " = " ++ result.compact)
  | none => return ()

def runActions (perform : Performer) (context : Context) :
    List Action -> Exec Unit
  | [] => return ()
  | action :: rest => do
      runAction perform context action
      runActions perform context rest

/-- Destroy a token: it says so, acts, and then fails if it is to. -/
def destroyToken (perform : Performer) (context : Context) :
    Token -> Exec Unit
  | .mk label actions failure => do
      context.write ("drop " ++ label)
      runActions perform (context.actingAs "drop") actions
      match failure with
      | some message =>
          if context.unwinding then return () else Exec.fail message
      | none => return ()

def destroyEvent (perform : Performer) (context : Context)
    (event : Event Kind) : Exec Unit :=
  match ownedToken? event with
  | some token => destroyToken perform context token
  | none => return ()

/-- Destroy events in order, all of them even when one fails. -/
def destroyEvents (perform : Performer) (context : Context) :
    List (QueuedEvent (Event Kind)) -> Exec Unit
  | [] => return ()
  | entry :: rest =>
      (destroyEvent perform context entry.event).andThen fun unwinding =>
        destroyEvents perform (context.alsoUnwinding unwinding) rest

/--
Begin to remove a handler and destroy its queued events.  The answer says
whether the removal waits for the end of a callback.
-/
def beginRemoval (perform : Performer) (context : Context)
    (handler : HandlerId) : Exec Bool := do
  let world ← Exec.world
  let cell ← Exec.orStuck (world.handler? handler)
  let loopCell ← Exec.orStuck (world.loop? cell.loop)
  let (removal, loop) := loopCell.eventLoop.loop.beginRemoval handler
    (context.runner.remover cell.loop)
  Exec.update (·.setShared cell.loop loop)
  match removal with
  | none => return false
  | some removal =>
      context.log .debug "removing handler"
        [("handler", cell.label),
          ("discarded_events", Nat.repr removal.purged.length),
          ("disarmed_timers", Nat.repr removal.disarmed),
          ("waiting", toString removal.waiting)]
      destroyEvents perform context removal.purged
      return removal.waiting

/-- Wait for the callback of a handler that is being removed to end. -/
def awaitCallback (perform : Performer) (handler : HandlerId) : Exec Unit := do
  let cell ← Exec.orStuck ((← Exec.world).handler? handler)
  perform.work cell.loop
  if ((← Exec.world).slot handler).state = .removed then
    return ()
  else
    Exec.stuck

def removeHandler (perform : Performer) (context : Context)
    (handler : HandlerId) : Exec Unit := do
  if ← beginRemoval perform context handler then
    awaitCallback perform handler

def destroyCore (perform : Performer) (context : Context)
    (handler : HandlerId) : Exec Unit := do
  let world ← Exec.world
  match (world.slot handler).parting context.unwinding with
  | .nothing => return ()
  | .removeNow =>
      context.log .error
        "handler dropped without being removed during unwinding; removing it now"
        [("handler", world.handlerLabel handler)]
      removeHandler perform context handler
  | .abort => Exec.abort

/-- Destroy a handler: it says so, acts, and is removed unless it is raw. -/
def destroyHandler (perform : Performer) (context : Context)
    (handler : HandlerId) : Exec Unit := do
  let world ← Exec.world
  let cell ← Exec.orStuck (world.handler? handler)
  if cell.dead then
    destroyCore perform context handler
  else
    let loopCell ← Exec.orStuck (world.loop? cell.loop)
    Exec.update (·.setShared cell.loop (loopCell.eventLoop.loop.lose handler))
    let body : Exec Unit := do
      context.write (cell.label ++ " dropped")
      runActions perform (context.actingAs cell.label) cell.onDrop
      if cell.raw then
        return ()
      else
        removeHandler perform context handler
    body.andThen fun unwinding =>
      destroyCore perform (context.alsoUnwinding unwinding) handler

def addReference (handler : HandlerId) : Exec Unit :=
  Exec.update (·.modifyHandler handler fun cell =>
    { cell with refs := cell.refs + 1 })

/-- Let a handler go; the last to do so destroys it. -/
def dropReference (perform : Performer) (context : Context)
    (handler : HandlerId) : Exec Unit := do
  let world ← Exec.world
  let cell ← Exec.orStuck (world.handler? handler)
  Exec.update (·.modifyHandler handler fun cell =>
    { cell with refs := cell.refs - 1 })
  if cell.refs ≤ 1 then
    destroyHandler perform context handler

/-- Hold a handler while something is carried out. -/
def withReference {α : Type} (perform : Performer)
    (context : Context) (handler : HandlerId) (body : Exec α) : Exec α := do
  addReference handler
  body.andThen fun unwinding =>
    dropReference perform (context.alsoUnwinding unwinding) handler

end Reactor.Scenario
