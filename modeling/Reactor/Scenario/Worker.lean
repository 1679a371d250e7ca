import Reactor.Scenario.Destroy
import Reactor.Thread.Log

/-!
# Workers

The turns of the worker of a loop: it chooses its work, runs callbacks, ends
them, sleeps, and leaves.  A callback is a chain of links, one for each kind of
event that its handler takes.  It may wait in the middle, and then the worker's
turn is over until the callback is let go.
-/

namespace Reactor.Scenario

def putEventLoop (id : LoopId) (eventLoop : EventLoop (Event Kind)) :
    Exec Unit :=
  Exec.update (·.setEventLoop id eventLoop)

def getLoop (id : LoopId) : Exec LoopCell := do
  Exec.orStuck ((← Exec.world).loop? id)

def getHandler (id : HandlerId) : Exec HandlerCell := do
  Exec.orStuck ((← Exec.world).handler? id)

def noteStopped (context : Context) (cell : HandlerCell) (id : TimerId)
    (stopped : Bool) : Exec Unit :=
  if stopped then
    context.log .trace "timer stopped"
      [("handler", cell.label), ("timer", id.text)]
  else
    return ()

def stopTimer (context : Context) (handler : HandlerId) (id : TimerId) :
    Exec Unit := do
  let cell ← getHandler handler
  let loop := (← getLoop cell.loop).eventLoop.loop
  let (stopped, loop) := loop.stopTimer handler id
  Exec.update (·.setShared cell.loop loop)
  noteStopped context cell id stopped

/-- Take the script for the next firing of a timer. -/
def takeScript (handler : HandlerId) (id : TimerId) : Exec (List Action) := do
  let cell ← getHandler handler
  match cell.scripts.lookup id with
  | some (script :: rest) =>
      Exec.update (·.modifyHandler handler fun cell =>
        { cell with
          scripts := cell.scripts.map fun entry =>
            if entry.1 = id then (id, rest) else entry })
      return script
  | _ => return []

/-- Count a firing of a timer, and stop the timer if there were enough. -/
def countFiring (context : Context) (handler : HandlerId) (id : TimerId) :
    Exec Unit := do
  let cell ← getHandler handler
  let count := (cell.fired.lookup id).getD 0 + 1
  Exec.update (·.modifyHandler handler fun cell =>
    { cell with
      fired := (id, count) :: cell.fired.filter fun entry => entry.1 ≠ id })
  if cell.maxTicks ≤ count then
    stopTimer context handler id

/--
What a link does with the values of its event.  The answer has the actions that
are left for when a waiting callback is let go.
-/
def respond (perform : Performer) (context : Context) (handler : HandlerId)
    (label : String) : (kind : Kind) -> kind.Values -> Exec (Option (List Action))
  | .note, text => do
      context.write (label ++ " note " ++ text)
      return none
  | .pair, (number, text) => do
      context.write (label ++ " pair " ++ toString number ++ " " ++ text)
      return none
  | .unit, _ => do
      context.write (label ++ " unit")
      return none
  | .boom, message => do
      context.write (label ++ " boom")
      Exec.fail message
  | .act, actions => do
      context.write (label ++ " act")
      runActions perform (context.actingAs label) actions
      return none
  | .hold, actions => do
      context.write (label ++ " hold")
      return some actions
  | .carry, .mk name actions failure => do
      context.write (label ++ " carry " ++ name)
      destroyToken perform context (.mk name actions failure)
      return none
  | .tracked, _ => return none
  | .timer, id => do
      context.write (label ++ " timer " ++ id.text)
      let script ← takeScript handler id
      runActions perform (context.actingAs label) script
      return none

/-- The callback of a handler, up to where it waits. -/
def callback (perform : Performer) (context : Context) (handler : HandlerId)
    (event : Event Kind) : Exec (Option (List Action)) := do
  let cell ← getHandler handler
  let chain : List (Link Kind) := cell.chain.map fun kind => ⟨kind, .method⟩
  let routing := Dispatch.route chain event
  let held ←
    match routing.calls with
    | call :: _ =>
        respond perform context handler cell.label call.link.kind call.values
    | [] => do
        context.write (cell.label ++ " unhandled " ++ event.name)
        destroyEvent perform context event
        pure none
  match event.view? .timer with
  | some id => countFiring context handler id
  | none => pure ()
  return held

/-- A helper that joined a worker records what came of it, and ends. -/
def endStopping (number : Nat) (result : Datum) : Exec Unit := do
  (Context.onHelper number).write ("stopped " ++ result.compact)
  Exec.update (·.endHelper number)

/-- A helper that removed a handler records its state, and ends. -/
def endRemoval (perform : Performer) (number : Nat) (handler : HandlerId) :
    Exec Unit := do
  let context := Context.onHelper number
  let state := ((← Exec.world).slot handler).state
  context.write ("removed " ++ state.text)
  let _ ← (dropReference perform context handler).attempt
  Exec.update (·.endHelper number)

/--
Join the worker of a loop, which has exited.  Its failure is raised again, or
only noted if the thread is unwinding.
-/
def joinWorker (context : Context) (id : LoopId) : Exec Unit := do
  let cell ← getLoop id
  let (joined, eventLoop) := cell.eventLoop.join
  putEventLoop id eventLoop
  match joined with
  | none => return ()
  | some failure =>
      context.say (ThreadLog.joined eventLoop.name failure.isSome)
      match StopOutcome.of failure context.unwinding with
      | .returned => return ()
      | .raised message => Exec.fail message
      | .discarded _ =>
          context.log .error
            "handler callback panicked; panic discarded while already unwinding"
            [("event_loop", eventLoop.name)]

def joinResult (context : Context) (id : LoopId) : Exec Datum := do
  match ← (joinWorker context id).attempt with
  | .ok () => return .null
  | .error message => return failureDatum message

/-- Let the helpers go on that waited for the end of a callback. -/
def releaseRemovers (perform : Performer) (waiters : List ThreadId) :
    Exec Unit := do
  let helpers := (← Exec.world).helpers
  helpers.forM fun helper =>
    match helper.task with
    | .removal handler =>
        if (Runner.helper helper.number).threadId ∈ waiters then
          endRemoval perform helper.number handler
        else
          pure ()
    | .stopping _ => pure ()

/-- Let the helpers go on that waited for a worker to exit. -/
def releaseJoiners (id : LoopId) : Exec Unit := do
  let helpers := (← Exec.world).helpers
  helpers.forM fun helper =>
    match helper.task with
    | .stopping loop =>
        if loop = id then do
          let result ← joinResult (Context.onHelper helper.number) id
          endStopping helper.number result
        else
          pure ()
    | .removal _ => pure ()

/-- The worker leaves: what was queued is destroyed, and then it is gone. -/
def leaveLoop (perform : Performer) (id : LoopId)
    (farewell : Farewell (Event Kind)) : Exec Unit := do
  let context := Context.onWorker id
  let name := (← getLoop id).eventLoop.name
  context.log .debug "worker thread exiting"
    [("event_loop", name),
      ("discarded_events", Nat.repr farewell.discarded.length),
      ("disarmed_timers", Nat.repr farewell.disarmed)]
  let failure ←
    match ← (destroyEvents perform context farewell.discarded).attempt with
    | .ok () => pure none
    | .error message => pure (some message)
  let cell ← getLoop id
  putEventLoop id (cell.eventLoop.exit failure)
  releaseJoiners id

/-- End the callback of a handler, which may have failed. -/
def endCallback (perform : Performer) (id : LoopId) (handler : HandlerId)
    (failure : Option String) : Exec Unit := do
  let cell ← getLoop id
  let (waiters, farewell, eventLoop) :=
    cell.eventLoop.endCallback handler failure
  putEventLoop id eventLoop
  if failure.isSome then
    (Context.onWorker id).log .error
      "handler callback panicked; the event loop stops processing"
      [("event_loop", eventLoop.name)]
  releaseRemovers perform waiters
  match farewell with
  | some farewell => leaveLoop perform id farewell
  | none => return ()

/-- Carry out the last part of a callback and end it. -/
def finishCallback (perform : Performer) (id : LoopId) (handler : HandlerId)
    (body : Exec Unit) : Exec Unit := do
  let context := Context.onWorker id
  let whole := body.andThen fun unwinding =>
    dropReference perform (context.alsoUnwinding unwinding) handler
  match ← whole.attempt with
  | .ok () => endCallback perform id handler none
  | .error message => endCallback perform id handler (some message)

/-- Deliver an event, or destroy it if there is no handler object for it. -/
def deliver (perform : Performer) (id : LoopId) (handler : HandlerId)
    (event : Event Kind) : Exec Unit := do
  let context := Context.onWorker id
  if ((← Exec.world).slot handler).callable then
    addReference handler
    match ← (callback perform context handler event).attempt with
    | .ok (some actions) =>
        Exec.update (·.modifyLoop id fun cell =>
          { cell with held := some ⟨handler, actions, false⟩ })
    | .ok none => finishCallback perform id handler (return ())
    | .error message => finishCallback perform id handler (Exec.fail message)
  else
    match ← (destroyEvent perform context event).attempt with
    | .ok () => endCallback perform id handler none
    | .error message => endCallback perform id handler (some message)

/-- Go on with a callback that has been let go. -/
def resume (perform : Performer) (id : LoopId) (held : HeldCallback) :
    Exec Unit := do
  let context := Context.onWorker id
  Exec.update (·.modifyLoop id fun cell => { cell with held := none })
  let label := (← Exec.world).handlerLabel held.handler
  finishCallback perform id held.handler do
    context.write (label ++ " released")
    runActions perform (context.actingAs label) held.actions

/-- One round of a worker that is about to choose its work. -/
def round (perform : Performer) (id : LoopId) : Exec Unit := do
  let context := Context.onWorker id
  let now ← Exec.readClock
  let cell ← getLoop id
  let (round, eventLoop) := cell.eventLoop.round now
  putEventLoop id eventLoop
  match round with
  | .again | .sleep => return ()
  | .leave farewell => leaveLoop perform id farewell
  | .deliver handler (.timer timer) => do
      context.log .trace "timer fired"
        [("handler", (← Exec.world).handlerLabel handler),
          ("timer", timer.text)]
      deliver perform id handler ⟨.timer, timer⟩
  | .deliver handler (.event event) => do
      context.log .trace "delivering event"
        [("handler", (← Exec.world).handlerLabel handler),
          ("event", event.name)]
      deliver perform id handler event

/-- One turn of a worker.  The answer says whether there was anything to do. -/
def turn (perform : Performer) (id : LoopId) : Exec Bool := do
  let cell ← getLoop id
  match cell.eventLoop.phase with
  | .choosing => do
      round perform id
      return true
  | .asleep _ =>
      match cell.eventLoop.wake? (← Exec.world).clock with
      | some eventLoop => do
          putEventLoop id eventLoop
          return true
      | none => return false
  | .calling _ =>
      match cell.held with
      | some held =>
          if held.released then do
            resume perform id held
            return true
          else
            return false
      | none => return false
  | .leaving _ | .exited => return false

/-- Turns of a worker until there is nothing to do. -/
def turns (perform : Performer) (id : LoopId) : (limit : Nat) -> Exec Unit
  | 0 => Exec.stuck
  | limit + 1 => do
      if ← turn perform id then
        turns perform id limit

/-- Let a worker go on, unless it is in the middle of a turn. -/
def work (perform : Performer) (limit : Nat) (id : LoopId) : Exec Unit := do
  let cell ← getLoop id
  if cell.busy then
    return ()
  else
    Exec.update (·.modifyLoop id fun cell => { cell with busy := true })
    turns perform id limit
    Exec.update (·.modifyLoop id fun cell => { cell with busy := false })

/-- Whether a worker that is not in the middle of a turn could go on. -/
def LoopCell.canGoOn (cell : LoopCell) (now : Instant) : Bool :=
  !cell.busy &&
    match cell.eventLoop.phase with
    | .choosing => true
    | .asleep _ => (cell.eventLoop.wake? now).isSome
    | .calling _ => cell.held.any (·.released)
    | .leaving _ | .exited => false

/-- Let workers go on, one after the other, until none can. -/
def settle (perform : Performer) : (limit : Nat) -> Exec Unit
  | 0 => Exec.stuck
  | limit + 1 => do
      let world ← Exec.world
      match world.loops.findIdx? (·.canGoOn world.clock) with
      | some index => do
          perform.work ⟨index⟩
          settle perform limit
      | none => return ()

end Reactor.Scenario
