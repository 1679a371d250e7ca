import Reactor.Scenario.Worker

/-!
# Deeds

How each deed is carried out, and what its result is.  A deed that names a
handler holds that handler until it is done.
-/

namespace Reactor.Scenario

def noHandler : Datum :=
  .text "no handler"

def noLoop : Datum :=
  .text "no loop"

/-- The result of a deed that would wait for a callback that waits itself. -/
def refused : Datum :=
  .text "refused"

/-- Do something with the handler under a label, which is held meanwhile. -/
def withHandler (perform : Performer) (context : Context) (label : String)
    (body : HandlerId -> Exec Datum) : Exec Datum := do
  match (← Exec.world).names.find? label with
  | some handler =>
      withReference perform context handler (body handler)
  | none => return noHandler

/-- Do something with the loop in use under a label. -/
def withLoop (label : String) (body : LoopId -> Exec Datum) : Exec Datum := do
  match (← Exec.world).liveLoops.find? label with
  | some id => body id
  | none => return noLoop

/-- What the lock of a loop protects, for a handler bound to it. -/
def sharedOf (handler : HandlerId) :
    Exec (HandlerCell × Loop (Event Kind)) := do
  let cell ← getHandler handler
  return (cell, (← getLoop cell.loop).eventLoop.loop)

/-! ### Events and timers -/

/-- Post an event; one that is not accepted is destroyed. -/
def sendEvent (perform : Performer) (context : Context) (handler : HandlerId)
    (event : Event Kind) : Exec Unit := do
  let (cell, loop) ← sharedOf handler
  let fields := [("handler", cell.label), ("event", event.name)]
  let (accepted, loop) := loop.send handler event
  if accepted then do
    Exec.update (·.setShared cell.loop loop)
    context.log .trace "event queued" fields
  else do
    context.log .trace "event discarded" fields
    destroyEvent perform context event

def modeName : TimerMode -> String
  | .oneShot => "OneShot"
  | .repeating => "Repeating"

def noteArmed (context : Context) (cell : HandlerCell) (mode : TimerMode) :
    Option TimerId -> Exec Datum
  | some id => do
      context.log .trace "timer armed"
        [("handler", cell.label), ("timer", id.text), ("mode", modeName mode)]
      return .int id.value
  | none => return .null

def addTimer (context : Context) (handler : HandlerId) (interval : Duration)
    (mode : TimerMode) : Exec Datum := do
  let now ← Exec.readClock
  let (cell, loop) ← sharedOf handler
  let (id, loop) := loop.addTimer handler now interval mode
  Exec.update (·.setShared cell.loop loop)
  noteArmed context cell mode id

def stopAddTimer (context : Context) (handler : HandlerId) (old : TimerId)
    (interval : Duration) (mode : TimerMode) : Exec Datum := do
  let now ← Exec.readClock
  let (cell, loop) ← sharedOf handler
  let (stopped, id, loop) := loop.stopAddTimer handler old now interval mode
  Exec.update (·.setShared cell.loop loop)
  noteStopped context cell old stopped
  noteArmed context cell mode id

/-! ### Filters -/

namespace Pattern

/-- Whether an event has what the pattern asks for. -/
def holds (pattern : Pattern) (index : Nat) (handler : String)
    (event : Event Kind) : Bool :=
  let text? : Option String :=
    (event.view? .note).or ((event.view? .pair).map (·.2))
  let even? : Option Bool :=
    (event.view? .pair).map fun pair => pair.1 % 2 == 0
  !pattern.never &&
    pattern.kinds.all (·.contains event.name) &&
    pattern.handlers.all (·.contains handler) &&
    pattern.indices.all (·.contains index) &&
    pattern.texts.all (fun texts => text?.any texts.contains) &&
    pattern.even.all (fun even => even? == some even)

/-- Look at events with a pattern, and note what was looked at. -/
def visit (pattern : Pattern) (label : HandlerId -> String)
    (note : QueuedEvent (Event Kind) -> String) :
    Visit (List String) (Event Kind) :=
  fun seen entry =>
    let answer :=
      if pattern.failAt = some seen.length then
        none
      else
        some (pattern.holds seen.length (label entry.handler) entry.event)
    (answer, seen ++ [note entry])

def failure : String :=
  "predicate panicked"

end Pattern

/-- Put a filtered queue back, and destroy what is gone from it. -/
def endFiltering (perform : Performer) (context : Context) (id : LoopId)
    (filtering : Filtering (List String) (Event Kind))
    (loop : Loop (Event Kind)) : Exec Datum := do
  Exec.update (·.setShared id loop)
  let seen := Datum.list (filtering.state.map .text)
  let failed (message : String) : Datum :=
    .record [("panic", .text message), ("seen", seen)]
  match filtering with
  | .done _ taken _ => do
      context.log .trace "queued events filtered out"
        [("count", Nat.repr taken.length)]
      match ← (destroyEvents perform context taken).attempt with
      | .ok () =>
          return .record [("removed", .int taken.length), ("seen", seen)]
      | .error message => return failed message
  | .failed _ lost => do
      (destroyEvents perform (context.alsoUnwinding true) lost).whileUnwinding
      return failed Pattern.failure

/-! ### Handlers and loops -/

def stopLoop (perform : Performer) (context : Context) (id : LoopId) :
    Exec Unit := do
  if context.runner = .worker id then
    Exec.fail "an event loop cannot be stopped from its own worker thread"
  else
    let cell ← getLoop id
    Exec.update (·.setShared id cell.eventLoop.loop.requestStop)
    perform.work id
    if (← getLoop id).eventLoop.hasExited then
      joinWorker context id
    else
      Exec.stuck

/-- Give up the thread object of a loop. -/
def dropThread (context : Context) (id : LoopId) : Exec Unit := do
  let eventLoop := (← getLoop id).eventLoop
  match eventLoop.thread.drop context.unwinding with
  | .nothing => return ()
  | .detach => do
      putEventLoop id { eventLoop with thread := eventLoop.thread.join.2 }
      context.say (ThreadLog.detaching eventLoop.name)
  | .abort => Exec.abort

def dropLoop (perform : Performer) (context : Context) (id : LoopId) :
    Exec Unit :=
  (stopLoop perform context id).andThen fun unwinding =>
    dropThread (context.alsoUnwinding unwinding) id

/-- Whether a thread would wait for a callback that has not been let go. -/
def isHeld (id : LoopId) : Exec Bool := do
  return (← getLoop id).isHeld

/-- Make a loop and start its worker. -/
def newLoop (perform : Performer) (context : Context) (label : String)
    (name : Option String) (stackSize : Option Nat) : Exec Datum := do
  let name := name.getD EventLoop.defaultName
  match (EventLoop.new name stackSize : EventLoop (Event Kind)).start with
  | .error error => return .record [("error", .text error.message)]
  | .ok eventLoop => do
      let world ← Exec.world
      let id : LoopId := ⟨world.loops.length⟩
      let old := world.liveLoops.find? label
      Exec.update fun world =>
        { world with
          loops := world.loops ++ [⟨label, eventLoop, false, none⟩]
          liveLoops := world.liveLoops.insert label id
          knownLoops := world.knownLoops.insert label id }
      context.say (ThreadLog.started name)
      (Context.onWorker id).log .debug "worker thread started"
        [("event_loop", name)]
      context.log .debug "event loop started" [("event_loop", name)]
      match old with
      | some old => dropLoop perform context old
      | none => pure ()
      return .text name

def newHandler (perform : Performer) (context : Context) (id : LoopId)
    (label : String) (raw dead : Bool) (chain : List Kind)
    (onDrop : List Action) (maxTicks : Nat) : Exec Datum := do
  let world ← Exec.world
  let handler : HandlerId := ⟨world.handlers.length⟩
  let old := world.names.find? label
  let cell ← getLoop id
  let loop := cell.eventLoop.loop.bind handler (if dead then .gone else .alive)
  Exec.update fun world =>
    { world.setShared id loop with
      handlers := world.handlers ++
        [{ label, loop := id, refs := 1, dead, raw, chain, onDrop, maxTicks
           scripts := [], fired := [] }]
      names := world.names.insert label handler }
  match old with
  | some old => dropReference perform context old
  | none => pure ()
  return .record [("newest", .bool true)]

/-- Give up the script's own hold on a handler. -/
def dropHandler (perform : Performer) (context : Context) (label : String)
    (unwinding : Bool) : Exec Datum := do
  match (← Exec.world).names.find? label with
  | none => return noHandler
  | some handler => do
      Exec.update fun world => { world with names := world.names.erase label }
      let giveUp :=
        dropReference perform (context.alsoUnwinding unwinding) handler
      if unwinding then do
        giveUp.whileUnwinding
        return .text "unwinding"
      else do
        giveUp
        return .null

def removeAsync (perform : Performer) (handler : HandlerId) : Exec Datum := do
  let (number, world) := (← Exec.world).addHelper (.removal handler)
  Exec.update fun _ => world
  let context := Context.onHelper number
  addReference handler
  match ← (beginRemoval perform context handler).attempt with
  | .ok false => endRemoval perform number handler
  | .ok true => do
      let cell ← getHandler handler
      perform.work cell.loop
  | .error _ => do
      (dropReference perform (context.alsoUnwinding true) handler).whileUnwinding
      Exec.update (·.endHelper number)
  return .text (if (← Exec.world).hasHelper number then "waiting" else "done")

def stopAsync (perform : Performer) (id : LoopId) : Exec Datum := do
  let (number, world) := (← Exec.world).addHelper (.stopping id)
  Exec.update fun _ => world
  let cell ← getLoop id
  Exec.update (·.setShared id cell.eventLoop.loop.requestStop)
  if cell.eventLoop.hasExited then
    releaseJoiners id
  else
    perform.work id
  return .text (if (← Exec.world).hasHelper number then "waiting" else "done")

def stop (perform : Performer) (context : Context) (id : LoopId) :
    Exec Datum := do
  if ← isHeld id then
    return refused
  else if context.runner = .worker id then do
    stopLoop perform context id
    return .null
  else
    match ← (stopLoop perform context id).attempt with
    | .ok () => return .null
    | .error message => return failureDatum message

def dropLoopLabel (perform : Performer) (context : Context) (label : String)
    (id : LoopId) (unwinding : Bool) : Exec Datum := do
  if ← isHeld id then
    return refused
  else do
    Exec.update fun world =>
      { world with liveLoops := world.liveLoops.erase label }
    let giveUp := dropLoop perform (context.alsoUnwinding unwinding) id
    if unwinding then do
      giveUp.whileUnwinding
      return .text "unwinding"
    else if context.runner = .worker id then do
      giveUp
      return .null
    else
      match ← giveUp.attempt with
      | .ok () => return .null
      | .error message => return .text message

/-- Whether a helper waits for a loop. -/
def World.hasHelperOf (world : World) (id : LoopId) : Bool :=
  world.helpers.any fun helper =>
    match helper.task with
    | .stopping loop => loop = id
    | .removal handler => (world.handler? handler).any (·.loop = id)

/-- Let a waiting callback go.  Helpers that wait for the loop end meanwhile. -/
def release (perform : Performer) (label : String) : Exec Datum := do
  let world ← Exec.world
  match world.knownLoops.find? label with
  | none => return noLoop
  | some id => do
      if ← isHeld id then do
        Exec.update (·.modifyLoop id fun cell =>
          { cell with
            held := cell.held.map fun held => { held with released := true } })
        if world.hasHelperOf id then
          perform.work id
        return .bool true
      else
        return .bool false

/-- How long in advance a timer is waited for when loops are drained. -/
def drainHorizon : Duration :=
  ⟨nanosPerSecond, by decide⟩

/-- The next deadline among loops that can be drained, if it is near. -/
def World.nearDeadline? (world : World) (choose : Nat -> LoopCell -> Bool) :
    Option Instant :=
  let horizon := world.clock.advance drainHorizon
  let deadlines := (world.loops.zipIdx.filter fun entry =>
    choose entry.2 entry.1).filterMap fun entry =>
      entry.1.eventLoop.loop.timers.nextDeadline
  let near := deadlines.filter fun deadline => deadline <= horizon
  near.foldl
    (fun least deadline =>
      match least with
      | some other => if deadline < other then some deadline else some other
      | none => some deadline)
    none

/-- Let time pass and timers fire until none of the chosen loops has a near one. -/
def drain (perform : Performer) (choose : Nat -> LoopCell -> Bool) :
    (limit : Nat) -> (turns : Nat) -> Exec Unit
  | 0, _ => Exec.stuck
  | limit + 1, turns => do
      settle perform turns
      match (← Exec.world).nearDeadline? choose with
      | some deadline => do
          Exec.update fun world =>
            { world with
              clock :=
                if world.clock < deadline then deadline else world.clock }
          drain perform choose limit turns
      | none => return ()

/-- A loop whose timers fire when time passes. -/
def LoopCell.canDrain (cell : LoopCell) : Bool :=
  !cell.busy && !cell.isHeld && !cell.eventLoop.hasExited

/-- Let the timers of a loop fire; one that is held only sees time pass. -/
def drainLoop (perform : Performer) (id : LoopId) (time : Duration)
    (limit : Nat) : Exec Datum := do
  let world ← Exec.world
  if (← getLoop id).isHeld then
    match world.nearDeadline? (fun index _ => index = id.value) with
    | some _ =>
        Exec.update fun world =>
          { world with clock := world.clock.advance time }
    | none => pure ()
  else
    drain perform (fun index cell => index = id.value && cell.canDrain) limit
      limit
  return .null

/-! ### Questions -/

def ofOrdering : Ordering -> Datum
  | .lt => .int (-1)
  | .eq => .int 0
  | .gt => .int 1

def threadName (runner : Runner) : Exec Datum := do
  match runner with
  | .main => return .text "main"
  | .worker id => return .text (← getLoop id).eventLoop.name
  | .helper number => return .text (World.helperKey number)

def describeHandler (handler : HandlerId) : Exec Datum := do
  let cell ← getHandler handler
  let loop ← getLoop cell.loop
  let state := ((← Exec.world).slot handler).state
  return .text
    ("HandlerCore \x7b id: ID, state: " ++ state.title ++ ", event_loop: " ++
      Text.quote loop.eventLoop.name ++ " \x7d")

def describeLoop (id : LoopId) : Exec Datum := do
  let world ← Exec.world
  let name := Text.quote (← getLoop id).eventLoop.name
  let joining := world.helpers.any fun helper =>
    match helper.task with
    | .stopping loop => loop = id
    | .removal _ => false
  return .list
    [.text ("switchyard::event_loop::EventLoop \x7b name: " ++ name ++
      ", thread: Mutex \x7b locked: " ++ toString joining ++
      ", .. \x7d, .. \x7d"),
    .text ("switchyard::event_loop::LoopShared \x7b name: " ++ name ++
      ", .. \x7d")]

/-! ### All of them -/

def carryOut (perform : Performer) (limit : Nat) (context : Context) :
    Deed -> Exec Datum
  | .newLoop label name stackSize =>
      newLoop perform context label name stackSize
  | .newHandler loop handler raw dead chain onDrop maxTicks =>
      withLoop loop fun id =>
        newHandler perform context id handler raw dead chain onDrop maxTicks
  | .send label posting =>
      withHandler perform context label fun handler => do
        sendEvent perform context handler posting.event
        return .null
  | .sendMany label count text =>
      withHandler perform context label fun handler => do
        (List.range count).forM fun number =>
          sendEvent perform context handler
            (Posting.pair number text).event
        return .null
  | .addTimer label interval mode =>
      withHandler perform context label fun handler =>
        addTimer context handler interval mode
  | .stopTimer label id =>
      withHandler perform context label fun handler => do
        stopTimer context handler id
        return .null
  | .stopAddTimer label id interval mode =>
      withHandler perform context label fun handler =>
        stopAddTimer context handler id interval mode
  | .onTick label id scripts =>
      withHandler perform context label fun handler => do
        Exec.update (·.modifyHandler handler fun cell =>
          { cell with
            scripts :=
              (id, scripts) :: cell.scripts.filter fun entry => entry.1 ≠ id })
        return .null
  | .filterHandler label pattern =>
      withHandler perform context label fun handler => do
        let world ← Exec.world
        let (cell, loop) ← sharedOf handler
        let visit := pattern.visit world.handlerLabel fun entry =>
          entry.event.name
        let (filtering, loop) := loop.filterFor handler visit []
        endFiltering perform context cell.loop filtering loop
  | .filterLoop label pattern =>
      withLoop label fun id => do
        let world ← Exec.world
        let loop := (← getLoop id).eventLoop.loop
        let visit := pattern.visit world.handlerLabel fun entry =>
          world.handlerLabel entry.handler ++ ":" ++ entry.event.name
        let (filtering, loop) := loop.filter visit []
        endFiltering perform context id filtering loop
  | .remove label =>
      withHandler perform context label fun handler => do
        let cell ← getHandler handler
        let loop ← getLoop cell.loop
        let state := ((← Exec.world).slot handler).state
        let waits := loop.held.any fun held =>
          !held.released && held.handler = handler
        if waits && state ≠ .removed then
          return refused
        else do
          removeHandler perform context handler
          return .null
  | .removeAsync label =>
      withHandler perform context label fun handler =>
        removeAsync perform handler
  | .state label =>
      withHandler perform context label fun handler => do
        return .text ((← Exec.world).slot handler).state.text
  | .compare first second =>
      withHandler perform context first fun a =>
        withHandler perform context second fun b =>
          return ofOrdering (compare a.value b.value)
  | .pending label =>
      withLoop label fun id => do
        return .int (← getLoop id).eventLoop.loop.queue.length
  | .timers label =>
      withLoop label fun id => do
        return .int (← getLoop id).eventLoop.loop.timers.size
  | .name label =>
      withLoop label fun id => do
        return .text (← getLoop id).eventLoop.name
  | .active label =>
      withLoop label fun id => do
        match (← getLoop id).eventLoop.loop.active with
        | some active =>
            return .list
              [.text ((← Exec.world).handlerLabel active.handler),
                .int active.waiters.length]
        | none => return .text "none"
  | .signalled label =>
      withLoop label fun id => do
        return .bool (← getLoop id).eventLoop.loop.signalled
  | .isWorker label =>
      withLoop label fun id =>
        return .bool (context.runner = .worker id)
  | .threadName => threadName context.runner
  | .describeHandler label =>
      withHandler perform context label describeHandler
  | .describeLoop label => withLoop label describeLoop
  | .drop label unwinding => dropHandler perform context label unwinding
  | .stop label => withLoop label (stop perform context)
  | .stopAsync label => withLoop label (stopAsync perform)
  | .dropLoop label unwinding =>
      withLoop label fun id =>
        dropLoopLabel perform context label id unwinding
  | .release label => release perform label
  | .settle => do
      settle perform limit
      return .null
  | .drain label time =>
      withLoop label fun id => drainLoop perform id time limit
  | .record text => do
      context.write text
      return .null
  | .fail message => Exec.fail message

end Reactor.Scenario
