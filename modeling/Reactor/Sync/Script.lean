import Reactor.Clock
import Reactor.Datum
import Reactor.Labelled
import Reactor.Sync.Condition
import Reactor.Sync.Mutex

/-!
# Scripts of locking threads

Actors are threads that carry out lists of commands on shared mutexes and
conditions.  One actor runs until it is done or has to wait; then the others
get their turn.  Time passes only when nobody can run: then the clock jumps to
the next deadline of a sleeper.
-/

namespace Reactor.Sync

/-- What an actor can be told to do.  Locks are named by the guard they gave. -/
inductive Command where
  | lock (mutex guard : String)
  | tryLock (mutex guard : String)
  | unlock (guard : String)
  | get (guard : String)
  | set (guard : String) (value : Int64)
  | add (guard : String) (value : Int64)
  | describe (guard : String)
  /-- Carry out commands with the mutex released, and take it again. -/
  | unlocked (guard : String) (body : List Command) (failure : Option String)
  /-- Take a mutex, add to its value and fail with the mutex held. -/
  | failHolding (mutex : String) (value : Int64) (failure : String)
  | signal (guard condition : String)
  | signalled (guard condition : String)
  | wait (guard condition : String)
  | waitFor (guard condition : String) (timeout : Duration)
  | waitUntil (guard condition : String) (distance : Duration)

/-- One step of an actor's program. -/
inductive Instruction where
  | perform (command : Command)
  /-- Take the mutex of a guard again and close the list of results. -/
  | resume (guard : String) (failure : Option String)
  /--
  Look at a condition again once the mutex is free; `timed` says whether the
  wait has a result.
  -/
  | awake (guard condition : String) (timed : Bool) (deadline : Option Instant)

mutual

/-- A bound for the instructions that a command comes to. -/
def Command.weight : Command -> Nat
  | .unlocked _ body _ => weightAll body + 2
  | _ => 2

def weightAll : List Command -> Nat
  | [] => 0
  | command :: rest => command.weight + weightAll rest

end

def Instruction.weight : Instruction -> Nat
  | .perform command => command.weight
  | .resume .. | .awake .. => 1

inductive SharedObject where
  | mutex (mutex : Mutex Int64)
  | reentrant (mutex : ReentrantMutex Int64)
  | condition (condition : Condition)

namespace SharedObject

def lock? : SharedObject -> ThreadId -> Option SharedObject
  | mutex m, thread => (m.lock? thread).map mutex
  | reentrant m, thread => (m.lock? thread).map reentrant
  | condition _, _ => none

def unlock : SharedObject -> SharedObject
  | mutex m => mutex m.unlock
  | reentrant m => reentrant m.unlock
  | condition c => condition c

def value? : SharedObject -> Option Int64
  | mutex m => some m.value
  | reentrant m => some m.value
  | condition _ => none

def modify (f : Int64 -> Int64) : SharedObject -> SharedObject
  | mutex m => mutex (m.modify f)
  | reentrant m => reentrant (m.modify f)
  | condition c => condition c

def text? : SharedObject -> Option String
  | mutex m => some m.text
  | reentrant m => some m.text
  | condition _ => none

def guardText? : SharedObject -> Option String
  | mutex _ => some "ScopedLock \x7b .. \x7d"
  | reentrant _ => some "ReentrantLock \x7b .. \x7d"
  | condition _ => none

end SharedObject

structure Actor where
  thread : ThreadId
  guards : Labelled String
  program : List Instruction
  /-- Results so far: of the innermost open list first. -/
  results : List (List Datum)

namespace Actor

/-- Add a result to the innermost open list. -/
def answer (actor : Actor) (result : Datum) : Actor :=
  match actor.results with
  | [] => { actor with results := [[result]] }
  | current :: outer => { actor with results := (current ++ [result]) :: outer }

/-- Close the innermost open list and give it, or a failure, as a result. -/
def close (actor : Actor) (failure : Option String) : Actor :=
  match actor.results with
  | [] => actor
  | current :: outer =>
      answer { actor with results := outer } <|
        match failure with
        | some message => .record [("panic", .text message)]
        | none => .list current

def isDone (actor : Actor) : Bool :=
  actor.program.isEmpty

end Actor

/-- Shared objects, actors and the time. -/
structure Bench where
  objects : Labelled SharedObject
  actors : Labelled Actor
  now : Instant

namespace Bench

def new : Bench :=
  ⟨.empty, .empty, .first⟩

def declare (bench : Bench) (label : String) (object : SharedObject) : Bench :=
  { bench with objects := bench.objects.insert label object }

def put (bench : Bench) (label : String) (object : SharedObject) :
    Bench :=
  { bench with objects := bench.objects.insert label object }

def condition? (bench : Bench) (label : String) : Option Condition :=
  match bench.objects.find? label with
  | some (.condition condition) => some condition
  | _ => none

/-- Release the lock `mutex` and let `actor` wait for `condition`. -/
def beginWait (bench : Bench) (actor : Actor)
    (guard label : String) (timed : Bool) (deadline : Option Instant) :
    Option (Actor × Bench) := do
  let name ← actor.guards.find? guard
  let lock ← bench.objects.find? name
  let condition ← bench.condition? label
  let (ended, condition) := condition.enter actor.thread
  let bench := bench.put label (.condition condition)
  if ended then
    return (actor.answer (if timed then .bool true else .null), bench)
  else
    return ({ actor with
          program := .awake guard label timed deadline :: actor.program },
        bench.put name lock.unlock)

/--
Carry out a command, if that is possible now.  The actor's program is what
comes after the command.
-/
def perform (bench : Bench) (actor : Actor) :
    Command -> Option (Actor × Bench)
  | .lock mutex guard => do
      let lock ← (← bench.objects.find? mutex).lock? actor.thread
      return ({ actor with guards := actor.guards.insert guard mutex }.answer .null,
          bench.put mutex lock)
  | .tryLock mutex guard => do
      match (← bench.objects.find? mutex).lock? actor.thread with
      | some lock =>
          return ({ actor with guards := actor.guards.insert guard mutex }.answer
                (.bool true),
              bench.put mutex lock)
      | none => return (actor.answer (.bool false), bench)
  | .unlock guard => do
      let name ← actor.guards.find? guard
      let lock ← bench.objects.find? name
      return ({ actor with guards := actor.guards.erase guard }.answer .null,
          bench.put name lock.unlock)
  | .get guard => do
      let lock ← bench.objects.find? (← actor.guards.find? guard)
      return (actor.answer (.int (← lock.value?).toInt), bench)
  | .set guard value => do
      let name ← actor.guards.find? guard
      let lock ← bench.objects.find? name
      return (actor.answer .null, bench.put name (lock.modify fun _ => value))
  | .add guard value => do
      let name ← actor.guards.find? guard
      let lock ← bench.objects.find? name
      return (actor.answer .null, bench.put name (lock.modify (· + value)))
  | .describe guard => do
      let lock ← bench.objects.find? (← actor.guards.find? guard)
      return (actor.answer (.text (← lock.guardText?)), bench)
  | .unlocked guard body failure => do
      let name ← actor.guards.find? guard
      let lock ← bench.objects.find? name
      return ({ actor with
            program :=
              body.map .perform ++ .resume guard failure :: actor.program
            results := [] :: actor.results },
          bench.put name lock.unlock)
  | .failHolding mutex value failure => do
      let lock ← (← bench.objects.find? mutex).lock? actor.thread
      return (actor.answer (.text failure),
          bench.put mutex (lock.modify (· + value)).unlock)
  | .signal _ label => do
      let condition ← bench.condition? label
      return (actor.answer .null, bench.put label (.condition condition.signal))
  | .signalled _ label => do
      let condition ← bench.condition? label
      return (actor.answer (.bool condition.signalled), bench)
  | .wait guard label => bench.beginWait actor guard label false none
  | .waitFor guard label timeout =>
      bench.beginWait actor guard label true (bench.now.add? timeout)
  | .waitUntil guard label distance =>
      bench.beginWait actor guard label true (bench.now.add? distance)

/-- Carry out an instruction, if that is possible now. -/
def execute (bench : Bench) (actor : Actor) :
    Instruction -> Option (Actor × Bench)
  | .perform command => bench.perform actor command
  | .resume guard failure => do
      let name ← actor.guards.find? guard
      let lock ← (← bench.objects.find? name).lock? actor.thread
      return (actor.close failure, bench.put name lock)
  | .awake guard label timed deadline => do
      let condition ← bench.condition? label
      if !condition.isWoken actor.thread then failure
      let name ← actor.guards.find? guard
      let lock ← (← bench.objects.find? name).lock? actor.thread
      match condition.recheck actor.thread with
      | (some result, condition) =>
          return (actor.answer (if timed then .bool result else .null),
              (bench.put label (.condition condition)).put name lock)
      | (none, condition) =>
          return ({ actor with
                program := .awake guard label timed deadline :: actor.program },
              bench.put label (.condition condition))

/-- One step of an actor, if it has one to make and can make it now. -/
def step? (bench : Bench) (label : String) : Option Bench := do
  let actor ← bench.actors.find? label
  match actor.program with
  | [] => none
  | instruction :: program =>
      let (actor, bench) ←
        bench.execute { actor with program := program } instruction
      return { bench with actors := bench.actors.insert label actor }

/-- Let actors run, the first that can of `order`, until none can. -/
def settle (order : List String) : (fuel : Nat) -> Bench -> Bench
  | 0, bench => bench
  | fuel + 1, bench =>
      match order.findSome? bench.step? with
      | some next => settle order fuel next
      | none => bench

/-- Deadlines of actors that sleep, with the condition each sleeps on. -/
def deadlines (bench : Bench) : List (ThreadId × String × Instant) :=
  bench.actors.values.filterMap fun actor =>
    match actor.program with
    | .awake _ label _ (some deadline) :: _ =>
        match bench.condition? label with
        | some condition =>
            if actor.thread ∈ condition.sleepers then
              some (actor.thread, label, deadline)
            else
              none
        | none => none
    | _ => none

/-- Let time pass up to the next deadline, and wake those whose time is up. -/
def passTime? (bench : Bench) : Option Bench :=
  match bench.deadlines with
  | [] => none
  | first :: rest =>
      let next := rest.foldl
        (fun next entry => if entry.2.2 < next then entry.2.2 else next)
        first.2.2
      let now := if bench.now < next then next else bench.now
      let late := (first :: rest).filter fun entry => entry.2.2 <= now
      some <| late.foldl
        (fun bench entry =>
          match bench.condition? entry.2.1 with
          | some condition =>
              bench.put entry.2.1 (.condition (condition.rouse entry.1 true))
          | none => bench)
        { bench with now := now }

/-- A bound for the steps that are left. -/
def fuel (bench : Bench) : Nat :=
  let ahead := bench.actors.values.flatMap (·.program)
  4 * ahead.foldl (fun sum instruction => sum + instruction.weight) 1

/-- Give an actor, new or known, a list of commands. -/
def assign (bench : Bench) (label : String) (commands : List Command) : Bench :=
  let actor :=
    match bench.actors.find? label with
    | some actor =>
        { actor with
          program := actor.program ++ commands.map .perform
          results := [[]] }
    | none =>
        { thread := ⟨bench.actors.entries.length⟩
          guards := .empty
          program := commands.map .perform
          results := [[]] }
  { bench with actors := bench.actors.insert label actor }

/-- Let an actor run first and then the others, until none can. -/
def run (bench : Bench) (label : String) : Bench :=
  settle (label :: bench.actors.labels.erase label) bench.fuel bench

/--
Wait until an actor is done, and give its results.  There are none if it can
never go on.
-/
def await? (label : String) : (fuel : Nat) -> Bench -> Option (List Datum × Bench)
  | 0, _ => none
  | fuel + 1, bench => do
      let bench := bench.run label
      let actor ← bench.actors.find? label
      if actor.isDone then
        return (actor.results.headD [], bench)
      else
        await? label fuel (← bench.passTime?)

/-- Take a lock apart and give its value. -/
def dissolve? (bench : Bench) (label : String) : Option (Int64 × Bench) := do
  let value ← (← bench.objects.find? label).value?
  return (value, { bench with objects := bench.objects.erase label })

/-- Add to the value of a lock that nobody else can reach. -/
def addTo? (bench : Bench) (label : String) (value : Int64) :
    Option (Int64 × Bench) := do
  let lock := (← bench.objects.find? label).modify (· + value)
  return (← lock.value?, bench.put label lock)

def text? (bench : Bench) (label : String) : Option String := do
  (← bench.objects.find? label).text?

end Bench

end Reactor.Sync
