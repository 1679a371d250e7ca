import Reactor.Datum
import Reactor.Thread.Basic
import Reactor.Thread.Log

/-!
# Sessions with a worker thread object

A session runs steps on one thread object.  Every thread it starts has an
entry, which says where it runs, may wait to be let go, and may fail.  Lines of
the main thread belong to the step in which they are written; lines of the
started threads are shown once no thread is left to be joined or let go.
-/

namespace Reactor.Thread

/-- What a started thread does. -/
structure Entry where
  /-- It waits until it is let go. -/
  held : Bool
  /-- It ends in this failure. -/
  failure : Option String

inductive Step where
  | new (name : String) (stackSize : Option Nat)
  | run (entry : Entry)
  | release
  | join
  | joinable
  | name
  | describe
  | drop
  /-- The object is given up while a failure unwinds the thread. -/
  | dropUnwinding

/-- An object's handle is the failure in which its thread ends, if any. -/
structure Session where
  thread : Option (WorkerThread (Option String))
  /-- How many entries wait to be let go. -/
  held : Nat
  trace : Bool
  mainLines : List String
  threadLines : List String

/-- What a step shows. -/
structure StepReport where
  result : Datum
  mainLines : List String
  /-- Absent while some thread is left to be joined or let go. -/
  threadLines : Option (List String)

namespace Session

def start (trace : Bool) : Session :=
  ⟨none, 0, trace, [], []⟩

def log (session : Session) (record : LogRecord) : Session :=
  if session.trace then
    { session with mainLines := session.mainLines ++ [record.line] }
  else
    session

def write (session : Session) (line : String) : Session :=
  { session with threadLines := session.threadLines ++ [line] }

/-- What an entry says when it is destroyed. -/
def entryEnd : String :=
  "entry dropped"

/-- Give the object up.  There is no answer if that ends the program. -/
def giveUp? (session : Session) (unwinding : Bool) : Option Session :=
  match session.thread with
  | none => some session
  | some thread =>
      match thread.drop unwinding with
      | .nothing => some { session with thread := none }
      | .detach =>
          some ({ session with thread := none }.log
            (ThreadLog.detaching thread.name))
      | .abort => none

def errorDatum (error : ThreadError) : Datum :=
  .record
    [("error", .text error.kindName), ("message", .text error.message),
      ("source", .bool error.source?.isSome)]

/-- Start a thread with an entry; a refused entry is destroyed uncalled. -/
def run (session : Session) (thread : WorkerThread (Option String))
    (entry : Entry) : Datum × Session :=
  match thread.run (thread.spawn entry.failure) with
  | (.error error, thread) =>
      (errorDatum error,
        { session with
          thread := some thread
          mainLines := session.mainLines ++ [entryEnd] })
  | (.ok (), thread) =>
      let session :=
        ({ session with thread := some thread }.log
          (ThreadLog.started thread.name)).write ("entry on " ++ thread.name)
      if entry.held then
        (.text "ok", { session with held := session.held + 1 })
      else
        (.text "ok", session.write entryEnd)

def join (session : Session) (thread : WorkerThread (Option String)) :
    Datum × Session :=
  if thread.isJoinable && session.held != 0 then
    (.text "refused", session)
  else
    match thread.join with
    | (none, _) => (.text "ok", session)
    | (some failure, thread) =>
        let session :=
          { session with thread := some thread }.log
            (ThreadLog.joined thread.name failure.isSome)
        match failure with
        | some message => (.record [("panic", .text message)], session)
        | none => (.text "ok", session)

/-- Ask the object something, if there is one. -/
def ask (session : Session)
    (f : WorkerThread (Option String) -> Datum × Session) : Datum × Session :=
  match session.thread with
  | some thread => f thread
  | none => (.null, session)

def step? (session : Session) : Step -> Option (Datum × Session)
  | .new name stackSize => do
      let session ← session.giveUp? false
      return (.null, { session with thread := some (.new name stackSize) })
  | .run entry => some (session.ask fun thread => session.run thread entry)
  | .release =>
      some (.bool (session.held != 0),
        { session with
          held := 0
          threadLines :=
            session.threadLines ++ List.replicate session.held entryEnd })
  | .join => some (session.ask fun thread => session.join thread)
  | .joinable =>
      some (session.ask fun thread => (.bool thread.isJoinable, session))
  | .name => some (session.ask fun thread => (.text thread.name, session))
  | .describe => some (session.ask fun thread => (.text thread.text, session))
  | .drop => do return (.null, ← session.giveUp? false)
  | .dropUnwinding => do return (.text "unwinding", ← session.giveUp? true)

def isQuiet (session : Session) : Bool :=
  session.held == 0 && !(session.thread.any WorkerThread.isJoinable)

/-- Show what a step has left, and make room for the lines of the next one. -/
def report (session : Session) (result : Datum) : StepReport × Session :=
  if session.isQuiet then
    (⟨result, session.mainLines, some session.threadLines⟩,
      { session with mainLines := [], threadLines := [] })
  else
    (⟨result, session.mainLines, none⟩, { session with mainLines := [] })

/--
Carry out steps until the first that ends the program.  The answer holds the
reports of the steps before it, and says whether there was one.
-/
def runSteps (session : Session) : List Step -> List StepReport × Bool
  | [] => ([], false)
  | step :: rest =>
      match session.step? step with
      | none => ([], true)
      | some (result, session) =>
          let (report, session) := session.report result
          let (reports, aborted) := session.runSteps rest
          (report :: reports, aborted)

end Session

end Reactor.Thread
