import Reactor.Thread.Id

/-!
# Mutexes

A mutex protects a value.  It is held by at most one thread, and a thread that
holds it cannot take it a second time.  A re-entrant mutex can be taken again
by its holder, and is free when it has been given back as often.
-/

namespace Reactor

structure Mutex (α : Type) where
  holder : Option ThreadId
  value : α

namespace Mutex

variable {α : Type}

def new (value : α) : Mutex α :=
  ⟨none, value⟩

def isLocked (mutex : Mutex α) : Bool :=
  mutex.holder.isSome

def lock? (mutex : Mutex α) (thread : ThreadId) : Option (Mutex α) :=
  if mutex.isLocked then none else some { mutex with holder := some thread }

def unlock (mutex : Mutex α) : Mutex α :=
  { mutex with holder := none }

def modify (mutex : Mutex α) (f : α -> α) : Mutex α :=
  { mutex with value := f mutex.value }

def text (mutex : Mutex α) : String :=
  "Mutex \x7b locked: " ++ toString mutex.isLocked ++ ", .. \x7d"

end Mutex

/-- A lock around a value that its holder can take again. -/
structure ReentrantMutex (α : Type) where
  holder : Option ThreadId
  /-- How often the holder has taken the lock without giving it back. -/
  depth : Nat
  value : α

namespace ReentrantMutex

variable {α : Type}

def new (value : α) : ReentrantMutex α :=
  ⟨none, 0, value⟩

def isLocked (mutex : ReentrantMutex α) : Bool :=
  mutex.holder.isSome

/-- Take the lock, unless another thread holds it. -/
def lock? (mutex : ReentrantMutex α) (thread : ThreadId) :
    Option (ReentrantMutex α) :=
  match mutex.holder with
  | none => some { mutex with holder := some thread, depth := 1 }
  | some holder =>
      if holder = thread then
        some { mutex with depth := mutex.depth + 1 }
      else
        none

def unlock (mutex : ReentrantMutex α) : ReentrantMutex α :=
  if mutex.depth <= 1 then
    { mutex with holder := none, depth := 0 }
  else
    { mutex with depth := mutex.depth - 1 }

def modify (mutex : ReentrantMutex α) (f : α -> α) : ReentrantMutex α :=
  { mutex with value := f mutex.value }

def text (mutex : ReentrantMutex α) : String :=
  "ReentrantMutex \x7b locked: " ++ toString mutex.isLocked ++ ", .. \x7d"

end ReentrantMutex

end Reactor
