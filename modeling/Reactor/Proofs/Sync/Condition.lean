import Mathlib.Data.List.Perm.Basic
import Reactor.Sync.Condition

/-!
# What is done with a condition

A thread that is in a wait either sleeps or has been woken.  A wake moves it from
one list to the other, and so does going back to sleep.  Its wait is over, and it is
in neither list, when it has looked at the flag and has received the signal or given
up.
-/

namespace Reactor

namespace Condition

variable {condition : Condition} {thread : ThreadId}

theorem rouse_of_mem (h : thread ∈ condition.sleepers) (timedOut : Bool) :
    condition.rouse thread timedOut =
      { condition with
        sleepers := condition.sleepers.erase thread
        woken := condition.woken ++ [⟨thread, timedOut⟩] } :=
  if_pos h

theorem signalTo_of_signalled (h : condition.signalled = true) :
    condition.signalTo thread = condition :=
  if_pos h

theorem signalTo_of_nobody (clear : condition.signalled = false)
    (nobody : condition.sleepers = []) :
    condition.signalTo thread = { condition with signalled := true } := by
  simp [signalTo, rouse, clear, nobody]

theorem signalTo_of_mem (clear : condition.signalled = false)
    (asleep : thread ∈ condition.sleepers) :
    condition.signalTo thread =
      { signalled := true
        sleepers := condition.sleepers.erase thread
        woken := condition.woken ++ [⟨thread, false⟩] } := by
  simp [signalTo, rouse, clear, asleep]

theorem enter_of_signalled (h : condition.signalled = true) :
    condition.enter thread = (true, { condition with signalled := false }) := by
  simp [enter, consume, h]

theorem enter_of_clear (h : condition.signalled = false) :
    condition.enter thread =
      (false, { condition with sleepers := condition.sleepers ++ [thread] }) := by
  simp [enter, h]

theorem isWoken_iff :
    condition.isWoken thread = true ↔ ∃ waking ∈ condition.woken, waking.thread = thread := by
  simp [isWoken]

/-- The threads that are in a wait: those that sleep and those that have been woken. -/
def threads (condition : Condition) : List ThreadId :=
  condition.sleepers ++ condition.woken.map (·.thread)

/-- Who wakes up is in the wait all the same. -/
theorem perm_threads_wake (h : thread ∈ condition.sleepers) (signalled timedOut : Bool) :
    condition.threads.Perm
      (threads
        { signalled
          sleepers := condition.sleepers.erase thread
          woken := condition.woken ++ [⟨thread, timedOut⟩] }) := by
  have moved := (List.perm_cons_erase h).append_right (condition.woken.map (·.thread))
  have turned : (thread :: (condition.sleepers.erase thread ++ condition.woken.map (·.thread))).Perm
      (condition.sleepers.erase thread ++ condition.woken.map (·.thread) ++ [thread]) :=
    (List.perm_append_singleton _ _).symm
  have both := moved.trans turned
  simpa [threads] using both

theorem isWoken_of_subset {after : Condition} (kept : condition.woken ⊆ after.woken)
    (h : condition.isWoken thread = true) : after.isWoken thread = true := by
  obtain ⟨waking, hmem, same⟩ := isWoken_iff.1 h
  exact isWoken_iff.2 ⟨waking, kept hmem, same⟩

/-- What a woken thread finds when it looks at the flag. -/
inductive Looks (condition : Condition) (waking : Waking) : Option Bool × Condition -> Prop
  | receives (pending : condition.signalled = true) :
      Looks condition waking
        (some true, { condition with signalled := false, woken := condition.woken.erase waking })
  | givesUp (clear : condition.signalled = false) (late : waking.timedOut = true) :
      Looks condition waking (some false, { condition with woken := condition.woken.erase waking })
  | sleeps (clear : condition.signalled = false) (early : waking.timedOut = false) :
      Looks condition waking
        (none,
          { condition with
            sleepers := condition.sleepers ++ [waking.thread]
            woken := condition.woken.erase waking })

theorem exists_looks_of_isWoken (h : condition.isWoken thread = true) :
    ∃ waking ∈ condition.woken, waking.thread = thread ∧
      condition.Looks waking (condition.recheck thread) := by
  unfold recheck
  cases hfind : condition.woken.find? fun waking => waking.thread = thread with
  | none =>
      obtain ⟨waking, hmem, hthread⟩ := isWoken_iff.1 h
      have hnone := List.find?_eq_none.1 hfind waking hmem
      exact absurd (decide_eq_true hthread) hnone
  | some waking =>
      have hmem := List.mem_of_find?_eq_some hfind
      have hthread : waking.thread = thread := by simpa using List.find?_some hfind
      refine ⟨waking, hmem, hthread, ?_⟩
      cases hflag : condition.signalled with
      | true => exact .receives hflag
      | false =>
          cases hlate : waking.timedOut with
          | true => simpa [hflag, hlate] using Looks.givesUp hflag hlate
          | false => simpa [hflag, hlate, hthread] using Looks.sleeps hflag hlate

/-- Who has looked at the flag leaves it clear. -/
theorem Looks.clear {waking : Waking} {verdict : Option Bool} {after : Condition}
    (looks : condition.Looks waking (verdict, after)) : after.signalled = false := by
  cases looks with
  | receives => rfl
  | givesUp clear late => exact clear
  | sleeps clear early => exact clear

theorem Looks.woken_subset {waking : Waking} {verdict : Option Bool} {after : Condition}
    (looks : condition.Looks waking (verdict, after)) : after.woken ⊆ condition.woken := by
  cases looks with
  | receives => exact List.erase_subset
  | givesUp => exact List.erase_subset
  | sleeps => exact List.erase_subset

/-- That one thread has looked at the flag does not put any other back to sleep. -/
theorem Looks.isWoken_of_ne {waking : Waking} {verdict : Option Bool} {after : Condition}
    (looks : condition.Looks waking (verdict, after)) (apart : waking.thread ≠ thread)
    (h : condition.isWoken thread = true) : after.isWoken thread = true := by
  obtain ⟨other, hmem, same⟩ := isWoken_iff.1 h
  have kept : other ∈ condition.woken.erase waking := by
    refine (List.mem_erase_of_ne ?_).2 hmem
    rintro rfl
    exact apart same
  cases looks with
  | receives | givesUp | sleeps => exact isWoken_iff.2 ⟨other, kept, same⟩

theorem perm_threads_erase {waking : Waking} (h : waking ∈ condition.woken) :
    condition.threads.Perm
      (waking.thread :: (condition.sleepers ++ (condition.woken.erase waking).map (·.thread))) := by
  have first := ((List.perm_cons_erase h).map (·.thread)).append_left condition.sleepers
  exact first.trans List.perm_middle

/-- Whose wait is over is in it no longer, and nobody else has left. -/
theorem Looks.perm_threads_of_some {waking : Waking} {received : Bool} {after : Condition}
    (looks : condition.Looks waking (some received, after)) (h : waking ∈ condition.woken) :
    condition.threads.Perm (waking.thread :: after.threads) := by
  cases looks with
  | receives => exact perm_threads_erase h
  | givesUp => exact perm_threads_erase h

theorem Looks.perm_threads_of_none {waking : Waking} {after : Condition}
    (looks : condition.Looks waking (none, after)) (h : waking ∈ condition.woken) :
    condition.threads.Perm after.threads := by
  cases looks with
  | sleeps =>
      have split := perm_threads_erase h
      have turned : (waking.thread ::
          (condition.sleepers ++ (condition.woken.erase waking).map (·.thread))).Perm
            (condition.sleepers ++ waking.thread :: (condition.woken.erase waking).map (·.thread)) :=
        List.perm_middle.symm
      have both := split.trans turned
      simpa [threads] using both

end Condition

end Reactor
