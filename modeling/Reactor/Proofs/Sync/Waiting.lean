import Mathlib.Data.List.Nodup
import Reactor.Proofs.Sync.Condition
import Reactor.Sync.Signalling

/-!
# Threads that wait for a signal

A thread that is in a wait either sleeps or has been woken and is about to look at
the flag, and whoever holds the mutex is in no wait.  While the flag is set, there
is no sleeper unless another thread has been woken: the flag is set by a signal
that wakes a sleeper if there is one, nobody goes to sleep as long as it is set,
and the first thread that looks at it clears it.
-/

namespace Reactor

namespace Signalling

variable {state next last : Signalling} {move : SignalMove} {answer : SignalAnswer}
  {past later : List (SignalMove × SignalAnswer)} {thread : ThreadId}

theorem mem_of_waiter? {waiter : Waiter} (h : state.waiter? thread = some waiter) :
    waiter ∈ state.waiters ∧ waiter.thread = thread := by
  refine ⟨List.mem_of_find?_eq_some h, ?_⟩
  simpa using List.find?_some h

theorem lock?_eq_some_iff {mutex after : Mutex Unit} :
    mutex.lock? thread = some after ↔
      mutex.holder = none ∧ after = { mutex with holder := some thread } := by
  unfold Mutex.lock? Mutex.isLocked
  cases mutex.holder with
  | none => simp [eq_comm]
  | some holder => simp

/-! ## Steps -/

inductive Step (state : Signalling) : SignalMove -> SignalAnswer -> Signalling -> Prop
  | lock {thread : ThreadId} (free : state.mutex.holder = none)
      (outside : ∀ waiter ∈ state.waiters, waiter.thread ≠ thread) :
      Step state (.lock thread) .done
        { state with mutex := { state.mutex with holder := some thread } }
  | unlock {thread : ThreadId} (held : state.mutex.holder = some thread) :
      Step state (.unlock thread) .done { state with mutex := state.mutex.unlock }
  /-- The flag is set already. -/
  | signalAgain {thread sleeper : ThreadId} (held : state.mutex.holder = some thread)
      (pending : state.condition.signalled = true) :
      Step state (.signal thread sleeper) (.signalled false) state
  | signalNobody {thread sleeper : ThreadId} (held : state.mutex.holder = some thread)
      (clear : state.condition.signalled = false) (nobody : state.condition.sleepers = []) :
      Step state (.signal thread sleeper) (.signalled true)
        { state with condition := { state.condition with signalled := true } }
  | signal {thread sleeper : ThreadId} (held : state.mutex.holder = some thread)
      (clear : state.condition.signalled = false) (asleep : sleeper ∈ state.condition.sleepers) :
      Step state (.signal thread sleeper) (.signalled true)
        { state with
          condition :=
            { signalled := true
              sleepers := state.condition.sleepers.erase sleeper
              woken := state.condition.woken ++ [⟨sleeper, false⟩] } }
  | waitNot {thread : ThreadId} {wait : Wait} (held : state.mutex.holder = some thread)
      (pending : state.condition.signalled = true) :
      Step state (.wait thread wait) (.returned (wait.result true))
        { state with condition := { state.condition with signalled := false } }
  | wait {thread : ThreadId} {wait : Wait} (held : state.mutex.holder = some thread)
      (clear : state.condition.signalled = false) :
      Step state (.wait thread wait) .slept
        { state with
          mutex := state.mutex.unlock
          condition :=
            { state.condition with sleepers := state.condition.sleepers ++ [thread] }
          waiters := ⟨thread, wait, wait.deadline? state.now⟩ :: state.waiters }
  | timeOut {waiter : Waiter} {deadline : Instant} (waits : waiter ∈ state.waiters)
      (asleep : waiter.thread ∈ state.condition.sleepers)
      (limited : waiter.deadline = some deadline) (late : deadline <= state.now) :
      Step state (.timeOut waiter.thread) .done
        { state with
          condition :=
            { state.condition with
              sleepers := state.condition.sleepers.erase waiter.thread
              woken := state.condition.woken ++ [⟨waiter.thread, true⟩] } }
  | rouse {thread : ThreadId} (asleep : thread ∈ state.condition.sleepers) :
      Step state (.rouse thread) .done
        { state with
          condition :=
            { state.condition with
              sleepers := state.condition.sleepers.erase thread
              woken := state.condition.woken ++ [⟨thread, false⟩] } }
  | recheck {waiter : Waiter} {waking : Waking} {received : Bool} {condition : Condition}
      (free : state.mutex.holder = none) (waits : waiter ∈ state.waiters)
      (woken : waking ∈ state.condition.woken) (same : waking.thread = waiter.thread)
      (looks : state.condition.Looks waking (some received, condition)) :
      Step state (.recheck waiter.thread) (.returned (waiter.wait.result received))
        { state with
          mutex := { state.mutex with holder := some waiter.thread }
          condition
          waiters := state.leave waiter.thread }
  | sleepOn {waking : Waking} {condition : Condition} (free : state.mutex.holder = none)
      (woken : waking ∈ state.condition.woken)
      (looks : state.condition.Looks waking (none, condition)) :
      Step state (.recheck waking.thread) .slept { state with condition }
  | pass {now : Instant} (onward : state.now <= now) :
      Step state (.pass now) .done { state with now }

/-- Every possible move goes by one of the rules. -/
theorem step_of_move? (h : state.move? move = some (answer, next)) :
    Step state move answer next := by
  cases move with
  | lock thread =>
      simp only [move?] at h
      split at h
      · next outside =>
          obtain ⟨mutex, hlock, hnext⟩ := Option.map_eq_some_iff.1 h
          obtain ⟨free, rfl⟩ := lock?_eq_some_iff.1 hlock
          cases hnext
          refine .lock free fun waiter hmem same => ?_
          have hnone := List.find?_eq_none.1 (Option.isNone_iff_eq_none.1 outside) waiter hmem
          exact hnone (decide_eq_true same)
      · cases h
  | unlock thread =>
      simp only [move?] at h
      split at h
      · next held =>
          cases h
          exact .unlock held
      · cases h
  | signal thread sleeper =>
      simp only [move?] at h
      split at h
      · next able =>
          obtain ⟨held, choice⟩ := able
          cases h
          cases hflag : state.condition.signalled with
          | true =>
              rw [Condition.signalTo_of_signalled hflag]
              exact .signalAgain held hflag
          | false =>
              rcases choice with nobody | asleep
              · rw [Condition.signalTo_of_nobody hflag nobody]
                exact .signalNobody held hflag nobody
              · rw [Condition.signalTo_of_mem hflag asleep]
                exact .signal held hflag asleep
      · cases h
  | wait thread wait =>
      simp only [move?] at h
      split at h
      · next held =>
          cases hflag : state.condition.signalled with
          | true =>
              rw [Condition.enter_of_signalled hflag] at h
              cases h
              exact .waitNot held hflag
          | false =>
              rw [Condition.enter_of_clear hflag] at h
              cases h
              exact .wait held hflag
      · cases h
  | timeOut thread =>
      simp only [move?] at h
      split at h
      · next able =>
          obtain ⟨asleep, late⟩ := able
          cases h
          obtain ⟨waiter, hwaiter, hlate⟩ := (Option.any_eq_true ..).1 late
          obtain ⟨deadline, hdeadline, hle⟩ := (Option.any_eq_true ..).1 hlate
          obtain ⟨hmem, rfl⟩ := mem_of_waiter? hwaiter
          rw [Condition.rouse_of_mem asleep]
          exact .timeOut hmem asleep hdeadline (by simpa using hle)
      · cases h
  | rouse thread =>
      simp only [move?] at h
      split at h
      · next asleep =>
          cases h
          rw [Condition.rouse_of_mem asleep]
          exact .rouse asleep
      · cases h
  | recheck thread =>
      simp only [move?] at h
      split at h
      · next waiter mutex hwaiter hlock =>
          split at h
          · next hwoken =>
              obtain ⟨hmem, rfl⟩ := mem_of_waiter? hwaiter
              obtain ⟨free, rfl⟩ := lock?_eq_some_iff.1 hlock
              obtain ⟨waking, hwaking, same, looks⟩ := Condition.exists_looks_of_isWoken hwoken
              split at h
              · next received condition hrecheck =>
                  cases h
                  rw [hrecheck] at looks
                  exact .recheck free hmem hwaking same looks
              · next condition hrecheck =>
                  cases h
                  rw [hrecheck] at looks
                  rw [← same]
                  exact .sleepOn free hwaking looks
          · cases h
      · cases h
  | pass now =>
      simp only [move?] at h
      split at h
      · next onward =>
          cases h
          exact .pass onward
      · cases h

/-! ## What holds in every state -/

/-- A thread is in a wait, and its time is up. -/
def IsLate (state : Signalling) (thread : ThreadId) : Prop :=
  ∃ waiter ∈ state.waiters, waiter.thread = thread ∧
    ∃ deadline, waiter.deadline = some deadline ∧ deadline <= state.now

structure Sound (state : Signalling) : Prop where
  waiting : (state.waiters.map (·.thread)).Perm state.condition.threads
  distinct : (state.waiters.map (·.thread)).Nodup
  holder : ∀ waiter ∈ state.waiters, state.mutex.holder ≠ some waiter.thread
  late : ∀ waking ∈ state.condition.woken, waking.timedOut = true -> state.IsLate waking.thread
  /-- No signal is left to threads that sleep. -/
  attended : state.condition.signalled = true ->
    state.condition.sleepers = [] ∨ state.condition.woken ≠ []

theorem sound_new (now : Instant) : (new now).Sound where
  waiting := List.Perm.refl _
  distinct := List.nodup_nil
  holder _ hmem := absurd hmem List.not_mem_nil
  late _ hmem := absurd hmem List.not_mem_nil
  attended pending := nomatch pending

/-- Somebody who sleeps wakes up, and the flag may be set at the same time. -/
theorem Sound.wake (h : state.Sound) (asleep : thread ∈ state.condition.sleepers)
    (signalled timedOut : Bool) (late : timedOut = true -> state.IsLate thread) :
    Sound
      { state with
        condition :=
          { signalled
            sleepers := state.condition.sleepers.erase thread
            woken := state.condition.woken ++ [⟨thread, timedOut⟩] } } where
  waiting := h.waiting.trans (Condition.perm_threads_wake asleep signalled timedOut)
  distinct := h.distinct
  holder := h.holder
  late waking hmem htimed := by
    rcases List.mem_append.1 hmem with hold | hnew
    · exact h.late waking hold htimed
    · rw [List.mem_singleton.1 hnew] at htimed ⊢
      exact late htimed
  attended _ := .inr (by simp)

/-- The threads that are left in their waits after one of them has returned. -/
theorem map_leave :
    (state.leave thread).map (·.thread) = (state.waiters.map (·.thread)).erase thread := by
  rw [List.erase_eq_eraseP', List.eraseP_map]
  rfl

theorem Sound.step (h : state.Sound) (step : Step state move answer next) : next.Sound := by
  cases step with
  | @lock thread free outside =>
      refine { h with holder := fun waiter hmem same => ?_ }
      exact outside waiter hmem (Option.some.inj same).symm
  | unlock held => exact { h with holder := fun _ _ => nofun }
  | signalAgain held pending => exact h
  | signalNobody held clear nobody => exact { h with attended := fun _ => .inl nobody }
  | signal held clear asleep => exact h.wake asleep true false nofun
  | waitNot held pending => exact { h with attended := nofun }
  | @wait thread wait held clear =>
      have outside : thread ∉ state.waiters.map (·.thread) := by
        intro hmem
        obtain ⟨waiter, hwaiter, same⟩ := List.mem_map.1 hmem
        exact h.holder waiter hwaiter (held.trans (congrArg some same.symm))
      refine ⟨?_, ?_, ?_, ?_, ?_⟩
      · have last := h.waiting.cons thread
        have turned : (thread :: state.condition.threads).Perm
            (state.condition.sleepers ++ [thread] ++ state.condition.woken.map (·.thread)) := by
          rw [← List.append_cons]
          exact List.perm_middle.symm
        exact last.trans turned
      · exact List.nodup_cons.2 ⟨outside, h.distinct⟩
      · exact fun _ _ => nofun
      · intro waking hmem htimed
        obtain ⟨waiter, hwaiter, late⟩ := h.late waking hmem htimed
        exact ⟨waiter, .tail _ hwaiter, late⟩
      · intro pending
        rw [clear] at pending
        exact nomatch pending
  | timeOut waits asleep limited late =>
      exact h.wake asleep _ true fun _ => ⟨_, waits, rfl, _, limited, late⟩
  | rouse asleep => exact h.wake asleep _ false nofun
  | @recheck waiter waking received condition free waits woken same looks =>
      have split := h.waiting.trans (looks.perm_threads_of_some woken)
      rw [same] at split
      have left : ((state.leave waiter.thread).map (·.thread)).Perm condition.threads := by
        have erased := split.erase waiter.thread
        rwa [List.erase_cons_head, ← map_leave] at erased
      have gone : waiter.thread ∉ (state.leave waiter.thread).map (·.thread) := by
        rw [map_leave]
        exact h.distinct.not_mem_erase
      refine ⟨left, ?_, ?_, ?_, ?_⟩
      · rw [map_leave]
        exact h.distinct.erase _
      · intro other hmem same'
        have back := List.mem_map_of_mem (f := fun waiter => waiter.thread) hmem
        rw [← Option.some.inj same'] at back
        exact gone back
      · intro other hmem htimed
        obtain ⟨late, hlate, same', limit⟩ := h.late other (looks.woken_subset hmem) htimed
        -- The thread that has returned was woken once only.
        have apart : late.thread ≠ waiter.thread := by
          intro again
          have back : other.thread ∈ condition.threads :=
            List.mem_append_right _ (List.mem_map_of_mem hmem)
          rw [← same', again] at back
          exact gone (left.mem_iff.2 back)
        have stays : late ∈ state.leave waiter.thread :=
          (List.mem_eraseP_of_neg (by simpa using apart)).2 hlate
        exact ⟨late, stays, same', limit⟩
      · intro pending
        rw [looks.clear] at pending
        exact nomatch pending
  | sleepOn free woken looks =>
      refine ⟨h.waiting.trans (looks.perm_threads_of_none woken), h.distinct, h.holder, ?_, ?_⟩
      · exact fun other hmem htimed => h.late other (looks.woken_subset hmem) htimed
      · intro pending
        rw [looks.clear] at pending
        exact nomatch pending
  | pass onward =>
      refine { h with late := fun waking hmem htimed => ?_ }
      obtain ⟨waiter, hwaiter, same, deadline, limited, hle⟩ := h.late waking hmem htimed
      exact ⟨waiter, hwaiter, same, deadline, limited, Nat.le_trans hle onward⟩

theorem Reaches.sound (reaches : Reaches state past next) (h : state.Sound) : next.Sound := by
  induction reaches with
  | refl => exact h
  | snoc _ made ih => exact ih.step (step_of_move? made)

theorem Runs.sound (runs : Runs past state) : state.Sound := by
  obtain ⟨now, reaches⟩ := runs
  exact Reaches.sound reaches (sound_new now)

end Signalling

end Reactor
