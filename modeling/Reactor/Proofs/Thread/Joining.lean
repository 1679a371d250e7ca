import Reactor.Thread.Lifecycle

/-!
# Starting and joining threads

A worker thread object holds the handle of a thread exactly as long as its owner has
not joined it, so at most one of the entries that have been started is unjoined at any
time.  While there is one, no other is started.  What the first join after a start
returns is how the entry has ended, and the joins after it find nothing.  The history
of the object's life shows each entry called once or, if it was refused, never.
-/

namespace Reactor

namespace WorkerThread

variable {η : Type} {thread : WorkerThread η} {handle : η}

theorem isJoinable_iff : thread.isJoinable = true ↔ ∃ handle, thread.handle = some handle :=
  Option.isSome_iff_exists

theorem run_of_unjoined (h : thread.handle = some handle) (spawned : Except String η) :
    thread.run spawned = (.error (.alreadyRunning thread.name), thread) :=
  if_pos (isJoinable_iff.2 ⟨handle, h⟩)

theorem run_error_of_free (h : thread.handle = none) (cause : String) :
    thread.run (.error cause) = (.error (.spawn thread.name cause), thread) := by
  simp [run, isJoinable, h]

theorem run_ok_of_free (h : thread.handle = none) (handle : η) :
    thread.run (.ok handle) = (.ok (), { thread with handle := some handle }) := by
  simp [run, isJoinable, h]

theorem drop_eq_abort_iff (unwinding : Bool) :
    thread.drop unwinding = .abort ↔ thread.isJoinable = true ∧ unwinding = false := by
  unfold drop
  cases thread.isJoinable <;> cases unwinding <;> simp

end WorkerThread

namespace EntryState

variable {ρ : Type}

/-- Whether the entry came with a request that was granted. -/
def isStarted : EntryState ρ -> Bool
  | dropped => false
  | granted | called | ended _ => true

def timesCalled : EntryState ρ -> Nat
  | dropped | granted => 0
  | called | ended _ => 1

end EntryState

namespace Lifecycle

variable {ρ : Type} {state next last : Lifecycle ρ} {move : LifecycleMove ρ}
  {answer : LifecycleAnswer ρ} {past later : List (LifecycleMove ρ × LifecycleAnswer ρ)}
  {thread : WorkerThread Nat} {entry other : Nat}

/-! ## Steps -/

inductive Step : Lifecycle ρ -> LifecycleMove ρ -> LifecycleAnswer ρ -> Lifecycle ρ -> Prop
  | busy {state : Lifecycle ρ} {thread : WorkerThread Nat} {entry : Nat}
      {system : Except String Unit} (held : state.thread = some thread)
      (unjoined : thread.handle = some entry) :
      Step state (.run system) (.ran (.error (.alreadyRunning thread.name)))
        { state with entries := state.entries ++ [.dropped] }
  | refused {state : Lifecycle ρ} {thread : WorkerThread Nat} {cause : String}
      (held : state.thread = some thread) (free : thread.handle = none) :
      Step state (.run (.error cause)) (.ran (.error (.spawn thread.name cause)))
        { state with entries := state.entries ++ [.dropped] }
  | granted {state : Lifecycle ρ} {thread : WorkerThread Nat}
      (held : state.thread = some thread) (free : thread.handle = none) :
      Step state (.run (.ok ())) (.ran (.ok ()))
        { state with
          thread := some { thread with handle := some state.entries.length }
          entries := state.entries ++ [.granted] }
  | joinNone {state : Lifecycle ρ} {thread : WorkerThread Nat}
      (held : state.thread = some thread) (free : thread.handle = none) :
      Step state .join (.joined (.ok ())) state
  | join {state : Lifecycle ρ} {thread : WorkerThread Nat} {entry : Nat}
      {outcome : Except ρ Unit} (held : state.thread = some thread)
      (unjoined : thread.handle = some entry)
      (ended : state.entries[entry]? = some (.ended outcome)) :
      Step state .join (.joined outcome) { state with thread := some { thread with handle := none } }
  | drop {state : Lifecycle ρ} {thread : WorkerThread Nat} {unwinding : Bool}
      (held : state.thread = some thread) :
      Step state (.drop unwinding) (.dropped (thread.drop unwinding))
        { state with thread := none, aborted := thread.drop unwinding = .abort }
  | call {state : Lifecycle ρ} {entry : Nat} (alive : state.aborted = false)
      (granted : state.entries[entry]? = some .granted) :
      Step state (.call entry) .done { state with entries := state.entries.set entry .called }
  | finish {state : Lifecycle ρ} {entry : Nat} {outcome : Except ρ Unit}
      (alive : state.aborted = false) (called : state.entries[entry]? = some .called) :
      Step state (.finish entry outcome) .done
        { state with entries := state.entries.set entry (.ended outcome) }

theorem step_of_move? (made : state.move? move = some (answer, next)) :
    Step state move answer next := by
  cases move with
  | run system =>
      obtain ⟨thread, held, hrun⟩ := Option.map_eq_some_iff.1 made
      unfold run at hrun
      cases hhandle : thread.handle with
      | some entry =>
          rw [WorkerThread.run_of_unjoined hhandle] at hrun
          cases hrun
          exact held ▸ .busy held hhandle
      | none =>
          cases system with
          | error cause =>
              rw [Except.map, WorkerThread.run_error_of_free hhandle] at hrun
              cases hrun
              exact held ▸ .refused held hhandle
          | ok =>
              rw [Except.map, WorkerThread.run_ok_of_free hhandle] at hrun
              cases hrun
              exact .granted held hhandle
  | join =>
      obtain ⟨⟨name, stackSize, handle⟩, held, hjoin⟩ := Option.bind_eq_some_iff.1 made
      cases handle with
      | none =>
          cases hjoin
          exact held ▸ .joinNone held rfl
      | some entry =>
          simp only [join?, WorkerThread.join] at hjoin
          split at hjoin
          · next outcome ended =>
              cases hjoin
              exact .join held rfl ended
          · cases hjoin
  | drop unwinding =>
      obtain ⟨thread, held, hdrop⟩ := Option.map_eq_some_iff.1 made
      cases hdrop
      exact .drop held
  | call entry =>
      simp only [move?] at made
      split at made
      · next alive granted =>
          cases made
          exact .call alive granted
      · cases made
  | finish entry outcome =>
      simp only [move?] at made
      split at made
      · next alive called =>
          cases made
          exact .finish alive called
      · cases made

/-! ## History -/

/-- The answers to the requests for threads.  The entries are numbered like these. -/
def requests (past : List (LifecycleMove ρ × LifecycleAnswer ρ)) : List (Except ThreadError Unit) :=
  past.filterMap fun
    | (_, .ran result) => some result
    | _ => none

/-- Whether a step is the call of an entry. -/
def calls (entry : Nat) : LifecycleMove ρ × LifecycleAnswer ρ -> Bool
  | (.call other, _) => other = entry
  | _ => false

/-- An entry was started, and there has been no join since. -/
def Unjoined (past : List (LifecycleMove ρ × LifecycleAnswer ρ)) (entry : Nat) : Prop :=
  ∃ front system back, past = front ++ (.run system, .ran (.ok ())) :: back ∧
    (requests front).length = entry ∧ ∀ outcome, (.join, .joined outcome) ∉ back

theorem requests_append (front back : List (LifecycleMove ρ × LifecycleAnswer ρ)) :
    requests (front ++ back) = requests front ++ requests back :=
  List.filterMap_append

/-- After one more step, what has just been started is unjoined, and what was unjoined still is
unless the step is a join. -/
theorem unjoined_snoc {step : LifecycleMove ρ × LifecycleAnswer ρ} :
    Unjoined (past ++ [step]) entry ↔
      (∃ system, step = (.run system, .ran (.ok ())) ∧ (requests past).length = entry) ∨
        Unjoined past entry ∧ ∀ outcome, step ≠ (.join, .joined outcome) := by
  constructor
  · rintro ⟨front, system, back, hpast, hentry, unjoined⟩
    rcases List.eq_nil_or_concat back with rfl | ⟨back, final, rfl⟩
    · obtain ⟨rfl, hstep⟩ := List.append_inj' hpast rfl
      exact .inl ⟨system, List.head_eq_of_cons_eq hstep, hentry⟩
    · rw [List.concat_eq_append] at hpast unjoined
      rw [← List.cons_append, ← List.append_assoc] at hpast
      obtain ⟨rfl, hstep⟩ := List.append_inj' hpast rfl
      cases hstep
      refine .inr ⟨⟨front, system, back, rfl, hentry, fun outcome hmem => ?_⟩, ?_⟩
      · exact unjoined outcome (List.mem_append_left _ hmem)
      · rintro outcome rfl
        exact unjoined outcome (List.mem_append_right _ (.head _))
  · rintro (⟨system, rfl, hentry⟩ | ⟨⟨front, system, back, rfl, hentry, unjoined⟩, other⟩)
    · exact ⟨past, system, [], rfl, hentry, fun _ => List.not_mem_nil⟩
    · refine ⟨front, system, back ++ [step], by simp, hentry, fun outcome hmem => ?_⟩
      rcases List.mem_append.1 hmem with hmem | hmem
      · exact unjoined outcome hmem
      · exact other outcome (List.mem_singleton.1 hmem).symm

theorem Unjoined.request (h : Unjoined past entry) : (requests past)[entry]? = some (.ok ()) := by
  obtain ⟨front, system, back, rfl, rfl, -⟩ := h
  rw [requests_append, List.getElem?_append_right (Nat.le_refl _), Nat.sub_self]
  rfl

/-- Once an entry has been joined, it is not unjoined again. -/
theorem not_unjoined_of_join {outcome : Except ρ Unit} (h : (requests past)[entry]? = some (.ok ())) :
    ¬ Unjoined (past ++ (.join, .joined outcome) :: later) entry := by
  rintro ⟨front, system, back, hpast, rfl, unjoined⟩
  have started := (List.getElem?_eq_some_iff.1 h).1
  rcases List.append_eq_append_iff.1 hpast with ⟨middle, rfl, hlater⟩ | ⟨middle, rfl, hlater⟩
  · -- The entry would have been started after the join.
    rw [requests_append, List.length_append] at started
    omega
  · cases middle with
    | nil => cases hlater
    | cons step middle =>
        obtain ⟨rfl, rfl⟩ := List.cons.inj hlater
        exact unjoined outcome (List.mem_append_right _ (.head _))

/-! ## What a step does -/

/-- What a step does to one of the entries. -/
inductive Fares (entry : Nat) : LifecycleMove ρ × LifecycleAnswer ρ ->
    Option (EntryState ρ) -> Option (EntryState ρ) -> Prop
  | stays {step : LifecycleMove ρ × LifecycleAnswer ρ} {fate : Option (EntryState ρ)}
      (uncalled : calls entry step = false)
      (unfinished : ∀ outcome, step ≠ (.finish entry outcome, .done)) : Fares entry step fate fate
  | refused {system : Except String Unit} {error : ThreadError} :
      Fares entry (.run system, .ran (.error error)) none (some .dropped)
  | granted {system : Except String Unit} :
      Fares entry (.run system, .ran (.ok ())) none (some .granted)
  | called : Fares entry (.call entry, .done) (some .granted) (some .called)
  | finished {outcome : Except ρ Unit} :
      Fares entry (.finish entry outcome, .done) (some .called) (some (.ended outcome))

theorem fares_append {system : Except String Unit} {result : Except ThreadError Unit}
    {fate : EntryState ρ} {entries : List (EntryState ρ)}
    (comes : ∀ entry, Fares entry (.run system, .ran result) none (some fate)) (entry : Nat) :
    Fares entry (.run system, .ran result) entries[entry]? (entries ++ [fate])[entry]? := by
  have stays : ∀ fate : Option (EntryState ρ), Fares entry (.run system, .ran result) fate fate :=
    fun fate => .stays rfl fun _ => nofun
  rcases Nat.lt_trichotomy entry entries.length with hlt | rfl | hgt
  · rw [List.getElem?_append_left hlt]
    exact stays _
  · rw [List.getElem?_concat_length, List.getElem?_eq_none (Nat.le_refl _)]
    exact comes _
  · have hle := Nat.le_of_lt hgt
    rw [List.getElem?_append_right hle, List.getElem?_eq_none hle,
      List.getElem?_eq_none (Nat.le_sub_of_add_le' hgt)]
    exact stays _

theorem Step.fares (step : Step state move answer next) (entry : Nat) :
    Fares entry (move, answer) state.entries[entry]? next.entries[entry]? := by
  cases step with
  | busy | refused => exact fares_append (fun _ => .refused) entry
  | granted => exact fares_append (fun _ => .granted) entry
  | joinNone | join | drop => exact .stays rfl fun _ => nofun
  | @call other alive granted =>
      by_cases same : other = entry
      · subst same
        have hlt := (List.getElem?_eq_some_iff.1 granted).1
        rw [granted, List.getElem?_set_self hlt]
        exact .called
      · rw [List.getElem?_set_ne same]
        exact .stays (decide_eq_false same) fun _ => nofun
  | @finish other outcome alive called =>
      by_cases same : other = entry
      · subst same
        have hlt := (List.getElem?_eq_some_iff.1 called).1
        rw [called, List.getElem?_set_self hlt]
        exact .finished
      · rw [List.getElem?_set_ne same]
        refine .stays rfl fun _ again => ?_
        cases again
        exact same rfl

/-- Only requests make entries, and no step makes a started entry of one that was refused. -/
theorem Step.isStarted (step : Step state move answer next) :
    next.entries.map EntryState.isStarted =
      state.entries.map EntryState.isStarted ++ (requests [(move, answer)]).map Except.isOk := by
  have set_started : ∀ {entry : Nat} {fate : EntryState ρ} (fate' : EntryState ρ),
      state.entries[entry]? = some fate -> fate.isStarted = fate'.isStarted ->
      (state.entries.set entry fate').map EntryState.isStarted =
        state.entries.map EntryState.isStarted := by
    intro entry fate fate' hfate same
    apply List.ext_getElem?
    intro n
    rw [List.getElem?_map, List.getElem?_map, List.getElem?_set]
    split
    · next here =>
        subst here
        rw [if_pos (List.getElem?_eq_some_iff.1 hfate).1, hfate, Option.map_some, Option.map_some,
          same]
    · rfl
  cases step with
  | busy | refused | granted => exact List.map_append
  | joinNone | join | drop => exact (List.append_nil _).symm
  | call alive granted => exact (set_started .called granted rfl).trans (List.append_nil _).symm
  | finish alive called => exact (set_started (.ended _) called rfl).trans (List.append_nil _).symm

/-! ## What the history says of the state -/

/-- The handle and the states of the entries, told from the history. -/
structure Told (past : List (LifecycleMove ρ × LifecycleAnswer ρ)) (state : Lifecycle ρ) : Prop where
  handle : ∀ thread, state.thread = some thread ->
    ∀ entry, thread.handle = some entry ↔ Unjoined past entry
  single : ∀ entry other, Unjoined past entry -> Unjoined past other -> entry = other
  started : (requests past).map Except.isOk = state.entries.map EntryState.isStarted
  called : ∀ entry,
    past.countP (calls entry) = ((state.entries[entry]?).map EntryState.timesCalled).getD 0
  finished : ∀ entry outcome,
    (.finish entry outcome, .done) ∈ past ↔ state.entries[entry]? = some (.ended outcome)

theorem told_new (name : String) (stackSize : Option Nat) : Told [] (new (ρ := ρ) name stackSize) where
  handle thread held entry := by
    cases held
    constructor
    · intro h
      cases h
    · rintro ⟨front, system, back, hpast, -⟩
      cases front <;> cases hpast
  single := by
    rintro entry other ⟨front, system, back, hpast, -⟩
    cases front <;> cases hpast
  started := rfl
  called _ := rfl
  finished entry outcome := ⟨(nomatch ·), (nomatch ·)⟩

/-- There are as many entries as requests. -/
theorem Told.length_requests (h : Told past state) : (requests past).length = state.entries.length := by
  have hlength := congrArg List.length h.started
  rwa [List.length_map, List.length_map] at hlength

theorem Told.not_unjoined (h : Told past state) (held : state.thread = some thread)
    (free : thread.handle = none) (entry : Nat) : ¬ Unjoined past entry := by
  intro unjoined
  rw [(h.handle thread held entry).2 unjoined] at free
  cases free

theorem Told.step (h : Told past state) (step : Step state move answer next) :
    Told (past ++ [(move, answer)]) next where
  handle thread held entry := by
    rw [unjoined_snoc]
    cases step with
    | busy | refused | call | finish =>
        have same := h.handle thread held entry
        constructor
        · exact fun hhandle => .inr ⟨same.1 hhandle, fun _ => nofun⟩
        · rintro (⟨system, hstep, -⟩ | ⟨unjoined, -⟩)
          · cases hstep
          · exact same.2 unjoined
    | granted held' free =>
        cases held
        constructor
        · rintro ⟨⟩
          exact .inl ⟨_, rfl, h.length_requests⟩
        · rintro (⟨-, -, rfl⟩ | ⟨unjoined, -⟩)
          · exact congrArg some h.length_requests.symm
          · exact absurd unjoined (h.not_unjoined held' free entry)
    | joinNone held' free =>
        cases held.symm.trans held'
        rw [free]
        constructor
        · exact nofun
        · rintro (⟨_, hstep, _⟩ | ⟨_, other⟩)
          · cases hstep
          · exact absurd rfl (other _)
    | join held' unjoined ended =>
        cases held
        constructor
        · exact nofun
        · rintro (⟨_, hstep, _⟩ | ⟨_, other⟩)
          · cases hstep
          · exact absurd rfl (other _)
    | drop => cases held
  single entry other hentry hother := by
    rw [unjoined_snoc] at hentry hother
    -- A start finds nothing unjoined.
    have fresh : ∀ {system entry}, (move, answer) = (.run system, .ran (.ok ())) ->
        ¬ Unjoined past entry := by
      intro system entry hstep
      cases hstep
      cases step with
      | granted held free => exact h.not_unjoined held free entry
    rcases hentry with ⟨system, hstep, rfl⟩ | ⟨hentry, -⟩
    · rcases hother with ⟨-, -, rfl⟩ | ⟨hother, -⟩
      · rfl
      · exact absurd hother (fresh hstep)
    · rcases hother with ⟨system, hstep, -⟩ | ⟨hother, -⟩
      · exact absurd hentry (fresh hstep)
      · exact h.single entry other hentry hother
  started := by
    rw [requests_append, List.map_append, h.started, step.isStarted]
  called entry := by
    have before := h.called entry
    rw [List.countP_append, List.countP_singleton]
    have fares := step.fares entry
    generalize state.entries[entry]? = fate, next.entries[entry]? = fate' at before fares
    cases fares with
    | stays uncalled unfinished => rw [uncalled, before]; rfl
    | refused | granted => rw [before]; rfl
    | called =>
        rw [before]
        simp [calls, EntryState.timesCalled]
    | finished => rw [before]; rfl
  finished entry outcome := by
    have before := h.finished entry outcome
    rw [List.mem_append, List.mem_singleton]
    have fares := step.fares entry
    generalize state.entries[entry]? = fate, next.entries[entry]? = fate' at before fares
    cases fares with
    | stays uncalled unfinished =>
        rw [before]
        exact or_iff_left fun same => unfinished outcome same.symm
    | refused | granted | called => simp [before]
    | finished => simp [before, eq_comm]

theorem Runs.told (runs : Runs past state) : Told past state := by
  obtain ⟨name, stackSize, -, reaches⟩ := runs
  induction reaches with
  | refl => exact told_new name stackSize
  | snoc _ made ih => exact ih.step (step_of_move? made)

/-! ## Answers -/

/-- How the owner of a worker thread object is answered after what has happened, and what has
become of the entries. -/
structure Answered (past : List (LifecycleMove ρ × LifecycleAnswer ρ)) (state : Lifecycle ρ) :
    Prop where
  /-- The object is joinable as long as the entry started last has not been joined. -/
  joinable : ∀ thread, state.thread = some thread ->
    (thread.isJoinable = true ↔ ∃ entry, Unjoined past entry)
  /-- No entry is started before the one that was started last has been joined. -/
  single : ∀ entry other, Unjoined past entry -> Unjoined past other -> entry = other
  /-- A request is answered in one of three ways.  If it fails, its entry is destroyed, and nothing
  else has changed. -/
  run : ∀ thread system, state.thread = some thread -> ∃ result next,
    state.move? (.run system) = some (.ran result, next) ∧
      (result = .error (.alreadyRunning thread.name) ↔ ∃ entry, Unjoined past entry) ∧
      (∀ cause, result = .error (.spawn thread.name cause) ↔
        (∀ entry, ¬ Unjoined past entry) ∧ system = .error cause) ∧
      (result = .ok () ↔ (∀ entry, ¬ Unjoined past entry) ∧ system = .ok ()) ∧
      (∀ error, result = .error error ->
        next = { state with entries := state.entries ++ [.dropped] })
  /-- The entry of a failed request is not called. -/
  uncalled : ∀ entry error, (requests past)[entry]? = some (.error error) ->
    past.countP (calls entry) = 0
  /-- That of any other is called once, or its thread can call it now. -/
  called : ∀ entry, (requests past)[entry]? = some (.ok ()) ->
    past.countP (calls entry) = 1 ∨
      past.countP (calls entry) = 0 ∧
        (state.aborted = false -> ∃ next, state.move? (.call entry) = some (.done, next))
  /-- An entry ends once. -/
  ends : ∀ entry outcome outcome', (.finish entry outcome, .done) ∈ past ->
    (.finish entry outcome', .done) ∈ past -> outcome = outcome'
  /-- The first join after a start returns how the entry has ended, and no later one does.  Any
  other join returns normally and changes nothing. -/
  join : ∀ outcome next, state.move? .join = some (.joined outcome, next) ->
    (∀ entry, Unjoined past entry ->
      past.countP (calls entry) = 1 ∧ (.finish entry outcome, .done) ∈ past ∧
        ∀ later, ¬ Unjoined (past ++ (.join, .joined outcome) :: later) entry) ∧
    ((∀ entry, ¬ Unjoined past entry) -> outcome = .ok () ∧ next = state)
  /-- A join waits for the thread that is to be joined, and for nothing else. -/
  ready : ∀ thread, state.thread = some thread ->
    ((∃ outcome next, state.move? .join = some (.joined outcome, next)) ↔
      ∀ entry, Unjoined past entry -> ∃ outcome, (.finish entry outcome, .done) ∈ past)
  drop : ∀ thread unwinding, state.thread = some thread -> ∃ parting next,
    state.move? (.drop unwinding) = some (.dropped parting, next) ∧ next.thread = none ∧
      (parting = .abort ↔ (∃ entry, Unjoined past entry) ∧ unwinding = false) ∧
      (next.aborted = true ↔ parting = .abort)

theorem move?_run (held : state.thread = some thread) (system : Except String Unit) :
    ∃ result next, state.move? (.run system) = some (.ran result, next) := by
  have made : state.move? (.run system) = some (state.run thread system) := by
    simp only [move?, held, Option.map_some]
  unfold run at made
  split at made
  · exact ⟨_, _, made⟩
  · exact ⟨_, _, made⟩

/-- A request fails on a joinable object, and otherwise the system decides. -/
theorem exists_ran (held : state.thread = some thread) (system : Except String Unit) :
    ∃ result next, state.move? (.run system) = some (.ran result, next) ∧
      (result = .error (.alreadyRunning thread.name) ↔ thread.isJoinable = true) ∧
      (∀ cause, result = .error (.spawn thread.name cause) ↔
        thread.isJoinable = false ∧ system = .error cause) ∧
      (result = .ok () ↔ thread.isJoinable = false ∧ system = .ok ()) ∧
      (∀ error, result = .error error ->
        next = { state with entries := state.entries ++ [.dropped] }) := by
  obtain ⟨result, next, made⟩ := move?_run held system
  refine ⟨result, next, made, ?_⟩
  cases step_of_move? made with
  | busy held' unjoined =>
      cases held.symm.trans held'
      simp [WorkerThread.isJoinable, unjoined]
  | refused held' free | granted held' free =>
      cases held.symm.trans held'
      simp [WorkerThread.isJoinable, free]

/-- A join returns unless there is a thread to be joined that has not ended. -/
theorem exists_joined_iff (held : state.thread = some thread) :
    (∃ outcome next, state.move? .join = some (.joined outcome, next)) ↔
      ∀ entry, thread.handle = some entry ->
        ∃ outcome, state.entries[entry]? = some (.ended outcome) := by
  constructor
  · rintro ⟨outcome, next, made⟩ entry hhandle
    cases step_of_move? made with
    | joinNone held' free =>
        cases held.symm.trans held'
        cases free.symm.trans hhandle
    | join held' unjoined ended =>
        cases held.symm.trans held'
        cases unjoined.symm.trans hhandle
        exact ⟨outcome, ended⟩
  · intro finished
    simp only [move?, held, Option.bind_some, join?, WorkerThread.join]
    cases hhandle : thread.handle with
    | none => exact ⟨_, _, rfl⟩
    | some entry =>
        obtain ⟨outcome, ended⟩ := finished entry hhandle
        simp only [ended]
        exact ⟨_, _, rfl⟩

theorem Told.joinable_iff (h : Told past state) (held : state.thread = some thread) :
    thread.isJoinable = true ↔ ∃ entry, Unjoined past entry :=
  WorkerThread.isJoinable_iff.trans (exists_congr (h.handle thread held))

theorem Told.unjoinable_iff (h : Told past state) (held : state.thread = some thread) :
    thread.isJoinable = false ↔ ∀ entry, ¬ Unjoined past entry := by
  rw [← Bool.not_eq_true, h.joinable_iff held, not_exists]

/-- What the history says of an entry with a request that was answered. -/
theorem Told.getElem?_requests (h : Told past state) (entry : Nat) :
    ((requests past)[entry]?).map Except.isOk =
      (state.entries[entry]?).map EntryState.isStarted := by
  rw [← List.getElem?_map, ← List.getElem?_map, h.started]

theorem Told.answered (h : Told past state) : Answered past state where
  joinable _ held := h.joinable_iff held
  single := h.single
  run thread system held := by
    obtain ⟨result, next, made, busy, refused, granted, failed⟩ := exists_ran held system
    rw [h.joinable_iff held] at busy
    rw [h.unjoinable_iff held] at granted
    simp only [h.unjoinable_iff held] at refused
    exact ⟨result, next, made, busy, refused, granted, failed⟩
  uncalled entry error refused := by
    have hfate := h.getElem?_requests entry
    rw [h.called]
    rw [refused] at hfate
    match hstate : state.entries[entry]? with
    | none | some .dropped => rfl
    | some .granted | some .called | some (.ended _) =>
        rw [hstate] at hfate
        cases hfate
  called entry started := by
    have hfate := h.getElem?_requests entry
    rw [h.called]
    rw [started] at hfate
    match hstate : state.entries[entry]? with
    | some .called | some (.ended _) => exact .inl rfl
    | some .granted =>
        refine .inr ⟨rfl, fun alive => ?_⟩
        simp only [move?, alive, hstate]
        exact ⟨_, rfl⟩
    | none | some .dropped =>
        rw [hstate] at hfate
        cases hfate
  ends entry outcome outcome' hfirst hsecond := by
    rw [h.finished] at hfirst hsecond
    cases hfirst.symm.trans hsecond
    rfl
  join outcome next made := by
    cases step_of_move? made with
    | joinNone held free =>
        refine ⟨fun entry unjoined => ?_, fun _ => ⟨rfl, rfl⟩⟩
        exact absurd unjoined (h.not_unjoined held free entry)
    | @join thread entry _ held unjoined ended =>
        have started := (h.handle thread held entry).1 unjoined
        refine ⟨fun other hother => ?_, fun joined => absurd started (joined entry)⟩
        cases h.single other entry hother started
        refine ⟨?_, (h.finished entry outcome).2 ended, ?_⟩
        · rw [h.called, ended]
          rfl
        · exact fun later => not_unjoined_of_join started.request
  ready thread held := by
    simp only [exists_joined_iff held, h.handle thread held, h.finished]
  drop thread unwinding held := by
    refine ⟨thread.drop unwinding, _, by rw [move?, held]; rfl, rfl, ?_, decide_eq_true_iff⟩
    rw [WorkerThread.drop_eq_abort_iff, h.joinable_iff held]

theorem each_start_is_answered_by_one_join (runs : Runs past state) : Answered past state :=
  runs.told.answered

/-- A refused request, one that is granted, one that comes too early, a thread that fails, two joins,
a second thread, and the end of the object while this thread runs and the owner unwinds. -/
theorem two_threads_of_four_requests :
    ∃ (past : List (LifecycleMove String × LifecycleAnswer String)) (state : Lifecycle String),
      past.map Prod.snd =
        [.ran (.error (.spawn "worker" "no memory")), .ran (.ok ()),
          .ran (.error (.alreadyRunning "worker")), .done, .done, .joined (.error "failed"),
          .joined (.ok ()), .ran (.ok ()), .done, .dropped .detach] ∧
      state.thread = none ∧ Answered past state := by
  have runs : Runs (ρ := String) _ _ := ⟨"worker", none, by decide, Machine.reaches_of_run?
    [.run (.error "no memory"), .run (.ok ()), .run (.ok ()), .call 1, .finish 1 (.error "failed"),
      .join, .join, .run (.ok ()), .call 3, .drop true] rfl⟩
  exact ⟨_, _, rfl, rfl, each_start_is_answered_by_one_join runs⟩

end Lifecycle

end Reactor
