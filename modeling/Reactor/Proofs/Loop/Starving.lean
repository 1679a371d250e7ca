import Reactor.Proofs.Loop.Choice

/-!
# A timer that is always due

A repeating timer with an empty interval is due again at the reading at which it has fired.  So
while the clock does not go back and nobody disarms the timer, a timer is due whenever the worker
looks for work, and the worker takes no event and does not sleep.  The events wait in the queue,
and come out in their order when no timer is due.
-/

namespace Reactor

namespace LoopCall

variable {ε : Type}

/-- The reading of the clock at which the worker looks for work. -/
def reading? : LoopCall ε -> Option Instant
  | .next now => some now
  | _ => none

def enqueued? : LoopCall ε -> Option (QueuedEvent ε)
  | .enqueue handler event => some ⟨handler, event⟩
  | _ => none

/-- Whether a call disarms the timer that the handler has under the identifier, or tells the
worker to quit. -/
def relieves (id : TimerId) (handler : HandlerId) : LoopCall ε -> Bool
  | .disarm other => other = id
  | .disarmAll other => other = handler
  | .setQuit quit => quit
  | _ => false

end LoopCall

/-- The event that the worker has taken. -/
def LoopAnswer.taken? {ε : Type} : LoopAnswer ε -> Option (QueuedEvent ε)
  | .work (.event entry) => some entry
  | _ => none

namespace LoopState

variable {ε : Type} {state before after first last : LoopState ε} {now : Instant}
  {past later : List (LoopCall ε × LoopAnswer ε)} {call : LoopCall ε} {id : TimerId}
  {handler : HandlerId}

/-- The readings at which the worker has looked for work. -/
def readings (past : List (LoopCall ε × LoopAnswer ε)) : List Instant :=
  past.filterMap fun step => step.1.reading?

def enqueued (past : List (LoopCall ε × LoopAnswer ε)) : List (QueuedEvent ε) :=
  past.filterMap fun step => step.1.enqueued?

def taken (past : List (LoopCall ε × LoopAnswer ε)) : List (QueuedEvent ε) :=
  past.filterMap fun step => step.2.taken?

/-! ## The order of the events -/

/-- A call takes an event from the front of the queue or puts one at its end, and that is all it
does to the queue. -/
theorem Sound.queue_perform (h : state.Sound) (call : LoopCall ε) :
    (state.perform call).1.taken?.toList ++ (state.perform call).2.queue =
      state.queue ++ call.enqueued?.toList := by
  cases call with
  | enqueue handler event => rfl
  | next now =>
      have chooses := h.chooses now
      show (LoopAnswer.work (state.nextWork now).1).taken?.toList ++ (state.nextWork now).2.queue =
        state.queue ++ []
      generalize state.nextWork now = chosen at chooses ⊢
      obtain ⟨work, after⟩ := chosen
      cases chooses with
      | event untold undue oldest =>
          rw [List.append_nil, oldest]
          rfl
      | _ => exact (List.append_nil _).symm
  | _ => exact (List.append_nil _).symm

/-- The events that are taken, and then those that are left, are those of the queue and those
that have come since, in their order. -/
theorem Reaches.queue (reaches : first.Reaches past last) (sound : first.Sound) :
    taken past ++ last.queue = first.queue ++ enqueued past := by
  induction reaches with
  | refl => exact (List.append_nil _).symm
  | @snoc last next past call answer reaches made ih =>
      have step := (Reaches.sound reaches sound).queue_perform call
      rw [Option.some.inj made] at step
      calc
        taken (past ++ [(call, answer)]) ++ next.queue
            = taken past ++ (answer.taken?.toList ++ next.queue) := by
              rw [taken, Machine.filterMap_snoc, List.append_assoc]
              rfl
        _ = taken past ++ (last.queue ++ call.enqueued?.toList) := by rw [step]
        _ = first.queue ++ (enqueued past ++ call.enqueued?.toList) := by
              rw [← List.append_assoc, ih, List.append_assoc]
        _ = first.queue ++ enqueued (past ++ [(call, answer)]) := by
              rw [enqueued, enqueued, Machine.filterMap_snoc]

theorem nextWork_of_undue {entry : QueuedEvent ε} {queue : List (QueuedEvent ε)}
    (untold : state.quit = false) (undue : state.timers.popExpired now = none)
    (oldest : state.queue = entry :: queue) :
    state.nextWork now = (.event entry, { state with queue }) := by
  unfold nextWork
  rw [if_neg (Bool.eq_false_iff.1 untold), undue, oldest]

/-- Where no timer is due, the events come out of the queue in their order. -/
theorem Sound.empties (h : state.Sound) (untold : state.quit = false) {readings : List Instant}
    (enough : readings.length = state.queue.length)
    (undue : ∀ now ∈ readings, state.timers.expired now = []) :
    state.Reaches
      (List.zipWith (fun now entry => (.next now, .work (.event entry))) readings state.queue)
      { state with queue := [] } := by
  induction readings generalizing state with
  | nil =>
      have hqueue := List.length_eq_zero_iff.1 enough.symm
      rw [List.zipWith_nil_left, ← hqueue]
      exact .refl state
  | cons now readings ih =>
      cases hqueue : state.queue with
      | nil => simp [hqueue] at enough
      | cons entry queue =>
          have none := h.ordered.popExpired_eq_none_iff.2 (undue now (.head _))
          have made : machine state (.next now) =
              some (.work (.event entry), { state with queue }) := by
            show some (LoopAnswer.work (state.nextWork now).1, (state.nextWork now).2) = _
            rw [nextWork_of_undue untold none hqueue]
          rw [hqueue] at enough
          have sound : ({ state with queue } : LoopState ε).Sound := ⟨h.ordered, h.indexed⟩
          have rest := ih sound untold (Nat.succ.inj enough)
            fun later hmem => undue later (.tail _ hmem)
          exact Machine.Reaches.trans (.snoc (.refl state) made) rest

/-! ## A timer that is always due -/

/-- A repeating timer with an empty interval is armed and has been due since a reading, and the
worker has not been told to quit. -/
structure Insistent (state : LoopState ε) (id : TimerId) (handler : HandlerId) (latest : Instant) :
    Prop where
  sound : state.Sound
  untold : state.quit = false
  armed : ∃ timer ∈ state.timers.agenda, timer.id = id ∧
    timer.toTimer = ⟨handler, .zero, .repeating⟩ ∧ timer.deadline <= latest

theorem Insistent.of_armed {earliest : Bool} (sound : state.Sound)
    (untold : state.quit = false)
    (armed : state.perform (.arm handler now .zero .repeating) = (.armed id earliest, after)) :
    after.Insistent id handler now := by
  have sound' := sound.perform (.arm handler now .zero .repeating)
  cases armed
  refine ⟨sound', untold, state.timers.newcomer handler now .zero .repeating, ?_, rfl, rfl, ?_⟩
  · exact TimerSet.mem_agenda_insert.2 (.inl rfl)
  · exact Nat.le_of_eq (congrArg Instant.nanos now.deadlineAfter_zero)

section Insistent

variable {latest : Instant} (h : state.Insistent id handler latest)
include h

/-- The worker fires a timer, and if it is the one that is always due, it is due again. -/
theorem Insistent.nextWork (forward : latest <= now) :
    (∃ fired owner, (state.nextWork now).1 = .timer fired owner) ∧
      (state.nextWork now).2.Insistent id handler now := by
  obtain ⟨timer, hmem, rfl, hkind, hdue⟩ := h.armed
  have due : timer.deadline <= now := Nat.le_trans hdue forward
  have hexpired : timer ∈ state.timers.expired now :=
    List.mem_filter.2 ⟨hmem, decide_eq_true due⟩
  have armed := List.ne_nil_of_mem hexpired
  have chooses := h.sound.chooses now
  have sound : (state.nextWork now).2.Sound := h.sound.perform (.next now)
  generalize state.nextWork now = chosen at chooses sound ⊢
  obtain ⟨work, after⟩ := chosen
  have fires := chooses.priorities.timer.2 ⟨h.untold, armed⟩
  refine ⟨fires, ?_⟩
  obtain ⟨fired, owner, rfl⟩ := fires
  cases chooses with
  | timer untold first hpop =>
      -- The timer that fires may be another one, which comes before this one.
      have repeats : timer.mode = .repeating := by rw [hkind]
      rcases TimerSet.mem_popExpired_of_repeating hpop hmem repeats with hstays | hagain
      · exact ⟨sound, untold, timer, hstays, rfl, hkind, due⟩
      · have hdeadline : (timer.rearm now).deadline = now := by
          have hinterval : timer.interval = .zero := by rw [hkind]
          simp only [ArmedTimer.rearm, hinterval, Instant.deadlineAfter_zero]
        have hle := Nat.le_of_eq (congrArg Instant.nanos hdeadline)
        exact ⟨sound, untold, timer.rearm now, hagain, rfl, hkind, hle⟩

theorem Insistent.perform (kept : call.relieves id handler = false)
    (forward : ∀ now, call.reading? = some now -> latest <= now) :
    (state.perform call).2.Insistent id handler (call.reading?.getD latest) := by
  have sound := h.sound.perform call
  obtain ⟨timer, hmem, hid, hkind, hdue⟩ := h.armed
  cases call with
  | next now => exact (h.nextWork (forward now rfl)).2
  | enqueue other event => exact ⟨sound, h.untold, timer, hmem, hid, hkind, hdue⟩
  | arm other now interval mode =>
      have hmem' : timer ∈ (state.timers.insert other now interval mode).2.2.agenda :=
        TimerSet.mem_agenda_insert.2 (.inr hmem)
      exact ⟨sound, h.untold, timer, hmem', hid, hkind, hdue⟩
  | disarm other =>
      have hne : timer.id ≠ other := by
        rintro rfl
        simp [LoopCall.relieves, hid] at kept
      have hmem' : timer ∈ (state.timers.erase other).2.agenda := by
        rw [h.sound.indexed.erase_eq, List.mem_filter]
        exact ⟨hmem, decide_eq_true hne⟩
      exact ⟨sound, h.untold, timer, hmem', hid, hkind, hdue⟩
  | disarmAll other =>
      have howner : timer.owner = handler := by rw [hkind]
      have hne : timer.owner ≠ other := by
        rintro rfl
        simp [LoopCall.relieves, howner] at kept
      have hmem' : timer ∈ (state.timers.eraseWhere (· = other)).2.agenda :=
        List.mem_filter.2 ⟨hmem, by simpa using hne⟩
      exact ⟨sound, h.untold, timer, hmem', hid, hkind, hdue⟩
  | setQuit quit => exact ⟨sound, kept, timer, hmem, hid, hkind, hdue⟩

end Insistent

/-- As long as nobody disarms the timer and the clock does not go back, it remains due. -/
theorem Insistent.exists_latest (h : after.Insistent id handler now)
    (meanwhile : after.Reaches later last) (forward : (now :: readings later).Pairwise (· <= ·))
    (kept : ∀ step ∈ later, step.1.relieves id handler = false) :
    (∃ latest ∈ now :: readings later, last.Insistent id handler latest) ∧
      ∀ now answer, (.next now, answer) ∈ later ->
        ∃ fired owner, answer = .work (.timer fired owner) := by
  induction meanwhile with
  | refl => exact ⟨⟨now, .head _, h⟩, fun _ _ hmem => absurd hmem List.not_mem_nil⟩
  | @snoc last next later call answer reaches made ih =>
      have made := Option.some.inj made
      have hreadings : now :: readings (later ++ [(call, answer)]) =
          (now :: readings later) ++ call.reading?.toList := by
        rw [readings, Machine.filterMap_snoc]
        rfl
      rw [hreadings, List.pairwise_append] at forward
      obtain ⟨hforward, -, hcall⟩ := forward
      obtain ⟨⟨latest, hlatest, insistent⟩, htimers⟩ :=
        ih hforward fun step hmem => kept step (List.mem_append_left _ hmem)
      have hkept := kept (call, answer) (List.mem_append_right _ (.head _))
      have hlater : ∀ now, call.reading? = some now -> latest <= now := by
        intro now hreading
        exact hcall latest hlatest now (by simp [hreading])
      constructor
      · have insistent' := insistent.perform hkept hlater
        rw [made] at insistent'
        refine ⟨_, ?_, insistent'⟩
        rw [hreadings, List.mem_append]
        cases hreading : call.reading? with
        | none => exact .inl hlatest
        | some reading => exact .inr (.head _)
      · intro now answer' hmem
        rcases List.mem_append.1 hmem with hmem | hmem
        · exact htimers now answer' hmem
        · cases List.mem_singleton.1 hmem
          obtain ⟨fired, owner, hwork⟩ := (insistent.nextWork (hlater now rfl)).1
          refine ⟨fired, owner, ?_⟩
          rw [← hwork]
          exact (congrArg Prod.fst made).symm

/-! ## Starving -/

/-- The worker finds timers to fire and nothing else, and the events wait for it. -/
structure Starves (before : LoopState ε) (later : List (LoopCall ε × LoopAnswer ε))
    (last : LoopState ε) : Prop where
  timers : ∀ now answer, (.next now, answer) ∈ later ->
    ∃ id handler, answer = .work (.timer id handler)
  queue : last.queue = before.queue ++ enqueued later
  /-- Whatever happens from then on, the events are taken in their order. -/
  order : ∀ rest final, last.Reaches rest final ->
    taken rest ++ final.queue = before.queue ++ enqueued later ++ enqueued rest
  /-- They are all taken, if the worker looks for work when no timer is due. -/
  resumes : ∀ rest final readings, last.Reaches rest final -> final.quit = false ->
    readings.length = final.queue.length ->
    (∀ now ∈ readings, ∀ timer ∈ final.timers.agenda, now < timer.deadline) ->
    final.Reaches
      (List.zipWith (fun now entry => (.next now, .work (.event entry))) readings final.queue)
      { final with queue := [] }

/-- Where the worker finds nothing but timers, no event is taken. -/
theorem Reaches.taken_eq_nil (reaches : first.Reaches past last)
    (timers : ∀ now answer, (.next now, answer) ∈ past ->
      ∃ id handler, answer = .work (.timer id handler)) : taken past = [] := by
  apply List.filterMap_eq_nil_iff.2
  rintro ⟨call, answer⟩ hmem
  cases call with
  | next now =>
      obtain ⟨id, handler, rfl⟩ := timers now answer hmem
      rfl
  | _ =>
      obtain ⟨front, back, rfl⟩ := List.append_of_mem hmem
      obtain ⟨before, after, -, made, -⟩ := Machine.Reaches.cut reaches
      cases made
      rfl

theorem insistent_timer_starves_events {earliest : Bool} (reaches : idle.Reaches past before)
    (untold : before.quit = false)
    (armed : before.perform (.arm handler now .zero .repeating) = (.armed id earliest, after))
    (meanwhile : after.Reaches later last) (forward : (now :: readings later).Pairwise (· <= ·))
    (kept : ∀ step ∈ later, step.1.relieves id handler = false) : Starves before later last := by
  have sound := Reaches.sound reaches sound_idle
  have insistent := Insistent.of_armed sound untold armed
  obtain ⟨⟨latest, -, hlast⟩, timers⟩ := insistent.exists_latest meanwhile forward kept
  have hqueue : last.queue = before.queue ++ enqueued later := by
    have h := Reaches.queue meanwhile insistent.sound
    rw [Reaches.taken_eq_nil meanwhile timers, List.nil_append] at h
    cases armed
    exact h
  refine ⟨timers, hqueue, ?_, ?_⟩
  · intro rest final hrest
    rw [Reaches.queue hrest hlast.sound, hqueue]
  · intro rest final readings hrest hquit enough undue
    have hfinal := Reaches.sound hrest hlast.sound
    exact hfinal.empties hquit enough fun now hmem =>
      TimerSet.expired_eq_nil_iff.2 (undue now hmem)

/-- Two events wait for two timers that are always due.  When both timers are disarmed, the events
come out. -/
theorem two_events_wait_for_insistent_timers :
    ∃ (before last : LoopState Nat) (later : List (LoopCall Nat × LoopAnswer Nat)),
      later.map Prod.snd =
        [.work (.timer ⟨1⟩ ⟨1⟩), .done, .armed ⟨2⟩ false, .work (.timer ⟨1⟩ ⟨1⟩),
          .work (.timer ⟨1⟩ ⟨1⟩), .disarmed false, .work (.timer ⟨2⟩ ⟨0⟩)] ∧
      Starves before later last ∧
      (Machine.run? machine last [.disarm ⟨1⟩, .disarmAll ⟨0⟩, .next ⟨7, by decide⟩,
          .next ⟨7, by decide⟩]).map (fun run => run.1.map Prod.snd) =
        some [.disarmed true, .disarmedAll 1, .work (.event ⟨⟨0⟩, 7⟩), .work (.event ⟨⟨1⟩, 8⟩)] := by
  let before : LoopState Nat := (idle.perform (.enqueue ⟨0⟩ 7)).2
  let after : LoopState Nat := (before.perform (.arm ⟨1⟩ ⟨5, by decide⟩ .zero .repeating)).2
  have check : (Machine.run? machine after
      [.next ⟨5, by decide⟩, .enqueue ⟨1⟩ 8, .arm ⟨0⟩ ⟨5, by decide⟩ .zero .repeating,
        .next ⟨5, by decide⟩, .next ⟨6, by decide⟩, .disarm ⟨3⟩, .next ⟨7, by decide⟩]).any
      (fun run =>
        decide ((⟨5, by decide⟩ :: readings run.1).Pairwise (· <= ·)) &&
        run.1.all (fun step => !step.1.relieves ⟨1⟩ ⟨1⟩) &&
        run.1.map Prod.snd =
          [.work (.timer ⟨1⟩ ⟨1⟩), .done, .armed ⟨2⟩ false, .work (.timer ⟨1⟩ ⟨1⟩),
            .work (.timer ⟨1⟩ ⟨1⟩), .disarmed false, .work (.timer ⟨2⟩ ⟨0⟩)] &&
        (Machine.run? machine run.2 [.disarm ⟨1⟩, .disarmAll ⟨0⟩, .next ⟨7, by decide⟩,
            .next ⟨7, by decide⟩]).map (fun run => run.1.map Prod.snd) =
          some [.disarmed true, .disarmedAll 1, .work (.event ⟨⟨0⟩, 7⟩),
            .work (.event ⟨⟨1⟩, 8⟩)]) = true := by
    decide +kernel
  simp only [Option.any_eq_true, Bool.and_eq_true, decide_eq_true_eq, List.all_eq_true,
    Bool.not_eq_true'] at check
  obtain ⟨⟨later, last⟩, made, ⟨⟨forward, kept⟩, answers⟩, relieved⟩ := check
  have reaches : idle.Reaches [(.enqueue ⟨0⟩ 7, .done)] before := .snoc (.refl idle) rfl
  have meanwhile : after.Reaches later last := Machine.reaches_of_run? _ made
  exact ⟨before, last, later, answers,
    insistent_timer_starves_events reaches rfl rfl meanwhile forward kept, relieved⟩

end LoopState

end Reactor
