import Reactor.Loop.Call
import Reactor.Proofs.Timer.Drain

/-!
# The choice of the next unit of work

Whatever has been done to a loop state, its timers are in good order.  So the timer that the
worker fires is the first of those that are due, it takes an event only if none is due, and it
sleeps only if there is nothing to do, until a deadline that has not come yet.
-/

namespace Reactor

namespace TimerSet

variable {ω : Type} {timers : TimerSet ω} {now : Instant}

/-- A timer is due, and comes before all others. -/
structure IsFirst (timers : TimerSet ω) (now : Instant) (timer : ArmedTimer ω) : Prop where
  armed : timer ∈ timers.agenda
  due : timer.deadline <= now
  least : ∀ other ∈ timers.agenda, other ≠ timer -> timer.before other

theorem Indexed.isFirst_of_popExpired (h : timers.Indexed) (ordered : timers.Ordered)
    {id : TimerId} {owner : ω} {after : TimerSet ω}
    (hpop : timers.popExpired now = some ((id, owner), after)) :
    ∃ timer, timers.IsFirst now timer ∧ timer.id = id ∧ timer.owner = owner := by
  obtain ⟨timer, rest, hagenda, hid, howner, due, -⟩ := popExpired_eq_some hpop
  have pairwise := h.pairwise_before ordered
  have armed : timer ∈ timers.agenda := hagenda ▸ .head _
  rw [hagenda] at pairwise
  refine ⟨timer, ⟨armed, due, fun other hmem hne => ?_⟩, hid, howner⟩
  rw [hagenda] at hmem
  exact List.rel_of_pairwise_cons pairwise ((List.mem_cons.1 hmem).resolve_left hne)

end TimerSet

namespace LoopState

variable {ε : Type} {state first last : LoopState ε} {now : Instant}
  {past : List (LoopCall ε × LoopAnswer ε)}

/-! ## Timers in good order -/

/-- The timers of a loop state are in good order. -/
structure Sound (state : LoopState ε) : Prop where
  ordered : state.timers.Ordered
  indexed : state.timers.Indexed

theorem sound_idle : (idle : LoopState ε).Sound :=
  ⟨TimerSet.ordered_empty, TimerSet.indexed_empty⟩

/-! ## The choice -/

/-- What the worker chooses, and what it leaves. -/
inductive Chooses (state : LoopState ε) (now : Instant) : Work ε -> LoopState ε -> Prop
  /-- The order to quit comes first. -/
  | quit (told : state.quit = true) : Chooses state now .quit state
  | timer {timer : ArmedTimer HandlerId} {timers : TimerSet HandlerId}
      (untold : state.quit = false) (first : state.timers.IsFirst now timer)
      (fired : state.timers.popExpired now = some ((timer.id, timer.owner), timers)) :
      Chooses state now (.timer timer.id timer.owner) { state with timers }
  | event {entry : QueuedEvent ε} {queue : List (QueuedEvent ε)}
      (untold : state.quit = false) (undue : state.timers.expired now = [])
      (oldest : state.queue = entry :: queue) :
      Chooses state now (.event entry) { state with queue }
  | waitUntil {timer : ArmedTimer HandlerId}
      (untold : state.quit = false) (undue : state.timers.expired now = [])
      (empty : state.queue = []) (armed : timer ∈ state.timers.agenda)
      (least : ∀ other ∈ state.timers.agenda, timer.deadline <= other.deadline)
      (future : now < timer.deadline) :
      Chooses state now (.waitUntil timer.deadline) state
  | wait (untold : state.quit = false) (empty : state.queue = [])
      (unarmed : state.timers.agenda = []) : Chooses state now .wait state

theorem Sound.chooses (h : state.Sound) (now : Instant) :
    state.Chooses now (state.nextWork now).1 (state.nextWork now).2 := by
  unfold nextWork
  by_cases hquit : state.quit = true
  · rw [if_pos hquit]
    exact .quit hquit
  rw [if_neg hquit]
  have untold : state.quit = false := Bool.eq_false_iff.2 hquit
  cases hpop : state.timers.popExpired now with
  | some fired =>
      obtain ⟨⟨id, handler⟩, timers⟩ := fired
      obtain ⟨timer, first, rfl, rfl⟩ := h.indexed.isFirst_of_popExpired h.ordered hpop
      exact .timer untold first hpop
  | none =>
      have undue := h.ordered.popExpired_eq_none_iff.1 hpop
      cases hqueue : state.queue with
      | cons entry queue => exact .event untold undue hqueue
      | nil =>
          cases hnext : state.timers.nextDeadline with
          | none => exact .wait untold hqueue (TimerSet.nextDeadline_eq_none_iff.1 hnext)
          | some deadline =>
              have least : ∀ other ∈ state.timers.agenda, deadline <= other.deadline :=
                fun other => TimerSet.nextDeadline_le h.ordered hnext
              obtain ⟨timer, hhead, rfl⟩ := Option.map_eq_some_iff.1 hnext
              have armed := List.mem_of_head? hhead
              have future := TimerSet.expired_eq_nil_iff.1 undue timer armed
              exact .waitUntil untold undue hqueue armed least future

/-! ## Calls -/

theorem Sound.perform (h : state.Sound) (call : LoopCall ε) : (state.perform call).2.Sound := by
  cases call with
  | enqueue handler event => exact ⟨h.ordered, h.indexed⟩
  | arm handler now interval mode =>
      exact ⟨TimerSet.ordered_insert h.ordered _ _ _ _, h.indexed.insert _ _ _ _⟩
  | disarm id =>
      exact ⟨h.ordered.of_sublist (TimerSet.agenda_erase_sublist _ _), h.indexed.erase id⟩
  | disarmAll handler =>
      exact ⟨h.ordered.of_sublist List.filter_sublist, h.indexed.eraseWhere (· = handler)⟩
  | setQuit quit => exact ⟨h.ordered, h.indexed⟩
  | next now =>
      have chooses := h.chooses now
      show (state.nextWork now).2.Sound
      generalize state.nextWork now = chosen at chooses ⊢
      obtain ⟨work, after⟩ := chosen
      cases chooses with
      | timer untold first fired =>
          exact ⟨TimerSet.ordered_popExpired h.ordered fired, h.indexed.popExpired fired⟩
      | quit told => exact h
      | event untold undue oldest => exact ⟨h.ordered, h.indexed⟩
      | waitUntil untold undue empty armed least future => exact h
      | wait untold empty unarmed => exact h

theorem Reaches.sound (reaches : first.Reaches past last) (h : first.Sound) : last.Sound := by
  induction reaches with
  | refl => exact h
  | @snoc last next past call answer reaches made ih =>
      have made := Option.some.inj made
      have sound := ih.perform call
      rwa [made] at sound

/-! ## When each is chosen -/

/-- The kinds of work exclude one another, and each is chosen where those that precede it cannot
be. -/
structure Priorities (state : LoopState ε) (now : Instant) (work : Work ε) : Prop where
  quit : work = .quit ↔ state.quit = true
  timer : (∃ id handler, work = .timer id handler) ↔
    state.quit = false ∧ state.timers.expired now ≠ []
  event : (∃ entry, work = .event entry) ↔
    state.quit = false ∧ state.timers.expired now = [] ∧ state.queue ≠ []
  waitUntil : (∃ deadline, work = .waitUntil deadline) ↔
    state.quit = false ∧ state.timers.expired now = [] ∧ state.queue = [] ∧
      state.timers.agenda ≠ []
  wait : work = .wait ↔
    state.quit = false ∧ state.queue = [] ∧ state.timers.agenda = []

theorem Chooses.priorities {work : Work ε} {after : LoopState ε}
    (h : state.Chooses now work after) : state.Priorities now work := by
  cases h with
  | quit told => constructor <;> simp [told]
  | timer untold first fired =>
      have due : state.timers.expired now ≠ [] :=
        List.ne_nil_of_mem (List.mem_filter.2 ⟨first.armed, decide_eq_true first.due⟩)
      have armed : state.timers.agenda ≠ [] := List.ne_nil_of_mem first.armed
      constructor <;> simp [untold, due, armed]
  | event untold undue oldest => constructor <;> simp [untold, undue, oldest]
  | waitUntil untold undue empty armed least future =>
      have armed : state.timers.agenda ≠ [] := List.ne_nil_of_mem armed
      constructor <;> simp [untold, undue, empty, armed]
  | wait untold empty unarmed =>
      have undue : state.timers.expired now = [] := by simp [TimerSet.expired, unarmed]
      constructor <;> simp [untold, undue, empty, unarmed]

/-! ## Choices in a run -/

/-- The choice at any reading, and the choices that have been made. -/
structure Prudent (past : List (LoopCall ε × LoopAnswer ε)) (state : LoopState ε) : Prop where
  chooses : ∀ now, state.Chooses now (state.nextWork now).1 (state.nextWork now).2
  priorities : ∀ now, state.Priorities now (state.nextWork now).1
  /-- No event has been taken while a timer was due. -/
  events : ∀ front now entry back, past = front ++ (.next now, .work (.event entry)) :: back ->
    ∃ before, idle.Reaches front before ∧
      ∀ timer ∈ before.timers.agenda, now < timer.deadline
  /-- The worker has not decided to sleep while there was something to do, nor until an instant
  that had come. -/
  sleeps : ∀ front now work back, past = front ++ (.next now, .work work) :: back ->
    (work = .wait ∨ ∃ deadline, work = .waitUntil deadline) ->
    ∃ before, idle.Reaches front before ∧ before.quit = false ∧ before.queue = [] ∧
      (∀ timer ∈ before.timers.agenda, now < timer.deadline) ∧
      ∀ deadline, work = .waitUntil deadline -> now < deadline

theorem Reaches.exists_chooses {back front : List (LoopCall ε × LoopAnswer ε)} {work : Work ε}
    (reaches : idle.Reaches (front ++ (.next now, .work work) :: back) last) :
    ∃ before after, idle.Reaches front before ∧ before.Chooses now work after ∧
      before.Priorities now work := by
  obtain ⟨before, after, hfront, made, -⟩ := Machine.Reaches.cut reaches
  have chooses := (Reaches.sound hfront sound_idle).chooses now
  cases made
  exact ⟨before, _, hfront, chooses, chooses.priorities⟩

theorem choice_is_prudent (reaches : idle.Reaches past state) : Prudent past state := by
  have chooses := (Reaches.sound reaches sound_idle).chooses
  refine ⟨chooses, fun now => (chooses now).priorities, ?_, ?_⟩
  · rintro front now entry back rfl
    obtain ⟨before, after, hfront, -, priorities⟩ := Reaches.exists_chooses reaches
    have undue := (priorities.event.1 ⟨entry, rfl⟩).2.1
    exact ⟨before, hfront, TimerSet.expired_eq_nil_iff.1 undue⟩
  · rintro front now work back rfl sleeps
    obtain ⟨before, after, hfront, hchooses, -⟩ := Reaches.exists_chooses reaches
    refine ⟨before, hfront, ?_⟩
    cases hchooses with
    | waitUntil untold undue empty armed least future =>
        refine ⟨untold, empty, TimerSet.expired_eq_nil_iff.1 undue, ?_⟩
        rintro deadline ⟨⟩
        exact future
    | wait untold empty unarmed =>
        refine ⟨untold, empty, ?_, fun deadline h => by cases h⟩
        rw [unarmed]
        exact fun timer hmem => absurd hmem List.not_mem_nil
    | _ => simp at sleeps

/-- A timer that is due precedes an event, one that is not due does not, and the order to quit
precedes everything. -/
theorem choices_of_each_kind :
    ∃ (past : List (LoopCall Nat × LoopAnswer Nat)) (state : LoopState Nat),
      idle.Reaches past state ∧
      past.map Prod.snd =
        [.done, .armed ⟨1⟩ true, .armed ⟨2⟩ true, .work (.timer ⟨2⟩ ⟨1⟩), .work (.event ⟨⟨0⟩, 7⟩),
          .work (.waitUntil ⟨9, by decide⟩), .disarmedAll 1, .work .wait, .done, .done, .work .quit] ∧
      Prudent past state := by
  have check : (Machine.run? machine idle
      [.enqueue ⟨0⟩ (7 : Nat), .arm ⟨0⟩ .first ⟨9, by decide⟩ .repeating,
        .arm ⟨1⟩ .first ⟨5, by decide⟩ .oneShot, .next ⟨5, by decide⟩, .next ⟨5, by decide⟩,
        .next ⟨5, by decide⟩, .disarmAll ⟨0⟩, .next ⟨9, by decide⟩, .enqueue ⟨0⟩ 8, .setQuit true,
        .next ⟨9, by decide⟩]).any (fun run => run.1.map Prod.snd =
          [.done, .armed ⟨1⟩ true, .armed ⟨2⟩ true, .work (.timer ⟨2⟩ ⟨1⟩), .work (.event ⟨⟨0⟩, 7⟩),
            .work (.waitUntil ⟨9, by decide⟩), .disarmedAll 1, .work .wait, .done, .done,
            .work .quit]) = true := by
    decide +kernel
  simp only [Option.any_eq_true, decide_eq_true_eq] at check
  obtain ⟨⟨past, state⟩, made, answers⟩ := check
  have reaches : idle.Reaches past state := Machine.reaches_of_run? _ made
  exact ⟨past, state, reaches, answers, choice_is_prudent reaches⟩

end LoopState

end Reactor
