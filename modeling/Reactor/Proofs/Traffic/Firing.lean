import Mathlib.Data.List.Chain
import Reactor.Proofs.Traffic.Alarm

/-!
# The law of firing

A timer fires for the handler that armed it, never before its interval has passed
since it was armed or fired last, and however late the worker is, it fires once
for all the ticks that were missed.  A repeating timer is armed between its
firings, always under the same identifier, until it is stopped, its handler is
removed or the worker leaves.  That is the law of `Regular`: what has followed
the arming of a timer decides where the timer is.
-/

namespace Reactor

namespace Traffic

variable {ε : Type} {traffic next first last : Traffic ε}
  {past later front : List (Move ε × Answer ε)} {move : Move ε} {answer : Answer ε}
  {step : Move ε × Answer ε} {arming : Arming}

namespace Arming

variable (arming : Arming) (later : List (Move ε × Answer ε))

/-- A step has disarmed the timer. -/
def Disarmed : Prop :=
  ∃ step ∈ later, disarms step arming.timer.owner arming.id = true

/-- The timer was to fire once, and has fired. -/
def Spent : Prop :=
  arming.timer.mode = .oneShot ∧ firings arming.id later ≠ []

/-- The reading from which the deadline of the timer is counted. -/
def latest : Instant :=
  (readings arming.id later).getLast?.getD arming.now

end Arming

/-- Where a timer is that has been armed: what has followed decides. -/
structure Regular (arming : Arming) (later : List (Move ε × Answer ε)) (traffic : Traffic ε) :
    Prop where
  armed : ∀ timer, traffic.loop.timers.armed? arming.id = some timer ↔
    ¬ arming.Disarmed later ∧ ¬ arming.Spent later ∧ timer = arming.at (arming.latest later)
  heard : ∀ firing ∈ firings arming.id later, firing.handler = arming.timer.owner
  spaced : (arming.now :: readings arming.id later).IsChain fun earlier reading =>
    earlier.deadlineAfter arming.timer.interval <= reading
  once : arming.timer.mode = .oneShot -> (firings arming.id later).length <= 1

theorem disarmed_snoc {arming : Arming} :
    arming.Disarmed (later ++ [step]) ↔
      arming.Disarmed later ∨ disarms step arming.timer.owner arming.id = true :=
  exists_mem_snoc

/-- A timer is taken when it is armed and due, and then it is spent or armed anew. -/
theorem Regular.fire {arming : Arming} (h : Regular arming later traffic) {now : Instant}
    {timer : ArmedTimer HandlerId}
    (taken : firing? step = some ⟨arming.id, timer.owner, now⟩)
    (undisturbed : ∀ owner, disarms step owner arming.id = false)
    (before : traffic.loop.timers.armed? arming.id = some timer) (due : timer.deadline <= now)
    (after : next.loop.timers.armed? arming.id = timer.again? now) :
    Regular arming (later ++ [step]) next := by
  obtain ⟨running, unspent, rfl⟩ := (h.armed timer).1 before
  have hfirings := firings_snoc_of_fired later taken rfl
  have hreadings : readings arming.id (later ++ [step]) = readings arming.id later ++ [now] := by
    simp [readings, hfirings]
  have running' : ¬ arming.Disarmed (later ++ [step]) := by
    rw [disarmed_snoc, undisturbed]
    exact fun disarmed => disarmed.elim running Bool.false_ne_true
  have latest : arming.latest (later ++ [step]) = now := by
    simp [Arming.latest, hreadings]
  refine ⟨fun other => ?_, ?_, ?_, fun mode => ?_⟩
  · rw [after, latest]
    cases mode : arming.timer.mode with
    | oneShot =>
        have again : (arming.at (arming.latest later)).again? now = none := by
          simp [ArmedTimer.again?, Arming.at, mode]
        have spent : arming.Spent (later ++ [step]) := ⟨mode, by simp [hfirings]⟩
        simp [again, spent]
    | repeating =>
        have again : (arming.at (arming.latest later)).again? now = some (arming.at now) := by
          simp [ArmedTimer.again?, ArmedTimer.rearm, Arming.at, mode]
        have unspent' : ¬ arming.Spent (later ++ [step]) := by simp [Arming.Spent, mode]
        simp [again, running', unspent', eq_comm]
  · intro firing hmem
    rw [hfirings] at hmem
    rcases List.mem_append.1 hmem with hmem | hmem
    · exact h.heard firing hmem
    · rw [List.mem_singleton.1 hmem]
      rfl
  · rw [hreadings, ← List.cons_append]
    refine h.spaced.append (List.isChain_singleton _) ?_
    intro earlier hearlier reading hreading
    have hearlier' : earlier = arming.latest later := by
      simpa [List.getLast?_cons, Arming.latest, eq_comm] using hearlier
    have hreading' : reading = now := by simpa [eq_comm] using hreading
    rw [hearlier', hreading']
    exact due
  · have first : firings arming.id later = [] := by
      by_contra fired
      exact unspent ⟨mode, fired⟩
    simp [hfirings, first]

/-- A step that leaves a timer alone, or disarms it. -/
theorem Regular.keep {arming : Arming} (h : Regular arming later traffic)
    (unfired : ∀ firing, firing? step = some firing -> firing.id ≠ arming.id)
    (after : ∀ timer, next.loop.timers.armed? arming.id = some timer ↔
      traffic.loop.timers.armed? arming.id = some timer ∧
        disarms step timer.owner arming.id = false) :
    Regular arming (later ++ [step]) next := by
  have hfirings := firings_snoc_of_unfired later unfired
  have hreadings : readings arming.id (later ++ [step]) = readings arming.id later := by
    rw [readings, hfirings, readings]
  have latest : arming.latest (later ++ [step]) = arming.latest later := by
    rw [Arming.latest, hreadings, Arming.latest]
  refine ⟨fun timer => ?_, ?_, ?_, ?_⟩
  · have spent : arming.Spent (later ++ [step]) ↔ arming.Spent later := by
      rw [Arming.Spent, hfirings, Arming.Spent]
    rw [after, h.armed, disarmed_snoc, latest, spent, not_or, Bool.not_eq_true]
    constructor
    · rintro ⟨⟨running, unspent, rfl⟩, undisturbed⟩
      exact ⟨⟨running, undisturbed⟩, unspent, rfl⟩
    · rintro ⟨⟨running, undisturbed⟩, unspent, rfl⟩
      exact ⟨⟨running, unspent, rfl⟩, undisturbed⟩
  · rw [hfirings]
    exact h.heard
  · rw [hreadings]
    exact h.spaced
  · rw [hfirings]
    exact h.once

/-- Wherever a run has come to after a timer was armed, the timer is where its history says. -/
theorem Reaches.regular {arming : Arming} (reaches : Reaches first later last)
    (sound : first.Sound) (indexed : first.loop.timers.Indexed)
    (issued : arming.id.value <= first.loop.timers.issued)
    (armed : first.loop.timers.armed? arming.id = some (arming.at arming.now)) :
    Regular arming later last := by
  induction reaches with
  | refl =>
      have running : ¬ arming.Disarmed ([] : List (Move ε × Answer ε)) := by
        rintro ⟨step, hmem, -⟩
        exact List.not_mem_nil hmem
      have unspent : ¬ arming.Spent ([] : List (Move ε × Answer ε)) := fun spent => spent.2 rfl
      refine ⟨fun timer => ?_, nofun, List.isChain_singleton _, fun _ => Nat.zero_le _⟩
      rw [armed, Option.some.injEq]
      exact ⟨fun same => ⟨running, unspent, same.symm⟩, fun all => all.2.2.symm⟩
  | @snoc middle next later move answer reaches made ih =>
      have issued := Nat.le_trans issued reaches.issued_le
      have step := step_of_move? made
      cases step.handles (reaches.sound sound) (reaches.indexed indexed) arming.id with
      | arms made same new after => omega
      | fires taken undisturbed before due after => exact ih.fire taken undisturbed before due after
      | keeps unissued unfired after => exact ih.keep unfired after

/-- The step that arms a timer leaves it armed, under an identifier that is used up by then. -/
theorem Runs.armed_by_step (runs : Runs past traffic) (made : traffic.move? move = some (answer, next))
    (armed : arming? (move, answer) = some arming) :
    arming.id.value <= next.loop.timers.issued ∧
      next.loop.timers.armed? arming.id = some (arming.at arming.now) := by
  have step := step_of_move? made
  have issued := step.issued_eq
  rw [armed, Option.isSome_some, if_pos rfl] at issued
  cases step.handles runs.sound runs.indexed arming.id with
  | @arms arming' made' same new harmed =>
      obtain rfl : arming = arming' := Option.some.inj (armed.symm.trans made')
      have bound : arming.id.value <= next.loop.timers.issued := by omega
      exact ⟨bound, harmed⟩
  | fires taken =>
      rw [arming?_of_fired taken] at armed
      cases armed
  | keeps unissued => exact absurd rfl (unissued arming armed)

/-! ## The end of a timer -/

/-- A worker is leaving or gone when it has said farewell, and not before. -/
theorem Reaches.isOver_iff (reaches : Reaches first later last)
    (on : first.eventLoop.phase.isOver = false) :
    last.eventLoop.phase.isOver = true ↔ ∃ step ∈ later, (farewell step.2).isSome = true := by
  induction reaches with
  | refl => simp [on]
  | @snoc middle next later move answer reaches made ih =>
      rw [exists_mem_snoc, ← ih]
      cases (step_of_move? made).passage with
      | on before after silent => simp [before, after, silent]
      | leaves before said all after => simp [after, said, WorkerPhase.isOver]
      | stays isOver same silent => simp [isOver, same, silent]
      | exits made' before after silent => simp [before, after, silent, WorkerPhase.isOver]

/-- A loop that has a timer armed has a worker that goes on. -/
theorem Runs.on_of_armed (runs : Runs past traffic) {timer : ArmedTimer HandlerId}
    (harmed : timer ∈ traffic.loop.timers.agenda) : traffic.eventLoop.phase.isOver = false := by
  rw [← Bool.not_eq_true]
  intro isOver
  rw [(runs.finished isOver).agenda] at harmed
  exact List.not_mem_nil harmed

namespace Arming

variable (arming : Arming) (later : List (Move ε × Answer ε))

/-- The handler that armed the timer has called for it to be stopped. -/
def Stopped : Prop :=
  ∃ step ∈ later, stops? step = some (arming.timer.owner, arming.id)

variable {arming later}

theorem disarmed_iff (reaches : Reaches first later last)
    (on : first.eventLoop.phase.isOver = false) :
    arming.Disarmed later ↔ arming.Stopped later ∨ IsRemoved later arming.timer.owner ∨
      last.eventLoop.phase.isOver = true := by
  rw [reaches.isOver_iff on]
  simp only [Disarmed, Stopped, IsRemoved, disarms, Bool.or_eq_true, decide_eq_true_eq, and_or_left,
    exists_or, or_assoc]

end Arming

/-! ## The law -/

/-- What a timer does in all that follows after it was armed. -/
structure Punctual (arming : Arming) (later : List (Move ε × Answer ε)) (last : Traffic ε) :
    Prop where
  /-- Every firing goes to the handler that armed the timer. -/
  heard : ∀ step ∈ later, ∀ firing, firing? step = some firing -> firing.id = arming.id ->
    firing.handler = arming.timer.owner
  /-- From the arming on, no firing comes before the interval has passed since the last. -/
  spaced : (arming.now :: readings arming.id later).IsChain fun earlier reading =>
    ∀ due, earlier.add? arming.timer.interval = some due -> due <= reading
  /-- Where the clock ends before the interval does, the deadline is the clamped one. -/
  clamped : (arming.now :: readings arming.id later).IsChain fun earlier reading =>
    earlier.deadlineAfter arming.timer.interval <= reading
  once : arming.timer.mode = .oneShot -> (readings arming.id later).length <= 1
  spent : arming.timer.mode = .oneShot -> readings arming.id later ≠ [] ->
    ∀ timer ∈ last.loop.timers.agenda, timer.id ≠ arming.id
  /-- A repeating timer is armed until it is stopped, its handler removed, or the worker is
  leaving, with a deadline that is counted from its last firing. -/
  repeats : arming.timer.mode = .repeating ->
    ((∃ timer ∈ last.loop.timers.agenda, timer.id = arming.id) ↔
      ¬ arming.Stopped later ∧ ¬ IsRemoved later arming.timer.owner ∧
        last.eventLoop.phase.isOver = false)
  same : ∀ timer ∈ last.loop.timers.agenda, timer.id = arming.id ->
    timer = arming.at (arming.latest later)
  /-- The worker does not leave before the loop is told to quit. -/
  untold : last.loop.quit = false -> last.eventLoop.phase.isOver = false

theorem timer_fires_on_time (runs : Runs (front ++ step :: later) last)
    (armed : arming? step = some arming) : Punctual arming later last := by
  obtain ⟨move, answer⟩ := step
  obtain ⟨before, hbefore, rest⟩ := runs.split
  obtain ⟨after, made, reaches⟩ := rest.head
  have hafter := hbefore.snoc made
  obtain ⟨issued, harmed⟩ := hbefore.armed_by_step made armed
  have regular := reaches.regular hafter.sound hafter.indexed issued harmed
  have on : after.eventLoop.phase.isOver = false :=
    hafter.on_of_armed (TimerSet.mem_of_armed?_eq_some harmed).1
  have agenda : ∀ timer, timer ∈ last.loop.timers.agenda ∧ timer.id = arming.id ↔
      ¬ arming.Disarmed later ∧ ¬ arming.Spent later ∧
        timer = arming.at (arming.latest later) := by
    intro timer
    rw [← runs.indexed.armed?_eq_some_iff, regular.armed]
  refine ⟨?_, ?_, regular.spaced, ?_, ?_, ?_, ?_, ?_⟩
  · intro step hmem firing fired same
    apply regular.heard
    simp only [firings, List.mem_filter, List.mem_filterMap, decide_eq_true_eq]
    exact ⟨⟨step, hmem, fired⟩, same⟩
  · refine regular.spaced.imp fun earlier reading clamped due hdue => ?_
    rwa [Instant.deadlineAfter_of_some hdue] at clamped
  · intro mode
    rw [readings, List.length_map]
    exact regular.once mode
  · intro mode fired timer hmem same
    have unspent := ((agenda timer).1 ⟨hmem, same⟩).2.1
    exact unspent ⟨mode, fun silent => fired (by rw [readings, silent, List.map_nil])⟩
  · intro mode
    have unspent : ¬ arming.Spent later := by
      rintro ⟨oneShot, -⟩
      rw [mode] at oneShot
      cases oneShot
    have running : ¬ arming.Disarmed later ↔ ¬ arming.Stopped later ∧
        ¬ IsRemoved later arming.timer.owner ∧ last.eventLoop.phase.isOver = false := by
      rw [Arming.disarmed_iff reaches on, not_or, not_or, Bool.not_eq_true]
    rw [← running]
    constructor
    · rintro ⟨timer, hmem, same⟩
      exact ((agenda timer).1 ⟨hmem, same⟩).1
    · intro undisturbed
      exact ⟨_, (agenda _).2 ⟨undisturbed, unspent, rfl⟩⟩
  · intro timer hmem same
    exact ((agenda timer).1 ⟨hmem, same⟩).2.2
  · intro untold
    rw [← Bool.not_eq_true]
    intro isOver
    exact Bool.false_ne_true (untold.symm.trans (runs.finished isOver).told)

/-- A timer that repeats every nanosecond fires late, and does not fire for the ticks that
have gone by in the meantime. -/
theorem late_timer_fires_once :
    ∃ (front later : List (Move Nat × Answer Nat)) (step : Move Nat × Answer Nat)
      (last : Traffic Nat) (arming : Arming),
      Runs (front ++ step :: later) last ∧ arming? step = some arming ∧ arming.id = ⟨1⟩ ∧
      readings ⟨1⟩ later = [⟨5, by decide⟩, ⟨9, by decide⟩] ∧ Punctual arming later last := by
  obtain ⟨past, before, answer, after, later, last, runs, made, reaches, hseen⟩ :=
    exists_run_through "worker" none [.bind ⟨0⟩ .alive]
      (.call (.thread ⟨1⟩) .first (.addTimer (ε := Nat) ⟨0⟩ ⟨1, by decide⟩ .repeating))
      [.round ⟨5, by decide⟩, .endCallback none, .round ⟨9, by decide⟩, .endCallback none,
        .round ⟨9, by decide⟩] rfl
      (f := fun _ answer later => ((arming? (.call (.thread ⟨1⟩) .first
        (.addTimer ⟨0⟩ ⟨1, by decide⟩ .repeating), answer)).map (·.id), readings ⟨1⟩ later))
      (b := (some ⟨1⟩, [⟨5, by decide⟩, ⟨9, by decide⟩])) (by decide +kernel)
  obtain ⟨hid, hreadings⟩ := Prod.mk.inj hseen
  obtain ⟨arming, armed, hid⟩ := Option.map_eq_some_iff.1 hid
  have all := runs.through made reaches
  exact ⟨past, later, _, last, arming, all, armed, hid, hreadings, timer_fires_on_time all armed⟩

end Traffic

end Reactor
