import Reactor.Proofs.Traffic.Sound

/-!
# What a removal achieves

Once the removal of a handler has begun, its loop has no work for it and accepts
none.  This is so in every later state of every run, because no step takes a
handler back in its life and only active handlers have work.  A callback that
was running when the removal began is the last one, and a remover that waits
goes on after its end.
-/

namespace Reactor

namespace Loop

variable {ε : Type} {loop after : Loop ε} {handler : HandlerId}

/-- The removal of a handler has begun. -/
def Closed (loop : Loop ε) (handler : HandlerId) : Prop :=
  (loop.stateOf handler).acceptsWork = false

theorem Closed.ne_active (h : loop.Closed handler) : loop.stateOf handler ≠ .active := by
  intro hactive
  rw [Closed, hactive] at h
  exact nomatch h

theorem Closed.not_accepts (h : loop.Closed handler) : loop.accepts handler = false := by
  rw [← Bool.not_eq_true, accepts_iff]
  rintro ⟨-, hwork⟩
  exact Bool.false_ne_true (h.symm.trans hwork)

theorem Closed.advances (h : loop.Closed handler) (advances : loop.Advances after) :
    after.Closed handler := by
  rw [Closed, ← Bool.not_eq_true, HandlerState.acceptsWork_iff] at h ⊢
  exact fun hrank => h (Nat.le_trans (advances handler) hrank)

theorem closed_beginRemoval (loop : Loop ε) (handler : HandlerId) (remover : Remover) :
    (loop.beginRemoval handler remover).2.Closed handler := by
  rw [Closed, stateOf_beginRemoval, if_pos rfl]
  split <;> rfl

theorem removed_beginRemoval (remover : Remover) (unmarked : loop.marks handler = false) :
    (loop.beginRemoval handler remover).2.stateOf handler = .removed := by
  rw [stateOf_beginRemoval, if_pos rfl, if_neg]
  rintro ⟨-, hmarks⟩
  exact Bool.false_ne_true (unmarked.symm.trans hmarks)

theorem removed_of_not_waiting {thread : ThreadId}
    (h : (loop.beginRemoval handler (.thread thread)).1.any (·.waiting) = false) :
    (loop.beginRemoval handler (.thread thread)).2.stateOf handler = .removed := by
  cases hremoval : (loop.beginRemoval handler (.thread thread)).1 with
  | some removal =>
      have hwaiting := waiting_beginRemoval _ hremoval
      rw [hremoval, Option.any_some, hwaiting] at h
      exact removed_beginRemoval _ (by simpa [detained] using h)
  | none =>
      by_cases hremoved : loop.stateOf handler = .removed
      · rw [beginRemoval_of_removed _ hremoved]
        exact hremoved
      · rw [beginRemoval_eq _ hremoved] at hremoval
        cases hremoval

/-- Where no work is left for a handler, none of its timers can be disarmed. -/
theorem Clear.stopTimer (h : loop.Clear handler) (id : TimerId) :
    loop.stopTimer handler id = (false, loop) := by
  unfold Loop.stopTimer
  rw [if_neg]
  intro howner
  obtain ⟨timer, hmem, same⟩ := TimerSet.exists_mem_of_owner? howner
  exact h.timers timer hmem same

theorem Closed.stopAddTimer (h : loop.Closed handler) (clear : loop.Clear handler)
    (old : TimerId) (now : Instant) (interval : Duration) (mode : TimerMode) :
    loop.stopAddTimer handler old now interval mode = (false, none, loop) := by
  unfold Loop.stopAddTimer
  rw [clear.stopTimer]
  simp only [addTimer_of_not_accepts _ _ _ _ _ h.not_accepts]

/-- Where no work is left for a handler, a removal takes nothing back. -/
theorem Clear.beginRemoval (h : loop.Clear handler) (remover : Remover) :
    (∀ removal, (loop.beginRemoval handler remover).1 = some removal ->
      removal.purged = [] ∧ removal.disarmed = 0) ∧
    (loop.beginRemoval handler remover).2.queue = loop.queue ∧
    (loop.beginRemoval handler remover).2.timers.agenda = loop.timers.agenda := by
  by_cases hremoved : loop.stateOf handler = .removed
  · rw [beginRemoval_of_removed _ hremoved]
    exact ⟨fun _ hnone => (nomatch hnone), rfl, rfl⟩
  rw [beginRemoval_eq _ hremoved]
  have hpurged : (loop.queue.filter fun entry => entry.handler = handler) = [] := by
    rw [List.filter_eq_nil_iff]
    intro entry hmem
    simpa using h.queue entry hmem
  have hdisarmed : (loop.timers.agenda.filter fun timer => timer.owner = handler) = [] := by
    rw [List.filter_eq_nil_iff]
    intro timer hmem
    simpa using h.timers timer hmem
  refine ⟨?_, ?_, ?_⟩
  · intro removal hremoval
    cases hremoval
    exact ⟨hpurged, congrArg List.length hdisarmed⟩
  · exact List.filter_eq_self.2 fun entry hmem => by simpa using h.queue entry hmem
  · exact List.filter_eq_self.2 fun timer hmem => by simpa using h.timers timer hmem

/-- The end of any callback completes every removal that has begun. -/
theorem Closed.endDelivery (h : loop.Closed handler) (consistent : loop.Consistent)
    {marked : HandlerId} (hmark : loop.marks marked = true) :
    (loop.endDelivery marked).2.stateOf handler = .removed := by
  rw [stateOf_endDelivery]
  cases hs : loop.stateOf handler with
  | constructed => rw [Closed, hs] at h; exact nomatch h
  | active => exact absurd hs h.ne_active
  | removing =>
      have same := marks_unique (consistent.removing handler hs) hmark
      rw [if_pos same, ← same, hs]
      rfl
  | removed =>
      split
      · next same => rw [← same, hs]; rfl
      · rfl

end Loop

namespace Traffic

variable {ε : Type} {traffic next first before after last : Traffic ε}
  {past later : List (Move ε × Answer ε)} {move : Move ε} {answer : Answer ε}
  {handler : HandlerId}

/-- Nothing happens for a handler any more, apart from a callback that is running. -/
structure Spent (traffic : Traffic ε) (handler : HandlerId) : Prop where
  clear : traffic.loop.Clear handler
  silent : ∀ move delivery next,
    traffic.move? move ≠ some (.round (.deliver handler delivery), next)
  sends : ∀ caller now event answer next,
    traffic.move? (.call caller now (.send handler event)) = some (answer, next) ->
      answer = .sent false ∧ next = traffic
  arms : ∀ caller now interval mode answer next,
    traffic.move? (.call caller now (.addTimer handler interval mode)) = some (answer, next) ->
      answer = .armed none ∧ next = traffic
  rearms : ∀ caller now old interval mode answer next,
    traffic.move? (.call caller now (.stopAddTimer handler old interval mode)) =
        some (answer, next) ->
      answer = .replaced false none ∧ next = traffic
  /-- Another removal of the handler finds no work to take back. -/
  removes : ∀ caller now answer next,
    traffic.move? (.call caller now (.remove handler)) = some (answer, next) ->
      (∃ removal, answer = .removed removal ∧
        ∀ taken, removal = some taken -> taken.purged = [] ∧ taken.disarmed = 0) ∧
      next.loop.queue = traffic.loop.queue ∧
      next.loop.timers.agenda = traffic.loop.timers.agenda

theorem Sound.spent (h : traffic.Sound) (closed : traffic.loop.Closed handler) :
    traffic.Spent handler where
  clear := h.loop.clear closed.ne_active
  silent move delivery next made := by
    cases step_of_move? made with
    | fire choosing untold due =>
        obtain ⟨timer, hmem, rfl⟩ := TimerSet.exists_mem_of_popExpired due
        exact closed.ne_active (h.loop.armed timer hmem)
    | @deliver now entry queue choosing untold undue oldest =>
        have queued : entry ∈ traffic.loop.queue := oldest ▸ .head _
        exact closed.ne_active (h.loop.queued entry queued)
  sends caller now event answer next made := by
    cases step_of_move? made with
    | send able known =>
        rw [Loop.send_of_not_accepts _ _ _ closed.not_accepts]
        exact ⟨rfl, rfl⟩
  arms caller now interval mode answer next made := by
    cases step_of_move? made with
    | addTimer able known =>
        rw [Loop.addTimer_of_not_accepts _ _ _ _ _ closed.not_accepts]
        exact ⟨rfl, rfl⟩
  rearms caller now old interval mode answer next made := by
    cases step_of_move? made with
    | stopAddTimer able known =>
        rw [closed.stopAddTimer (h.loop.clear closed.ne_active)]
        exact ⟨rfl, rfl⟩
  removes caller now answer next made := by
    have nothing := (h.loop.clear closed.ne_active).beginRemoval
    cases step_of_move? made with
    | remove => exact ⟨⟨_, rfl, (nothing _).1⟩, (nothing _).2⟩
    | removeBlocked => exact ⟨⟨_, rfl, (nothing _).1⟩, (nothing _).2⟩

theorem Reaches.spent (reaches : Reaches after later last) (sound : after.Sound)
    (closed : after.loop.Closed handler) : last.Spent handler :=
  (reaches.sound sound).spent (closed.advances (reaches.advances sound))

/-- A step of a run, with the states before and after it. -/
theorem Reaches.exists_step (reaches : Reaches first later last)
    (hmem : (move, answer) ∈ later) (sound : first.Sound) :
    ∃ traffic next : Traffic ε, traffic.Sound ∧ first.loop.Advances traffic.loop ∧
      traffic.move? move = some (answer, next) ∧ next.loop.Advances last.loop := by
  obtain ⟨front, back, rfl⟩ := List.append_of_mem hmem
  obtain ⟨traffic, hfront, hback⟩ := reaches.split
  obtain ⟨next, made, hrest⟩ := hback.head
  have hsound := hfront.sound sound
  exact ⟨traffic, next, hsound, hfront.advances sound, made,
    hrest.advances (hsound.step (step_of_move? made))⟩

theorem removed_of_endCallback (h : traffic.Sound) (closed : traffic.loop.Closed handler)
    {failure : Option String} (made : traffic.move? (.endCallback failure) = some (answer, next)) :
    next.loop.stateOf handler = .removed := by
  cases step_of_move? made with
  | endCallback calls => exact closed.endDelivery h.loop ((h.marked _).1 calls)
  | failCallback calls => exact closed.endDelivery h.loop ((h.marked _).1 calls)

theorem removed_of_resume (h : traffic.Sound) {thread : ThreadId}
    (made : traffic.move? (.resume thread handler) = some (answer, next)) :
    next.loop.stateOf handler = .removed := by
  cases step_of_move? made with
  | resume told => exact h.notified _ told
  | resumeLost waits lost => exact absurd (h.mem_waiters_of_mem_blocked waits) lost

/-- The call of a remover has returned: at once, or when it goes on after having waited. -/
def Returned (caller : Remover) (handler : HandlerId) (removal : Option (Removal ε))
    (later : List (Move ε × Answer ε)) : Prop :=
  ∀ thread, caller = .thread thread -> removal.any (·.waiting) = true ->
    ∃ answer, (.resume thread handler, answer) ∈ later

/-- What a call that removes a handler leaves behind, in every state that follows it. -/
theorem removal_is_complete {caller : Remover} {now : Instant} {removal : Option (Removal ε)}
    (runs : Runs past before)
    (call : before.move? (.call caller now (.remove handler)) = some (.removed removal, after))
    (reaches : Reaches after later last) :
    -- There is no work for the handler, and there will be none.
    last.Spent handler ∧
    -- No delivery for the handler has started since the call.
    (∀ step ∈ later, ∀ delivery, step.2 ≠ .round (.deliver handler delivery)) ∧
    -- No handler is at an earlier point of its life than before the call.
    before.loop.Advances last.loop ∧
    -- When the call has returned, unless it came from inside the callback of the handler,
    -- this callback does not run.
    (¬ (caller = .worker ∧ before.eventLoop.phase = .calling handler) ->
      Returned caller handler removal later ->
        last.loop.stateOf handler = .removed ∧ last.eventLoop.phase ≠ .calling handler) ∧
    -- A callback that ran at the call, the caller's own or not, has ended for good when it ends.
    ((∃ failure answer, (.endCallback failure, answer) ∈ later) ->
      last.loop.stateOf handler = .removed ∧ last.eventLoop.phase ≠ .calling handler) := by
  have step := step_of_move? call
  have sound := runs.sound.step step
  have closed : after.loop.Closed handler := by
    cases step with
    | remove => exact Loop.closed_beginRemoval _ _ _
    | removeBlocked => exact Loop.closed_beginRemoval _ _ _
  have gone : ∀ {traffic : Traffic ε}, traffic.loop.stateOf handler = .removed ->
      traffic.loop.Advances last.loop ->
        last.loop.stateOf handler = .removed ∧ last.eventLoop.phase ≠ .calling handler := by
    intro traffic hremoved advances
    have hlast := advances.removed hremoved
    exact ⟨hlast, (reaches.sound sound).not_calling_of_removed hlast⟩
  refine ⟨reaches.spent sound closed, ?_, (step.advances runs.sound).trans (reaches.advances sound),
    ?_, ?_⟩
  · rintro ⟨move, answer⟩ hmem delivery rfl
    obtain ⟨traffic, next, hsound, advances, made, -⟩ := reaches.exists_step hmem sound
    exact (hsound.spent (closed.advances advances)).silent move delivery next made
  · intro outside returned
    have advances := reaches.advances sound
    cases step with
    | remove able known free =>
        cases caller with
        | worker =>
            have unmarked : before.loop.marks handler = false := by
              rw [← Bool.not_eq_true, ← runs.sound.marked]
              exact fun calls => outside ⟨rfl, calls⟩
            exact gone (Loop.removed_beginRemoval _ unmarked) advances
        | thread id => exact gone (Loop.removed_of_not_waiting (free id rfl)) advances
    | removeBlocked known held =>
        obtain ⟨answer, hmem⟩ := returned _ rfl held
        obtain ⟨traffic, next, hsound, -, made, rest⟩ := reaches.exists_step hmem sound
        have hremoved := removed_of_resume hsound made
        exact gone hremoved rest
  · rintro ⟨failure, answer, hmem⟩
    obtain ⟨traffic, next, hsound, advances, made, rest⟩ := reaches.exists_step hmem sound
    exact gone (removed_of_endCallback hsound (closed.advances advances) made) rest

/-- A thread that removes a handler while its callback runs goes on after the callback. -/
theorem removal_during_callback :
    ∃ (past later : List (Move Nat × Answer Nat)) (before after last : Traffic Nat)
      (removal : Option (Removal Nat)),
      Runs past before ∧
      before.move? (.call (.thread ⟨1⟩) .first (.remove ⟨0⟩)) = some (.removed removal, after) ∧
      Reaches after later last ∧ removal.map (·.waiting) = some true ∧
      last.loop.stateOf ⟨0⟩ = .removed ∧ last.eventLoop.phase ≠ .calling ⟨0⟩ := by
  obtain ⟨past, later, before, after, last, removal, runs, call, reaches, waits, resumed⟩ :
      ∃ (past later : List (Move Nat × Answer Nat)) (before after last : Traffic Nat)
        (removal : Option (Removal Nat)),
        Runs past before ∧
        before.move? (.call (.thread ⟨1⟩) .first (.remove ⟨0⟩)) = some (.removed removal, after) ∧
        Reaches after later last ∧ removal.map (·.waiting) = some true ∧
        (.resume ⟨1⟩ ⟨0⟩, .resumed true) ∈ later :=
    ⟨_, _, _, _, _, _, runs_of_moves? "worker" none
      [.bind ⟨0⟩ .alive, .call (.thread ⟨1⟩) .first (.send ⟨0⟩ 7), .round .first] rfl rfl, rfl,
      reaches_of_moves? [.endCallback none, .resume ⟨1⟩ ⟨0⟩] rfl, rfl, .tail _ (.head _)⟩
  refine ⟨past, later, before, after, last, removal, runs, call, reaches, waits,
    (removal_is_complete runs call reaches).2.2.2.1 (fun both => nomatch both.1) ?_⟩
  rintro thread ⟨⟩ -
  exact ⟨_, resumed⟩

end Traffic

end Reactor
