import Reactor.Proofs.Loop.Unpicked
import Reactor.Proofs.Traffic.Run

/-!
# Filters that fail

A filter is to delete the events that its predicate has picked, and no others,
also if the predicate fails before it has seen them all.  This holds of the
filters that do not fail.  The queue is taken out of the loop for the time of
the filtering, so a failure leaves an empty queue: it deletes the events that
have been spared, those that nobody has looked at, and those of other handlers.
-/

namespace Reactor

namespace Traffic

variable {ε : Type} {traffic next : Traffic ε} {answer : Answer ε} {caller : Remover}
  {now : Instant}

/-- What a filter makes of the queue. -/
structure Sifted (visit : Visit (List (QueuedEvent ε)) ε) (before after : Traffic ε)
    (answer : Answer ε) : Prop where
  /-- A filter that comes to its end has deleted the events it has picked, and no others. -/
  completed : visit.fails [] before.loop.queue = false ->
    after.loop.queue = visit.unpicked [] before.loop.queue ∧
      after.loop.queue.Sublist before.loop.queue
  /-- One that fails has deleted all, and some of them it has not picked. -/
  failed : visit.fails [] before.loop.queue = true ->
    after.loop.queue = [] ∧ visit.unpicked [] before.loop.queue ≠ []
  /-- The deleted events are handed out with the answer. -/
  gone : ∃ filtering, answer = .filtered filtering ∧
    (filtering.gone ++ after.loop.queue).Perm before.loop.queue
  rest : after = before.setLoop { before.loop with queue := after.loop.queue }

/-- Filters keep what they have not picked as long as they do not fail. -/
theorem Sifted.keeps_iff {visit : Visit (List (QueuedEvent ε)) ε} {before after : Traffic ε}
    (h : Sifted visit before after answer) :
    (visit.unpicked [] before.loop.queue).Sublist after.loop.queue ↔
      visit.fails [] before.loop.queue = false := by
  constructor
  · intro kept
    by_contra failing
    obtain ⟨empty, some_⟩ := h.failed (by simpa using failing)
    rw [empty, List.sublist_nil] at kept
    exact some_ kept
  · intro hdone
    have same := (h.completed hdone).1
    exact same ▸ List.Sublist.refl after.loop.queue

theorem sifted_filter (traffic : Traffic ε) (visit : Visit (List (QueuedEvent ε)) ε) :
    Sifted visit traffic (traffic.setLoop (traffic.loop.filter visit []).2)
      (.filtered (traffic.loop.filter visit []).1) := by
  have kept : (traffic.loop.filter visit []).2.queue =
      if visit.fails [] traffic.loop.queue then [] else visit.unpicked [] traffic.loop.queue :=
    Filtering.kept_scan visit [] [] [] traffic.loop.queue
  refine ⟨?_, ?_, ⟨_, rfl, ?_⟩, rfl⟩
  · intro hdone
    have same : (traffic.loop.filter visit []).2.queue = visit.unpicked [] traffic.loop.queue := by
      rw [kept, hdone]
      rfl
    rw [loop_setLoop, same]
    exact ⟨rfl, visit.unpicked_sublist [] traffic.loop.queue⟩
  · intro failing
    rw [loop_setLoop, kept, failing]
    exact ⟨rfl, Visit.unpicked_ne_nil_of_fails failing⟩
  · exact Filtering.gone_append_kept_perm visit [] [] [] traffic.loop.queue

/-- What the filters of a loop do: that of all events, and that of the events of one handler,
which leaves those of the others alone unless its predicate fails. -/
structure Sifts (traffic : Traffic ε) : Prop where
  all : ∀ caller now visit answer next,
    traffic.move? (.call caller now (.filter visit)) = some (answer, next) ->
    Sifted visit traffic next answer ∧
      ((visit.unpicked [] traffic.loop.queue).Sublist next.loop.queue ↔
        visit.fails [] traffic.loop.queue = false)
  own : ∀ caller now handler visit answer next,
    traffic.move? (.call caller now (.filterFor handler visit)) = some (answer, next) ->
    Sifted (visit.onlyFor handler) traffic next answer ∧
      ∀ other, other ≠ handler ->
        (next.loop.queue.filter fun entry => entry.handler = other) =
          if visit.fails [] (traffic.loop.queue.filter fun entry => entry.handler = handler) then
            []
          else
            traffic.loop.queue.filter fun entry => entry.handler = other

theorem filter_keeps_unpicked_unless_it_fails (traffic : Traffic ε) : Sifts traffic where
  all caller now visit answer next made := by
    cases step_of_move? made
    have sifted := sifted_filter traffic visit
    exact ⟨sifted, sifted.keeps_iff⟩
  own caller now handler visit answer next made := by
    cases step_of_move? made
    have sifted : Sifted (visit.onlyFor handler) traffic
        (traffic.setLoop (traffic.loop.filterFor handler visit []).2)
        (.filtered (traffic.loop.filterFor handler visit []).1) :=
      sifted_filter traffic (visit.onlyFor handler)
    refine ⟨sifted, fun other hne => ?_⟩
    rw [← Visit.fails_onlyFor]
    cases hfails : (visit.onlyFor handler).fails [] traffic.loop.queue with
    | false =>
        rw [(sifted.completed hfails).1]
        exact Visit.filter_unpicked_onlyFor hne
    | true =>
        rw [(sifted.failed hfails).1]
        rfl

/-- A handler filters its own events, its predicate fails at the first of them, and the event of
another handler, which was posted before, is gone. -/
theorem failed_filter_deletes_event_of_neighbour :
    ∃ (past : List (Move Nat × Answer Nat)) (before after : Traffic Nat)
      (visit : Visit (List (QueuedEvent Nat)) Nat) (filtering : Filtering _ Nat),
      Runs past before ∧
        before.move? (.call (.thread ⟨1⟩) .first (.filterFor ⟨0⟩ visit)) =
          some (.filtered filtering, after) ∧
        before.loop.queue = [⟨⟨1⟩, 7⟩, ⟨⟨0⟩, 8⟩] ∧
        (visit.onlyFor ⟨0⟩).unpicked [] before.loop.queue = before.loop.queue ∧
        after.loop.queue = [] ∧ filtering.gone = [⟨⟨0⟩, 8⟩, ⟨⟨1⟩, 7⟩] := by
  have runs : Runs _ _ := runs_of_moves? "worker" none
    [.bind ⟨0⟩ .alive, .bind ⟨1⟩ .alive, .call (.thread ⟨1⟩) .first (.send ⟨1⟩ (7 : Nat)),
      .call (.thread ⟨1⟩) .first (.send ⟨0⟩ 8)] rfl rfl
  exact ⟨_, _, _, fun seen entry => (none, seen ++ [entry]), _, runs, rfl, rfl, rfl, rfl, rfl⟩

end Traffic

end Reactor
