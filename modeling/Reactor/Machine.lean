/-!
# Machines

A machine is in some state and answers moves.  There may be moves that it cannot
make in a state.  What happens to a machine is a run: moves with their answers, in
the order in which they are made, whoever makes them.
-/

namespace Reactor

/-- How a machine answers a move in a state, and its next state. -/
abbrev Machine (σ μ α : Type) :=
  σ -> μ -> Option (α × σ)

namespace Machine

variable {σ μ α : Type} {machine : Machine σ μ α} {first middle last : σ}
  {past later : List (μ × α)} {move : μ} {answer : α}

/-- Moves with their answers, in order, that lead from one state to another. -/
inductive Reaches (machine : Machine σ μ α) : σ -> List (μ × α) -> σ -> Prop
  | refl (state : σ) : Reaches machine state [] state
  | snoc {first last next : σ} {past : List (μ × α)} {move : μ} {answer : α} :
      Reaches machine first past last -> machine last move = some (answer, next) ->
      Reaches machine first (past ++ [(move, answer)]) next

def run? (machine : Machine σ μ α) (state : σ) : List μ -> Option (List (μ × α) × σ)
  | [] => some ([], state)
  | move :: rest => do
      let (answer, next) ← machine state move
      let (steps, last) ← machine.run? next rest
      return ((move, answer) :: steps, last)

theorem Reaches.trans (reaches : Reaches machine first past middle)
    (more : Reaches machine middle later last) : Reaches machine first (past ++ later) last := by
  induction more with
  | refl =>
      rw [List.append_nil]
      exact reaches
  | snoc more made ih =>
      rw [← List.append_assoc]
      exact .snoc ih made

/-- What is read off a history that goes one step further. -/
theorem filterMap_snoc {β : Type} (f : μ × α -> Option β) {step : μ × α} :
    (past ++ [step]).filterMap f = past.filterMap f ++ (f step).toList := by
  rw [List.filterMap_append]
  cases h : f step <;> simp [h]

/-- A run can be cut at any step. -/
theorem Reaches.cut (reaches : Reaches machine first (past ++ (move, answer) :: later) last) :
    ∃ before after, Reaches machine first past before ∧
      machine before move = some (answer, after) ∧ Reaches machine after later last := by
  generalize hall : past ++ (move, answer) :: later = all at reaches
  induction reaches generalizing later with
  | refl => simp at hall
  | @snoc last next front move' answer' reaches made ih =>
      rcases List.eq_nil_or_concat later with rfl | ⟨back, final, rfl⟩
      · obtain ⟨rfl, hstep⟩ := List.append_inj' hall rfl
        cases hstep
        exact ⟨last, next, reaches, made, .refl next⟩
      · rw [List.concat_eq_append, ← List.cons_append, ← List.append_assoc] at hall
        obtain ⟨hfront, hstep⟩ := List.append_inj' hall rfl
        obtain ⟨before, after, hpast, hmade, hback⟩ := ih hfront
        cases hstep
        rw [List.concat_eq_append]
        exact ⟨before, after, hpast, hmade, .snoc hback made⟩

theorem reaches_of_run? (moves : List μ) (h : machine.run? first moves = some (past, last)) :
    Reaches machine first past last := by
  induction moves generalizing first past with
  | nil =>
      cases h
      exact .refl _
  | cons move rest ih =>
      simp only [run?, Option.bind_eq_bind, Option.bind_eq_some_iff] at h
      obtain ⟨⟨answer, next⟩, made, ⟨steps, last'⟩, hrest, hlast⟩ := h
      cases hlast
      exact (Reaches.snoc (.refl _) made).trans (ih hrest)

end Machine

end Reactor
