/-!
# Positional arguments

A function of `n` arguments, one after the other, and its application to `n`
values.
-/

namespace Reactor

/-- A function of `n` positional arguments. -/
def Curried (α β : Type) : Nat -> Type
  | 0 => β
  | n + 1 => α -> Curried α β n

namespace Curried

variable {α β τ : Type}

/-- Hand the values over as positional arguments. -/
def apply : {n : Nat} -> Curried α β n -> Vector α n -> β
  | 0, f, _ => f
  | _ + 1, f, args => apply (f args.head) args.tail

/-- Hand a target object over, then the values as positional arguments. -/
def applyMethod {n : Nat} (method : τ -> Curried α β n) (target : τ)
    (args : Vector α n) : β :=
  (method target).apply args

/-- The function of `n` arguments that gives all of them to `f`, in order. -/
def collect (f : List α -> β) : (n : Nat) -> Curried α β n
  | 0 => f []
  | n + 1 => fun arg => collect (fun rest => f (arg :: rest)) n

theorem apply_collect (f : List α -> β) {n : Nat} (args : Vector α n) :
    (collect f n).apply args = f args.toList := by
  induction n generalizing f with
  | zero =>
      obtain ⟨⟨l⟩, h⟩ := args
      have hl : l = [] := List.eq_nil_of_length_eq_zero h
      subst hl
      rfl
  | succ n ih =>
      obtain ⟨⟨l⟩, h⟩ := args
      cases l with
      | nil => simp at h
      | cons x l =>
          have hl : l.length = n := by simpa using h
          simp [collect, apply, ih, Vector.head, Vector.tail, ← hl]

/-- The polynomial in 31 whose coefficients are the arguments, from `start`. -/
def polynomial (start : Int64) (n : Nat) : Curried Int64 Int64 n :=
  collect (List.foldl (fun sum arg => sum * 31 + arg) start) n

def listing (start : Int64) (n : Nat) : Curried Int64 String n :=
  collect
    (fun args =>
      toString start ++ ":" ++ String.intercalate "," (args.map toString)) n

end Curried

end Reactor
