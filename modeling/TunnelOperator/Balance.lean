import Mathlib.Algebra.BigOperators.Group.List.Basic
import Mathlib.Algebra.Ring.Int.Defs
import TunnelOperator.Program

/-!
# Balanced programs

Calls that count for something, and programs that leave the count of a trace as they found it,
whatever the answers. Such programs compose, so that a program is balanced if each pair of an
operation and its opposite is.
-/

namespace Interaction

variable {Op : Type} {Ans : Op → Type} {α β : Type}

def balance (weight : Call Ans → Int) (tr : List (Call Ans)) : Int := (tr.map weight).sum

@[simp] theorem balance_concat (weight : Call Ans → Int) (tr : List (Call Ans)) (c : Call Ans) :
    balance weight (tr ++ [c]) = balance weight tr + weight c := by
  simp [balance]

namespace Program

variable {weight : Call Ans → Int}

/-- The program adds `n` to the balance. -/
def Adds (weight : Call Ans → Int) (n : α → Int) (p : Program Ans α) : Prop :=
  ∀ tr, p.Traces (fun _ _ => True) (fun a tr' => balance weight tr' = balance weight tr + n a) tr

def Balanced (weight : Call Ans → Int) (p : Program Ans α) : Prop := p.Adds weight fun _ => 0

theorem balanced_pure (a : α) : (.pure a : Program Ans α).Balanced weight :=
  fun _ => (add_zero _).symm

theorem perform_adds (op : Op) :
    (perform op : Program Ans (Ans op)).Adds weight fun a => weight ⟨op, a⟩ :=
  fun tr => ⟨trivial, fun a => balance_concat weight tr ⟨op, a⟩⟩

theorem Adds.bind {p : Program Ans α} {f : α → Program Ans β} {n : α → Int} {m : β → Int}
    (hp : p.Adds weight n) (hf : ∀ a, (f a).Adds weight fun b => m b - n a) :
    (p.bind f).Adds weight m := by
  intro tr
  refine (hp tr).seq fun a tr' h => (hf a tr').mono fun b tr'' h' => ?_
  rw [h', h, add_assoc, add_sub_cancel]

theorem Balanced.bind {p : Program Ans α} {f : α → Program Ans β} (hp : p.Balanced weight)
    (hf : ∀ a, (f a).Balanced weight) : (p.bind f).Balanced weight :=
  Adds.bind hp fun a => by
    rw [sub_zero]
    exact hf a

/-- A program of operations that count for nothing. -/
theorem Uses.balanced {C : Op → Prop} (hC : ∀ op, C op → ∀ a, weight ⟨op, a⟩ = 0)
    {p : Program Ans α} (hp : p.Uses C) : p.Balanced weight := by
  induction p with
  | pure a => exact balanced_pure a
  | call op next ih =>
      refine Adds.bind (p := perform op) (perform_adds op) fun a => ?_
      rw [hC op hp.1, sub_zero]
      exact ih a (hp.2 a)

end Program
end Interaction
