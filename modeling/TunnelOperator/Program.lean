import Mathlib.Data.List.Basic

/-!
# Interaction programs

A program over a signature of operations either returns a value or performs one
operation and continues with its answer. The answers come from outside, so a
program fixes the order of its calls and what it does with their answers, and
nothing else. `Uses` bounds the operations a program can perform, and `run`
executes a program without interference, the choice sequence deciding what the
environment answers. `Traces` is the logic of a program alone: it bounds each
operation by the calls made before it, for all answers, and says what is known of
the result and the calls when the program returns.
-/

namespace Interaction

variable {Op : Type} {Ans : Op → Type} {α β γ : Type} {op : Op}

inductive Program (Ans : Op → Type) (α : Type) : Type where
  | pure (a : α)
  | call (op : Op) (next : Ans op → Program Ans α)

/-- A performed operation together with the answer it received. -/
structure Call (Ans : Op → Type) where
  op : Op
  ans : Ans op

namespace Program

def bind : Program Ans α → (α → Program Ans β) → Program Ans β
  | .pure a, f => f a
  | .call op next, f => .call op fun a => (next a).bind f

def perform (op : Op) : Program Ans (Ans op) := .call op .pure

instance : Monad (Program Ans) where
  pure := .pure
  bind := bind

@[simp] theorem pure_bind (a : α) (f : α → Program Ans β) : (pure a : Program Ans α).bind f = f a :=
  rfl

/-- Every operation the program can perform, whatever the answers, lies in `C`. -/
def Uses (C : Op → Prop) : Program Ans α → Prop
  | .pure _ => True
  | .call op next => C op ∧ ∀ a, (next a).Uses C

@[simp] theorem uses_pure (C : Op → Prop) (a : α) : (pure a : Program Ans α).Uses C := trivial

theorem uses_perform {C : Op → Prop} {op : Op} (h : C op) :
    (perform op : Program Ans (Ans op)).Uses C :=
  ⟨h, fun _ => trivial⟩

theorem uses_bind {C : Op → Prop} {p : Program Ans α} {f : α → Program Ans β}
    (hp : p.Uses C) (hf : ∀ a, (f a).Uses C) : (p.bind f).Uses C := by
  induction p with
  | pure a => exact hf a
  | call op next ih => exact ⟨hp.1, fun a => ih a (hp.2 a)⟩

theorem Uses.mono {C C' : Op → Prop} (h : ∀ op, C op → C' op) {p : Program Ans α} (hp : p.Uses C) :
    p.Uses C' := by
  induction p with
  | pure a => trivial
  | call op next ih => exact ⟨h op hp.1, fun a => ih a (hp.2 a)⟩

section Traces

variable {P : List (Call Ans) → Op → Prop}

def Traces (P : List (Call Ans) → Op → Prop) (post : α → List (Call Ans) → Prop) :
    Program Ans α → List (Call Ans) → Prop
  | .pure a, tr => post a tr
  | .call op next, tr => P tr op ∧ ∀ a, (next a).Traces P post (tr ++ [⟨op, a⟩])

theorem Traces.mono {post post' : α → List (Call Ans) → Prop} (h : ∀ a tr, post a tr → post' a tr)
    {p : Program Ans α} {tr : List (Call Ans)} (hp : p.Traces P post tr) : p.Traces P post' tr := by
  induction p generalizing tr with
  | pure a => exact h a tr hp
  | call op next ih => exact ⟨hp.1, fun a => ih a (hp.2 a)⟩

theorem Traces.imp {Q : List (Call Ans) → Op → Prop} {post : α → List (Call Ans) → Prop}
    (h : ∀ tr op, P tr op → Q tr op) {p : Program Ans α} {tr : List (Call Ans)}
    (hp : p.Traces P post tr) : p.Traces Q post tr := by
  induction p generalizing tr with
  | pure a => exact hp
  | call op next ih => exact ⟨h tr op hp.1, fun a => ih a (hp.2 a)⟩

theorem Traces.seq {mid : α → List (Call Ans) → Prop} {post : β → List (Call Ans) → Prop}
    {p : Program Ans α} {f : α → Program Ans β} {tr : List (Call Ans)}
    (hp : p.Traces P mid tr) (hf : ∀ a tr, mid a tr → (f a).Traces P post tr) :
    (p.bind f).Traces P post tr := by
  induction p generalizing tr with
  | pure a => exact hf a tr hp
  | call op next ih => exact ⟨hp.1, fun a => ih a (hp.2 a)⟩

/-- Calls already made stay in the trace, so an assertion that only asks for calls to have
been made may be assumed of every later point of the program. -/
theorem Traces.extend {post : α → List (Call Ans) → Prop} {p : Program Ans α}
    {tr : List (Call Ans)} (hp : p.Traces P post tr) :
    p.Traces P (fun a tr' => post a tr' ∧ tr ⊆ tr') tr := by
  induction p generalizing tr with
  | pure a => exact ⟨hp, List.Subset.refl _⟩
  | call op next ih =>
      refine ⟨hp.1, fun a => (ih a (hp.2 a)).mono fun b tr' h => ⟨h.1, ?_⟩⟩
      exact fun x hx => h.2 (List.mem_append_left _ hx)

theorem Traces.and {Q : List (Call Ans) → Op → Prop} {post post' : α → List (Call Ans) → Prop}
    {p : Program Ans α} {tr : List (Call Ans)} (hp : p.Traces P post tr)
    (hq : p.Traces Q post' tr) :
    p.Traces (fun tr op => P tr op ∧ Q tr op) (fun a tr => post a tr ∧ post' a tr) tr := by
  induction p generalizing tr with
  | pure a => exact ⟨hp, hq⟩
  | call op next ih => exact ⟨⟨hp.1, hq.1⟩, fun a => ih a (hp.2 a) (hq.2 a)⟩

/-- A property of traces that every admitted operation keeps. -/
theorem Traces.keep {I : List (Call Ans) → Prop} {post : α → List (Call Ans) → Prop}
    (hI : ∀ tr op, P tr op → I tr → ∀ a, I (tr ++ [⟨op, a⟩])) {p : Program Ans α}
    {tr : List (Call Ans)} (hp : p.Traces P post tr) (h : I tr) :
    p.Traces (fun tr op => P tr op ∧ I tr) (fun a tr => post a tr ∧ I tr) tr := by
  induction p generalizing tr with
  | pure a => exact ⟨hp, h⟩
  | call op next ih => exact ⟨⟨hp.1, h⟩, fun a => ih a (hp.2 a) (hI tr op hp.1 h a)⟩

/-- A property of traces that every operation of a class keeps. -/
theorem Uses.traces {C : Op → Prop} {I : List (Call Ans) → Prop}
    (hC : ∀ tr op, I tr → C op → P tr op ∧ ∀ a, I (tr ++ [⟨op, a⟩])) {p : Program Ans α}
    (hp : p.Uses C) {tr : List (Call Ans)} (hI : I tr) : p.Traces P (fun _ tr' => I tr') tr := by
  induction p generalizing tr with
  | pure a => exact hI
  | call op next ih =>
      obtain ⟨hP, hI'⟩ := hC tr op hI hp.1
      exact ⟨hP, fun a => ih a (hp.2 a) (hI' a)⟩

end Traces

section Run

variable {σ χ : Type} (exec : (op : Op) → χ → σ → Ans op × σ)

def run : Program Ans α → (ℕ → χ) → List (Call Ans) → σ → α × List (Call Ans) × σ
  | .pure a, _, tr, s => (a, tr, s)
  | .call op next, c, tr, s =>
      (next (exec op (c 0) s).1).run (fun n => c (n + 1)) (tr ++ [⟨op, (exec op (c 0) s).1⟩])
        (exec op (c 0) s).2

theorem Traces.run {P : List (Call Ans) → Op → Prop} {post : α → List (Call Ans) → Prop}
    {p : Program Ans α} {tr : List (Call Ans)} (hp : p.Traces P post tr) (c : ℕ → χ) (s : σ) :
    post (p.run exec c tr s).1 (p.run exec c tr s).2.1 := by
  induction p generalizing tr c s with
  | pure a => exact hp
  | call op next ih => exact ih _ (hp.2 _) _ _

end Run

end Program
end Interaction
