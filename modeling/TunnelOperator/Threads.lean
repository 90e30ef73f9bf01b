import Mathlib.Logic.Function.Basic
import TunnelOperator.EventRun
import TunnelOperator.Program

/-!
# Programs that share a state

Any number of programs run against one state, one operation at a time and in any order. What a
program has taken out of the shared state, or not yet put into it, is its holding: a value that
no operation reads. The invariant speaks of the state and of everybody's holdings, and `Keeps` is
the proof obligation of one program: each of its operations restores the invariant by changing
its own holding only, and gets an answer that meets the goal.
-/

namespace Interaction

variable {Op : Type} {Ans : Op → Type} {α β ρ σ χ η : Type}

structure Pool (Ans : Op → Type) (α σ : Type) where
  state : σ
  threads : List (Program Ans α)

inductive PoolEvent (ρ χ : Type) where
  | start (request : ρ)
  | call (thread : ℕ) (choice : χ)

/-- The program from its first operation to its last with nothing in between. -/
def Program.alone (exec : (op : Op) → σ → Ans op × σ) : Program Ans α → σ → α × σ
  | .pure a, s => (a, s)
  | .call op next, s => (next (exec op s).1).alone exec (exec op s).2

theorem Program.alone_bind (exec : (op : Op) → σ → Ans op × σ) (p : Program Ans α)
    (f : α → Program Ans β) (s : σ) : (p.bind f).alone exec s = (f (p.alone exec s).1).alone exec
    (p.alone exec s).2 := by
  induction p generalizing s with
  | pure a => rfl
  | call op next ih => exact ih _ _

namespace Pool

/-- A request starts its program as a new thread; `call` lets one thread perform its next
operation. -/
def step (exec : (op : Op) → χ → σ → Ans op × σ) (program : ρ → Program Ans α) :
    PoolEvent ρ χ → Pool Ans α σ → Option (Pool Ans α σ)
  | .start r, g => some { g with threads := g.threads ++ [program r] }
  | .call i c, g =>
      match g.threads[i]? with
      | some (.call op next) =>
          some ⟨(exec op c g.state).2, g.threads.set i (next (exec op c g.state).1)⟩
      | _ => none

/-- Nothing forbids a thread from running to its end at once. -/
theorem run_alone {exec : (op : Op) → χ → σ → Ans op × σ} {program : ρ → Program Ans α} (c : χ)
    {i : ℕ} {p : Program Ans α} {g : Pool Ans α σ} (hi : g.threads[i]? = some p) :
    ∃ n, runEvents (step exec program) (List.replicate n (.call i c)) g =
      some ⟨(p.alone (exec · c) g.state).2, g.threads.set i
        (.pure (p.alone (exec · c) g.state).1)⟩ := by
  induction p generalizing g with
  | pure a =>
      obtain ⟨hlt, hget⟩ := List.getElem?_eq_some_iff.mp hi
      refine ⟨0, ?_⟩
      simp only [Program.alone]
      rw [← hget, List.set_getElem_self]
      rfl
  | call op next ih =>
      have hlt : i < g.threads.length := (List.getElem?_eq_some_iff.mp hi).1
      let g₁ : Pool Ans α σ := ⟨(exec op c g.state).2, g.threads.set i (next (exec op c g.state).1)⟩
      obtain ⟨n, hn⟩ := ih _ (g := g₁) (List.getElem?_set_self hlt)
      refine ⟨n + 1, ?_⟩
      rw [List.replicate_succ, runEvents_cons]
      refine ⟨g₁, ?_, ?_⟩
      · simp only [step, hi, g₁]
      · rw [hn, List.set_set]
        rfl

def Running (g : Pool Ans α σ) (i : ℕ) : Prop := ∃ op next, g.threads[i]? = some (.call op next)

def Quiet (g : Pool Ans α σ) : Prop := ∀ i, ¬ g.Running i

end Pool

structure Sharing (Ans : Op → Type) (σ χ η : Type) where
  exec : (op : Op) → χ → σ → Ans op × σ
  inv : (ℕ → η) → σ → Prop
  goal : (op : Op) → Ans op → Prop := fun _ _ => True

def Sharing.Keeps (D : Sharing Ans σ χ η) (post : α → η → Prop) (i : ℕ) : Program Ans α → η → Prop
  | .pure a, h => post a h
  | .call op next, h => ∀ c s held, held i = h → D.inv held s → D.goal op (D.exec op c s).1 ∧
      ∃ h', D.inv (Function.update held i h') (D.exec op c s).2 ∧
        D.Keeps post i (next (D.exec op c s).1) h'

namespace Sharing

variable {D : Sharing Ans σ χ η}

variable {post : α → η → Prop} {i : ℕ}

theorem Keeps.bind {post' : β → η → Prop} {p : Program Ans α} {f : α → Program Ans β} {x : η}
    (hp : D.Keeps post i p x) (hf : ∀ a x, post a x → D.Keeps post' i (f a) x) :
    D.Keeps post' i (p.bind f) x := by
  induction p generalizing x with
  | pure a => exact hf a x hp
  | call op next ih =>
      intro c s held hx hi
      obtain ⟨hg, x', hi', hnext⟩ := hp c s held hx hi
      exact ⟨hg, x', hi', ih _ hnext⟩

/-- The rule for a single operation. -/
theorem Keeps.perform {op : Op} {x : η} {post : Ans op → η → Prop}
    (h : ∀ c s held, held i = x → D.inv held s → D.goal op (D.exec op c s).1 ∧ ∃ x',
      D.inv (Function.update held i x') (D.exec op c s).2 ∧ post (D.exec op c s).1 x') :
    D.Keeps post i (Program.perform op) x := h

/-- An operation that leaves its thread's holding alone. -/
theorem Keeps.perform_same {op : Op} {x : η} {post : Ans op → η → Prop}
    (hgoal : ∀ a, D.goal op a)
    (h : ∀ c s held, held i = x → D.inv held s → D.inv held (D.exec op c s).2 ∧
      post (D.exec op c s).1 x) :
    D.Keeps post i (Program.perform op) x := by
  refine Keeps.perform fun c s held hx hi => ⟨hgoal _, x, ?_, (h c s held hx hi).2⟩
  rw [← hx, Function.update_eq_self]
  exact (h c s held hx hi).1

/-- The invariant of a pool: everybody's holdings account for the state, every thread will go on
to restore it, and threads not yet started hold nothing. -/
structure Accounts (D : Sharing Ans σ χ η) (post : α → η → Prop) (nothing : η) (held : ℕ → η)
    (g : Pool Ans α σ) : Prop where
  balanced : D.inv held g.state
  keeps : ∀ i p, g.threads[i]? = some p → D.Keeps post i p (held i)
  unstarted : ∀ i, g.threads.length ≤ i → held i = nothing

section Runs

variable {program : ρ → Program Ans α} {nothing : η} {g g' : Pool Ans α σ} {held : ℕ → η}

theorem Accounts.start (h : D.Accounts post nothing held g) (r : ρ)
    (hr : ∀ i, D.Keeps post i (program r) nothing) :
    D.Accounts post nothing held { g with threads := g.threads ++ [program r] } where
  balanced := h.balanced
  keeps i p hp := by
    rw [List.getElem?_append] at hp
    split_ifs at hp with hlt
    · exact h.keeps i p hp
    · -- only the new thread is at or past the end
      rw [List.getElem?_singleton] at hp
      split_ifs at hp
      cases hp
      rw [h.unstarted i (by omega)]
      exact hr i
  unstarted i hi := h.unstarted i (by simp only [List.length_append] at hi; omega)

theorem Accounts.call (h : D.Accounts post nothing held g) {op : Op}
    {next : Ans op → Program Ans α} (hi : g.threads[i]? = some (.call op next)) (c : χ) :
    ∃ x, D.Accounts post nothing (Function.update held i x)
      ⟨(D.exec op c g.state).2, g.threads.set i (next (D.exec op c g.state).1)⟩ := by
  have hlt : i < g.threads.length := (List.getElem?_eq_some_iff.mp hi).1
  obtain ⟨-, x, hinv, hnext⟩ := h.keeps i _ hi c g.state held rfl h.balanced
  refine ⟨x, hinv, fun j p hp => ?_, fun j hj => ?_⟩
  · rw [List.getElem?_set] at hp
    by_cases hj : i = j
    · subst hj
      rw [if_pos rfl, if_pos hlt] at hp
      cases hp
      rw [Function.update_self]
      exact hnext
    · rw [if_neg hj] at hp
      rw [Function.update_of_ne (Ne.symm hj)]
      exact h.keeps j p hp
  · rw [List.length_set] at hj
    rw [Function.update_of_ne (by omega)]
    exact h.unstarted j hj

theorem Accounts.step (hprogram : ∀ r i, D.Keeps post i (program r) nothing)
    (h : D.Accounts post nothing held g) {e : PoolEvent ρ χ}
    (hstep : Pool.step D.exec program e g = some g') :
    ∃ held', D.Accounts post nothing held' g' := by
  cases e with
  | start r =>
      cases hstep
      exact ⟨held, h.start r (hprogram r)⟩
  | call i c =>
      simp only [Pool.step] at hstep
      rcases ht : g.threads[i]? with _ | ⟨a⟩ | ⟨op, next⟩
      · rw [ht] at hstep
        cases hstep
      · rw [ht] at hstep
        cases hstep
      · rw [ht] at hstep
        cases hstep
        obtain ⟨x, hx⟩ := h.call ht c
        exact ⟨_, hx⟩

/-- Programs that keep the invariant one by one keep it together, in every interleaving. -/
theorem accounts {s : σ} {events : List (PoolEvent ρ χ)}
    (hprogram : ∀ r i, D.Keeps post i (program r) nothing) (hs : D.inv (fun _ => nothing) s)
    (hrun : runEvents (Pool.step D.exec program) events ⟨s, []⟩ = some g) :
    ∃ held, D.Accounts post nothing held g := by
  refine runEvents_invariant (P := fun g => ∃ held, D.Accounts post nothing held g)
    (fun e g g' => ?_) ?_ hrun
  · rintro ⟨held, h⟩ hstep
    exact h.step hprogram hstep
  · exact ⟨fun _ => nothing, hs, fun i p hp => by simp at hp, fun _ _ => rfl⟩

/-- Once every thread has returned, each holds what its postcondition says. -/
theorem Accounts.quiet (h : D.Accounts post nothing held g) (hq : g.Quiet)
    (hpost : ∀ a x, post a x → x = nothing) : held = fun _ => nothing := by
  funext i
  rcases ht : g.threads[i]? with _ | ⟨a⟩ | ⟨op, next⟩
  · exact h.unstarted i (List.getElem?_eq_none_iff.mp ht)
  · exact hpost a _ (h.keeps i _ ht)
  · exact absurd ⟨op, next, ht⟩ (hq i)

/-- A thread that holds something is still running. -/
theorem Accounts.running (h : D.Accounts post nothing held g)
    (hpost : ∀ a x, post a x → x = nothing) (hi : held i ≠ nothing) : g.Running i := by
  rcases ht : g.threads[i]? with _ | ⟨a⟩ | ⟨op, next⟩
  · exact absurd (h.unstarted i (List.getElem?_eq_none_iff.mp ht)) hi
  · exact absurd (hpost a _ (h.keeps i _ ht)) hi
  · exact ⟨op, next, ht⟩

/-- Alone, a program that keeps the invariant leaves a state that accounts for its holding. -/
theorem Keeps.alone {p : Program Ans α} {x : η} (hp : D.Keeps post i p x) (c : χ) {s : σ}
    (hx : held i = x) (hs : D.inv held s) :
    ∃ x', D.inv (Function.update held i x') (p.alone (D.exec · c) s).2 ∧ post
      (p.alone (D.exec · c) s).1 x' := by
  induction p generalizing x s held with
  | pure a => exact ⟨x, by rw [← hx, Function.update_eq_self]; exact hs, hp⟩
  | call op next ih =>
      obtain ⟨-, x₁, hs₁, hnext⟩ := hp c s held hx hs
      obtain ⟨x', hs', hpost⟩ := ih _ hnext (Function.update_self _ _ _) hs₁
      rw [Function.update_idem] at hs'
      exact ⟨x', hs', hpost⟩

/-- The next operation of any thread gets an answer that meets the goal. -/
theorem Accounts.answered (h : D.Accounts post nothing held g) {op : Op}
    {next : Ans op → Program Ans α} (hi : g.threads[i]? = some (.call op next)) (c : χ) :
    D.goal op (D.exec op c g.state).1 :=
  (h.keeps i _ hi c g.state held rfl h.balanced).1

end Runs
end Sharing
end Interaction
