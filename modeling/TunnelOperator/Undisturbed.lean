import TunnelOperator.Program

/-!
# Programs that run undisturbed

`Ensures` is the precondition under which a program reaches its postcondition when nothing else acts
on the state, whatever admitted choices the environment makes for its calls.
-/

namespace Interaction
namespace Program

variable {Op : Type} {Ans : Op → Type} {α β σ χ : Type} {exec : (op : Op) → χ → σ → Ans op × σ}
  {ok : χ → Prop}

def Ensures (exec : (op : Op) → χ → σ → Ans op × σ) (ok : χ → Prop) (post : α → σ → Prop) :
    Program Ans α → σ → Prop
  | .pure a, s => post a s
  | .call op next, s => ∀ c, ok c → (next (exec op c s).1).Ensures exec ok post (exec op c s).2

theorem Ensures.mono {post post' : α → σ → Prop} (h : ∀ a s, post a s → post' a s)
    {p : Program Ans α} {s : σ} (hp : p.Ensures exec ok post s) : p.Ensures exec ok post' s := by
  induction p generalizing s with
  | pure a => exact h a s hp
  | call op next ih => exact fun c hc => ih _ (hp c hc)

theorem Ensures.seq {Q : α → σ → Prop} {post : β → σ → Prop} {p : Program Ans α}
    {f : α → Program Ans β} {s : σ} (hp : p.Ensures exec ok Q s)
    (hf : ∀ a s, Q a s → (f a).Ensures exec ok post s) :
    (p.bind f).Ensures exec ok post s := by
  induction p generalizing s with
  | pure a => exact hf a s hp
  | call op next ih => exact fun c hc => ih _ (hp c hc)

theorem Ensures.run {post : α → σ → Prop} {p : Program Ans α} {s : σ}
    (hp : p.Ensures exec ok post s) {c : ℕ → χ} (hc : ∀ n, ok (c n)) (tr : List (Call Ans)) :
    post (p.run exec c tr s).1 (p.run exec c tr s).2.2 := by
  induction p generalizing s c tr with
  | pure a => exact hp
  | call op next ih => exact ih _ (hp (c 0) (hc 0)) (fun n => hc (n + 1)) _

/-- The calls made before a program starts remain in its trace. -/
theorem subset_run (p : Program Ans α) (c : ℕ → χ) (tr : List (Call Ans)) (s : σ) :
    tr ⊆ (p.run exec c tr s).2.1 := by
  induction p generalizing c tr s with
  | pure a => exact List.Subset.refl _
  | call op next ih => exact fun x hx => ih _ _ _ _ (List.mem_append_left _ hx)

/-- Calls with a meaning that is one of the possible ones. -/
theorem Ensures.of_exec {exec' : (op : Op) → χ → σ → Ans op × σ} {ok' : χ → Prop}
    (hexec : ∀ op c s, ok' c → ∃ c', ok c' ∧ exec' op c s = exec op c' s) {post : α → σ → Prop}
    {p : Program Ans α} {s : σ} (hp : p.Ensures exec ok post s) : p.Ensures exec' ok' post s := by
  induction p generalizing s with
  | pure a => exact hp
  | call op next ih =>
      intro c hc
      obtain ⟨c', hc', heq⟩ := hexec op c s hc
      rw [heq]
      exact ih _ (hp c' hc')

/-- A property of states that every operation keeps. -/
theorem ensures_of_keeps {I : σ → Prop} (hI : ∀ op c s, ok c → I s → I (exec op c s).2)
    (p : Program Ans α) {s : σ} (h : I s) : p.Ensures exec ok (fun _ s => I s) s := by
  induction p generalizing s with
  | pure a => exact h
  | call op next ih => exact fun c hc => ih _ (hI op c s hc h)

end Program
end Interaction
