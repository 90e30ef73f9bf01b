import TunnelOperator.Program

/-!
# Programs that follow an automaton

An automaton reads the calls of a program together with their answers. `Follows` says that the
program never makes a call the automaton cannot read, whatever the answers are, and where the
automaton is when the program returns.
-/

namespace Interaction
namespace Program

variable {Op : Type} {Ans : Op → Type} {α β S : Type} {move : S → Call Ans → S → Prop}

def Follows (move : S → Call Ans → S → Prop) (post : α → S → Prop) : Program Ans α → S → Prop
  | .pure a, s => post a s
  | .call op next, s => ∀ a, ∃ s', move s ⟨op, a⟩ s' ∧ (next a).Follows move post s'

theorem Follows.mono {post post' : α → S → Prop} (h : ∀ a s, post a s → post' a s)
    {p : Program Ans α} {s : S} (hp : p.Follows move post s) : p.Follows move post' s := by
  induction p generalizing s with
  | pure a => exact h a s hp
  | call op next ih =>
      intro a
      obtain ⟨s', hmove, hnext⟩ := hp a
      exact ⟨s', hmove, ih a hnext⟩

theorem Follows.seq {mid : α → S → Prop} {post : β → S → Prop} {p : Program Ans α}
    {f : α → Program Ans β} {s : S} (hp : p.Follows move mid s)
    (hf : ∀ a s, mid a s → (f a).Follows move post s) : (p.bind f).Follows move post s := by
  induction p generalizing s with
  | pure a => exact hf a s hp
  | call op next ih =>
      intro a
      obtain ⟨s', hmove, hnext⟩ := hp a
      exact ⟨s', hmove, ih a hnext⟩

end Program
end Interaction
