import Mathlib.Data.List.Induction

/-!
# Runs of a machine that takes events

A machine is a partial step function: an event that is not possible in a state has no
successor. Runs are lists of events, so that a run can be evaluated and two runs compared.
-/

namespace Interaction

section Runs

variable {S E V : Type} {step : E → S → Option S} {events : List E} {s s' : S}

def runEvents (step : E → S → Option S) (events : List E) (s : S) : Option S :=
  events.foldlM (fun s e => step e s) s

theorem runEvents_cons {e : E} :
    runEvents step (e :: events) s = some s' ↔ ∃ s₁, step e s = some s₁ ∧
      runEvents step events s₁ = some s' := by
  simp only [runEvents, List.foldlM_cons, Option.bind_eq_bind, Option.bind_eq_some_iff]

theorem runEvents_concat {e : E} :
    runEvents step (events ++ [e]) s = some s' ↔
      ∃ s₁, runEvents step events s = some s₁ ∧ step e s₁ = some s' := by
  simp only [runEvents, List.foldlM_append, List.foldlM_cons, List.foldlM_nil, Option.bind_eq_bind,
    Option.bind_eq_some_iff, Option.pure_def, Option.some.injEq, exists_eq_right]

/-- What every step keeps holds after every run. -/
theorem runEvents_invariant {P : S → Prop} (hstep : ∀ e s s', P s → step e s = some s' → P s')
    (hs : P s) (hrun : runEvents step events s = some s') : P s' := by
  induction events generalizing s with
  | nil =>
      cases hrun
      exact hs
  | cons e events ih =>
      obtain ⟨s₁, h₁, hrest⟩ := runEvents_cons.mp hrun
      exact ih (hstep e s s₁ hs h₁) hrest

/-- The same for a property of the events so far and the state they lead to. -/
theorem runEvents_history {P : List E → S → Prop}
    (hstep : ∀ events e s s', P events s → step e s = some s' → P (events ++ [e]) s')
    (hs : P [] s) (hrun : runEvents step events s = some s') : P events s' := by
  induction events using List.reverseRecOn generalizing s' with
  | nil =>
      cases hrun
      exact hs
  | append_singleton events e ih =>
      obtain ⟨s₁, h₁, hlast⟩ := runEvents_concat.mp hrun
      exact hstep events e s₁ s' (ih h₁) hlast

theorem runEvents_append {events' : List E} :
    runEvents step (events ++ events') s = some s' ↔
      ∃ s₁, runEvents step events s = some s₁ ∧ runEvents step events' s₁ = some s' := by
  simp only [runEvents, List.foldlM_append, Option.bind_eq_bind, Option.bind_eq_some_iff]

section View

variable {view : S → V} {concerns : E → Bool}
  (hframe : ∀ e s s', concerns e = false → step e s = some s' → view s' = view s)
  (hown : ∀ e s₁ s₂ s₁' s₂', concerns e = true → view s₁ = view s₂ → step e s₁ = some s₁' →
    step e s₂ = some s₂' → view s₁' = view s₂')

include hframe in
theorem runEvents_frame (hnone : ∀ e ∈ events, concerns e = false)
    (hrun : runEvents step events s = some s') : view s' = view s := by
  induction events generalizing s with
  | nil =>
      cases hrun
      rfl
  | cons e events ih =>
      obtain ⟨s₁, h₁, hrest⟩ := runEvents_cons.mp hrun
      have hrest := ih (fun e he => hnone e (List.mem_cons_of_mem _ he)) hrest
      exact hrest.trans (hframe e s s₁ (hnone e List.mem_cons_self) h₁)

include hframe hown in
/-- A part of the state that only some events touch is decided by those events: two runs that
agree on them agree on that part. -/
theorem runEvents_view {events' : List E} {t t' : S} (hview : view s = view t)
    (hsame : events.filter concerns = events'.filter concerns)
    (hrun : runEvents step events s = some s') (hrun' : runEvents step events' t = some t') :
    view s' = view t' := by
  induction events generalizing events' s t with
  | nil =>
      cases hrun
      have hnone : ∀ e ∈ events', concerns e = false := by
        intro e he
        have := List.filter_eq_nil_iff.mp hsame.symm e he
        simpa using this
      rw [runEvents_frame hframe hnone hrun', hview]
  | cons e events ih =>
      obtain ⟨s₁, h₁, hrest⟩ := runEvents_cons.mp hrun
      by_cases hc : concerns e = true
      · rw [List.filter_cons, if_pos hc] at hsame
        obtain ⟨before, after, rfl, hbefore, -, hafter⟩ := List.filter_eq_cons_iff.mp hsame.symm
        obtain ⟨t₁, ht₁, ht⟩ := runEvents_append.mp hrun'
        obtain ⟨t₂, ht₂, ht'⟩ := runEvents_cons.mp ht
        have hnone : ∀ e ∈ before, concerns e = false := fun e he => by simpa using hbefore e he
        have hview₁ : view s = view t₁ := hview.trans (runEvents_frame hframe hnone ht₁).symm
        exact ih (hown e s t₁ s₁ t₂ hc hview₁ h₁ ht₂) hafter.symm hrest ht'
      · rw [List.filter_cons, if_neg hc] at hsame
        have hframe₁ := hframe e s s₁ (by simpa using hc) h₁
        exact ih (hframe₁.trans hview) hsame hrest hrun'

end View

section Restricted

variable (allow : E → S → Prop) [∀ e s, Decidable (allow e s)]

/-- The machine with only those steps that meet a condition on the state before them. -/
def restrict (step : E → S → Option S) (e : E) (s : S) : Option S :=
  if allow e s then step e s else none

variable {allow}

theorem restrict_eq_some {e : E} : restrict allow step e s = some s' ↔ allow e s ∧
    step e s = some s' := by
  unfold restrict
  by_cases h : allow e s
  · simp [h]
  · simp [h]

end Restricted

end Runs

end Interaction
