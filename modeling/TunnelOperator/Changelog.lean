import Mathlib.Data.List.Induction

/-!
# Replicas of a log of updates

Every update of a log writes one key: it leaves a value there or clears it. A replica
replays the log behind its writer, in order but not from the start. It is caught up with
the part of the log that it has seen if it shows the final content at every key that no
remaining update touches; what it shows at the other keys does not matter.
-/

namespace Interaction.Changelog

variable {U P V : Type} [DecidableEq P] (key : U → P) (effect : U → Option V)

def content (log : List U) (p : P) : Option V :=
  (log.reverse.find? fun u => key u = p).bind effect

def CaughtUp (shows : P → Option V → Prop) (log remaining : List U) : Prop :=
  ∀ p, (∀ u ∈ remaining, key u ≠ p) → shows p (content key effect log p)

variable {key effect} {log before rest remaining : List U} {u : U} {p : P} {v : V}
  {shows shows' : P → Option V → Prop}

@[simp] theorem content_nil : content key effect [] p = none := rfl

theorem content_concat :
    content key effect (log ++ [u]) p = if key u = p then effect u
      else content key effect log p := by
  by_cases h : key u = p
  · simp [content, h]
  · simp [content, h]

theorem content_append_of_ne (h : ∀ u ∈ rest, key u ≠ p) :
    content key effect (log ++ rest) p = content key effect log p := by
  induction rest using List.reverseRecOn with
  | nil => rw [List.append_nil]
  | append_singleton rest u ih =>
      rw [← List.append_assoc, content_concat, if_neg (h u (by simp))]
      exact ih fun u hu => h u (List.mem_append_left _ hu)

theorem content_of_last (h : ∀ v ∈ rest, key v ≠ key u) :
    content key effect (before ++ u :: rest) (key u) = effect u := by
  rw [List.append_cons, content_append_of_ne h, content_concat, if_pos rfl]

theorem exists_of_content (h : content key effect log p = some v) :
    ∃ before u rest, log = before ++ u :: rest ∧ key u = p ∧ effect u = some v ∧
      ∀ w ∈ rest, key w ≠ p := by
  induction log using List.reverseRecOn with
  | nil => cases h
  | append_singleton log u ih =>
      rw [content_concat] at h
      split_ifs at h with hu
      · exact ⟨log, u, [], rfl, hu, h, by simp⟩
      · obtain ⟨before, u', rest, rfl, hkey, heff, hrest⟩ := ih h
        refine ⟨before, u', rest ++ [u], by simp, hkey, heff, fun w hw => ?_⟩
        rcases List.mem_append.mp hw with hw | hw
        · exact hrest w hw
        · rw [List.mem_singleton.mp hw]
          exact hu

theorem CaughtUp.mono (h : CaughtUp key effect shows log remaining)
    (hs : ∀ p v, shows p v → shows' p v) : CaughtUp key effect shows' log remaining :=
  fun p hp => hs p _ (h p hp)

theorem CaughtUp.commit (h : CaughtUp key effect shows log remaining) (u : U) :
    CaughtUp key effect shows (log ++ [u]) (remaining ++ [u]) := by
  intro p hp
  rw [content_concat, if_neg (hp u (by simp))]
  exact h p fun u hu => hp u (List.mem_append_left _ hu)

/-- Replaying the next update. Only if nothing else remains for its key does it have to leave
there what it says. -/
theorem CaughtUp.replay (h : CaughtUp key effect shows log (u :: rest))
    (hlog : log = before ++ u :: rest) (hother : ∀ p v, p ≠ key u → shows p v → shows' p v)
    (hkey : (∀ v ∈ rest, key v ≠ key u) → shows' (key u) (effect u)) :
    CaughtUp key effect shows' log rest := by
  intro p hp
  by_cases hpu : p = key u
  · subst hpu
    rw [hlog, content_of_last hp]
    exact hkey hp
  · refine hother p _ hpu (h p fun v hv => ?_)
    rcases List.mem_cons.mp hv with rfl | hv
    · exact fun he => hpu he.symm
    · exact hp v hv

end Interaction.Changelog
