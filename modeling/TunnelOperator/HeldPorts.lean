import TunnelOperator.OperatorRun

/-!
# Ports held in the allocator

A Tunnel's port is recorded in its status and held in the allocator under its key. Here is
what the allocator's operations keep of this, and what a running reconciliation knows about
the port it has allocated.
-/

namespace TunnelOperator
open Interaction TunnelReconciler

def Tunnel.Live (t : Tunnel) : Prop := t.deletionTimestamp = false ∧ t.status.phase ≠ .terminated

instance (t : Tunnel) : Decidable t.Live := inferInstanceAs (Decidable (_ ∧ _))

theorem Later.live {t t' : Tunnel} (h : Later t t') (ht : t'.Live) : t.Live := by
  refine ⟨?_, h.status ▸ ht.2⟩
  by_contra hd
  have := h.deleting (by simpa using hd)
  rw [ht.1] at this
  cases this

/-- The allocator holds the recorded port of the Tunnel under its key. -/
def PortAllocator.Holds (a : PortAllocator) (t : Tunnel) : Prop :=
  t.status.forwarderPort ≠ 0 → a.allocated.lookup (tunnelKey t.key) = some t.status.forwarderPort

def KeepsHeld (a a' : PortAllocator) : Prop :=
  ∀ k p, a.allocated.lookup k = some p → a'.allocated.lookup k = some p

theorem allocate_keepsHeld {a : PortAllocator} (ha : a.WF) (start : ℕ) (key : String) :
    KeepsHeld a (a.allocate start key).2 := by
  intro k p hk
  rcases PortAllocator.allocate_cases ha start key with ⟨e, he⟩ | ⟨q, he, hq⟩ | ⟨q, he, hnone, -⟩
  · rw [he]; exact hk
  · rw [he]; exact hk
  · rw [he]
    refine (Table.lookup_insert_eq _ _ _ _).trans ?_
    rw [if_neg]
    · exact hk
    · rintro rfl
      rw [hnone] at hk
      cases hk

/-- What a reconciliation has allocated, it did for a live Tunnel and still holds. -/
def AllocationsHeld (req : NamespacedName) (tr : Trace) (w : World) : Prop :=
  ∀ k p, Answered tr (.allocate k) (.ok p) →
    (∃ t₀, Answered tr (.getTunnel req) (.ok t₀) ∧ t₀.Live) ∧
    w.allocator.allocated.lookup k = some p

theorem TunnelReconciler.Retiring.not_live {req : NamespacedName} {tr : Trace} {t₀ : Tunnel}
    (h : Retiring req tr t₀) :
    ¬ t₀.Live := by
  intro hl
  rcases h.retired with hd | hp
  · rw [hl.1] at hd; cases hd
  · exact hl.2 hp

theorem World.exec_allocator {op : Op} (hal : ∀ k, op ≠ .allocate k) (hrel : ∀ k, op ≠ .release k)
    (c : Choice) (w : World) : (World.exec op c w).2.allocator = w.allocator := by
  cases op with
  | allocate k => exact absurd rfl (hal k)
  | release k => exact absurd rfl (hrel k)
  | notifyUpdate u => rfl
  | fetchGatewayStatus pod =>
      cases hg : c.gatewayStatus <;> simp [World.exec, World.recordFetch, hg]
  | _ => exact (World.exec_sameProcess rfl c w).allocator

theorem World.exec_allocator_wf {w : World} (ha : w.allocator.WF) (op : Op) (c : Choice) :
    (World.exec op c w).2.allocator.WF := by
  cases op with
  | allocate k => exact PortAllocator.allocate_wf ha _ _
  | release k => exact PortAllocator.release_wf ha _
  | _ => rw [World.exec_allocator (by simp) (by simp)]; exact ha

section Reconcile

variable {r : TunnelReconciler} {req : NamespacedName} {tr : Trace} {w w' : World}

theorem AllocationsHeld.keeps (h : AllocationsHeld req tr w)
    (hk : KeepsHeld w.allocator w'.allocator) : AllocationsHeld req tr w' :=
  fun k p ha => ⟨(h k p ha).1, hk _ _ (h k p ha).2⟩

theorem AllocationsHeld.extend (h : AllocationsHeld req tr w) {op : Op} (ans : op.Ans)
    (hop : ∀ k, op ≠ .allocate k) : AllocationsHeld req (tr ++ [⟨op, ans⟩]) w := by
  intro k p ha
  obtain ⟨⟨t₀, ht₀, hl⟩, hp⟩ := h k p (Reads.old (hop k) ha)
  exact ⟨⟨t₀, ht₀.mono (subset_append_call _ _), hl⟩, hp⟩

theorem AllocationsHeld.allocate (h : AllocationsHeld req tr w) (ha : w.allocator.WF) {key : String}
    {c : Choice} {ans : Except String Int} (hn : Next r req tr (.allocate key))
    (he : World.exec (.allocate key) c w = (ans, w')) :
    AllocationsHeld req (tr ++ [⟨.allocate key, ans⟩]) w' := by
  obtain ⟨hans, rfl⟩ := Prod.mk.inj he
  intro k p hk
  rcases answered_append hk with hk | ⟨⟨⟩, hans'⟩
  · obtain ⟨⟨t₀, ht₀, hl⟩, hp⟩ := h k p hk
    exact ⟨⟨t₀, ht₀.mono (subset_append_call _ _), hl⟩, allocate_keepsHeld ha c.start key _ _ hp⟩
  · obtain ⟨t₀, base, pod, hact, -⟩ := hn
    refine ⟨⟨t₀, hact.read.mono (subset_append_call _ _), hact.notDeleting, hact.notTerminated⟩, ?_⟩
    rw [← eq_of_heq hans'] at hans
    exact (PortAllocator.allocate_ok_lookup ha (Prod.ext hans rfl) key).trans (if_pos rfl)

/-- Every call keeps what is known about allocations; a release happens only in
reconciliations that allocate nothing. -/
theorem AllocationsHeld.step (h : AllocationsHeld req tr w) (ha : w.allocator.WF)
    (hunique : ∀ {t t'}, Answered tr (.getTunnel req) (.ok t) →
      Answered tr (.getTunnel req) (.ok t') → t' = t)
    {op : Op} {c : Choice} {ans : op.Ans} (hn : Next r req tr op)
    (he : World.exec op c w = (ans, w')) :
    AllocationsHeld req (tr ++ [⟨op, ans⟩]) w' := by
  have hother : (∀ k, op ≠ .allocate k) → (∀ k, op ≠ .release k) →
      AllocationsHeld req (tr ++ [⟨op, ans⟩]) w' := by
    intro hal hrel
    have hsame := World.exec_allocator hal hrel c w
    rw [he] at hsame
    refine (h.keeps ?_).extend ans hal
    rw [hsame]
    exact fun _ _ hk => hk
  cases op with
  | allocate key => exact h.allocate ha hn he
  | release key =>
      intro k p hk
      obtain ⟨⟨t₁, ht₁, hl⟩, -⟩ := h k p (Reads.old (by simp) hk)
      obtain ⟨t₀, t, hd, -⟩ := hn
      rw [hunique hd.retiring.read ht₁] at hl
      exact absurd hl hd.retiring.not_live
  | _ => exact hother (by simp) (by simp)

end Reconcile

end TunnelOperator
