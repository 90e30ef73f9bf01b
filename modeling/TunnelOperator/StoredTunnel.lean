import TunnelOperator.Operations

/-!
# A Tunnel that was read

The store as seen by somebody who has read a Tunnel and writes it back: the stored object
is the one that was read or a fresh one, an update is committed only onto the version that
was read, and a status patch against the committed status commits exactly the new one.
-/

namespace TunnelOperator
open Interaction

/-- The stored object under the key of `t` is a later version of it, or a new object. -/
structure Seen (t : Tunnel) (w : World) : Prop where
  uid : t.uid < w.nextUid
  version : t.resourceVersion ≤ w.version
  stored : ∀ t', w.tunnels.lookup t.key = some t' →
    Later t t' ∨ (t.uid < t'.uid ∧ t.resourceVersion < t'.resourceVersion ∧ t'.status = {})

/-- A later version of `t` is stored and cannot go away. -/
def Held (t : Tunnel) (w : World) : Prop :=
  ∃ t', w.tunnels.lookup t.key = some t' ∧ Later t t' ∧ finalizerName ∈ t'.finalizers

theorem Seen.follows {t : Tunnel} {w w' : World} (h : Seen t w) (hf : w.Follows w') :
    Seen t w' where
  uid := lt_of_lt_of_le h.uid hf.nextUid
  version := le_trans h.version hf.version
  stored := fun t'' ht => by
    rcases hf.back ht with ⟨t', ht', hl⟩ | ⟨hu, hv, hs⟩
    · rcases h.stored t' ht' with hl' | ⟨hu, hv, hs⟩
      · exact Or.inl (hl'.trans hl)
      · exact Or.inr ⟨hl.uid ▸ hu, lt_of_lt_of_le hv hl.version, hl.status.trans hs⟩
    · exact Or.inr ⟨lt_of_lt_of_le h.uid hu, lt_of_le_of_lt h.version hv, hs⟩

theorem Held.evolves {t : Tunnel} {w w' : World} (h : Held t w) (he : w.Evolves w') :
    Held t w' := by
  obtain ⟨t', ht', hl, hf⟩ := h
  obtain ⟨t'', ht'', hl', hf'⟩ := he.kept ht' hf
  exact ⟨t'', ht'', hl.trans hl', hf'⟩

theorem seen_of_lookup {w : World} (hw : w.WF) {k : NamespacedName} {t : Tunnel}
    (h : w.tunnels.lookup k = some t) : Seen t w where
  uid := hw.uid h
  version := hw.version h
  stored := fun t' ht => by
    rw [hw.key h, h] at ht
    cases ht
    exact Or.inl (Later.refl t)

theorem held_of_lookup {w : World} (hw : w.WF) {k : NamespacedName} {t : Tunnel}
    (h : w.tunnels.lookup k = some t) (hf : finalizerName ∈ t.finalizers) : Held t w :=
  ⟨t, by rw [hw.key h]; exact h, Later.refl t, hf⟩

/-- An update by the reader of `t₀` is committed only onto the very version it read. -/
theorem updateTunnel_onto_seen {w : World} {t₀ : Tunnel} (hs : Seen t₀ w) (fs : List String) :
    (∃ e, w.updateTunnel { t₀ with finalizers := fs } = (.error e, w)) ∨
      (w.tunnels.lookup t₀.key = some t₀ ∧ w.updateTunnel { t₀ with finalizers := fs } =
        (.ok { t₀ with finalizers := fs, resourceVersion := w.version + 1 },
          w.storeTunnel { t₀ with finalizers := fs })) := by
  rcases World.writeTunnel_cases t₀.key _ w with ⟨e, he⟩ | ⟨current, t, hl, hc, he⟩
  · exact Or.inl ⟨e, he⟩
  · obtain ⟨hv, rfl⟩ := World.updateTunnel_change hc
    obtain rfl : current = t₀ := by
      rcases hs.stored current hl with hlat | ⟨-, hlt, -⟩
      · exact hlat.same hv
      · exact absurd hv (Nat.ne_of_gt hlt)
    exact Or.inr ⟨hl, he⟩

theorem mergeField_base {α : Type} [DecidableEq α] (base new : α) :
    World.mergeField base new base = new := by
  unfold World.mergeField
  split_ifs with h
  · rfl
  · exact (not_not.mp h).symm

theorem mergeStatus_base (base new : TunnelStatus) : World.mergeStatus base new base = new := by
  simp only [World.mergeStatus, mergeField_base]

theorem patchStatus_onto_held {w : World} {base x : Tunnel} (hb : Held base w)
    (hkey : x.key = base.key) :
    ∃ current, w.tunnels.lookup base.key = some current ∧ Later base current ∧
      finalizerName ∈ current.finalizers ∧ w.patchStatus x base =
        (.ok { current with status := x.status, resourceVersion := w.version + 1 },
          w.storeTunnel { current with status := x.status }) := by
  obtain ⟨current, hl, hlat, hf⟩ := hb
  refine ⟨current, hl, hlat, hf, ?_⟩
  unfold World.patchStatus World.writeTunnel
  rw [hkey, hl]
  simp only [hlat.status, mergeStatus_base]

theorem exec_patchStatus {w w' : World} {base x : Tunnel} {c : Choice}
    {ans : Except ApiError Tunnel} (hb : Held base w) (hkey : x.key = base.key)
    (h : World.exec (.patchStatus x base) c w = (ans, w')) :
    (w' = w ∧ ∃ e, ans = .error e) ∨
      ∃ current, w.tunnels.lookup base.key = some current ∧ Later base current ∧
        finalizerName ∈ current.finalizers ∧ w' = w.storeTunnel
          { current with status := x.status } ∧
        ((∃ e, ans = .error e) ∨
          ans = .ok { current with status := x.status, resourceVersion := w.version + 1 }) := by
  obtain ⟨current, hl, hlat, hf, hp⟩ := patchStatus_onto_held hb hkey
  have hcases := World.writeResult_cases c w (w.patchStatus x base)
  change World.writeResult c w (w.patchStatus x base) = (ans, w') at h
  rw [h, hp] at hcases
  rcases hcases with ⟨m, he⟩ | ⟨m, he⟩ | he <;> cases he
  · exact Or.inl ⟨rfl, _, rfl⟩
  · exact Or.inr ⟨current, hl, hlat, hf, rfl, Or.inl ⟨_, rfl⟩⟩
  · exact Or.inr ⟨current, hl, hlat, hf, rfl, Or.inr rfl⟩

theorem exec_updateTunnel {w w' : World} {t₀ : Tunnel} {fs : List String} {c : Choice}
    {ans : Except ApiError Tunnel} (hs : Seen t₀ w)
    (h : World.exec (.updateTunnel { t₀ with finalizers := fs }) c w = (ans, w')) :
    (w' = w ∧ ∃ e, ans = .error e) ∨
      (w.tunnels.lookup t₀.key = some t₀ ∧ w' = w.storeTunnel { t₀ with finalizers := fs } ∧
        ((∃ e, ans = .error e) ∨
          ans = .ok { t₀ with finalizers := fs, resourceVersion := w.version + 1 })) := by
  have hcases := World.writeResult_cases c w (w.updateTunnel { t₀ with finalizers := fs })
  change World.writeResult c w (w.updateTunnel { t₀ with finalizers := fs }) = (ans, w') at h
  rcases updateTunnel_onto_seen hs fs with ⟨e, hp⟩ | ⟨hl, hp⟩ <;> rw [h, hp] at hcases <;>
    rcases hcases with ⟨m, he⟩ | ⟨m, he⟩ | he <;> cases he
  · exact Or.inl ⟨rfl, _, rfl⟩
  · exact Or.inl ⟨rfl, _, rfl⟩
  · exact Or.inl ⟨rfl, _, rfl⟩
  · exact Or.inl ⟨rfl, _, rfl⟩
  · exact Or.inr ⟨hl, rfl, Or.inl ⟨_, rfl⟩⟩
  · exact Or.inr ⟨hl, rfl, Or.inr rfl⟩

theorem storeTunnel_held {w : World} {t : Tunnel} (hf : finalizerName ∈ t.finalizers) :
    Held { t with resourceVersion := w.version + 1 } (w.storeTunnel t) := by
  refine ⟨_, ?_, Later.refl _, hf⟩
  rw [World.storeTunnel_lookup, if_pos rfl, if_neg]
  exact fun h => by simp [h.2] at hf

end TunnelOperator
