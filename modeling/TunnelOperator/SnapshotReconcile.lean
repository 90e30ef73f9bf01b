import TunnelOperator.Proxy

/-!
# A snapshot is authoritative

`ReconcileMappings` applies the valid entries of a snapshot and then removes every other
listener. An entry leaves exactly itself at its port, except where the table holds a
listener of the same Tunnel with a larger revision: that one is kept as it is.
-/

namespace TunnelOperator
open Interaction

namespace UDPProxy

variable {deny : Deny} {mappings : List (Option TunnelMapping)} {p p' : UDPProxy}

/-- The valid entries of the snapshot have pairwise distinct ports. -/
def PortsDistinct (mappings : List (Option TunnelMapping)) : Prop := (desired mappings).Nodup

instance (mappings : List (Option TunnelMapping)) : Decidable (PortsDistinct mappings) :=
  inferInstanceAs (Decidable (List.Nodup _))

/-- The table holds exactly the valid entries of the snapshot. -/
structure Matches (mappings : List (Option TunnelMapping)) (p : UDPProxy) : Prop where
  ports : ∀ port, port ∈ p.ports ↔ ∃ m, some m ∈ mappings ∧ m.Valid ∧ m.forwarderPort = port
  entries : ∀ m, some m ∈ mappings → m.Valid → ∃ l, p.mappings.lookup m.forwarderPort = some l ∧
    l.tunnelName = m.tunnelName ∧ l.tunnelNamespace = m.tunnelNamespace ∧
    l.gateway = m.gatewayAddress ∧ l.revision = m.revision

/-- The table holds no listener of an entry's Tunnel at its port with a larger revision. -/
def NoNewer (mappings : List (Option TunnelMapping)) (p : UDPProxy) : Prop :=
  ∀ m, some m ∈ mappings → m.Valid → ¬ Newer m (p.mappings.lookup m.forwarderPort)

theorem desired_cons_some {m : TunnelMapping} (h : m.Valid)
    (mappings : List (Option TunnelMapping)) :
    desired (some m :: mappings) = m.forwarderPort :: desired mappings := by
  have : ¬(m.forwarderPort ≤ 0 ∨ m.gatewayAddress = "") :=
    not_or.mpr ⟨by have := h.1; omega, h.2⟩
  simp [desired, this]

theorem valid_of_not {m : TunnelMapping} (h : ¬(m.forwarderPort ≤ 0 ∨ m.gatewayAddress = "")) :
    m.Valid := by
  simp only [not_or] at h
  exact ⟨by omega, h.2⟩

theorem applyMappings_ok (hd : PortsDistinct mappings)
    (h : p.applyMappings deny mappings = (.ok (), p')) :
    (∀ m, some m ∈ mappings → m.Valid → ∃ l, p'.mappings.lookup m.forwarderPort = some l ∧
      Serves m (p.mappings.lookup m.forwarderPort) l) ∧
    ∀ port, port ∉ desired mappings → p'.mappings.lookup port = p.mappings.lookup port := by
  induction mappings generalizing p with
  | nil =>
      cases h
      exact ⟨fun m hm => by simp at hm, fun _ _ => rfl⟩
  | cons mapping mappings ih =>
      cases mapping with
      | none =>
          obtain ⟨h₁, h₂⟩ := ih hd h
          exact ⟨fun m hm => h₁ m (by simpa using hm), h₂⟩
      | some m =>
          simp only [applyMappings] at h
          split_ifs at h with hinv
          · have hde : desired (some m :: mappings) = desired mappings := by simp [desired, hinv]
            rw [PortsDistinct, hde] at hd
            obtain ⟨h₁, h₂⟩ := ih hd h
            refine ⟨fun m' hm' hv => ?_, fun port hp => h₂ port (hde ▸ hp)⟩
            rcases List.mem_cons.mp hm' with he | hm'
            · cases he
              exact absurd hinv (not_or.mpr ⟨by have := hv.1; omega, hv.2⟩)
            · exact h₁ m' hm' hv
          · have hv := valid_of_not hinv
            rw [PortsDistinct, desired_cons_some hv, List.nodup_cons] at hd
            cases hap : p.applyMapping deny (some m) with
            | mk res p₁ =>
                rw [hap] at h
                cases res with
                | error err => cases h
                | ok u =>
                    obtain ⟨⟨l, hl, hserves⟩, hother⟩ := addMapping_ok (applyMapping_ok hap).2
                    obtain ⟨h₁, h₂⟩ := ih hd.2 h
                    refine ⟨fun m' hm' hv' => ?_, fun port hp => ?_⟩
                    · rcases List.mem_cons.mp hm' with he | hm'
                      · cases he
                        exact ⟨l, by rw [h₂ _ hd.1, hl], hserves⟩
                      · have hne : m'.forwarderPort ≠ m.forwarderPort := fun he =>
                          hd.1 (he ▸ mem_desired.mpr ⟨m', hm', hv', rfl⟩)
                        rw [← hother _ hne]
                        exact h₁ m' hm' hv'
                    · rw [desired_cons_some hv, List.mem_cons, not_or] at hp
                      rw [h₂ port hp.2, hother port hp.1]

theorem reconcileMappings_ok (hd : PortsDistinct mappings)
    (h : p.reconcileMappings deny mappings = (.ok (), p')) :
    (∀ m, some m ∈ mappings → m.Valid → ∃ l, p'.mappings.lookup m.forwarderPort = some l ∧
      Serves m (p.mappings.lookup m.forwarderPort) l) ∧
    ∀ port, port ∉ desired mappings → p'.mappings.lookup port = none := by
  unfold reconcileMappings at h
  cases hap : p.applyMappings deny mappings with
  | mk res p₁ =>
      rw [hap] at h
      cases res with
      | error err => cases h
      | ok u =>
          cases h
          refine ⟨fun m hm hv => ?_, fun port hp => ?_⟩
          · rw [removeStale_lookup, if_pos (mem_desired.mpr ⟨m, hm, hv, rfl⟩)]
            exact (applyMappings_ok hd hap).1 m hm hv
          · rw [removeStale_lookup, if_neg hp]

/-- A successful `ReconcileMappings` leaves exactly the snapshot in the table if and only if
the table held no newer listener of a Tunnel at the port of its entry. -/
theorem reconcileMappings_matches_iff (deny : Deny) (mappings : List (Option TunnelMapping))
    (p p' : UDPProxy) (hd : PortsDistinct mappings)
    (h : p.reconcileMappings deny mappings = (.ok (), p')) :
    Matches mappings p' ↔ NoNewer mappings p := by
  obtain ⟨hentries, hothers⟩ := reconcileMappings_ok hd h
  constructor
  · intro hmatch m hm hv hnewer
    obtain ⟨l', hl', -, -, -, hrev⟩ := hmatch.entries m hm hv
    obtain ⟨l, hl, -, ⟨hno, -⟩ | ⟨-, hlt⟩⟩ := hentries m hm hv
    · exact hno hnewer
    · rw [hl] at hl'
      cases hl'
      omega
  · intro hnew
    refine ⟨fun port => ?_, fun m hm hv => ?_⟩
    · rw [ports, Table.mem_keys_iff]
      constructor
      · rintro ⟨l, hl⟩
        by_contra hno
        rw [hothers port fun hp => hno (mem_desired.mp hp)] at hl
        cases hl
      · rintro ⟨m, hm, hv, rfl⟩
        obtain ⟨l, hl, -⟩ := hentries m hm hv
        exact ⟨l, hl⟩
    · obtain ⟨l, hl, hsame, ⟨-, hg, hr⟩ | ⟨hbefore, hlt⟩⟩ := hentries m hm hv
      · exact ⟨l, hl, hsame.1, hsame.2, hg, hr⟩
      · exact absurd ⟨l, hbefore, hsame, hlt⟩ (hnew m hm hv)

/-- The tables that calls to the proxy can produce. -/
inductive Reachable : UDPProxy → Prop where
  | new : Reachable new
  | applyMapping {q : UDPProxy} (deny : Deny) (mapping : Option TunnelMapping) :
      Reachable q → Reachable (q.applyMapping deny mapping).2
  | removeMapping {q : UDPProxy} (port : Int) : Reachable q → Reachable (q.removeMapping port)
  | reconcileMappings {q : UDPProxy} (deny : Deny) (mappings : List (Option TunnelMapping)) :
      Reachable q → Reachable (q.reconcileMappings deny mappings).2

def listenAll : Deny := fun _ => none

theorem addMapping_listenAll (m : TunnelMapping) (p : UDPProxy) :
    ∃ p', p.addMapping listenAll m = (.ok (), p') := by
  have hlisten : ∀ q : UDPProxy, q.mappings.lookup m.forwarderPort = none →
      ∃ p', q.listen listenAll m = (.ok (), p') := by
    intro q hq
    simp [listen, listenAll, hq]
  unfold addMapping
  cases hl : p.mappings.lookup m.forwarderPort with
  | none => exact hlisten p hl
  | some existing =>
      simp only
      split_ifs
      · exact ⟨_, rfl⟩
      · exact ⟨_, rfl⟩
      · exact ⟨_, rfl⟩
      · apply hlisten
        rw [removeMapping_lookup, if_pos rfl]

theorem applyMapping_listenAll {m : TunnelMapping} (h : m.Valid) (p : UDPProxy) :
    ∃ p', p.applyMapping listenAll (some m) = (.ok (), p') := by
  have hnot : ¬(m.forwarderPort ≤ 0 ∨ m.gatewayAddress = "") :=
    not_or.mpr ⟨by have := h.1; omega, h.2⟩
  rw [applyMapping, if_neg hnot]
  exact addMapping_listenAll m p

theorem applyMappings_listenAll (mappings : List (Option TunnelMapping)) (p : UDPProxy) :
    ∃ p', p.applyMappings listenAll mappings = (.ok (), p') := by
  induction mappings generalizing p with
  | nil => exact ⟨p, rfl⟩
  | cons mapping mappings ih =>
      cases mapping with
      | none => exact ih p
      | some m =>
          rw [applyMappings]
          split_ifs with hinv
          · exact ih p
          · obtain ⟨p₁, hp₁⟩ := applyMapping_listenAll (valid_of_not hinv) p
            rw [hp₁]
            exact ih p₁

theorem reconcileMappings_listenAll (mappings : List (Option TunnelMapping)) (p : UDPProxy) :
    ∃ p', p.reconcileMappings listenAll mappings = (.ok (), p') := by
  obtain ⟨p₁, hp₁⟩ := applyMappings_listenAll mappings p
  exact ⟨p₁.removeStale mappings, by rw [reconcileMappings, hp₁]⟩

def mappingAt (gateway : String) (revision : Int) : TunnelMapping :=
  ⟨"a", "team", 51820, gateway, revision, "uid", "ip", 0⟩

/-- A table with the listener of an older revision, and one of a Tunnel that is gone. -/
def olderAndStale : UDPProxy :=
  let older := (new.applyMapping listenAll (some (mappingAt "10.0.0.1:51820" 1))).2
  (older.applyMapping listenAll (some ⟨"b", "team", 51821, "10.0.0.3:51820", 4, "uid", "ip", 0⟩)).2

theorem reconcileMappings_matches_newer :
    let mappings := [some (mappingAt "10.0.0.2:51820" 2), none]
    olderAndStale.ports = [51821, 51820] ∧ PortsDistinct mappings ∧ NoNewer mappings olderAndStale ∧
      Matches mappings (olderAndStale.reconcileMappings listenAll mappings).2 := by
  intro mappings
  have hnewer : NoNewer mappings olderAndStale := by
    intro m hm _
    obtain rfl : m = mappingAt "10.0.0.2:51820" 2 := by simpa [mappings] using hm
    rintro ⟨l, hl, -, hlt⟩
    have hl' : l = ⟨0, "10.0.0.1:51820", 1, "a", "team"⟩ := (Option.some.inj hl).symm
    rw [hl'] at hlt
    exact absurd hlt (by decide)
  exact ⟨rfl, by decide, hnewer,
    (reconcileMappings_matches_iff listenAll mappings olderAndStale _ (by decide) rfl).mpr hnewer⟩

/-- A Tunnel that is created anew starts its revisions again, and the snapshot that carries
its new gateway leaves the old listener in place. -/
theorem reconcileMappings_keeps_newer : ∃ p p' mappings, Reachable p ∧ PortsDistinct mappings ∧
    p.reconcileMappings listenAll mappings = (.ok (), p') ∧ ¬ Matches mappings p' := by
  refine ⟨(new.applyMapping listenAll (some (mappingAt "10.0.0.1:51820" 5))).2, _,
    [some (mappingAt "10.0.0.2:51820" 1)], .applyMapping _ _ .new, by decide, rfl, fun h => ?_⟩
  obtain ⟨l, hl, -, -, hg, -⟩ := h.entries (mappingAt "10.0.0.2:51820" 1) (by simp) (by decide)
  have hlook : some l = some ⟨0, "10.0.0.1:51820", 5, "a", "team"⟩ := hl.symm
  cases hlook
  exact absurd hg (by decide)

end UDPProxy
end TunnelOperator
