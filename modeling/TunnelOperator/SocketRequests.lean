import TunnelOperator.SnapshotReconcile

/-!
# Which mappings need a socket

`addMapping` opens a socket unless the port already serves the same Tunnel, by a newer
mapping or on the same gateway. Then it first removes the listener that is there. Apart from
sockets a table is a function from ports to what they serve, and so is the effect of a mapping
that is granted its socket.
-/

namespace TunnelOperator
open Interaction

structure Served where
  gateway : String
  revision : Int
  tunnelName : String
  tunnelNamespace : String
  deriving DecidableEq

def PortListener.served (l : PortListener) : Served :=
  ⟨l.gateway, l.revision, l.tunnelName, l.tunnelNamespace⟩

def TunnelMapping.served (m : TunnelMapping) : Served :=
  ⟨m.gatewayAddress, m.revision, m.tunnelName, m.tunnelNamespace⟩

def Served.SameTunnel (c : Served) (m : TunnelMapping) : Prop :=
  c.tunnelName = m.tunnelName ∧ c.tunnelNamespace = m.tunnelNamespace

instance (c : Served) (m : TunnelMapping) : Decidable (c.SameTunnel m) :=
  inferInstanceAs (Decidable (_ ∧ _))

/-- The mapping needs a socket of its own at a port that serves this. -/
def TunnelMapping.Opens (m : TunnelMapping) (before : Option Served) : Prop :=
  ∀ c ∈ before, c.SameTunnel m → c.revision ≤ m.revision ∧ c.gateway ≠ m.gatewayAddress

instance (m : TunnelMapping) (before : Option Served) : Decidable (m.Opens before) :=
  inferInstanceAs (Decidable (∀ c ∈ before, c.SameTunnel m → c.revision ≤ m.revision ∧
    c.gateway ≠ m.gatewayAddress))

def TunnelMapping.settle (m : TunnelMapping) : Option Served → Served
  | none => m.served
  | some c => if c.SameTunnel m ∧ m.revision < c.revision then c else m.served

namespace UDPProxy

def served (p : UDPProxy) (port : Int) : Option Served := (p.mappings.lookup port).map (·.served)

variable {deny : Deny} {m : TunnelMapping} {p : UDPProxy}

/-- A mapping that needs no socket keeps the listener, with its own revision unless the one
there is newer. -/
theorem addMapping_kept (deny : Deny) (h : ¬ m.Opens (p.served m.forwarderPort)) :
    ∃ l p', p.mappings.lookup m.forwarderPort = some l ∧ l.SameTunnel m ∧
      p.addMapping deny m = (.ok (), p') ∧ p'.listens = p.listens ∧
      (∀ port, port ≠ m.forwarderPort → p'.mappings.lookup port = p.mappings.lookup port) ∧
      ((m.revision < l.revision ∧ p'.mappings.lookup m.forwarderPort = some l) ∨
        (l.revision ≤ m.revision ∧ l.gateway = m.gatewayAddress ∧
          p'.mappings.lookup m.forwarderPort = some { l with revision := m.revision })) := by
  unfold addMapping
  cases hl : p.mappings.lookup m.forwarderPort with
  | none =>
      refine absurd ?_ h
      intro c hc
      rw [served, hl] at hc
      cases hc
  | some l =>
      have hnot : l.SameTunnel m ∧ (m.revision < l.revision ∨ l.gateway = m.gatewayAddress) := by
        by_contra hc
        apply h
        intro c hmem hsame
        rw [served, hl] at hmem
        cases hmem
        refine ⟨?_, fun hg => hc ⟨hsame, Or.inr hg⟩⟩
        by_contra hlt
        exact hc ⟨hsame, Or.inl (Int.not_le.mp hlt)⟩
      obtain ⟨hsame, hkeep⟩ := hnot
      by_cases hnewer : m.revision < l.revision
      · simp only [if_pos (And.intro hsame hnewer)]
        exact ⟨l, p, rfl, hsame, rfl, rfl, fun _ _ => rfl, Or.inl ⟨hnewer, hl⟩⟩
      · have hg : l.gateway = m.gatewayAddress := hkeep.resolve_left hnewer
        simp only [if_neg fun hc : l.SameTunnel m ∧ m.revision < l.revision => hnewer hc.2,
          if_pos (And.intro hsame hg)]
        by_cases hlt : l.revision < m.revision
        · rw [if_pos hlt]
          refine ⟨l, _, rfl, hsame, rfl, rfl, fun port hp => ?_, Or.inr ⟨by omega, hg, ?_⟩⟩
          · exact (Table.lookup_insert_eq _ _ _ _).trans (if_neg hp)
          · exact (Table.lookup_insert_eq _ _ _ _).trans (if_pos rfl)
        · rw [if_neg hlt]
          have hrev : m.revision = l.revision := by omega
          refine ⟨l, p, rfl, hsame, rfl, rfl, fun _ _ => rfl, Or.inr ⟨by omega, hg, ?_⟩⟩
          rw [hrev, hl]

theorem addMapping_opened (deny : Deny) (h : m.Opens (p.served m.forwarderPort)) :
    ∃ q : UDPProxy, p.addMapping deny m = q.listen deny m ∧ q.listens = p.listens ∧
      ∀ port, q.mappings.lookup port = if port = m.forwarderPort
        then none else p.mappings.lookup port := by
  unfold addMapping
  cases hl : p.mappings.lookup m.forwarderPort with
  | none =>
      refine ⟨p, rfl, rfl, fun port => ?_⟩
      split_ifs with hp
      · rw [hp, hl]
      · rfl
  | some l =>
      have hopen : l.SameTunnel m → l.revision ≤ m.revision ∧ l.gateway ≠ m.gatewayAddress :=
        h l.served (by rw [served, hl]; rfl)
      simp only
      rw [if_neg, if_neg]
      · exact ⟨_, rfl, rfl, fun port => removeMapping_lookup _ _ _⟩
      · rintro ⟨hsame, hg⟩
        exact (hopen hsame).2 hg
      · rintro ⟨hsame, hlt⟩
        have := (hopen hsame).1
        omega

theorem addMapping_granted (h : m.Opens (p.served m.forwarderPort)) (hd : deny p.listens = none) :
    ∃ p', p.addMapping deny m = (.ok (), p') ∧ p'.listens = p.listens + 1 ∧
      ∀ port, p'.mappings.lookup port = if port = m.forwarderPort then
        some ⟨p.listens, m.gatewayAddress, m.revision, m.tunnelName, m.tunnelNamespace⟩
        else p.mappings.lookup port := by
  obtain ⟨q, hq, hlistens, hlook⟩ := addMapping_opened deny h
  have hfree : q.mappings.lookup m.forwarderPort = none := by rw [hlook, if_pos rfl]
  rw [hq, listen]
  simp only [hlistens, hd, hfree]
  refine ⟨_, rfl, rfl, fun port => ?_⟩
  rw [Table.lookup_insert_eq, hlook]
  split_ifs
  · rfl
  · rfl

theorem addMapping_refused {err : String} (h : m.Opens (p.served m.forwarderPort))
    (hd : deny p.listens = some err) :
    ∃ err' p', p.addMapping deny m = (.error err', p') ∧
      ∀ port, p'.mappings.lookup port =
        if port = m.forwarderPort then none else p.mappings.lookup port := by
  obtain ⟨q, hq, hlistens, hlook⟩ := addMapping_opened deny h
  rw [hq, listen]
  simp only [hlistens, hd]
  exact ⟨_, _, rfl, hlook⟩

theorem served_of_lookup {p p' : UDPProxy} {port : Int} {l : PortListener}
    (hother : ∀ q, q ≠ port → p'.mappings.lookup q = p.mappings.lookup q)
    (hport : p'.mappings.lookup port = some l) :
    p'.served = Function.update p.served port (some l.served) := by
  funext q
  by_cases hq : q = port
  · subst hq
    rw [Function.update_self, served, hport]
    rfl
  · rw [Function.update_of_ne hq, served, served, hother q hq]

end UDPProxy
end TunnelOperator
