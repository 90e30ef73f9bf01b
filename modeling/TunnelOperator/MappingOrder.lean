import Mathlib.Data.List.Induction
import Mathlib.Tactic.Tauto
import TunnelOperator.SocketRequests

/-!
# Mappings of one Tunnel in any order

Revisions order the mappings of a Tunnel, and a port ends up with the largest one whatever
order they arrive in and however often. A socket is only replaced for a larger revision with
another gateway.
-/

namespace TunnelOperator
open Interaction

namespace UDPProxy

/-- `ApplyMapping` on one mapping after the other. -/
def applyAll (deny : Deny) (mappings : List TunnelMapping) (p : UDPProxy) : UDPProxy :=
  mappings.foldl (fun p m => (p.applyMapping deny (some m)).2) p

theorem applyAll_concat (deny : Deny) (mappings : List TunnelMapping) (m : TunnelMapping)
    (p : UDPProxy) :
    applyAll deny (mappings ++ [m]) p = ((applyAll deny mappings p).applyMapping deny
      (some m)).2 := by
  rw [applyAll, List.foldl_append]
  rfl

/-- The mappings belong to one Tunnel and port, and revisions tell their gateways apart. -/
structure OneTunnel (name ns : String) (port : Int) (mappings : List TunnelMapping) : Prop where
  named : ∀ m ∈ mappings, m.tunnelName = name ∧ m.tunnelNamespace = ns
  port : ∀ m ∈ mappings, m.forwarderPort = port
  valid : ∀ m ∈ mappings, m.Valid
  agree : ∀ m ∈ mappings, ∀ m' ∈ mappings, m.revision = m'.revision →
    m.gatewayAddress = m'.gatewayAddress

/-- The listener serves the largest revision of the mappings. -/
def Newest (mappings : List TunnelMapping) (l : PortListener) : Prop :=
  ∃ m ∈ mappings, (∀ m' ∈ mappings, m'.revision ≤ m.revision) ∧ l.Shows m

/-- One `ApplyMapping` keeps or raises the revision of a port, and asks for a socket only if the
mapping has a larger revision and another gateway. -/
structure Advances (m : TunnelMapping) (p p' : UDPProxy) : Prop where
  others : ∀ port, port ≠ m.forwarderPort → p'.mappings.lookup port = p.mappings.lookup port
  rises : ∀ l, p.mappings.lookup m.forwarderPort = some l →
    ∃ l', p'.mappings.lookup m.forwarderPort = some l' ∧ l.revision ≤ l'.revision
  replaces : ∀ l, p.mappings.lookup m.forwarderPort = some l →
    (∃ l', p'.mappings.lookup m.forwarderPort = some l' ∧ l'.conn = l.conn ∧
      p'.listens = p.listens) ∨
      (l.revision < m.revision ∧ l.gateway ≠ m.gatewayAddress)

section Apply

variable {name ns : String} {port : Int} {mappings done : List TunnelMapping} {m : TunnelMapping}
  {p p' : UDPProxy}

theorem applyMapping_of_valid (h : m.Valid) (deny : Deny) (p : UDPProxy) :
    p.applyMapping deny (some m) = p.addMapping deny m := by
  rw [applyMapping, if_neg]
  exact not_or.mpr ⟨by have := h.1; omega, h.2⟩

/-- The port is free or serves the largest revision applied so far. -/
def Applied (done : List TunnelMapping) (port : Int) (p : UDPProxy) : Prop :=
  (done = [] ∧ p.mappings.lookup port = none) ∨ ∃ l, p.mappings.lookup port = some l ∧ Newest done l

theorem Newest.concat_of_le {l l' : PortListener} (h : Newest done l)
    (hle : l.revision ≤ m.revision) (hl' : l'.Shows m) : Newest (done ++ [m]) l' := by
  obtain ⟨m₀, hm₀, hmax, hshows⟩ := h
  refine ⟨m, by simp, fun m' hm' => ?_, hl'⟩
  rcases List.mem_append.mp hm' with hm' | hm'
  · have := hmax m' hm'
    have := hshows.2.2
    omega
  · exact Int.le_of_eq (congrArg TunnelMapping.revision (List.mem_singleton.mp hm'))

theorem Newest.concat_of_lt {l : PortListener} (h : Newest done l) (hlt : m.revision < l.revision) :
    Newest (done ++ [m]) l := by
  obtain ⟨m₀, hm₀, hmax, hshows⟩ := h
  refine ⟨m₀, List.mem_append_left _ hm₀, fun m' hm' => ?_, hshows⟩
  rcases List.mem_append.mp hm' with hm' | hm'
  · exact hmax m' hm'
  · rw [List.mem_singleton.mp hm']
    have := hshows.2.2
    omega

/-- A listener of the Tunnel gives way only to a larger revision: an equal one would carry the
same gateway. -/
theorem OneTunnel.opens_lt (h : OneTunnel name ns port mappings) (hm : m ∈ mappings)
    (hdone : done ⊆ mappings) {l : PortListener} (hl : p.mappings.lookup m.forwarderPort = some l)
    (hnewest : Newest done l) (ho : m.Opens (p.served m.forwarderPort)) :
    l.revision < m.revision ∧ l.gateway ≠ m.gatewayAddress := by
  obtain ⟨m₀, hm₀, -, hsame, hg, hrev⟩ := hnewest
  have hnamed₀ := h.named m₀ (hdone hm₀)
  have hnamed := h.named m hm
  have hsame' : l.served.SameTunnel m :=
    ⟨hsame.1.trans (hnamed₀.1.trans hnamed.1.symm), hsame.2.trans (hnamed₀.2.trans hnamed.2.symm)⟩
  obtain ⟨hle, hne⟩ := ho l.served (by rw [served, hl]; rfl) hsame'
  have hle : l.revision ≤ m.revision := hle
  refine ⟨?_, hne⟩
  by_contra hlt
  have heq : m₀.revision = m.revision := by omega
  exact hne (hg.trans (h.agree m₀ (hdone hm₀) m hm heq))

/-- One `ApplyMapping`: the largest revision stays, or the mapping takes its place. -/
theorem OneTunnel.apply_step (h : OneTunnel name ns port mappings) (hm : m ∈ mappings)
    (hdone : done ⊆ mappings) (ha : Applied done port p) :
    ∃ p', p.applyMapping listenAll (some m) = (.ok (), p') ∧ Advances m p p' ∧ Applied
      (done ++ [m]) port p' := by
  obtain rfl := h.port m hm
  rw [applyMapping_of_valid (h.valid m hm)]
  by_cases ho : m.Opens (p.served m.forwarderPort)
  · obtain ⟨p', hok, -, hlook⟩ := addMapping_granted ho (show listenAll p.listens = none from rfl)
    have hport := (hlook m.forwarderPort).trans (if_pos rfl)
    have hother := fun q hq => (hlook q).trans (if_neg hq)
    cases ha with
    | inl hfree =>
        obtain ⟨rfl, hnone⟩ := hfree
        refine ⟨p', hok, ⟨hother, ?_, ?_⟩, Or.inr ⟨_, hport, m, by simp, by
          simp, ⟨rfl, rfl⟩, rfl, rfl⟩⟩
        · intro l hl
          rw [hnone] at hl
          cases hl
        · intro l hl
          rw [hnone] at hl
          cases hl
    | inr hserving =>
        obtain ⟨l, hl, hnewest⟩ := hserving
        obtain ⟨hlt, hne⟩ := h.opens_lt hm hdone hl hnewest ho
        refine ⟨p', hok, ⟨hother, ?_, ?_⟩,
          Or.inr ⟨_, hport, hnewest.concat_of_le (Int.le_of_lt hlt) ⟨⟨rfl, rfl⟩, rfl, rfl⟩⟩⟩
        · intro l₁ hl₁
          rw [hl] at hl₁
          cases hl₁
          exact ⟨_, hport, Int.le_of_lt hlt⟩
        · intro l₁ hl₁
          rw [hl] at hl₁
          cases hl₁
          exact Or.inr ⟨hlt, hne⟩
  · obtain ⟨l, p', hl, hsame, hok, hlistens, hother, hkept⟩ := addMapping_kept listenAll ho
    have hnewest : Newest done l := by
      cases ha with
      | inl hfree =>
          rw [hfree.2] at hl
          cases hl
      | inr hserving =>
          obtain ⟨l₁, hl₁, hnewest⟩ := hserving
          rw [hl] at hl₁
          cases hl₁
          exact hnewest
    -- in both cases the listener keeps its socket
    have hkeeps : ∃ l', p'.mappings.lookup m.forwarderPort = some l' ∧ l'.conn = l.conn ∧
        l.revision ≤ l'.revision ∧ Newest (done ++ [m]) l' := by
      cases hkept with
      | inl hnewer => exact ⟨l, hnewer.2, rfl, Int.le_refl _, hnewest.concat_of_lt hnewer.1⟩
      | inr hbump =>
          obtain ⟨hle, hg, hport⟩ := hbump
          exact ⟨_, hport, rfl, hle, hnewest.concat_of_le hle ⟨hsame, hg, rfl⟩⟩
    obtain ⟨l', hl', hconn, hle, hnewest'⟩ := hkeeps
    refine ⟨p', hok, ⟨hother, ?_, ?_⟩, Or.inr ⟨l', hl', hnewest'⟩⟩
    · intro l₁ hl₁
      rw [hl] at hl₁
      cases hl₁
      exact ⟨l', hl', hle⟩
    · intro l₁ hl₁
      rw [hl] at hl₁
      cases hl₁
      exact Or.inl ⟨l', hl', hconn, hlistens⟩

theorem OneTunnel.applyAll (h : OneTunnel name ns port mappings) (hdone : done ⊆ mappings)
    (hfree : p.mappings.lookup port = none) :
    Applied done port (applyAll listenAll done p) ∧
      ∀ q, q ≠ port → (UDPProxy.applyAll listenAll done p).mappings.lookup q =
        p.mappings.lookup q := by
  induction done using List.reverseRecOn with
  | nil => exact ⟨Or.inl ⟨rfl, hfree⟩, fun _ _ => rfl⟩
  | append_singleton done m ih =>
      have hm : m ∈ mappings := hdone (by simp)
      have hdone' : done ⊆ mappings := fun x hx => hdone (List.mem_append_left _ hx)
      obtain ⟨ha, hothers⟩ := ih hdone'
      obtain ⟨p', hok, hadv, ha'⟩ := h.apply_step hm hdone' ha
      rw [applyAll_concat, hok]
      refine ⟨ha', fun q hq => ?_⟩
      rw [hadv.others q (by rw [h.port m hm]; exact hq), hothers q hq]

end Apply

/-- Whatever order and multiplicity the mappings of a Tunnel are applied in, a free port ends with
the largest revision and the other ports are as before; every call on the way succeeds, never
lowers the revision and replaces a listener only for a larger revision with another gateway. -/
theorem applyAll_converges (name ns : String) (port : Int) (mappings applied : List TunnelMapping)
    (p : UDPProxy) (h : OneTunnel name ns port mappings) (hne : mappings ≠ [])
    (hsame : ∀ m, m ∈ applied ↔ m ∈ mappings) (hfree : p.mappings.lookup port = none) :
    (∃ l, (applyAll listenAll applied p).mappings.lookup port = some l ∧ Newest mappings l) ∧
    (∀ q, q ≠ port → (applyAll listenAll applied p).mappings.lookup q = p.mappings.lookup q) ∧
    ∀ before m after, applied = before ++ m :: after →
      ∃ p', (applyAll listenAll before p).applyMapping listenAll (some m) = (.ok (), p') ∧
        Advances m (applyAll listenAll before p) p' := by
  have hsub : applied ⊆ mappings := fun m hm => (hsame m).mp hm
  obtain ⟨happlied, hothers⟩ := h.applyAll hsub hfree
  refine ⟨?_, hothers, fun before m after hsplit => ?_⟩
  · cases happlied with
    | inl hnil =>
        obtain ⟨m, hm⟩ := List.exists_mem_of_ne_nil mappings hne
        have := (hsame m).mpr hm
        rw [hnil.1] at this
        cases this
    | inr hserving =>
        obtain ⟨l, hl, m, hm, hmax, hshows⟩ := hserving
        exact ⟨l, hl, m, hsub hm, fun m' hm' => hmax m' ((hsame m').mpr hm'), hshows⟩
  · have hbefore : before ⊆ mappings :=
      fun x hx => hsub (by rw [hsplit]; exact List.mem_append_left _ hx)
    have hm : m ∈ mappings := hsub (by rw [hsplit]; simp)
    obtain ⟨p', hok, hadv, -⟩ := h.apply_step hm hbefore (h.applyAll hbefore hfree).1
    exact ⟨p', hok, hadv⟩

/-- The gateway moves and moves back, and the updates arrive in the wrong order and twice. -/
theorem applyAll_converges_shuffled :
    let first := mappingAt "10.0.0.1:51820" 1
    let second := mappingAt "10.0.0.2:51820" 2
    let third := mappingAt "10.0.0.1:51820" 3
    ∃ l, (applyAll listenAll [second, third, first, third, second] new).mappings.lookup 51820 =
      some l ∧
      Newest [first, second, third] l ∧ l.revision = 3 := by
  intro first second third
  have hone : OneTunnel "a" "team" 51820 [first, second, third] := by
    constructor
    · decide
    · decide
    · decide
    · decide
  obtain ⟨⟨l, hl, hnewest⟩, -⟩ := applyAll_converges "a" "team" 51820 [first, second, third]
    [second, third, first, third, second] new hone (by simp) (by intro m; simp; tauto) rfl
  refine ⟨l, hl, hnewest, ?_⟩
  have hlook : some l = some ⟨1, "10.0.0.1:51820", 3, "a", "team"⟩ := hl.symm
  rw [Option.some.inj hlook]

end UDPProxy
end TunnelOperator
