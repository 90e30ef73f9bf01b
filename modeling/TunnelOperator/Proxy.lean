import TunnelOperator.Table
import TunnelOperator.Mapping

/-!
# The UDP proxy's port table

`pkg/forwarder`: `UDPProxy` as a table of listeners by port, and the forwarder's handling
of single updates. The table is only written by the goroutine of `WatchUpdates`, so the
functions run one after the other. `deny` says which `ListenUDP` calls fail and how; sockets
are numbered by the calls that opened them. Packets and sessions are not modelled.
-/

namespace TunnelOperator
open Interaction GoText

structure PortListener where
  conn : ℕ
  gateway : String
  revision : Int
  tunnelName : String
  tunnelNamespace : String
  deriving DecidableEq

structure UDPProxy where
  mappings : Table Int PortListener
  listens : ℕ

abbrev Deny := ℕ → Option String

/-- A mapping that `ApplyMapping` accepts. -/
def TunnelMapping.Valid (m : TunnelMapping) : Prop := 0 < m.forwarderPort ∧ m.gatewayAddress ≠ ""

instance (m : TunnelMapping) : Decidable m.Valid := inferInstanceAs (Decidable (_ ∧ _))

/-- The listener belongs to the mapping's Tunnel, by name and namespace. -/
def PortListener.SameTunnel (l : PortListener) (m : TunnelMapping) : Prop :=
  l.tunnelName = m.tunnelName ∧ l.tunnelNamespace = m.tunnelNamespace

instance (l : PortListener) (m : TunnelMapping) : Decidable (l.SameTunnel m) :=
  inferInstanceAs (Decidable (_ ∧ _))

def PortListener.Shows (l : PortListener) (m : TunnelMapping) : Prop :=
  l.SameTunnel m ∧ l.gateway = m.gatewayAddress ∧ l.revision = m.revision

namespace UDPProxy

def new : UDPProxy := ⟨∅, 0⟩

def removeMapping (port : Int) (p : UDPProxy) : UDPProxy :=
  { p with mappings := p.mappings.erase port }

def ports (p : UDPProxy) : List Int := p.mappings.keys

/-- The second half of `addMapping`: open a socket and enter its listener. -/
def listen (deny : Deny) (m : TunnelMapping) (p : UDPProxy) : Except String Unit × UDPProxy :=
  let p' := { p with listens := p.listens + 1 }
  match deny p.listens with
  | some err => (.error ("listen udp on port " ++ itoa m.forwarderPort ++ ": " ++ err), p')
  | none =>
      match p.mappings.lookup m.forwarderPort with
      | some _ => (.error ("mapping already exists for port " ++ itoa m.forwarderPort), p')
      | none =>
          let pl : PortListener :=
            ⟨p.listens, m.gatewayAddress, m.revision, m.tunnelName, m.tunnelNamespace⟩
          (.ok (), { p' with mappings := p.mappings.insert m.forwarderPort pl })

def addMapping (deny : Deny) (m : TunnelMapping) (p : UDPProxy) : Except String Unit × UDPProxy :=
  match p.mappings.lookup m.forwarderPort with
  | none => p.listen deny m
  | some existing =>
      if existing.SameTunnel m ∧ m.revision < existing.revision then (.ok (), p)
      else if existing.SameTunnel m ∧ existing.gateway = m.gatewayAddress then
        if existing.revision < m.revision then
          (.ok (), { p with mappings :=
            p.mappings.insert m.forwarderPort { existing with revision := m.revision } })
        else (.ok (), p)
      else (p.removeMapping m.forwarderPort).listen deny m

def applyMapping (deny : Deny) (mapping : Option TunnelMapping) (p : UDPProxy) :
    Except String Unit × UDPProxy :=
  match mapping with
  | none => (.error "invalid tunnel mapping", p)
  | some m =>
      if m.forwarderPort ≤ 0 ∨ m.gatewayAddress = "" then (.error "invalid tunnel mapping", p)
      else p.addMapping deny m

/-- The first loop of `ReconcileMappings`. -/
def applyMappings (deny : Deny) : List (Option TunnelMapping) → UDPProxy →
    Except String Unit × UDPProxy
  | [], p => (.ok (), p)
  | none :: mappings, p => applyMappings deny mappings p
  | some m :: mappings, p =>
      if m.forwarderPort ≤ 0 ∨ m.gatewayAddress = "" then applyMappings deny mappings p
      else
        match p.applyMapping deny (some m) with
        | (.error err, p') =>
            (.error ("apply mapping for port " ++ itoa m.forwarderPort ++ ": " ++ err), p')
        | (.ok (), p') => applyMappings deny mappings p'

def desired (mappings : List (Option TunnelMapping)) : List Int :=
  mappings.filterMap fun mapping =>
    match mapping with
    | none => none
    | some m => if m.forwarderPort ≤ 0 ∨ m.gatewayAddress = "" then none else some m.forwarderPort

def removeStale (mappings : List (Option TunnelMapping)) (p : UDPProxy) : UDPProxy :=
  p.ports.foldl (fun p port => if port ∈ desired mappings then p else p.removeMapping port) p

def reconcileMappings (deny : Deny) (mappings : List (Option TunnelMapping)) (p : UDPProxy) :
    Except String Unit × UDPProxy :=
  match p.applyMappings deny mappings with
  | (.error err, p') => (.error err, p')
  | (.ok (), p') => (.ok (), p'.removeStale mappings)

end UDPProxy

/-- What is left of `handleUpdate` after the table has been written. -/
inductive Handled where
  | ignored
  | removed
  | failed (err : String)
  | acking (m : TunnelMapping)
  deriving DecidableEq

def handleUpdate (deny : Deny) (update : Option TunnelUpdate) (p : UDPProxy) : Handled × UDPProxy :=
  match update with
  | some ⟨type, some m⟩ =>
      if m.forwarderPort ≤ 0 then (.ignored, p)
      else match type with
        | .added | .modified =>
            if trimSpace m.gatewayAddress = "" then (.ignored, p)
            else match p.applyMapping deny (some m) with
              | (.error err, p') =>
                  (.failed ("apply tunnel update for port " ++ itoa m.forwarderPort ++ ": " ++ err),
                    p')
              | (.ok (), p') => (.acking m, p')
        | .deleted => (.removed, p.removeMapping m.forwarderPort)
        | .sync | .unrecognized _ => (.ignored, p)
  | _ => (.ignored, p)

/-- The acknowledgements that `applySnapshot` sends, in order. -/
def snapshotAcks (snapshot : ForwarderConfig) : List TunnelMapping :=
  snapshot.tunnels.filterMap fun mapping =>
    match mapping with
    | none => none
    | some m => if m.forwarderPort ≤ 0 ∨ trimSpace m.gatewayAddress = "" then none else some m

def ackRequest (forwarderID : String) (m : TunnelMapping) : AckRequest :=
  ⟨forwarderID, m.tunnelName, m.tunnelNamespace, m.revision⟩

namespace UDPProxy

variable {deny : Deny} {m : TunnelMapping} {p p' : UDPProxy}

/-- The listener that was at the port is the same Tunnel's with a larger revision. -/
def Newer (m : TunnelMapping) (before : Option PortListener) : Prop :=
  ∃ l, before = some l ∧ l.SameTunnel m ∧ m.revision < l.revision

/-- The listener a mapping leaves at its port: the mapping itself, or the one that was there
if that one is newer. -/
def Serves (m : TunnelMapping) (before : Option PortListener) (l : PortListener) : Prop :=
  l.SameTunnel m ∧ ((¬ Newer m before ∧ l.gateway = m.gatewayAddress ∧ l.revision = m.revision) ∨
    (before = some l ∧ m.revision < l.revision))

theorem listen_ok (h : p.listen deny m = (.ok (), p')) :
    p.mappings.lookup m.forwarderPort = none ∧ ∀ port, p'.mappings.lookup port =
      if port = m.forwarderPort then
        some ⟨p.listens, m.gatewayAddress, m.revision, m.tunnelName, m.tunnelNamespace⟩
      else p.mappings.lookup port := by
  unfold listen at h
  cases hd : deny p.listens with
  | some err => simp [hd] at h
  | none =>
      cases hl : p.mappings.lookup m.forwarderPort with
      | some l => simp [hd, hl] at h
      | none =>
          simp only [hd, hl, Prod.mk.injEq, true_and] at h
          subst h
          exact ⟨rfl, fun port => Table.lookup_insert_eq _ _ _ _⟩

theorem addMapping_ok (h : p.addMapping deny m = (.ok (), p')) :
    (∃ l, p'.mappings.lookup m.forwarderPort = some l ∧
      Serves m (p.mappings.lookup m.forwarderPort) l) ∧
      ∀ port, port ≠ m.forwarderPort → p'.mappings.lookup port = p.mappings.lookup port := by
  have hnew : ∀ {q : UDPProxy} {before}, ¬ Newer m before → q.listen deny m = (.ok (), p') →
      (∀ port, port ≠ m.forwarderPort → q.mappings.lookup port = p.mappings.lookup port) →
      (∃ l, p'.mappings.lookup m.forwarderPort = some l ∧ Serves m before l) ∧
      ∀ port, port ≠ m.forwarderPort → p'.mappings.lookup port = p.mappings.lookup port := by
    intro q before hno hq hother
    obtain ⟨-, hlook⟩ := listen_ok hq
    refine ⟨⟨_, (hlook _).trans (if_pos rfl), ⟨rfl, rfl⟩, Or.inl ⟨hno, rfl, rfl⟩⟩,
      fun port hp => ?_⟩
    rw [hlook, if_neg hp, hother port hp]
  unfold addMapping at h
  cases hl : p.mappings.lookup m.forwarderPort with
  | none =>
      simp only [hl] at h
      exact hnew (by rintro ⟨l, hl, -⟩; cases hl) h fun _ _ => rfl
  | some existing =>
      simp only [hl] at h
      split_ifs at h with h₁ h₂ h₃
      · cases h
        exact ⟨⟨existing, hl, h₁.1, Or.inr ⟨rfl, h₁.2⟩⟩, fun _ _ => rfl⟩
      all_goals
        have hno : ¬ Newer m (some existing) := by
          rintro ⟨l, hl, hlt⟩
          cases hl
          exact h₁ hlt
      · cases h
        refine ⟨⟨_, (Table.lookup_insert_eq _ _ _ _).trans (if_pos rfl), h₂.1,
          Or.inl ⟨hno, h₂.2, rfl⟩⟩, ?_⟩
        exact fun port hp => (Table.lookup_insert_eq _ _ _ _).trans (if_neg hp)
      · cases h
        refine ⟨⟨existing, hl, h₂.1, Or.inl ⟨hno, h₂.2, ?_⟩⟩, fun _ _ => rfl⟩
        have hge : ¬ m.revision < existing.revision := fun hlt => h₁ ⟨h₂.1, hlt⟩
        omega
      · exact hnew hno h fun port hp => (Table.lookup_erase_eq _ _ _).trans (if_neg hp)

theorem applyMapping_ok (h : p.applyMapping deny (some m) = (.ok (), p')) :
    m.Valid ∧ p.addMapping deny m = (.ok (), p') := by
  simp only [applyMapping] at h
  split_ifs at h with hv
  · cases h
  · simp only [not_or] at hv
    exact ⟨⟨by omega, hv.2⟩, h⟩

@[simp] theorem removeMapping_lookup (port q : Int) (p : UDPProxy) :
    (p.removeMapping port).mappings.lookup q = if q = port then none else p.mappings.lookup q :=
  Table.lookup_erase_eq _ _ _

theorem mem_desired {mappings : List (Option TunnelMapping)} {port : Int} :
    port ∈ desired mappings ↔ ∃ m, some m ∈ mappings ∧ m.Valid ∧ m.forwarderPort = port := by
  simp only [desired, List.mem_filterMap]
  constructor
  · rintro ⟨_ | m, hm, h⟩
    · cases h
    · simp only at h
      split_ifs at h with hv
      simp only [not_or] at hv
      exact ⟨m, hm, ⟨by omega, hv.2⟩, Option.some.inj h⟩
  · rintro ⟨m, hm, ⟨hp, hg⟩, rfl⟩
    exact ⟨some m, hm, if_neg (not_or.mpr ⟨by omega, hg⟩)⟩

theorem removeStale_lookup (mappings : List (Option TunnelMapping)) (p : UDPProxy) (port : Int) :
    (p.removeStale mappings).mappings.lookup port =
      if port ∈ desired mappings then p.mappings.lookup port else none := by
  have hfold : ∀ (ports : List Int) (q : UDPProxy),
      (ports.foldl (fun q port => if port ∈ desired mappings then q else q.removeMapping port)
        q).mappings.lookup port =
        if port ∉ desired mappings ∧ port ∈ ports then none else q.mappings.lookup port := by
    intro ports
    induction ports with
    | nil => simp
    | cons a ports ih =>
        intro q
        rw [List.foldl_cons, ih]
        by_cases ha : a ∈ desired mappings
        · rw [if_pos ha]
          by_cases hpa : port = a
          · subst hpa
            simp [ha]
          · simp [hpa]
        · rw [if_neg ha, removeMapping_lookup]
          by_cases hpa : port = a
          · subst hpa
            simp [ha]
          · simp [hpa]
  unfold removeStale
  rw [hfold]
  by_cases hd : port ∈ desired mappings
  · simp [hd]
  · rw [if_neg hd]
    split_ifs with hp
    · rfl
    · have hnot : port ∉ p.mappings.keys := fun hmem => hp ⟨hd, hmem⟩
      cases hl : p.mappings.lookup port with
      | none => rfl
      | some l => exact absurd ((Table.mem_keys_iff _ _).mpr ⟨l, hl⟩) hnot

end UDPProxy
end TunnelOperator
