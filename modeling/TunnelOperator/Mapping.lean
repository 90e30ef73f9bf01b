import TunnelOperator.Gateway

/-!
# Forwarder protocol messages

The messages of `forwarder.proto`. Optional scalar fields are read through their
getters, which give the zero value when unset, so they are plain values here.
`issuer` belongs to the proofs: it is the identity of the Tunnel object a mapping
was built from, and no modelled function reads it.
-/

namespace TunnelOperator

structure TunnelMapping where
  tunnelName : String
  tunnelNamespace : String
  forwarderPort : Int
  gatewayAddress : String
  revision : Int
  gatewayPodUid : String
  gatewayPodIp : String
  issuer : ℕ
  deriving DecidableEq

inductive UpdateType where
  | added
  | modified
  | deleted
  | sync
  | unrecognized (n : Int)
  deriving DecidableEq

structure TunnelUpdate where
  type : UpdateType
  tunnel : Option TunnelMapping
  deriving DecidableEq

def TunnelUpdate.Upserts (u : TunnelUpdate) (m : TunnelMapping) : Prop :=
  (u.type = .added ∨ u.type = .modified) ∧ u.tunnel = some m

theorem TunnelUpdate.Upserts.ne_deleted {u : TunnelUpdate} {m : TunnelMapping} (h : u.Upserts m) :
    u.type ≠ .deleted := by
  rcases h.1 with ha | ha
  · rw [ha]
    exact UpdateType.noConfusion
  · rw [ha]
    exact UpdateType.noConfusion

def TunnelUpdate.Deletes (u : TunnelUpdate) (m : TunnelMapping) : Prop :=
  u.type = .deleted ∧ u.tunnel = some m

structure AckRequest where
  forwarderId : String
  tunnelName : String
  tunnelNamespace : String
  revision : Int
  deriving DecidableEq

structure ForwarderConfig where
  lbVip : Option String
  tunnels : List (Option TunnelMapping)
  deriving DecidableEq

def ForwarderConfig.mappingsFor (config : ForwarderConfig) (k : NamespacedName) :
    List TunnelMapping :=
  (config.tunnels.filterMap id).filter fun m => m.tunnelName = k.name ∧ m.tunnelNamespace = k.ns

end TunnelOperator
