import TunnelOperator.Program
import TunnelOperator.Table
import TunnelOperator.Mapping

/-!
# The forwarder server

`internal/grpc`: the registered update streams with their bounded queues, the
acknowledgement table, and `GetConfig` as an interaction program over the client and the
port allocator. Streams are identified by a reference, as the source's map is keyed by
pointers.
-/

namespace TunnelOperator
open Interaction GoText

structure ForwarderStream where
  id : String
  updates : List TunnelUpdate
  overflow : Bool
  deriving DecidableEq

structure ForwarderServer where
  streams : Table ℕ ForwarderStream
  acks : Table String (Table String Int)
  legacyForwarderSeq : ℕ

namespace ForwarderServer

def new : ForwarderServer := ⟨∅, ∅, 0⟩

/-- Capacity of a stream's `updates` channel. -/
def updatesCapacity : ℕ := 64

/-- The counter is an `atomic.Uint64`. -/
def streamID (s : ForwarderServer) (id : String) : String × ForwarderServer :=
  if id ≠ "" then (id, s)
  else
    let n : ℕ := (s.legacyForwarderSeq + 1) % 2 ^ 64
    ("legacy-" ++ itoa n, { s with legacyForwarderSeq := n })

def connectedLocked (s : ForwarderServer) (id : String) : Bool :=
  s.streams.values.any fun stream => stream.id = id

def addStream (s : ForwarderServer) (ref : ℕ) (stream : ForwarderStream) : ForwarderServer :=
  { s with streams := s.streams.insert ref stream }

def removeStream (s : ForwarderServer) (ref : ℕ) (id : String) : ForwarderServer :=
  let s := { s with streams := s.streams.erase ref }
  if s.connectedLocked id then s else { s with acks := s.acks.erase id }

def ackedRevision (s : ForwarderServer) (id key : String) : Int :=
  match s.acks.lookup id with
  | none => 0
  | some revisions => (revisions.lookup key).getD 0

def ack (s : ForwarderServer) (request : AckRequest) : Except String Unit × ForwarderServer :=
  if request.forwarderId = "" ∨ request.tunnelName = "" ∨ request.tunnelNamespace = "" then
    (.error "forwarder_id, tunnel_name, and tunnel_namespace are required", s)
  else if s.connectedLocked request.forwarderId = false then
    (.error "forwarder is not connected", s)
  else
    let revisions := (s.acks.lookup request.forwarderId).getD ∅
    let key := request.tunnelNamespace ++ "/" ++ request.tunnelName
    let revisions := if (revisions.lookup key).getD 0 < request.revision then
      revisions.insert key request.revision else revisions
    (.ok (), { s with acks := s.acks.insert request.forwarderId revisions })

def missingAcks (s : ForwarderServer) (ns name : String) (revision : Int) : List String :=
  (s.streams.values.map (·.id)).dedup.filter fun id =>
    s.ackedRevision id (ns ++ "/" ++ name) < revision

def offer (update : TunnelUpdate) (stream : ForwarderStream) : ForwarderStream :=
  if stream.updates.length < updatesCapacity then
    { stream with updates := stream.updates ++ [update] }
  else { stream with overflow := true }

def notifyUpdate (s : ForwarderServer) (update : Option TunnelUpdate) : ForwarderServer :=
  match update with
  | none => s
  | some u => { s with streams := s.streams.mapValues (offer u) }

theorem streamID_streams (s : ForwarderServer) (id : String) :
    (s.streamID id).2.streams = s.streams := by
  unfold streamID
  split_ifs
  · rfl
  · rfl

theorem streamID_acks (s : ForwarderServer) (id : String) : (s.streamID id).2.acks = s.acks := by
  unfold streamID
  split_ifs
  · rfl
  · rfl

theorem removeStream_streams (s : ForwarderServer) (ref : ℕ) (id : String) :
    (s.removeStream ref id).streams = s.streams.erase ref := by
  unfold removeStream
  dsimp only
  split_ifs
  · rfl
  · rfl

end ForwarderServer

inductive ServerOp where
  | listTunnels
  | loadExisting (key : String) (port : Int)
  | getPod (key : NamespacedName)
  | getService (key : ObjectKey)

abbrev ServerOp.Ans : ServerOp → Type
  | .listTunnels => Except ApiError (List Tunnel)
  | .loadExisting _ _ => Unit
  | .getPod _ => Except ApiError Pod
  | .getService _ => Except ApiError Service

abbrev ServerProg (α : Type) := Program ServerOp.Ans α

/-- The fields of a `ForwarderServer` that are fixed when it is built. -/
structure ServerConfig where
  allocator : Bool
  forwarderServiceKey : ObjectKey

namespace ServerConfig

variable (s : ServerConfig)

def serves (tunnel : Tunnel) : Bool :=
  !(tunnel.deletionTimestamp || tunnel.status.phase = .terminated ||
    tunnel.status.phase = .failed || tunnel.status.forwarderPort ≤ 0 ||
    tunnel.status.gatewayPodIP = "" || tunnel.status.gatewayPublicKey = "")

def mappingTo (tunnel : Tunnel) (gatewayAddress : String) : TunnelMapping where
  tunnelName := tunnel.key.name
  tunnelNamespace := tunnel.key.ns
  forwarderPort := tunnel.status.forwarderPort
  gatewayAddress := gatewayAddress
  revision := tunnel.status.mappingRevision
  gatewayPodUid := tunnel.status.gatewayPodUID
  gatewayPodIp := tunnel.status.gatewayPodIP
  issuer := tunnel.uid

def tunnelMapping (tunnel : Tunnel) : ServerProg (Except String TunnelMapping) :=
  if tunnel.status.gatewayPodIP ≠ "" then
    .pure (.ok (mappingTo tunnel (joinHostPort tunnel.status.gatewayPodIP (itoa gatewayPort))))
  else
    let byName := mappingTo tunnel (joinHostPort tunnel.status.gatewayPodName (itoa gatewayPort))
    if tunnel.status.gatewayPodName = "" then .pure (.ok byName)
    else .call (.getPod ⟨tunnel.key.ns, tunnel.status.gatewayPodName, tunnel.key.slashFree⟩) fun
      | .ok pod =>
          if pod.status.podIP ≠ "" then
            .pure (.ok (mappingTo tunnel (joinHostPort pod.status.podIP (itoa gatewayPort))))
          else .pure (.ok byName)
      | .error .notFound => .pure (.ok byName)
      | .error e => .pure (.error ("getting gateway pod " ++ tunnel.key.ns ++ "/" ++
          tunnel.status.gatewayPodName ++ ": " ++ e.message))

def loadExisting (tunnel : Tunnel) : ServerProg Unit :=
  if s.allocator then .call (.loadExisting (tunnelKey tunnel.key) tunnel.status.forwarderPort) .pure
  else .pure ()

/-- The loop of `GetConfig` over the listed Tunnels. -/
def collectMappings : List Tunnel → List TunnelMapping →
    ServerProg (Except String (List TunnelMapping))
  | [], mappings => .pure (.ok mappings)
  | tunnel :: tunnels, mappings =>
      if serves tunnel then
        (s.loadExisting tunnel).bind fun _ => (tunnelMapping tunnel).bind fun
          | .error e => .pure (.error e)
          | .ok mapping => collectMappings tunnels (mappings ++ [mapping])
      else collectMappings tunnels mappings

def resolveVIP : ServerProg String :=
  if s.forwarderServiceKey.name = "" then .pure ""
  else .call (.getService s.forwarderServiceKey) fun
    | .error _ => .pure ""
    | .ok svc => .pure ((svc.ingressIPs.find? (· ≠ "")).getD "")

/-- `GetConfig` after the listing. -/
def configOf (tunnels : List Tunnel) : ServerProg (Except String ForwarderConfig) :=
  (s.collectMappings tunnels []).bind fun
    | .error e => .pure (.error e)
    | .ok mappings => s.resolveVIP.bind fun vip =>
        .pure (.ok ⟨if vip ≠ "" then some vip else none, mappings.map some⟩)

def getConfig : ServerProg (Except String ForwarderConfig) :=
  .call .listTunnels fun
    | .error e => .pure (.error ("listing tunnels: " ++ e.message))
    | .ok tunnels => s.configOf tunnels

end ServerConfig
end TunnelOperator
