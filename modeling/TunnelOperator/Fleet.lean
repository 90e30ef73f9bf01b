import TunnelOperator.InstalledAcks
import TunnelOperator.OperatorRun
import TunnelOperator.Snapshot

/-!
# The operator and its forwarders

The reconciler, the forwarder server and any number of forwarders in one system. Between two
calls of a `Reconcile`, users and the kubelet change the cluster, `GetConfig` calls advance by
single operations, streams are registered, drained and ended, and forwarders apply what they
receive and acknowledge it. An acknowledgement may be refused, get lost on the way, take effect
although its answer is lost, or take effect after the forwarder has given it up.

A forwarder runs `WatchUpdates`. When it starts over it does not cancel its stream, so the
server may have several streams of one forwarder.
-/

namespace TunnelOperator
open Interaction

/-- Where a forwarder is. It fetches a configuration before its first stream (`none`) and for
every stream; `acking` is the loop of `applySnapshot`, `acknowledging` that of `handleUpdate`. -/
inductive Duty where
  | starting
  | fetching (ref : Option ℕ) (listed : List Tunnel)
    (call : ServerProg (Except String ForwarderConfig))
  | fetched (ref : Option ℕ) (snapshot : ForwarderConfig)
  | connecting
  | waiting (ref : ℕ)
  | synced (ref : ℕ)
  | acking (ref : ℕ) (m : TunnelMapping) (mappings : List TunnelMapping)
  | streaming (ref : ℕ)
  | acknowledging (ref : ℕ) (m : TunnelMapping)
  | stopped

namespace Duty

def stream : Duty → Option ℕ
  | .fetching ref _ _ => ref
  | .fetched ref _ => ref
  | .waiting ref => some ref
  | .synced ref => some ref
  | .acking ref _ _ => some ref
  | .streaming ref => some ref
  | .acknowledging ref _ => some ref
  | _ => none

def fetchesFor : Duty → Option (Option ℕ)
  | .starting => some none
  | .synced ref => some (some ref)
  | _ => none

def fetchFailed : Option ℕ → Duty
  | none => .starting
  | some _ => .connecting

/-- An error of the first configuration ends the process, a later one starts over. -/
def applyFailed : Option ℕ → Duty
  | none => .stopped
  | some _ => .connecting

def acks (ref : ℕ) : List TunnelMapping → Duty
  | [] => .streaming ref
  | m :: mappings => .acking ref m mappings

def applied (snapshot : ForwarderConfig) : Option ℕ → Duty
  | none => .connecting
  | some ref => .acks ref (snapshotAcks snapshot)

/-- The mappings that the forwarder has taken over and not yet dealt with. -/
def mappings : Duty → List TunnelMapping
  | .fetching _ listed _ => (listed.filter ServerConfig.serves).map ServerConfig.servedMapping
  | .fetched _ snapshot => snapshot.tunnels.filterMap id
  | .acking _ m mappings => m :: mappings
  | .acknowledging _ m => [m]
  | _ => []

def owed : Duty → List TunnelMapping
  | .acking _ m mappings => m :: mappings
  | .acknowledging _ m => [m]
  | _ => []

/-- After the next `Ack` call. An error ends `applySnapshot`, but an error of `handleUpdate` is
only logged. -/
def acked (ok : Bool) : Duty → Duty
  | .acking ref _ mappings => if ok then .acks ref mappings else .connecting
  | .acknowledging ref _ => .streaming ref
  | duty => duty

end Duty

structure Forwarder where
  duty : Duty
  wire : List TunnelUpdate
  proxy : UDPProxy

namespace Forwarder

def new : Forwarder := ⟨.starting, [], .new⟩

/-- The forwarder after a step, and the mappings that it has applied in it. -/
abbrev Moved := Forwarder × List TunnelMapping

/-- The entries that `ReconcileMappings` applies. -/
def validMappings (snapshot : ForwarderConfig) : List TunnelMapping :=
  (snapshot.tunnels.filterMap id).filter fun m => m.Valid

def apply (deny : Deny) (f : Forwarder) : Option Moved :=
  match f.duty with
  | .fetched ref snapshot =>
      match f.proxy.reconcileMappings deny snapshot.tunnels with
      | (.ok (), proxy) =>
          some ({ f with duty := .applied snapshot ref, proxy := proxy }, validMappings snapshot)
      | (.error _, proxy) => some ({ f with duty := .applyFailed ref, proxy := proxy }, [])
  | _ => none

def receive (deny : Deny) (f : Forwarder) : Option Moved :=
  match f.duty, f.wire with
  | .waiting ref, u :: wire =>
      some ({ f with
        duty := if u.type = .sync then .synced ref else .connecting, wire := wire }, [])
  | .streaming ref, u :: wire =>
      if u.type = .sync then some ({ f with wire := wire }, [])
      else
        match handleUpdate deny (some u) f.proxy with
        | (.acking m, proxy) => some (⟨.acknowledging ref m, wire, proxy⟩, [m])
        | (_, proxy) => some ({ f with wire := wire, proxy := proxy }, [])
  | _, _ => none

/-- A fetch fails, or the stream breaks while the forwarder is about to receive. -/
def disconnect (f : Forwarder) : Option Forwarder :=
  match f.duty with
  | .fetching ref _ _ => some { f with duty := .fetchFailed ref }
  | .waiting _ => some { f with duty := .connecting }
  | .synced _ => some { f with duty := .connecting }
  | .streaming _ => some { f with duty := .connecting }
  | _ => none

/-- The forwarder holds a mapping: in a message that it has still to receive, or as its own. -/
def Holds (f : Forwarder) (m : TunnelMapping) : Prop :=
  (∃ u ∈ f.wire, u.Upserts m) ∨ m ∈ f.duty.mappings

end Forwarder

inductive AckOutcome where
  | answered
  | answerLost
  | lost
  | late

/-- `delayed` are the acknowledgements on their way that no forwarder waits for. `applied` and
`present` are records for the proofs: the mappings every forwarder has applied, and the streams
that have been registered all the time since the current `Reconcile` began. -/
structure Fleet where
  world : World
  server : ForwarderServer
  nextRef : ℕ
  forwarders : Table String Forwarder
  delayed : List (String × TunnelMapping)
  applied : List (String × TunnelMapping)
  present : List ℕ

namespace Fleet

def initial (allocator : PortAllocator) : Fleet := ⟨.initial allocator, .new, 0, ∅, [], [], []⟩

inductive Outside where
  | cluster (e : World.Outside)
  | join (id : String)
  | list (id : String) (c : ServerChoice)
  | serve (id : String) (c : ServerChoice)
  | apply (id : String) (deny : Deny)
  | register (id : String)
  | send (id : String)
  | receive (id : String) (deny : Deny)
  | disconnect (id : String)
  | ack (id : String) (outcome : AckOutcome)
  | deliver (i : ℕ)
  | endStream (ref : ℕ)

def advance (id : String) (moved : Forwarder.Moved) (s : Fleet) : Fleet :=
  { s with
    forwarders := s.forwarders.insert id moved.1
    applied := s.applied ++ moved.2.map fun m => (id, m) }

def join (id : String) (s : Fleet) : Option Fleet :=
  if id = "" ∨ (s.forwarders.lookup id).isSome then none else some (s.advance id (.new, []))

/-- The first operation of a `GetConfig` call. -/
def list (cfg : ServerConfig) (id : String) (c : ServerChoice) (s : Fleet) : Option Fleet := do
  let f ← s.forwarders.lookup id
  let ref ← f.duty.fetchesFor
  match (World.serverExec .listTunnels c s.world).1 with
  | .error _ => some (s.advance id ({ f with duty := .fetchFailed ref }, []))
  | .ok listed =>
      some (s.advance id ({ f with duty := .fetching ref listed (cfg.configOf listed) }, []))

/-- The next operation of a `GetConfig` call, or its return. -/
def serve (id : String) (c : ServerChoice) (s : Fleet) : Option Fleet := do
  let f ← s.forwarders.lookup id
  match f.duty with
  | .fetching ref _ (.pure (.ok config)) =>
      some (s.advance id ({ f with duty := .fetched ref config }, []))
  | .fetching ref _ (.pure (.error _)) =>
      some (s.advance id ({ f with duty := .fetchFailed ref }, []))
  | .fetching ref listed (.call op next) =>
      let a := World.serverExec op c s.world
      some ({ s with world := a.2 }.advance id
        ({ f with duty := .fetching ref listed (next a.1) }, []))
  | _ => none

/-- `StreamUpdates` registers a stream and sends SYNC. -/
def register (id : String) (s : Fleet) : Option Fleet := do
  let f ← s.forwarders.lookup id
  match f.duty with
  | .connecting =>
      let named := s.server.streamID id
      some ({ s with
        server := named.2.addStream s.nextRef ⟨named.1, [], false⟩
        nextRef := s.nextRef + 1 }.advance id
          ({ f with duty := .waiting s.nextRef, wire := [⟨.sync, none⟩] }, []))
  | _ => none

/-- `StreamUpdates` sends the next update of the forwarder's stream. -/
def send (id : String) (s : Fleet) : Option Fleet := do
  let f ← s.forwarders.lookup id
  let ref ← f.duty.stream
  let stream ← s.server.streams.lookup ref
  match stream.updates with
  | [] => none
  | u :: updates =>
      some ({ s with
        server := s.server.addStream ref { stream with updates := updates } }.advance id
          ({ f with wire := f.wire ++ [u] }, []))

def ack (id : String) (outcome : AckOutcome) (s : Fleet) : Option Fleet := do
  let f ← s.forwarders.lookup id
  let m ← f.duty.owed.head?
  let answer := s.server.ack (ackRequest id m)
  match outcome with
  | .answered => some ({ s with server := answer.2 }.advance id
      ({ f with duty := f.duty.acked answer.1.isOk }, []))
  | .answerLost =>
      some ({ s with server := answer.2 }.advance id ({ f with duty := f.duty.acked false }, []))
  | .lost => some (s.advance id ({ f with duty := f.duty.acked false }, []))
  | .late => some ({ s with delayed := (id, m) :: s.delayed }.advance id
      ({ f with duty := f.duty.acked false }, []))

def deliver (i : ℕ) (s : Fleet) : Option Fleet :=
  s.delayed[i]?.map fun p =>
    { s with server := (s.server.ack (ackRequest p.1 p.2)).2, delayed := s.delayed.eraseIdx i }

/-- `StreamUpdates` returns. -/
def endStream (ref : ℕ) (s : Fleet) : Option Fleet :=
  (s.server.streams.lookup ref).map fun stream =>
    { s with server := s.server.removeStream ref stream.id, present := s.present.filter (· ≠ ref) }

def outside (cfg : ServerConfig) (e : Outside) (s : Fleet) : Option Fleet :=
  match e with
  | .cluster e => (s.world.outside e).map fun w => { s with world := w }
  | .join id => s.join id
  | .list id c => s.list cfg id c
  | .serve id c => s.serve id c
  | .apply id deny =>
      ((s.forwarders.lookup id).bind (Forwarder.apply deny)).map fun f => s.advance id f
  | .register id => s.register id
  | .send id => s.send id
  | .receive id deny =>
      ((s.forwarders.lookup id).bind (Forwarder.receive deny)).map fun f => s.advance id f
  | .disconnect id =>
      ((s.forwarders.lookup id).bind Forwarder.disconnect).map fun f => s.advance id (f, [])
  | .ack id outcome => s.ack id outcome
  | .deliver i => s.deliver i
  | .endStream ref => s.endStream ref

/-- The reconciler's calls, with the forwarder server in place of its stand-ins. -/
def exec : (op : Op) → Choice → Fleet → op.Ans × Fleet
  | .missingAcks ns name revision, _, s => (s.server.missingAcks ns name revision, s)
  | .notifyUpdate u, c, s =>
      ((), { s with
        world := (World.exec (.notifyUpdate u) c s.world).2
        server := s.server.notifyUpdate (some u) })
  | op, c, s =>
      let a := World.exec op c s.world
      (a.1, { s with world := a.2 })

/-- A mapping is on its way to an acknowledgement. -/
inductive InFlight (s : Fleet) (m : TunnelMapping) : Prop where
  | queued {ref stream u} : s.server.streams.lookup ref = some stream → u ∈ stream.updates →
      u.Upserts m → InFlight s m
  | held {id f} : s.forwarders.lookup id = some f → f.Holds m → InFlight s m
  | delayed {id} : (id, m) ∈ s.delayed → InFlight s m

end Fleet

def TunnelMapping.Names (m : TunnelMapping) (k : NamespacedName) : Prop :=
  m.tunnelNamespace = k.ns ∧ m.tunnelName = k.name

/-- Nothing is left of the mappings that were issued under a name: none is in flight, and no
forwarder has acknowledged one. -/
def Fleet.Quiet (s : Fleet) (k : NamespacedName) : Prop :=
  (∀ m, s.InFlight m → ¬ m.Names k) ∧ ∀ id, s.server.ackedRevision id (tunnelKey k) ≤ 0

def fleetOperator (r : TunnelReconciler) (cfg : ServerConfig) :
    Machine Op.Ans (Except String Result) NamespacedName Fleet Choice Fleet.Outside Empty where
  exec := Fleet.exec
  program := r.reconcile
  onStart := fun _ s => { s with present := s.server.streams.keys }
  env := fun e s => s.outside cfg e
  crash := fun k _ => nomatch k

end TunnelOperator
