import TunnelOperator.EventRun
import TunnelOperator.Fleet
import TunnelOperator.ForwarderProcess
import TunnelOperator.Monitor

/-!
# The forwarder's program and the forwarder of the fleet

A forwarder process is its program together with the messages it has still to receive and its
proxy. The fleet has a forwarder as a `Duty` that changes in single steps. Here the process is run
call by call, with any answers that its messages and its proxy admit. Every call of the process is
labelled with the action that it is for the fleet's forwarder, if any, and the two are run in
lockstep: the forwarder can always take the action of the process, and after every step it has the
same proxy and the same messages. Only an update that the process has received and not yet passed
to its proxy counts as received by the process alone. In a fleet whose operator admits an action,
its forwarder takes it by the steps of the fleet.
-/

namespace TunnelOperator
open Interaction GoText

namespace Forwarder

/-- What a forwarder does, with everything that others decide about it: the configuration it is
given, the ports it cannot listen on, the stream, the message, and the answer to an acknowledgement.
-/
inductive Action where
  | fetch (config : Option ForwarderConfig)
  | apply (mappings : List (Option TunnelMapping)) (deny : Deny)
  | register (forwarderID : String) (ref : ℕ)
  | send (u : TunnelUpdate)
  | receive (ref : ℕ) (u : TunnelUpdate) (deny : Deny)
  | disconnect (ref : ℕ)
  | ack (request : AckRequest) (ok : Bool)

/-- The steps of a forwarder `id` in the fleet, the fetching of a configuration as one of them. A
message to a forwarder without a stream is lost. -/
def act (id : String) (f : Forwarder) : Action → Option Forwarder
  | .fetch config =>
      f.duty.fetchesFor.map fun ref =>
        { f with duty := config.elim (.fetchFailed ref) (.fetched ref) }
  | .apply mappings deny =>
      match f.duty with
      | .fetched _ snapshot =>
          if snapshot.tunnels = mappings then (f.apply deny).map Prod.fst else none
      | _ => none
  | .register forwarderID ref =>
      match f.duty with
      | .connecting =>
          if forwarderID = id then some { f with duty := .waiting ref, wire := [⟨.sync, none⟩] }
          else none
      | _ => none
  | .send u => some (if f.duty.stream = none then f else { f with wire := f.wire ++ [u] })
  | .receive ref u deny =>
      if f.duty.stream = some ref ∧ f.wire.head? = some u then (f.receive deny).map Prod.fst
        else none
  | .disconnect ref => if f.duty.stream = some ref then f.disconnect else none
  | .ack request ok =>
      if f.duty.owed.head?.map (ackRequest id) = some request then
        some { f with duty := f.duty.acked ok }
      else none

end Forwarder

namespace Fleet

/-- What an action takes of the others: a configuration that the operator may give, the number of
the next stream, an update that is queued, and an acknowledgement that the server accepts. -/
def Admits (cfg : ServerConfig) (f : Forwarder) (s : Fleet) : Forwarder.Action → Prop
  | .fetch (some config) => ∃ c, cfg.snapshot c s.world = .ok config
  | .register _ ref => ref = s.nextRef
  | .send u => ∀ ref, f.duty.stream = some ref → ∃ stream updates,
      s.server.streams.lookup ref = some stream ∧ stream.updates = u :: updates
  | .ack request ok => ok = true → (s.server.ack request).1.isOk = true
  | _ => True

section Admits

variable {cfg : ServerConfig} {s : Fleet} {id : String} {f f' : Forwarder}

/-- The fleet gets to a state in which the forwarder is `f`. -/
def Leads (cfg : ServerConfig) (s : Fleet) (id : String) (f : Forwarder) : Prop :=
  ∃ events s', runEvents (Fleet.outside cfg) events s = some s' ∧ s'.forwarders.lookup id = some f

theorem leads_advance (e : Outside) (moved : Forwarder.Moved)
    (h : ∃ s' : Fleet, s.outside cfg e = some (s'.advance id moved)) : s.Leads cfg id moved.1 := by
  obtain ⟨s', hs'⟩ := h
  exact ⟨[e], _, runEvents_cons.mpr ⟨_, hs', rfl⟩, AList.lookup_insert _⟩

theorem Leads.cons {e : Outside} {s' : Fleet} (h : s.outside cfg e = some s')
    (hs : s'.Leads cfg id f) :
    s.Leads cfg id f := by
  obtain ⟨events, s'', hrun, hf⟩ := hs
  exact ⟨e :: events, s'', runEvents_cons.mpr ⟨s', h, hrun⟩, hf⟩

/-- A `GetConfig` call that has begun gives its forwarder what it returns. -/
theorem leads_fetched {ref : Option ℕ} (listed : List Tunnel) {config : ForwarderConfig}
    {call : ServerProg (Except String ForwarderConfig)} {c : ℕ → ServerChoice}
    {trace : List (Call ServerOp.Ans)}
    (hf : s.forwarders.lookup id = some { f with duty := .fetching ref listed call })
    (hcall : (call.run World.serverExec c trace s.world).1 = .ok config) :
    s.Leads cfg id { f with duty := .fetched ref config } := by
  induction call generalizing s c trace with
  | pure a =>
      obtain rfl : a = .ok config := hcall
      refine leads_advance (.serve id (c 0)) ({ f with duty := .fetched ref config }, []) ⟨s, ?_⟩
      simp only [outside, serve, hf, Option.bind_eq_bind, Option.bind_some]
  | call op next ih =>
      have hserve : s.serve id (c 0) = some (advance id
          ({ f with duty := .fetching ref listed (next (World.serverExec op (c 0) s.world).1) }, [])
          { s with world := (World.serverExec op (c 0) s.world).2 }) := by
        simp only [serve, hf, Option.bind_eq_bind, Option.bind_some]
      refine Leads.cons (e := .serve id (c 0)) hserve (ih _ ?_ hcall)
      exact AList.lookup_insert _

theorem leads_fetch (hf : s.forwarders.lookup id = some f) {ref : Option ℕ}
    (href : f.duty.fetchesFor = some ref) (config : Option ForwarderConfig)
    (hadmits : s.Admits cfg f (.fetch config)) :
    s.Leads cfg id { f with duty := config.elim (.fetchFailed ref) (.fetched ref) } := by
  cases config with
  | none =>
      refine leads_advance (.list id { failure := some "" })
        ({ f with duty := .fetchFailed ref }, []) ⟨s, ?_⟩
      simp only [outside, list, hf, href, World.serverExec, Option.bind_eq_bind, Option.bind_some]
  | some config =>
      obtain ⟨c, hc⟩ := hadmits
      simp only [ServerConfig.snapshot, ServerConfig.getConfig, Program.run] at hc
      cases hfailure : (c 0).failure with
      | some err =>
          simp only [World.serverExec, hfailure, Program.run] at hc
          cases hc
      | none =>
          simp only [World.serverExec, hfailure] at hc
          have hlist : s.list cfg id (c 0) = some (s.advance id
              ({ f with
                duty := .fetching ref (s.world.listing (c 0))
                  (cfg.configOf (s.world.listing (c 0))) }, [])) := by
            simp only [list, hf, href, World.serverExec, hfailure, Option.bind_eq_bind,
              Option.bind_some]
          refine Leads.cons (e := .list id (c 0)) hlist
            (leads_fetched (s.world.listing (c 0)) ?_ hc)
          exact AList.lookup_insert _

theorem leads_register (hf : s.forwarders.lookup id = some f) (hduty : f.duty = .connecting) :
    s.Leads cfg id { f with duty := .waiting s.nextRef, wire := [⟨.sync, none⟩] } := by
  exact leads_advance (.register id) ({ f with duty := .waiting s.nextRef, wire := _ }, []) ⟨_, by
    simp only [outside, register, hf, hduty, Option.bind_eq_bind, Option.bind_some]
    rfl⟩

theorem leads_send (hf : s.forwarders.lookup id = some f) (u : TunnelUpdate)
    (hadmits : s.Admits cfg f (.send u)) :
    s.Leads cfg id (if f.duty.stream = none then f else { f with wire := f.wire ++ [u] }) := by
  cases hstream : f.duty.stream with
  | none => exact ⟨[], s, rfl, hf⟩
  | some ref =>
      obtain ⟨stream, updates, hlookup, hupdates⟩ := hadmits ref hstream
      rw [if_neg (Option.some_ne_none ref)]
      exact leads_advance (.send id) ({ f with wire := f.wire ++ [u] }, []) ⟨_, by
        simp only [outside, send, hf, hstream, hlookup, hupdates, Option.bind_eq_bind,
          Option.bind_some]
        rfl⟩

theorem leads_ack (hf : s.forwarders.lookup id = some f) {m : TunnelMapping}
    (howed : f.duty.owed.head? = some m) (ok : Bool)
    (hadmits : s.Admits cfg f (.ack (ackRequest id m) ok)) :
    s.Leads cfg id { f with duty := f.duty.acked ok } := by
  cases ok with
  | false =>
      refine leads_advance (.ack id .lost) ({ f with duty := f.duty.acked false }, []) ⟨s, ?_⟩
      simp only [outside, ack, hf, howed, Option.bind_eq_bind, Option.bind_some]
  | true =>
      exact leads_advance (.ack id .answered) ({ f with duty := f.duty.acked true }, []) ⟨_, by
        simp only [outside, ack, hf, howed, hadmits rfl, Option.bind_eq_bind, Option.bind_some]
        rfl⟩

theorem leads_of_act (hf : s.forwarders.lookup id = some f) {action : Forwarder.Action}
    (hact : f.act id action = some f') (hadmits : s.Admits cfg f action) : s.Leads cfg id f' := by
  cases action with
  | fetch config =>
      obtain ⟨ref, href, rfl⟩ := Option.map_eq_some_iff.mp hact
      exact leads_fetch hf href config hadmits
  | apply mappings deny =>
      simp only [Forwarder.act] at hact
      split at hact
      · split_ifs at hact
        obtain ⟨moved, hmoved, rfl⟩ := Option.map_eq_some_iff.mp hact
        refine leads_advance (.apply id deny) moved ⟨s, ?_⟩
        simp only [outside, hf, Option.bind_some, hmoved, Option.map_some]
      · cases hact
  | register forwarderID ref =>
      obtain rfl : ref = s.nextRef := hadmits
      simp only [Forwarder.act] at hact
      split at hact
      · split_ifs at hact
        cases hact
        exact leads_register hf (by assumption)
      · cases hact
  | send u =>
      cases hact
      exact leads_send hf u hadmits
  | receive ref u deny =>
      simp only [Forwarder.act] at hact
      split_ifs at hact
      obtain ⟨moved, hmoved, rfl⟩ := Option.map_eq_some_iff.mp hact
      refine leads_advance (.receive id deny) moved ⟨s, ?_⟩
      simp only [outside, hf, Option.bind_some, hmoved, Option.map_some]
  | disconnect ref =>
      simp only [Forwarder.act] at hact
      split_ifs at hact
      refine leads_advance (.disconnect id) (f', []) ⟨s, ?_⟩
      simp only [outside, hf, Option.bind_some, hact, Option.map_some]
  | ack request ok =>
      simp only [Forwarder.act] at hact
      split_ifs at hact with hrequest
      cases hact
      obtain ⟨m, howed, rfl⟩ := Option.map_eq_some_iff.mp hrequest
      exact leads_ack hf howed ok hadmits

end Admits
end Fleet

namespace ForwarderProcess

/-- What the environment decides: whether the context has ended, the error of a call, the number
of a new stream, a configuration and the ports that cannot be listened on. -/
structure ProcessChoice where
  ended : Bool
  err : Option String
  ref : ℕ
  config : ForwarderConfig
  deny : Deny

structure ProcessState (α : Type) where
  program : Run α
  wire : List TunnelUpdate
  proxy : UDPProxy

def answer {α : Type} (c : ProcessChoice) (a : α) : Except String α :=
  match c.err with
  | some err => .error err
  | none => .ok a

/-- The effect of a call on the messages and the proxy. `Recv` waits for a message. -/
def exec : (op : ProcessOp) → ProcessChoice → List TunnelUpdate → UDPProxy →
    Option (op.Ans × List TunnelUpdate × UDPProxy)
  | .ctxErr, c, wire, proxy => some (c.ended, wire, proxy)
  | .after _, c, wire, proxy => some (!c.ended, wire, proxy)
  | .connect _, c, wire, proxy => some (answer c (), wire, proxy)
  | .closeClient, c, wire, proxy => some (answer c (), wire, proxy)
  | .fetchConfig _, c, wire, proxy => some (answer c c.config, wire, proxy)
  | .streamUpdates _, c, wire, proxy =>
      match c.err with
      | some err => some (.error err, wire, proxy)
      | none => some (.ok c.ref, [⟨.sync, none⟩], proxy)
  | .recv _, c, wire, proxy =>
      match c.err, wire with
      | some err, wire => some (.error err, wire, proxy)
      | none, u :: wire => some (.ok u, wire, proxy)
      | none, [] => none
  | .ack _, c, wire, proxy => some (answer c (), wire, proxy)
  | .setVIP _, _, wire, proxy => some ((), wire, proxy)
  | .reconcileMappings mappings, c, wire, proxy =>
      let r := proxy.reconcileMappings c.deny mappings
      some (r.1, wire, r.2)
  | .applyMapping m, c, wire, proxy =>
      let r := proxy.applyMapping c.deny (some m)
      some (r.1, wire, r.2)
  | .removeMapping port, _, wire, proxy => some ((), wire, proxy.removeMapping port)
  | .setReady _, _, wire, proxy => some ((), wire, proxy)
  | .log _, _, wire, proxy => some ((), wire, proxy)

inductive ProcessEvent where
  | call (c : ProcessChoice)
  | send (u : TunnelUpdate)

def ProcessState.step {α : Type} : ProcessEvent → ProcessState α → Option (ProcessState α)
  | .call c, s =>
      match s.program with
      | .pure _ => none
      | .call op next => (exec op c s.wire s.proxy).map fun r => ⟨next r.1, r.2.1, r.2.2⟩
  | .send u, s => some { s with wire := s.wire ++ [u] }

/-- The call that `handleUpdate` makes to the proxy. -/
def proxyCall : TunnelUpdate → Option ProcessOp
  | ⟨type, some m⟩ =>
      if m.forwarderPort ≤ 0 then none
      else match type with
        | .added => if trimSpace m.gatewayAddress = "" then none else some (.applyMapping m)
        | .modified => if trimSpace m.gatewayAddress = "" then none else some (.applyMapping m)
        | .deleted => some (.removeMapping m.forwarderPort)
        | .sync => none
        | .unrecognized _ => none
  | ⟨_, none⟩ => none

/-- What is known of the process by its calls: whether its stream is one on which it has received
nothing, and the update that it has received and not yet passed to its proxy. -/
structure Tracker where
  fresh : Bool := false
  held : Option (ℕ × TunnelUpdate) := none

/-- The action that a call is for the fleet's forwarder. An update that has to be passed to the
proxy is received when that is done. -/
def Tracker.next (t : Tracker) (c : ProcessChoice) :
    Call ProcessOp.Ans → Tracker × Option Forwarder.Action
  | ⟨.fetchConfig _, .ok config⟩ => (t, some (.fetch (some config)))
  | ⟨.fetchConfig _, .error _⟩ => (t, some (.fetch none))
  | ⟨.reconcileMappings mappings, _⟩ => (t, some (.apply mappings c.deny))
  | ⟨.streamUpdates forwarderID, .ok ref⟩ => (⟨true, none⟩, some (.register forwarderID ref))
  | ⟨.recv ref, .ok u⟩ =>
      if t.fresh = false ∧ (proxyCall u).isSome then (⟨false, some (ref, u)⟩, none)
      else (⟨false, none⟩, some (.receive ref u c.deny))
  | ⟨.recv ref, .error _⟩ => (t, some (.disconnect ref))
  | ⟨.applyMapping _, _⟩ => ({ t with held := none }, t.held.map fun h => .receive h.1 h.2 c.deny)
  | ⟨.removeMapping _, _⟩ => ({ t with held := none }, t.held.map fun h => .receive h.1 h.2 c.deny)
  | ⟨.ack request, a⟩ => (t, some (.ack request a.isOk))
  | _ => (t, none)

def ProcessState.label {α : Type} (t : Tracker) :
    ProcessEvent → ProcessState α → Option (Tracker × Option Forwarder.Action)
  | .send u, _ => some (t, some (.send u))
  | .call c, s =>
      match s.program with
      | .pure _ => none
      | .call op _ => (exec op c s.wire s.proxy).map fun r => t.next c ⟨op, r.1⟩

/-- A process and a forwarder of the fleet that does what the process does. -/
structure Lockstep (α : Type) where
  process : ProcessState α
  tracker : Tracker
  forwarder : Forwarder

def Lockstep.step {α : Type} (id : String) (e : ProcessEvent) (l : Lockstep α) :
    Option (Lockstep α) := do
  let process ← l.process.step e
  let (tracker, action) ← l.process.label l.tracker e
  let forwarder ← action.elim (some l.forwarder) (l.forwarder.act id)
  some ⟨process, tracker, forwarder⟩

def untreated (u : TunnelUpdate) : Option TunnelUpdate :=
  if (proxyCall u).isSome then some u else none

def Silent : ProcessOp → Prop
  | .ctxErr | .after _ | .connect _ | .closeClient | .setVIP _ | .setReady _ | .log _ => True
  | _ => False

/-- Where the program is: a duty, and the update that it has received and not yet passed to the
proxy, for which the fleet has no duty of its own. -/
structure Position where
  duty : Duty
  pending : Option TunnelUpdate

/-- The duty behind a call, by its answer. -/
inductive Moves (id : String) : Position → Call ProcessOp.Ans → Position → Prop where
  | silent {d : Duty} {c : Call ProcessOp.Ans} : Silent c.op → Moves id ⟨d, none⟩ c ⟨d, none⟩
  | fetched {d : Duty} {ref timeout config} : d.fetchesFor = some ref →
      Moves id ⟨d, none⟩ ⟨.fetchConfig timeout, .ok config⟩ ⟨.fetched ref config, none⟩
  | fetchFailed {d : Duty} {ref timeout err} : d.fetchesFor = some ref →
      Moves id ⟨d, none⟩ ⟨.fetchConfig timeout, .error err⟩ ⟨.fetchFailed ref, none⟩
  | applied {ref config} : Moves id ⟨.fetched ref config, none⟩
      ⟨.reconcileMappings config.tunnels, .ok ()⟩ ⟨.applied config ref, none⟩
  | applyFailed {ref config err} : Moves id ⟨.fetched ref config, none⟩
      ⟨.reconcileMappings config.tunnels, .error err⟩ ⟨.applyFailed ref, none⟩
  | registered {ref} : Moves id ⟨.connecting, none⟩ ⟨.streamUpdates id, .ok ref⟩
    ⟨.waiting ref, none⟩
  | refused {err} : Moves id ⟨.connecting, none⟩ ⟨.streamUpdates id, .error err⟩ ⟨.connecting, none⟩
  | first {ref u} : Moves id ⟨.waiting ref, none⟩ ⟨.recv ref, .ok u⟩
      ⟨if u.type = .sync then .synced ref else .connecting, none⟩
  | broken {d : Duty} {ref err} : d = .waiting ref ∨ d = .streaming ref →
      Moves id ⟨d, none⟩ ⟨.recv ref, .error err⟩ ⟨.connecting, none⟩
  | acked {d : Duty} {m : TunnelMapping} {a : Except String Unit} : d.owed.head? = some m →
      Moves id ⟨d, none⟩ ⟨.ack (ackRequest id m), a⟩ ⟨d.acked a.isOk, none⟩
  | next {ref u} : Moves id ⟨.streaming ref, none⟩ ⟨.recv ref, .ok u⟩ ⟨.streaming ref, untreated u⟩
  | upserted {ref u m} : proxyCall u = some (.applyMapping m) →
      Moves id ⟨.streaming ref, some u⟩ ⟨.applyMapping m, .ok ()⟩ ⟨.acknowledging ref m, none⟩
  | upsertFailed {ref u m err} : proxyCall u = some (.applyMapping m) →
      Moves id ⟨.streaming ref, some u⟩ ⟨.applyMapping m, .error err⟩ ⟨.streaming ref, none⟩
  | removed {ref u port} : proxyCall u = some (.removeMapping port) →
      Moves id ⟨.streaming ref, some u⟩ ⟨.removeMapping port, ()⟩ ⟨.streaming ref, none⟩

section Follows

-- Goals about the programs are reduced at every step, and this text function must not be.
attribute [local irreducible] trimSpace

variable {id : String} {ref : ℕ}

def snapshotPosition (ref : ℕ) (r : Except String Unit) : Position :=
  match r with
  | .ok () => ⟨.streaming ref, none⟩
  | .error _ => ⟨.connecting, none⟩

theorem sendAcks_follows (mappings : List TunnelMapping) :
    (sendAcks id mappings).Follows (Moves id) (fun r pos => pos = snapshotPosition ref r)
      ⟨.acks ref mappings, none⟩ := by
  induction mappings with
  | nil => rfl
  | cons m mappings ih =>
      intro a
      refine ⟨_, .acked rfl, ?_⟩
      cases a with
      | error err => rfl
      | ok _ => exact ih

theorem onSnapshot_follows (config : ForwarderConfig) :
    (onSnapshot id config).Follows (Moves id) (fun r pos => pos = snapshotPosition ref r)
      ⟨.fetched (some ref) config, none⟩ := by
  rintro (err | ⟨⟨⟩⟩)
  · exact ⟨_, .applyFailed, rfl⟩
  · refine ⟨_, .applied, (sendAcks_follows _).seq fun r pos hpos => ?_⟩
    cases r with
    | error err => exact hpos
    | ok _ =>
        cases hpos
        exact fun _ => ⟨_, .silent trivial, rfl⟩

/-- Where a pass is when it has opened its stream, or failed to. -/
def openedPosition (r : Except String ℕ) : Position :=
  match r with
  | .ok ref => ⟨.streaming ref, none⟩
  | .error _ => ⟨.connecting, none⟩

theorem openStream_follows :
    (openStream id (onSnapshot id)).Follows (Moves id) (fun r pos => pos = openedPosition r)
      ⟨.connecting, none⟩ := by
  rintro (err | ref)
  · exact ⟨_, .refused, rfl⟩
  refine ⟨_, .registered, ?_⟩
  rintro (err | u)
  · exact ⟨_, .broken (Or.inl rfl), rfl⟩
  refine ⟨_, .first, ?_⟩
  change Program.Follows _ _ (if u.type ≠ .sync then _ else _) _
  by_cases hu : u.type = .sync
  · rw [if_neg (not_not.mpr hu), if_pos hu]
    rintro (err | config)
    · exact ⟨_, .fetchFailed rfl, rfl⟩
    · refine ⟨_, .fetched rfl, (onSnapshot_follows config).seq fun r pos hpos => ?_⟩
      cases r with
      | error err => exact hpos
      | ok _ => exact hpos
  · rw [if_pos hu, if_neg hu]
    rfl

theorem upsert_follows {u : TunnelUpdate} {m : TunnelMapping} (hm : trimSpace m.gatewayAddress ≠ "")
    (hu : proxyCall u = some (.applyMapping m)) :
    (upsert id m).Follows (Moves id) (fun _ pos => pos = ⟨.streaming ref, none⟩)
      ⟨.streaming ref, some u⟩ := by
  unfold upsert
  rw [if_neg hm]
  rintro (err | ⟨⟨⟩⟩)
  · exact ⟨_, .upsertFailed hu, rfl⟩
  · refine ⟨_, .upserted hu, fun a => ⟨_, .acked rfl, ?_⟩⟩
    cases a with
    | error err => rfl
    | ok _ => rfl

/-- `handleUpdate` makes the call it is said to make and leaves the update behind. -/
theorem handleUpdate_follows (u : TunnelUpdate) :
    (handleUpdate id (some u)).Follows (Moves id) (fun _ pos => pos = ⟨.streaming ref, none⟩)
      ⟨.streaming ref, untreated u⟩ := by
  obtain ⟨type, _ | m⟩ := u
  · rfl
  · by_cases hport : m.forwarderPort ≤ 0
    · simp only [handleUpdate, untreated, proxyCall, if_pos hport]
      rfl
    · simp only [handleUpdate, if_neg hport]
      have hupsert : ∀ type, proxyCall ⟨type, some m⟩ =
          (if trimSpace m.gatewayAddress = "" then none else some (.applyMapping m)) →
          (upsert id m).Follows (Moves id) (fun _ pos => pos = ⟨.streaming ref, none⟩)
            ⟨.streaming ref, untreated ⟨type, some m⟩⟩ := by
        intro type hcall
        by_cases haddr : trimSpace m.gatewayAddress = ""
        · simp only [upsert, untreated, hcall, if_pos haddr]
          rfl
        · rw [if_neg haddr] at hcall
          simp only [untreated, hcall]
          exact upsert_follows haddr hcall
      cases type with
      | added => exact hupsert .added (by simp only [proxyCall, if_neg hport])
      | modified => exact hupsert .modified (by simp only [proxyCall, if_neg hport])
      | deleted =>
          have hcall : proxyCall ⟨.deleted, some m⟩ = some (.removeMapping m.forwarderPort) := by
            simp only [proxyCall, if_neg hport]
          simp only [untreated, hcall]
          exact fun _ => ⟨_, .removed hcall, rfl⟩
      | sync =>
          simp only [untreated, proxyCall, if_neg hport]
          rfl
      | unrecognized n =>
          simp only [untreated, proxyCall, if_neg hport]
          rfl

theorem untreated_sync {u : TunnelUpdate} (hu : u.type = .sync) : untreated u = none := by
  obtain ⟨type, _ | m⟩ := u
  · rfl
  · cases hu
    simp [untreated, proxyCall]

theorem receiveUpdates_follows (messages : ℕ) :
    (receiveUpdates (fun update => handleUpdate id (some update)) ref messages).Follows (Moves id)
      (fun r pos => pos = ⟨if r.isSome then .connecting else .streaming ref, none⟩)
      ⟨.streaming ref, none⟩ := by
  induction messages with
  | zero => rfl
  | succ messages ih =>
      rintro (err | u)
      · exact ⟨_, .broken (Or.inr rfl), rfl⟩
      · refine ⟨_, .next, ?_⟩
        change Program.Follows _ _ (if u.type = .sync then _ else _) _
        split_ifs with hu
        · rw [untreated_sync hu]
          exact ih
        · refine (handleUpdate_follows u).seq fun r pos hpos => ?_
          cases hpos
          cases r with
          | ok _ => exact ih
          | error err => exact fun _ => ⟨_, .silent trivial, ih⟩

theorem watchStream_follows (messages backoff : ℕ) :
    (watchStream id (onSnapshot id) (fun update => handleUpdate id (some update)) messages
      backoff).Follows (Moves id)
      (fun r pos => pos.pending = none ∧ (r.isSome → pos.duty = .connecting))
      ⟨.connecting, none⟩ := by
  refine openStream_follows.seq fun r pos hpos => ?_
  cases hpos
  cases r with
  | error err => exact ⟨rfl, fun _ => rfl⟩
  | ok ref =>
      refine (receiveUpdates_follows messages).seq fun r pos hpos => ?_
      cases hpos
      cases r with
      | none => exact ⟨rfl, fun h => by cases h⟩
      | some err => exact ⟨rfl, fun _ => rfl⟩

theorem watchLoop_follows (messages rounds backoff : ℕ) :
    (watchLoop id (onSnapshot id) (fun update => handleUpdate id (some update)) messages rounds
      backoff).Follows (Moves id) (fun _ pos => pos.pending = none) ⟨.connecting, none⟩ := by
  induction rounds generalizing backoff with
  | zero => rfl
  | succ rounds ih =>
      intro a
      refine ⟨_, .silent trivial, ?_⟩
      cases a with
      | true => rfl
      | false =>
          refine (watchStream_follows messages backoff).seq ?_
          rintro r ⟨duty, pending⟩ ⟨rfl, hduty⟩
          cases r with
          | none => rfl
          | some waiting =>
              obtain rfl : duty = .connecting := hduty rfl
              refine fun _ => ⟨_, .silent trivial, fun a => ⟨_, .silent trivial, ?_⟩⟩
              cases a with
              | false => rfl
              | true => exact ih _

theorem fetchFirstConfig_follows (operatorAddr : String) :
    (fetchFirstConfig operatorAddr).Follows (Moves id)
      (fun r pos => pos = match r with
        | some config => ⟨.fetched none config, none⟩
        | none => ⟨.starting, none⟩) ⟨.starting, none⟩ := by
  rintro (err | ⟨⟨⟩⟩)
  · exact ⟨_, .silent trivial, fun _ => ⟨_, .silent trivial, rfl⟩⟩
  · refine ⟨_, .silent trivial, ?_⟩
    rintro (err | config)
    · refine ⟨_, .fetchFailed rfl, fun _ => ⟨_, .silent trivial, ?_⟩⟩
      rintro (err | ⟨⟨⟩⟩)
      · exact ⟨_, .silent trivial, fun _ => ⟨_, .silent trivial, rfl⟩⟩
      · exact ⟨_, .silent trivial, rfl⟩
    · exact ⟨_, .fetched rfl, rfl⟩

theorem connectAndFetchConfig_follows (operatorAddr : String) (rounds : ℕ) :
    (connectAndFetchConfig operatorAddr rounds).Follows (Moves id)
      (fun r pos => pos = match r with
        | .done config => ⟨.fetched none config, none⟩
        | _ => ⟨.starting, none⟩) ⟨.starting, none⟩ := by
  induction rounds with
  | zero => rfl
  | succ rounds ih =>
      intro a
      refine ⟨_, .silent trivial, ?_⟩
      cases a with
      | true => rfl
      | false =>
          refine (fetchFirstConfig_follows operatorAddr).seq fun r pos hpos => ?_
          cases hpos
          cases r with
          | some config => rfl
          | none =>
              intro a
              refine ⟨_, .silent trivial, ?_⟩
              cases a with
              | true => exact ih
              | false => rfl

theorem adoptVIP_follows (lbVIP : String) (config : ForwarderConfig) (duty : Duty) :
    (adoptVIP lbVIP config).Follows (Moves id) (fun _ pos => pos = ⟨duty, none⟩) ⟨duty, none⟩ := by
  unfold adoptVIP
  split_ifs
  · exact fun _ => ⟨_, .silent trivial, rfl⟩
  · rfl

theorem applyAndWatch_follows (messages rounds : ℕ) (config : ForwarderConfig) :
    (applyAndWatch id messages rounds config).Follows (Moves id) (fun _ pos => pos.pending = none)
      ⟨.fetched none config, none⟩ := by
  rintro (err | ⟨⟨⟩⟩)
  · exact ⟨_, .applyFailed, rfl⟩
  · exact ⟨_, .applied, (watchLoop_follows messages rounds 1).seq fun _ _ hpos => hpos⟩

theorem run_follows (operatorAddr lbVIP id : String) (messages rounds : ℕ) :
    (run operatorAddr lbVIP id messages rounds).Follows (Moves id) (fun _ pos => pos.pending = none)
      ⟨.starting, none⟩ := by
  refine (connectAndFetchConfig_follows operatorAddr rounds).seq fun r pos hpos => ?_
  cases hpos
  cases r with
  | running => rfl
  | canceled => rfl
  | done config =>
      refine (adoptVIP_follows lbVIP config _).seq fun _ pos hpos => ?_
      rw [hpos]
      exact applyAndWatch_follows messages rounds config

end Follows

section Simulation

variable {id : String} {pos pos' : Position} {f : Forwarder} {α : Type} {t : Tracker}

section Handled

variable {deny : Deny} {u : TunnelUpdate} {m : TunnelMapping} {p p' : UDPProxy}

theorem proxyCall_applyMapping (h : proxyCall u = some (.applyMapping m)) :
    u.tunnel = some m ∧ (u.type = .added ∨ u.type = .modified) ∧ ¬ m.forwarderPort ≤ 0 ∧
      trimSpace m.gatewayAddress ≠ "" := by
  obtain ⟨type, _ | m'⟩ := u
  · cases h
  · have hupsert : (¬ m'.forwarderPort ≤ 0 ∧ ¬ trimSpace m'.gatewayAddress = "" ∧
        ProcessOp.applyMapping m' = .applyMapping m) → m' = m ∧ ¬ m.forwarderPort ≤ 0 ∧
          trimSpace m.gatewayAddress ≠ "" := by
      rintro ⟨hport, haddr, heq⟩
      cases heq
      exact ⟨rfl, hport, haddr⟩
    cases type <;> simp only [proxyCall, Option.ite_none_left_eq_some, Option.some.injEq] at h
    · obtain ⟨rfl, hrest⟩ := hupsert h
      exact ⟨rfl, Or.inl rfl, hrest⟩
    · obtain ⟨rfl, hrest⟩ := hupsert h
      exact ⟨rfl, Or.inr rfl, hrest⟩
    · cases h.2
    · cases h.2
    · cases h.2

theorem proxyCall_removeMapping {port : Int} (h : proxyCall u = some (.removeMapping port)) :
    ∃ m, u = ⟨.deleted, some m⟩ ∧ m.forwarderPort = port ∧ ¬ m.forwarderPort ≤ 0 := by
  obtain ⟨type, _ | m⟩ := u
  · cases h
  · cases type <;> simp only [proxyCall, Option.ite_none_left_eq_some, Option.some.injEq] at h
    · cases h.2.2
    · cases h.2.2
    · exact ⟨m, rfl, ProcessOp.removeMapping.inj h.2, h.1⟩
    · cases h.2
    · cases h.2

theorem handleUpdate_acking (hcall : proxyCall u = some (.applyMapping m))
    (hp : p.applyMapping deny (some m) = (.ok (), p')) :
    TunnelOperator.handleUpdate deny (some u) p = (.acking m, p') := by
  obtain ⟨hm, htype, hport, haddr⟩ := proxyCall_applyMapping hcall
  obtain ⟨type, tunnel⟩ := u
  obtain rfl : tunnel = some m := hm
  rcases htype with rfl | rfl
  · simp only [TunnelOperator.handleUpdate, if_neg hport, if_neg haddr, hp]
  · simp only [TunnelOperator.handleUpdate, if_neg hport, if_neg haddr, hp]

theorem handleUpdate_failed {err : String} (hcall : proxyCall u = some (.applyMapping m))
    (hp : p.applyMapping deny (some m) = (.error err, p')) :
    ∃ msg, TunnelOperator.handleUpdate deny (some u) p = (.failed msg, p') := by
  obtain ⟨hm, htype, hport, haddr⟩ := proxyCall_applyMapping hcall
  obtain ⟨type, tunnel⟩ := u
  obtain rfl : tunnel = some m := hm
  rcases htype with rfl | rfl
  · simp only [TunnelOperator.handleUpdate, if_neg hport, if_neg haddr, hp]
    exact ⟨_, rfl⟩
  · simp only [TunnelOperator.handleUpdate, if_neg hport, if_neg haddr, hp]
    exact ⟨_, rfl⟩

theorem handleUpdate_removed (deny : Deny) (p : UDPProxy) {port : Int}
    (hcall : proxyCall u = some (.removeMapping port)) :
    TunnelOperator.handleUpdate deny (some u) p = (.removed, p.removeMapping port) := by
  obtain ⟨m, rfl, rfl, hport⟩ := proxyCall_removeMapping hcall
  simp only [TunnelOperator.handleUpdate, if_neg hport]

theorem handleUpdate_ignored (hcall : proxyCall u = none) :
    TunnelOperator.handleUpdate deny (some u) p = (.ignored, p) := by
  obtain ⟨type, _ | m⟩ := u
  · rfl
  · by_cases hport : m.forwarderPort ≤ 0
    · simp only [TunnelOperator.handleUpdate, if_pos hport]
    · cases type <;> simp only [proxyCall, if_neg hport, ite_eq_left_iff, reduceCtorEq, imp_false,
        not_not] at hcall <;> simp only [TunnelOperator.handleUpdate, if_neg hport, if_pos hcall]

end Handled

def Waits : Duty → Prop
  | .waiting _ => True
  | _ => False

/-- The forwarder shows what the process has: the same proxy, and while it has a stream the same
messages, with the update in hand as the first of them. -/
structure Shows (pos : Position) (t : Tracker) (wire : List TunnelUpdate) (proxy : UDPProxy)
    (f : Forwarder) : Prop where
  duty : f.duty = pos.duty
  proxy : f.proxy = proxy
  wire : pos.duty.stream ≠ none → f.wire = pos.pending.toList ++ wire
  held : t.held.map Prod.snd = pos.pending
  streaming : ∀ ref u, t.held = some (ref, u) → pos.duty = .streaming ref
  fresh : pos.duty.stream ≠ none → (t.fresh = true ↔ Waits pos.duty)

theorem stream_of_fetchesFor {d : Duty} {ref : Option ℕ} (h : d.fetchesFor = some ref) :
    d.stream = ref := by
  cases d <;> cases h <;> rfl

@[simp] theorem stream_fetchFailed (ref : Option ℕ) : (Duty.fetchFailed ref).stream = none := by
  cases ref <;> rfl

@[simp] theorem stream_applyFailed (ref : Option ℕ) : (Duty.applyFailed ref).stream = none := by
  cases ref <;> rfl

@[simp] theorem stream_acks (ref : ℕ) (mappings : List TunnelMapping) :
    (Duty.acks ref mappings).stream = some ref := by
  cases mappings <;> rfl

@[simp] theorem stream_applied (config : ForwarderConfig) (ref : Option ℕ) :
    (Duty.applied config ref).stream = ref := by
  cases ref with
  | none => rfl
  | some ref => exact stream_acks ref _

theorem stream_of_acked {d : Duty} {ok : Bool} (h : (d.acked ok).stream ≠ none) :
    d.stream ≠ none := by
  cases d with
  | acking ref m mappings => exact Option.some_ne_none ref
  | acknowledging ref m => exact Option.some_ne_none ref
  | _ => exact h

theorem not_waits_of_fetchesFor {d : Duty} {ref : Option ℕ} (h : d.fetchesFor = some ref) :
    ¬ Waits d := by
  cases d <;> cases h <;> exact id

theorem not_waits_applied (config : ForwarderConfig) (ref : Option ℕ) :
    ¬ Waits (.applied config ref) := by
  cases ref with
  | none => exact id
  | some ref =>
      rw [Duty.applied]
      cases snapshotAcks config <;> exact id

theorem not_waits_of_owed {d : Duty} (h : d.owed ≠ []) (ok : Bool) :
    ¬ Waits d ∧ ¬ Waits (d.acked ok) := by
  cases d with
  | acking ref m mappings =>
      refine ⟨id, ?_⟩
      cases ok with
      | false => exact id
      | true => cases mappings <;> exact id
  | acknowledging ref m => exact ⟨id, id⟩
  | _ => exact absurd rfl h

theorem exec_silent {op : ProcessOp} (hop : Silent op) {c : ProcessChoice}
    {wire wire' : List TunnelUpdate} {proxy proxy' : UDPProxy} {a : op.Ans}
    (h : exec op c wire proxy = some (a, wire', proxy')) :
    wire' = wire ∧ proxy' = proxy := by
  cases op <;> cases hop <;> cases h <;> exact ⟨rfl, rfl⟩

theorem exec_fetchConfig {timeout : Option ℕ} {c : ProcessChoice} {wire wire' : List TunnelUpdate}
    {proxy proxy' : UDPProxy} {a : Except String ForwarderConfig}
    (h : exec (.fetchConfig timeout) c wire proxy = some (a, wire', proxy')) :
    wire' = wire ∧ proxy' = proxy := by
  simp only [exec, Option.some.injEq, Prod.mk.injEq] at h
  exact ⟨h.2.1.symm, h.2.2.symm⟩

theorem exec_ack {request : AckRequest} {c : ProcessChoice} {wire wire' : List TunnelUpdate}
    {proxy proxy' : UDPProxy} {a : Except String Unit}
    (h : exec (.ack request) c wire proxy = some (a, wire', proxy')) :
    wire' = wire ∧ proxy' = proxy := by
  simp only [exec, Option.some.injEq, Prod.mk.injEq] at h
  exact ⟨h.2.1.symm, h.2.2.symm⟩

theorem exec_recv {ref : ℕ} {c : ProcessChoice} {wire wire' : List TunnelUpdate}
    {proxy proxy' : UDPProxy} {a : Except String TunnelUpdate}
    (h : exec (.recv ref) c wire proxy = some (a, wire', proxy')) :
    proxy' = proxy ∧ ∀ u, a = .ok u → wire = u :: wire' := by
  simp only [exec] at h
  split at h
  · cases h
    exact ⟨rfl, fun u h => by cases h⟩
  · cases h
    refine ⟨rfl, fun u h => ?_⟩
    cases h
    rfl
  · cases h

theorem exec_streamUpdates {id : String} {c : ProcessChoice} {wire wire' : List TunnelUpdate}
    {proxy proxy' : UDPProxy} {a : Except String ℕ}
    (h : exec (.streamUpdates id) c wire proxy = some (a, wire', proxy')) :
    proxy' = proxy ∧ ∀ ref, a = .ok ref → wire' = [⟨.sync, none⟩] := by
  simp only [exec] at h
  split at h
  · cases h
    exact ⟨rfl, fun ref h => by cases h⟩
  · cases h
    exact ⟨rfl, fun _ _ => rfl⟩

theorem exec_reconcileMappings {mappings : List (Option TunnelMapping)} {c : ProcessChoice}
    {wire wire' : List TunnelUpdate} {proxy proxy' : UDPProxy} {a : Except String Unit}
    (h : exec (.reconcileMappings mappings) c wire proxy = some (a, wire', proxy')) :
    proxy.reconcileMappings c.deny mappings = (a, proxy') ∧ wire' = wire := by
  simp only [exec, Option.some.injEq, Prod.mk.injEq] at h
  exact ⟨Prod.ext h.1 h.2.2, h.2.1.symm⟩

theorem exec_applyMapping {m : TunnelMapping} {c : ProcessChoice} {wire wire' : List TunnelUpdate}
    {proxy proxy' : UDPProxy} {a : Except String Unit}
    (h : exec (.applyMapping m) c wire proxy = some (a, wire', proxy')) :
    proxy.applyMapping c.deny (some m) = (a, proxy') ∧ wire' = wire := by
  simp only [exec, Option.some.injEq, Prod.mk.injEq] at h
  exact ⟨Prod.ext h.1 h.2.2, h.2.1.symm⟩

theorem apply_ok {deny : Deny} {ref : Option ℕ} {config : ForwarderConfig}
    {wire : List TunnelUpdate} {p p' : UDPProxy}
    (h : p.reconcileMappings deny config.tunnels = (.ok (), p')) :
    Forwarder.apply deny ⟨.fetched ref config, wire, p⟩ =
      some (⟨.applied config ref, wire, p'⟩, Forwarder.validMappings config) := by
  simp only [Forwarder.apply, h]

theorem apply_error {deny : Deny} {ref : Option ℕ} {config : ForwarderConfig}
    {wire : List TunnelUpdate} {p p' : UDPProxy} {err : String}
    (h : p.reconcileMappings deny config.tunnels = (.error err, p')) :
    Forwarder.apply deny ⟨.fetched ref config, wire, p⟩ =
      some (⟨.applyFailed ref, wire, p'⟩, []) := by
  simp only [Forwarder.apply, h]

def dutyAfter (ref : ℕ) : Handled → Duty
  | .acking m => .acknowledging ref m
  | _ => .streaming ref

theorem receive_streaming {deny : Deny} {u : TunnelUpdate} {p p' : UDPProxy} {handled : Handled}
    (ref : ℕ) (wire : List TunnelUpdate) (hu : u.type ≠ .sync)
    (h : TunnelOperator.handleUpdate deny (some u) p = (handled, p')) :
    (Forwarder.receive deny ⟨.streaming ref, u :: wire, p⟩).map Prod.fst =
      some ⟨dutyAfter ref handled, wire, p'⟩ := by
  simp only [Forwarder.receive, if_neg hu, h]
  cases handled <;> rfl

theorem type_of_proxyCall {u : TunnelUpdate} {op : ProcessOp} (h : proxyCall u = some op) :
    u.type ≠ .sync := by
  intro hu
  have hnone := untreated_sync hu
  simp [untreated, h] at hnone

theorem receive_ignored (deny : Deny) {ref : ℕ} {u : TunnelUpdate} {wire : List TunnelUpdate}
    {p : UDPProxy} (hcall : proxyCall u = none) :
    (Forwarder.receive deny ⟨.streaming ref, u :: wire, p⟩).map Prod.fst =
      some ⟨.streaming ref, wire, p⟩ := by
  by_cases hu : u.type = .sync
  · simp only [Forwarder.receive, if_pos hu, Option.map_some]
  · exact receive_streaming ref wire hu (handleUpdate_ignored hcall)

/-- The fleet's forwarder takes the action of a call, if there is one. -/
def Takes (id : String) (f : Forwarder) (action : Option Forwarder.Action) (f' : Forwarder) :
    Prop :=
  action.elim (some f) (f.act id) = some f'

theorem act_receive (id : String) {deny : Deny} {ref : ℕ} {u : TunnelUpdate}
    (hstream : f.duty.stream = some ref) (hwire : f.wire.head? = some u) :
    f.act id (.receive ref u deny) = (f.receive deny).map Prod.fst :=
  if_pos ⟨hstream, hwire⟩

theorem act_fetch (id : String) {d : Duty} {ref : Option ℕ} (hd : d.fetchesFor = some ref)
    (wire : List TunnelUpdate) (p : UDPProxy) (config : Option ForwarderConfig) :
    Forwarder.act id ⟨d, wire, p⟩ (.fetch config) =
      some ⟨config.elim (.fetchFailed ref) (.fetched ref), wire, p⟩ := by
  simp only [Forwarder.act, hd, Option.map_some]

theorem act_apply (id : String) {deny : Deny} {ref : Option ℕ} {config : ForwarderConfig}
    {moved : Forwarder.Moved} {wire : List TunnelUpdate} {p : UDPProxy}
    (h : Forwarder.apply deny ⟨.fetched ref config, wire, p⟩ = some moved) :
    Forwarder.act id ⟨.fetched ref config, wire, p⟩ (.apply config.tunnels deny) =
      some moved.1 := by
  simp only [Forwarder.act, if_true, h, Option.map_some]

theorem Tracker.next_silent {op : ProcessOp} (hop : Silent op) (c : ProcessChoice) (a : op.Ans) :
    t.next c ⟨op, a⟩ = (t, none) := by
  cases op <;> first | rfl | cases hop

section Shows

variable {d d' : Duty} {ref : ℕ} {u : TunnelUpdate} {wire fwire : List TunnelUpdate}
  {proxy proxy' : UDPProxy}

theorem Shows.idle (h : Shows ⟨d, none⟩ t wire proxy f) : t.held = none :=
  Option.map_eq_none_iff.mp h.held

theorem Shows.inHand (h : Shows ⟨.streaming ref, some u⟩ t wire proxy f) :
    t.held = some (ref, u) := by
  obtain ⟨⟨ref', u'⟩, hheld, rfl⟩ := Option.map_eq_some_iff.mp h.held
  rw [hheld, Duty.streaming.inj (h.streaming ref' u' hheld)]

/-- The forwarder goes on without a stream, and what was sent on the last one does not matter. -/
theorem Shows.offline (h : Shows ⟨d, none⟩ t wire proxy f) (hd' : d'.stream = none)
    (wire' fwire : List TunnelUpdate) (proxy' : UDPProxy) :
    Shows ⟨d', none⟩ t wire' proxy' ⟨d', fwire, proxy'⟩ where
  duty := rfl
  proxy := rfl
  wire := fun hs => absurd hd' hs
  held := h.held
  streaming := fun ref u hu => by
    rw [h.idle] at hu
    cases hu
  fresh := fun hs => absurd hd' hs

/-- The forwarder goes on with the stream it has and has received SYNC on. -/
theorem Shows.online (h : Shows ⟨d, none⟩ t wire proxy ⟨d, fwire, proxy⟩)
    (hstream : d'.stream ≠ none → d.stream ≠ none) (hd : ¬ Waits d) (hd' : ¬ Waits d')
    (proxy' : UDPProxy) : Shows ⟨d', none⟩ t wire proxy' ⟨d', fwire, proxy'⟩ where
  duty := rfl
  proxy := rfl
  wire := fun hs => h.wire (hstream hs)
  held := h.held
  streaming := fun ref u hu => by
    rw [h.idle] at hu
    cases hu
  fresh := fun hs => (h.fresh (hstream hs)).trans (iff_of_false hd hd')

theorem Shows.first (h : Shows ⟨.waiting ref, none⟩ t (u :: wire) proxy
    ⟨.waiting ref, fwire, proxy⟩)
    (id : String) (c : ProcessChoice) :
    ∃ f', Takes id ⟨.waiting ref, fwire, proxy⟩ (t.next c ⟨.recv ref, .ok u⟩).2 f' ∧
      Shows ⟨if u.type = .sync then .synced ref else .connecting, none⟩
        (t.next c ⟨.recv ref, .ok u⟩).1 wire proxy f' := by
  obtain rfl : fwire = u :: wire := h.wire (Option.some_ne_none ref)
  have hfresh : t.fresh = true := (h.fresh (Option.some_ne_none ref)).mpr trivial
  have hnext : t.next c ⟨.recv ref, .ok u⟩ = (⟨false, none⟩, some (.receive ref u c.deny)) := by
    simp [Tracker.next, hfresh]
  rw [hnext]
  refine ⟨_, act_receive id rfl rfl, rfl, rfl, fun _ => rfl, rfl, nofun, fun _ => ?_⟩
  refine iff_of_false Bool.false_ne_true ?_
  split_ifs <;> exact not_false

/-- An update that the proxy is not called for is received at once, any other is kept in hand. -/
theorem Shows.next
    (h : Shows ⟨.streaming ref, none⟩ t (u :: wire) proxy ⟨.streaming ref, fwire, proxy⟩)
    (id : String) (c : ProcessChoice) :
    ∃ f', Takes id ⟨.streaming ref, fwire, proxy⟩ (t.next c ⟨.recv ref, .ok u⟩).2 f' ∧
      Shows ⟨.streaming ref, untreated u⟩ (t.next c ⟨.recv ref, .ok u⟩).1 wire proxy f' := by
  obtain rfl : fwire = u :: wire := h.wire (Option.some_ne_none ref)
  have hfresh : t.fresh = false :=
    Bool.eq_false_iff.mpr fun hfresh => (h.fresh (Option.some_ne_none ref)).mp hfresh
  cases hcall : proxyCall u with
  | none =>
      have hnext : t.next c ⟨.recv ref, .ok u⟩ = (⟨false, none⟩, some (.receive ref u c.deny)) := by
        simp [Tracker.next, hcall]
      have huntreated : untreated u = none := by simp [untreated, hcall]
      rw [hnext, huntreated]
      exact ⟨_, (act_receive id rfl rfl).trans (receive_ignored c.deny hcall), rfl, rfl,
        fun _ => rfl, rfl, nofun, fun _ => iff_of_false Bool.false_ne_true not_false⟩
  | some op =>
      have hnext : t.next c ⟨.recv ref, .ok u⟩ = (⟨false, some (ref, u)⟩, none) := by
        simp [Tracker.next, hcall, hfresh]
      have huntreated : untreated u = some u := by simp [untreated, hcall]
      rw [hnext, huntreated]
      refine ⟨_, rfl, rfl, rfl, fun _ => rfl, rfl, fun ref' u' hu => ?_,
        fun _ => iff_of_false Bool.false_ne_true not_false⟩
      cases hu
      rfl

/-- The update in hand is received when the proxy has been called. -/
theorem Shows.handled
    (h : Shows ⟨.streaming ref, some u⟩ t wire proxy ⟨.streaming ref, fwire, proxy⟩)
    (id : String) {deny : Deny} {handled : Handled} (hu : u.type ≠ .sync)
    (hhandled : TunnelOperator.handleUpdate deny (some u) proxy = (handled, proxy')) :
    ∃ f', Takes id ⟨.streaming ref, fwire, proxy⟩
        (t.held.map fun h => .receive h.1 h.2 deny) f' ∧
      Shows ⟨dutyAfter ref handled, none⟩ { t with held := none } wire proxy' f' := by
  obtain rfl : fwire = u :: wire := h.wire (Option.some_ne_none ref)
  rw [h.inHand]
  refine ⟨_, (act_receive id rfl rfl).trans (receive_streaming ref wire hu hhandled), rfl, rfl,
    fun _ => rfl, rfl, nofun, fun _ => (h.fresh (Option.some_ne_none ref)).trans ?_⟩
  cases handled <;> exact Iff.rfl

end Shows

/-- A call whose answer the messages and the proxy admit is a step of the forwarder, with the action
that the call is labelled with. -/
theorem Moves.simulated {op : ProcessOp} {a : op.Ans} (hmove : Moves id pos ⟨op, a⟩ pos')
    {c : ProcessChoice} {wire wire' : List TunnelUpdate} {proxy proxy' : UDPProxy}
    (hexec : exec op c wire proxy = some (a, wire', proxy')) (hf : Shows pos t wire proxy f) :
    ∃ f', Takes id f (t.next c ⟨op, a⟩).2 f' ∧
      Shows pos' (t.next c ⟨op, a⟩).1 wire' proxy' f' := by
  obtain ⟨duty, fwire, fproxy⟩ := f
  obtain rfl : duty = pos.duty := hf.duty
  obtain rfl : fproxy = proxy := hf.proxy
  cases hmove with
  | silent hop =>
      obtain ⟨rfl, rfl⟩ := exec_silent hop hexec
      rw [Tracker.next_silent hop]
      exact ⟨_, rfl, hf⟩
  | @fetched d ref timeout config hd =>
      obtain ⟨rfl, rfl⟩ := exec_fetchConfig hexec
      have hno : ¬ Waits (.fetched ref config) := not_false
      refine ⟨_, act_fetch id hd fwire _ (some config),
        hf.online ?_ (not_waits_of_fetchesFor hd) hno _⟩
      exact fun hs => (stream_of_fetchesFor hd).trans_ne hs
  | fetchFailed hd =>
      obtain ⟨rfl, rfl⟩ := exec_fetchConfig hexec
      exact ⟨_, act_fetch id hd fwire _ none, hf.offline (stream_fetchFailed _) _ _ _⟩
  | applied =>
      obtain ⟨hok, rfl⟩ := exec_reconcileMappings hexec
      refine ⟨_, act_apply id (apply_ok hok), hf.online ?_ not_false (not_waits_applied _ _) _⟩
      exact fun hs => (stream_applied _ _).symm.trans_ne hs
  | applyFailed =>
      obtain ⟨hok, rfl⟩ := exec_reconcileMappings hexec
      exact ⟨_, act_apply id (apply_error hok), hf.offline (stream_applyFailed _) _ _ _⟩
  | @registered ref =>
      obtain ⟨rfl, hsync⟩ := exec_streamUpdates hexec
      obtain rfl := hsync ref rfl
      exact ⟨_, if_pos rfl, rfl, rfl, fun _ => rfl, rfl, nofun, fun _ => iff_of_true rfl trivial⟩
  | refused =>
      obtain ⟨rfl, -⟩ := exec_streamUpdates hexec
      exact ⟨_, rfl, hf.offline rfl _ _ _⟩
  | @first ref u =>
      obtain ⟨rfl, hu⟩ := exec_recv hexec
      obtain rfl := hu u rfl
      exact hf.first id c
  | broken hd =>
      obtain ⟨rfl, -⟩ := exec_recv hexec
      rcases hd with rfl | rfl
      · exact ⟨_, if_pos rfl, hf.offline rfl _ _ _⟩
      · exact ⟨_, if_pos rfl, hf.offline rfl _ _ _⟩
  | @acked d m a hd =>
      obtain ⟨rfl, rfl⟩ := exec_ack hexec
      have howed : d.owed ≠ [] := fun h => by rw [h] at hd; cases hd
      obtain ⟨hno, hno'⟩ := not_waits_of_owed howed a.isOk
      exact ⟨_, if_pos (by rw [hd]; rfl), hf.online stream_of_acked hno hno' _⟩
  | @next ref u =>
      obtain ⟨rfl, hu⟩ := exec_recv hexec
      obtain rfl := hu u rfl
      exact hf.next id c
  | upserted hcall =>
      obtain ⟨hok, rfl⟩ := exec_applyMapping hexec
      exact hf.handled id (type_of_proxyCall hcall) (handleUpdate_acking hcall hok)
  | upsertFailed hcall =>
      obtain ⟨hok, rfl⟩ := exec_applyMapping hexec
      obtain ⟨msg, hfailed⟩ := handleUpdate_failed hcall hok
      exact hf.handled id (type_of_proxyCall hcall) hfailed
  | removed hcall =>
      cases hexec
      exact hf.handled id (type_of_proxyCall hcall) (handleUpdate_removed c.deny _ hcall)

/-- The call that a duty stands for. An update in hand is passed to the proxy next. -/
def Stands (id : String) (d : Duty) (held : Option (ℕ × TunnelUpdate)) : ProcessOp → Prop
  | .fetchConfig _ => held = none ∧ d.fetchesFor ≠ none
  | .streamUpdates forwarderID => held = none ∧ d = .connecting ∧ forwarderID = id
  | .recv ref => held = none ∧ (d = .waiting ref ∨ d = .streaming ref)
  | .ack request => held = none ∧ ∃ m, d.owed.head? = some m ∧ request = ackRequest id m
  | .reconcileMappings mappings =>
      held = none ∧ ∃ ref config, d = .fetched ref config ∧ mappings = config.tunnels
  | .applyMapping m =>
      ∃ ref u, held = some (ref, u) ∧ d = .streaming ref ∧ proxyCall u = some (.applyMapping m)
  | .removeMapping port =>
      ∃ ref u, held = some (ref, u) ∧ d = .streaming ref ∧ proxyCall u = some (.removeMapping port)
  | _ => held = none

theorem Moves.stands {c : Call ProcessOp.Ans} (h : Moves id pos c pos')
    {wire : List TunnelUpdate} {proxy : UDPProxy} (hf : Shows pos t wire proxy f) :
    Stands id pos.duty t.held c.op := by
  cases h with
  | silent hop =>
      obtain ⟨op, a⟩ := c
      cases op <;> first | exact hf.idle | cases hop
  | fetched hd => exact ⟨hf.idle, fun h => by rw [hd] at h; cases h⟩
  | fetchFailed hd => exact ⟨hf.idle, fun h => by rw [hd] at h; cases h⟩
  | applied => exact ⟨hf.idle, _, _, rfl, rfl⟩
  | applyFailed => exact ⟨hf.idle, _, _, rfl, rfl⟩
  | registered => exact ⟨hf.idle, rfl, rfl⟩
  | refused => exact ⟨hf.idle, rfl, rfl⟩
  | first => exact ⟨hf.idle, Or.inl rfl⟩
  | broken hd => exact ⟨hf.idle, hd⟩
  | acked hd => exact ⟨hf.idle, _, hd, rfl⟩
  | next => exact ⟨hf.idle, Or.inr rfl⟩
  | upserted hcall => exact ⟨_, _, hf.inHand, rfl, hcall⟩
  | upsertFailed hcall => exact ⟨_, _, hf.inHand, rfl, hcall⟩
  | removed hcall => exact ⟨_, _, hf.inHand, rfl, hcall⟩

def Lockstep.Matches (id : String) (l : Lockstep α) : Prop :=
  ∃ pos, Shows pos l.tracker l.process.wire l.process.proxy l.forwarder ∧
    l.process.program.Follows (Moves id) (fun _ pos => pos.pending = none) pos

theorem Lockstep.Matches.step {l : Lockstep α} {s' : ProcessState α} {e : ProcessEvent}
    (h : l.Matches id) (hstep : l.process.step e = some s') :
    ∃ l', l.step id e = some l' ∧ l'.process = s' ∧ l'.Matches id := by
  obtain ⟨pos, hshows, hfollows⟩ := h
  obtain ⟨s, t, f⟩ := l
  cases e with
  | send u =>
      cases hstep
      refine ⟨_, rfl, rfl, pos, ?_, hfollows⟩
      by_cases hs : f.duty.stream = none
      · refine ⟨?_, ?_, fun h => absurd (hshows.duty ▸ hs) h, hshows.held, hshows.streaming,
          hshows.fresh⟩
        · rw [if_pos hs]
          exact hshows.duty
        · rw [if_pos hs]
          exact hshows.proxy
      · simp only [if_neg hs]
        refine ⟨hshows.duty, hshows.proxy, fun h => ?_, hshows.held, hshows.streaming, hshows.fresh⟩
        change f.wire ++ [u] = _
        rw [hshows.wire h, List.append_assoc]
  | call c =>
      obtain ⟨program, wire, proxy⟩ := s
      cases program with
      | pure a => cases hstep
      | call op next =>
          obtain ⟨⟨a, wire', proxy'⟩, hexec, rfl⟩ := Option.map_eq_some_iff.mp hstep
          obtain ⟨pos', hmove, hnext⟩ := hfollows a
          obtain ⟨f', hacts, hshows'⟩ := hmove.simulated hexec hshows
          refine ⟨⟨_, _, f'⟩, ?_, rfl, pos', hshows', hnext⟩
          have hlabel : ProcessState.label t (.call c)
              (⟨.call op next, wire, proxy⟩ : ProcessState α) = some (t.next c ⟨op, a⟩) := by
            simp only [ProcessState.label, hexec, Option.map_some]
          simp only [Lockstep.step, hstep, hlabel, Option.bind_eq_bind, Option.bind_some]
          rw [show (t.next c ⟨op, a⟩).2.elim (some f) (f.act id) = some f' from hacts]
          rfl

end Simulation

def someAnswer : (op : ProcessOp) → op.Ans
  | .ctxErr => true
  | .after _ => false
  | .connect _ => .ok ()
  | .closeClient => .ok ()
  | .fetchConfig _ => .error ""
  | .streamUpdates _ => .error ""
  | .recv _ => .error ""
  | .ack _ => .ok ()
  | .setVIP _ => ()
  | .reconcileMappings _ => .ok ()
  | .applyMapping _ => .ok ()
  | .removeMapping _ => ()
  | .setReady _ => ()
  | .log _ => ()

/-- A process that has just started, and a forwarder that has just joined. -/
def Lockstep.start {α : Type} (program : Run α) : Lockstep α := ⟨⟨program, [], .new⟩, {}, .new⟩

/-- A step of the two is taken in every fleet that has this forwarder and whose operator admits the
action: what the process does, it does as a forwarder of the fleet. -/
theorem Lockstep.leads {α : Type} {id : String} {cfg : ServerConfig} {fleet : Fleet}
    {e : ProcessEvent} {l l' : Lockstep α} (hstep : l.step id e = some l')
    (hf : fleet.forwarders.lookup id = some l.forwarder)
    (hadmits : ∀ t action, l.process.label l.tracker e = some (t, some action) →
      fleet.Admits cfg l.forwarder action) :
    fleet.Leads cfg id l'.forwarder := by
  simp only [Lockstep.step, Option.bind_eq_bind, Option.bind_eq_some_iff] at hstep
  obtain ⟨process, -, ⟨t, action⟩, hlabel, f', hact, hl'⟩ := hstep
  cases hl'
  cases action with
  | none =>
      cases hact
      exact ⟨[], fleet, rfl, hf⟩
  | some action => exact Fleet.leads_of_act hf hact (hadmits t action hlabel)

def snapshotMapping : TunnelMapping := ⟨"a", "team", 20001, "10.1.0.1:51820", 1, "", "10.1.0.1", 0⟩

def addedMapping : TunnelMapping := ⟨"b", "team", 20002, "10.1.0.2:51820", 1, "", "10.1.0.2", 1⟩

def snapshotChoice : ProcessChoice :=
  ⟨false, none, 7, ⟨none, [some snapshotMapping]⟩, fun _ => none⟩

def appliedUpdate : List ProcessEvent :=
  List.replicate 11 (.call snapshotChoice) ++ [.send ⟨.added, some addedMapping⟩] ++
    List.replicate 2 (.call snapshotChoice)

end ForwarderProcess
end TunnelOperator
