import TunnelOperator.Program
import TunnelOperator.Proxy

/-!
# The forwarder as a program

`cmd/forwarder` from its first connection on, and `WatchUpdates` of `pkg/forwarder`, as programs
over the calls they make: to the operator, to the proxy, to the health server, to the context and
the clock, and to the log where an error ends there. Every loop has a bound, so the programs of
all bounds are the finite beginnings of what a forwarder can do.
-/

namespace TunnelOperator
open Interaction GoText

/-- `UpdateType.String`. -/
def UpdateType.string : UpdateType → String
  | .added => "ADDED"
  | .modified => "MODIFIED"
  | .deleted => "DELETED"
  | .sync => "SYNC"
  | .unrecognized n => itoa n

inductive LogLine where
  | connectFailed (err : String)
  | fetchFailed (err : String)
  | closeFailed (err : String)
  | updateFailed (err : String)
  | reconnecting (err : String) (backoff : ℕ)

/-- `after` is the choice between the context's end and a timer. Times are in seconds. -/
inductive ProcessOp where
  | ctxErr
  | after (seconds : ℕ)
  | connect (addr : String)
  | closeClient
  | fetchConfig (timeout : Option ℕ)
  | streamUpdates (forwarderID : String)
  | recv (ref : ℕ)
  | ack (request : AckRequest)
  | setVIP (vip : String)
  | reconcileMappings (mappings : List (Option TunnelMapping))
  | applyMapping (m : TunnelMapping)
  | removeMapping (port : Int)
  | setReady (ready : Bool)
  | log (line : LogLine)

/-- `ctxErr` answers whether the context has ended, `after` whether the timer fired. -/
abbrev ProcessOp.Ans : ProcessOp → Type
  | .ctxErr => Bool
  | .after _ => Bool
  | .connect _ => Except String Unit
  | .closeClient => Except String Unit
  | .fetchConfig _ => Except String ForwarderConfig
  | .streamUpdates _ => Except String ℕ
  | .recv _ => Except String TunnelUpdate
  | .ack _ => Except String Unit
  | .setVIP _ => Unit
  | .reconcileMappings _ => Except String Unit
  | .applyMapping _ => Except String Unit
  | .removeMapping _ => Unit
  | .setReady _ => Unit
  | .log _ => Unit

/-- How a bounded loop ended: with a value, with the context, or at its bound. -/
inductive Bounded (α : Type) where
  | done (a : α)
  | canceled
  | running

namespace ForwarderProcess

abbrev Run (α : Type) := Program ProcessOp.Ans α

def perform (op : ProcessOp) : Run op.Ans := Program.perform op

/-- The ADDED and MODIFIED cases of `handleUpdate`. -/
def upsert (forwarderID : String) (m : TunnelMapping) : Run (Except String Unit) :=
  if trimSpace m.gatewayAddress = "" then pure (.ok ())
  else do
    match ← perform (.applyMapping m) with
    | .error err =>
        pure (.error ("apply tunnel update for port " ++ itoa m.forwarderPort ++ ": " ++ err))
    | .ok () =>
        match ← perform (.ack (ackRequest forwarderID m)) with
        | .error err =>
            pure (.error ("ack tunnel update for port " ++ itoa m.forwarderPort ++ ": " ++ err))
        | .ok () => pure (.ok ())

def handleUpdate (forwarderID : String) (update : Option TunnelUpdate) : Run (Except String Unit) :=
  match update with
  | some ⟨type, some m⟩ =>
      if m.forwarderPort ≤ 0 then pure (.ok ())
      else match type with
        | .added => upsert forwarderID m
        | .modified => upsert forwarderID m
        | .deleted => do
            perform (.removeMapping m.forwarderPort)
            pure (.ok ())
        | .sync => pure (.ok ())
        | .unrecognized _ => pure (.ok ())
  | _ => pure (.ok ())

/-- The loop of `applySnapshot` over the entries it acknowledges. -/
def sendAcks (forwarderID : String) : List TunnelMapping → Run (Except String Unit)
  | [] => pure (.ok ())
  | m :: mappings => do
      match ← perform (.ack (ackRequest forwarderID m)) with
      | .error err =>
          pure (.error ("ack mapping " ++ m.tunnelNamespace ++ "/" ++ m.tunnelName ++
            " revision " ++
            itoa m.revision ++ ": " ++ err))
      | .ok () => sendAcks forwarderID mappings

def applySnapshot (forwarderID : String) (snapshot : ForwarderConfig) : Run (Except String Unit) :=
  do
  match ← perform (.reconcileMappings snapshot.tunnels) with
  | .error err => pure (.error err)
  | .ok () => sendAcks forwarderID (snapshotAcks snapshot)

/-- The callback that `run` passes for snapshots. -/
def onSnapshot (forwarderID : String) (snapshot : ForwarderConfig) : Run (Except String Unit) := do
  match ← applySnapshot forwarderID snapshot with
  | .error err => pure (.error err)
  | .ok () => do
      perform (.setReady true)
      pure (.ok ())

section WatchUpdates

variable (forwarderID : String) (onSnapshot : ForwarderConfig → Run (Except String Unit))
  (onUpdate : TunnelUpdate → Run (Except String Unit))

/-- A pass of `WatchUpdates` up to its snapshot: the stream, its SYNC and the configuration. -/
def openStream : Run (Except String ℕ) := do
  match ← perform (.streamUpdates forwarderID) with
  | .error err => pure (.error err)
  | .ok ref =>
      match ← perform (.recv ref) with
      | .error err => pure (.error err)
      | .ok update =>
          if update.type ≠ .sync then
            pure (.error ("expected stream sync marker, got " ++ update.type.string))
          else do
            match ← perform (.fetchConfig none) with
            | .error err => pure (.error ("fetch config after stream sync: " ++ err))
            | .ok config =>
                match ← onSnapshot config with
                | .error err => pure (.error ("apply config snapshot: " ++ err))
                | .ok () => pure (.ok ref)

/-- The inner loop of `WatchUpdates`, up to the error that breaks it. -/
def receiveUpdates (ref : ℕ) : ℕ → Run (Option String)
  | 0 => pure none
  | messages + 1 => do
      match ← perform (.recv ref) with
      | .error err => pure (some err)
      | .ok update =>
          if update.type = .sync then receiveUpdates ref messages
          else do
            match ← onUpdate update with
            | .error err => do
                perform (.log (.updateFailed err))
                receiveUpdates ref messages
            | .ok () => receiveUpdates ref messages

/-- A pass of `WatchUpdates` up to the error after which it waits, with the time it then waits. -/
def watchStream (messages backoff : ℕ) : Run (Option (String × ℕ)) := do
  match ← openStream forwarderID onSnapshot with
  | .error err => pure (some (err, backoff))
  | .ok ref =>
      match ← receiveUpdates onUpdate ref messages with
      | none => pure none
      | some err => pure (some (err, 1))

def watchLoop (messages : ℕ) : (rounds backoff : ℕ) → Run (Bounded Empty)
  | 0, _ => pure .running
  | rounds + 1, backoff => do
      match ← perform .ctxErr with
      | true => pure .canceled
      | false =>
          match ← watchStream forwarderID onSnapshot onUpdate messages backoff with
          | none => pure .running
          | some (err, backoff) => do
              perform (.log (.reconnecting err backoff))
              match ← perform (.after backoff) with
              | false => pure .canceled
              | true => watchLoop messages rounds (if backoff < 30 then backoff * 2 else backoff)

/-- `WatchUpdates` never returns a value, so what it returns is the context's error. -/
def watchUpdates (messages rounds : ℕ) : Run (Bounded Empty) :=
  watchLoop forwarderID onSnapshot onUpdate messages rounds 1

end WatchUpdates

/-- `WatchUpdates` with the callbacks of `run`. -/
def watch (forwarderID : String) (messages rounds : ℕ) : Run (Bounded Empty) :=
  watchUpdates forwarderID (onSnapshot forwarderID) (fun update =>
    handleUpdate forwarderID (some update)) messages rounds

/-- One attempt of `connectAndFetchConfig`. -/
def fetchFirstConfig (operatorAddr : String) : Run (Option ForwarderConfig) := do
  match ← perform (.connect operatorAddr) with
  | .error err => do
      perform (.log (.connectFailed err))
      pure none
  | .ok () =>
      match ← perform (.fetchConfig (some 30)) with
      | .ok config => pure (some config)
      | .error err => do
          perform (.log (.fetchFailed err))
          match ← perform .closeClient with
          | .error err => do
              perform (.log (.closeFailed err))
              pure none
          | .ok () => pure none

def connectAndFetchConfig (operatorAddr : String) : ℕ → Run (Bounded ForwarderConfig)
  | 0 => pure .running
  | rounds + 1 => do
      match ← perform .ctxErr with
      | true => pure .canceled
      | false =>
          match ← fetchFirstConfig operatorAddr with
          | some config => pure (.done config)
          | none =>
              match ← perform (.after 5) with
              | false => pure .canceled
              | true => connectAndFetchConfig operatorAddr rounds

/-- The configured address is only replaced when there is none. -/
def adoptVIP (lbVIP : String) (config : ForwarderConfig) : Run Unit :=
  if lbVIP = "" ∧ trimSpace (config.lbVip.getD "") ≠ "" then do
    perform (.setVIP (trimSpace (config.lbVip.getD "")))
    pure ()
  else pure ()

/-- `run` once it has its first configuration. An error of that ends it. -/
def applyAndWatch (forwarderID : String) (messages rounds : ℕ) (config : ForwarderConfig) :
    Run (Except String (Bounded Empty)) := do
  match ← perform (.reconcileMappings config.tunnels) with
  | .error err => pure (.error err)
  | .ok () => do
      let watched ← watch forwarderID messages rounds
      pure (.ok watched)

/-- `run` from its first connection on, without its end: the first configuration, and then the
updates. -/
def run (operatorAddr lbVIP forwarderID : String) (messages rounds : ℕ) :
    Run (Except String (Bounded Empty)) := do
  match ← connectAndFetchConfig operatorAddr rounds with
  | .running => pure (.ok .running)
  | .canceled => pure (.ok .canceled)
  | .done config => do
      adoptVIP lbVIP config
      applyAndWatch forwarderID messages rounds config

end ForwarderProcess
end TunnelOperator
