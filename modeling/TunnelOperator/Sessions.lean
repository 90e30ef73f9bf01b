import TunnelOperator.EventRun
import TunnelOperator.Table

/-!
# Sessions of a port listener

`pkg/forwarder`: one `portListener` with the goroutines that write its `SessionMap`, in their
lock-protected steps: `servePort`, one `pipeResponses` for each session, `cleanupIdleSessions`
and a `RemoveMapping` call. Activity times are not modelled, so `CleanupIdle` may take any
sessions for idle; a gateway or a client may fail a read or a write at any time.
-/

namespace TunnelOperator
open Interaction

/-- Where the `pipeResponses` of a session is. It has failed once a read or a write has; then it
deletes the key of its client, closes the connection and returns. -/
inductive PipePhase where
  | unstarted
  | reading
  | failed
  | closing
  | returned
  deriving DecidableEq

structure Session where
  clientAddr : String
  upstreamOpen : Bool
  pipe : PipePhase
  deriving DecidableEq

/-- Where `servePort` is: at its read, or with a packet of a client. -/
inductive ServePhase where
  | reading
  | received (clientAddr : String)
  | dialing (clientAddr : String)
  | dialed (clientAddr : String) (session : ℕ)
  | writing (clientAddr : String) (session : ℕ)
  | failed (clientAddr : String) (session : ℕ)
  | closing (session : ℕ)
  | returned
  deriving DecidableEq

/-- The steps of `RemoveMapping` that concern the listener. -/
inductive RemovalPhase where
  | active
  | cancelled
  | closed
  | removed
  deriving DecidableEq

/-- `sessions` is the `SessionMap`; `made` are all sessions ever created, by reference. -/
structure ListenerState where
  sessions : Table String ℕ
  made : Table ℕ Session
  next : ℕ
  serve : ServePhase
  cleaning : Bool
  removal : RemovalPhase

inductive SessionEvent where
  | packet (clientAddr : String)
  | readError
  | getSession
  | dial (ok : Bool)
  | setSession
  | write (ok : Bool)
  | deleteFailed
  | closeFailed
  | pipeFail (session : ℕ)
  | pipeDelete (session : ℕ)
  | pipeClose (session : ℕ)
  | cleanupIdle (idle : List String)
  | cleanupReturn
  | cancel
  | closeConn
  | closeAll

namespace ListenerState

def initial : ListenerState := ⟨∅, ∅, 0, .reading, true, .active⟩

def onSession (session : ℕ) (f : Session → Session) (s : ListenerState) : ListenerState :=
  match s.made.lookup session with
  | none => s
  | some x => { s with made := s.made.insert session (f x) }

def closeUpstream (session : ℕ) : ListenerState → ListenerState :=
  onSession session fun x => { x with upstreamOpen := false }

def setPipe (session : ℕ) (phase : PipePhase) : ListenerState → ListenerState :=
  onSession session fun x => { x with pipe := phase }

/-- One iteration of `CleanupIdle` or `CloseAll` that drops a session. -/
def dropSession (s : ListenerState) (key : String) : ListenerState :=
  match s.sessions.lookup key with
  | none => s
  | some session => { s.closeUpstream session with sessions := s.sessions.erase key }

def cleanup (keys : List String) (s : ListenerState) : ListenerState := keys.foldl dropSession s

/-- `ReadFromUDP` returns a packet, which it cannot do on a closed socket. -/
def packet (c : String) (s : ListenerState) : Option ListenerState :=
  if s.serve = .reading ∧ (s.removal = .active ∨ s.removal = .cancelled) then
    some { s with serve := .received c }
  else none

/-- `ReadFromUDP` fails: the loop goes on unless the context is cancelled. -/
def readError (s : ListenerState) : Option ListenerState :=
  if s.serve = .reading then
    some { s with serve := if s.removal = .active then .reading else .returned }
  else none

def getSession (s : ListenerState) : Option ListenerState :=
  match s.serve with
  | .received c =>
      match s.sessions.lookup c with
      | some session => some { s with serve := .writing c session }
      | none => some { s with serve := .dialing c }
  | _ => none

def dial (ok : Bool) (s : ListenerState) : Option ListenerState :=
  match s.serve with
  | .dialing c =>
      if ok then some { s with
        made := s.made.insert s.next ⟨c, true, .unstarted⟩
        next := s.next + 1
        serve := .dialed c s.next }
      else some { s with serve := .reading }
  | _ => none

/-- The new session is stored and its `pipeResponses` started. -/
def setSession (s : ListenerState) : Option ListenerState :=
  match s.serve with
  | .dialed c session => some { s.setPipe session .reading with
      sessions := s.sessions.insert c session
      serve := .writing c session }
  | _ => none

/-- The packet is written to the gateway, which fails on a closed connection. -/
def write (ok : Bool) (s : ListenerState) : Option ListenerState :=
  match s.serve with
  | .writing c session =>
      if ok = false then some { s with serve := .failed c session }
      else if (s.made.lookup session).any (·.upstreamOpen) then some { s with serve := .reading }
      else none
  | _ => none

def deleteFailed (s : ListenerState) : Option ListenerState :=
  match s.serve with
  | .failed c session => some { s with sessions := s.sessions.erase c, serve := .closing session }
  | _ => none

def closeFailed (s : ListenerState) : Option ListenerState :=
  match s.serve with
  | .closing session => some { s.closeUpstream session with serve := .reading }
  | _ => none

/-- The read from the gateway or the write to the client fails. -/
def pipeFail (session : ℕ) (s : ListenerState) : Option ListenerState := do
  let x ← s.made.lookup session
  if x.pipe = .reading then some (s.setPipe session .failed) else none

def pipeDelete (session : ℕ) (s : ListenerState) : Option ListenerState := do
  let x ← s.made.lookup session
  if x.pipe = .failed then
    some { s.setPipe session .closing with sessions := s.sessions.erase x.clientAddr }
  else none

def pipeClose (session : ℕ) (s : ListenerState) : Option ListenerState := do
  let x ← s.made.lookup session
  if x.pipe = .closing then some ((s.closeUpstream session).setPipe session .returned) else none

def step : SessionEvent → ListenerState → Option ListenerState
  | .packet c => packet c
  | .readError => readError
  | .getSession => getSession
  | .dial ok => dial ok
  | .setSession => setSession
  | .write ok => write ok
  | .deleteFailed => deleteFailed
  | .closeFailed => closeFailed
  | .pipeFail session => pipeFail session
  | .pipeDelete session => pipeDelete session
  | .pipeClose session => pipeClose session
  | .cleanupIdle idle => fun s => if s.cleaning then some (s.cleanup idle) else none
  | .cleanupReturn =>
      fun s => if s.removal = .active then none else some { s with cleaning := false }
  | .cancel => fun s => if s.removal = .active then some { s with removal := .cancelled } else none
  | .closeConn =>
      fun s => if s.removal = .cancelled then some { s with removal := .closed } else none
  | .closeAll => fun s =>
      if s.removal = .closed then some { s.cleanup s.sessions.keys with removal := .removed }
        else none

/-- The `servePort` goroutine is not in the middle of a packet. -/
def ServeIdle (s : ListenerState) : Prop := s.serve = .reading ∨ s.serve = .returned

/-- No `pipeResponses` is between its failed read or write and its return. -/
def PipesIdle (s : ListenerState) : Prop :=
  ∀ x ∈ s.made.values, x.pipe ≠ .failed ∧ x.pipe ≠ .closing

instance (s : ListenerState) : Decidable s.PipesIdle :=
  inferInstanceAs (Decidable (∀ x ∈ s.made.values, x.pipe ≠ .failed ∧ x.pipe ≠ .closing))

def Stored (s : ListenerState) (i : ℕ) (x : Session) : Prop :=
  s.sessions.lookup x.clientAddr = some i

end ListenerState
end TunnelOperator
