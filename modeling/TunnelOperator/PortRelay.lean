import TunnelOperator.SessionSteps

/-!
# A port listener with its datagrams and its clock

`ListenerState` says which goroutine may do what to the sessions. Here its goroutines carry
datagrams: `servePort` from the clients to the sessions' gateway connections and each
`pipeResponses` back, in the steps in which they read, `Touch` and write; and `CleanupIdle` reads a
clock, first for its cutoff and then, under the lock, for every session. What arrived and what
became of it stays on record.
-/

namespace TunnelOperator
open Interaction

abbrev Datagram := List UInt8

def udpBufferSize : ℕ := 65535

/-- A read into a buffer of `udpBufferSize` bytes. -/
def readInto (data : Datagram) : Datagram := data.take udpBufferSize

/-- One label combination of `PacketsTotal` and `BytesTotal`. -/
structure Counter where
  packets : ℕ
  bytes : ℕ
  deriving DecidableEq

def Counter.add (data : Datagram) (c : Counter) : Counter := ⟨c.packets + 1, c.bytes + data.length⟩

/-- What became of a client's packet: written to the connection of a session, or dropped. -/
structure Fate where
  clientAddr : String
  data : Datagram
  session : Option ℕ
  deriving DecidableEq

structure Delivery where
  session : ℕ
  clientAddr : String
  data : Datagram
  deriving DecidableEq

/-- `touched` is about the packet in the hands of `servePort`; `replies` are in the hands of the
`pipeResponses` of their sessions, with whether it has touched the session; `cutoff` is the time
at which the `CleanupIdle` under way began. -/
structure PortRelay where
  listener : ListenerState
  now : ℕ
  buf : Datagram
  touched : Bool
  lastActivity : Table ℕ ℕ
  replies : Table ℕ (Datagram × Bool)
  cutoff : Option ℕ
  lastSweep : ℕ
  arrived : List (String × Datagram)
  fates : List Fate
  received : List (ℕ × Datagram)
  delivered : List Delivery
  clientToGateway : Counter
  gatewayToClient : Counter
  activeSessions : Int

inductive PortEvent where
  | tick (d : ℕ)
  | packet (clientAddr : String) (data : Datagram)
  | dial (ok : Bool)
  | setSession
  | touch
  | write (ok : Bool)
  | pipeRead (session : ℕ) (data : Datagram)
  | pipeTouch (session : ℕ)
  | pipeWrite (session : ℕ)
  | pipeFail (session : ℕ)
  | pipeClose (session : ℕ)
  | startCleanup
  | sweep
  | cleanupReturn
  | session (e : SessionEvent)

def SessionEvent.plain : SessionEvent → Bool
  | .readError | .getSession | .deleteFailed | .closeFailed | .pipeDelete _ | .cancel | .closeConn
  | .closeAll => true
  | _ => false

namespace PortRelay

def initial : PortRelay :=
  ⟨.initial, 0, [], false, ∅, ∅, none, 0, [], [], [], [], ⟨0, 0⟩, ⟨0, 0⟩, 0⟩

def packet (c : String) (data : Datagram) (r : PortRelay) : Option PortRelay :=
  (r.listener.packet c).map fun s => { r with
    listener := s
    buf := readInto data
    touched := false
    arrived := r.arrived ++ [(c, data)] }

/-- `NewSession` reads the clock. -/
def dial (ok : Bool) (r : PortRelay) : Option PortRelay :=
  match r.listener.serve with
  | .dialing c => (r.listener.dial ok).map fun s =>
      if ok then
        { r with listener := s, lastActivity := r.lastActivity.insert r.listener.next r.now }
      else { r with listener := s, fates := r.fates ++ [⟨c, r.buf, none⟩] }
  | _ => none

def setSession (r : PortRelay) : Option PortRelay :=
  r.listener.setSession.map fun s =>
    { r with listener := s, activeSessions := r.activeSessions + 1 }

def touch (r : PortRelay) : Option PortRelay :=
  match r.listener.serve with
  | .writing _ i =>
      if r.touched then none
      else some { r with touched := true, lastActivity := r.lastActivity.insert i r.now }
  | _ => none

def write (ok : Bool) (r : PortRelay) : Option PortRelay :=
  match r.listener.serve with
  | .writing c i =>
      if r.touched then (r.listener.write ok).map fun s =>
        if ok then { r with
          listener := s
          fates := r.fates ++ [⟨c, r.buf, some i⟩]
          clientToGateway := r.clientToGateway.add r.buf }
        else { r with listener := s, fates := r.fates ++ [⟨c, r.buf, none⟩] }
      else none
  | _ => none

def pipeRead (i : ℕ) (data : Datagram) (r : PortRelay) : Option PortRelay := do
  let x ← r.listener.made.lookup i
  if x.pipe = .reading ∧ x.upstreamOpen = true ∧ r.replies.lookup i = none then
    some { r with
      replies := r.replies.insert i (readInto data, false)
      received := r.received ++ [(i, data)] }
  else none

def pipeTouch (i : ℕ) (r : PortRelay) : Option PortRelay :=
  match r.replies.lookup i with
  | some (data, false) => some { r with
      replies := r.replies.insert i (data, true)
      lastActivity := r.lastActivity.insert i r.now }
  | _ => none

def connOpen (r : PortRelay) : Prop :=
  r.listener.removal = .active ∨ r.listener.removal = .cancelled

instance (r : PortRelay) : Decidable r.connOpen := inferInstanceAs (Decidable (_ ∨ _))

def pipeWrite (i : ℕ) (r : PortRelay) : Option PortRelay := do
  let x ← r.listener.made.lookup i
  match r.replies.lookup i with
  | some (data, true) =>
      if r.connOpen then some { r with
        replies := r.replies.erase i
        delivered := r.delivered ++ [⟨i, x.clientAddr, data⟩]
        gatewayToClient := r.gatewayToClient.add data }
      else none
  | _ => none

/-- A failed read, or a failed write after the `Touch`. -/
def pipeFail (i : ℕ) (r : PortRelay) : Option PortRelay :=
  match r.replies.lookup i with
  | some (_, false) => none
  | _ => (r.listener.pipeFail i).map fun s => { r with listener := s, replies := r.replies.erase i }

def pipeClose (i : ℕ) (r : PortRelay) : Option PortRelay :=
  (r.listener.pipeClose i).map fun s =>
    { r with listener := s, activeSessions := r.activeSessions - 1 }

/-- `cutoff := time.Now().Add(-timeout)`. -/
def startCleanup (r : PortRelay) : Option PortRelay :=
  if r.listener.cleaning = true ∧ r.cutoff = none then some { r with cutoff := some r.now }
    else none

/-- The session's last activity is not after the cutoff that was taken at the time `t`. -/
def IdleAt (timeout t : ℕ) (r : PortRelay) (i : ℕ) : Prop :=
  (r.lastActivity.lookup i).getD 0 + timeout ≤ t

instance (timeout t : ℕ) (r : PortRelay) (i : ℕ) : Decidable (r.IdleAt timeout t i) :=
  inferInstanceAs (Decidable (_ ≤ _))

/-- The keys that `CleanupIdle` does not skip. -/
def idle (timeout t : ℕ) (r : PortRelay) : List String :=
  r.listener.sessions.keys.filter fun k => ∃ i ∈ r.listener.sessions.lookup k, r.IdleAt timeout t i

def sweep (timeout : ℕ) (r : PortRelay) : Option PortRelay := do
  let t ← r.cutoff
  let s ← ListenerState.step (.cleanupIdle (r.idle timeout t)) r.listener
  some { r with listener := s, cutoff := none, lastSweep := t }

def cleanupReturn (r : PortRelay) : Option PortRelay :=
  if r.cutoff = none then
    (ListenerState.step .cleanupReturn r.listener).map fun s => { r with listener := s }
  else none

def step (timeout : ℕ) : PortEvent → PortRelay → Option PortRelay
  | .tick d => fun r => some { r with now := r.now + d }
  | .packet c data => packet c data
  | .dial ok => dial ok
  | .setSession => setSession
  | .touch => touch
  | .write ok => write ok
  | .pipeRead i data => pipeRead i data
  | .pipeTouch i => pipeTouch i
  | .pipeWrite i => pipeWrite i
  | .pipeFail i => pipeFail i
  | .pipeClose i => pipeClose i
  | .startCleanup => startCleanup
  | .sweep => sweep timeout
  | .cleanupReturn => cleanupReturn
  | .session e => fun r =>
      if e.plain then (ListenerState.step e r.listener).map fun s => { r with listener := s }
        else none

section Steps

variable {timeout : ℕ} {r r' : PortRelay} {e : PortEvent} {i : ℕ}

/-- Everything a step can do. -/
inductive Effect (timeout : ℕ) (r : PortRelay) : PortRelay → Prop where
  | tick (d : ℕ) : Effect timeout r { r with now := r.now + d }
  | packet (c : String) (data : Datagram) (s : ListenerState) (hs : r.listener.packet c = some s) :
      Effect timeout r { r with
        listener := s, buf := readInto data, touched := false, arrived := r.arrived ++ [(c, data)] }
  | dialed (c : String) (s : ListenerState) (hserve : r.listener.serve = .dialing c)
      (hs : r.listener.dial true = some s) : Effect timeout r { r with
        listener := s, lastActivity := r.lastActivity.insert r.listener.next r.now }
  | undialed (c : String) (s : ListenerState) (hserve : r.listener.serve = .dialing c)
      (hs : r.listener.dial false = some s) :
      Effect timeout r { r with listener := s, fates := r.fates ++ [⟨c, r.buf, none⟩] }
  | setSession (s : ListenerState) (hs : r.listener.setSession = some s) :
      Effect timeout r { r with listener := s, activeSessions := r.activeSessions + 1 }
  | touch (c : String) (i : ℕ) (hserve : r.listener.serve = .writing c i) :
      Effect timeout r { r with touched := true, lastActivity := r.lastActivity.insert i r.now }
  | sent (c : String) (i : ℕ) (s : ListenerState) (hserve : r.listener.serve = .writing c i)
      (htouched : r.touched = true) (hs : r.listener.write true = some s) :
      Effect timeout r { r with
        listener := s
        fates := r.fates ++ [⟨c, r.buf, some i⟩]
        clientToGateway := r.clientToGateway.add r.buf }
  | unsent (c : String) (i : ℕ) (s : ListenerState) (hserve : r.listener.serve = .writing c i)
      (htouched : r.touched = true) (hs : r.listener.write false = some s) :
      Effect timeout r { r with listener := s, fates := r.fates ++ [⟨c, r.buf, none⟩] }
  | pipeRead (i : ℕ) (x : Session) (data : Datagram) (hx : r.listener.made.lookup i = some x)
      (hpipe : x.pipe = .reading) (hnone : r.replies.lookup i = none) : Effect timeout r { r with
        replies := r.replies.insert i (readInto data, false)
        received := r.received ++ [(i, data)] }
  | pipeTouch (i : ℕ) (data : Datagram) (hold : r.replies.lookup i = some (data, false)) :
      Effect timeout r { r with
        replies := r.replies.insert i (data, true), lastActivity := r.lastActivity.insert i r.now }
  | pipeWrite (i : ℕ) (x : Session) (data : Datagram) (hx : r.listener.made.lookup i = some x)
      (hold : r.replies.lookup i = some (data, true)) (hopen : r.connOpen) :
      Effect timeout r { r with
        replies := r.replies.erase i
        delivered := r.delivered ++ [⟨i, x.clientAddr, data⟩]
        gatewayToClient := r.gatewayToClient.add data }
  | pipeFail (i : ℕ) (s : ListenerState) (hs : r.listener.pipeFail i = some s) :
      Effect timeout r { r with listener := s, replies := r.replies.erase i }
  | pipeClose (i : ℕ) (s : ListenerState) (hs : r.listener.pipeClose i = some s) :
      Effect timeout r { r with listener := s, activeSessions := r.activeSessions - 1 }
  | startCleanup (hnone : r.cutoff = none) : Effect timeout r { r with cutoff := some r.now }
  | sweep (t : ℕ) (s : ListenerState) (hcutoff : r.cutoff = some t)
      (hs : ListenerState.step (.cleanupIdle (r.idle timeout t)) r.listener = some s) :
      Effect timeout r { r with listener := s, cutoff := none, lastSweep := t }
  | cleanupReturn (s : ListenerState) (hs : ListenerState.step .cleanupReturn r.listener = some s) :
      Effect timeout r { r with listener := s }
  | session (e : SessionEvent) (s : ListenerState) (hplain : e.plain = true)
      (hs : ListenerState.step e r.listener = some s) : Effect timeout r { r with listener := s }

theorem step_effect (hstep : step timeout e r = some r') : Effect timeout r r' := by
  cases e with
  | tick d =>
      cases hstep
      exact .tick d
  | packet c data =>
      obtain ⟨s, hs, rfl⟩ := Option.map_eq_some_iff.mp hstep
      exact .packet c data s hs
  | dial ok =>
      simp only [step, dial] at hstep
      split at hstep
      · rename_i c hserve
        obtain ⟨s, hs, rfl⟩ := Option.map_eq_some_iff.mp hstep
        cases ok with
        | true => exact .dialed c s hserve hs
        | false => exact .undialed c s hserve hs
      · cases hstep
  | setSession =>
      obtain ⟨s, hs, rfl⟩ := Option.map_eq_some_iff.mp hstep
      exact .setSession s hs
  | touch =>
      simp only [step, touch] at hstep
      split at hstep
      · rename_i c i hserve
        split_ifs at hstep
        cases hstep
        exact .touch c i hserve
      · cases hstep
  | write ok =>
      simp only [step, write] at hstep
      split at hstep
      · rename_i c i hserve
        split_ifs at hstep with htouched hok
        · obtain ⟨s, hs, rfl⟩ := Option.map_eq_some_iff.mp hstep
          exact .sent c i s hserve htouched (hok ▸ hs)
        · obtain ⟨s, hs, rfl⟩ := Option.map_eq_some_iff.mp hstep
          exact .unsent c i s hserve htouched (Bool.eq_false_iff.mpr hok ▸ hs)
      · cases hstep
  | pipeRead i data =>
      simp only [step, pipeRead, Option.bind_eq_bind, Option.bind_eq_some_iff] at hstep
      obtain ⟨x, hx, hstep⟩ := hstep
      split_ifs at hstep with hg
      cases hstep
      exact .pipeRead i x data hx hg.1 hg.2.2
  | pipeTouch i =>
      simp only [step, pipeTouch] at hstep
      split at hstep
      · rename_i data hold
        cases hstep
        exact .pipeTouch i data hold
      · cases hstep
  | pipeWrite i =>
      simp only [step, pipeWrite, Option.bind_eq_bind, Option.bind_eq_some_iff] at hstep
      obtain ⟨x, hx, hstep⟩ := hstep
      split at hstep
      · rename_i data hold
        split_ifs at hstep with hopen
        cases hstep
        exact .pipeWrite i x data hx hold hopen
      · cases hstep
  | pipeFail i =>
      simp only [step, pipeFail] at hstep
      split at hstep
      · cases hstep
      · obtain ⟨s, hs, rfl⟩ := Option.map_eq_some_iff.mp hstep
        exact .pipeFail i s hs
  | pipeClose i =>
      obtain ⟨s, hs, rfl⟩ := Option.map_eq_some_iff.mp hstep
      exact .pipeClose i s hs
  | startCleanup =>
      simp only [step, startCleanup] at hstep
      split_ifs at hstep with hg
      cases hstep
      exact .startCleanup hg.2
  | sweep =>
      simp only [step, sweep, Option.bind_eq_bind, Option.bind_eq_some_iff] at hstep
      obtain ⟨t, hcutoff, s, hs, hstep⟩ := hstep
      cases hstep
      exact .sweep t s hcutoff hs
  | cleanupReturn =>
      simp only [step, cleanupReturn] at hstep
      split_ifs at hstep
      obtain ⟨s, hs, rfl⟩ := Option.map_eq_some_iff.mp hstep
      exact .cleanupReturn s hs
  | session e =>
      simp only [step] at hstep
      split_ifs at hstep with hplain
      obtain ⟨s, hs, rfl⟩ := Option.map_eq_some_iff.mp hstep
      exact .session e s hplain hs

theorem step_listener (hstep : step timeout e r = some r') :
    r'.listener = r.listener ∨ ∃ e', ListenerState.step e' r.listener = some r'.listener := by
  cases step_effect hstep with
  | packet c data s hs => exact Or.inr ⟨.packet c, hs⟩
  | dialed c s _ hs => exact Or.inr ⟨.dial true, hs⟩
  | undialed c s _ hs => exact Or.inr ⟨.dial false, hs⟩
  | setSession s hs => exact Or.inr ⟨.setSession, hs⟩
  | sent c i s _ _ hs => exact Or.inr ⟨.write true, hs⟩
  | unsent c i s _ _ hs => exact Or.inr ⟨.write false, hs⟩
  | pipeFail i s hs => exact Or.inr ⟨.pipeFail i, hs⟩
  | pipeClose i s hs => exact Or.inr ⟨.pipeClose i, hs⟩
  | sweep t s _ hs => exact Or.inr ⟨_, hs⟩
  | cleanupReturn s hs => exact Or.inr ⟨_, hs⟩
  | session e s _ hs => exact Or.inr ⟨e, hs⟩
  | tick | touch | pipeRead | pipeTouch | pipeWrite | startCleanup => exact Or.inl rfl

theorem linked_step (h : r.listener.Linked) (hstep : step timeout e r = some r') :
    r'.listener.Linked := by
  rcases step_listener hstep with hsame | ⟨e', he'⟩
  · rw [hsame]
    exact h
  · exact h.step he'

theorem client_step (h : r.listener.Linked) (hstep : step timeout e r = some r') {c : String}
    (hi : ∃ x, r.listener.made.lookup i = some x ∧ x.clientAddr = c) :
    ∃ x, r'.listener.made.lookup i = some x ∧ x.clientAddr = c := by
  obtain ⟨x, hx, hc⟩ := hi
  rcases step_listener hstep with hsame | ⟨e', he'⟩
  · rw [hsame]
    exact ⟨x, hx, hc⟩
  · obtain ⟨x', hx', hsame, -⟩ := (ListenerState.step_moves h he').kept i x hx
    exact ⟨x', hx', hsame.trans hc⟩

end Steps
end PortRelay
end TunnelOperator
