import TunnelOperator.IdleTimeout

/-!
# The gateway's TCP relay

`handleConn` and `copyAndClose` of `cmd/gateway`, with the bytes. A connection has one goroutine
for each direction; both run `io.CopyBuffer` in chunks of any size, pass the end of the stream on
with `CloseWrite`, add the number of copied bytes to a counter and signal that they are done. The
handler waits for both before it closes anything. Peers send when they like, and every read and
write may fail.

`sent`, `failed` and `dialed` are records for the proofs: all that a peer has sent, the error with
which a copy ended, and whether the target was reached.
-/

namespace TunnelOperator
open Interaction

/-- `writing` holds what has been read and not yet written. -/
inductive CopyPhase where
  | reading
  | writing (chunk : List UInt8)
  | closing
  | counting
  | done
  deriving DecidableEq

namespace CopyPhase

def chunk : CopyPhase → List UInt8
  | .writing chunk => chunk
  | _ => []

/-- `io.CopyBuffer` has returned. -/
def ended : CopyPhase → Bool
  | .closing | .counting | .done => true
  | _ => false

/-- `CloseWrite` has been called. -/
def signalled : CopyPhase → Bool
  | .counting | .done => true
  | _ => false

end CopyPhase

/-- One direction of a connection: what one peer has sent, what of it has not been read, whether it
has ended its stream, and what has been written to the other peer. -/
structure Flow where
  sent : List UInt8
  unread : List UInt8
  fin : Bool
  written : List UInt8
  finWritten : Bool
  copied : ℕ
  phase : CopyPhase
  failed : Option String
  deriving DecidableEq

inductive FlowEvent where
  | send (bytes : List UInt8)
  | fin
  | read (n : ℕ)
  | eof
  | readError (err : String)
  | write
  | writeError (n : ℕ) (err : String)
  | closeWrite
  | count
  deriving DecidableEq

namespace Flow

def initial : Flow := ⟨[], [], false, [], false, 0, .reading, none⟩

def step : FlowEvent → Flow → Option Flow
  | .send bytes, f =>
      if f.fin then none else some { f with sent := f.sent ++ bytes, unread := f.unread ++ bytes }
  | .fin, f => some { f with fin := true }
  | .read n, f =>
      if f.phase = .reading ∧ 0 < n ∧ n ≤ f.unread.length then
        some { f with unread := f.unread.drop n, phase := .writing (f.unread.take n) }
      else none
  | .eof, f =>
      if f.phase = .reading ∧ f.unread = [] ∧ f.fin = true then some { f with phase := .closing }
        else none
  | .readError err, f =>
      if f.phase = .reading then some { f with phase := .closing, failed := some err } else none
  | .write, f =>
      match f.phase with
      | .writing chunk =>
          some { f with
            written := f.written ++ chunk
            copied := f.copied + chunk.length
            phase := .reading }
      | _ => none
  | .writeError n err, f =>
      match f.phase with
      | .writing chunk =>
          -- a short write comes with an error
          if n ≤ chunk.length then
            some { f with
              written := f.written ++ chunk.take n
              copied := f.copied + n
              phase := .closing
              failed := some err }
          else none
      | _ => none
  | .closeWrite, f =>
      if f.phase = .closing then some { f with phase := .counting, finWritten := true } else none
  | .count, f => if f.phase = .counting then some { f with phase := .done } else none

end Flow

/-- What the goroutine of `handleConn` does next. -/
inductive HandlerPhase where
  | countTotal
  | countActive
  | dial
  | relay
  | closeTarget
  | release
  | closeSource
  | ended
  deriving DecidableEq

namespace HandlerPhase

def starting : HandlerPhase → Bool
  | .countTotal | .countActive | .dial => true
  | _ => false

/-- The handler is behind the target, which it has closed or not reached. -/
def leaving : HandlerPhase → Bool
  | .release | .closeSource | .ended => true
  | _ => false

end HandlerPhase

structure TcpConn where
  phase : HandlerPhase
  dialed : Option Bool
  toTarget : Flow
  fromTarget : Flow
  targetClosed : Bool
  sourceClosed : Bool
  deriving DecidableEq

structure GatewayMetrics where
  connectionsTotal : ℕ
  connectionsActive : Int
  receivedBytes : ℕ
  sentBytes : ℕ
  deriving DecidableEq

namespace TcpConn

def accepted : TcpConn := ⟨.countTotal, none, .initial, .initial, false, false⟩

def flow : Direction → TcpConn → Flow
  | .toTarget, conn => conn.toTarget
  | .fromTarget, conn => conn.fromTarget

def setFlow (f : Flow) : Direction → TcpConn → TcpConn
  | .toTarget, conn => { conn with toTarget := f }
  | .fromTarget, conn => { conn with fromTarget := f }

/-- The next statement of `handleConn`. The deferred calls run last in, first out. -/
def advance (dialed : Bool) (conn : TcpConn) : Option TcpConn :=
  match conn.phase with
  | .countTotal => some { conn with phase := .countActive }
  | .countActive => some { conn with phase := .dial }
  | .dial => some { conn with phase := if dialed then .relay else .release, dialed := some dialed }
  | .relay =>
      if conn.toTarget.phase = .done ∧ conn.fromTarget.phase = .done then
        some { conn with phase := .closeTarget }
      else none
  | .closeTarget => some { conn with phase := .release, targetClosed := true }
  | .release => some { conn with phase := .closeSource }
  | .closeSource => some { conn with phase := .ended, sourceClosed := true }
  | .ended => none

/-- Both goroutines and the target exist while the handler waits for them; the client may send
from the beginning. -/
def admits (direction : Direction) (e : FlowEvent) (conn : TcpConn) : Bool :=
  match e, direction with
  | .send _, .toTarget => true
  | .fin, .toTarget => true
  | _, _ => conn.phase = .relay

def copy (direction : Direction) (e : FlowEvent) (conn : TcpConn) : Option TcpConn :=
  if conn.admits direction e then
    ((conn.flow direction).step e).map fun f => conn.setFlow f direction
  else none

end TcpConn

structure TcpProxy where
  conns : List TcpConn
  metrics : GatewayMetrics
  deriving DecidableEq

inductive TcpEvent where
  | accept
  | advance (i : ℕ) (dialed : Bool)
  | copy (i : ℕ) (direction : Direction) (e : FlowEvent)
  deriving DecidableEq

namespace GatewayMetrics

/-- What the next statement of `handleConn` counts. -/
def onAdvance (phase : HandlerPhase) (m : GatewayMetrics) : GatewayMetrics :=
  match phase with
  | .countTotal => { m with connectionsTotal := m.connectionsTotal + 1 }
  | .countActive => { m with connectionsActive := m.connectionsActive + 1 }
  | .release => { m with connectionsActive := m.connectionsActive - 1 }
  | _ => m

def onCopy (direction : Direction) (e : FlowEvent) (n : ℕ) (m : GatewayMetrics) : GatewayMetrics :=
  match e, direction with
  | .count, .toTarget => { m with receivedBytes := m.receivedBytes + n }
  | .count, .fromTarget => { m with sentBytes := m.sentBytes + n }
  | _, _ => m

end GatewayMetrics

namespace TcpProxy

def initial : TcpProxy := ⟨[], ⟨0, 0, 0, 0⟩⟩

def step : TcpEvent → TcpProxy → Option TcpProxy
  | .accept, p => some { p with conns := p.conns ++ [.accepted] }
  | .advance i dialed, p => do
      let conn ← p.conns[i]?
      let conn' ← conn.advance dialed
      some ⟨p.conns.set i conn', p.metrics.onAdvance conn.phase⟩
  | .copy i direction e, p => do
      let conn ← p.conns[i]?
      let conn' ← conn.copy direction e
      some ⟨p.conns.set i conn', p.metrics.onCopy direction e (conn.flow direction).copied⟩

end TcpProxy

namespace Flow

variable {f f' : Flow} {e : FlowEvent}

/-- What a step does, and where the goroutine has to be for it. -/
inductive Effect (f : Flow) : FlowEvent → Flow → Prop where
  | send (bytes : List UInt8) : f.fin ≠ true →
      Effect f (.send bytes) { f with sent := f.sent ++ bytes, unread := f.unread ++ bytes }
  | fin : Effect f .fin { f with fin := true }
  | read (n : ℕ) : f.phase = .reading →
      Effect f (.read n) { f with unread := f.unread.drop n, phase := .writing (f.unread.take n) }
  | eof : f.phase = .reading → f.unread = [] → f.fin = true →
    Effect f .eof { f with phase := .closing }
  | readError (err : String) : f.phase = .reading →
      Effect f (.readError err) { f with phase := .closing, failed := some err }
  | write (chunk : List UInt8) : f.phase = .writing chunk → Effect f .write
      { f with written := f.written ++ chunk, copied := f.copied + chunk.length, phase := .reading }
  | writeError (chunk : List UInt8) (n : ℕ) (err : String) :
    f.phase = .writing chunk → n ≤ chunk.length →
      Effect f (.writeError n err) { f with
        written := f.written ++ chunk.take n, copied := f.copied + n
        phase := .closing, failed := some err }
  | closeWrite : f.phase = .closing → Effect f .closeWrite
    { f with phase := .counting, finWritten := true }
  | count : f.phase = .counting → Effect f .count { f with phase := .done }

theorem step_effect (hstep : f.step e = some f') : f.Effect e f' := by
  cases e with
  | send bytes =>
      simp only [Flow.step] at hstep
      split_ifs at hstep with hf
      cases hstep
      exact .send bytes hf
  | fin =>
      cases hstep
      exact .fin
  | read n =>
      simp only [Flow.step] at hstep
      split_ifs at hstep with hr
      cases hstep
      exact .read n hr.1
  | eof =>
      simp only [Flow.step] at hstep
      split_ifs at hstep with hr
      cases hstep
      exact .eof hr.1 hr.2.1 hr.2.2
  | readError err =>
      simp only [Flow.step] at hstep
      split_ifs at hstep with hr
      cases hstep
      exact .readError err hr
  | write =>
      cases hp : f.phase <;> simp only [Flow.step, hp] at hstep <;> cases hstep
      exact .write _ hp
  | writeError n err =>
      cases hp : f.phase <;> simp only [Flow.step, hp] at hstep <;> try cases hstep
      split_ifs at hstep with hn
      cases hstep
      exact .writeError _ n err hp hn
  | closeWrite =>
      simp only [Flow.step] at hstep
      split_ifs at hstep with hr
      cases hstep
      exact .closeWrite hr
  | count =>
      simp only [Flow.step] at hstep
      split_ifs at hstep with hr
      cases hstep
      exact .count hr

/-- Where the bytes are that the peer has sent: written, in the goroutine's hands, or unread; bytes
are lost only by a copy that has ended with an error. -/
structure Exact (f : Flow) : Prop where
  bytes : ∃ lost, f.written ++ f.phase.chunk ++ lost ++ f.unread = f.sent ∧
    (f.failed = none → lost = [])
  failed : f.failed ≠ none → f.phase.ended = true
  ended : f.failed = none → f.phase.ended = true → f.unread = [] ∧ f.fin = true
  finWritten : f.finWritten = f.phase.signalled
  copied : f.copied = f.written.length

theorem exact_initial : initial.Exact :=
  ⟨⟨[], rfl, fun _ => rfl⟩, fun h => absurd rfl h, fun _ h => (by cases h), rfl, rfl⟩

theorem Exact.step (h : f.Exact) (hstep : f.step e = some f') : f'.Exact := by
  obtain ⟨⟨lost, hbytes, hlost⟩, hfailed, hended, hfin, hcopied⟩ := h
  cases step_effect hstep with
  | send bytes hf =>
      refine ⟨⟨lost, ?_, hlost⟩, hfailed, fun hnone hend => absurd (hended hnone hend).2 hf, hfin,
        hcopied⟩
      change _ ++ (f.unread ++ bytes) = f.sent ++ bytes
      rw [← List.append_assoc, hbytes]
  | fin =>
      exact ⟨⟨lost, hbytes, hlost⟩, hfailed, fun hnone hend => ⟨(hended hnone hend).1, rfl⟩, hfin,
        hcopied⟩
  | read n hp =>
      rw [hp] at hbytes hfailed hfin
      have hnone : f.failed = none := not_not.mp fun hne => by cases hfailed hne
      refine ⟨⟨[], ?_, fun _ => rfl⟩, fun hne => absurd hnone hne, fun _ hend => (by cases hend),
        hfin, hcopied⟩
      rw [← hbytes, hlost hnone]
      simp [CopyPhase.chunk]
  | eof hp hunread hf =>
      rw [hp] at hbytes hfin
      exact ⟨⟨lost, hbytes, hlost⟩, fun _ => rfl, fun _ _ => ⟨hunread, hf⟩, hfin, hcopied⟩
  | readError err hp =>
      rw [hp] at hbytes hfin
      exact ⟨⟨lost, hbytes, fun h => (by cases h)⟩, fun _ => rfl, fun h => (by cases h), hfin,
        hcopied⟩
  | write chunk hp =>
      rw [hp] at hbytes hfailed hfin
      have hnone : f.failed = none := not_not.mp fun hne => by cases hfailed hne
      refine ⟨⟨lost, ?_, hlost⟩, fun hne => absurd hnone hne, fun _ hend => (by cases hend), hfin,
        ?_⟩
      · simpa [CopyPhase.chunk] using hbytes
      · simp [hcopied]
  | writeError chunk n err hp hn =>
      rw [hp] at hbytes hfin
      refine ⟨⟨chunk.drop n ++ lost, ?_, fun h => (by cases h)⟩, fun _ => rfl, fun h =>
        (by cases h), hfin, ?_⟩
      · have hsplit : f.written ++ chunk.take n ++ chunk.drop n = f.written ++ chunk := by
          rw [List.append_assoc, List.take_append_drop]
        rw [← hbytes]
        simp [CopyPhase.chunk, ← List.append_assoc, hsplit]
      · simp [hcopied, hn]
  | closeWrite hp =>
      rw [hp] at hbytes hended
      exact ⟨⟨lost, hbytes, hlost⟩, fun _ => rfl, fun hnone _ => hended hnone rfl, rfl, hcopied⟩
  | count hp =>
      rw [hp] at hbytes hended hfin
      exact ⟨⟨lost, hbytes, hlost⟩, fun _ => rfl, fun hnone _ => hended hnone rfl, hfin, hcopied⟩

theorem Exact.written_step (h : f.Exact) (hfin : f.finWritten = true) (hstep : f.step e = some f') :
    f'.written = f.written ∧ f'.finWritten = true := by
  have hs : f.phase.signalled = true := h.finWritten ▸ hfin
  cases step_effect hstep with
  | write chunk hp =>
      rw [hp] at hs
      cases hs
  | writeError chunk n err hp hn =>
      rw [hp] at hs
      cases hs
  | closeWrite hp => exact ⟨rfl, rfl⟩
  | _ => exact ⟨rfl, hfin⟩

end Flow

namespace TcpConn

variable {conn conn' : TcpConn} {direction d : Direction} {e : FlowEvent} {dialed : Bool}

@[simp] theorem flow_setFlow (f : Flow) (direction d : Direction) (conn : TcpConn) :
    (conn.setFlow f direction).flow d = if d = direction then f else conn.flow d := by
  cases direction <;> cases d <;> rfl

@[simp] theorem setFlow_phase (f : Flow) (direction : Direction) (conn : TcpConn) :
    (conn.setFlow f direction).phase = conn.phase := by
  cases direction <;> rfl

@[simp] theorem setFlow_dialed (f : Flow) (direction : Direction) (conn : TcpConn) :
    (conn.setFlow f direction).dialed = conn.dialed := by
  cases direction <;> rfl

@[simp] theorem setFlow_targetClosed (f : Flow) (direction : Direction) (conn : TcpConn) :
    (conn.setFlow f direction).targetClosed = conn.targetClosed := by
  cases direction <;> rfl

@[simp] theorem setFlow_sourceClosed (f : Flow) (direction : Direction) (conn : TcpConn) :
    (conn.setFlow f direction).sourceClosed = conn.sourceClosed := by
  cases direction <;> rfl

theorem copy_some (h : conn.copy direction e = some conn') :
    conn.admits direction e = true ∧ ∃ f, (conn.flow direction).step e = some f ∧
      conn' = conn.setFlow f direction := by
  unfold copy at h
  split_ifs at h with ha
  obtain ⟨f, hf, rfl⟩ := Option.map_eq_some_iff.mp h
  exact ⟨ha, f, hf, rfl⟩

theorem advance_flow (h : conn.advance dialed = some conn') (d : Direction) :
    conn'.flow d = conn.flow d := by
  cases hp : conn.phase with
  | relay =>
      simp only [advance, hp] at h
      split_ifs at h
      cases h
      cases d <;> rfl
  | ended => simp [advance, hp] at h
  | _ =>
      simp only [advance, hp, Option.some.injEq] at h
      subst h
      cases d <;> rfl

theorem advance_dialed (h : conn.advance dialed = some conn') :
    conn'.dialed = conn.dialed ∨ conn'.dialed = some dialed := by
  cases hp : conn.phase with
  | dial =>
      simp only [advance, hp, Option.some.injEq] at h
      subst h
      exact Or.inr rfl
  | relay =>
      simp only [advance, hp] at h
      split_ifs at h
      cases h
      exact Or.inl rfl
  | ended => simp [advance, hp] at h
  | _ =>
      simp only [advance, hp, Option.some.injEq] at h
      subst h
      exact Or.inl rfl

def Finished (conn : TcpConn) : Prop := ∀ d, (conn.flow d).phase = .done

def Untouched (conn : TcpConn) : Prop :=
  ∀ d, (conn.flow d).phase = .reading ∧ (conn.flow d).written = []

/-- Why the handler is behind the target: both goroutines have signalled, or there was no target
to start them for. -/
def Left (conn : TcpConn) : Prop :=
  (conn.dialed = some true ∧ conn.Finished) ∨ (conn.dialed = some false ∧ conn.Untouched)

structure Ordered (conn : TcpConn) : Prop where
  starting : conn.phase.starting = true → conn.Untouched
  reached : conn.phase = .relay ∨ conn.phase = .closeTarget → conn.dialed = some true
  waited : conn.phase = .closeTarget → conn.Finished
  leaving : conn.phase.leaving = true → conn.Left
  targetClosed : conn.targetClosed = true → conn.phase.leaving = true ∧ conn.Finished
  sourceClosed : conn.sourceClosed = true → conn.phase = .ended

theorem ordered_accepted : accepted.Ordered := by
  refine ⟨fun _ d => ?_, fun h => ?_, fun h => ?_, fun h => ?_, fun h => ?_, fun h => ?_⟩
  · cases d <;> exact ⟨rfl, rfl⟩
  · rcases h with h | h <;> cases h
  all_goals cases h

theorem Ordered.target_open (h : conn.Ordered) (hp : conn.phase.leaving = false) :
    conn.targetClosed ≠ true := by
  intro ht
  have hl := (h.targetClosed ht).1
  rw [hp] at hl
  cases hl

theorem Ordered.advance (h : conn.Ordered) (hstep : conn.advance dialed = some conn') :
    conn'.Ordered := by
  have hfinished : conn.Finished → conn'.Finished := fun hf d => by
    rw [advance_flow hstep]
    exact hf d
  have huntouched : conn.Untouched → conn'.Untouched := fun hu d => by
    rw [advance_flow hstep]
    exact hu d
  have hleft : conn'.dialed = conn.dialed → conn.Left → conn'.Left := fun hd hl =>
    hl.imp (fun hl => ⟨hd.trans hl.1, hfinished hl.2⟩) fun hl => ⟨hd.trans hl.1, huntouched hl.2⟩
  have hsource : conn.phase ≠ .ended → conn.sourceClosed ≠ true :=
    fun hp hs => hp (h.sourceClosed hs)
  obtain ⟨phase, dialed', toTarget, fromTarget, targetClosed, sourceClosed⟩ := conn
  cases phase with
  | countTotal =>
      cases hstep
      exact ⟨fun _ => huntouched (h.starting rfl), nofun, nofun, nofun,
        fun ht => absurd ht (h.target_open rfl), fun hs => absurd hs (hsource nofun)⟩
  | countActive =>
      cases hstep
      exact ⟨fun _ => huntouched (h.starting rfl), nofun, nofun, nofun,
        fun ht => absurd ht (h.target_open rfl), fun hs => absurd hs (hsource nofun)⟩
  | dial =>
      cases hstep
      cases dialed with
      | true =>
          exact ⟨nofun, fun _ => rfl, nofun, nofun, fun ht => absurd ht (h.target_open rfl),
            fun hs => absurd hs (hsource nofun)⟩
      | false =>
          exact ⟨nofun, nofun, nofun, fun _ => Or.inr ⟨rfl, huntouched (h.starting rfl)⟩,
            fun ht => absurd ht (h.target_open rfl), fun hs => absurd hs (hsource nofun)⟩
  | relay =>
      simp only [TcpConn.advance] at hstep
      split_ifs at hstep with hdone
      cases hstep
      refine ⟨nofun, fun _ => h.reached (Or.inl rfl), fun _ d => ?_, nofun,
        fun ht => absurd ht (h.target_open rfl), fun hs => absurd hs (hsource nofun)⟩
      cases d
      · exact hdone.1
      · exact hdone.2
  | closeTarget =>
      cases hstep
      have hf := hfinished (h.waited rfl)
      exact ⟨nofun, nofun, nofun, fun _ => Or.inl ⟨h.reached (Or.inr rfl), hf⟩, fun _ => ⟨rfl, hf⟩,
        fun hs => absurd hs (hsource nofun)⟩
  | release =>
      cases hstep
      exact ⟨nofun, nofun, nofun, fun _ => hleft rfl (h.leaving rfl),
        fun ht => ⟨rfl, hfinished (h.targetClosed ht).2⟩, fun hs => absurd hs (hsource nofun)⟩
  | closeSource =>
      cases hstep
      exact ⟨nofun, nofun, nofun, fun _ => hleft rfl (h.leaving rfl),
        fun ht => ⟨rfl, hfinished (h.targetClosed ht).2⟩, fun _ => rfl⟩
  | ended => cases hstep

theorem admits_step {f : Flow} (ha : conn.admits direction e = true)
    (hf : (conn.flow direction).step e = some f) :
    conn.phase = .relay ∨ f.phase = (conn.flow direction).phase ∧
      f.written = (conn.flow direction).written := by
  by_cases hr : conn.phase = .relay
  · exact Or.inl hr
  · refine Or.inr ?_
    cases Flow.step_effect hf with
    | send bytes _ => exact ⟨rfl, rfl⟩
    | fin => exact ⟨rfl, rfl⟩
    | _ => simp [admits, hr] at ha

theorem Ordered.copy (h : conn.Ordered) (hstep : conn.copy direction e = some conn') :
    conn'.Ordered := by
  obtain ⟨hadmits, f, hf, rfl⟩ := copy_some hstep
  rcases admits_step hadmits hf with hr | ⟨hphase, hwritten⟩
  · have ht := h.target_open (by rw [hr]; rfl)
    refine ⟨fun hs => ?_, fun _ => ?_, fun hs => ?_, fun hs => ?_, fun hs => ?_, fun hs => ?_⟩
    · rw [setFlow_phase, hr] at hs
      cases hs
    · rw [setFlow_dialed]
      exact h.reached (Or.inl hr)
    · rw [setFlow_phase, hr] at hs
      cases hs
    · rw [setFlow_phase, hr] at hs
      cases hs
    · exact absurd (by simpa using hs) ht
    · rw [setFlow_phase]
      exact h.sourceClosed (by simpa using hs)
  · have hfinished : conn.Finished → (conn.setFlow f direction).Finished := by
      intro hd d
      rw [flow_setFlow]
      split_ifs with hdir
      · rw [hphase]
        exact hd direction
      · exact hd d
    have huntouched : conn.Untouched → (conn.setFlow f direction).Untouched := by
      intro hu d
      rw [flow_setFlow]
      split_ifs with hdir
      · rw [hphase, hwritten]
        exact hu direction
      · exact hu d
    refine ⟨fun hs => huntouched (h.starting (by simpa using hs)), fun hs => ?_,
      fun hs => hfinished (h.waited (by simpa using hs)), fun hs => ?_, fun hs => ?_, fun hs => ?_⟩
    · rw [setFlow_dialed]
      exact h.reached (by simpa using hs)
    · simpa only [Left, setFlow_dialed] using (h.leaving (by simpa using hs)).imp
        (And.imp_right hfinished) (And.imp_right huntouched)
    · obtain ⟨hl, hd⟩ := h.targetClosed (by simpa using hs)
      exact ⟨by rwa [setFlow_phase], hfinished hd⟩
    · rw [setFlow_phase]
      exact h.sourceClosed (by simpa using hs)

structure Sound (conn : TcpConn) : Prop where
  flows : ∀ d, (conn.flow d).Exact
  ordered : conn.Ordered

theorem sound_accepted : accepted.Sound :=
  ⟨fun d => by cases d <;> exact Flow.exact_initial, ordered_accepted⟩

theorem Sound.advance (h : conn.Sound) (hstep : conn.advance dialed = some conn') : conn'.Sound :=
  ⟨fun d => by rw [advance_flow hstep]; exact h.flows d, h.ordered.advance hstep⟩

theorem Sound.copy (h : conn.Sound) (hstep : conn.copy direction e = some conn') : conn'.Sound := by
  refine ⟨fun d => ?_, h.ordered.copy hstep⟩
  obtain ⟨-, f, hf, rfl⟩ := copy_some hstep
  rw [flow_setFlow]
  split_ifs
  · exact (h.flows direction).step hf
  · exact h.flows d

end TcpConn

namespace TcpProxy

variable {p p' : TcpProxy} {e : TcpEvent} {events : List TcpEvent} {i : ℕ} {conn conn' : TcpConn}

/-- What a step does to the connections and the metrics. -/
inductive Effect (p : TcpProxy) : TcpEvent → TcpProxy → Prop where
  | accept : Effect p .accept { p with conns := p.conns ++ [.accepted] }
  | advance (i : ℕ) (dialed : Bool) (conn conn' : TcpConn) : p.conns[i]? = some conn →
      conn.advance dialed = some conn' →
      Effect p (.advance i dialed) ⟨p.conns.set i conn', p.metrics.onAdvance conn.phase⟩
  | copy (i : ℕ) (direction : Direction) (e : FlowEvent) (conn conn' : TcpConn) :
    p.conns[i]? = some conn →
      conn.copy direction e = some conn' → Effect p (.copy i direction e)
        ⟨p.conns.set i conn', p.metrics.onCopy direction e (conn.flow direction).copied⟩

theorem step_effect (hstep : p.step e = some p') : Effect p e p' := by
  cases e with
  | accept =>
      cases hstep
      exact .accept
  | advance i dialed =>
      simp only [step, Option.bind_eq_bind, Option.bind_eq_some_iff, Option.some.injEq] at hstep
      obtain ⟨conn, hconn, conn', hadvance, rfl⟩ := hstep
      exact .advance i dialed conn conn' hconn hadvance
  | copy i direction e =>
      simp only [step, Option.bind_eq_bind, Option.bind_eq_some_iff, Option.some.injEq] at hstep
      obtain ⟨conn, hconn, conn', hcopy, rfl⟩ := hstep
      exact .copy i direction e conn conn' hconn hcopy

def AllSound (p : TcpProxy) : Prop := ∀ conn ∈ p.conns, conn.Sound

theorem AllSound.step (h : p.AllSound) (hstep : p.step e = some p') : p'.AllSound := by
  intro conn hmem
  cases step_effect hstep with
  | accept =>
      rcases List.mem_append.mp hmem with hmem | hmem
      · exact h conn hmem
      · rw [List.mem_singleton.mp hmem]
        exact TcpConn.sound_accepted
  | advance i dialed conn₀ conn₁ hconn hadvance =>
      rcases List.mem_or_eq_of_mem_set hmem with hmem | rfl
      · exact h conn hmem
      · exact (h conn₀ (List.mem_of_getElem? hconn)).advance hadvance
  | copy i direction e conn₀ conn₁ hconn hcopy =>
      rcases List.mem_or_eq_of_mem_set hmem with hmem | rfl
      · exact h conn hmem
      · exact (h conn₀ (List.mem_of_getElem? hconn)).copy hcopy

theorem AllSound.run (hrun : runEvents TcpProxy.step events initial = some p) : p.AllSound :=
  runEvents_invariant (fun _ _ _ h hstep => AllSound.step h hstep) (fun _ h => (by cases h)) hrun

theorem conn_step (hconn : p.conns[i]? = some conn) (hstep : p.step e = some p') :
    ∃ conn', p'.conns[i]? = some conn' ∧ (conn' = conn ∨
      (∃ dialed, conn.advance dialed = some conn') ∨ ∃ direction e, conn.copy direction e =
        some conn') := by
  have hi : i < p.conns.length := (List.getElem?_eq_some_iff.mp hconn).1
  cases step_effect hstep with
  | accept =>
      refine ⟨conn, ?_, Or.inl rfl⟩
      change (p.conns ++ [_])[i]? = _
      rw [List.getElem?_append_left hi, hconn]
  | advance j dialed conn₀ conn₁ hj hadvance =>
      by_cases hij : j = i
      · subst hij
        rw [hconn] at hj
        cases hj
        exact ⟨conn₁, List.getElem?_set_self hi, Or.inr (Or.inl ⟨dialed, hadvance⟩)⟩
      · exact ⟨conn, (List.getElem?_set_ne hij).trans hconn, Or.inl rfl⟩
  | copy j direction e conn₀ conn₁ hj hcopy =>
      by_cases hij : j = i
      · subst hij
        rw [hconn] at hj
        cases hj
        exact ⟨conn₁, List.getElem?_set_self hi, Or.inr (Or.inr ⟨direction, e, hcopy⟩)⟩
      · exact ⟨conn, (List.getElem?_set_ne hij).trans hconn, Or.inl rfl⟩

structure Closed (bytes : List UInt8) (i : ℕ) (d : Direction) (p : TcpProxy) : Prop where
  sound : p.AllSound
  closed : ∃ conn, p.conns[i]? = some conn ∧ (conn.flow d).written = bytes ∧
    (conn.flow d).finWritten = true

theorem Closed.step {bytes : List UInt8} {d : Direction} (h : p.Closed bytes i d)
    (hstep : p.step e = some p') :
    p'.Closed bytes i d := by
  refine ⟨h.sound.step hstep, ?_⟩
  obtain ⟨conn, hconn, hwritten, hfin⟩ := h.closed
  obtain ⟨conn', hconn', rfl | ⟨dialed, hadvance⟩ | ⟨direction, e, hcopy⟩⟩ := conn_step hconn hstep
  · exact ⟨conn', hconn', hwritten, hfin⟩
  · refine ⟨conn', hconn', ?_⟩
    rw [TcpConn.advance_flow hadvance]
    exact ⟨hwritten, hfin⟩
  · refine ⟨conn', hconn', ?_⟩
    obtain ⟨-, f, hf, rfl⟩ := TcpConn.copy_some hcopy
    rw [TcpConn.flow_setFlow]
    split_ifs with hd
    · subst hd
      have hexact := (h.sound conn (List.mem_of_getElem? hconn)).flows d
      obtain ⟨hw, hf'⟩ := hexact.written_step hfin hf
      exact ⟨hw.trans hwritten, hf'⟩
    · exact ⟨hwritten, hfin⟩

theorem dialed_of_run (hrun : runEvents step events initial = some p)
    (hconn : p.conns[i]? = some conn) {ok : Bool} (hdialed : conn.dialed = some ok) :
    .advance i ok ∈ events := by
  refine runEvents_history (P := fun events p => ∀ i conn, p.conns[i]? = some conn → ∀ ok,
    conn.dialed = some ok → .advance i ok ∈ events)
    (fun events e p p' ih hstep i conn' hconn' ok hok => ?_)
    (fun i conn hconn => by cases hconn) hrun i conn hconn ok hdialed
  have hold : ∀ conn, p.conns[i]? = some conn → conn.dialed = some ok →
      .advance i ok ∈ events ++ [e] :=
    fun conn hconn hok => List.mem_append_left _ (ih i conn hconn ok hok)
  cases step_effect hstep with
  | accept =>
      change (p.conns ++ [TcpConn.accepted])[i]? = some conn' at hconn'
      rw [List.getElem?_append] at hconn'
      split_ifs at hconn'
      · exact hold conn' hconn' hok
      · rw [List.mem_singleton.mp (List.mem_of_getElem? hconn')] at hok
        cases hok
  | advance j dialed conn₀ conn₁ hj hadvance =>
      change (p.conns.set j conn₁)[i]? = some conn' at hconn'
      rw [List.getElem?_set] at hconn'
      split_ifs at hconn' with hji
      · cases hconn'
        subst hji
        rcases TcpConn.advance_dialed hadvance with hsame | hdial
        · exact hold conn₀ hj (hsame ▸ hok)
        · rw [hdial] at hok
          cases hok
          simp
      · exact hold conn' hconn' hok
  | copy j direction e conn₀ conn₁ hj hcopy =>
      change (p.conns.set j conn₁)[i]? = some conn' at hconn'
      rw [List.getElem?_set] at hconn'
      split_ifs at hconn' with hji
      · cases hconn'
        subst hji
        obtain ⟨-, f, -, rfl⟩ := TcpConn.copy_some hcopy
        exact hold conn₀ hj (by simpa using hok)
      · exact hold conn' hconn' hok

/-- In every run, what a direction has written is a beginning of what its peer has sent, and all of
it but what is unread or being written, unless the copy failed. The end of the stream is passed on
behind the last byte, or after an error; nothing is written after it; and a connection is closed
when its target was reached and both directions have ended, or when its dial failed and nothing was
written. -/
theorem relay_is_byte_exact (events : List TcpEvent) (p : TcpProxy)
    (hrun : runEvents step events initial = some p) (i : ℕ) (conn : TcpConn)
    (hconn : p.conns[i]? = some conn) :
    (∀ d, (conn.flow d).written <+: (conn.flow d).sent ∧
      ((conn.flow d).failed = none → (conn.flow d).written ++ (conn.flow d).phase.chunk ++
        (conn.flow d).unread = (conn.flow d).sent) ∧
      ((conn.flow d).finWritten = true → (conn.flow d).failed = none →
        (conn.flow d).written = (conn.flow d).sent ∧ (conn.flow d).fin = true) ∧
      ((conn.flow d).finWritten = true → ∀ later p', runEvents step later p = some p' →
        ∃ conn', p'.conns[i]? = some conn' ∧ (conn'.flow d).written = (conn.flow d).written)) ∧
    (conn.targetClosed = true → ∀ d, (conn.flow d).phase = .done) ∧
    (conn.sourceClosed = true →
      (conn.dialed = some true ∧ ∀ d, (conn.flow d).phase = .done) ∨
      (conn.dialed = some false ∧ ∀ d, (conn.flow d).written = [])) ∧
    ∀ ok, conn.dialed = some ok → .advance i ok ∈ events := by
  have hsound := AllSound.run hrun
  obtain ⟨hflows, hordered⟩ := hsound conn (List.mem_of_getElem? hconn)
  refine ⟨fun d => ⟨?_, fun hnone => ?_, fun hfin hnone => ?_, fun hfin later p' hlater => ?_⟩,
    fun ht => (hordered.targetClosed ht).2, fun hs => ?_, fun ok => dialed_of_run hrun hconn⟩
  · obtain ⟨lost, hbytes, -⟩ := (hflows d).bytes
    rw [← hbytes, List.append_assoc, List.append_assoc]
    exact List.prefix_append _ _
  · obtain ⟨lost, hbytes, hlost⟩ := (hflows d).bytes
    rw [hlost hnone, List.append_nil] at hbytes
    exact hbytes
  · have hsignalled : (conn.flow d).phase.signalled = true := (hflows d).finWritten ▸ hfin
    have hended : (conn.flow d).phase.ended = true ∧ (conn.flow d).phase.chunk = [] := by
      cases hp : (conn.flow d).phase <;> rw [hp] at hsignalled <;>
        first | exact ⟨rfl, rfl⟩ | cases hsignalled
    obtain ⟨hunread, hfin'⟩ := (hflows d).ended hnone hended.1
    obtain ⟨lost, hbytes, hlost⟩ := (hflows d).bytes
    rw [hlost hnone, hended.2, hunread] at hbytes
    exact ⟨by simpa using hbytes, hfin'⟩
  · have hclosed : p.Closed (conn.flow d).written i d := ⟨hsound, conn, hconn, rfl, hfin⟩
    obtain ⟨conn', hconn', hwritten, -⟩ :=
      (runEvents_invariant (fun _ _ _ h hstep => Closed.step h hstep) hclosed hlater).closed
    exact ⟨conn', hconn', hwritten⟩
  · have hp := hordered.sourceClosed hs
    exact (hordered.leaving (by rw [hp]; rfl)).imp id (And.imp_right fun hu d => (hu d).2)

/-- A client sends a request in two parts and ends its stream; the target answers, and goes on after
the end of the request has been passed on to it. The target of a second client is not reached. -/
def halfClosed : List TcpEvent :=
  [.accept, .advance 0 true, .copy 0 .toTarget (.send [1, 2, 3]), .advance 0 true, .advance 0 true,
    .copy 0 .toTarget (.read 2), .copy 0 .toTarget .write, .copy 0 .toTarget (.read 1),
    .copy 0 .toTarget .fin, .copy 0 .toTarget .write, .copy 0 .toTarget .eof,
    .copy 0 .toTarget .closeWrite, .copy 0 .fromTarget (.send [4, 5]),
    .copy 0 .fromTarget (.read 2), .copy 0 .toTarget .count, .copy 0 .fromTarget .write, .accept,
    .advance 1 true, .advance 1 true, .advance 1 false, .advance 1 true, .advance 1 true]

theorem relay_is_byte_exact_half_closed :
    ∃ p conn unreached, runEvents step halfClosed initial = some p ∧ p.conns[0]? = some conn ∧
      (conn.flow .toTarget).finWritten = true ∧
      (conn.flow .toTarget).written = (conn.flow .toTarget).sent ∧
      (conn.flow .fromTarget).written = [4, 5] ∧ conn.targetClosed = false ∧
      p.conns[1]? = some unreached ∧ unreached.sourceClosed = true ∧
      (unreached.flow .toTarget).written = [] := by
  have h := (relay_is_byte_exact halfClosed _ rfl 0 _ rfl).1 .toTarget
  have hunreached := (relay_is_byte_exact halfClosed _ rfl 1 _ rfl).2.2.1 rfl
  refine ⟨_, _, _, rfl, rfl, rfl, (h.2.2.1 rfl rfl).1, rfl, rfl, rfl, rfl, ?_⟩
  rcases hunreached with hreached | hunreached
  · cases hreached.1
  · exact hunreached.2 .toTarget

end TcpProxy
end TunnelOperator
