import Mathlib.Algebra.BigOperators.Group.List.Basic
import Mathlib.Algebra.GroupWithZero.Nat
import Mathlib.Algebra.Ring.Int.Defs
import TunnelOperator.TcpRelay

/-!
# What the gateway counts, and what its timeout sees

The gateway's metrics as sums over its connections, and the connections of the idle timeout as a
view of the connections with their bytes: whatever happens to those is an accept, a dial, data or
the end of a direction there, or not visible at all, and a connection has carried data there when
bytes of it were last written.
-/

namespace TunnelOperator
open Interaction

theorem sum_map_set {α M : Type} [AddCommMonoid M] (w : α → M) {l : List α} {i : ℕ} {a b : α}
    (ha : l[i]? = some a) : ((l.set i b).map w).sum + w a = (l.map w).sum + w b := by
  induction l generalizing i with
  | nil => cases ha
  | cons x l ih =>
      cases i with
      | zero =>
          cases ha
          simp only [List.set_cons_zero, List.map_cons, List.sum_cons]
          ac_rfl
      | succ i =>
          have hl : ((l.set i b).map w).sum + w a = (l.map w).sum + w b := ih ha
          simp only [List.set_cons_succ, List.map_cons, List.sum_cons]
          rw [add_assoc, hl, add_assoc]

theorem eq_sum_map_set {α M : Type} [AddCancelCommMonoid M] (w : α → M) {l : List α} {i : ℕ}
    {a b : α} {m m' : M} (ha : l[i]? = some a) (hm : m = (l.map w).sum) (h : m' + w a = m + w b) :
    m' = ((l.set i b).map w).sum := by
  rw [hm, ← sum_map_set w ha] at h
  exact add_right_cancel h

namespace HandlerPhase

def counted : HandlerPhase → ℕ
  | .countTotal => 0
  | _ => 1

/-- A connection is active from the increment of the gauge to its decrement. -/
def active : HandlerPhase → Int
  | .countTotal | .countActive | .closeSource | .ended => 0
  | _ => 1

end HandlerPhase

/-- The bytes of a direction that have been added to its counter. -/
def Flow.counted (f : Flow) : ℕ := if f.phase = .done then f.written.length else 0

namespace TcpProxy

variable {p p' : TcpProxy} {e : TcpEvent} {events : List TcpEvent} {conn conn' : TcpConn} {i : ℕ}

structure Counts (p : TcpProxy) : Prop where
  sound : p.AllSound
  total : p.metrics.connectionsTotal = (p.conns.map fun conn => conn.phase.counted).sum
  active : p.metrics.connectionsActive = (p.conns.map fun conn => conn.phase.active).sum
  received : p.metrics.receivedBytes = (p.conns.map fun conn => conn.toTarget.counted).sum
  sent : p.metrics.sentBytes = (p.conns.map fun conn => conn.fromTarget.counted).sum

theorem counted_step {f f' : Flow} {e : FlowEvent} (h : f.Exact) (hstep : f.step e = some f') :
    f'.counted = f.counted + if e = .count then f.copied else 0 := by
  cases Flow.step_effect hstep with
  | send bytes _ => rfl
  | fin => rfl
  | count hp => simp [Flow.counted, hp, h.copied]
  | read n hp => simp [Flow.counted, hp]
  | eof hp _ _ => simp [Flow.counted, hp]
  | readError err hp => simp [Flow.counted, hp]
  | write chunk hp => simp [Flow.counted, hp]
  | writeError chunk n err hp _ => simp [Flow.counted, hp]
  | closeWrite hp => simp [Flow.counted, hp]

theorem advance_counts {dialed : Bool} (h : conn.advance dialed = some conn') (m : GatewayMetrics) :
    (m.onAdvance conn.phase).connectionsTotal + conn.phase.counted =
      m.connectionsTotal + conn'.phase.counted ∧
    (m.onAdvance conn.phase).connectionsActive + conn.phase.active =
      m.connectionsActive + conn'.phase.active ∧
    (m.onAdvance conn.phase).receivedBytes = m.receivedBytes ∧
    (m.onAdvance conn.phase).sentBytes = m.sentBytes := by
  obtain ⟨phase, toTarget, fromTarget, targetClosed, sourceClosed⟩ := conn
  cases phase with
  | relay =>
      simp only [TcpConn.advance] at h
      split_ifs at h
      cases h
      exact ⟨rfl, rfl, rfl, rfl⟩
  | ended => cases h
  | dial =>
      cases h
      cases dialed <;> exact ⟨rfl, rfl, rfl, rfl⟩
  | countTotal =>
      cases h
      exact ⟨rfl, rfl, rfl, rfl⟩
  | countActive =>
      cases h
      exact ⟨rfl, by simp [GatewayMetrics.onAdvance, HandlerPhase.active], rfl, rfl⟩
  | release =>
      cases h
      exact ⟨rfl, by simp [GatewayMetrics.onAdvance, HandlerPhase.active], rfl, rfl⟩
  | closeTarget =>
      cases h
      exact ⟨rfl, rfl, rfl, rfl⟩
  | closeSource =>
      cases h
      exact ⟨rfl, rfl, rfl, rfl⟩

theorem copy_counts {direction : Direction} {e : FlowEvent} (hs : conn.Sound)
    (h : conn.copy direction e = some conn') (m : GatewayMetrics) :
    let m' := m.onCopy direction e (conn.flow direction).copied
    m'.connectionsTotal = m.connectionsTotal ∧ m'.connectionsActive = m.connectionsActive ∧
      conn'.phase = conn.phase ∧
      m'.receivedBytes + conn.toTarget.counted = m.receivedBytes + conn'.toTarget.counted ∧
      m'.sentBytes + conn.fromTarget.counted = m.sentBytes + conn'.fromTarget.counted := by
  obtain ⟨-, f, hf, rfl⟩ := TcpConn.copy_some h
  have hcounted := counted_step (hs.flows direction) hf
  by_cases he : e = .count
  · subst he
    rw [if_pos rfl] at hcounted
    cases direction with
    | toTarget =>
        refine ⟨rfl, rfl, rfl, ?_, rfl⟩
        change m.receivedBytes + conn.toTarget.copied + conn.toTarget.counted =
          m.receivedBytes + f.counted
        rw [hcounted]
        simp only [TcpConn.flow]
        omega
    | fromTarget =>
        refine ⟨rfl, rfl, rfl, rfl, ?_⟩
        change m.sentBytes + conn.fromTarget.copied + conn.fromTarget.counted =
          m.sentBytes + f.counted
        rw [hcounted]
        simp only [TcpConn.flow]
        omega
  · rw [if_neg he, Nat.add_zero] at hcounted
    have hsame : m.onCopy direction e (conn.flow direction).copied = m := by
      cases e <;> first | rfl | exact absurd rfl he
    rw [hsame]
    refine ⟨rfl, rfl, TcpConn.setFlow_phase _ _ _, ?_, ?_⟩
    · cases direction with
      | toTarget => exact congrArg (m.receivedBytes + ·) hcounted.symm
      | fromTarget => rfl
    · cases direction with
      | toTarget => rfl
      | fromTarget => exact congrArg (m.sentBytes + ·) hcounted.symm

theorem Counts.step (h : p.Counts) (hstep : p.step e = some p') : p'.Counts := by
  have hsound := h.sound.step hstep
  cases step_effect hstep with
  | accept =>
      refine ⟨hsound, ?_, ?_, ?_, ?_⟩
      · simp [h.total, TcpConn.accepted, HandlerPhase.counted]
      · simp [h.active, TcpConn.accepted, HandlerPhase.active]
      · simp [h.received, TcpConn.accepted, Flow.counted, Flow.initial]
      · simp [h.sent, TcpConn.accepted, Flow.counted, Flow.initial]
  | advance i dialed conn conn' hconn hadvance =>
      obtain ⟨htotal, hactive, hreceived, hsent⟩ := advance_counts hadvance p.metrics
      have hflow : conn'.toTarget = conn.toTarget ∧ conn'.fromTarget = conn.fromTarget :=
        ⟨TcpConn.advance_flow hadvance .toTarget, TcpConn.advance_flow hadvance .fromTarget⟩
      exact ⟨hsound, eq_sum_map_set _ hconn h.total htotal, eq_sum_map_set _ hconn h.active hactive,
        eq_sum_map_set _ hconn h.received (by rw [hreceived, hflow.1]),
        eq_sum_map_set _ hconn h.sent (by rw [hsent, hflow.2])⟩
  | copy i direction e conn conn' hconn hcopy =>
      obtain ⟨htotal, hactive, hphase, hreceived, hsent⟩ :=
        copy_counts (h.sound conn (List.mem_of_getElem? hconn)) hcopy p.metrics
      exact ⟨hsound, eq_sum_map_set _ hconn h.total (by rw [htotal, hphase]),
        eq_sum_map_set _ hconn h.active (by rw [hactive, hphase]),
        eq_sum_map_set _ hconn h.received hreceived, eq_sum_map_set _ hconn h.sent hsent⟩

theorem Counts.run (hrun : runEvents TcpProxy.step events initial = some p) : p.Counts :=
  runEvents_invariant (fun _ _ _ h hstep => Counts.step h hstep)
    ⟨fun _ h => (by cases h), rfl, rfl, rfl, rfl⟩ hrun

theorem counted_ended (hs : conn.Sound) (hended : conn.phase = .ended) (d : Direction) :
    (conn.flow d).counted = (conn.flow d).written.length := by
  rcases hs.ordered.leaving (by rw [hended]; rfl) with ⟨-, hf⟩ | ⟨-, hu⟩
  · rw [Flow.counted, if_pos (hf d)]
  · rw [Flow.counted, (hu d).1, (hu d).2]
    rfl

/-- The gateway's metrics in every run: the connections it has accepted and begun to handle, those
between the increment and the decrement of the gauge, and the bytes written by the copies that have
ended. Once all handlers have returned none is active and every byte that was written is counted. -/
theorem metrics_count_connections (events : List TcpEvent) (p : TcpProxy)
    (hrun : runEvents step events initial = some p) :
    p.metrics.connectionsTotal = (p.conns.map fun conn => conn.phase.counted).sum ∧
    p.metrics.connectionsActive = (p.conns.map fun conn => conn.phase.active).sum ∧
    p.metrics.receivedBytes = (p.conns.map fun conn => conn.toTarget.counted).sum ∧
    p.metrics.sentBytes = (p.conns.map fun conn => conn.fromTarget.counted).sum ∧
    ((∀ conn ∈ p.conns, conn.phase = .ended) →
      p.metrics.connectionsTotal = p.conns.length ∧ p.metrics.connectionsActive = 0 ∧
      p.metrics.receivedBytes = (p.conns.map fun conn => conn.toTarget.written.length).sum ∧
      p.metrics.sentBytes = (p.conns.map fun conn => conn.fromTarget.written.length).sum) := by
  obtain ⟨hsound, htotal, hactive, hreceived, hsent⟩ := Counts.run hrun
  refine ⟨htotal, hactive, hreceived, hsent, fun hended => ⟨?_, ?_, ?_, ?_⟩⟩
  · have hone : p.conns.map (fun conn => conn.phase.counted) = p.conns.map fun _ => 1 :=
      List.map_congr_left fun conn hc => by rw [hended conn hc]; rfl
    rw [htotal, hone]
    simp
  · have hzero : p.conns.map (fun conn => conn.phase.active) = p.conns.map fun _ => 0 :=
      List.map_congr_left fun conn hc => by rw [hended conn hc]; rfl
    rw [hactive, hzero]
    simp
  · rw [hreceived]
    exact congrArg List.sum (List.map_congr_left fun conn hc =>
      counted_ended (hsound conn hc) (hended conn hc) .toTarget)
  · rw [hsent]
    exact congrArg List.sum (List.map_congr_left fun conn hc =>
      counted_ended (hsound conn hc) (hended conn hc) .fromTarget)

/-- The target of the second connection cannot be reached, and the first one breaks. -/
def brokenAndUnreachable : List TcpEvent :=
  [.accept, .accept, .advance 0 true, .advance 0 true, .advance 0 true, .advance 1 false,
    .advance 1 false, .advance 1 false, .copy 0 .toTarget (.send [1, 2, 3]),
    .copy 0 .toTarget (.read 3), .copy 0 .toTarget (.writeError 2 "broken pipe"), .advance 1 false,
    .copy 0 .toTarget .closeWrite, .copy 0 .fromTarget (.readError "connection reset by peer"),
    .copy 0 .fromTarget .closeWrite, .copy 0 .fromTarget .count, .copy 0 .toTarget .count,
    .advance 0 true, .advance 0 true, .advance 1 false, .advance 0 true, .advance 0 true]

theorem metrics_count_connections_broken :
    ∃ p, runEvents step brokenAndUnreachable initial = some p ∧ p.metrics.connectionsTotal = 2 ∧
      p.metrics.connectionsActive = 0 ∧ p.metrics.receivedBytes = 2 := by
  have h := (metrics_count_connections brokenAndUnreachable _ rfl).2.2.2.2 (by decide)
  exact ⟨_, rfl, h.1, h.2.1, h.2.2.1⟩

end TcpProxy

def CopyPhase.running : CopyPhase → Bool
  | .done => false
  | _ => true

def relayState : (toTarget fromTarget : Bool) → ConnState
  | false, false => .closed
  | toTarget, fromTarget => .relaying toTarget fromTarget

def TcpConn.view (conn : TcpConn) : ConnState :=
  match conn.phase with
  | .countTotal | .countActive | .dial => .dialing
  | .relay => relayState conn.toTarget.phase.running conn.fromTarget.phase.running
  | _ => .closed

namespace TcpEvent

def carries (i : ℕ) : TcpEvent → Bool
  | .copy j _ .write => j = i
  | .copy j _ (.writeError n _) => j = i && n ≠ 0
  | _ => false

def seen (p : TcpProxy) : TcpEvent → List TrafficEvent
  | .accept => [.accept]
  | .advance i dialed => if (p.conns[i]?.map (·.phase)) = some .dial then [.dialed i dialed] else []
  | .copy i direction .write => [.data i direction]
  | .copy i direction (.writeError n _) => if n = 0 then [] else [.data i direction]
  | .copy i direction .count => [.finish i direction]
  | _ => []

end TcpEvent

namespace TcpProxy

variable {p p' : TcpProxy} {e : TcpEvent} {conn conn' : TcpConn} {i : ℕ} {t : Traffic}

theorem running_step {f f' : Flow} {e : FlowEvent} (he : e ≠ .count) (hstep : f.step e = some f') :
    f'.phase.running = f.phase.running := by
  cases Flow.step_effect hstep with
  | count _ => exact absurd rfl he
  | send bytes _ => rfl
  | fin => rfl
  | read n hp => exact (congrArg CopyPhase.running hp).symm
  | eof hp _ _ => exact (congrArg CopyPhase.running hp).symm
  | readError err hp => exact (congrArg CopyPhase.running hp).symm
  | write chunk hp => exact (congrArg CopyPhase.running hp).symm
  | writeError chunk n err hp _ => exact (congrArg CopyPhase.running hp).symm
  | closeWrite hp => exact (congrArg CopyPhase.running hp).symm

theorem view_copy {direction : Direction} {e : FlowEvent} (h : conn.copy direction e = some conn')
    (he : e ≠ .count) : conn'.view = conn.view := by
  obtain ⟨-, f, hf, rfl⟩ := TcpConn.copy_some h
  have hrunning := running_step he hf
  unfold TcpConn.view
  cases direction with
  | toTarget =>
      simp only [TcpConn.setFlow, TcpConn.flow] at hrunning ⊢
      rw [hrunning]
  | fromTarget =>
      simp only [TcpConn.setFlow, TcpConn.flow] at hrunning ⊢
      rw [hrunning]

theorem view_relay (h : conn.phase = .relay) :
    conn.view = relayState (conn.flow .toTarget).phase.running
      (conn.flow .fromTarget).phase.running := by
  rw [TcpConn.view, h]
  rfl

theorem copies_relayState (d : Direction) (running : Direction → Bool) (h : running d = true) :
    (relayState (running .toTarget) (running .fromTarget)).copies d = true := by
  cases d with
  | toTarget =>
      rw [h]
      cases running .fromTarget <;> rfl
  | fromTarget =>
      rw [h]
      cases running .toTarget <;> rfl

theorem finish_relayState (d : Direction) (running running' : Direction → Bool)
    (h : running d = true) (h' : ∀ d', running' d' = if d' = d then false else running d') :
    relayState (running' .toTarget) (running' .fromTarget) =
      (relayState (running .toTarget) (running .fromTarget)).finish d := by
  rw [h', h']
  cases d with
  | toTarget =>
      rw [h]
      cases running .fromTarget <;> rfl
  | fromTarget =>
      rw [h]
      cases running .toTarget <;> rfl

theorem view_count {direction : Direction} (h : conn.copy direction .count = some conn') :
    conn.view.copies direction = true ∧ conn'.view = conn.view.finish direction := by
  obtain ⟨hadmits, f, hf, rfl⟩ := TcpConn.copy_some h
  have hrelay : conn.phase = .relay := by
    cases direction <;> simpa [TcpConn.admits] using hadmits
  simp only [Flow.step] at hf
  split_ifs at hf with hcounting
  cases hf
  have hrunning : (conn.flow direction).phase.running = true := by rw [hcounting]; rfl
  rw [view_relay hrelay, view_relay ((TcpConn.setFlow_phase _ _ _).trans hrelay)]
  refine ⟨copies_relayState direction (fun d => (conn.flow d).phase.running) hrunning, ?_⟩
  refine finish_relayState direction (fun d => (conn.flow d).phase.running)
    (fun d => ((conn.setFlow _ direction).flow d).phase.running) hrunning fun d => ?_
  simp only [TcpConn.flow_setFlow]
  split_ifs <;> rfl

theorem view_writing {direction : Direction} {chunk : List UInt8} (hrelay : conn.phase = .relay)
    (hw : (conn.flow direction).phase = .writing chunk) : conn.view.copies direction = true := by
  rw [view_relay hrelay]
  exact copies_relayState direction (fun d => (conn.flow d).phase.running) (by simp only [hw]; rfl)

theorem view_advance {dialed : Bool} (hs : conn.Sound) (h : conn.advance dialed = some conn') :
    (conn.phase = .dial ∧ conn.view = .dialing ∧
      conn'.view = if dialed then .relaying true true else .closed) ∨
    (conn.phase ≠ .dial ∧ conn'.view = conn.view) := by
  have huntouched := hs.ordered.starting
  obtain ⟨phase, dialed', toTarget, fromTarget, targetClosed, sourceClosed⟩ := conn
  cases phase with
  | dial =>
      cases h
      refine Or.inl ⟨rfl, rfl, ?_⟩
      cases dialed with
      | false => rfl
      | true =>
          have hto : toTarget.phase = .reading := (huntouched rfl .toTarget).1
          have hfrom : fromTarget.phase = .reading := (huntouched rfl .fromTarget).1
          simp only [TcpConn.view, if_true, hto, hfrom, CopyPhase.running, relayState]
  | relay =>
      simp only [TcpConn.advance] at h
      split_ifs at h with hdone
      cases h
      refine Or.inr ⟨fun hdial => (by cases hdial), ?_⟩
      simp only [TcpConn.view, hdone.1, hdone.2, CopyPhase.running, relayState]
  | ended => cases h
  | _ =>
      cases h
      exact Or.inr ⟨fun hdial => (by cases hdial), rfl⟩

/-- The connections of the idle timeout are views of these, with the times in `last` for their
data. -/
structure Viewed (last : ℕ → Option ℕ) (p : TcpProxy) (t : Traffic) : Prop where
  sound : p.AllSound
  accepting : t.accepting = true
  conns : ∀ i, t.conns[i]? = p.conns[i]?.map fun conn => ProxiedConn.mk conn.view (last i)
  unused : ∀ i, p.conns.length ≤ i → last i = none

section Viewed

variable {last : ℕ → Option ℕ}

theorem Viewed.update {f : ProxiedConn → Option ProxiedConn} {c' : ProxiedConn} {l : ℕ → Option ℕ}
    {metrics : GatewayMetrics} (h : p.Viewed last t) (hconn : p.conns[i]? = some conn)
    (hsound : AllSound ⟨p.conns.set i conn', metrics⟩) (hf : f ⟨conn.view, last i⟩ = some c')
    (hc' : c' = ⟨conn'.view, l i⟩) (hlast : ∀ j, j ≠ i → l j = last j) :
    ∃ t', t.updateConn i f = some t' ∧ t'.now = t.now ∧
      Viewed l ⟨p.conns.set i conn', metrics⟩ t' := by
  have hi : i < p.conns.length := (List.getElem?_eq_some_iff.mp hconn).1
  have ht : t.conns[i]? = some ⟨conn.view, last i⟩ := by rw [h.conns, hconn, Option.map_some]
  refine ⟨{ t with conns := t.conns.set i c' }, ?_, rfl, hsound, h.accepting, fun j => ?_,
    fun j hj => ?_⟩
  · simp only [Traffic.updateConn, ht, Option.bind_some, hf, Option.map_some]
  · by_cases hij : i = j
    · subst hij
      rw [List.getElem?_set_self (List.getElem?_eq_some_iff.mp ht).1, List.getElem?_set_self hi,
        hc', Option.map_some]
    · rw [List.getElem?_set_ne hij, List.getElem?_set_ne hij, h.conns, hlast j (Ne.symm hij)]
  · have hj : p.conns.length ≤ j := by simpa using hj
    rw [hlast j (by omega)]
    exact h.unused j hj

theorem Viewed.unseen {metrics : GatewayMetrics} (h : p.Viewed last t)
    (hconn : p.conns[i]? = some conn) (hsound : AllSound ⟨p.conns.set i conn', metrics⟩)
    (hview : conn'.view = conn.view) :
    Viewed last ⟨p.conns.set i conn', metrics⟩ t := by
  refine ⟨hsound, h.accepting, fun j => ?_, fun j hj => h.unused j (by simpa using hj)⟩
  rw [h.conns, List.getElem?_set]
  split_ifs with hij hlt
  · rw [← hij, hconn, Option.map_some, Option.map_some, hview]
  · subst hij
    exact absurd (List.getElem?_eq_some_iff.mp hconn).1 hlt
  · rfl

theorem Viewed.accept (h : p.Viewed last t) :
    Viewed last { p with conns := p.conns ++ [.accepted] }
      { t with
        conns := t.conns ++ [⟨.dialing, none⟩]
        firstAccept := some (t.firstAccept.getD t.now) } := by
  have hlength : t.conns.length = p.conns.length := by
    refine Nat.le_antisymm ?_ ?_
    · exact List.getElem?_eq_none_iff.mp (by rw [h.conns, List.getElem?_eq_none le_rfl]; rfl)
    · refine List.getElem?_eq_none_iff.mp ?_
      have hnone := h.conns t.conns.length
      rw [List.getElem?_eq_none le_rfl] at hnone
      exact Option.map_eq_none_iff.mp hnone.symm
  refine ⟨fun conn hmem => ?_, h.accepting, fun j => ?_, fun j hj => h.unused j ?_⟩
  · rcases List.mem_append.mp hmem with hmem | hmem
    · exact h.sound conn hmem
    · rw [List.mem_singleton.mp hmem]
      exact TcpConn.sound_accepted
  · simp only [List.getElem?_append, hlength]
    split_ifs with hj
    · exact h.conns j
    · have hlast := h.unused j (Nat.le_of_not_lt hj)
      cases j - p.conns.length with
      | zero =>
          simp only [List.getElem?_cons_zero, Option.map_some, hlast]
          rfl
      | succ k => rfl
  · simp only [List.length_append, List.length_singleton] at hj
    omega

theorem Viewed.step (h : p.Viewed last t) (hstep : p.step e = some p') :
    ∃ t', runEvents Traffic.step (e.seen p) t = some t' ∧ t'.now = t.now ∧
      p'.Viewed (fun i => if e.carries i then some t.now else last i) t' := by
  have hsound := h.sound.step hstep
  cases step_effect hstep with
  | accept =>
      refine ⟨_, runEvents_cons.mpr ⟨_, if_pos h.accepting, rfl⟩, rfl, ?_⟩
      simpa [TcpEvent.carries] using h.accept
  | advance i dialed conn conn' hconn hadvance =>
      simp only [TcpEvent.carries, Bool.false_eq_true, if_false]
      rcases view_advance (h.sound conn (List.mem_of_getElem? hconn)) hadvance with
        ⟨hdial, hview, hview'⟩ | ⟨hdial, hview⟩
      · have hseen : TcpEvent.seen p (.advance i dialed) = [.dialed i dialed] := by
          simp [TcpEvent.seen, hconn, hdial]
        obtain ⟨t', ht', hnow, hviewed⟩ :=
          h.update (f := (·.dialed dialed)) hconn hsound (if_pos hview)
          (by rw [hview']) fun _ _ => rfl
        rw [hseen]
        exact ⟨t', runEvents_cons.mpr ⟨t', ht', rfl⟩, hnow, hviewed⟩
      · have hseen : TcpEvent.seen p (.advance i dialed) = [] := by
          simp [TcpEvent.seen, hconn, hdial]
        rw [hseen]
        exact ⟨t, rfl, rfl, h.unseen hconn hsound hview⟩
  | copy i direction e conn conn' hconn hcopy =>
      obtain ⟨hadmits, f, hf, -⟩ := TcpConn.copy_some hcopy
      -- bytes that are written are data for the idle timeout
      have hdata : ∀ chunk, conn.phase = .relay → (conn.flow direction).phase = .writing chunk →
          conn'.view = conn.view → ∀ carried : ℕ → Bool, (∀ j, carried j = decide (i = j)) →
          ∃ t', runEvents Traffic.step [.data i direction] t = some t' ∧ t'.now = t.now ∧
            Viewed (fun j => if carried j then some t.now else last j) ⟨p.conns.set i conn',
              p.metrics.onCopy direction e (conn.flow direction).copied⟩ t' := by
        intro chunk hrelay hwriting hview carried hcarried
        obtain ⟨t', ht', hnow, hviewed⟩ := h.update (f := (·.data t.now direction))
          (l := fun j => if carried j then some t.now else last j) hconn hsound
          (if_pos (view_writing hrelay hwriting)) (by simp [hcarried, hview])
          fun j hj => by simp [hcarried, Ne.symm hj]
        exact ⟨t', runEvents_cons.mpr ⟨t', ht', rfl⟩, hnow, hviewed⟩
      cases e with
      | count =>
          obtain ⟨hcopies, hview⟩ := view_count hcopy
          obtain ⟨t', ht', hnow, hviewed⟩ := h.update (f := (·.finish direction)) hconn hsound
            (if_pos hcopies) (by rw [hview]) fun _ _ => rfl
          exact ⟨t', runEvents_cons.mpr ⟨t', ht', rfl⟩, hnow, hviewed⟩
      | write =>
          have hrelay : conn.phase = .relay := by
            cases direction <;> simpa [TcpConn.admits] using hadmits
          cases hp : (conn.flow direction).phase with
          | writing chunk =>
              exact hdata chunk hrelay hp (view_copy hcopy (by simp)) _ fun _ => rfl
          | _ => simp [Flow.step, hp] at hf
      | writeError n err =>
          have hview := view_copy hcopy (by simp)
          have hrelay : conn.phase = .relay := by
            cases direction <;> simpa [TcpConn.admits] using hadmits
          cases hp : (conn.flow direction).phase with
          | writing chunk =>
              by_cases hn : n = 0
              · refine ⟨t, by simp only [TcpEvent.seen, if_pos hn]; rfl, rfl, ?_⟩
                simpa [TcpEvent.carries, hn] using h.unseen hconn hsound hview
              · simp only [TcpEvent.seen, if_neg hn]
                exact hdata chunk hrelay hp hview _ fun j => by simp [TcpEvent.carries, hn]
          | _ => simp [Flow.step, hp] at hf
      | _ => exact ⟨t, rfl, rfl, h.unseen hconn hsound (view_copy hcopy (by simp))⟩

end Viewed

def timedStep (e : ℕ × TcpEvent) (p : TcpProxy) : Option TcpProxy := p.step e.2

def clock (events : List (ℕ × TcpEvent)) : ℕ := events.foldl (fun now e => now + e.1) 0

def lastWrite (i : ℕ) (events : List (ℕ × TcpEvent)) : Option ℕ :=
  (events.foldl (fun (s : ℕ × Option ℕ) e =>
    (s.1 + e.1, if e.2.carries i then some (s.1 + e.1) else s.2)) (0, none)).2

/-- What the idle timeout sees of a run: time passes, and then it sees what there is of the event.
-/
def seenBy : List (ℕ × TcpEvent) → TcpProxy → List TrafficEvent
  | [], _ => []
  | e :: events, p => .tick e.1 :: e.2.seen p ++ ((p.step e.2).map (seenBy events)).getD []

section Timed

variable {timed : List (ℕ × TcpEvent)} {e : ℕ × TcpEvent}

theorem clock_concat : clock (timed ++ [e]) = clock timed + e.1 := by
  rw [clock, List.foldl_concat]
  rfl

theorem lastWrite_concat : lastWrite i (timed ++ [e]) =
    if e.2.carries i then some (clock timed + e.1) else lastWrite i timed := by
  have hclock : ∀ (start : ℕ × Option ℕ), (timed.foldl (fun (s : ℕ × Option ℕ) e =>
      (s.1 + e.1, if e.2.carries i then some (s.1 + e.1) else s.2)) start).1 =
      timed.foldl (fun now e => now + e.1) start.1 := by
    induction timed with
    | nil => exact fun _ => rfl
    | cons e timed ih => exact fun start => ih _
  simp only [lastWrite, List.foldl_concat, hclock]
  rfl

theorem seenBy_concat {p₀ : TcpProxy} (hrun : runEvents timedStep timed p₀ = some p) :
    seenBy (timed ++ [e]) p₀ = seenBy timed p₀ ++ (.tick e.1 :: e.2.seen p) := by
  induction timed generalizing p₀ with
  | nil =>
      cases hrun
      cases hstep : p.step e.2 <;> simp [seenBy, hstep]
  | cons e' timed ih =>
      obtain ⟨p₁, hstep, hrest⟩ := runEvents_cons.mp hrun
      have hstep : p₀.step e'.2 = some p₁ := hstep
      simp only [List.cons_append, seenBy, hstep, Option.map_some, Option.getD_some, ih hrest,
        List.append_assoc]

theorem viewed_of_run (hrun : runEvents timedStep timed initial = some p) :
    ∃ t, runEvents Traffic.step (seenBy timed initial) .initial = some t ∧ t.now = clock timed ∧
      p.Viewed (fun i => lastWrite i timed) t := by
  -- the history is needed twice: for the events that were seen, and for the times of the data
  have hreached : runEvents timedStep timed initial = some p ∧ ∃ t,
      runEvents Traffic.step (seenBy timed initial) .initial = some t ∧ t.now = clock timed ∧
        p.Viewed (fun i => lastWrite i timed) t := by
    refine runEvents_history (P := fun timed p => runEvents timedStep timed initial = some p ∧ ∃ t,
      runEvents Traffic.step (seenBy timed initial) .initial = some t ∧ t.now = clock timed ∧
        p.Viewed (fun i => lastWrite i timed) t) (fun timed e p p' => ?_) ?_ hrun
    · rintro ⟨hrun, t, ht, hnow, hviewed⟩ hstep
      have hticked : p.Viewed (fun i => lastWrite i timed) { t with now := t.now + e.1 } :=
        ⟨hviewed.sound, hviewed.accepting, hviewed.conns, hviewed.unused⟩
      obtain ⟨t', ht', hnow', hviewed'⟩ := hticked.step hstep
      refine ⟨runEvents_concat.mpr ⟨p, hrun, hstep⟩, t', ?_, ?_, ?_⟩
      · rw [seenBy_concat hrun]
        exact runEvents_append.mpr ⟨t, ht, runEvents_cons.mpr ⟨_, rfl, ht'⟩⟩
      · rw [hnow', hnow, clock_concat]
      · simpa only [lastWrite_concat, hnow] using hviewed'
    · exact ⟨rfl, .initial, rfl, rfl, fun _ h => (by cases h), rfl, fun _ => rfl, fun _ _ => rfl⟩
  exact hreached.2

theorem seenBy_take (n : ℕ) (p₀ : TcpProxy) : seenBy (timed.take n) p₀ <+: seenBy timed p₀ := by
  induction timed generalizing n p₀ with
  | nil => simp
  | cons e timed ih =>
      cases n with
      | zero => exact List.nil_prefix
      | succ n =>
          simp only [List.take_succ_cons, seenBy]
          refine (List.prefix_append_right_inj _).mpr ?_
          cases p₀.step e.2 with
          | none => exact List.prefix_rfl
          | some p₁ => exact ih n p₁

end Timed

/-- Every run of the connections with their bytes, at any speed, is step by step the run of the
connections of the idle timeout that its own events make. After any number of its events, the same
connections are there dialing, copying in the same directions, or closed; the time is the same; and
a connection has carried data when bytes of it were last written. -/
theorem connections_seen_by_timeout (events : List (ℕ × TcpEvent)) (p : TcpProxy)
    (hrun : runEvents timedStep events initial = some p) (n : ℕ) :
    ∃ p' t, runEvents timedStep (events.take n) initial = some p' ∧
      seenBy (events.take n) initial <+: seenBy events initial ∧
      runEvents Traffic.step (seenBy (events.take n) initial) .initial = some t ∧
      t.now = clock (events.take n) ∧
      t.conns = p'.conns.mapIdx fun i conn =>
        ProxiedConn.mk conn.view (lastWrite i (events.take n)) := by
  rw [← List.take_append_drop n events] at hrun
  obtain ⟨p', hrun', -⟩ := runEvents_append.mp hrun
  obtain ⟨t, ht, hnow, hviewed⟩ := viewed_of_run hrun'
  refine ⟨p', t, hrun', seenBy_take n initial, ht, hnow, List.ext_getElem? fun i => ?_⟩
  rw [hviewed.conns, List.getElem?_mapIdx]

theorem connections_seen_by_timeout_half_closed :
    ∃ p t t', runEvents timedStep (halfClosed.map fun e => (1, e)) initial = some p ∧
      runEvents Traffic.step (seenBy (halfClosed.map fun e => (1, e)) initial) .initial = some t ∧
      t.now = 22 ∧ t.conns = [⟨.relaying false true, some 16⟩, ⟨.closed, none⟩] ∧
      runEvents Traffic.step (seenBy ((halfClosed.map fun e => (1, e)).take 7) initial) .initial =
        some t' ∧ t'.conns = [⟨.relaying true true, some 7⟩] := by
  obtain ⟨p, t, hp, -, ht, hnow, hconns⟩ :=
    connections_seen_by_timeout (halfClosed.map fun e => (1, e)) _ rfl 22
  obtain ⟨p', t', hp', -, ht', -, hconns'⟩ :=
    connections_seen_by_timeout (halfClosed.map fun e => (1, e)) _ rfl 7
  cases hp
  cases hp'
  exact ⟨_, t, t', rfl, ht, hnow, hconns, ht', hconns'⟩

end TcpProxy
end TunnelOperator
