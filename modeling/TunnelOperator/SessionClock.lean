import Mathlib.Data.Finset.Card
import Mathlib.Data.Finset.Range
import TunnelOperator.PacketFlow

/-!
# Idle sessions and the session gauge

`CleanupIdle` takes the time for its cutoff before it takes the lock, and `servePort` touches a
session after it has looked it up or stored it. Over every run: a pass of the cleanup spares what
was active within the timeout, and a session still in the map was active within the timeout before
the last pass began, or is about to be touched. `ActiveSessions` counts the goroutines that run.
-/

namespace TunnelOperator
open Interaction

/-- `servePort` holds a packet and has not yet got to its session. -/
def ServePhase.preparing : ServePhase → Bool
  | .received _ | .dialing _ | .dialed _ _ => true
  | _ => false

theorem ServePhase.preparing_iff (p : ServePhase) :
    p.preparing = true ↔ p.hand.isSome = true ∧ ∀ c i, p ≠ .writing c i := by
  cases p <;> simp [preparing, hand]

/-- `pipeResponses` has been started and has not returned. -/
def PipePhase.running : PipePhase → Bool
  | .reading | .failed | .closing => true
  | _ => false

namespace ListenerState

variable {s s' : ListenerState} {i : ℕ}

theorem step_serve {e : SessionEvent} {c : String} (he : takes e = false)
    (hserve : s.serve = .writing c i) (hstep : step e s = some s') : s'.serve = s.serve := by
  cases e with
  | packet c => cases he
  | write ok => cases he
  | readError => simp [step, readError, hserve] at hstep
  | getSession => simp [step, getSession, hserve] at hstep
  | dial ok => simp [step, dial, hserve] at hstep
  | setSession => simp [step, setSession, hserve] at hstep
  | deleteFailed => simp [step, deleteFailed, hserve] at hstep
  | closeFailed => simp [step, closeFailed, hserve] at hstep
  | pipeFail i => exact (shrinks_pipeFail hstep).serve
  | pipeDelete i => exact (shrinks_pipeDelete hstep).serve
  | pipeClose i => exact (shrinks_pipeClose hstep).serve
  | cleanupIdle idle =>
      simp only [step] at hstep
      split_ifs at hstep
      cases hstep
      exact (shrinks_cleanup idle s).serve
  | cleanupReturn | cancel | closeConn =>
      simp only [step] at hstep
      split_ifs at hstep
      cases hstep
      rfl
  | closeAll =>
      simp only [step] at hstep
      split_ifs at hstep
      cases hstep
      exact (shrinks_cleanup s.sessions.keys s).serve

def isRunning (s : ListenerState) (i : ℕ) : Bool := (s.made.lookup i).any (·.pipe.running)

/-- The sessions whose `pipeResponses` runs. -/
def runningPipes (s : ListenerState) : Finset ℕ :=
  (Finset.range s.next).filter fun i => s.isRunning i = true

theorem mem_runningPipes (h : s.Linked) : i ∈ s.runningPipes ↔ s.isRunning i = true := by
  rw [runningPipes, Finset.mem_filter, Finset.mem_range]
  refine ⟨fun hi => hi.2, fun hi => ⟨?_, hi⟩⟩
  obtain ⟨x, hx, -⟩ := (Option.any_eq_true _ _).mp hi
  exact h.fresh i x hx

theorem isRunning_onSession {f : Session → Session}
    (h : ∀ x, s.made.lookup i = some x → (f x).pipe.running = x.pipe.running) (j : ℕ) :
    (s.onSession i f).isRunning j = s.isRunning j := by
  rw [isRunning, onSession_made, isRunning]
  split_ifs with hj
  · subst hj
    cases hx : s.made.lookup j with
    | none => rfl
    | some x => exact h x hx
  · rfl

/-- Only `servePort` starts a `pipeResponses`, and only the goroutine itself ends. -/
def starts : SessionEvent → Bool
  | .setSession => true
  | .pipeClose _ => true
  | _ => false

theorem starts_of_plain {e : SessionEvent} (h : e.plain = true) : starts e = false := by
  cases e <;> first | rfl | cases h

theorem cleanup_isRunning (keys : List String) (s : ListenerState) (j : ℕ) :
    (s.cleanup keys).isRunning j = s.isRunning j := by
  have hs := shrinks_cleanup keys s
  cases hx : s.made.lookup j with
  | some x =>
      obtain ⟨x', hx', -⟩ := hs.kept j x hx
      obtain ⟨y, hy, hpipe⟩ := cleanup_pipe keys hx'
      rw [hx] at hy
      cases hy
      rw [isRunning, isRunning, hx, hx', Option.any_some, Option.any_some, hpipe]
  | none =>
      cases hx' : (s.cleanup keys).made.lookup j with
      | none => rw [isRunning, isRunning, hx, hx']
      | some x' =>
          obtain ⟨x, hx₀, -⟩ := hs.origin j x' hx'
          rw [hx] at hx₀
          cases hx₀

theorem step_isRunning {e : SessionEvent} (h : s.Linked) (he : starts e = false)
    (hstep : step e s = some s') (j : ℕ) :
    s'.isRunning j = s.isRunning j := by
  cases e with
  | setSession => cases he
  | pipeClose i => cases he
  | packet c =>
      simp only [step, packet] at hstep
      split_ifs at hstep
      cases hstep
      rfl
  | readError =>
      simp only [step, readError] at hstep
      split_ifs at hstep <;> cases hstep <;> rfl
  | getSession =>
      simp only [step, getSession] at hstep
      split at hstep
      · split at hstep <;> cases hstep <;> rfl
      · cases hstep
  | dial ok =>
      simp only [step, dial] at hstep
      split at hstep
      · split_ifs at hstep
        · cases hstep
          simp only [isRunning, Table.lookup_insert_eq]
          split_ifs with hj
          · -- the new session is not running, and there was none
            cases hx : s.made.lookup j with
            | none => rfl
            | some x =>
                have := h.fresh j x hx
                omega
          · rfl
        · cases hstep
          rfl
      · cases hstep
  | write ok =>
      simp only [step, write] at hstep
      split at hstep
      · split_ifs at hstep <;> cases hstep <;> rfl
      · cases hstep
  | deleteFailed =>
      simp only [step, deleteFailed] at hstep
      split at hstep <;> cases hstep
      rfl
  | closeFailed =>
      simp only [step, closeFailed] at hstep
      split at hstep
      · cases hstep
        exact isRunning_onSession (s := s) (f := fun x => { x with upstreamOpen := false })
          (fun _ _ => rfl) j
      · cases hstep
  | pipeFail i =>
      simp only [step, pipeFail, Option.bind_eq_bind, Option.bind_eq_some_iff] at hstep
      obtain ⟨x, hx, hstep⟩ := hstep
      split_ifs at hstep with hp
      cases hstep
      refine isRunning_onSession (fun y hy => ?_) j
      rw [hx] at hy
      cases hy
      rw [hp]
      rfl
  | pipeDelete i =>
      simp only [step, pipeDelete, Option.bind_eq_bind, Option.bind_eq_some_iff] at hstep
      obtain ⟨x, hx, hstep⟩ := hstep
      split_ifs at hstep with hp
      cases hstep
      refine isRunning_onSession (s := s) (fun y hy => ?_) j
      rw [hx] at hy
      cases hy
      rw [hp]
      rfl
  | cleanupIdle idle =>
      simp only [step] at hstep
      split_ifs at hstep
      cases hstep
      exact cleanup_isRunning idle s j
  | cleanupReturn | cancel | closeConn =>
      simp only [step] at hstep
      split_ifs at hstep
      cases hstep
      rfl
  | closeAll =>
      simp only [step] at hstep
      split_ifs at hstep
      cases hstep
      exact cleanup_isRunning s.sessions.keys s j

theorem runningPipes_step {e : SessionEvent} (h : s.Linked) (he : starts e = false)
    (hstep : step e s = some s') :
    s'.runningPipes = s.runningPipes := by
  ext j
  rw [mem_runningPipes h, mem_runningPipes (h.step hstep), step_isRunning h he hstep]

theorem runningPipes_setSession (h : s.Linked) (hstep : s.setSession = some s') :
    s'.runningPipes.card = s.runningPipes.card + 1 := by
  have hlinked : s'.Linked := h.step (e := .setSession) hstep
  simp only [setSession] at hstep
  cases hserve : s.serve with
  | dialed c i =>
      simp only [hserve, Option.some.injEq] at hstep
      obtain ⟨x, hx, -, hpipe⟩ := h.dialed c i hserve
      have hidle : s.isRunning i = false := by rw [isRunning, hx, Option.any_some, hpipe]; rfl
      have hrunning : ∀ j, s'.isRunning j = if j = i then true else s.isRunning j := by
        intro j
        subst hstep
        change ((s.setPipe i .reading).made.lookup j).any _ = _
        rw [setPipe_made]
        split_ifs with hj
        · rw [hj, hx]
          rfl
        · rfl
      have hinsert : s'.runningPipes = insert i s.runningPipes := by
        ext j
        rw [mem_runningPipes hlinked, Finset.mem_insert, mem_runningPipes h, hrunning]
        split_ifs with hj
        · simp [hj]
        · simp [hj]
      rw [hinsert, Finset.card_insert_of_notMem]
      rw [mem_runningPipes h, hidle]
      exact Bool.false_ne_true
  | _ => simp [hserve] at hstep

theorem runningPipes_pipeClose (h : s.Linked) (hstep : s.pipeClose i = some s') :
    s'.runningPipes.card + 1 = s.runningPipes.card := by
  have hlinked : s'.Linked := h.step (e := .pipeClose i) hstep
  simp only [pipeClose, Option.bind_eq_bind, Option.bind_eq_some_iff] at hstep
  obtain ⟨x, hx, hstep⟩ := hstep
  split_ifs at hstep with hp
  have hmem : i ∈ s.runningPipes := by
    rw [mem_runningPipes h, isRunning, hx, Option.any_some, hp]
    rfl
  have hrunning : ∀ j, s'.isRunning j = if j = i then false else s.isRunning j := by
    intro j
    cases hstep
    rw [isRunning, closeUpstream_setPipe, onSession_made]
    split_ifs with hj
    · rw [hj, hx]
      rfl
    · rfl
  have herase : s'.runningPipes = s.runningPipes.erase i := by
    ext j
    rw [mem_runningPipes hlinked, Finset.mem_erase, mem_runningPipes h, hrunning]
    split_ifs with hj
    · simp [hj]
    · simp [hj]
  rw [herase, Finset.card_erase_add_one hmem]

end ListenerState

namespace PortRelay

variable {timeout : ℕ} {r r' : PortRelay} {e : PortEvent}

/-- An entry of the map that the last pass of the cleanup found active, or could not have found. -/
structure Timely (timeout : ℕ) (r : PortRelay) : Prop where
  linked : r.listener.Linked
  swept : r.lastSweep ≤ r.now
  begun : ∀ t, r.cutoff = some t → t ≤ r.now
  untouched : r.listener.serve.preparing = true → r.touched = false
  active : ∀ k i, r.listener.sessions.lookup k = some i →
    ¬ r.IdleAt timeout r.lastSweep i ∨ (r.touched = false ∧ ∃ c, r.listener.serve = .writing c i)

theorem timely_initial (timeout : ℕ) : initial.Timely timeout :=
  ⟨ListenerState.linked_initial, Nat.le_refl _, nofun, nofun, fun _ _ h => (by cases h)⟩

theorem idleAt_insert (htimeout : 0 < timeout) (hswept : r.lastSweep ≤ r.now) (i : ℕ) {j : ℕ}
    (h : IdleAt timeout r.lastSweep { r with lastActivity := r.lastActivity.insert i r.now } j) :
    j ≠ i ∧ r.IdleAt timeout r.lastSweep j := by
  simp only [IdleAt, Table.lookup_insert_eq] at h ⊢
  split_ifs at h with hj
  · simp only [Option.getD_some] at h
    omega
  · exact ⟨hj, h⟩

theorem Timely.record (h : r.Timely timeout) (htimeout : 0 < timeout) (i : ℕ) :
    Timely timeout { r with lastActivity := r.lastActivity.insert i r.now } :=
  ⟨h.linked, h.swept, h.begun, h.untouched, fun k j hk =>
    (h.active k j hk).imp_left fun hactive hidle =>
      hactive (idleAt_insert htimeout h.swept i hidle).2⟩

/-- What is not about the clock leaves `Timely` alone, unless `servePort` takes a packet or is done
with one. -/
theorem Timely.listener (h : r.Timely timeout) {e : SessionEvent}
    (he : ListenerState.takes e = false) {s : ListenerState}
    (hstep : ListenerState.step e r.listener = some s) :
    Timely timeout { r with listener := s } := by
  have hmoves := ListenerState.step_moves h.linked hstep
  have hwriting : ∀ {c i}, r.listener.serve = .writing c i → s.serve = .writing c i :=
    fun hserve => (ListenerState.step_serve he hserve hstep).trans hserve
  refine ⟨h.linked.step hstep, h.swept, h.begun, fun hprep => h.untouched ?_, fun k i hk => ?_⟩
  · obtain ⟨hhand, hnot⟩ := (ServePhase.preparing_iff _).mp hprep
    rw [ListenerState.step_hand he hstep] at hhand
    exact (ServePhase.preparing_iff _).mpr ⟨hhand, fun c i hserve => hnot c i (hwriting hserve)⟩
  · rcases hmoves.sessions k i hk with hold | ⟨hdialed, hnew⟩
    · refine (h.active k i hold).imp_right fun hex => ⟨hex.1, ?_⟩
      obtain ⟨c, hc⟩ := hex.2
      exact ⟨c, hwriting hc⟩
    · exact Or.inr ⟨h.untouched (by rw [hdialed]; rfl), k, hnew⟩

/-- When `servePort` is done with a packet, or has none, every entry is accounted for. -/
theorem Timely.settled (h : r.Timely timeout)
    (hserve : r.touched = true ∨ ∀ c i, r.listener.serve ≠ .writing c i) {k : String} {i : ℕ}
    (hk : r.listener.sessions.lookup k = some i) : ¬ r.IdleAt timeout r.lastSweep i := by
  refine (h.active k i hk).resolve_right ?_
  rintro ⟨htouched, c, hc⟩
  rcases hserve with hserve | hserve
  · rw [htouched] at hserve
    cases hserve
  · exact hserve c i hc

theorem Timely.sweep (h : r.Timely timeout) {t : ℕ} {s : ListenerState}
    (hcutoff : r.cutoff = some t)
    (hs : ListenerState.step (.cleanupIdle (r.idle timeout t)) r.listener = some s) :
    Timely timeout { r with listener := s, cutoff := none, lastSweep := t } := by
  have hlistener := h.listener rfl hs
  refine ⟨hlistener.linked, h.begun t hcutoff, nofun, hlistener.untouched, fun k i hk =>
    Or.inl fun hidle => ?_⟩
  simp only [ListenerState.step] at hs
  split_ifs at hs
  cases hs
  -- what is idle is not skipped
  change (r.listener.cleanup (r.idle timeout t)).sessions.lookup k = some i at hk
  rw [ListenerState.cleanup_sessions] at hk
  split_ifs at hk with hmem
  refine hmem (List.mem_filter.mpr ⟨(Table.mem_keys_iff _ _).mpr ⟨i, hk⟩, ?_⟩)
  exact decide_eq_true ⟨i, hk, hidle⟩

theorem Timely.step (htimeout : 0 < timeout) (h : r.Timely timeout)
    (hstep : step timeout e r = some r') :
    r'.Timely timeout := by
  have hlinked := linked_step h.linked hstep
  cases step_effect hstep with
  | tick d =>
      exact ⟨h.linked, Nat.le_add_right_of_le h.swept, fun t ht =>
        Nat.le_add_right_of_le (h.begun t ht),
      h.untouched, h.active⟩
  | packet c data s hs =>
      simp only [ListenerState.packet] at hs
      split_ifs at hs with hg
      cases hs
      refine ⟨hlinked, h.swept, h.begun, fun _ => rfl, fun k i hk =>
        Or.inl (h.settled (Or.inr ?_) hk)⟩
      simp [hg.1]
  | dialed c s _ hs =>
      exact (h.record htimeout r.listener.next).listener (e := .dial true) rfl hs
  | undialed c s hserve hs =>
      simp only [ListenerState.dial, hserve, Bool.false_eq_true, if_false, Option.some.injEq] at hs
      subst hs
      refine ⟨hlinked, h.swept, h.begun, fun hpreparing => (by cases hpreparing), fun k i hk =>
        Or.inl (h.settled (Or.inr ?_) hk)⟩
      simp [hserve]
  | setSession s hs =>
      obtain ⟨h₁, h₂, h₃, h₄, h₅⟩ := h.listener (e := .setSession) rfl hs
      exact ⟨h₁, h₂, h₃, h₄, h₅⟩
  | touch c i hserve =>
      refine ⟨h.linked, h.swept, h.begun, ?_, fun k j hk => Or.inl fun hidle => ?_⟩
      · simp [hserve, ServePhase.preparing]
      · obtain ⟨hj, hidle⟩ := idleAt_insert htimeout h.swept i hidle
        refine (h.active k j hk).elim (fun hactive => hactive hidle) fun hex => ?_
        obtain ⟨-, c', hc'⟩ := hex
        rw [hserve] at hc'
        cases hc'
        exact hj rfl
  | sent c i s hserve htouched hs =>
      simp only [ListenerState.write, hserve, reduceCtorEq, if_false] at hs
      split_ifs at hs
      cases hs
      exact ⟨hlinked, h.swept, h.begun, fun hpreparing => (by cases hpreparing), fun k j hk =>
        Or.inl (h.settled (Or.inl htouched) hk)⟩
  | unsent c i s hserve htouched hs =>
      simp only [ListenerState.write, hserve, if_true, Option.some.injEq] at hs
      subst hs
      exact ⟨hlinked, h.swept, h.begun, fun hpreparing => (by cases hpreparing), fun k j hk =>
        Or.inl (h.settled (Or.inl htouched) hk)⟩
  | pipeTouch i data hold =>
      obtain ⟨h₁, h₂, h₃, h₄, h₅⟩ := h.record htimeout i
      exact ⟨h₁, h₂, h₃, h₄, h₅⟩
  | startCleanup hnone =>
      refine ⟨h.linked, h.swept, fun t ht => ?_, h.untouched, h.active⟩
      cases ht
      exact Nat.le_refl _
  | sweep t s hcutoff hs => exact h.sweep hcutoff hs
  | pipeFail i s hs =>
      obtain ⟨h₁, h₂, h₃, h₄, h₅⟩ := h.listener (e := .pipeFail i) rfl hs
      exact ⟨h₁, h₂, h₃, h₄, h₅⟩
  | pipeClose i s hs =>
      obtain ⟨h₁, h₂, h₃, h₄, h₅⟩ := h.listener (e := .pipeClose i) rfl hs
      exact ⟨h₁, h₂, h₃, h₄, h₅⟩
  | cleanupReturn s hs => exact h.listener rfl hs
  | session e s hplain hs => exact h.listener (ListenerState.takes_of_plain hplain) hs
  | pipeRead | pipeWrite => exact ⟨h.linked, h.swept, h.begun, h.untouched, h.active⟩

/-- One client sends at the start, another after 40 s; five seconds later the cleanup begins. -/
def idleAndBusy : List PortEvent :=
  [.packet "10.0.0.7:4000" [1], .session .getSession, .dial true, .setSession, .touch, .write true,
    .tick 40, .packet "10.0.0.8:4000" [2], .session .getSession, .dial true, .setSession, .touch,
    .write true, .tick 5, .startCleanup]

structure Gauged (r : PortRelay) : Prop where
  linked : r.listener.Linked
  shown : r.activeSessions = r.listener.runningPipes.card

theorem Gauged.listener (h : r.Gauged) {e : SessionEvent} (he : ListenerState.starts e = false)
    (hstep : ListenerState.step e r.listener = some r'.listener)
    (hsame : r'.activeSessions = r.activeSessions) :
    r'.Gauged :=
  ⟨h.linked.step hstep, by rw [hsame, h.shown, ListenerState.runningPipes_step h.linked he hstep]⟩

theorem Gauged.same (h : r.Gauged) (hlistener : r'.listener = r.listener)
    (hsame : r'.activeSessions = r.activeSessions) : r'.Gauged :=
  ⟨by rw [hlistener]; exact h.linked, by rw [hsame, hlistener]; exact h.shown⟩

theorem Gauged.step (h : r.Gauged) (hstep : step timeout e r = some r') : r'.Gauged := by
  cases step_effect hstep with
  | setSession s hs =>
      refine ⟨h.linked.step (e := .setSession) hs, ?_⟩
      have hcard := ListenerState.runningPipes_setSession h.linked hs
      simp only [h.shown]
      omega
  | pipeClose i s hs =>
      refine ⟨h.linked.step (e := .pipeClose i) hs, ?_⟩
      have hcard := ListenerState.runningPipes_pipeClose h.linked hs
      simp only [h.shown]
      omega
  | packet c data s hs => exact h.listener (e := .packet c) rfl hs rfl
  | dialed c s _ hs => exact h.listener (e := .dial true) rfl hs rfl
  | undialed c s _ hs => exact h.listener (e := .dial false) rfl hs rfl
  | sent c i s _ _ hs => exact h.listener (e := .write true) rfl hs rfl
  | unsent c i s _ _ hs => exact h.listener (e := .write false) rfl hs rfl
  | pipeFail i s hs => exact h.listener (e := .pipeFail i) rfl hs rfl
  | sweep t s _ hs => exact h.listener rfl hs rfl
  | cleanupReturn s hs => exact h.listener rfl hs rfl
  | session e s hplain hs => exact h.listener (ListenerState.starts_of_plain hplain) hs rfl
  | tick | touch | pipeRead | pipeTouch | pipeWrite | startCleanup => exact h.same rfl rfl

/-- In every run `ActiveSessions` shows how many `pipeResponses` are running: those started and not
yet returned, whether or not their sessions are still in the map. -/
theorem gauge_counts_pipes (timeout : ℕ) (events : List PortEvent) (r : PortRelay)
    (hrun : runEvents (step timeout) events initial = some r) :
    r.activeSessions = r.listener.runningPipes.card ∧
      ∀ i, i ∈ r.listener.runningPipes ↔ ∃ x, r.listener.made.lookup i = some x ∧
        x.pipe.running = true := by
  have h : r.Gauged := runEvents_invariant (fun _ _ _ h hstep => Gauged.step h hstep)
    ⟨ListenerState.linked_initial, rfl⟩ hrun
  refine ⟨h.shown, fun i => ?_⟩
  rw [ListenerState.mem_runningPipes h.linked, ListenerState.isRunning, Option.any_eq_true]

theorem gauge_counts_pipes_busy :
    ∃ r, runEvents (step 30) (idleAndBusy ++ [.sweep]) initial = some r ∧
      r.listener.sessions.keys.length = 1 ∧ r.listener.runningPipes.card = 2 ∧
        r.activeSessions = 2 := by
  refine ⟨_, rfl, by decide, by decide, ?_⟩
  exact (gauge_counts_pipes 30 (idleAndBusy ++ [.sweep]) _ rfl).1.trans (by decide)

end PortRelay
end TunnelOperator
