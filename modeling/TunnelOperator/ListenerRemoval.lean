import TunnelOperator.SessionOwners

/-!
# Removing a listener

`RemoveMapping` cancels the context, closes the socket and drains the session map. Nothing
reclaims what is stored afterwards: `servePort` may have read a packet before the socket was
closed and store a session for it when the map has been drained.
-/

namespace TunnelOperator
open Interaction

/-- The `servePort` goroutine has read a packet and may still store a session for it. -/
def ServePhase.storing : ServePhase → Bool
  | .received _ => true
  | .dialing _ => true
  | .dialed _ _ => true
  | _ => false

def SessionEvent.drains : SessionEvent → Bool
  | .closeAll => true
  | _ => false

namespace ListenerState

/-- The map is drained while `servePort` has no packet to store a session for and no
`pipeResponses` is between deleting its session and closing it. -/
def DrainsAll (e : SessionEvent) (s : ListenerState) : Prop :=
  e.drains = true → s.serve.storing = false ∧ ∀ x ∈ s.made.values, x.upstreamOpen = true →
    x.pipe ≠ .closing

instance (e : SessionEvent) (s : ListenerState) : Decidable (DrainsAll e s) :=
  inferInstanceAs (Decidable (e.drains = true → s.serve.storing = false ∧
    ∀ x ∈ s.made.values, x.upstreamOpen = true → x.pipe ≠ .closing))

def OrderlyRemoval (e : SessionEvent) (s : ListenerState) : Prop := OwnDelete e s ∧ DrainsAll e s

instance (e : SessionEvent) (s : ListenerState) : Decidable (OrderlyRemoval e s) :=
  inferInstanceAs (Decidable (_ ∧ _))

/-- The `servePort` goroutine stores nothing any more and is the only one to hold an open
connection, which it is about to close. -/
structure Quiet (s : ListenerState) : Prop where
  storing : s.serve.storing = false
  closing : ∀ i x, s.made.lookup i = some x → x.upstreamOpen = true → s.serve = .closing i

def Drained (s : ListenerState) : Prop := s.removal = .removed → s.Quiet

section Steps

variable {s s' : ListenerState}

theorem Shrinks.refl (s : ListenerState) : Shrinks s s :=
  ⟨fun _ _ h => h, fun _ x h => ⟨x, h, rfl, id⟩, fun _ x h => ⟨x, h, rfl⟩, rfl, rfl⟩

theorem Quiet.shrinks (h : s.Quiet) (hs : Shrinks s s') : s'.Quiet := by
  refine ⟨by rw [hs.serve]; exact h.storing, fun i x' hx' ho => ?_⟩
  obtain ⟨x, hx, -, hopen⟩ := hs.origin i x' hx'
  rw [hs.serve]
  exact h.closing i x hx (hopen ho)

theorem Quiet.serve {serve : ServePhase} (h : s.Quiet) (hne : ∀ i, s.serve ≠ .closing i)
    (hserve : serve.storing = false) : ({ s with serve := serve } : ListenerState).Quiet :=
  ⟨hserve, fun i x hx ho => absurd (h.closing i x hx ho) (hne i)⟩

theorem shrinks_dropSession (s : ListenerState) (key : String) : Shrinks s (s.dropSession key) := by
  unfold dropSession
  cases s.sessions.lookup key with
  | none => exact .refl s
  | some i => exact (shrinks_closeUpstream i s).erase key

theorem shrinks_cleanup (keys : List String) (s : ListenerState) : Shrinks s (s.cleanup keys) := by
  unfold cleanup
  induction keys generalizing s with
  | nil => exact .refl s
  | cons key keys ih => exact (shrinks_dropSession s key).trans (ih _)

theorem cleanup_removal (keys : List String) (s : ListenerState) :
    (s.cleanup keys).removal = s.removal := by
  unfold cleanup
  induction keys generalizing s with
  | nil => rfl
  | cons key keys ih =>
      rw [List.foldl_cons, ih]
      unfold dropSession
      cases s.sessions.lookup key with
      | none => rfl
      | some i => exact (onSession_rest i _ s).2.2.2

theorem cleanup_sessions (keys : List String) (s : ListenerState) (k : String) :
    (s.cleanup keys).sessions.lookup k = if k ∈ keys then none else s.sessions.lookup k := by
  unfold cleanup
  induction keys generalizing s with
  | nil => simp
  | cons key keys ih =>
      rw [List.foldl_cons, ih]
      have hdrop : (s.dropSession key).sessions.lookup k = if k = key
          then none else s.sessions.lookup k := by
        unfold dropSession
        cases hl : s.sessions.lookup key with
        | none =>
            split_ifs with hk
            · rw [hk, hl]
            · rfl
        | some i => exact Table.lookup_erase_eq _ _ _
      rw [hdrop]
      by_cases hk : k = key
      · simp [hk]
      · simp [hk]

theorem cleanup_pipe (keys : List String) {s : ListenerState} {i : ℕ} {x : Session}
    (h : (s.cleanup keys).made.lookup i = some x) :
    ∃ y, s.made.lookup i = some y ∧ x.pipe = y.pipe := by
  unfold cleanup at h
  induction keys generalizing s with
  | nil => exact ⟨x, h, rfl⟩
  | cons key keys ih =>
      obtain ⟨y, hy, hp⟩ := ih h
      unfold dropSession at hy
      cases hl : s.sessions.lookup key with
      | none =>
          rw [hl] at hy
          exact ⟨y, hy, hp⟩
      | some j =>
          rw [hl] at hy
          change (s.closeUpstream j).made.lookup i = some y at hy
          rw [closeUpstream_made] at hy
          split_ifs at hy
          · obtain ⟨z, hz, rfl⟩ := Option.map_eq_some_iff.mp hy
            exact ⟨z, hz, hp⟩
          · exact ⟨y, hy, hp⟩

/-- Draining the map leaves no open connection but the one that `servePort` is about to close. -/
theorem quiet_closeAll (h : s.Owned) (hserve : s.serve.storing = false)
    (hpipes : ∀ x ∈ s.made.values, x.upstreamOpen = true → x.pipe ≠ .closing) :
    (s.cleanup s.sessions.keys).Quiet := by
  have hs := shrinks_cleanup s.sessions.keys s
  have hempty : ∀ k, (s.cleanup s.sessions.keys).sessions.lookup k = none := by
    intro k
    rw [cleanup_sessions]
    split_ifs with hk
    · rfl
    · cases hl : s.sessions.lookup k with
      | none => rfl
      | some i => exact absurd ((Table.mem_keys_iff _ _).mpr ⟨i, hl⟩) hk
  refine ⟨by rw [hs.serve]; exact hserve, fun i x hx ho => ?_⟩
  rw [hs.serve]
  rcases (h.cleanup s.sessions.keys).held i x hx ho with hstored | hclosing | hholds
  · rw [Stored, hempty] at hstored
    cases hstored
  · obtain ⟨y, hy, hp⟩ := cleanup_pipe s.sessions.keys hx
    obtain ⟨y', hy', -, hopen⟩ := hs.origin i x hx
    rw [hy] at hy'
    cases hy'
    exact absurd (hp.symm.trans hclosing) (hpipes y ((Table.mem_values_iff _ _).mpr ⟨i, hy⟩)
      (hopen ho))
  · rw [hs.serve] at hholds
    cases hphase : s.serve with
    | dialed c j =>
        rw [hphase] at hserve
        cases hserve
    | closing j =>
        rw [hphase] at hholds
        exact congrArg ServePhase.closing hholds
    | _ =>
        rw [hphase] at hholds
        exact absurd hholds id

theorem Quiet.getSession (h : s.Quiet) : s.getSession = none := by
  have hstoring := h.storing
  unfold ListenerState.getSession
  cases hserve : s.serve with
  | received c =>
      rw [hserve] at hstoring
      cases hstoring
  | _ => rfl

theorem Quiet.dial (h : s.Quiet) (ok : Bool) : s.dial ok = none := by
  have hstoring := h.storing
  unfold ListenerState.dial
  cases hserve : s.serve with
  | dialing c =>
      rw [hserve] at hstoring
      cases hstoring
  | _ => rfl

theorem Quiet.setSession (h : s.Quiet) : s.setSession = none := by
  have hstoring := h.storing
  unfold ListenerState.setSession
  cases hserve : s.serve with
  | dialed c i =>
      rw [hserve] at hstoring
      cases hstoring
  | _ => rfl

theorem Quiet.readError (h : s.Quiet) (hstep : s.readError = some s') : s'.Quiet := by
  unfold ListenerState.readError at hstep
  by_cases hserve : s.serve = .reading
  · rw [if_pos hserve] at hstep
    cases hstep
    apply h.serve
    · intro i hc
      rw [hserve] at hc
      cases hc
    · split_ifs
      · rfl
      · rfl
  · rw [if_neg hserve] at hstep
    cases hstep

theorem Quiet.write {ok : Bool} (h : s.Quiet) (hstep : s.write ok = some s') : s'.Quiet := by
  unfold ListenerState.write at hstep
  cases hserve : s.serve with
  | writing c i =>
      have hne : ∀ j, s.serve ≠ .closing j := by
        intro j hc
        rw [hserve] at hc
        cases hc
      simp only [hserve] at hstep
      split_ifs at hstep
      · cases hstep
        exact h.serve hne rfl
      · cases hstep
        exact h.serve hne rfl
  | _ => simp [hserve] at hstep

theorem Quiet.deleteFailed (h : s.Quiet) (hstep : s.deleteFailed = some s') : s'.Quiet := by
  unfold ListenerState.deleteFailed at hstep
  cases hserve : s.serve with
  | failed c i =>
      simp only [hserve, Option.some.injEq] at hstep
      subst hstep
      refine ⟨rfl, fun j x hx ho => ?_⟩
      have hc := h.closing j x hx ho
      rw [hserve] at hc
      cases hc
  | _ => simp [hserve] at hstep

theorem Quiet.closeFailed (h : s.Quiet) (hstep : s.closeFailed = some s') : s'.Quiet := by
  unfold ListenerState.closeFailed at hstep
  cases hserve : s.serve with
  | closing i =>
      simp only [hserve, Option.some.injEq] at hstep
      subst hstep
      refine ⟨rfl, fun j x hx ho => ?_⟩
      obtain ⟨hj, hx⟩ := closeUpstream_open hx ho
      have hc := h.closing j x hx ho
      rw [hserve] at hc
      cases hc
      exact absurd rfl hj
  | _ => simp [hserve] at hstep

theorem shrinks_pipeFail {i : ℕ} (hstep : s.pipeFail i = some s') : Shrinks s s' := by
  simp only [pipeFail, Option.bind_eq_bind, Option.bind_eq_some_iff] at hstep
  obtain ⟨x, -, hstep⟩ := hstep
  split_ifs at hstep
  cases hstep
  exact shrinks_setPipe i _ s

theorem shrinks_pipeDelete {i : ℕ} (hstep : s.pipeDelete i = some s') : Shrinks s s' := by
  simp only [pipeDelete, Option.bind_eq_bind, Option.bind_eq_some_iff] at hstep
  obtain ⟨x, -, hstep⟩ := hstep
  split_ifs at hstep
  cases hstep
  exact (shrinks_setPipe i _ s).erase _

theorem shrinks_pipeClose {i : ℕ} (hstep : s.pipeClose i = some s') : Shrinks s s' := by
  simp only [pipeClose, Option.bind_eq_bind, Option.bind_eq_some_iff] at hstep
  obtain ⟨x, -, hstep⟩ := hstep
  split_ifs at hstep
  cases hstep
  exact (shrinks_closeUpstream i s).trans (shrinks_setPipe i _ _)

def removes : SessionEvent → Bool
  | .cancel => true
  | .closeConn => true
  | .closeAll => true
  | _ => false

/-- Only the steps of `RemoveMapping` change how far the removal has got. -/
theorem step_removal {e : SessionEvent} (he : removes e = false) (hstep : step e s = some s') :
    s'.removal = s.removal := by
  have hpipe : ∀ i phase, (s.setPipe i phase).removal = s.removal :=
    fun i phase => (onSession_rest i _ s).2.2.2
  have hclose : ∀ i, (s.closeUpstream i).removal = s.removal :=
    fun i => (onSession_rest i _ s).2.2.2
  cases e with
  | packet c =>
      simp only [step, packet] at hstep
      split_ifs at hstep
      cases hstep
      rfl
  | readError =>
      simp only [step, readError] at hstep
      split_ifs at hstep <;> cases hstep <;> rfl
  | getSession =>
      simp only [step, getSession] at hstep
      split at hstep
      · split at hstep <;> cases hstep <;> rfl
      · cases hstep
  | dial ok =>
      simp only [step, dial] at hstep
      split at hstep
      · split_ifs at hstep <;> cases hstep <;> rfl
      · cases hstep
  | setSession =>
      simp only [step, setSession] at hstep
      split at hstep
      · cases hstep
        exact hpipe _ _
      · cases hstep
  | write ok =>
      simp only [step, write] at hstep
      split at hstep
      · split_ifs at hstep <;> cases hstep <;> rfl
      · cases hstep
  | deleteFailed =>
      simp only [step, deleteFailed] at hstep
      split at hstep <;> cases hstep
      rfl
  | closeFailed =>
      simp only [step, closeFailed] at hstep
      split at hstep
      · cases hstep
        exact hclose _
      · cases hstep
  | pipeFail i =>
      simp only [step, pipeFail, Option.bind_eq_bind, Option.bind_eq_some_iff] at hstep
      obtain ⟨x, -, hstep⟩ := hstep
      split_ifs at hstep
      cases hstep
      exact hpipe _ _
  | pipeDelete i =>
      simp only [step, pipeDelete, Option.bind_eq_bind, Option.bind_eq_some_iff] at hstep
      obtain ⟨x, -, hstep⟩ := hstep
      split_ifs at hstep
      cases hstep
      exact hpipe _ _
  | pipeClose i =>
      simp only [step, pipeClose, Option.bind_eq_bind, Option.bind_eq_some_iff] at hstep
      obtain ⟨x, -, hstep⟩ := hstep
      split_ifs at hstep
      cases hstep
      exact (onSession_rest i _ _).2.2.2.trans (hclose i)
  | cleanupIdle idle =>
      simp only [step] at hstep
      split_ifs at hstep
      cases hstep
      exact cleanup_removal idle s
  | cleanupReturn =>
      simp only [step] at hstep
      split_ifs at hstep
      cases hstep
      rfl
  | cancel => cases he
  | closeConn => cases he
  | closeAll => cases he

theorem Quiet.step {e : SessionEvent} (h : s.Quiet) (hremoved : s.removal = .removed)
    (hstep : step e s = some s') : s'.Quiet := by
  cases e with
  | packet c =>
      simp only [ListenerState.step, packet] at hstep
      split_ifs at hstep with hg
      rw [hremoved] at hg
      cases hg.2 with
      | inl hc => cases hc
      | inr hc => cases hc
  | readError => exact h.readError hstep
  | getSession => cases h.getSession.symm.trans hstep
  | dial ok => cases (h.dial ok).symm.trans hstep
  | setSession => cases h.setSession.symm.trans hstep
  | write ok => exact h.write hstep
  | deleteFailed => exact h.deleteFailed hstep
  | closeFailed => exact h.closeFailed hstep
  | pipeFail i => exact h.shrinks (shrinks_pipeFail hstep)
  | pipeDelete i => exact h.shrinks (shrinks_pipeDelete hstep)
  | pipeClose i => exact h.shrinks (shrinks_pipeClose hstep)
  | cleanupIdle idle =>
      simp only [ListenerState.step] at hstep
      split_ifs at hstep
      cases hstep
      exact h.shrinks (shrinks_cleanup idle s)
  | cleanupReturn =>
      simp only [ListenerState.step] at hstep
      split_ifs at hstep
      cases hstep
      exact ⟨h.storing, h.closing⟩
  | cancel => simp [ListenerState.step, hremoved] at hstep
  | closeConn => simp [ListenerState.step, hremoved] at hstep
  | closeAll => simp [ListenerState.step, hremoved] at hstep

theorem drained_step (e : SessionEvent) (h : s.Owned) (hd : s.Drained) (hall : DrainsAll e s)
    (hstep : step e s = some s') : s'.Drained := by
  intro hremoved
  by_cases hbefore : s.removal = .removed
  · exact (hd hbefore).step hbefore hstep
  cases e with
  | closeAll =>
      simp only [step] at hstep
      split_ifs at hstep
      cases hstep
      obtain ⟨hserve, hpipes⟩ := hall rfl
      have hq := quiet_closeAll h hserve hpipes
      exact ⟨hq.storing, hq.closing⟩
  | cancel =>
      simp only [step] at hstep
      split_ifs at hstep
      cases hstep
      cases hremoved
  | closeConn =>
      simp only [step] at hstep
      split_ifs at hstep
      cases hstep
      cases hremoved
  | _ => exact absurd ((step_removal rfl hstep).symm.trans hremoved) hbefore

end Steps

/-- If the map is drained while `servePort` has no packet to store a session for and no
`pipeResponses` is about to close its session, and every `pipeResponses` deletes only its own
entry, then no connection is open once `RemoveMapping` and `servePort` have returned. -/
theorem removal_closes_sessions (events : List SessionEvent) (s : ListenerState)
    (hrun : runEvents (restrict OrderlyRemoval step) events initial = some s)
    (hremoved : s.removal = .removed) (hserve : s.serve = .returned) :
    ∀ i x, s.made.lookup i = some x → x.upstreamOpen = false := by
  have hinitial : initial.Drained := by
    intro h
    cases h
  have hinv : s.Owned ∧ s.Drained := by
    refine runEvents_invariant (P := fun s => s.Owned ∧ s.Drained) (fun e s s' h hstep => ?_)
      ⟨owned_initial, hinitial⟩ hrun
    obtain ⟨⟨hown, hall⟩, hstep⟩ := restrict_eq_some.mp hstep
    exact ⟨owned_step e h.1 hown hstep, drained_step e h.1 h.2 hall hstep⟩
  intro i x hx
  by_contra ho
  have hclosing := (hinv.2 hremoved).closing i x hx (by simpa using ho)
  rw [hserve] at hclosing
  cases hclosing

theorem removal_closes_sessions_serving :
    ∃ s, runEvents (restrict OrderlyRemoval step)
        (serveClient ++ [.cancel, .closeConn, .closeAll, .readError, .pipeFail 0, .pipeDelete 0,
          .pipeClose 0])
        initial = some s ∧
      s.removal = .removed ∧ s.serve = .returned ∧ s.made.values.length = 1 ∧
      ∀ i x, s.made.lookup i = some x → x.upstreamOpen = false := by
  have hrun : ∃ s, runEvents (restrict OrderlyRemoval step)
      (serveClient ++ [.cancel, .closeConn, .closeAll, .readError, .pipeFail 0, .pipeDelete 0,
        .pipeClose 0])
      initial = some s ∧ s.removal = .removed ∧ s.serve = .returned ∧ s.made.values.length = 1 :=
    ⟨_, rfl, rfl, rfl, rfl⟩
  obtain ⟨s, hrun, hremoved, hserve, hlen⟩ := hrun
  exact ⟨s, hrun, hremoved, hserve, hlen, removal_closes_sessions _ s hrun hremoved hserve⟩

/-- A packet is read before the socket is closed and its session stored after the map is drained:
the connection stays open for good. -/
theorem removal_leaves_session :
    ∃ s, runEvents step [.packet "10.1.0.1:4000", .getSession, .dial true, .cancel, .closeConn,
      .closeAll,
        .cleanupReturn, .setSession, .write true, .readError] initial = some s ∧
      s.removal = .removed ∧ s.serve = .returned ∧ s.cleaning = false ∧
      (∀ x ∈ s.made.values, x.upstreamOpen = false → x.pipe = .returned) ∧
      ∃ i x, s.made.lookup i = some x ∧ x.upstreamOpen = true := by
  have hrun : ∃ s, runEvents step [.packet "10.1.0.1:4000", .getSession, .dial true, .cancel,
    .closeConn,
      .closeAll, .cleanupReturn, .setSession, .write true, .readError] initial = some s ∧
      s.removal = .removed ∧ s.serve = .returned ∧ s.cleaning = false ∧
      s.made.values = [⟨"10.1.0.1:4000", true, .reading⟩] ∧
      s.made.lookup 0 = some ⟨"10.1.0.1:4000", true, .reading⟩ := ⟨_, rfl, rfl, rfl, rfl, rfl, rfl⟩
  obtain ⟨s, hrun, hremoved, hserve, hcleaning, hvalues, hmade⟩ := hrun
  refine ⟨s, hrun, hremoved, hserve, hcleaning, ?_, 0, _, hmade, rfl⟩
  rw [hvalues]
  decide

end ListenerState
end TunnelOperator
