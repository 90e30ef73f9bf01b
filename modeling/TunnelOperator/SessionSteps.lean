import TunnelOperator.ListenerRemoval

/-!
# What one step can do to the sessions

Every step of a listener, read once: sessions keep their client and their connection only moves
on, a new session is the one that `servePort` has just dialed, and an entry of the map is either
old or that session. `Linked` follows for every run, also for those in which a `pipeResponses`
deletes the entry of another session.
-/

namespace TunnelOperator
open Interaction

/-- `pipeResponses` has left its loop. -/
def PipePhase.ended : PipePhase → Bool
  | .failed | .closing | .returned => true
  | _ => false

/-- The session that `servePort` works with, and the client whose packet it holds. -/
def ServePhase.Uses : ServePhase → String → ℕ → Prop
  | .dialed c i, c', i' => c = c' ∧ i = i'
  | .writing c i, c', i' => c = c' ∧ i = i'
  | .failed c i, c', i' => c = c' ∧ i = i'
  | _, _, _ => False

namespace ListenerState

/-- How a session can differ after a step: its `pipeResponses` was started or has left its loop. -/
def SessionMoves (serve serve' : ServePhase) (i : ℕ) (x x' : Session) : Prop :=
  x'.clientAddr = x.clientAddr ∧ (x'.pipe = x.pipe ∨
    (∃ c, serve = .dialed c i ∧ serve' = .writing c i ∧ x'.pipe = .reading) ∨
    (x.pipe ≠ .unstarted ∧ x'.pipe.ended = true))

structure Moves (s s' : ListenerState) : Prop where
  kept : ∀ i x, s.made.lookup i = some x → ∃ x', s'.made.lookup i = some x' ∧
    SessionMoves s.serve s'.serve i x x'
  origin : ∀ i x', s'.made.lookup i = some x' →
    (∃ x, s.made.lookup i = some x) ∨ (i = s.next ∧ s'.next = s.next + 1)
  next : s.next ≤ s'.next
  sessions : ∀ k i, s'.sessions.lookup k = some i →
    s.sessions.lookup k = some i ∨ (s.serve = .dialed k i ∧ s'.serve = .writing k i)
  uses : ∀ c i, s'.serve.Uses c i → s.serve.Uses c i ∨ s.sessions.lookup c = some i ∨
    ∃ x, s'.made.lookup i = some x ∧ x.clientAddr = c
  dialed : ∀ c i, s'.serve = .dialed c i → s.serve = .dialed c i ∨
    ∃ x, s'.made.lookup i = some x ∧ x.clientAddr = c ∧ x.pipe = .unstarted

/-- The references of a listener: entries and `servePort` refer to sessions of their client. -/
structure Linked (s : ListenerState) : Prop where
  entry : ∀ k i, s.sessions.lookup k = some i → ∃ x, s.made.lookup i = some x ∧ x.clientAddr = k
  fresh : ∀ i x, s.made.lookup i = some x → i < s.next
  serving : ∀ c i, s.serve.Uses c i → ∃ x, s.made.lookup i = some x ∧ x.clientAddr = c
  dialed : ∀ c i, s.serve = .dialed c i → ∃ x, s.made.lookup i = some x ∧ x.clientAddr = c ∧
    x.pipe = .unstarted

section

variable {s s' : ListenerState} {i : ℕ} {f : Session → Session}

theorem SessionMoves.refl (serve serve' : ServePhase) (i : ℕ) (x : Session) :
    SessionMoves serve serve' i x x :=
  ⟨rfl, Or.inl rfl⟩

/-- A change of one session, the map and `servePort` as they were or with less. -/
theorem moves_onSession (hf : ∀ x, s.made.lookup i = some x →
    SessionMoves s.serve s'.serve i x (f x))
    (hmade : s'.made = (s.onSession i f).made) (hnext : s'.next = s.next)
    (hsessions : ∀ k j, s'.sessions.lookup k = some j →
      s.sessions.lookup k = some j ∨ (s.serve = .dialed k j ∧ s'.serve = .writing k j))
    (huses : ∀ c j, s'.serve.Uses c j → s.serve.Uses c j)
    (hdialed : ∀ c j, s'.serve = .dialed c j → s.serve = .dialed c j) : Moves s s' := by
  refine ⟨fun j x hx => ?_, fun j x' hx' => ?_, Nat.le_of_eq hnext.symm, hsessions, fun c j hu =>
    Or.inl (huses c j hu), fun c j hd => Or.inl (hdialed c j hd)⟩
  · rw [hmade, onSession_made]
    split_ifs with hj
    · subst hj
      exact ⟨f x, by rw [hx]; rfl, hf x hx⟩
    · exact ⟨x, hx, .refl _ _ _ _⟩
  · rw [hmade, onSession_made] at hx'
    split_ifs at hx'
    · obtain ⟨x, hx, -⟩ := Option.map_eq_some_iff.mp hx'
      exact Or.inl ⟨x, hx⟩
    · exact Or.inl ⟨x', hx'⟩

theorem moves_serve (hmade : s'.made = s.made) (hnext : s'.next = s.next)
    (hsessions : ∀ k j, s'.sessions.lookup k = some j → s.sessions.lookup k = some j)
    (huses : ∀ c j, s'.serve.Uses c j → s.serve.Uses c j ∨ s.sessions.lookup c = some j)
    (hdialed : ∀ c j, s'.serve = .dialed c j → s.serve = .dialed c j) : Moves s s' := by
  refine ⟨fun j x hx => ⟨x, by rw [hmade]; exact hx, .refl _ _ _ _⟩, fun j x hx =>
    Or.inl ⟨x, by rwa [hmade] at hx⟩,
    Nat.le_of_eq hnext.symm, fun k j hk => Or.inl (hsessions k j hk), fun c j hu => ?_,
      fun c j hd => Or.inl (hdialed c j hd)⟩
  exact (huses c j hu).imp_right Or.inl

theorem Moves.trans_same {s'' : ListenerState} (h : Moves s s') (hmade : s''.made = s'.made)
    (hnext : s''.next = s'.next) (hsessions : s''.sessions = s'.sessions)
    (hserve : s''.serve = s'.serve) :
    Moves s s'' := by
  refine ⟨fun j x hx => ?_, fun j x hx => ?_, ?_, fun k j hk => ?_, fun c j hu => ?_,
    fun c j hd => ?_⟩
  · rw [hmade, hserve]
    exact h.kept j x hx
  · rw [hnext]
    exact h.origin j x (hmade ▸ hx)
  · rw [hnext]
    exact h.next
  · rw [hserve]
    exact h.sessions k j (hsessions ▸ hk)
  · rw [hmade]
    exact h.uses c j (hserve ▸ hu)
  · rw [hmade]
    exact h.dialed c j (hserve ▸ hd)

theorem moves_cleanup (keys : List String) (s : ListenerState) : Moves s (s.cleanup keys) := by
  have hs := shrinks_cleanup keys s
  refine ⟨fun i x hx => ?_, fun i x hx => ?_, Nat.le_of_eq hs.next.symm, fun k i hk =>
    Or.inl (hs.sessions k i hk), fun c i hu => Or.inl (hs.serve ▸ hu), fun c i hd =>
      Or.inl (hs.serve ▸ hd)⟩
  · obtain ⟨x', hx', hc⟩ := hs.kept i x hx
    obtain ⟨y, hy, hp⟩ := cleanup_pipe keys hx'
    rw [hx] at hy
    cases hy
    exact ⟨x', hx', hc, Or.inl hp⟩
  · obtain ⟨y, hy, -⟩ := hs.origin i x hx
    exact Or.inl ⟨y, hy⟩

theorem moves_getSession (hstep : s.getSession = some s') : Moves s s' := by
  unfold getSession at hstep
  cases hserve : s.serve with
  | received c =>
      simp only [hserve] at hstep
      cases hl : s.sessions.lookup c with
      | some i =>
          simp only [hl, Option.some.injEq] at hstep
          subst hstep
          refine moves_serve rfl rfl (fun _ _ hk => hk) ?_ nofun
          rintro c' j ⟨rfl, rfl⟩
          exact Or.inr hl
      | none =>
          simp only [hl, Option.some.injEq] at hstep
          subst hstep
          exact moves_serve rfl rfl (fun _ _ hk => hk) nofun nofun
  | _ => simp [hserve] at hstep

theorem moves_dial {ok : Bool} (hlinked : s.Linked) (hstep : s.dial ok = some s') : Moves s s' := by
  unfold dial at hstep
  cases hserve : s.serve with
  | dialing c =>
      simp only [hserve] at hstep
      cases ok with
      | false =>
          cases hstep
          exact moves_serve rfl rfl (fun _ _ hk => hk) nofun nofun
      | true =>
          cases hstep
          have hmade : ∀ j, (s.made.insert s.next ⟨c, true, .unstarted⟩).lookup j =
              if j = s.next then some ⟨c, true, .unstarted⟩ else s.made.lookup j :=
            fun j => Table.lookup_insert_eq _ _ _ _
          refine ⟨fun j x hx => ?_, fun j x hx => ?_, Nat.le_succ _, fun _ _ hk => Or.inl hk, ?_,
            ?_⟩
          · rw [hmade, if_neg (Nat.ne_of_lt (hlinked.fresh j x hx))]
            exact ⟨x, hx, .refl _ _ _ _⟩
          · rw [hmade] at hx
            split_ifs at hx with hj
            · exact Or.inr ⟨hj, rfl⟩
            · exact Or.inl ⟨x, hx⟩
          · rintro c' j ⟨rfl, rfl⟩
            exact Or.inr (Or.inr ⟨_, (hmade _).trans (if_pos rfl), rfl⟩)
          · intro c' j hd
            cases hd
            exact Or.inr ⟨_, (hmade _).trans (if_pos rfl), rfl, rfl⟩
  | _ => simp [hserve] at hstep

theorem moves_setSession (hstep : s.setSession = some s') : Moves s s' := by
  unfold setSession at hstep
  cases hserve : s.serve with
  | dialed c i =>
      simp only [hserve, Option.some.injEq] at hstep
      subst hstep
      refine moves_onSession (i := i) (f := fun x => { x with pipe := .reading })
        (fun x _ => ⟨rfl, Or.inr (Or.inl ⟨c, hserve, rfl, rfl⟩)⟩) rfl
        (onSession_rest i _ s).2.1 (fun k j hk => ?_) ?_ nofun
      · change (s.sessions.insert c i).lookup k = some j at hk
        rw [Table.lookup_insert_eq] at hk
        split_ifs at hk with hkc
        · cases hk
          subst hkc
          exact Or.inr ⟨hserve, rfl⟩
        · exact Or.inl hk
      · rintro c' j ⟨rfl, rfl⟩
        rw [hserve]
        exact ⟨rfl, rfl⟩
  | _ => simp [hserve] at hstep

theorem moves_write {ok : Bool} (hstep : s.write ok = some s') : Moves s s' := by
  unfold write at hstep
  cases hserve : s.serve with
  | writing c i =>
      simp only [hserve] at hstep
      split_ifs at hstep
      · cases hstep
        refine moves_serve rfl rfl (fun _ _ hk => hk) ?_ nofun
        rintro c' j ⟨rfl, rfl⟩
        rw [hserve]
        exact Or.inl ⟨rfl, rfl⟩
      · cases hstep
        exact moves_serve rfl rfl (fun _ _ hk => hk) nofun nofun
  | _ => simp [hserve] at hstep

theorem moves_deleteFailed (hstep : s.deleteFailed = some s') : Moves s s' := by
  unfold deleteFailed at hstep
  cases hserve : s.serve with
  | failed c i =>
      simp only [hserve, Option.some.injEq] at hstep
      subst hstep
      refine moves_serve rfl rfl (fun k j hk => ?_) nofun nofun
      change (s.sessions.erase c).lookup k = some j at hk
      rw [Table.lookup_erase_eq] at hk
      split_ifs at hk
      exact hk
  | _ => simp [hserve] at hstep

theorem moves_closeFailed (hstep : s.closeFailed = some s') : Moves s s' := by
  unfold closeFailed at hstep
  cases hserve : s.serve with
  | closing i =>
      simp only [hserve, Option.some.injEq] at hstep
      subst hstep
      obtain ⟨hsessions, hnext, -⟩ := onSession_rest i (fun x => { x with upstreamOpen := false }) s
      refine moves_onSession (i := i) (f := fun x => { x with upstreamOpen := false })
        (fun x _ => ⟨rfl, Or.inl rfl⟩) rfl hnext (fun k j hk => Or.inl ?_) nofun nofun
      exact hsessions ▸ hk
  | _ => simp [hserve] at hstep

/-- The steps of `pipeResponses` change its own session, and may delete an entry. -/
theorem moves_pipe {x : Session} (hx : s.made.lookup i = some x) (hpipe : x.pipe ≠ .unstarted)
    (hf : ∀ y, (f y).clientAddr = y.clientAddr ∧ (f y).pipe.ended = true)
    (hmade : s'.made = (s.onSession i f).made) (hnext : s'.next = s.next)
    (hsessions : ∀ k j, s'.sessions.lookup k = some j → s.sessions.lookup k = some j)
    (hserve : s'.serve = s.serve) : Moves s s' := by
  refine moves_onSession (i := i) (f := f) (fun y hy => ?_) hmade hnext
    (fun k j hk => Or.inl (hsessions k j hk))
    (fun c j hu => hserve ▸ hu) fun c j hd => hserve ▸ hd
  rw [hx] at hy
  cases hy
  exact ⟨(hf x).1, Or.inr (Or.inr ⟨hpipe, (hf x).2⟩)⟩

theorem moves_pipeFail (hstep : s.pipeFail i = some s') : Moves s s' := by
  simp only [pipeFail, Option.bind_eq_bind, Option.bind_eq_some_iff] at hstep
  obtain ⟨x, hx, hstep⟩ := hstep
  split_ifs at hstep with hp
  cases hstep
  obtain ⟨hsessions, hnext, hserve, -⟩ := onSession_rest i (fun x => { x with pipe := .failed }) s
  exact moves_pipe (f := fun x => { x with pipe := .failed }) hx (by simp [hp])
    (fun _ => ⟨rfl, rfl⟩) rfl hnext (fun k j hk => hsessions ▸ hk) hserve

theorem moves_pipeDelete (hstep : s.pipeDelete i = some s') : Moves s s' := by
  simp only [pipeDelete, Option.bind_eq_bind, Option.bind_eq_some_iff] at hstep
  obtain ⟨x, hx, hstep⟩ := hstep
  split_ifs at hstep with hp
  cases hstep
  obtain ⟨-, hnext, hserve, -⟩ := onSession_rest i (fun x => { x with pipe := .closing }) s
  refine moves_pipe (f := fun x => { x with pipe := .closing }) hx (by simp [hp])
    (fun _ => ⟨rfl, rfl⟩) rfl hnext (fun k j hk => ?_) hserve
  change (s.sessions.erase x.clientAddr).lookup k = some j at hk
  rw [Table.lookup_erase_eq] at hk
  split_ifs at hk
  exact hk

theorem closeUpstream_setPipe (i : ℕ) (phase : PipePhase) (s : ListenerState) (j : ℕ) :
    ((s.closeUpstream i).setPipe i phase).made.lookup j =
      (s.onSession i fun x => { x with upstreamOpen := false, pipe := phase }).made.lookup j := by
  rw [setPipe_made, closeUpstream_made, onSession_made]
  split_ifs
  · rw [Option.map_map]
    rfl
  · rfl

theorem moves_pipeClose (hstep : s.pipeClose i = some s') : Moves s s' := by
  have hshrinks := shrinks_pipeClose hstep
  simp only [pipeClose, Option.bind_eq_bind, Option.bind_eq_some_iff] at hstep
  obtain ⟨x, hx, hstep⟩ := hstep
  split_ifs at hstep with hp
  cases hstep
  refine ⟨fun j y hy => ?_, fun j y hy => ?_, Nat.le_of_eq hshrinks.next.symm, fun k j hk =>
    Or.inl (hshrinks.sessions k j hk), fun c j hu => Or.inl (hshrinks.serve ▸ hu), fun c j hd =>
      Or.inl (hshrinks.serve ▸ hd)⟩
  · rw [closeUpstream_setPipe, onSession_made]
    split_ifs with hj
    · subst hj
      rw [hx] at hy
      cases hy
      refine ⟨{ x with upstreamOpen := false, pipe := .returned }, by
        rw [hx]; rfl, rfl, Or.inr (Or.inr ⟨?_, rfl⟩)⟩
      simp [hp]
    · exact ⟨y, hy, .refl _ _ _ _⟩
  · obtain ⟨z, hz, -⟩ := hshrinks.origin j y hy
    exact Or.inl ⟨z, hz⟩

theorem step_moves {e : SessionEvent} (hlinked : s.Linked) (hstep : step e s = some s') :
    Moves s s' := by
  cases e with
  | packet c =>
      simp only [step, packet] at hstep
      split_ifs at hstep
      cases hstep
      exact moves_serve rfl rfl (fun _ _ hk => hk) (fun _ _ hu => by cases hu) (fun _ _ hd => by
        cases hd)
  | readError =>
      simp only [step, readError] at hstep
      split_ifs at hstep <;> cases hstep <;>
        exact moves_serve rfl rfl (fun _ _ hk => hk) (fun _ _ hu => by cases hu) (fun _ _ hd => by
          cases hd)
  | getSession => exact moves_getSession hstep
  | dial ok => exact moves_dial hlinked hstep
  | setSession => exact moves_setSession hstep
  | write ok => exact moves_write hstep
  | deleteFailed => exact moves_deleteFailed hstep
  | closeFailed => exact moves_closeFailed hstep
  | pipeFail i => exact moves_pipeFail hstep
  | pipeDelete i => exact moves_pipeDelete hstep
  | pipeClose i => exact moves_pipeClose hstep
  | cleanupIdle idle =>
      simp only [step] at hstep
      split_ifs at hstep
      cases hstep
      exact moves_cleanup idle s
  | cleanupReturn | cancel | closeConn =>
      simp only [step] at hstep
      split_ifs at hstep
      cases hstep
      exact moves_serve rfl rfl (fun _ _ hk => hk) (fun _ _ hu => Or.inl hu) fun _ _ hd => hd
  | closeAll =>
      simp only [step] at hstep
      split_ifs at hstep
      cases hstep
      exact (moves_cleanup s.sessions.keys s).trans_same rfl rfl rfl rfl

theorem linked_initial : initial.Linked :=
  ⟨fun _ _ h => (by cases h), fun _ _ h => (by cases h), nofun, nofun⟩

theorem Linked.step {e : SessionEvent} (h : s.Linked) (hstep : ListenerState.step e s = some s') :
    s'.Linked := by
  have hm := step_moves h hstep
  have hkept : ∀ {c j}, (∃ x, s.made.lookup j = some x ∧ x.clientAddr = c) →
      ∃ x, s'.made.lookup j = some x ∧ x.clientAddr = c := by
    rintro c j ⟨x, hx, hc⟩
    obtain ⟨x', hx', hsame, -⟩ := hm.kept j x hx
    exact ⟨x', hx', hsame.trans hc⟩
  refine ⟨fun k j hk => ?_, fun j x hx => ?_, fun c j hu => ?_, fun c j hd => ?_⟩
  · rcases hm.sessions k j hk with hold | ⟨hd, -⟩
    · exact hkept (h.entry k j hold)
    · obtain ⟨x, hx, hc, -⟩ := h.dialed k j hd
      exact hkept ⟨x, hx, hc⟩
  · rcases hm.origin j x hx with ⟨y, hy⟩ | ⟨rfl, hnext⟩
    · exact Nat.lt_of_lt_of_le (h.fresh j y hy) hm.next
    · omega
  · rcases hm.uses c j hu with hold | hentry | hnew
    · exact hkept (h.serving c j hold)
    · exact hkept (h.entry c j hentry)
    · exact hnew
  · rcases hm.dialed c j hd with hold | hnew
    · obtain ⟨x, hx, hc, hp⟩ := h.dialed c j hold
      obtain ⟨x', hx', hsame, hpipe⟩ := hm.kept j x hx
      refine ⟨x', hx', hsame.trans hc, ?_⟩
      rcases hpipe with hpipe | ⟨c', -, hwriting, -⟩ | ⟨hstarted, -⟩
      · exact hpipe.trans hp
      · rw [hd] at hwriting
        cases hwriting
      · exact absurd hp hstarted
    · exact hnew

/-- The `pipeResponses` of the session has left its loop, which it enters once. -/
def Ended (i : ℕ) (s : ListenerState) : Prop := ∃ x, s.made.lookup i = some x ∧ x.pipe.ended = true

theorem Ended.step {e : SessionEvent} (hi : s.Ended i) (h : s.Linked)
    (hstep : ListenerState.step e s = some s') :
    s'.Ended i := by
  obtain ⟨x, hx, hended⟩ := hi
  obtain ⟨x', hx', -, hpipe⟩ := (step_moves h hstep).kept i x hx
  refine ⟨x', hx', ?_⟩
  rcases hpipe with hpipe | ⟨c, hdialed, -⟩ | ⟨-, hpipe⟩
  · rw [hpipe]
    exact hended
  · obtain ⟨y, hy, -, hunstarted⟩ := h.dialed c i hdialed
    rw [hx] at hy
    cases hy
    rw [hunstarted] at hended
    cases hended
  · exact hpipe

theorem ended_pipeFail (hstep : s.pipeFail i = some s') : s'.Ended i := by
  simp only [pipeFail, Option.bind_eq_bind, Option.bind_eq_some_iff] at hstep
  obtain ⟨x, hx, hstep⟩ := hstep
  split_ifs at hstep
  cases hstep
  refine ⟨{ x with pipe := .failed }, ?_, rfl⟩
  rw [setPipe_made, if_pos rfl, hx]
  rfl

end
end ListenerState
end TunnelOperator
