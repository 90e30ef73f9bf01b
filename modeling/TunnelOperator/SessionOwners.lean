import TunnelOperator.Sessions

/-!
# Orphaned sessions

A session with an open connection should be the one stored under its client. It may be out of
the map for a moment, while `servePort` is about to store or to close it or its `pipeResponses`
is about to close it. That is all as long as `pipeResponses` only ever deletes its own entry; but
it deletes by key, and a client that keeps sending may have a new session under that key.
-/

namespace TunnelOperator
open Interaction

/-- What the phase of `servePort` says about the sessions. -/
def ServePhase.Fits (serve : ServePhase) (s : ListenerState) : Prop :=
  match serve with
  | .dialing c => s.sessions.lookup c = none
  | .dialed c i => s.sessions.lookup c = none ∧ ∃ x, s.made.lookup i = some x ∧ x.clientAddr = c
  | .writing c i => (∃ x, s.made.lookup i = some x ∧ x.clientAddr = c) ∧
      ∀ j, s.sessions.lookup c = some j → j = i
  | .failed c i => (∃ x, s.made.lookup i = some x ∧ x.clientAddr = c) ∧
      ∀ j, s.sessions.lookup c = some j → j = i
  | _ => True

/-- The session that `servePort` is about to store or to close. -/
def ServePhase.Holds : ServePhase → ℕ → Prop
  | .dialed _ j, i => j = i
  | .closing j, i => j = i
  | _, _ => False

def SessionEvent.deletes : SessionEvent → Option ℕ
  | .pipeDelete i => some i
  | _ => none

namespace ListenerState

/-- A `pipeResponses` that deletes the key of its client finds its own session there or none. -/
def OwnDelete (e : SessionEvent) (s : ListenerState) : Prop :=
  ∀ i ∈ e.deletes, ∀ x ∈ s.made.lookup i, ∀ j ∈ s.sessions.lookup x.clientAddr, j = i

instance (e : SessionEvent) (s : ListenerState) : Decidable (OwnDelete e s) :=
  inferInstanceAs (Decidable (∀ i ∈ e.deletes, ∀ x ∈ s.made.lookup i,
    ∀ j ∈ s.sessions.lookup x.clientAddr, j = i))

structure Owned (s : ListenerState) : Prop where
  entry : ∀ k i, s.sessions.lookup k = some i → ∃ x, s.made.lookup i = some x ∧ x.clientAddr = k
  fresh : ∀ i x, s.made.lookup i = some x → i < s.next
  serving : s.serve.Fits s
  held : ∀ i x, s.made.lookup i = some x → x.upstreamOpen = true →
    s.Stored i x ∨ x.pipe = .closing ∨ s.serve.Holds i

section Steps

variable {s s' : ListenerState} {i : ℕ} {f : Session → Session}

theorem onSession_made (i : ℕ) (f : Session → Session) (s : ListenerState) (j : ℕ) :
    (s.onSession i f).made.lookup j =
      if j = i then (s.made.lookup j).map f else s.made.lookup j := by
  unfold onSession
  cases hi : s.made.lookup i with
  | none =>
      split_ifs with hj
      · rw [hj, hi]
        rfl
      · rfl
  | some x =>
      simp only [Table.lookup_insert_eq]
      split_ifs with hj
      · rw [hj, hi]
        rfl
      · rfl

theorem onSession_rest (i : ℕ) (f : Session → Session) (s : ListenerState) :
    (s.onSession i f).sessions = s.sessions ∧ (s.onSession i f).next = s.next ∧
      (s.onSession i f).serve = s.serve ∧ (s.onSession i f).removal = s.removal := by
  unfold onSession
  cases s.made.lookup i with
  | none => exact ⟨rfl, rfl, rfl, rfl⟩
  | some x => exact ⟨rfl, rfl, rfl, rfl⟩

/-- What the other goroutines do to `servePort`: entries disappear, connections close, and the
sessions keep their clients. -/
structure Shrinks (s s' : ListenerState) : Prop where
  sessions : ∀ k i, s'.sessions.lookup k = some i → s.sessions.lookup k = some i
  origin : ∀ i x', s'.made.lookup i = some x' → ∃ x, s.made.lookup i = some x ∧
    x'.clientAddr = x.clientAddr ∧ (x'.upstreamOpen = true → x.upstreamOpen = true)
  kept : ∀ i x, s.made.lookup i = some x → ∃ x', s'.made.lookup i = some x' ∧
    x'.clientAddr = x.clientAddr
  next : s'.next = s.next
  serve : s'.serve = s.serve

theorem Shrinks.trans {s'' : ListenerState} (h : Shrinks s s') (h' : Shrinks s' s'') :
    Shrinks s s'' := by
  refine ⟨fun k i hk => h.sessions k i (h'.sessions k i hk), fun i x'' hx'' => ?_, fun i x hx => ?_,
    h'.next.trans h.next, h'.serve.trans h.serve⟩
  · obtain ⟨x', hx', hclient', hopen'⟩ := h'.origin i x'' hx''
    obtain ⟨x, hx, hclient, hopen⟩ := h.origin i x' hx'
    exact ⟨x, hx, hclient'.trans hclient, fun ho => hopen (hopen' ho)⟩
  · obtain ⟨x', hx', hclient⟩ := h.kept i x hx
    obtain ⟨x'', hx'', hclient'⟩ := h'.kept i x' hx'
    exact ⟨x'', hx'', hclient'.trans hclient⟩

theorem Shrinks.fits {serve : ServePhase} (h : Shrinks s s') (hf : serve.Fits s) :
    serve.Fits s' := by
  have hnone : ∀ c, s.sessions.lookup c = none → s'.sessions.lookup c = none := by
    intro c hc
    cases hl : s'.sessions.lookup c with
    | none => rfl
    | some i =>
        rw [h.sessions c i hl] at hc
        cases hc
  have hmade : ∀ {c i}, (∃ x, s.made.lookup i = some x ∧ x.clientAddr = c) →
      ∃ x, s'.made.lookup i = some x ∧ x.clientAddr = c := by
    rintro c i ⟨x, hx, hc⟩
    obtain ⟨x', hx', hsame⟩ := h.kept i x hx
    exact ⟨x', hx', hsame.trans hc⟩
  cases serve with
  | reading => trivial
  | received c => trivial
  | dialing c => exact hnone c hf
  | dialed c i => exact ⟨hnone c hf.1, hmade hf.2⟩
  | writing c i => exact ⟨hmade hf.1, fun j hj => hf.2 j (h.sessions c j hj)⟩
  | failed c i => exact ⟨hmade hf.1, fun j hj => hf.2 j (h.sessions c j hj)⟩
  | closing i => trivial
  | returned => trivial

theorem Owned.shrinks (h : s.Owned) (hs : Shrinks s s')
    (hheld : ∀ i x', s'.made.lookup i = some x' → x'.upstreamOpen = true →
      s'.Stored i x' ∨ x'.pipe = .closing ∨ s.serve.Holds i) : s'.Owned := by
  refine ⟨fun k i hk => ?_, fun i x' hx' => ?_, ?_, fun i x' hx' ho => ?_⟩
  · obtain ⟨x, hx, hc⟩ := h.entry k i (hs.sessions k i hk)
    obtain ⟨x', hx', hsame⟩ := hs.kept i x hx
    exact ⟨x', hx', hsame.trans hc⟩
  · obtain ⟨x, hx, -⟩ := hs.origin i x' hx'
    rw [hs.next]
    exact h.fresh i x hx
  · rw [hs.serve]
    exact hs.fits h.serving
  · rw [hs.serve]
    exact hheld i x' hx' ho

theorem shrinks_onSession (i : ℕ) (hclient : ∀ x, (f x).clientAddr = x.clientAddr)
    (hopen : ∀ x, (f x).upstreamOpen = true → x.upstreamOpen = true) (s : ListenerState) :
    Shrinks s (s.onSession i f) := by
  obtain ⟨hsessions, hnext, hserve, -⟩ := onSession_rest i f s
  refine ⟨fun k j hk => by
    rw [hsessions] at hk; exact hk, fun j x' hx' => ?_, fun j x hx => ?_, hnext, hserve⟩
  · rw [onSession_made] at hx'
    split_ifs at hx'
    · obtain ⟨x, hx, rfl⟩ := Option.map_eq_some_iff.mp hx'
      exact ⟨x, hx, hclient x, hopen x⟩
    · exact ⟨x', hx', rfl, id⟩
  · rw [onSession_made]
    split_ifs
    · exact ⟨f x, by rw [hx]; rfl, hclient x⟩
    · exact ⟨x, hx, rfl⟩

theorem shrinks_closeUpstream (i : ℕ) (s : ListenerState) : Shrinks s (s.closeUpstream i) := by
  apply shrinks_onSession
  · intro x
    rfl
  · intro x h
    cases h

theorem shrinks_setPipe (i : ℕ) (phase : PipePhase) (s : ListenerState) :
    Shrinks s (s.setPipe i phase) := by
  apply shrinks_onSession
  · intro x
    rfl
  · intro x h
    exact h

theorem Shrinks.erase (h : Shrinks s s') (key : String) :
    Shrinks s { s' with sessions := s.sessions.erase key } := by
  refine ⟨fun k i hk => ?_, h.origin, h.kept, h.next, h.serve⟩
  rw [Table.lookup_erase_eq] at hk
  split_ifs at hk
  exact hk

theorem closeUpstream_made (i : ℕ) (s : ListenerState) (j : ℕ) :
    (s.closeUpstream i).made.lookup j =
      if j = i then (s.made.lookup j).map (fun x => { x with upstreamOpen := false })
        else s.made.lookup j :=
  onSession_made i _ s j

theorem setPipe_made (i : ℕ) (phase : PipePhase) (s : ListenerState) (j : ℕ) :
    (s.setPipe i phase).made.lookup j =
      if j = i then (s.made.lookup j).map (fun x => { x with pipe := phase })
        else s.made.lookup j :=
  onSession_made i _ s j

theorem closeUpstream_open {j : ℕ} {x : Session} (hx : (s.closeUpstream i).made.lookup j = some x)
    (ho : x.upstreamOpen = true) : j ≠ i ∧ s.made.lookup j = some x := by
  rw [closeUpstream_made] at hx
  split_ifs at hx with hj
  · obtain ⟨y, -, rfl⟩ := Option.map_eq_some_iff.mp hx
    cases ho
  · exact ⟨hj, hx⟩

theorem Owned.dropSession (h : s.Owned) (key : String) : (s.dropSession key).Owned := by
  unfold ListenerState.dropSession
  cases hk : s.sessions.lookup key with
  | none => exact h
  | some i =>
      apply h.shrinks ((shrinks_closeUpstream i s).erase key)
      intro j x hx ho
      obtain ⟨hj, hx⟩ := closeUpstream_open hx ho
      refine (h.held j x hx ho).imp_left fun hstored => ?_
      -- another session cannot be stored under the key that is dropped
      have hne : x.clientAddr ≠ key := by
        intro he
        rw [Stored, he, hk] at hstored
        exact hj (Option.some.inj hstored).symm
      rw [Stored, Table.lookup_erase_eq, if_neg hne]
      exact hstored

theorem Owned.cleanup (h : s.Owned) (keys : List String) : (s.cleanup keys).Owned := by
  unfold ListenerState.cleanup
  induction keys generalizing s with
  | nil => exact h
  | cons key keys ih => exact ih (h.dropSession key)

theorem Owned.pipeFail (h : s.Owned) (hstep : s.pipeFail i = some s') : s'.Owned := by
  simp only [ListenerState.pipeFail, Option.bind_eq_bind, Option.bind_eq_some_iff] at hstep
  obtain ⟨y, hy, hstep⟩ := hstep
  split_ifs at hstep with hp
  cases hstep
  apply h.shrinks (shrinks_setPipe i .failed s)
  intro j x hx ho
  rw [setPipe_made] at hx
  have hsessions : (s.setPipe i .failed).sessions = s.sessions := (onSession_rest i _ s).1
  rw [Stored, hsessions]
  split_ifs at hx with hj
  · subst hj
    rw [hy] at hx
    cases hx
    refine (h.held j y hy ho).imp id fun hrest => ?_
    rw [hp] at hrest
    exact Or.inr (hrest.resolve_left (by simp))
  · exact h.held j x hx ho

theorem Owned.pipeDelete (h : s.Owned) (hown : OwnDelete (.pipeDelete i) s)
    (hstep : s.pipeDelete i = some s') : s'.Owned := by
  simp only [ListenerState.pipeDelete, Option.bind_eq_bind, Option.bind_eq_some_iff] at hstep
  obtain ⟨y, hy, hstep⟩ := hstep
  split_ifs at hstep with hp
  cases hstep
  apply h.shrinks ((shrinks_setPipe i .closing s).erase y.clientAddr)
  intro j x hx ho
  change (s.setPipe i .closing).made.lookup j = some x at hx
  rw [setPipe_made] at hx
  split_ifs at hx with hj
  · subst hj
    rw [hy] at hx
    cases hx
    exact Or.inr (Or.inl rfl)
  · refine (h.held j x hx ho).imp_left fun hstored => ?_
    have hne : x.clientAddr ≠ y.clientAddr := by
      intro he
      rw [Stored, he] at hstored
      exact hj (hown i rfl y hy j hstored)
    rw [Stored, Table.lookup_erase_eq, if_neg hne]
    exact hstored

theorem Owned.pipeClose (h : s.Owned) (hstep : s.pipeClose i = some s') : s'.Owned := by
  simp only [ListenerState.pipeClose, Option.bind_eq_bind, Option.bind_eq_some_iff] at hstep
  obtain ⟨y, hy, hstep⟩ := hstep
  split_ifs at hstep with hp
  cases hstep
  have hsessions : ((s.closeUpstream i).setPipe i .returned).sessions = s.sessions :=
    (onSession_rest i _ _).1.trans (onSession_rest i _ s).1
  have hclosed : ∀ {j x}, ((s.closeUpstream i).setPipe i .returned).made.lookup j = some x →
      x.upstreamOpen = true → j ≠ i ∧ s.made.lookup j = some x := by
    intro j x hx ho
    rw [setPipe_made] at hx
    split_ifs at hx with hj
    · obtain ⟨z, hz, rfl⟩ := Option.map_eq_some_iff.mp hx
      exact absurd hj (closeUpstream_open hz ho).1
    · exact closeUpstream_open hx ho
  apply h.shrinks ((shrinks_closeUpstream i s).trans (shrinks_setPipe i .returned _))
  intro j x hx ho
  obtain ⟨-, hx⟩ := hclosed hx ho
  rw [Stored, hsessions]
  exact h.held j x hx ho

theorem Owned.serve {serve : ServePhase} (h : s.Owned) (hholds : ∀ i, ¬ s.serve.Holds i)
    (hfits : serve.Fits s) : ({ s with serve := serve } : ListenerState).Owned := by
  refine ⟨h.entry, h.fresh, ?_, fun i x hx ho =>
    (h.held i x hx ho).imp_right (·.imp_right fun hf => absurd hf (hholds i))⟩
  cases serve <;> exact hfits

theorem Owned.packet {c : String} (h : s.Owned) (hstep : s.packet c = some s') : s'.Owned := by
  unfold ListenerState.packet at hstep
  split_ifs at hstep with hg
  cases hstep
  refine h.serve (fun i hf => ?_) trivial
  rw [hg.1] at hf
  exact hf

theorem Owned.readError (h : s.Owned) (hstep : s.readError = some s') : s'.Owned := by
  unfold ListenerState.readError at hstep
  by_cases hg : s.serve = .reading
  · rw [if_pos hg] at hstep
    cases hstep
    refine h.serve (fun i hf => ?_) ?_
    · rw [hg] at hf
      exact hf
    · split_ifs
      · trivial
      · trivial
  · rw [if_neg hg] at hstep
    cases hstep

theorem Owned.getSession (h : s.Owned) (hstep : s.getSession = some s') : s'.Owned := by
  unfold ListenerState.getSession at hstep
  cases hserve : s.serve with
  | received c =>
      have hholds : ∀ i, ¬ s.serve.Holds i := by
        rw [hserve]
        exact fun _ hf => hf
      simp only [hserve] at hstep
      cases hl : s.sessions.lookup c with
      | some j =>
          simp only [hl, Option.some.injEq] at hstep
          subst hstep
          refine h.serve hholds ⟨h.entry c j hl, fun i hi => ?_⟩
          rw [hl] at hi
          exact (Option.some.inj hi).symm
      | none =>
          simp only [hl, Option.some.injEq] at hstep
          subst hstep
          exact h.serve hholds hl
  | _ => simp [hserve] at hstep

theorem Owned.dial {ok : Bool} (h : s.Owned) (hstep : s.dial ok = some s') : s'.Owned := by
  unfold ListenerState.dial at hstep
  cases hserve : s.serve with
  | dialing c =>
      have hfits := h.serving
      rw [hserve] at hfits
      simp only [hserve] at hstep
      cases ok with
      | false =>
          cases hstep
          refine h.serve (fun i hf => ?_) trivial
          rw [hserve] at hf
          exact hf
      | true =>
          cases hstep
          have hmade : ∀ j, (s.made.insert s.next ⟨c, true, .unstarted⟩).lookup j =
              if j = s.next then some ⟨c, true, .unstarted⟩ else s.made.lookup j :=
            fun j => Table.lookup_insert_eq _ _ _ _
          have hold : ∀ {i x}, s.made.lookup i = some x → i ≠ s.next := by
            intro i x hx he
            exact absurd (h.fresh i x hx) (by omega)
          refine ⟨fun k i hk => ?_, fun i x hx => ?_, ?_, fun i x hx ho => ?_⟩
          · obtain ⟨x, hx, hc⟩ := h.entry k i hk
            exact ⟨x, by rw [hmade, if_neg (hold hx), hx], hc⟩
          · rw [hmade] at hx
            split_ifs at hx with hi
            · rw [hi]
              exact Nat.lt_succ_self _
            · exact Nat.lt_succ_of_lt (h.fresh i x hx)
          · exact ⟨hfits, _, (hmade _).trans (if_pos rfl), rfl⟩
          · rw [hmade] at hx
            split_ifs at hx with hi
            · exact Or.inr (Or.inr hi.symm)
            · have hrest := h.held i x hx ho
              rw [hserve] at hrest
              exact hrest.imp_right (·.imp_right fun hf => absurd hf id)
  | _ => simp [hserve] at hstep

theorem Owned.setSession (h : s.Owned) (hstep : s.setSession = some s') : s'.Owned := by
  unfold ListenerState.setSession at hstep
  cases hserve : s.serve with
  | dialed c i =>
      have hfits := h.serving
      rw [hserve] at hfits
      obtain ⟨hnone, y, hy, hyc⟩ := hfits
      simp only [hserve, Option.some.injEq] at hstep
      subst hstep
      have hsessions : ∀ k, (s.sessions.insert c i).lookup k = if k = c then some i
          else s.sessions.lookup k :=
        fun k => Table.lookup_insert_eq _ _ _ _
      have hkept := (shrinks_setPipe i .reading s).kept
      refine ⟨fun k j hk => ?_, fun j x hx => ?_, ?_, fun j x hx ho => ?_⟩
      · rw [hsessions] at hk
        split_ifs at hk with hkc
        · cases hk
          obtain ⟨x, hx, hc⟩ := hkept i y hy
          exact ⟨x, hx, hc.trans (hyc.trans hkc.symm)⟩
        · obtain ⟨x, hx, hc⟩ := h.entry k j hk
          obtain ⟨x', hx', hc'⟩ := hkept j x hx
          exact ⟨x', hx', hc'.trans hc⟩
      · obtain ⟨x₀, hx₀, -⟩ := (shrinks_setPipe i .reading s).origin j x hx
        have hnext : (s.setPipe i .reading).next = s.next := (onSession_rest i _ s).2.1
        change j < (s.setPipe i .reading).next
        rw [hnext]
        exact h.fresh j x₀ hx₀
      · obtain ⟨x, hx, hc⟩ := hkept i y hy
        refine ⟨⟨x, hx, hc.trans hyc⟩, fun j hj => ?_⟩
        rw [hsessions, if_pos rfl] at hj
        exact (Option.some.inj hj).symm
      · change (s.setPipe i .reading).made.lookup j = some x at hx
        rw [setPipe_made] at hx
        split_ifs at hx with hj
        · subst hj
          rw [hy] at hx
          cases hx
          refine Or.inl ?_
          rw [Stored, hsessions, if_pos hyc]
        · have hrest := h.held j x hx ho
          rw [hserve] at hrest
          rcases hrest with hstored | hclosing | hholds
          · refine Or.inl ?_
            have hne : x.clientAddr ≠ c := by
              intro he
              rw [Stored, he, hnone] at hstored
              cases hstored
            rw [Stored, hsessions, if_neg hne]
            exact hstored
          · exact Or.inr (Or.inl hclosing)
          · exact absurd hholds.symm hj
  | _ => simp [hserve] at hstep

theorem Owned.write {ok : Bool} (h : s.Owned) (hstep : s.write ok = some s') : s'.Owned := by
  unfold ListenerState.write at hstep
  cases hserve : s.serve with
  | writing c i =>
      have hfits := h.serving
      rw [hserve] at hfits
      have hholds : ∀ i, ¬ s.serve.Holds i := by
        rw [hserve]
        exact fun _ hf => hf
      simp only [hserve] at hstep
      split_ifs at hstep
      · cases hstep
        exact h.serve hholds hfits
      · cases hstep
        exact h.serve hholds trivial
  | _ => simp [hserve] at hstep

theorem Owned.deleteFailed (h : s.Owned) (hstep : s.deleteFailed = some s') : s'.Owned := by
  unfold ListenerState.deleteFailed at hstep
  cases hserve : s.serve with
  | failed c i =>
      have hfits := h.serving
      rw [hserve] at hfits
      simp only [hserve, Option.some.injEq] at hstep
      subst hstep
      have hsessions : ∀ k, (s.sessions.erase c).lookup k = if k = c
          then none else s.sessions.lookup k :=
        fun k => Table.lookup_erase_eq _ _ _
      refine ⟨fun k j hk => ?_, h.fresh, trivial, fun j x hx ho => ?_⟩
      · rw [hsessions] at hk
        split_ifs at hk
        exact h.entry k j hk
      · by_cases hj : j = i
        · exact Or.inr (Or.inr hj.symm)
        · have hrest := h.held j x hx ho
          rw [hserve] at hrest
          rcases hrest with hstored | hclosing | hholds
          · refine Or.inl ?_
            have hne : x.clientAddr ≠ c := by
              intro he
              rw [Stored, he] at hstored
              exact hj (hfits.2 j hstored)
            rw [Stored, hsessions, if_neg hne]
            exact hstored
          · exact Or.inr (Or.inl hclosing)
          · exact absurd hholds id
  | _ => simp [hserve] at hstep

theorem Owned.closeFailed (h : s.Owned) (hstep : s.closeFailed = some s') : s'.Owned := by
  unfold ListenerState.closeFailed at hstep
  cases hserve : s.serve with
  | closing i =>
      simp only [hserve, Option.some.injEq] at hstep
      subst hstep
      have hsessions : (s.closeUpstream i).sessions = s.sessions := (onSession_rest i _ s).1
      have hclosed : (s.closeUpstream i).Owned := by
        apply h.shrinks (shrinks_closeUpstream i s)
        intro j x hx ho
        obtain ⟨-, hx⟩ := closeUpstream_open hx ho
        rw [Stored, hsessions]
        exact h.held j x hx ho
      refine ⟨hclosed.entry, hclosed.fresh, trivial, fun j x hx ho => ?_⟩
      obtain ⟨hj, hx⟩ := closeUpstream_open hx ho
      have hrest := h.held j x hx ho
      rw [hserve] at hrest
      rcases hrest with hstored | hclosing | hholds
      · refine Or.inl ?_
        rw [Stored, hsessions]
        exact hstored
      · exact Or.inr (Or.inl hclosing)
      · exact absurd hholds.symm hj
  | _ => simp [hserve] at hstep

theorem owned_step (e : SessionEvent) (h : s.Owned) (hown : OwnDelete e s)
    (hstep : step e s = some s') :
    s'.Owned := by
  cases e with
  | packet c => exact h.packet hstep
  | readError => exact h.readError hstep
  | getSession => exact h.getSession hstep
  | dial ok => exact h.dial hstep
  | setSession => exact h.setSession hstep
  | write ok => exact h.write hstep
  | deleteFailed => exact h.deleteFailed hstep
  | closeFailed => exact h.closeFailed hstep
  | pipeFail i => exact h.pipeFail hstep
  | pipeDelete i => exact h.pipeDelete hown hstep
  | pipeClose i => exact h.pipeClose hstep
  | cleanupIdle idle =>
      simp only [step] at hstep
      split_ifs at hstep
      cases hstep
      exact h.cleanup idle
  | cleanupReturn =>
      simp only [step] at hstep
      split_ifs at hstep
      cases hstep
      exact ⟨h.entry, h.fresh, h.serving, h.held⟩
  | cancel =>
      simp only [step] at hstep
      split_ifs at hstep
      cases hstep
      exact ⟨h.entry, h.fresh, h.serving, h.held⟩
  | closeConn =>
      simp only [step] at hstep
      split_ifs at hstep
      cases hstep
      exact ⟨h.entry, h.fresh, h.serving, h.held⟩
  | closeAll =>
      simp only [step] at hstep
      split_ifs at hstep
      cases hstep
      have hc := h.cleanup s.sessions.keys
      exact ⟨hc.entry, hc.fresh, hc.serving, hc.held⟩

end Steps

theorem owned_initial : initial.Owned where
  entry := by
    intro k i h
    cases h
  fresh := by
    intro i x h
    cases h
  serving := trivial
  held := by
    intro i x h
    cases h

/-- As long as every `pipeResponses` deletes only its own entry, a session with an open
connection is the one stored under its client whenever no goroutine is in the middle of a packet
or of its return, and so a client has at most one. -/
theorem open_sessions_stored (events : List SessionEvent) (s : ListenerState)
    (hrun : runEvents (restrict OwnDelete step) events initial = some s) (hserve : s.ServeIdle)
    (hpipes : s.PipesIdle) :
    (∀ i x, s.made.lookup i = some x → x.upstreamOpen = true → s.Stored i x) ∧
      ∀ i j x y, s.made.lookup i = some x → s.made.lookup j = some y → x.upstreamOpen = true →
        y.upstreamOpen = true → x.clientAddr = y.clientAddr → i = j := by
  have howned : s.Owned := by
    refine runEvents_invariant (fun e s s' h hstep => ?_) owned_initial hrun
    obtain ⟨hown, hstep⟩ := restrict_eq_some.mp hstep
    exact owned_step e h hown hstep
  have hstored : ∀ i x, s.made.lookup i = some x → x.upstreamOpen = true → s.Stored i x := by
    intro i x hx ho
    rcases howned.held i x hx ho with hstored | hclosing | hholds
    · exact hstored
    · exact absurd hclosing (hpipes x ((Table.mem_values_iff _ _).mpr ⟨i, hx⟩)).2
    · cases hserve with
      | inl hr =>
          rw [hr] at hholds
          exact absurd hholds id
      | inr hr =>
          rw [hr] at hholds
          exact absurd hholds id
  refine ⟨hstored, fun i j x y hx hy hox hoy hc => ?_⟩
  have hi := hstored i x hx hox
  rw [Stored, hc, hstored j y hy hoy] at hi
  exact (Option.some.inj hi).symm

/-- A packet of the client is forwarded on a session of its own. -/
def serveClient : List SessionEvent :=
  [.packet "10.1.0.1:4000", .getSession, .dial true, .setSession, .write true]

theorem open_sessions_stored_resumed :
    ∃ s, runEvents (restrict OwnDelete step)
        (serveClient ++ [.pipeFail 0, .pipeDelete 0, .pipeClose 0] ++ serveClient) initial =
          some s ∧
      s.ServeIdle ∧ s.PipesIdle ∧ s.made.lookup 1 = some ⟨"10.1.0.1:4000", true, .reading⟩ ∧
      s.Stored 1 ⟨"10.1.0.1:4000", true, .reading⟩ := by
  have hrun : ∃ s, runEvents (restrict OwnDelete step)
      (serveClient ++ [.pipeFail 0, .pipeDelete 0, .pipeClose 0] ++ serveClient) initial = some s ∧
      s.serve = .reading ∧ decide s.PipesIdle = true ∧
      s.made.lookup 1 = some ⟨"10.1.0.1:4000", true, .reading⟩ := ⟨_, rfl, rfl, rfl, rfl⟩
  obtain ⟨s, hrun, hserve, hpipes, hmade⟩ := hrun
  have hpipes := of_decide_eq_true hpipes
  exact ⟨s, hrun, Or.inl hserve, hpipes, hmade,
    (open_sessions_stored _ s hrun (Or.inl hserve) hpipes).1 1 _ hmade rfl⟩

/-- An idle session is closed, the client sends again, and the `pipeResponses` of the closed session
deletes the entry of the new one: its connection stays open where nothing can find it. -/
theorem open_session_orphaned :
    ∃ s, runEvents step (serveClient ++ [.cleanupIdle ["10.1.0.1:4000"], .pipeFail 0] ++
      serveClient ++
        [.pipeDelete 0, .pipeClose 0]) initial = some s ∧
      s.removal = .active ∧ s.ServeIdle ∧ s.PipesIdle ∧ ∃ i x, s.made.lookup i = some x ∧
        x.upstreamOpen = true ∧
        s.sessions.lookup x.clientAddr = none ∧ ¬ s.Stored i x := by
  have hrun : ∃ s, runEvents step (serveClient ++ [.cleanupIdle ["10.1.0.1:4000"], .pipeFail 0] ++
      serveClient ++ [.pipeDelete 0, .pipeClose 0]) initial = some s ∧ s.removal = .active ∧
      s.serve = .reading ∧ decide s.PipesIdle = true ∧
      s.made.lookup 1 = some ⟨"10.1.0.1:4000", true, .reading⟩ ∧
      s.sessions.lookup "10.1.0.1:4000" = none := ⟨_, rfl, rfl, rfl, rfl, rfl, rfl⟩
  obtain ⟨s, hrun, hactive, hserve, hpipes, hmade, hnone⟩ := hrun
  refine ⟨s, hrun, hactive, Or.inl hserve, of_decide_eq_true hpipes, 1, _, hmade, rfl, hnone,
    fun hstored => ?_⟩
  rw [Stored, hnone] at hstored
  cases hstored

end ListenerState
end TunnelOperator
