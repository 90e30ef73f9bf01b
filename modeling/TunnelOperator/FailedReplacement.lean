import TunnelOperator.SocketRequests

/-!
# Failed replacements

`ReconcileMappings` applies a snapshot before it removes stale listeners, so that a failed
replacement should never remove a usable mapping. `addMapping` removes the listener that it
replaces before it asks for the new socket, and if that is refused the port is left empty.
-/

namespace TunnelOperator
open Interaction

namespace UDPProxy

/-- If the port had a listener it has one: the same, or one for a mapping of the call. -/
def RetainedAt (mappings : List (Option TunnelMapping)) (p p' : UDPProxy) (port : Int) : Prop :=
  ∀ l, p.mappings.lookup port = some l → ∃ l', p'.mappings.lookup port = some l' ∧
    (l'.conn = l.conn ∨ ∃ m, some m ∈ mappings ∧ m.forwarderPort = port ∧ l'.Shows m)

def Retains (mappings : List (Option TunnelMapping)) (p p' : UDPProxy) : Prop :=
  ∀ port, RetainedAt mappings p p' port

/-- The mappings of a list that need a socket, in order, at ports that serve `table`. -/
def requests : List (Option TunnelMapping) → (Int → Option Served) → List TunnelMapping
  | [], _ => []
  | none :: mappings, table => requests mappings table
  | some m :: mappings, table =>
      if m.forwarderPort ≤ 0 ∨ m.gatewayAddress = "" then requests mappings table
      else
        let rest := requests mappings
          (Function.update table m.forwarderPort (some (m.settle (table m.forwarderPort))))
        if m.Opens (table m.forwarderPort) then m :: rest else rest

/-- The first mapping that is refused its socket, where `listens` numbers the next one. -/
def firstRefused (deny : Deny) : List TunnelMapping → ℕ → Option TunnelMapping
  | [], _ => none
  | m :: mappings, listens =>
      if (deny listens).isSome then some m else firstRefused deny mappings (listens + 1)

/-- The first socket that is refused, if any, is for a port that had no listener. -/
def RefusesFreePort (deny : Deny) (mappings : List (Option TunnelMapping)) (p : UDPProxy) : Prop :=
  ∀ m, firstRefused deny (requests mappings p.served) p.listens = some m →
    p.mappings.lookup m.forwarderPort = none

variable {deny : Deny} {m : TunnelMapping} {mappings done : List (Option TunnelMapping)}
  {p₀ p p' : UDPProxy}

theorem RetainedAt.mono {port : Int} (h : RetainedAt done p₀ p port) (hsub : done ⊆ mappings) :
    RetainedAt mappings p₀ p port := by
  intro l hl
  obtain ⟨l', hl', hsame | ⟨m, hm, hport, hshows⟩⟩ := h l hl
  · exact ⟨l', hl', Or.inl hsame⟩
  · exact ⟨l', hl', Or.inr ⟨m, hsub hm, hport, hshows⟩⟩

theorem Retains.mono (h : Retains done p₀ p) (hsub : done ⊆ mappings) : Retains mappings p₀ p :=
  fun port => (h port).mono hsub

theorem retains_self (p : UDPProxy) : Retains [] p p := fun _ l hl => ⟨l, hl, Or.inl rfl⟩

/-- How the loop ends: without an error if no socket is refused; otherwise the port of the first
refused mapping is empty and the other listeners are retained. -/
def LoopEnds (mappings : List (Option TunnelMapping)) (p₀ : UDPProxy) :
    Option TunnelMapping → Except String Unit × UDPProxy → Prop
  | none, (.ok (), p') => Retains mappings p₀ p'
  | some m, (.error _, p') => p'.mappings.lookup m.forwarderPort = none ∧
      ∀ port, port ≠ m.forwarderPort → RetainedAt mappings p₀ p' port
  | _, _ => False

theorem LoopEnds.mono {refused : Option TunnelMapping} {result : Except String Unit × UDPProxy}
    (h : LoopEnds done p₀ refused result) (hsub : done ⊆ mappings) :
    LoopEnds mappings p₀ refused result := by
  obtain ⟨res, p'⟩ := result
  cases refused with
  | none =>
      cases res with
      | ok u => exact Retains.mono h hsub
      | error err => exact h
  | some m =>
      cases res with
      | ok u => exact h
      | error err => exact ⟨h.1, fun port hp => (h.2 port hp).mono hsub⟩

/-- The table changes at one port, and there to a listener of the mapping or to one that was
already accounted for. -/
theorem Retains.update (h : Retains done p₀ p)
    (hother : ∀ port, port ≠ m.forwarderPort → p'.mappings.lookup port = p.mappings.lookup port)
    (hport : ∀ l, p.mappings.lookup m.forwarderPort = some l →
      ∃ l', p'.mappings.lookup m.forwarderPort = some l' ∧ (l' = l ∨ l'.Shows m)) :
    Retains (done ++ [some m]) p₀ p' := by
  intro port l hl
  obtain ⟨l₁, hl₁, hrest⟩ := h.mono (List.subset_append_left done [some m]) port l hl
  by_cases hp : port = m.forwarderPort
  · subst hp
    obtain ⟨l', hl', heq | hshows⟩ := hport l₁ hl₁
    · exact ⟨l', hl', by rw [heq]; exact hrest⟩
    · exact ⟨l', hl', Or.inr ⟨m, by simp, rfl, hshows⟩⟩
  · exact ⟨l₁, by rw [hother port hp, hl₁], hrest⟩

theorem Retains.addMapping_ok (h : Retains done p₀ p) (hok : p.addMapping deny m = (.ok (), p')) :
    Retains (done ++ [some m]) p₀ p' := by
  obtain ⟨⟨l', hl', hserves⟩, hother⟩ := UDPProxy.addMapping_ok hok
  refine h.update hother fun l hl => ⟨l', hl', ?_⟩
  obtain ⟨hsame, ⟨-, hg, hr⟩ | ⟨hbefore, -⟩⟩ := hserves
  · exact Or.inr ⟨hsame, hg, hr⟩
  · rw [hl] at hbefore
    exact Or.inl (Option.some.inj hbefore).symm

/-- A granted or needless socket: what the port serves afterwards, and how many sockets have
been asked for. -/
theorem addMapping_settles (hgrant : m.Opens (p.served m.forwarderPort) → deny p.listens = none) :
    ∃ p', p.addMapping deny m = (.ok (), p') ∧
      p'.listens = (if m.Opens (p.served m.forwarderPort) then p.listens + 1 else p.listens) ∧
      p'.served = Function.update p.served m.forwarderPort
        (some (m.settle (p.served m.forwarderPort))) := by
  by_cases ho : m.Opens (p.served m.forwarderPort)
  · obtain ⟨p', hok, hlistens, hlook⟩ := addMapping_granted ho (hgrant ho)
    refine ⟨p', hok, by rw [if_pos ho, hlistens], ?_⟩
    rw [served_of_lookup (fun q hq => (hlook q).trans (if_neg hq)) ((hlook _).trans (if_pos rfl))]
    have hsettle : m.settle (p.served m.forwarderPort) = m.served := by
      cases hc : p.served m.forwarderPort with
      | none => rfl
      | some c =>
          rw [TunnelMapping.settle, if_neg]
          rintro ⟨hsame, hlt⟩
          have := (ho c hc hsame).1
          omega
    rw [hsettle]
    rfl
  · obtain ⟨l, p', hl, hsame, hok, hlistens, hother, hkept⟩ := addMapping_kept deny ho
    refine ⟨p', hok, by rw [if_neg ho, hlistens], ?_⟩
    have hserved : p.served m.forwarderPort = some l.served := by rw [served, hl]; rfl
    rw [hserved]
    cases hkept with
    | inl hnewer =>
        rw [served_of_lookup hother hnewer.2, TunnelMapping.settle, if_pos ⟨hsame, hnewer.1⟩]
    | inr hbump =>
        obtain ⟨hle, hg, hlook⟩ := hbump
        rw [served_of_lookup hother hlook, TunnelMapping.settle, if_neg]
        · simp only [PortListener.served, TunnelMapping.served, hg, hsame.1, hsame.2]
        · rintro ⟨-, hlt⟩
          have hlt : m.revision < l.revision := hlt
          omega

theorem applyMappings_ends (deny : Deny) (mappings : List (Option TunnelMapping))
    (h : Retains done p₀ p) :
    LoopEnds (done ++ mappings) p₀ (firstRefused deny (requests mappings p.served) p.listens)
      (p.applyMappings deny mappings) := by
  induction mappings generalizing p done with
  | nil =>
      rw [List.append_nil]
      exact h
  | cons mapping mappings ih =>
      have hskip : done ++ mappings ⊆ done ++ mapping :: mappings := by
        apply List.append_subset.mpr
        exact ⟨List.subset_append_left _ _, fun x hx =>
          List.mem_append_right _ (List.mem_cons_of_mem _ hx)⟩
      cases mapping with
      | none => exact (ih h).mono hskip
      | some m =>
          rw [applyMappings, requests]
          by_cases hinv : m.forwarderPort ≤ 0 ∨ m.gatewayAddress = ""
          · rw [if_pos hinv, if_pos hinv]
            exact (ih h).mono hskip
          rw [if_neg hinv, if_neg hinv, applyMapping, if_neg hinv]
          by_cases hrefused : m.Opens (p.served m.forwarderPort) ∧ (deny p.listens).isSome = true
          · obtain ⟨ho, hd⟩ := hrefused
            obtain ⟨err, hd⟩ := Option.isSome_iff_exists.mp hd
            obtain ⟨err', p', herr, hlook⟩ := addMapping_refused ho hd
            simp only [herr, if_pos ho, firstRefused, hd, Option.isSome_some, if_true]
            refine ⟨(hlook _).trans (if_pos rfl), fun port hne l hl => ?_⟩
            rw [hlook, if_neg hne]
            exact (h port).mono (List.subset_append_left _ _) l hl
          · have hgrant : m.Opens (p.served m.forwarderPort) → deny p.listens = none := by
              intro ho
              cases hd : deny p.listens with
              | none => rfl
              | some err => exact absurd ⟨ho, by rw [hd]; rfl⟩ hrefused
            obtain ⟨q, hok, hlistens, hserved⟩ := addMapping_settles hgrant
            have hfirst : firstRefused deny (requests (some m :: mappings) p.served) p.listens =
                firstRefused deny (requests mappings q.served) q.listens := by
              rw [requests, if_neg hinv, hlistens, hserved]
              by_cases ho : m.Opens (p.served m.forwarderPort)
              · simp only [if_pos ho, firstRefused, hgrant ho, Option.isSome_none,
                  Bool.false_eq_true, if_false]
              · simp only [if_neg ho]
            rw [requests, if_neg hinv] at hfirst
            rw [hfirst]
            simp only [hok]
            rw [List.append_cons]
            exact ih (h.addMapping_ok hok)

theorem applyMappings_retains_iff (deny : Deny) (mappings : List (Option TunnelMapping))
    (p : UDPProxy) :
    (∀ err p', p.applyMappings deny mappings = (.error err, p') → Retains mappings p p') ↔
      RefusesFreePort deny mappings p := by
  have hends := applyMappings_ends deny mappings (retains_self p)
  unfold RefusesFreePort
  generalize p.applyMappings deny mappings = result at hends ⊢
  generalize firstRefused deny (requests mappings p.served) p.listens = refused at hends ⊢
  obtain ⟨res, p'⟩ := result
  cases refused with
  | none =>
      cases res with
      | error err => exact absurd hends id
      | ok u => simp
  | some m =>
      cases res with
      | ok u => exact absurd hends id
      | error err =>
          obtain ⟨hempty, hothers⟩ := hends
          constructor
          · intro hret m' hm'
            cases hm'
            cases hl : p.mappings.lookup m.forwarderPort with
            | none => rfl
            | some l =>
                obtain ⟨l', hl', -⟩ := hret err p' rfl m.forwarderPort l hl
                rw [hempty] at hl'
                cases hl'
          · intro hfree err' q he
            cases he
            intro port
            by_cases hp : port = m.forwarderPort
            · intro l hl
              rw [hp, hfree m rfl] at hl
              cases hl
            · exact hothers port hp

/-- `ReconcileMappings` and `ApplyMapping` keep a listener at every port that had one when they
fail, if and only if the first socket that is refused is for a port that had none. -/
theorem failed_replacement_retains_iff (deny : Deny) (mappings : List (Option TunnelMapping))
    (mapping : Option TunnelMapping) (p : UDPProxy) :
    ((∀ err p', p.reconcileMappings deny mappings = (.error err, p') → Retains mappings p p') ↔
      RefusesFreePort deny mappings p) ∧
    ((∀ err p', p.applyMapping deny mapping = (.error err, p') → Retains [mapping] p p') ↔
      RefusesFreePort deny [mapping] p) := by
  constructor
  · rw [← applyMappings_retains_iff]
    have herr : ∀ err p', p.reconcileMappings deny mappings = (.error err, p') ↔
        p.applyMappings deny mappings = (.error err, p') := by
      intro err p'
      unfold reconcileMappings
      cases p.applyMappings deny mappings with
      | mk res q =>
          cases res with
          | error e => rfl
          | ok u =>
              constructor
              · intro h
                cases h
              · intro h
                cases h
    simp only [herr]
  · rw [← applyMappings_retains_iff]
    cases mapping with
    | none =>
        constructor
        · intro _ err p' h
          cases h
        · intro _ err p' h
          cases h
          exact (retains_self p).mono (List.nil_subset _)
    | some m =>
        rw [applyMappings]
        by_cases hinv : m.forwarderPort ≤ 0 ∨ m.gatewayAddress = ""
        · rw [if_pos hinv, applyMapping, if_pos hinv]
          constructor
          · intro _ err p' h
            cases h
          · intro _ err p' h
            cases h
            exact (retains_self p).mono (List.nil_subset _)
        · rw [if_neg hinv]
          cases p.applyMapping deny (some m) with
          | mk res q =>
              cases res with
              | ok u =>
                  constructor
                  · intro _ err p' h
                    cases h
                  · intro _ err p' h
                    cases h
              | error e =>
                  constructor
                  · intro h err p' he
                    cases he
                    exact h e q rfl
                  · intro h err p' he
                    cases he
                    exact h _ q rfl

/-- The gateway Pod of a Tunnel is replaced and the port cannot be bound again: the Tunnel is
left without a listener. -/
theorem failed_replacement_loses_listener : ∃ p err p',
    Reachable p ∧ p.ports = [51820] ∧
    p.reconcileMappings (fun n => if n = 1 then some "address already in use" else none)
      [some (mappingAt "10.0.0.2:51820" 2)] = (.error err, p') ∧
    p'.ports = [] ∧ ¬ Retains [some (mappingAt "10.0.0.2:51820" 2)] p p' := by
  refine ⟨(new.reconcileMappings listenAll [some (mappingAt "10.0.0.1:51820" 1)]).2, _, _,
    .reconcileMappings _ _ .new, rfl, rfl, rfl, fun h => ?_⟩
  obtain ⟨l', hl', -⟩ := h 51820 ⟨0, "10.0.0.1:51820", 1, "a", "team"⟩ rfl
  cases hl'

end UDPProxy
end TunnelOperator
