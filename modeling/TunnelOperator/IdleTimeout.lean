import TunnelOperator.EventRun

/-!
# The gateway's idle timeout

`run` of `cmd/gateway`: the accept loop of `serveTCPProxy`, the connections of `handleConn`, the
goroutine that watches for activity, and the final select. Accepting a connection is the only
activity the goroutine hears of, so the timeout is counted from accepted connections and not
from the data they carry. `Traffic` is what happens outside of the timeout loop; its
`firstAccept` is a record for the proofs. Times are nanoseconds.
-/

namespace TunnelOperator
open Interaction

def peerTimeout : ℕ := 3600 * 1000000000

inductive Direction where
  | toTarget
  | fromTarget
  deriving DecidableEq

inductive ConnState where
  | dialing
  /-- The directions that `copyAndClose` still serves. -/
  | relaying (toTarget fromTarget : Bool)
  | closed
  deriving DecidableEq

structure ProxiedConn where
  state : ConnState
  lastData : Option ℕ
  deriving DecidableEq

def ConnState.copies (direction : Direction) : ConnState → Bool
  | .relaying toTarget fromTarget =>
      match direction with
      | .toTarget => toTarget
      | .fromTarget => fromTarget
  | _ => false

/-- One copy ends; `handleConn` waits for both. -/
def ConnState.finish (direction : Direction) : ConnState → ConnState
  | .relaying toTarget fromTarget =>
      match direction with
      | .toTarget => if fromTarget then .relaying false true else .closed
      | .fromTarget => if toTarget then .relaying true false else .closed
  | state => state

namespace ProxiedConn

def dialed (ok : Bool) (conn : ProxiedConn) : Option ProxiedConn :=
  if conn.state = .dialing then
    some { conn with state := if ok then .relaying true true else .closed }
  else none

def data (now : ℕ) (direction : Direction) (conn : ProxiedConn) : Option ProxiedConn :=
  if conn.state.copies direction then some { conn with lastData := some now } else none

def finish (direction : Direction) (conn : ProxiedConn) : Option ProxiedConn :=
  if conn.state.copies direction then some { conn with state := conn.state.finish direction }
    else none

end ProxiedConn

structure Traffic where
  now : ℕ
  conns : List ProxiedConn
  accepting : Bool
  cancelled : Bool
  acceptFailed : Bool
  firstAccept : Option ℕ
  deriving DecidableEq

inductive TrafficEvent where
  | tick (d : ℕ)
  | accept
  | acceptError
  | dialed (i : ℕ) (ok : Bool)
  | data (i : ℕ) (direction : Direction)
  | finish (i : ℕ) (direction : Direction)
  | cancel
  deriving DecidableEq

namespace Traffic

def initial : Traffic := ⟨0, [], true, false, false, none⟩

def updateConn (i : ℕ) (f : ProxiedConn → Option ProxiedConn) (t : Traffic) : Option Traffic :=
  (t.conns[i]?.bind f).map fun conn => { t with conns := t.conns.set i conn }

def step : TrafficEvent → Traffic → Option Traffic
  | .tick d, t => some { t with now := t.now + d }
  | .accept, t =>
      if t.accepting then
        some { t with
          conns := t.conns ++ [⟨.dialing, none⟩]
          firstAccept := some (t.firstAccept.getD t.now) }
      else none
  | .acceptError, t =>
      -- a cancelled context makes the loop end without an error
      if t.accepting then
        some { t with accepting := false, acceptFailed := t.acceptFailed || !t.cancelled }
      else none
  | .dialed i ok, t => t.updateConn i (·.dialed ok)
  | .data i direction, t => t.updateConn i (·.data t.now direction)
  | .finish i direction, t => t.updateConn i (·.finish direction)
  | .cancel, t => some { t with cancelled := true }

/-- Some connection is open and has carried data within the last `peerTimeout`. -/
def InUse (t : Traffic) : Prop :=
  ∃ conn ∈ t.conns, conn.state ≠ .closed ∧ ∃ last, conn.lastData = some last ∧
    t.now ≤ last + peerTimeout

end Traffic

/-- `time.Timer`; `pending` is the value that its channel has for a receiver. -/
structure Timer where
  deadline : ℕ
  running : Bool
  pending : Bool
  deriving DecidableEq

namespace Timer

def new (now : ℕ) : Timer := ⟨now + peerTimeout, true, false⟩

def stop (timer : Timer) : Bool × Timer := (timer.running, { timer with running := false })

def drain (timer : Timer) : Timer := { timer with pending := false }

def reset (now : ℕ) (timer : Timer) : Timer :=
  { timer with deadline := now + peerTimeout, running := true }

def fire (now : ℕ) (timer : Timer) : Option Timer :=
  if timer.running ∧ timer.deadline ≤ now then some { timer with running := false, pending := true }
  else none

def restart (now : ℕ) (timer : Timer) : Timer :=
  let (stopped, timer) := timer.stop
  (if stopped then timer else timer.drain).reset now

end Timer

/-- The goroutine that watches for activity. `expired` has closed `peerTimeoutCh`. -/
inductive TimeoutLoop where
  | waiting
  | watching (timer : Timer)
  | stopped
  | expired
  deriving DecidableEq

inductive Exit where
  | shutdown
  | acceptError
  | peerTimeout
  deriving DecidableEq

structure Gateway where
  traffic : Traffic
  /-- The slot of `activityCh`. -/
  activity : Bool
  watch : TimeoutLoop
  left : Option Exit
  deriving DecidableEq

inductive GatewayEvent where
  | traffic (e : TrafficEvent)
  | activity
  | fire
  | timer
  | done
  | leave (exit : Exit)
  deriving DecidableEq

namespace Gateway

def initial : Gateway := ⟨Traffic.initial, false, .waiting, none⟩

def ready (g : Gateway) : Exit → Bool
  | .shutdown => g.traffic.cancelled
  | .acceptError => g.traffic.acceptFailed
  | .peerTimeout => g.watch = .expired

def act : GatewayEvent → Gateway → Option Gateway
  | .traffic e, g =>
      -- a full slot drops the signal
      (g.traffic.step e).map fun t => { g with traffic := t, activity := g.activity || e = .accept }
  | .activity, g =>
      if g.activity then
        match g.watch with
        | .waiting =>
            some { g with activity := false, watch := .watching (Timer.new g.traffic.now) }
        | .watching timer =>
            some { g with activity := false, watch := .watching (timer.restart g.traffic.now) }
        | _ => none
      else none
  | .fire, g =>
      match g.watch with
      | .watching timer =>
          (timer.fire g.traffic.now).map fun timer => { g with watch := .watching timer }
      | _ => none
  | .timer, g =>
      match g.watch with
      | .watching timer => if timer.pending then some { g with watch := .expired } else none
      | _ => none
  | .done, g =>
      match g.watch with
      | .waiting | .watching _ =>
          if g.traffic.cancelled then some { g with watch := .stopped } else none
      | _ => none
  | .leave exit, g => if g.ready exit then some { g with left := some exit } else none

/-- Nothing happens after `run` has returned. -/
def step (e : GatewayEvent) (g : Gateway) : Option Gateway :=
  if g.left = none then g.act e else none

end Gateway

def outsideOf (events : List GatewayEvent) : List TrafficEvent :=
  events.filterMap fun e =>
    match e with
    | .traffic e => some e
    | _ => none

section Since

/-- The first accepted connection is at least `peerTimeout` older than the deadline. -/
def SinceFirst (t : Traffic) (deadline : ℕ) : Prop :=
  ∃ first, t.firstAccept = some first ∧ first + peerTimeout ≤ deadline

/-- What has been accepted before the goroutine can be where it is. -/
structure Heard (g : Gateway) : Prop where
  past : ∀ {first}, g.traffic.firstAccept = some first → first ≤ g.traffic.now
  signalled : g.activity = true → ∃ first, g.traffic.firstAccept = some first
  watching : ∀ {timer}, g.watch = .watching timer → SinceFirst g.traffic timer.deadline ∧
    (timer.pending = true → SinceFirst g.traffic g.traffic.now)
  expired : g.watch = .expired → SinceFirst g.traffic g.traffic.now

variable {t t' : Traffic} {e : TrafficEvent} {g g' : Gateway} {events : List GatewayEvent}

theorem updateConn_eq {i : ℕ} {f : ProxiedConn → Option ProxiedConn}
    (h : t.updateConn i f = some t') :
    ∃ conns, t' = { t with conns := conns } := by
  obtain ⟨conn, -, rfl⟩ := Option.map_eq_some_iff.mp h
  exact ⟨_, rfl⟩

theorem Traffic.step_cases (h : t.step e = some t') :
    t.now ≤ t'.now ∧ (t'.firstAccept = t.firstAccept ∧ e ≠ .accept ∨
      e = .accept ∧ t'.now = t.now ∧ t'.firstAccept = some (t.firstAccept.getD t.now)) := by
  cases e with
  | tick d =>
      cases h
      exact ⟨Nat.le_add_right _ _, Or.inl ⟨rfl, by simp⟩⟩
  | accept =>
      simp only [Traffic.step] at h
      split_ifs at h
      cases h
      exact ⟨Nat.le_refl _, Or.inr ⟨rfl, rfl, rfl⟩⟩
  | acceptError =>
      simp only [Traffic.step] at h
      split_ifs at h
      cases h
      exact ⟨Nat.le_refl _, Or.inl ⟨rfl, by simp⟩⟩
  | cancel =>
      cases h
      exact ⟨Nat.le_refl _, Or.inl ⟨rfl, by simp⟩⟩
  | dialed i ok =>
      obtain ⟨conns, rfl⟩ := updateConn_eq h
      exact ⟨Nat.le_refl _, Or.inl ⟨rfl, by simp⟩⟩
  | data i direction =>
      obtain ⟨conns, rfl⟩ := updateConn_eq h
      exact ⟨Nat.le_refl _, Or.inl ⟨rfl, by simp⟩⟩
  | finish i direction =>
      obtain ⟨conns, rfl⟩ := updateConn_eq h
      exact ⟨Nat.le_refl _, Or.inl ⟨rfl, by simp⟩⟩

theorem Traffic.step_first (h : t.step e = some t') {first : ℕ}
    (hfirst : t.firstAccept = some first) :
    t'.firstAccept = some first := by
  obtain ⟨-, ⟨heq, -⟩ | ⟨-, -, heq⟩⟩ := Traffic.step_cases h
  · rw [heq, hfirst]
  · rw [heq, hfirst]
    rfl

theorem SinceFirst.step {deadline deadline' : ℕ} (h : SinceFirst t deadline)
    (hstep : t.step e = some t') (hle : deadline ≤ deadline') : SinceFirst t' deadline' := by
  obtain ⟨first, hfirst, hd⟩ := h
  exact ⟨first, Traffic.step_first hstep hfirst, Nat.le_trans hd hle⟩

theorem Heard.traffic (h : Heard g) (hstep : g.traffic.step e = some t') :
    Heard { g with traffic := t', activity := g.activity || e = .accept } := by
  obtain ⟨hnow, hcases⟩ := Traffic.step_cases hstep
  constructor
  · intro first hfirst
    rcases hcases with ⟨heq, -⟩ | ⟨-, -, heq⟩
    · rw [heq] at hfirst
      exact Nat.le_trans (h.past hfirst) hnow
    · rw [heq] at hfirst
      cases hold : g.traffic.firstAccept with
      | none =>
          rw [hold] at hfirst
          cases hfirst
          exact hnow
      | some first' =>
          rw [hold] at hfirst
          cases hfirst
          exact Nat.le_trans (h.past hold) hnow
  · intro hactivity
    rcases hcases with ⟨heq, hne⟩ | ⟨-, -, heq⟩
    · obtain ⟨first, hfirst⟩ := h.signalled (by simpa [hne] using hactivity)
      exact ⟨first, heq.trans hfirst⟩
    · exact ⟨_, heq⟩
  · intro timer htimer
    obtain ⟨hdeadline, hpending⟩ := h.watching htimer
    exact ⟨hdeadline.step hstep (Nat.le_refl _), fun hp => (hpending hp).step hstep hnow⟩
  · intro hexpired
    exact (h.expired hexpired).step hstep hnow

/-- A timer that is set now expires `peerTimeout` after the first accepted connection or later. -/
theorem Heard.since_now (h : Heard g) (hactivity : g.activity = true) :
    SinceFirst g.traffic (g.traffic.now + peerTimeout) := by
  obtain ⟨first, hfirst⟩ := h.signalled hactivity
  have hpast := h.past hfirst
  exact ⟨first, hfirst, by omega⟩

theorem Gateway.step_cases {e : GatewayEvent} (h : g.step e = some g') : g.left = none ∧
    ((∃ x t', e = .traffic x ∧ g.traffic.step x = some t' ∧
        g' = { g with traffic := t', activity := g.activity || x = .accept }) ∨
      (∃ timer, e = .activity ∧ g.activity = true ∧ timer.deadline = g.traffic.now + peerTimeout ∧
        (timer.pending = true → ∃ old, g.watch = .watching old ∧ old.pending = true) ∧
        g' = { g with activity := false, watch := .watching timer }) ∨
      (∃ timer, e = .fire ∧ g.watch = .watching timer ∧ timer.deadline ≤ g.traffic.now ∧
        g' = { g with watch := .watching { timer with running := false, pending := true } }) ∨
      (∃ timer, e = .timer ∧ g.watch = .watching timer ∧ timer.pending = true ∧
        g' = { g with watch := .expired }) ∨
      (e = .done ∧ g' = { g with watch := .stopped }) ∨
      ∃ exit, e = .leave exit ∧ g.ready exit = true ∧ g' = { g with left := some exit }) := by
  unfold Gateway.step at h
  split_ifs at h with hleft
  refine ⟨hleft, ?_⟩
  cases e with
  | traffic x =>
      obtain ⟨t', ht', rfl⟩ := Option.map_eq_some_iff.mp h
      exact Or.inl ⟨x, t', rfl, ht', rfl⟩
  | activity =>
      right; left
      simp only [Gateway.act] at h
      split_ifs at h with hactivity
      split at h
      · cases h
        exact ⟨Timer.new g.traffic.now, rfl, hactivity, rfl, nofun, rfl⟩
      · rename_i timer hwatch
        cases h
        refine ⟨_, rfl, hactivity, rfl, fun hpending => ⟨timer, hwatch, ?_⟩, rfl⟩
        cases hrunning : timer.running with
        | true => simpa [Timer.restart, Timer.stop, Timer.reset, hrunning] using hpending
        | false => simp [Timer.restart, Timer.stop, Timer.drain, Timer.reset, hrunning] at hpending
      · cases h
  | fire =>
      right; right; left
      simp only [Gateway.act] at h
      split at h
      · rename_i timer hwatch
        obtain ⟨timer', hfire, rfl⟩ := Option.map_eq_some_iff.mp h
        unfold Timer.fire at hfire
        split_ifs at hfire with hdue
        cases hfire
        exact ⟨timer, rfl, hwatch, hdue.2, rfl⟩
      · cases h
  | timer =>
      right; right; right; left
      simp only [Gateway.act] at h
      split at h
      · rename_i timer hwatch
        split_ifs at h with hpending
        cases h
        exact ⟨timer, rfl, hwatch, hpending, rfl⟩
      · cases h
  | done =>
      right; right; right; right; left
      simp only [Gateway.act] at h
      split at h
      · split_ifs at h
        cases h
        exact ⟨rfl, rfl⟩
      · split_ifs at h
        cases h
        exact ⟨rfl, rfl⟩
      · cases h
  | leave exit =>
      right; right; right; right; right
      simp only [Gateway.act] at h
      split_ifs at h with hready
      cases h
      exact ⟨exit, rfl, hready, rfl⟩

theorem Heard.step {e : GatewayEvent} (h : Heard g) (hstep : g.step e = some g') : Heard g' := by
  obtain ⟨-, hcases⟩ := Gateway.step_cases hstep
  rcases hcases with ⟨x, t', -, ht', rfl⟩ | ⟨timer, -, hactivity, hdeadline, hpending, rfl⟩ |
    ⟨timer, -, hwatch, hdue, rfl⟩ | ⟨timer, -, hwatch, hpending, rfl⟩ | ⟨-, rfl⟩ | ⟨exit, -, -, rfl⟩
  · exact h.traffic ht'
  · refine ⟨h.past, nofun, ?_, nofun⟩
    rintro timer' ⟨⟩
    refine ⟨hdeadline ▸ h.since_now hactivity, fun hp => ?_⟩
    obtain ⟨old, hwatch, hold⟩ := hpending hp
    exact (h.watching hwatch).2 hold
  · obtain ⟨first, hfirst, hd⟩ := (h.watching hwatch).1
    refine ⟨h.past, h.signalled, ?_, nofun⟩
    rintro timer' ⟨⟩
    exact ⟨⟨first, hfirst, hd⟩, fun _ => ⟨first, hfirst, Nat.le_trans hd hdue⟩⟩
  · exact ⟨h.past, h.signalled, nofun, fun _ => (h.watching hwatch).2 hpending⟩
  · exact ⟨h.past, h.signalled, nofun, nofun⟩
  · exact ⟨h.past, h.signalled, h.watching, h.expired⟩

theorem heard_initial : Heard Gateway.initial := ⟨nofun, nofun, nofun, nofun⟩

theorem run_traffic (h : runEvents Gateway.step events g = some g') :
    runEvents Traffic.step (outsideOf events) g.traffic = some g'.traffic := by
  induction events generalizing g with
  | nil =>
      cases h
      rfl
  | cons e events ih =>
      obtain ⟨g₁, h₁, hrest⟩ := runEvents_cons.mp h
      have hih := ih hrest
      obtain ⟨-, hcases⟩ := Gateway.step_cases h₁
      rcases hcases with ⟨x, t', rfl, ht', rfl⟩ | ⟨timer, rfl, -, -, -, rfl⟩ |
        ⟨timer, rfl, -, -, rfl⟩ | ⟨timer, rfl, -, -, rfl⟩ | ⟨rfl, rfl⟩ | ⟨exit, rfl, -, rfl⟩
      · exact runEvents_cons.mpr ⟨t', ht', hih⟩
      all_goals exact hih

end Since

section Schedule

/-- The goroutine takes the first signal at once and no other. -/
def earliest : List TrafficEvent → List GatewayEvent
  | [] => []
  | .accept :: events => .traffic .accept :: .activity :: events.map .traffic
  | e :: events => .traffic e :: earliest events

variable {g : Gateway} {t t' : Traffic} {history : List TrafficEvent}

theorem outsideOf_map (history : List TrafficEvent) :
    outsideOf (history.map .traffic) = history := by
  rw [outsideOf, List.filterMap_map]
  exact List.filterMap_some

theorem outsideOf_earliest (history : List TrafficEvent) :
    outsideOf (earliest history) = history := by
  induction history with
  | nil => rfl
  | cons e history ih =>
      cases e with
      | accept => exact congrArg _ (outsideOf_map history)
      | _ => exact congrArg _ ih

theorem run_first (h : runEvents Traffic.step history t = some t') {first : ℕ}
    (hfirst : t.firstAccept = some first) : t'.firstAccept = some first :=
  runEvents_invariant (P := fun t => t.firstAccept = some first)
    (fun _ _ _ ht hstep => Traffic.step_first hstep ht) hfirst h

theorem Gateway.step_traffic {e : TrafficEvent} (hleft : g.left = none)
    (h : g.traffic.step e = some t) :
    g.step (.traffic e) = some { g with traffic := t, activity := g.activity || e = .accept } := by
  simp only [Gateway.step, hleft, if_true, Gateway.act, h, Option.map_some]

theorem run_map (hleft : g.left = none) (h : runEvents Traffic.step history g.traffic = some t) :
    ∃ activity, runEvents Gateway.step (history.map .traffic) g =
      some { g with traffic := t, activity := activity } := by
  induction history generalizing g with
  | nil =>
      cases h
      exact ⟨g.activity, rfl⟩
  | cons e history ih =>
      obtain ⟨t₁, h₁, hrest⟩ := runEvents_cons.mp h
      let g₁ : Gateway := { g with traffic := t₁, activity := g.activity || e = .accept }
      obtain ⟨activity, hrun⟩ := ih (g := g₁) hleft hrest
      exact ⟨activity, runEvents_cons.mpr ⟨g₁, Gateway.step_traffic hleft h₁, hrun⟩⟩

/-- The timer then expires `peerTimeout` after the first accepted connection. -/
theorem run_earliest (hleft : g.left = none) (hwatch : g.watch = .waiting)
    (hnone : g.traffic.firstAccept = none) (h : runEvents Traffic.step history g.traffic = some t)
    {first : ℕ} (hfirst : t.firstAccept = some first) :
    ∃ activity, runEvents Gateway.step (earliest history) g =
      some ⟨t, activity, .watching ⟨first + peerTimeout, true, false⟩, none⟩ := by
  induction history generalizing g with
  | nil =>
      cases h
      rw [hnone] at hfirst
      cases hfirst
  | cons e history ih =>
      obtain ⟨t₁, h₁, hrest⟩ := runEvents_cons.mp h
      let g₁ : Gateway := { g with traffic := t₁, activity := g.activity || e = .accept }
      have hstep : g.step (.traffic e) = some g₁ := Gateway.step_traffic hleft h₁
      obtain ⟨-, ⟨hkept, hne⟩ | ⟨rfl, hnow, hnew⟩⟩ := Traffic.step_cases h₁
      · obtain ⟨activity, hrun⟩ := ih (g := g₁) hleft hwatch (hkept.trans hnone) hrest
        refine ⟨activity, ?_⟩
        have hearliest : earliest (e :: history) = .traffic e :: earliest history := by
          cases e <;> first | rfl | exact absurd rfl hne
        rw [hearliest]
        exact runEvents_cons.mpr ⟨g₁, hstep, hrun⟩
      · rw [hnone] at hnew
        -- the signal is taken at the time of the connection
        let g₂ : Gateway := { g₁ with activity := false, watch := .watching (Timer.new t₁.now) }
        have hsignal : g₁.step .activity = some g₂ := by
          simp [Gateway.step, Gateway.act, g₁, g₂, hleft, hwatch]
        obtain ⟨activity, hrun⟩ := run_map (g := g₂) hleft hrest
        have heq := run_first hrest hnew
        rw [hfirst, Option.getD_none, ← hnow] at heq
        cases heq
        refine ⟨activity, ?_⟩
        rw [earliest, runEvents_cons]
        refine ⟨g₁, hstep, runEvents_cons.mpr ⟨g₂, hsignal, ?_⟩⟩
        rw [hrun]
        simp only [g₂, g₁, Timer.new, hleft]

end Schedule

/-- Which histories the timeout spares, however the selects are resolved: those in which no
connection is in use once `peerTimeout` has passed since the first accepted connection. -/
theorem idle_timeout_spares_iff (history : List TrafficEvent) :
    (∀ events g g', outsideOf events = history →
      runEvents Gateway.step events Gateway.initial = some g → g.step
        (.leave .peerTimeout) = some g' →
      ¬ g.traffic.InUse) ↔
    ∀ t first, runEvents Traffic.step history Traffic.initial = some t →
      t.firstAccept = some first →
      first + peerTimeout ≤ t.now → ¬ t.InUse := by
  constructor
  · intro hspared t first hrun hfirst hlate
    obtain ⟨activity, hwatching⟩ :=
      run_earliest (g := Gateway.initial) rfl rfl rfl hrun hfirst
    -- the timer fires and is preferred to whatever else is ready
    let g : Gateway := ⟨t, activity, .expired, none⟩
    have hexpire : runEvents Gateway.step [.fire, .timer]
        ⟨t, activity, .watching ⟨first + peerTimeout, true, false⟩, none⟩ = some g := by
      refine runEvents_cons.mpr ⟨⟨t, activity, .watching ⟨first + peerTimeout, false, true⟩, none⟩,
        ?_, rfl⟩
      simp [Gateway.step, Gateway.act, Timer.fire, hlate]
    refine hspared (earliest history ++ [.fire, .timer]) g
      { g with left := some .peerTimeout } ?_ ?_ rfl
    · rw [outsideOf, List.filterMap_append, ← outsideOf, outsideOf_earliest]
      exact List.append_nil history
    · exact runEvents_append.mpr ⟨_, hwatching, hexpire⟩
  · intro hquiet events g g' hevents hrun hleave
    obtain ⟨-, hcases⟩ := Gateway.step_cases hleave
    have hexpired : g.watch = .expired := by
      rcases hcases with ⟨_, _, he, -⟩ | ⟨_, he, -⟩ | ⟨_, he, -⟩ | ⟨_, he, -⟩ | ⟨he, -⟩ |
        ⟨exit, he, hready, -⟩
      all_goals cases he
      simpa [Gateway.ready] using hready
    have hheard : Heard g :=
      runEvents_invariant (fun _ _ _ h hstep => h.step hstep) heard_initial hrun
    obtain ⟨first, hfirst, hlate⟩ := hheard.expired hexpired
    have htraffic := run_traffic hrun
    rw [hevents] at htraffic
    exact hquiet g.traffic first htraffic hfirst hlate

/-- The only connection carries data shortly before its hour is over. -/
def longSession : List GatewayEvent :=
  [.traffic .accept, .activity, .traffic (.dialed 0 true), .traffic (.tick (peerTimeout - 1)),
    .traffic (.data 0 .toTarget), .traffic (.tick 1), .fire, .timer]

/-- The gateway leaves through the timeout one nanosecond after the last data. -/
theorem long_session_cut : ∃ g g', runEvents Gateway.step longSession Gateway.initial = some g ∧
    g.step (.leave .peerTimeout) = some g' ∧ g.traffic.InUse ∧
    g.traffic.conns = [⟨.relaying true true, some (g.traffic.now - 1)⟩] := by
  refine ⟨⟨⟨peerTimeout, [⟨.relaying true true, some (peerTimeout - 1)⟩], true, false, false,
    some 0⟩, false, .expired, none⟩, _, rfl, rfl, ⟨_, List.mem_singleton_self _, by
    decide, _, rfl, ?_⟩, rfl⟩
  decide

end TunnelOperator
