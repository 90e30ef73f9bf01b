import TunnelOperator.Program

/-!
# Programs interleaved with their environment

One thread at a time runs a program against a shared state while the environment
takes steps between any two of its operations and may kill it. A discipline names
the invariant of the shared state, what the environment is trusted to do (`rely`),
which calls are admitted, and the goal every admitted call must meet. `Safe` is the
resulting precondition of a program, and a machine whose programs are safe keeps the invariant and
the goal in every run.
-/

namespace Interaction

variable {Op : Type} {Ans : Op → Type} {α β ρ σ χ ε κ : Type}

structure Discipline (Ans : Op → Type) (σ χ : Type) where
  exec : (op : Op) → χ → σ → Ans op × σ
  allowed : List (Call Ans) → σ → Prop
  inv : σ → Prop
  rely : σ → σ → Prop
  goal : List (Call Ans) → σ → σ → Prop
  rely_refl : ∀ s, rely s s
  rely_trans : ∀ {s t u}, rely s t → rely t u → rely s u

namespace Discipline

variable (D : Discipline Ans σ χ)

def Safe (post : α → List (Call Ans) → σ → Prop) : Program Ans α → List (Call Ans) → σ → Prop
  | .pure a, tr, s => post a tr s
  | .call op next, tr, s =>
      ∀ s', D.rely s s' → D.inv s' → ∀ c ans s'', D.exec op c s' = (ans, s'') →
      D.allowed (tr ++ [⟨op, ans⟩]) s' → D.inv s'' ∧ D.goal (tr ++ [⟨op, ans⟩]) s' s'' ∧
        Safe post (next ans) (tr ++ [⟨op, ans⟩]) s''

variable {D}

theorem Safe.mono {post post' : α → List (Call Ans) → σ → Prop}
    (h : ∀ a tr s, post a tr s → post' a tr s) {p : Program Ans α} {tr : List (Call Ans)} {s : σ}
    (hp : D.Safe post p tr s) : D.Safe post' p tr s := by
  induction p generalizing tr s with
  | pure a => exact h a tr s hp
  | call op next ih =>
      intro s' hr hi c ans s'' he ha
      obtain ⟨hi', hg, hn⟩ := hp s' hr hi c ans s'' he ha
      exact ⟨hi', hg, ih ans hn⟩

/-- A safe thread stays safe across the steps its discipline trusts. -/
theorem Safe.rely {p : Program Ans α} {tr : List (Call Ans)} {s s' : σ}
    (hp : D.Safe (fun _ _ _ => True) p tr s) (hr : D.rely s s') :
    D.Safe (fun _ _ _ => True) p tr s' := by
  cases p with
  | pure a => trivial
  | call op next => exact fun t ht => hp t (D.rely_trans hr ht)

/-- The trace logic of a program carries an assertion about trace and state through it:
each operation has only to be checked at the points where the program can perform it. -/
theorem Safe.of_traces {P : List (Call Ans) → Op → Prop} {A : List (Call Ans) → σ → Prop}
    {post : α → List (Call Ans) → Prop}
    (hrely : ∀ tr s s', A tr s → D.rely s s' → D.inv s' → A tr s')
    (hop : ∀ tr op, P tr op → ∀ c s ans s', A tr s → D.inv s → D.exec op c s = (ans, s') →
      D.allowed (tr ++ [⟨op, ans⟩]) s → D.inv s' ∧ D.goal (tr ++ [⟨op, ans⟩]) s s' ∧
        A (tr ++ [⟨op, ans⟩]) s')
    {p : Program Ans α} {tr : List (Call Ans)} (hp : p.Traces P post tr) {s : σ} (hA : A tr s) :
    D.Safe (fun a tr s => post a tr ∧ A tr s) p tr s := by
  induction p generalizing tr s with
  | pure a => exact ⟨hp, hA⟩
  | call op next ih =>
      intro s' hr hi c ans s'' he ha
      obtain ⟨hi', hg, hA'⟩ := hop tr op hp.1 c s' ans s'' (hrely tr s s' hA hr hi) hi he ha
      exact ⟨hi', hg, ih ans (hp.2 ans) hA'⟩

/-- Without interference and without forbidden calls a safe program runs into its
postcondition. -/
theorem Safe.run {post : α → List (Call Ans) → σ → Prop} (hall : ∀ tr s, D.allowed tr s)
    {p : Program Ans α} {tr : List (Call Ans)} {s : σ} (hp : D.Safe post p tr s) (hi : D.inv s)
    (c : ℕ → χ) :
    post (p.run D.exec c tr s).1 (p.run D.exec c tr s).2.1 (p.run D.exec c tr s).2.2 ∧
      D.inv (p.run D.exec c tr s).2.2 := by
  induction p generalizing tr s c with
  | pure a => exact ⟨hp, hi⟩
  | call op next ih =>
      obtain ⟨hi', _, hn⟩ := hp s (D.rely_refl s) hi (c 0) _ _ rfl (hall _ _)
      exact ih _ hn hi' _

end Discipline

/-- Requests start programs, the environment and crashes change the state alone. -/
structure Machine (Ans : Op → Type) (α ρ σ χ ε κ : Type) where
  exec : (op : Op) → χ → σ → Ans op × σ
  program : ρ → Program Ans α
  onStart : ρ → σ → σ
  env : ε → σ → Option σ
  crash : κ → σ → Option σ

structure Thread (Ans : Op → Type) (α ρ : Type) where
  request : ρ
  program : Program Ans α
  trace : List (Call Ans)

structure Config (Ans : Op → Type) (α ρ σ : Type) where
  state : σ
  thread : Option (Thread Ans α ρ)

inductive Event (ρ χ ε κ : Type) where
  | env (e : ε)
  | crash (k : κ)
  | start (r : ρ)
  | call (c : χ)

namespace Machine

variable (M : Machine Ans α ρ σ χ ε κ)

/-- One event. `call` performs the running program's next operation, and returns
from the program once there is none left. -/
def step (g : Config Ans α ρ σ) : Event ρ χ ε κ → Option (Config Ans α ρ σ)
  | .env e => (M.env e g.state).map fun s => { g with state := s }
  | .crash k => (M.crash k g.state).map fun s => ⟨s, none⟩
  | .start r =>
      match g.thread with
      | none => some ⟨M.onStart r g.state, some ⟨r, M.program r, []⟩⟩
      | some _ => none
  | .call c =>
      match g.thread with
      | none => none
      | some ⟨_, .pure _, _⟩ => some { g with thread := none }
      | some ⟨r, .call op next, tr⟩ =>
          let a := M.exec op c g.state
          some ⟨a.2, some ⟨r, next a.1, tr ++ [⟨op, a.1⟩]⟩⟩

structure Conditions (Ans : Op → Type) (σ ε κ : Type) where
  env : ε → σ → Prop := fun _ _ => True
  crash : κ → σ → Prop := fun _ _ => True
  call : List (Call Ans) → σ → Prop := fun _ _ => True

def Admits (C : Conditions Ans σ ε κ) (g : Config Ans α ρ σ) : Event ρ χ ε κ → Prop
  | .env e => C.env e g.state
  | .crash k => C.crash k g.state
  | .start _ => True
  | .call c =>
      match g.thread with
      | some ⟨_, .call op _, tr⟩ => C.call (tr ++ [⟨op, (M.exec op c g.state).1⟩]) g.state
      | _ => True

structure Checks (Ans : Op → Type) (σ ε κ : Type) where
  env : ε → σ → Bool := fun _ _ => true
  crash : κ → σ → Bool := fun _ _ => true
  call : List (Call Ans) → σ → Bool := fun _ _ => true

def Passes (K : Checks Ans σ ε κ) (g : Config Ans α ρ σ) : Event ρ χ ε κ → Bool
  | .env e => K.env e g.state
  | .crash k => K.crash k g.state
  | .start _ => true
  | .call c =>
      match g.thread with
      | some ⟨_, .call op _, tr⟩ => K.call (tr ++ [⟨op, (M.exec op c g.state).1⟩]) g.state
      | _ => true

def runChecked (K : Checks Ans σ ε κ) :
    Config Ans α ρ σ → List (Event ρ χ ε κ) → Option (Config Ans α ρ σ)
  | g, [] => some g
  | g, e :: es => if M.Passes K g e then (M.step g e).bind fun g' => runChecked K g' es else none

inductive Reaches (C : Conditions Ans σ ε κ) (s₀ : σ) : Config Ans α ρ σ → Prop where
  | init : Reaches C s₀ ⟨s₀, none⟩
  | step {g g'} (e : Event ρ χ ε κ) : Reaches C s₀ g → M.Admits C g e → M.step g e = some g' →
      Reaches C s₀ g'

/-- The run's last step performed a call: the trace it extends, the states around it. -/
def Performs (g g' : Config Ans α ρ σ) (tr : List (Call Ans)) (call : Call Ans) : Prop :=
  ∃ r op next c, g.thread = some ⟨r, .call op next, tr⟩ ∧ M.step g (.call c) = some g' ∧
    call = ⟨op, (M.exec op c g.state).1⟩

variable {M}

/-- The next operation of a running program can be performed. -/
theorem exists_performs {g : Config Ans α ρ σ} {r : ρ} {op : Op} {next : Ans op → Program Ans α}
    {tr : List (Call Ans)} (h : g.thread = some ⟨r, .call op next, tr⟩) (c : χ) :
    ∃ g', M.Performs g g' tr ⟨op, (M.exec op c g.state).1⟩ ∧
      g'.state = (M.exec op c g.state).2 := by
  refine ⟨⟨(M.exec op c g.state).2, some ⟨r, next (M.exec op c g.state).1,
    tr ++ [⟨op, (M.exec op c g.state).1⟩]⟩⟩, ⟨r, op, next, c, h, ?_, rfl⟩, rfl⟩
  simp only [step, h]

theorem reaches_of_runChecked {C : Conditions Ans σ ε κ} {K : Checks Ans σ ε κ}
    (henv : ∀ e s, K.env e s = true → C.env e s) (hcrash : ∀ k s, K.crash k s = true → C.crash k s)
    (hcall : ∀ tr s, K.call tr s = true → C.call tr s) {s₀ : σ} {g : Config Ans α ρ σ}
    (hg : M.Reaches C s₀ g) {es : List (Event ρ χ ε κ)} {g' : Config Ans α ρ σ}
    (h : M.runChecked K g es = some g') : M.Reaches C s₀ g' := by
  induction es generalizing g with
  | nil => cases h; exact hg
  | cons e es ih =>
      simp only [runChecked] at h
      split_ifs at h with hp
      obtain ⟨g₁, h₁, h₂⟩ := Option.bind_eq_some_iff.mp h
      refine ih (hg.step e ?_ h₁) h₂
      cases e with
      | env e => exact henv e _ hp
      | crash k => exact hcrash k _ hp
      | start r => trivial
      | call c =>
          simp only [Passes] at hp
          simp only [Admits]
          split
          · rename_i hth
            simp only [hth] at hp
            exact hcall _ _ hp
          · trivial

/-- A concrete run that passes its checks exhibits a reachable configuration. -/
theorem exists_reaches {C : Conditions Ans σ ε κ} {K : Checks Ans σ ε κ}
    (henv : ∀ e s, K.env e s = true → C.env e s) (hcrash : ∀ k s, K.crash k s = true → C.crash k s)
    (hcall : ∀ tr s, K.call tr s = true → C.call tr s) {s : σ} {l : List (Event ρ χ ε κ)}
    {P : Config Ans α ρ σ → Bool} (h : (M.runChecked K ⟨s, none⟩ l).any P = true) :
    ∃ g, M.Reaches C s g ∧ P g = true := by
  cases hg : M.runChecked K ⟨s, none⟩ l with
  | none => rw [hg] at h; cases h
  | some g => exact ⟨g, reaches_of_runChecked henv hcrash hcall .init hg, by rwa [hg] at h⟩

theorem exists_free_reaches {s : σ} {l : List (Event ρ χ ε κ)} {P : Config Ans α ρ σ → Bool}
    (h : (M.runChecked {} ⟨s, none⟩ l).any P = true) : ∃ g, M.Reaches {} s g ∧ P g = true :=
  exists_reaches (fun _ _ _ => trivial) (fun _ _ _ => trivial) (fun _ _ _ => trivial) h

variable {D : Discipline Ans σ χ} {C : Conditions Ans σ ε κ}

/-- The step lemma behind `reaches_safe`: the invariant and the thread's safety
survive any admitted event. -/
theorem step_safe (hexec : M.exec = D.exec) (hcall : ∀ tr s, C.call tr s → D.allowed tr s)
    (henv : ∀ e s s', C.env e s → D.inv s → M.env e s = some s' → D.inv s' ∧ D.rely s s')
    (hcrash : ∀ k s s', C.crash k s → D.inv s → M.crash k s = some s' → D.inv s')
    (hstart : ∀ r s, D.inv s → D.inv (M.onStart r s) ∧
      D.Safe (fun _ _ _ => True) (M.program r) [] (M.onStart r s))
    {g g' : Config Ans α ρ σ} {e : Event ρ χ ε κ} (hi : D.inv g.state)
    (hs : ∀ th, g.thread = some th → D.Safe (fun _ _ _ => True) th.program th.trace g.state)
    (ha : M.Admits C g e) (he : M.step g e = some g') :
    D.inv g'.state ∧
      ∀ th, g'.thread = some th → D.Safe (fun _ _ _ => True) th.program th.trace g'.state := by
  cases e with
  | env e =>
      obtain ⟨s', hs', rfl⟩ := Option.map_eq_some_iff.mp he
      obtain ⟨hi', hr⟩ := henv e g.state s' ha hi hs'
      exact ⟨hi', fun th hth => (hs th hth).rely hr⟩
  | crash k =>
      obtain ⟨s', hs', rfl⟩ := Option.map_eq_some_iff.mp he
      exact ⟨hcrash k g.state s' ha hi hs', fun th hth => by simp at hth⟩
  | start r =>
      simp only [step] at he
      split at he
      · cases he
        obtain ⟨hi', hsafe⟩ := hstart r g.state hi
        exact ⟨hi', fun th hth => by cases hth; exact hsafe⟩
      · cases he
  | call c =>
      simp only [step] at he
      split at he
      · cases he
      · cases he
        exact ⟨hi, fun th hth => by simp at hth⟩
      · rename_i r op next tr hth
        cases he
        simp only [Admits, hth] at ha
        have hd := hs _ hth g.state (D.rely_refl _) hi c _ _ (by rw [← hexec]) (hcall _ _ ha)
        exact ⟨hd.1, fun th hth' => by cases hth'; exact hd.2.2⟩

theorem reaches_safe (hexec : M.exec = D.exec) (hcall : ∀ tr s, C.call tr s → D.allowed tr s)
    (henv : ∀ e s s', C.env e s → D.inv s → M.env e s = some s' → D.inv s' ∧ D.rely s s')
    (hcrash : ∀ k s s', C.crash k s → D.inv s → M.crash k s = some s' → D.inv s')
    (hstart : ∀ r s, D.inv s → D.inv (M.onStart r s) ∧
      D.Safe (fun _ _ _ => True) (M.program r) [] (M.onStart r s))
    {s : σ} (h₀ : D.inv s) {g : Config Ans α ρ σ} (hg : M.Reaches C s g) :
    D.inv g.state ∧
      ∀ th, g.thread = some th → D.Safe (fun _ _ _ => True) th.program th.trace g.state := by
  induction hg with
  | init => exact ⟨h₀, fun th hth => by simp at hth⟩
  | step e _ ha he ih => exact step_safe hexec hcall henv hcrash hstart ih.1 ih.2 ha he

/-- A property of states that every operation and every step of the environment keeps. -/
theorem reaches_invariant {I : σ → Prop} (henv : ∀ e s s', I s → M.env e s = some s' → I s')
    (hcrash : ∀ k s s', I s → M.crash k s = some s' → I s')
    (hstart : ∀ r s, I s → I (M.onStart r s)) (hexec : ∀ op c s, I s → I (M.exec op c s).2) {s : σ}
    (h₀ : I s) {g : Config Ans α ρ σ} (hg : M.Reaches C s g) : I g.state := by
  induction hg with
  | init => exact h₀
  | @step g g' e _ _ he ih =>
      cases e with
      | env e =>
          obtain ⟨s', hs', rfl⟩ := Option.map_eq_some_iff.mp he
          exact henv e g.state s' ih hs'
      | crash k =>
          obtain ⟨s', hs', rfl⟩ := Option.map_eq_some_iff.mp he
          exact hcrash k g.state s' ih hs'
      | start r =>
          simp only [step] at he
          split at he
          · cases he
            exact hstart r g.state ih
          · cases he
      | call c =>
          simp only [step] at he
          split at he
          · cases he
          · cases he
            exact ih
          · cases he
            exact hexec _ c g.state ih

/-- The rule for an invariant `I` that a running program may break as long as it restores it
before it returns: `A` is what holds instead of `I` while the program runs. -/
theorem reaches_between {I : σ → Prop} {A : ρ → List (Call Ans) → σ → Prop}
    {P : ρ → List (Call Ans) → Op → Prop} {post : ρ → α → List (Call Ans) → Prop}
    (hprogram : ∀ r, (M.program r).Traces (P r) (post r) [])
    (henv : ∀ e s s', C.env e s → M.env e s = some s' →
      (I s → I s') ∧ ∀ r tr, A r tr s → A r tr s')
    (hcrash : ∀ k s s', C.crash k s → M.crash k s = some s' →
      (I s → I s') ∧ ∀ r tr, A r tr s → I s')
    (hstart : ∀ r s, I s → A r [] (M.onStart r s))
    (hcall : ∀ r tr op c s ans s', P r tr op → A r tr s → M.exec op c s = (ans, s') →
      C.call (tr ++ [⟨op, ans⟩]) s → A r (tr ++ [⟨op, ans⟩]) s')
    (hreturn : ∀ r a tr s, post r a tr → A r tr s → I s)
    {s : σ} (h₀ : I s) {g : Config Ans α ρ σ} (hg : M.Reaches C s g) :
    (g.thread = none → I g.state) ∧ ∀ th, g.thread = some th →
      A th.request th.trace g.state ∧ th.program.Traces (P th.request)
        (post th.request) th.trace := by
  induction hg with
  | init => exact ⟨fun _ => h₀, fun th hth => by simp at hth⟩
  | @step g g' e _ ha he ih =>
      cases e with
      | env e =>
          obtain ⟨s', hs', rfl⟩ := Option.map_eq_some_iff.mp he
          obtain ⟨hI, hA⟩ := henv e g.state s' ha hs'
          exact ⟨fun hth => hI (ih.1 hth), fun th hth => ⟨hA _ _ (ih.2 th hth).1, (ih.2 th hth).2⟩⟩
      | crash k =>
          obtain ⟨s', hs', rfl⟩ := Option.map_eq_some_iff.mp he
          obtain ⟨hI, hA⟩ := hcrash k g.state s' ha hs'
          refine ⟨fun _ => ?_, fun th hth => by simp at hth⟩
          cases hth : g.thread with
          | none => exact hI (ih.1 hth)
          | some th => exact hA _ _ (ih.2 th hth).1
      | start r =>
          simp only [step] at he
          split at he
          · rename_i hth
            cases he
            refine ⟨fun h => by simp at h, fun th hth' => ?_⟩
            cases hth'
            exact ⟨hstart r _ (ih.1 hth), hprogram r⟩
          · cases he
      | call c =>
          simp only [step] at he
          split at he
          · cases he
          · rename_i r a tr hth
            cases he
            exact ⟨fun _ => hreturn r a tr _ (ih.2 _ hth).2 (ih.2 _ hth).1, fun th hth' => by
              simp at hth'⟩
          · rename_i r op next tr hth
            cases he
            simp only [Admits, hth] at ha
            obtain ⟨hA, hP⟩ := ih.2 _ hth
            refine ⟨fun h => by simp at h, fun th hth' => ?_⟩
            cases hth'
            exact ⟨hcall r tr op c _ _ _ hP.1 hA rfl ha, hP.2 _⟩

/-- Every admitted call of every run meets the goal of the discipline. -/
theorem reaches_goal (hexec : M.exec = D.exec)
    {g g' : Config Ans α ρ σ} {tr : List (Call Ans)} {call : Call Ans} (hi : D.inv g.state)
    (hs : ∀ th, g.thread = some th → D.Safe (fun _ _ _ => True) th.program th.trace g.state)
    (hp : M.Performs g g' tr call) (ha : D.allowed (tr ++ [call]) g.state) :
    D.goal (tr ++ [call]) g.state g'.state := by
  obtain ⟨r, op, next, c, hth, hstep, rfl⟩ := hp
  simp only [step, hth] at hstep
  cases hstep
  rw [hexec] at ha ⊢
  exact (hs _ hth g.state (D.rely_refl _) hi c _ _ rfl ha).2.1

end Machine
end Interaction
