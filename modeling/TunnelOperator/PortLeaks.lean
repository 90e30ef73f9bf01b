import TunnelOperator.Finalizers
import TunnelOperator.LivePorts

/-!
# No port outlives its Tunnel

`Reconcile` allocates a port for a Tunnel that carries the finalizer and releases it in the
call that takes the finalizer off, so between two calls every key the allocator holds belongs
to a Tunnel that is stored. A `GetConfig` in flight writes the allocator from a list it read
earlier: if the Tunnel it loads has been retired meanwhile, nobody releases its key again.
-/

namespace TunnelOperator
open Interaction TunnelReconciler Scenario

/-- Every removal of the finalizer that the API server accepted was followed by a release. -/
def Releases (tr : Trace) : Prop :=
  ∀ x t, Answered tr (.updateTunnel x) (.ok t) → finalizerName ∉ x.finalizers →
    Answered tr (.release (tunnelKey t.key)) ()

theorem Releases.nil : Releases [] := fun _ _ h => by cases h

theorem Releases.step {tr : Trace} (h : Releases tr) (op : Op) (hop : op.dropsFinalizer = false)
    (a : op.Ans) : Releases (tr ++ [⟨op, a⟩]) := by
  intro x t hx hf
  rcases answered_append hx with hx | ⟨rfl, -⟩
  · exact (h x t hx hf).mono (subset_append_call _ _)
  · simp [Op.dropsFinalizer, hf] at hop

/-- The finalizer is taken off before anything is released. -/
def RemovesFirst (tr : Trace) (op : Op) : Prop :=
  op.dropsFinalizer = true → ∀ key, ¬ Answered tr (.release key) ()

theorem removesFirst_of_keeps {tr : Trace} {op : Op} (hop : op.dropsFinalizer = false) :
    RemovesFirst tr op := by
  intro hd
  rw [hop] at hd
  cases hd

namespace TunnelReconciler

variable {α : Type} {r : TunnelReconciler} {req : NamespacedName} {tr : Trace}

theorem keeps_releases {p : Prog α} (hp : p.Uses fun op => op.dropsFinalizer = false)
    (h : Releases tr) : p.Traces RemovesFirst (fun _ tr' => Releases tr') tr :=
  Program.Uses.traces (C := fun op => op.dropsFinalizer = false)
    (fun _ op h hop => ⟨removesFirst_of_keeps hop, fun a => h.step op hop a⟩) hp h

theorem removal_releases (h : Releases tr) (hnone : ∀ key, ¬ Answered tr (.release key) ())
    (context : String) (x : Tunnel) :
    (attempt context (perform (.updateTunnel x))).Traces RemovesFirst
      (fun y tr' => (∀ t, y = .ok t → Releases (tr' ++ [⟨.release (tunnelKey t.key), ()⟩])) ∧
        ∀ e, y = .error e → Releases tr') tr := by
  refine ⟨fun _ => hnone, fun a => ?_⟩
  cases a with
  | error e =>
      refine ⟨fun t ht => (by cases ht), fun _ _ x' t ht hf => ?_⟩
      rcases answered_append ht with ht | ⟨⟨⟩, ⟨⟩⟩
      exact (h x' t ht hf).mono (subset_append_call _ _)
  | ok t =>
      refine ⟨fun t' ht' x' t'' hx hf => ?_, fun e he => by cases he⟩
      cases ht'
      rcases answered_append (Reads.old (by simp) hx) with hx | ⟨⟨⟩, ⟨⟩⟩
      · exact (h x' t'' hx hf).mono fun c hc =>
          List.mem_append_left _ (List.mem_append_left _ hc)
      · exact answered_last _ (.release _) ()

theorem releaseForwarderPort_releases (hr : r.portAllocator = true) {t : Tunnel}
    (h : Releases (tr ++ [⟨.release (tunnelKey t.key), ()⟩])) :
    (r.releaseForwarderPort t).Traces RemovesFirst (fun _ tr' => Releases tr') tr := by
  unfold releaseForwarderPort
  rw [if_neg (by simp [hr])]
  refine ⟨removesFirst_of_keeps rfl, fun _ => ⟨removesFirst_of_keeps rfl, fun _ => ?_⟩⟩
  exact h.step .portAllocationsActiveDec rfl ()

theorem deleteGatewayResources_releases (h : Releases tr)
    (hnone : ∀ key, ¬ Answered tr (.release key) ()) (t : Tunnel) :
    (deleteGatewayResources t).Traces RemovesFirst
      (fun _ tr' => Releases tr' ∧ ∀ key, ¬ Answered tr' (.release key) ()) tr := by
  refine (deleteGatewayResources_uses (C := fun op => op.dropsFinalizer = false ∧
    ∀ key, op ≠ .release key) t (by simp [Op.dropsFinalizer]) (by simp [Op.dropsFinalizer])).traces
    (I := fun tr' => Releases tr' ∧ ∀ key, ¬ Answered tr' (.release key) ()) ?_ ⟨h, hnone⟩
  rintro tr op ⟨h, hnone⟩ ⟨hop, hne⟩
  refine ⟨fun _ => hnone, fun a => ⟨h.step op hop a, fun key ha => ?_⟩⟩
  exact hnone key (Reads.old (hne key) ha)

theorem notifyTunnelUpdate_releases (h : Releases tr) (t : Tunnel) (type : UpdateType) :
    (r.notifyTunnelUpdate t type).Traces RemovesFirst (fun _ tr' => Releases tr') tr :=
  keeps_releases (notifyTunnelUpdate_uses t type fun _ _ _ => rfl) h

theorem handleDeletion_releases (hr : r.portAllocator = true) (h : Releases tr)
    (hnone : ∀ key, ¬ Answered tr (.release key) ()) (t : Tunnel) :
    (r.handleDeletion t).Traces RemovesFirst (fun _ tr' => Releases tr') tr := by
  unfold handleDeletion
  by_cases hf : finalizerName ∈ t.finalizers
  · rw [if_neg (not_not.mpr hf)]
    refine traces_orReturn (Q := fun _ tr' => Releases tr' ∧
      ∀ key, ¬ Answered tr' (.release key) ())
      ((deleteGatewayResources_releases h hnone t).mono fun _ _ hx =>
        ⟨fun _ _ => hx, fun _ _ => hx.1⟩) ?_
    intro _ tr₁ h₁
    refine traces_orReturn (removal_releases h₁.1 h₁.2 _ _) fun t' tr₂ h₂ => ?_
    refine (releaseForwarderPort_releases hr h₂).seq fun _ tr₃ h₃ => ?_
    exact (notifyTunnelUpdate_releases h₃ _ _).seq fun _ _ h₄ => h₄
  · rw [if_pos hf]
    exact (releaseForwarderPort_releases hr (h.step (.release _) rfl ())).seq fun _ _ h₁ => h₁

theorem handleTerminated_releases (hr : r.portAllocator = true) (h : Releases tr)
    (hnone : ∀ key, ¬ Answered tr (.release key) ()) (t : Tunnel) :
    (r.handleTerminated t).Traces RemovesFirst (fun _ tr' => Releases tr') tr := by
  refine traces_orReturn (Q := fun _ tr' => Releases tr' ∧ ∀ key, ¬ Answered tr' (.release key) ())
    ((deleteGatewayResources_releases h hnone t).mono fun _ _ hx =>
      ⟨fun _ _ => hx, fun _ _ => hx.1⟩) ?_
  intro _ tr₁ h₁
  refine traces_orReturn (Q := fun t' tr' => Releases (tr' ++ [⟨.release (tunnelKey t'.key), ()⟩]))
    ?_ ?_
  · unfold dropFinalizer
    split_ifs
    · exact removal_releases h₁.1 h₁.2 _ _
    · exact ⟨fun _ _ => h₁.1.step (.release _) rfl (), fun _ _ => h₁.1⟩
  · intro t' tr₂ h₂
    refine (releaseForwarderPort_releases hr h₂).seq fun _ tr₃ h₃ => ?_
    refine (notifyTunnelUpdate_releases h₃ _ _).seq fun _ tr₄ h₄ =>
      ⟨removesFirst_of_keeps rfl, fun a => ?_⟩
    have h₅ : Releases (tr₄ ++ [⟨.deleteTunnel t'.key, a⟩]) := h₄.step _ rfl a
    rcases a with e | ⟨⟩ <;> exact h₅

theorem live_releases {p : Prog α} {post : α → Trace → Prop} (hp : p.Traces (Next r req) post tr)
    (hne : tr ≠ []) (hlive : ∀ t, Answered tr (.getTunnel req) (.ok t) → t.Live) (h : Releases tr) :
    p.Traces RemovesFirst (fun _ tr' => Releases tr') tr := by
  have hkeeps : ∀ {tr op}, Next r req tr op → (∀ t, Answered tr (.getTunnel req) (.ok t) → t.Live) →
      op.dropsFinalizer = false := by
    intro tr op hn hlive
    cases hd : op.dropsFinalizer with
    | false => rfl
    | true =>
        obtain ⟨t₀, hret, -⟩ := hn.drops hd
        exact absurd (hlive t₀ hret.read) hret.not_live
  have hrun := hp.keep (I := fun tr => tr ≠ [] ∧
    (∀ t, Answered tr (.getTunnel req) (.ok t) → t.Live) ∧ Releases tr) ?_ ⟨hne, hlive, h⟩
  · exact (hrun.imp fun _ _ hI => removesFirst_of_keeps (hkeeps hI.1 hI.2.2.1)).mono
      fun _ _ hx => hx.2.2.2
  · rintro tr op hn ⟨hne, hlive, h⟩ a
    have hget : op ≠ .getTunnel req := by
      rintro rfl
      exact hne hn.2
    exact ⟨by simp, fun t ht => hlive t (Reads.old hget ht), h.step op (hkeeps hn hlive) a⟩

/-- With a port allocator no `Reconcile` returns between the removal of the finalizer and the
release of the port. -/
theorem reconcile_releases (hr : r.portAllocator = true) (req : NamespacedName) :
    (r.reconcile req).Traces RemovesFirst (fun _ tr => Releases tr) [] := by
  refine ⟨removesFirst_of_keeps rfl, fun a => ?_⟩
  have hget : Releases ([] ++ [⟨.getTunnel req, a⟩]) := Releases.nil.step _ rfl a
  have hnone : ∀ key, ¬ Answered ([] ++ [⟨.getTunnel req, a⟩]) (.release key) () := fun key ha => by
    cases Reads.old (by simp) ha
  have hdone : ∀ {p : Prog (Except String Unit)} {tr},
      p.Traces RemovesFirst (fun _ tr' => Releases tr') tr →
      (done p).Traces RemovesFirst (fun _ tr' => Releases tr') tr := fun hp =>
    traces_orReturn (Q := fun _ tr' => Releases tr')
      (hp.mono fun _ _ hx => ⟨fun _ _ => hx, fun _ _ => hx⟩) fun _ _ hx => hx
  cases a with
  | error e => exact hdone (p := pure e.ignoreNotFound) hget
  | ok t₀ =>
      by_cases hl : t₀.Live
      · refine live_releases ((reconcile_traces r req).2 (.ok t₀)) (by simp) ?_ hget
        intro t ht
        rcases answered_append ht with ht | ⟨-, ⟨⟩⟩
        · cases ht
        · exact hl
      · simp only [Program.pure_bind]
        split_ifs with hdel hterm
        · exact hdone (handleDeletion_releases hr hget hnone t₀)
        · exact hdone (handleTerminated_releases hr hget hnone t₀)
        · exact absurd ⟨by simpa using hdel, hterm⟩ hl

end TunnelReconciler

/-- The Tunnel that `key` names is stored and carries the finalizer. -/
def World.Backs (w : World) (key : String) : Prop :=
  ∃ k uid, key = tunnelKey k ∧ w.Finalized k uid

/-- Every key the allocator holds is backed by a Tunnel or excused by `U`. -/
structure HoldsBacked (U : String → Prop) (w : World) : Prop where
  wf : w.WF
  allocator : w.allocator.WF
  held : ∀ {key p}, w.allocator.allocated.lookup key = some p → w.Backs key ∨ U key

/-- The finalizer has been taken off, and the port not been released yet. -/
structure Unreleased (req : NamespacedName) (tr : Trace) : Prop where
  retiring : ∃ t₀, Retiring req tr t₀
  removed : ∃ x t, Answered tr (.updateTunnel x) (.ok t) ∧ finalizerName ∉ x.finalizers
  pending : ¬ Answered tr (.release (tunnelKey req)) ()

def awaitsRelease (req : NamespacedName) (tr : Trace) (key : String) : Prop :=
  key = tunnelKey req ∧ Unreleased req tr

section Steps

variable {U U' : String → Prop} {w w' : World}

theorem World.Evolves.backs (h : w.Evolves w') {key : String} (hb : w.Backs key) :
    w'.Backs key := by
  obtain ⟨k, uid, hk, hf⟩ := hb
  exact ⟨k, uid, hk, h.finalized hf⟩

theorem HoldsBacked.step (h : HoldsBacked U w) (hwf : w'.WF) (ha : w'.allocator.WF)
    (hback : ∀ {key}, w.Backs key → w'.Backs key ∨ U' key)
    (hU : ∀ {key p}, U key → w'.allocator.allocated.lookup key = some p → U' key)
    (hnew : ∀ {key p}, w'.allocator.allocated.lookup key = some p →
      (∃ q, w.allocator.allocated.lookup key = some q) ∨ w'.Backs key) : HoldsBacked U' w' where
  wf := hwf
  allocator := ha
  held := fun {key p} hk => by
    rcases hnew hk with ⟨q, hq⟩ | hb
    · rcases h.held hq with hb | hu
      · exact hback hb
      · exact Or.inr (hU hu hk)
    · exact Or.inl hb

theorem HoldsBacked.sameAllocator (h : HoldsBacked U w) (hwf : w'.WF)
    (ha : w'.allocator = w.allocator) (hback : ∀ {key}, w.Backs key → w'.Backs key ∨ U' key)
    (hU : ∀ {key}, U key → U' key) : HoldsBacked U' w' := by
  refine h.step hwf (ha ▸ h.allocator) hback (fun hu _ => hU hu) fun {key p} hk => ?_
  rw [ha] at hk
  exact Or.inl ⟨p, hk⟩

theorem HoldsBacked.loadExisting (h : HoldsBacked U w) {key : String} {port : Int}
    (hcond : (∃ q, w.allocator.allocated.lookup key = some q) ∨ w.Backs key) :
    HoldsBacked U { w with allocator := w.allocator.loadExisting key port } := by
  have hs : w.SameTunnels { w with allocator := w.allocator.loadExisting key port } :=
    ⟨rfl, rfl, rfl⟩
  refine h.step (hs.wf h.wf) (PortAllocator.loadExisting_wf h.allocator _ _)
    (fun hb => Or.inl (hs.evolves.backs hb)) (fun hu _ => hu) fun {k p} hk => ?_
  rcases w.allocator.loadExisting_cases key port with ⟨he, -⟩ | ⟨-, u, he, -⟩
  · rw [he] at hk
    exact Or.inl ⟨p, hk⟩
  · rw [he] at hk
    replace hk := (Table.lookup_insert_eq _ _ _ _).symm.trans hk
    split_ifs at hk with hkey
    · rw [hkey]
      exact hcond.imp_right hs.evolves.backs
    · exact Or.inl ⟨p, hk⟩

theorem HoldsBacked.allocate (h : HoldsBacked U w) {key : String} (start : ℕ) (hb : w.Backs key)
    (hU : ∀ {key}, U key → U' key) :
    HoldsBacked U' { w with allocator := (w.allocator.allocate start key).2 } := by
  have hs : w.SameTunnels { w with allocator := (w.allocator.allocate start key).2 } :=
    ⟨rfl, rfl, rfl⟩
  refine h.step (hs.wf h.wf) (PortAllocator.allocate_wf h.allocator _ _)
    (fun hb => Or.inl (hs.evolves.backs hb)) (fun hu _ => hU hu) fun {k p} hk => ?_
  rcases PortAllocator.allocate_cases h.allocator start key with ⟨e, he⟩ | ⟨q, he, -⟩ | ⟨q, he, -⟩
  · rw [he] at hk
    exact Or.inl ⟨p, hk⟩
  · rw [he] at hk
    exact Or.inl ⟨p, hk⟩
  · rw [he] at hk
    replace hk := (Table.lookup_insert_eq _ _ _ _).symm.trans hk
    split_ifs at hk with hkey
    · rw [hkey]
      exact Or.inr (hs.evolves.backs hb)
    · exact Or.inl ⟨p, hk⟩

theorem HoldsBacked.release (h : HoldsBacked U w) {key : String}
    (hU : ∀ {k}, U k → k ≠ key → U' k) :
    HoldsBacked U' { w with allocator := w.allocator.release key } := by
  have hs : w.SameTunnels { w with allocator := w.allocator.release key } := ⟨rfl, rfl, rfl⟩
  have hold : ∀ {k p}, (w.allocator.release key).allocated.lookup k = some p →
      k ≠ key ∧ w.allocator.allocated.lookup k = some p := by
    intro k p hk
    rw [PortAllocator.release_lookup] at hk
    split_ifs at hk with hkey
    exact ⟨hkey, hk⟩
  exact h.step (hs.wf h.wf) (PortAllocator.release_wf h.allocator _)
    (fun hb => Or.inl (hs.evolves.backs hb)) (fun hu hk => hU hu (hold hk).1)
    fun hk => Or.inl ⟨_, (hold hk).2⟩

theorem exec_updateTunnel_answered {t₀ : Tunnel} {fs : List String} {c : Choice}
    {ans : Except ApiError Tunnel} (hc : c.applied = false) (hs : Seen t₀ w)
    (h : World.exec (.updateTunnel { t₀ with finalizers := fs }) c w = (ans, w')) :
    (w' = w ∧ ∃ e, ans = .error e) ∨ (w' = w.storeTunnel { t₀ with finalizers := fs } ∧
      ans = .ok { t₀ with finalizers := fs, resourceVersion := w.version + 1 }) := by
  simp only [World.exec, World.writeResult, hc] at h
  cases hf : c.failure with
  | some m =>
      rw [hf] at h
      obtain ⟨rfl, rfl⟩ := Prod.mk.inj h
      exact Or.inl ⟨rfl, _, rfl⟩
  | none =>
      rw [hf] at h
      rcases updateTunnel_onto_seen hs fs with ⟨e, he⟩ | ⟨-, he⟩
      · obtain ⟨rfl, rfl⟩ := Prod.mk.inj (he.symm.trans h)
        exact Or.inl ⟨rfl, _, rfl⟩
      · obtain ⟨rfl, rfl⟩ := Prod.mk.inj (he.symm.trans h)
        exact Or.inr ⟨rfl, rfl⟩

end Steps

section Reconcile

variable {r : TunnelReconciler} {req : NamespacedName} {tr : Trace} {w w' : World}

theorem Unreleased.extend (h : Unreleased req tr) {op : Op} (a : op.Ans)
    (hop : op ≠ .release (tunnelKey req)) : Unreleased req (tr ++ [⟨op, a⟩]) := by
  obtain ⟨⟨t₀, ht₀⟩, ⟨x, t, hx, hf⟩, hp⟩ := h
  exact ⟨⟨t₀, ht₀.mono (subset_append_call _ _)⟩, ⟨x, t, hx.mono (subset_append_call _ _), hf⟩,
    fun hrel => hp (Reads.old hop hrel)⟩

theorem HoldsBacked.removal (h : HoldsBacked (awaitsRelease req tr) w) (hr : Reads req tr w)
    (hu : Unpatched tr) {t₀ : Tunnel} (hret : Retiring req tr t₀) {c : Choice}
    (hc : c.applied = false) {ans : Except ApiError Tunnel}
    (he : World.exec (.updateTunnel (removeFinalizer t₀)) c w = (ans, w'))
    (hwf : w'.WF) (hrel : ¬ Answered tr (.release (tunnelKey req)) ()) :
    HoldsBacked (awaitsRelease req (tr ++ [⟨.updateTunnel (removeFinalizer t₀), ans⟩])) w' := by
  have hold : ∀ {key}, awaitsRelease req tr key →
      awaitsRelease req (tr ++ [⟨.updateTunnel (removeFinalizer t₀), ans⟩]) key :=
    fun hu => ⟨hu.1, hu.2.extend _ (by simp)⟩
  rcases exec_updateTunnel_answered hc (hr.seen hu hret.read) he with ⟨rfl, -⟩ | ⟨rfl, rfl⟩
  · exact h.sameAllocator hwf rfl Or.inl hold
  · refine h.sameAllocator hwf (World.storeTunnel_sameProcess _ _).allocator ?_ hold
    intro key hb
    obtain ⟨k, uid, rfl, hf⟩ := hb
    by_cases hk : k = t₀.key
    · refine Or.inr ⟨by rw [hk, hr.key hret.read], ⟨t₀, hret.mono (subset_append_call _ _)⟩,
        ⟨_, _, answered_last _ (.updateTunnel _) _, removeFinalizer_drops t₀⟩, fun ha => hrel ?_⟩
      exact Reads.old (by simp) ha
    · exact Or.inl ⟨k, uid, rfl, World.storeTunnel_finalized_other hk hf⟩

/-- Every call of a reconciliation keeps the assertion, if a removal of the finalizer that
fails has not taken effect. -/
theorem HoldsBacked.call (h : HoldsBacked (awaitsRelease req tr) w) (hr : Reads req tr w) {op : Op}
    (hn : Next r req tr op) (hp : PatchesOnce r tr op) (hfirst : RemovesFirst tr op) {c : Choice}
    (hc : op.dropsFinalizer = true → c.applied = false) {ans : op.Ans}
    (he : World.exec op c w = (ans, w')) :
    HoldsBacked (awaitsRelease req (tr ++ [⟨op, ans⟩])) w' := by
  have hwf : w'.WF := by simpa [he] using World.exec_wf h.wf op c
  cases hd : op.dropsFinalizer with
  | true =>
      obtain ⟨t₀, hret, -, -, rfl⟩ := hn.drops hd
      exact h.removal hr (hp.unpatched (by simp)) hret (hc hd) he hwf (hfirst hd _)
  | false =>
      have hback : ∀ {key}, w.Backs key → w'.Backs key := by
        rintro key ⟨k, uid, hk, hf⟩
        have hf' := World.exec_finalized h.wf hd c hf
        rw [he] at hf'
        exact ⟨k, uid, hk, hf'⟩
      have hother : (∀ k, op ≠ .allocate k) → (∀ k, op ≠ .release k) →
          HoldsBacked (awaitsRelease req (tr ++ [⟨op, ans⟩])) w' := by
        intro hal hrel
        have ha : w'.allocator = w.allocator := by
          simpa [he] using World.exec_allocator hal hrel c w
        exact h.sameAllocator hwf ha (fun hb => Or.inl (hback hb))
          fun hu => ⟨hu.1, hu.2.extend ans (hrel _)⟩
      cases op with
      | allocate key =>
          obtain ⟨-, rfl⟩ := Prod.mk.inj he
          obtain ⟨t₀, base, pod, hact, -, -, -, rfl⟩ := hn
          have hheld := (hr.active_held (hp.unpatched (by simp)) hact).finalized
          exact h.allocate c.start ⟨base.key, base.uid, rfl, hheld⟩
            fun hu => ⟨hu.1, hu.2.extend ans (by simp)⟩
      | release key =>
          obtain ⟨-, rfl⟩ := Prod.mk.inj he
          obtain ⟨t₀, t, hdrop, -, rfl⟩ := hn
          have hkey : t.key = t₀.key := by rw [hr.dropped_eq hdrop]
          rw [hr.key hdrop.retiring.read] at hkey
          exact h.release fun hu hne => absurd (hkey ▸ hu.1) hne
      | _ => exact hother (by simp) (by simp)

theorem HoldsBacked.returned (h : HoldsBacked (awaitsRelease req tr) w) (hr : Reads req tr w)
    (hrel : Releases tr) : HoldsBacked (fun _ => False) w := by
  refine h.sameAllocator h.wf rfl Or.inl ?_
  rintro key ⟨-, -, ⟨x, t, hx, hf⟩, hpending⟩
  obtain ⟨ht, t₀, ht₀, hx', -⟩ := hr.origin hx
  have hkey : t.key = t₀.key := by rw [ht, hx']
  rw [hr.key ht₀] at hkey
  exact hpending (hkey ▸ hrel x t hx hf)

end Reconcile

def oneProcess : Machine.Conditions Op.Ans Serving Serving.Outside (List Tunnel) where
  crash := fun _ _ => False

def neverRestarts : Machine.Checks Op.Ans Serving Serving.Outside (List Tunnel) where
  crash := fun _ _ => false

/-- No Tunnel is stored under `k`, and the allocator holds its key. -/
def stranded (g : Config Op.Ans (Except String Result) NamespacedName Serving)
    (k : NamespacedName) :
    Bool :=
  g.thread.isNone && g.state.calls.isEmpty && (g.state.world.tunnels.lookup k).isNone &&
    (g.state.world.allocator.getPort (tunnelKey k)).isSome

/-- If the `Update` that takes the finalizer off takes effect and yet fails, the retry finds no
Tunnel and nobody releases the port. -/
theorem failed_removal_strands_port : ∃ g,
    (servingOperator allocatingReconciler allocatingServer 1 2).Reaches oneProcess
      ⟨World.initial (PortAllocator.new 1 2), []⟩ g ∧ stranded g key = true :=
  Machine.exists_reaches (K := neverRestarts) (fun _ _ _ => trivial) (fun _ _ h => by cases h)
    (fun _ _ _ => trivial)
    (l := provision key 0 ++ [.env (.cluster (.deleteTunnel key)), .start key] ++ calls 3 ++
      [.call { failure := some "timeout", applied := true }] ++ calls 1 ++ [.start key] ++ calls 2)
    (P := fun g => stranded g key) (by rfl)

/-- A removal of the finalizer that fails has not taken effect, so that it is retried. -/
def Serving.execRetried (op : Op) (c : Choice) (s : Serving) : op.Ans × Serving :=
  Serving.exec op { c with applied := c.applied && !op.dropsFinalizer } s

def retryingOperator (r : TunnelReconciler) (cfg : ServerConfig) (minPort maxPort : Int) :
    Machine Op.Ans (Except String Result) NamespacedName Serving Choice Serving.Outside
      (List Tunnel) :=
  { servingOperator r cfg minPort maxPort with exec := Serving.execRetried }

/-- The next step of the call gives no port to a key that holds none, unless the Tunnel of
this key is stored with the finalizer and so has yet to be released. -/
def loadsBacked (i : ℕ) (s : Serving) : Bool :=
  match s.calls[i]? with
  | some (.call (.loadExisting key _) _) =>
      (s.world.allocator.getPort key).isSome ||
        s.world.tunnels.values.any fun t => tunnelKey t.key = key &&
        decide (finalizerName ∈ t.finalizers)
  | _ => true

/-- One process, whose `GetConfig` calls load backed keys only. -/
def keepsBacked : Machine.Conditions Op.Ans Serving Serving.Outside (List Tunnel) where
  env := fun e s => match e with
    | .serve i _ => loadsBacked i s = true
    | _ => True
  crash := fun _ _ => False

theorem Serving.serve_backed {U : String → Prop} {i : ℕ} {c : ServerChoice} {s s' : Serving}
    (h : HoldsBacked U s.world) (hcond : loadsBacked i s = true) (hs : s.serve i c = some s') :
    HoldsBacked U s'.world ∧ s.world.Evolves s'.world := by
  unfold Serving.serve at hs
  split at hs
  · cases hs
  · cases hs
    exact ⟨h, World.Evolves.refl _⟩
  · rename_i op next hcall
    cases hs
    rcases World.serverExec_cases op c s.world with he | ⟨key, port, rfl, he⟩
    · simp only [he]
      exact ⟨h, World.Evolves.refl _⟩
    · simp only [he]
      refine ⟨h.loadExisting ?_, World.SameTunnels.evolves ⟨rfl, rfl, rfl⟩⟩
      simp only [loadsBacked, hcall, Bool.or_eq_true, PortAllocator.getPort] at hcond
      refine hcond.imp Option.isSome_iff_exists.mp fun hany => ?_
      obtain ⟨t, ht, hkey⟩ := List.any_eq_true.mp hany
      simp only [Bool.and_eq_true, decide_eq_true_eq] at hkey
      obtain ⟨k, hk⟩ := (Table.mem_values_iff _ _).mp ht
      exact ⟨k, t.uid, by rw [← hkey.1, h.wf.key hk], t, hk, rfl, hkey.2⟩

theorem Serving.outside_backed {U : String → Prop} {cfg : ServerConfig} {e : Serving.Outside}
    {s s' : Serving} (h : HoldsBacked U s.world) (hcond : keepsBacked.env e s)
    (hs : s.outside cfg e = some s') : HoldsBacked U s'.world ∧ s.world.Evolves s'.world := by
  cases e with
  | cluster e =>
      obtain ⟨w, hw, rfl⟩ := Option.map_eq_some_iff.mp hs
      obtain ⟨hwf, hev⟩ := World.outside_evolves h.wf hw
      exact ⟨h.sameAllocator hwf (World.outside_sameProcess hw).allocator
        (fun hb => Or.inl (hev.backs hb)) id, hev⟩
  | getConfig =>
      cases hs
      exact ⟨h, World.Evolves.refl _⟩
  | serve i c => exact Serving.serve_backed h hcond hs

theorem initial_holdsBacked (minPort maxPort : Int) :
    HoldsBacked (fun _ => False) (World.initial (PortAllocator.new minPort maxPort)) where
  wf := World.initial_wf _
  allocator := PortAllocator.new_wf _ _
  held := fun hk => by
    rw [World.initial, PortAllocator.new_allocated] at hk
    cases hk

/-- In every run in which `GetConfig` loads backed keys only, each key the allocator holds is
that of a stored Tunnel, unless the running `Reconcile` is retiring a Tunnel. -/
theorem held_ports_have_tunnels (r : TunnelReconciler) (hr : r.portAllocator = true)
    (cfg : ServerConfig) (minPort maxPort : Int)
    {g : Config Op.Ans (Except String Result) NamespacedName Serving}
    (hg : (retryingOperator r cfg minPort maxPort).Reaches keepsBacked
      ⟨World.initial (PortAllocator.new minPort maxPort), []⟩ g)
    (hretired : ∀ th t₀, g.thread = some th → ¬ Retiring th.request th.trace t₀)
    {key : String} {p : Int} (hk : g.state.world.allocator.allocated.lookup key = some p) :
    ∃ k t, key = tunnelKey k ∧ g.state.world.tunnels.lookup k = some t := by
  have hrun := Machine.reaches_between (M := retryingOperator r cfg minPort maxPort)
    (C := keepsBacked) (I := fun s => HoldsBacked (fun _ => False) s.world)
    (A := fun req tr s => HoldsBacked (awaitsRelease req tr) s.world ∧ Reads req tr s.world)
    (fun req => (reconcile_logic r req).and (reconcile_releases hr req))
    (fun e s s' hc he => ⟨fun h => (Serving.outside_backed h hc he).1, fun req tr h => ?_⟩)
    (fun listed s s' hc => hc.elim)
    (fun req s h => ⟨h.sameAllocator h.wf rfl Or.inl False.elim, Reads.nil req _⟩)
    (fun req tr op c s ans s' hn h he _ => ?_)
    (fun req a tr s hpost h => h.1.returned h.2 hpost.2)
    (initial_holdsBacked minPort maxPort) hg
  · have hback : g.state.world.Backs key := by
      cases hth : g.thread with
      | none => exact ((hrun.1 hth).held hk).resolve_right id
      | some th =>
          refine ((hrun.2 th hth).1.1.held hk).resolve_right ?_
          rintro ⟨-, ⟨t₀, hret⟩, -, -⟩
          exact hretired th t₀ hth hret
    obtain ⟨k, uid, hkey, t, ht, -⟩ := hback
    exact ⟨k, t, hkey, ht⟩
  · obtain ⟨hb, hev⟩ := Serving.outside_backed h.1 hc he
    exact ⟨hb, h.2.evolves hev⟩
  · have hw : World.exec op { c with applied := c.applied && !op.dropsFinalizer } s.world =
        (ans, s'.world) := by
      obtain ⟨h₁, rfl⟩ := Prod.mk.inj he
      exact Prod.ext h₁ rfl
    exact ⟨h.1.call h.2 hn.1.1 hn.1.2 hn.2 (fun hd => by simp [hd]) hw,
      h.2.step h.1.wf hn.1 hw⟩

def backedChecks : Machine.Checks Op.Ans Serving Serving.Outside (List Tunnel) where
  env := fun e s => match e with
    | .serve i _ => loadsBacked i s
    | _ => true
  crash := fun _ _ => false

/-- A `GetConfig` lists a Tunnel and loads its port while another Tunnel is retired. -/
theorem held_ports_have_tunnels_retired : ∃ g t,
    (retryingOperator allocatingReconciler allocatingServer 1 2).Reaches keepsBacked
      ⟨World.initial (PortAllocator.new 1 2), []⟩ g ∧
      g.state.world.allocator.allocated.lookup (tunnelKey key) = some 1 ∧
      g.state.world.tunnels.lookup key = some t := by
  obtain ⟨g, hg, hP⟩ := Machine.exists_reaches
    (M := retryingOperator allocatingReconciler allocatingServer 1 2) (C := keepsBacked)
    (K := backedChecks) (s := ⟨World.initial (PortAllocator.new 1 2), []⟩)
    (fun e _ h => by cases e <;> first | exact h | trivial) (fun _ _ h => by cases h)
    (fun _ _ _ => trivial)
    (l := provision key 0 ++ confirm key ++ provision otherKey 0 ++
      [.env .getConfig, .env (.serve 0 {})] ++ remove otherKey ++ [.env (.serve 0 {})])
    (P := fun g => g.thread.isNone && g.state.world.allocator.getPort (tunnelKey key) = some 1)
      (by rfl)
  simp only [Bool.and_eq_true, decide_eq_true_eq, Option.isNone_iff_eq_none] at hP
  obtain ⟨k, t, hk, ht⟩ := held_ports_have_tunnels allocatingReconciler rfl allocatingServer 1 2 hg
    (fun th _ hth => by rw [hP.1] at hth; cases hth) hP.2
  exact ⟨g, t, hg, hP.2, tunnelKey_injective hk ▸ ht⟩

/-- A `GetConfig` that listed a Tunnel before it was deleted and reconciled gives its port back
to the key, and nobody releases it any more. -/
theorem loaded_port_outlives_tunnel : ∃ g,
    (retryingOperator allocatingReconciler allocatingServer 1 2).Reaches oneProcess
      ⟨World.initial (PortAllocator.new 1 2), []⟩ g ∧ g.thread = none ∧ g.state.calls = [] ∧
      g.state.world.allocator.allocated.lookup (tunnelKey key) = some 1 ∧
      ∀ k t, tunnelKey k = tunnelKey key → g.state.world.tunnels.lookup k ≠ some t := by
  obtain ⟨g, hg, hP⟩ := Machine.exists_reaches
    (M := retryingOperator allocatingReconciler allocatingServer 1 2) (C := oneProcess)
    (K := neverRestarts) (s := ⟨World.initial (PortAllocator.new 1 2), []⟩)
    (fun _ _ _ => trivial) (fun _ _ h => by cases h) (fun _ _ _ => trivial)
    (l := provision key 0 ++ confirm key ++ [.env .getConfig, .env (.serve 0 {})] ++ remove key ++
      [.env (.serve 0 {}), .env (.serve 0 {})])
    (P := fun g => stranded g key && g.state.world.allocator.getPort (tunnelKey key) = some 1)
      (by rfl)
  simp only [stranded, Bool.and_eq_true, decide_eq_true_eq, Option.isNone_iff_eq_none,
    List.isEmpty_iff] at hP
  obtain ⟨⟨⟨⟨hth, hcalls⟩, hnone⟩, -⟩, hport⟩ := hP
  refine ⟨g, hg, hth, hcalls, hport, fun k t hk ht => ?_⟩
  rw [tunnelKey_injective hk, hnone] at ht
  cases ht

end TunnelOperator
