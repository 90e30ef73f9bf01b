import TunnelOperator.GenuineMappings
import TunnelOperator.ReadyGateway

/-!
# Ready means the forwarders have the Tunnel

`MissingAcks` is asked before the phase becomes Ready, and it answers for the streams that are
registered. Its table outlives a Tunnel object while the revisions of the next object of the
same name start again, and it is not asked when the gateway cannot be reached. In every run in
which neither matters, each forwarder whose stream was there throughout a `Reconcile` that
commits Ready has applied a mapping of that very object at that revision.
-/

namespace TunnelOperator
open Interaction TunnelReconciler Scenario

def Fleet.Outside.creates : Fleet.Outside → Option NamespacedName
  | .cluster e => e.creates
  | _ => none

/-- No reconciliation patches the status of a Tunnel that it read as Ready and whose ready Pod it
cannot confirm. -/
def ConfirmsReady (tr : Trace) : Prop :=
  ∀ t₀ pod x base a, ReadPod tr t₀ pod → Answered tr (.patchStatus x base) a →
    t₀.status.phase = .ready → pod.status.phase ≠ .failed → pod.status.phase ≠ .succeeded →
    isPodReady pod = true → ¬ Unconfirmed tr pod

def CountsOn (tr : Trace) : Prop :=
  ∀ x base a, Answered tr (.patchStatus x base) a → base.status.mappingRevision < 2 ^ 63 - 1

def unambiguous : Machine.Conditions Op.Ans Fleet Fleet.Outside Empty where
  env := fun e s => ∀ k, e.creates = some k → s.Quiet k
  call := fun tr _ => ConfirmsReady tr ∧ CountsOn tr

/-- The forwarder of a stream has applied a mapping of the object with at least the revision. -/
def Fleet.HasApplied (s : Fleet) (stream : ForwarderStream) (uid : ℕ) (revision : Int) : Prop :=
  ∃ m, (stream.id, m) ∈ s.applied ∧ m.issuer = uid ∧ revision ≤ m.revision

/-- Every stream that was there all the time belongs to such a forwarder. -/
def Fleet.AllApplied (s : Fleet) (uid : ℕ) (revision : Int) : Prop :=
  ∀ ref ∈ s.present, ∀ stream, s.server.streams.lookup ref = some stream →
    s.HasApplied stream uid revision

/-- The status patch at the end of the trace commits Ready only for what the forwarders have. -/
def ReadyApplied (tr : Trace) (s s' : Fleet) : Prop :=
  ∀ tr' x base a, tr = tr' ++ [⟨.patchStatus x base, a⟩] →
    ∀ k t, s'.world.tunnels.lookup k = some t →
    s.world.tunnels.lookup k ≠ some t → t.status.phase = .ready →
    s.AllApplied t.uid t.status.mappingRevision

def fleetDiscipline : Discipline Op.Ans Fleet Choice where
  exec := Fleet.exec
  allowed := fun tr _ => ConfirmsReady tr ∧ CountsOn tr
  inv := Fleet.Sound
  rely := Fleet.Keeps
  goal := ReadyApplied
  rely_refl := Fleet.Keeps.refl
  rely_trans := Fleet.Keeps.trans

/-- What the answers of `MissingAcks` have told a running reconciliation. -/
def AcksChecked (req : NamespacedName) (tr : Trace) (s : Fleet) : Prop :=
  ∀ ns name revision, Answered tr (.missingAcks ns name revision) [] → 1 ≤ revision →
    ∀ t₀, Answered tr (.getTunnel req) (.ok t₀) → s.AllApplied t₀.uid revision

namespace Fleet

variable {s s' : Fleet}

theorem outside_steps {cfg : ServerConfig} (h : s.Sound) {e : Outside}
    (hs : s.outside cfg e = some s') (hquiet : ∀ k, e.creates = some k → s.Quiet k) :
    s'.Sound ∧ Keeps s s' := by
  cases e with
  | cluster e =>
      obtain ⟨w, hw, rfl⟩ := Option.map_eq_some_iff.mp hs
      exact cluster_steps h hw hquiet
  | join id => exact join_steps h hs
  | list id c => exact list_steps h hs
  | serve id c => exact serve_steps h hs
  | apply id deny =>
      obtain ⟨moved, hm, rfl⟩ := Option.map_eq_some_iff.mp hs
      obtain ⟨f, hf, hm⟩ := Option.bind_eq_some_iff.mp hm
      exact advance_steps h ((h.forwarders hf).apply hm)
  | register id => exact register_steps h hs
  | send id => exact send_steps h hs
  | receive id deny =>
      obtain ⟨moved, hm, rfl⟩ := Option.map_eq_some_iff.mp hs
      obtain ⟨f, hf, hm⟩ := Option.bind_eq_some_iff.mp hm
      exact advance_steps h ((h.forwarders hf).receive hm)
  | disconnect id =>
      obtain ⟨f', hm, rfl⟩ := Option.map_eq_some_iff.mp hs
      obtain ⟨f, hf, hm⟩ := Option.bind_eq_some_iff.mp hm
      exact advance_unapplied h ((h.forwarders hf).disconnect hm)
  | ack id outcome => exact ack_steps h hs
  | deliver i => exact deliver_steps h hs
  | endStream ref => exact endStream_steps h hs

theorem AllApplied.keeps {uid : ℕ} {revision : Int} (h : s.AllApplied uid revision)
    (hk : Keeps s s') :
    s'.AllApplied uid revision := by
  intro ref href stream' hl'
  obtain ⟨href, hback⟩ := hk.streams ref href
  obtain ⟨stream, hl, hid⟩ := hback stream' hl'
  obtain ⟨m, hm, hrest⟩ := h ref href stream hl
  exact ⟨m, hid ▸ hk.applied hm, hrest⟩

/-- The forwarders of the registered streams that `MissingAcks` does not report have applied a
mapping of the stored Tunnel. -/
theorem Sound.allApplied (h : s.Sound) {k : NamespacedName} {t : Tunnel}
    (ht : s.world.tunnels.lookup k = some t) {revision : Int} (hpos : 1 ≤ revision)
    (hmissing : s.server.missingAcks k.ns k.name revision = []) : s.AllApplied t.uid revision := by
  intro ref _ stream hl
  have hmem : stream.id ∈ (s.server.streams.values.map (·.id)).dedup :=
    List.mem_dedup.mpr (List.mem_map.mpr ⟨stream, (Table.mem_values_iff _ _).mpr ⟨ref, hl⟩, rfl⟩)
  have hle : ¬ s.server.ackedRevision stream.id (tunnelKey k) < revision := by
    have hnone := List.filter_eq_nil_iff.mp hmissing stream.id hmem
    rw [decide_eq_true_eq] at hnone
    exact hnone
  have hacked : 0 < s.server.ackedRevision stream.id (tunnelKey k) := by omega
  obtain ⟨m, hm, hkey, hrev, hgen⟩ := h.acked hacked
  exact ⟨m, hm, hgen.issuer hkey ht, by omega⟩

theorem exec_refines {op : Op} {c : Choice} {ans : op.Ans} (he : exec op c s = (ans, s')) :
    ∃ c', World.exec op c' s.world = (ans, s'.world) := by
  cases op with
  | missingAcks ns name revision =>
      cases he
      exact ⟨{ c with missing := s.server.missingAcks ns name revision }, rfl⟩
  | notifyUpdate u =>
      cases he
      exact ⟨c, rfl⟩
  | _ =>
      cases he
      exact ⟨c, rfl⟩

end Fleet

theorem int64Succ_eq {n : Int} (h₀ : 0 ≤ n) (h : n < 2 ^ 63 - 1) : int64Succ n = n + 1 := by
  unfold int64Succ
  rw [Int.bmod_eq_of_le] <;> omega

section Reconcile

variable {r : TunnelReconciler} {req : NamespacedName} {tr : Trace} {s s' : Fleet}

theorem TunnelReconciler.Mapped.revision_pos {t₀ base m : Tunnel} {pod : Pod}
    {allocated changed : Bool} (hm : Mapped r req tr t₀ base pod allocated changed m)
    (hbase : Counted base.status) (hlt : base.status.mappingRevision < 2 ^ 63 - 1) :
    1 ≤ m.status.mappingRevision := by
  cases hc : changed with
  | true =>
      have hnonneg := hbase.1
      rw [hm.mappingRevision, hc, if_pos rfl, int64Succ_eq hnonneg hlt]
      omega
  | false =>
      have hname : m.status.gatewayPodName ≠ "" := by
        rw [hm.gatewayPodName]
        exact fun he => absurd (String.append_eq_empty_iff.mp he).1 (by decide)
      rw [hm.eq_of_unchanged hc] at hname ⊢
      exact hbase.2 hname

theorem AcksChecked.keeps (h : AcksChecked req tr s) (hk : Fleet.Keeps s s') :
    AcksChecked req tr s' :=
  fun ns name revision hans hpos t₀ ht => (h ns name revision hans hpos t₀ ht).keeps hk

theorem AcksChecked.extend (h : AcksChecked req tr s) {op : Op} {ans : op.Ans}
    (hn : Next r req tr op) (hop : ∀ ns name revision, op ≠ .missingAcks ns name revision) :
    AcksChecked req (tr ++ [⟨op, ans⟩]) s := by
  intro ns name revision hans hpos t₀ ht
  replace hans := Reads.old (hop ns name revision) hans
  by_cases hget : op = .getTunnel req
  · subst hget
    obtain ⟨-, rfl⟩ := hn
    cases hans
  · exact h ns name revision hans hpos t₀ (Reads.old hget ht)

/-- `MissingAcks` is asked about the Tunnel that is held in the store. -/
theorem AcksChecked.missingAcks (h : AcksChecked req tr s) (hr : Reads req tr s.world)
    (hu : Unpatched tr) (hi : s.Sound) {ns name : String} {revision : Int}
    (hn : Next r req tr (.missingAcks ns name revision)) :
    AcksChecked req
      (tr ++ [⟨.missingAcks ns name revision, s.server.missingAcks ns name revision⟩]) s := by
  intro ns' name' revision' hans hpos t₀ ht
  replace ht := Reads.old (by simp) ht
  rcases answered_append hans with hans | ⟨⟨⟩, heq⟩
  · exact h ns' name' revision' hans hpos t₀ ht
  · obtain ⟨t₁, base, pod, allocated, changed, m, hm, rfl, rfl, -⟩ := hn
    have hbase := hr.active_eq hm.active
    obtain rfl := hr.unique ht hm.active.read
    obtain ⟨t, hl, hlat, -⟩ := hr.active_held hu hm.active
    have huid : t.uid = t₁.uid := by
      rw [hlat.uid, hbase]
    rw [← huid]
    refine hi.allApplied (k := m.key) ?_ hpos (eq_of_heq heq).symm
    rw [hm.key_eq]
    exact hl

theorem counted_step {op : Op} {c : Choice} {ans : op.Ans} {w w' : World} (hn : Next r req tr op)
    (hp : PatchesOnce r tr op) (hr : Reads req tr w) (hw : w.WF)
    (hi : ∀ {k t}, w.tunnels.lookup k = some t → Counted t.status)
    (he : World.exec op c w = (ans, w')) (hcounts : CountsOn (tr ++ [⟨op, ans⟩]))
    {k : NamespacedName} {t : Tunnel} (ht : w'.tunnels.lookup k = some t) : Counted t.status := by
  cases hpatch : op.isPatch with
  | false =>
      have hfol : w.Follows w' := by simpa [he] using World.exec_follows hw hpatch c
      exact hfol.forall_status counted_empty hi ht
  | true =>
      cases op with
      | patchStatus x base =>
          obtain ⟨t₀, pod, allocated, changed, m, e, hc, -, rfl⟩ := hn
          have hheld := hr.active_held (hp.unpatched (by simp)) hc.active
          rcases exec_patchStatus hheld hc.key_eq he with ⟨rfl, -⟩ | ⟨cur, hl, hlat, -, rfl, -⟩
          · exact hi ht
          · have hpos := hc.toMapped.revision_pos (hlat.status ▸ hi hl)
              (hcounts _ base ans (answered_last _ _ _))
            rw [← hc.evaluated.sameMapping.mappingRevision] at hpos
            have hcounted : Counted e.tunnel.status :=
              ⟨Int.le_trans (by decide) hpos, fun _ => hpos⟩
            exact World.storeTunnel_forall_status (t := { cur with status := e.tunnel.status }) hi
              hcounted ht
      | _ => cases hpatch

theorem fleet_step {op : Op} {c : Choice} {ans : op.Ans} (hn : Next r req tr op)
    (hp : PatchesOnce r tr op) (hr : Reads req tr s.world) (hA : AcksChecked req tr s)
    (hi : s.Sound) (he : Fleet.exec op c s = (ans, s')) (hcounts : CountsOn (tr ++ [⟨op, ans⟩])) :
    s'.Sound ∧ AcksChecked req (tr ++ [⟨op, ans⟩]) s' := by
  have hworld : ∀ w, World.exec op c s.world = (ans, w) →
      ({ s with world := w } : Fleet).Sound := by
    intro w hw
    have hwf : w.WF := by simpa [hw] using World.exec_wf hi.wf op c
    have hsame : s.world.SameObjects w := by simpa [hw] using World.exec_sameObjects hi.wf op c
    exact hi.sameObjects hwf (counted_step hn hp hr hi.wf hi.counted hw hcounts) hsame
  cases op with
  | missingAcks ns name revision =>
      cases he
      exact ⟨hi, hA.missingAcks hr (hp.unpatched (by simp)) hi hn⟩
  | notifyUpdate u =>
      cases he
      have hextend : AcksChecked req (tr ++ [⟨.notifyUpdate u, ()⟩])
          { s with world := (World.exec (.notifyUpdate u) c s.world).2 } := hA.extend hn (by simp)
      have hgen : ∀ m, u.Upserts m → Genuine s.world m := by
        intro m hm
        obtain ⟨t, ⟨t', ht', hlat, -⟩, hnot, -⟩ := notified_held hr hn hp hm.ne_deleted
        obtain rfl : notifiedMapping t = m := Option.some.inj (hnot.mapping.symm.trans hm.2)
        exact genuine_of_lookup ht' rfl rfl hlat.uid.symm
      obtain ⟨hsound, hkeeps⟩ := (hworld _ rfl).notifyUpdate hgen
      exact ⟨hsound, hextend.keeps hkeeps⟩
  | _ =>
      cases he
      exact ⟨hworld _ rfl, hA.extend hn (by simp)⟩

/-- What a status patch commits with phase Ready has been asked of `MissingAcks` before. -/
theorem ready_step {op : Op} {c : Choice} {ans : op.Ans} (hserver : r.forwarderServer = true)
    (hn : Next r req tr op) (hp : PatchesOnce r tr op) (hr : Reads req tr s.world)
    (hA : AcksChecked req tr s) (hi : s.Sound) (he : Fleet.exec op c s = (ans, s'))
    (hconfirms : ConfirmsReady (tr ++ [⟨op, ans⟩])) (hcounts : CountsOn (tr ++ [⟨op, ans⟩])) :
    ReadyApplied (tr ++ [⟨op, ans⟩]) s s' := by
  intro tr' x base a heq k t ht hnew hready
  obtain ⟨rfl, hcall⟩ := List.append_inj' heq rfl
  obtain ⟨rfl, hans⟩ := Call.mk.inj (List.singleton_inj.mp hcall)
  obtain rfl := eq_of_heq hans
  obtain ⟨c', hw⟩ := Fleet.exec_refines he
  obtain ⟨t₀, pod, allocated, changed, m, e, hc, -, rfl⟩ := hn
  have hbase := hr.active_eq hc.active
  have hheld := hr.active_held (hp.unpatched (by simp)) hc.active
  rcases exec_patchStatus hheld hc.key_eq hw with ⟨hsame, -⟩ | ⟨cur, hl, hlat, -, hstore, -⟩
  · rw [hsame] at ht
    exact absurd ht hnew
  -- the committed version is the one the patch stored
  rw [hstore] at ht
  rcases World.storeTunnel_found ht with ⟨-, rfl⟩ | ⟨-, ht⟩
  · have huid : cur.uid = t₀.uid := by rw [hlat.uid, hbase]
    have hphase : t₀.status.phase = base.status.phase := by rw [hbase]
    have hreadpod := hc.readPod hr ⟨.patchStatus e.tunnel base, ans⟩
    have hpos := hc.toMapped.revision_pos (hlat.status ▸ hi.counted hl)
      (hcounts _ base ans (answered_last _ _ _))
    obtain ⟨hnf, hns, hpr, ⟨hm, hu, -⟩ | ⟨-, -, -, hmissing⟩⟩ := hc.evaluated.ready hready
    · refine absurd (hu.mono (subset_append_call _ _))
        (hconfirms t₀ pod _ base ans hreadpod (answered_last _ _ _) ?_ hnf hns hpr)
      rw [hphase, ← hc.toMapped.phase]
      exact hm
    · change s.AllApplied cur.uid e.tunnel.status.mappingRevision
      rw [huid, hc.evaluated.sameMapping.mappingRevision]
      exact hA _ _ _ (hmissing hserver) hpos t₀ hc.active.read
  · exact absurd ht hnew

end Reconcile

theorem Fleet.sound_initial (allocator : PortAllocator) : (Fleet.initial allocator).Sound where
  wf := World.initial_wf allocator
  counted := fun ht => by cases ht
  queued := fun hl => by cases hl
  forwarders := fun hl => by cases hl
  delayed := fun p hp => by cases hp
  acked := fun hpos => by cases hpos
  registered := fun hl => by cases hl
  present := fun ref href => by cases href

/-- In every run in which Tunnels are re-created only after nothing is left of their predecessors
and no reconciliation patches a Ready Tunnel it cannot confirm, a `Reconcile` that commits Ready
finds that every forwarder whose stream was registered all the time has applied a mapping of that
very object with at least that revision. -/
theorem ready_tunnels_are_applied (r : TunnelReconciler) (cfg : ServerConfig)
    (allocator : PortAllocator) (hserver : r.forwarderServer = true)
    {g g' : Config Op.Ans (Except String Result) NamespacedName Fleet}
    (hg : (fleetOperator r cfg).Reaches unambiguous (Fleet.initial allocator) g)
    {tr : Trace} {x base : Tunnel} {a : Except ApiError Tunnel}
    (hp : (fleetOperator r cfg).Performs g g' tr ⟨.patchStatus x base, a⟩)
    (hcall : unambiguous.call (tr ++ [⟨.patchStatus x base, a⟩]) g.state)
    {k : NamespacedName} {t : Tunnel} (ht : g'.state.world.tunnels.lookup k = some t)
    (hcommit : g.state.world.tunnels.lookup k ≠ some t) (hready : t.status.phase = .ready)
    {ref : ℕ} (href : ref ∈ g.state.present) {stream : ForwarderStream}
    (hl : g.state.server.streams.lookup ref = some stream) :
    ∃ m, (stream.id, m) ∈ g.state.applied ∧ m.issuer = t.uid ∧
      t.status.mappingRevision ≤ m.revision := by
  have hsafe := Machine.reaches_safe (M := fleetOperator r cfg) (D := fleetDiscipline)
    (C := unambiguous) rfl (fun _ _ h => h) ?_ (fun e => e.elim) ?_
    (Fleet.sound_initial allocator) hg
  · exact Machine.reaches_goal rfl hsafe.1 hsafe.2 hp hcall tr x base a rfl k t ht hcommit hready
      ref href stream hl
  · intro e s s' hquiet hi he
    exact Fleet.outside_steps hi he hquiet
  · intro req s hi
    have hstart : ({ s with present := s.server.streams.keys } : Fleet).Sound := by
      refine { hi with present := fun ref href => ?_ }
      obtain ⟨stream, hl⟩ := (Table.mem_keys_iff _ _).mp href
      exact hi.registered hl
    refine ⟨hstart, (reconcile_safe (D := fleetDiscipline) (w := Fleet.world)
      (A := AcksChecked req) r req
      (fun he => Fleet.exec_refines he) (fun hi => hi.wf) (fun hr => hr.evolves)
      (fun h hr _ => h.keeps hr) ?_ (fun _ _ _ ha => by cases ha)).mono fun _ _ _ _ => trivial⟩
    intro tr op c s ans s' hn hp hr hA hi he ha
    obtain ⟨hsound, hchecked⟩ := fleet_step hn hp hr hA hi he ha.2
    exact ⟨hsound, ready_step hserver hn hp hr hA hi he ha.1 ha.2, hchecked⟩

/-! Runs with one Tunnel and one forwarder. -/

abbrev FleetEvent := Event NamespacedName Choice Fleet.Outside Empty

def acknowledgedReconciler : TunnelReconciler := ⟨true, true, ⟨"", ""⟩, "", "", ""⟩

def configServer : ServerConfig := ⟨true, ⟨"", ""⟩⟩

def provisionTunnel : List FleetEvent :=
  .env (.cluster (.createTunnel key [] spec)) :: .start key :: calls 10

def watchUpdates : List FleetEvent :=
  [.env (.join "f"), .env (.list "f" {}), .env (.serve "f" {}),
    .env (.apply "f" UDPProxy.listenAll), .env (.register "f"),
    .env (.receive "f" UDPProxy.listenAll), .env (.list "f" {}), .env (.serve "f" {}),
    .env (.apply "f" UDPProxy.listenAll)]

/-- A `Reconcile` up to its status patch, after the gateway has answered. -/
def askForwarders : List FleetEvent :=
  [.start key, .call {}, .call {}, .call {}, .call { gatewayStatus := .ok "key" }, .call {}]

def podRunning (ip : String) : FleetEvent :=
  .env (.cluster (.setPodStatus (gatewayResourceKey key) (running ip)))

/-- The Pod is ready, and the forwarder acknowledges the mapping that is published for it. -/
def acknowledgeMapping : List FleetEvent :=
  podRunning "10.1.0.1" :: (askForwarders ++ (calls 4 ++
    [.env (.send "f"), .env (.receive "f" UDPProxy.listenAll), .env (.ack "f" .answered)]))

def retireTunnel : List FleetEvent := .env (.cluster (.deleteTunnel key)) :: .start key :: calls 8

/-- The running reconciliation is about to commit Ready for a Tunnel as in `P`. -/
def commitsReady (P : Trace → Tunnel → Fleet → Bool)
    (g : Config Op.Ans (Except String Result) NamespacedName Fleet) : Bool :=
  match g.thread with
  | some ⟨_, .call (.patchStatus x base) _, tr⟩ =>
      let a := Fleet.exec (.patchStatus x base) {} g.state
      (a.2.world.tunnels.lookup key).any fun t => t.status.phase = .ready &&
        g.state.world.tunnels.lookup key ≠ some t &&
        P (tr ++ [⟨.patchStatus x base, a.1⟩]) t g.state
  | _ => false

theorem commitsReady_performs {r : TunnelReconciler} {cfg : ServerConfig}
    {P : Trace → Tunnel → Fleet → Bool}
    {g : Config Op.Ans (Except String Result) NamespacedName Fleet} (h : commitsReady P g = true) :
    ∃ g' tr x base a t, (fleetOperator r cfg).Performs g g' tr ⟨.patchStatus x base, a⟩ ∧
      g'.state.world.tunnels.lookup key = some t ∧ g.state.world.tunnels.lookup key ≠ some t ∧
      t.status.phase = .ready ∧ P (tr ++ [⟨.patchStatus x base, a⟩]) t g.state = true := by
  unfold commitsReady at h
  split at h
  · rename_i req x base next tr hth
    obtain ⟨t, ht, hP⟩ := (Option.any_eq_true _ _).mp h
    simp only [Bool.and_eq_true, decide_eq_true_eq] at hP
    obtain ⟨g', hg', hstate⟩ := Machine.exists_performs (M := fleetOperator r cfg) hth {}
    exact ⟨g', tr, x, base, _, t, hg', hstate ▸ ht, hP.1.2, hP.1.1, hP.2⟩
  · cases h

/-- The forwarder has a stream that was registered all the time. -/
def watched (s : Fleet) : Bool :=
  0 ∈ s.present ∧ (s.server.streams.lookup 0).any fun stream => stream.id = "f"

theorem watched_stream {s : Fleet} (h : watched s = true) :
    0 ∈ s.present ∧ ∃ stream, s.server.streams.lookup 0 = some stream ∧ stream.id = "f" := by
  obtain ⟨hmem, hstream⟩ := of_decide_eq_true h
  obtain ⟨stream, hl, hid⟩ := (Option.any_eq_true _ _).mp hstream
  exact ⟨hmem, stream, hl, of_decide_eq_true hid⟩

def untouched (s : Fleet) : Bool :=
  s.forwarders.entries.isEmpty && s.server.streams.entries.isEmpty &&
    s.server.acks.entries.isEmpty &&
    s.delayed.isEmpty

theorem untouched_quiet {s : Fleet} (h : untouched s = true) (k : NamespacedName) : s.Quiet k := by
  simp only [untouched, Bool.and_eq_true, List.isEmpty_iff] at h
  obtain ⟨⟨⟨hf, hst⟩, ha⟩, hd⟩ := h
  refine ⟨fun m hm => ?_, fun id => ?_⟩
  · cases hm with
    | queued hl =>
        rw [← Table.mem_entries_iff, hst] at hl
        cases hl
    | held hl =>
        rw [← Table.mem_entries_iff, hf] at hl
        cases hl
    | delayed hmem =>
        rw [hd] at hmem
        cases hmem
  · have hnone : s.server.acks.lookup id = none := by
      refine Option.eq_none_iff_forall_ne_some.mpr fun revisions hl => ?_
      rw [← Table.mem_entries_iff, ha] at hl
      cases hl
    exact Int.le_of_eq (AckRun.ackedRevision_none hnone _)

/-- The first reading of a Tunnel is not Ready, and its revision is far from the last. -/
def firstRevisions (tr : Trace) : Bool :=
  readsNotReady tr && tr.all fun
    | ⟨.patchStatus _ base, _⟩ => base.status.mappingRevision < 2 ^ 63 - 1
    | _ => true

theorem firstRevisions_admitted {tr : Trace} (h : firstRevisions tr = true) :
    ConfirmsReady tr ∧ CountsOn tr := by
  obtain ⟨hread, hall⟩ := Bool.and_eq_true_iff.mp h
  refine ⟨fun t₀ pod x base a hr _ hphase => ?_, fun x base a ha => ?_⟩
  · have := List.all_eq_true.mp hread _ hr.tunnel
    simp [hphase] at this
  · exact of_decide_eq_true (List.all_eq_true.mp hall _ ha)

theorem ready_tunnels_are_applied_first : ∃ g g' tr x base a t stream m,
    (fleetOperator acknowledgedReconciler configServer).Reaches unambiguous
      (Fleet.initial (PortAllocator.new 1 2)) g ∧
    (fleetOperator acknowledgedReconciler configServer).Performs g g' tr ⟨.patchStatus x base, a⟩ ∧
    g'.state.world.tunnels.lookup key = some t ∧ t.status.phase = .ready ∧
    g.state.server.streams.lookup 0 = some stream ∧ stream.id = "f" ∧
    (stream.id, m) ∈ g.state.applied ∧ m.issuer = t.uid ∧
      t.status.mappingRevision ≤ m.revision := by
  obtain ⟨g, hg, hP⟩ := Machine.exists_reaches
    (M := fleetOperator acknowledgedReconciler configServer)
    (C := unambiguous) (s := Fleet.initial (PortAllocator.new 1 2))
    (K := { env := fun e s => e.creates = none ∨ untouched s = true, call := fun tr _ =>
      firstRevisions tr })
    (fun e s he k hk => untouched_quiet ((of_decide_eq_true he).resolve_left (by simp [hk])) k)
    (fun e => e.elim) (fun _ _ h => firstRevisions_admitted h)
    (l := provisionTunnel ++ (watchUpdates ++ (acknowledgeMapping ++ askForwarders)))
    (P := commitsReady fun tr _ s => firstRevisions tr && watched s) (by rfl)
  obtain ⟨g', tr, x, base, a, t, hp, ht, hcommit, hready, hrest⟩ := commitsReady_performs hP
  obtain ⟨hfirst, hwatched⟩ := Bool.and_eq_true_iff.mp hrest
  obtain ⟨hpresent, stream, hl, hid⟩ := watched_stream hwatched
  obtain ⟨m, hm⟩ := ready_tunnels_are_applied acknowledgedReconciler configServer
    (PortAllocator.new 1 2) rfl hg hp (firstRevisions_admitted hfirst) ht hcommit hready hpresent hl
  exact ⟨g, g', tr, x, base, a, t, stream, m, hg, hp, ht, hready, hl, hid, hm⟩

/-- The forwarder has applied nothing of the object with at least its revision. -/
def unapplied (t : Tunnel) (s : Fleet) : Bool :=
  s.applied.all fun p => ¬(p.1 = "f" ∧ p.2.issuer = t.uid ∧ t.status.mappingRevision ≤ p.2.revision)

theorem unapplied_spec {t : Tunnel} {s : Fleet} (h : unapplied t s = true) :
    ¬ ∃ m, ("f", m) ∈ s.applied ∧ m.issuer = t.uid ∧ t.status.mappingRevision ≤ m.revision := by
  rintro ⟨m, hm, hmap⟩
  exact of_decide_eq_true (List.all_eq_true.mp h _ hm) ⟨rfl, hmap⟩

theorem exists_unapplied {l : List FleetEvent}
    (h : ((fleetOperator acknowledgedReconciler configServer).runChecked {}
      ⟨Fleet.initial (PortAllocator.new 1 2), none⟩ l).any
        (commitsReady fun _ t s => watched s && unapplied t s) = true) :
    ∃ g g' tr x base a t stream,
      (fleetOperator acknowledgedReconciler configServer).Reaches {}
        (Fleet.initial (PortAllocator.new 1 2)) g ∧
      (fleetOperator acknowledgedReconciler configServer).Performs g g' tr
        ⟨.patchStatus x base, a⟩ ∧
      g'.state.world.tunnels.lookup key = some t ∧ g.state.world.tunnels.lookup key ≠ some t ∧
      t.status.phase = .ready ∧ 0 ∈ g.state.present ∧
        g.state.server.streams.lookup 0 = some stream ∧
      ¬ ∃ m, (stream.id, m) ∈ g.state.applied ∧ m.issuer = t.uid ∧
        t.status.mappingRevision ≤ m.revision := by
  obtain ⟨g, hg, hP⟩ := Machine.exists_free_reaches h
  obtain ⟨g', tr, x, base, a, t, hp, ht, hcommit, hready, hrest⟩ := commitsReady_performs hP
  obtain ⟨hwatched, hun⟩ := Bool.and_eq_true_iff.mp hrest
  obtain ⟨hpresent, stream, hl, hid⟩ := watched_stream hwatched
  exact ⟨g, g', tr, x, base, a, t, stream, hg, hp, ht, hcommit, hready, hpresent, hl, hid ▸
    unapplied_spec hun⟩

/-- A Tunnel is deleted and created again. The acknowledgement of its predecessor makes it Ready,
although the forwarder has applied nothing for it. -/
theorem recreated_tunnel_ready_unapplied : ∃ g g' tr x base a t stream,
    (fleetOperator acknowledgedReconciler configServer).Reaches {}
      (Fleet.initial (PortAllocator.new 1 2)) g ∧
    (fleetOperator acknowledgedReconciler configServer).Performs g g' tr ⟨.patchStatus x base, a⟩ ∧
    g'.state.world.tunnels.lookup key = some t ∧ g.state.world.tunnels.lookup key ≠ some t ∧
    t.status.phase = .ready ∧ 0 ∈ g.state.present ∧ g.state.server.streams.lookup 0 = some stream ∧
    ¬ ∃ m, (stream.id, m) ∈ g.state.applied ∧ m.issuer = t.uid ∧
      t.status.mappingRevision ≤ m.revision :=
  exists_unapplied (l := provisionTunnel ++ (watchUpdates ++ (acknowledgeMapping ++ (retireTunnel ++
    (provisionTunnel ++ (podRunning "10.1.0.2" :: askForwarders)))))) (by rfl)

/-- The Pod of a Ready Tunnel gets another address, and the gateway does not answer. The next
revision is committed as Ready without asking for acknowledgements. -/
theorem unreachable_gateway_ready_unapplied : ∃ g g' tr x base a t stream,
    (fleetOperator acknowledgedReconciler configServer).Reaches {}
      (Fleet.initial (PortAllocator.new 1 2)) g ∧
    (fleetOperator acknowledgedReconciler configServer).Performs g g' tr ⟨.patchStatus x base, a⟩ ∧
    g'.state.world.tunnels.lookup key = some t ∧ g.state.world.tunnels.lookup key ≠ some t ∧
    t.status.phase = .ready ∧ 0 ∈ g.state.present ∧ g.state.server.streams.lookup 0 = some stream ∧
    ¬ ∃ m, (stream.id, m) ∈ g.state.applied ∧ m.issuer = t.uid ∧
      t.status.mappingRevision ≤ m.revision :=
  exists_unapplied (l := provisionTunnel ++
    (watchUpdates ++ (acknowledgeMapping ++ (askForwarders ++
    (calls 2 ++ (podRunning "10.1.0.2" :: .start key :: calls 4)))))) (by rfl)

end TunnelOperator
