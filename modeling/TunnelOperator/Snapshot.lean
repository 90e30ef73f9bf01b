import TunnelOperator.Evolution
import TunnelOperator.ForwarderServer

/-!
# What `GetConfig` answers

The meaning of the server's operations over the store. `GetConfig` lists the Tunnels in some
order and answers one mapping for each of them that passes its filter; the filter asks for an
address, so it never has to look a Pod up.
-/

namespace TunnelOperator
open Interaction GoText

structure ServerChoice where
  failure : Option String := none
  listed : Option (List Tunnel) := none
  service : Except ApiError Service := .error .notFound

def World.listing (w : World) (c : ServerChoice) : List Tunnel :=
  match c.listed with
  | some tunnels => if tunnels.isPerm w.tunnels.values then tunnels else w.tunnels.values
  | none => w.tunnels.values

def World.serverExec : (op : ServerOp) → ServerChoice → World → op.Ans × World
  | .listTunnels, c, w =>
      (match c.failure with
        | some m => .error (.other m)
        | none => .ok (w.listing c), w)
  | .loadExisting key port, _, w => ((), { w with allocator := w.allocator.loadExisting key port })
  | .getPod key, c, w => (World.getResult { failure := c.failure } (w.pods.lookup key), w)
  | .getService _, c, w => (c.service, w)

theorem World.values_keys_nodup {w : World} (hw : w.WF) : (w.tunnels.values.map (·.key)).Nodup :=
  Table.nodup_map_values _ _ fun ht ht' he => (hw.key ht).symm.trans (he.trans (hw.key ht'))

namespace ServerConfig

/-- The answer of a `GetConfig` call that runs on a store nobody else writes. -/
def snapshot (s : ServerConfig) (c : ℕ → ServerChoice) (w : World) :
    Except String ForwarderConfig :=
  (s.getConfig.run World.serverExec c [] w).1

def servedMapping (tunnel : Tunnel) : TunnelMapping :=
  mappingTo tunnel (joinHostPort tunnel.status.gatewayPodIP (itoa gatewayPort))

theorem serves_iff (tunnel : Tunnel) : serves tunnel = true ↔
    tunnel.deletionTimestamp = false ∧ tunnel.status.phase ≠ .terminated ∧
      tunnel.status.phase ≠ .failed ∧ 0 < tunnel.status.forwarderPort ∧
      tunnel.status.gatewayPodIP ≠ "" ∧ tunnel.status.gatewayPublicKey ≠ "" := by
  simp only [serves, Bool.not_eq_true', Bool.or_eq_false_iff, decide_eq_false_iff_not, Int.not_le,
    and_assoc, ne_eq]

variable (s : ServerConfig)

theorem collectMappings_traces (tunnels : List Tunnel) (mappings : List TunnelMapping)
    (tr : List (Call ServerOp.Ans)) :
    (s.collectMappings tunnels mappings).Traces (fun _ _ => True)
      (fun x _ => x = .ok (mappings ++ (tunnels.filter serves).map servedMapping)) tr := by
  induction tunnels generalizing mappings tr with
  | nil => simp [collectMappings, Program.Traces]
  | cons tunnel tunnels ih =>
      unfold collectMappings
      by_cases hs : serves tunnel = true
      · have hip := ((serves_iff tunnel).mp hs).2.2.2.2.1
        have hload : (s.loadExisting tunnel).Traces (fun _ _ => True) (fun _ _ => True) tr := by
          unfold loadExisting
          split_ifs
          · exact ⟨trivial, fun _ => trivial⟩
          · trivial
        rw [if_pos hs]
        refine hload.seq fun _ tr' _ => ?_
        rw [tunnelMapping, if_pos hip]
        refine (ih (mappings ++ [servedMapping tunnel]) tr').mono fun x _ hx => ?_
        rw [hx, List.filter_cons_of_pos hs, List.map_cons, List.append_assoc]
        rfl
      · rw [if_neg hs, List.filter_cons_of_neg hs]
        exact ih mappings tr

theorem configOf_traces (tunnels : List Tunnel) (tr : List (Call ServerOp.Ans)) :
    (s.configOf tunnels).Traces (fun _ _ => True)
      (fun x _ => ∃ vip, x = .ok ⟨vip, ((tunnels.filter serves).map servedMapping).map some⟩)
        tr := by
  have hvip : ∀ tr, s.resolveVIP.Traces (fun _ _ => True) (fun _ _ => True) tr := by
    intro tr
    unfold resolveVIP
    split_ifs
    · trivial
    · refine ⟨trivial, fun a => ?_⟩
      cases a <;> trivial
  refine (s.collectMappings_traces tunnels [] tr).seq fun x tr' hx => ?_
  rw [hx]
  exact (hvip tr').seq fun vip _ _ => ⟨_, rfl⟩

theorem snapshot_ok {c : ℕ → ServerChoice} (hc : (c 0).failure = none) (w : World) :
    ∃ vip, s.snapshot c w =
      .ok ⟨vip, (((w.listing (c 0)).filter serves).map servedMapping).map some⟩ := by
  have hlist : (World.serverExec .listTunnels (c 0) w).1 = .ok (w.listing (c 0)) := by
    simp only [World.serverExec, hc]
  have hrest := (s.configOf_traces (w.listing (c 0)) [⟨.listTunnels, .ok (w.listing (c 0))⟩]).run
    World.serverExec (fun n => c (n + 1)) w
  simp only [snapshot, getConfig, Program.run, hlist]
  exact hrest

theorem listing_perm (w : World) (c : ServerChoice) : (w.listing c).Perm w.tunnels.values := by
  unfold World.listing
  split
  · split_ifs with hp
    · exact List.isPerm_iff.mp hp
    · exact List.Perm.refl _
  · exact List.Perm.refl _

theorem snapshot_mappingsFor {c : ℕ → ServerChoice} (hc : (c 0).failure = none) {w : World}
    (hw : w.WF) (k : NamespacedName) : ∃ config, s.snapshot c w = .ok config ∧
    config.mappingsFor k =
      (((w.tunnels.lookup k).filter serves).map servedMapping).toList := by
  obtain ⟨vip, hs⟩ := s.snapshot_ok hc w
  refine ⟨_, hs, ?_⟩
  have hperm := listing_perm w (c 0)
  have hnodup : (w.listing (c 0)).Nodup :=
    List.Nodup.of_map (·.key) ((hperm.map _).nodup_iff.mpr (World.values_keys_nodup hw))
  have hmem : ∀ t, t ∈ (w.listing (c 0)).filter (fun t => decide (t.key = k) && serves t) ↔
      t ∈ ((w.tunnels.lookup k).filter serves).toList := by
    intro t
    rw [List.mem_filter, hperm.mem_iff, Table.mem_values_iff, Option.mem_toList,
      Option.filter_eq_some_iff]
    constructor
    · rintro ⟨⟨k', hk'⟩, hP⟩
      simp only [Bool.and_eq_true, decide_eq_true_eq] at hP
      have hkk : k' = k := (hw.key hk').symm.trans hP.1
      exact ⟨hkk ▸ hk', hP.2⟩
    · rintro ⟨hl, hserves⟩
      exact ⟨⟨k, hl⟩, by simp [hw.key hl, hserves]⟩
  have hlist : (w.listing (c 0)).filter (fun t => decide (t.key = k) && serves t) =
      ((w.tunnels.lookup k).filter serves).toList := by
    have hp := (List.perm_ext_iff_of_nodup (hnodup.filter _) (by
      cases (w.tunnels.lookup k).filter serves <;> simp)).mpr hmem
    cases ho : (w.tunnels.lookup k).filter serves with
    | none => rw [ho] at hp; exact List.perm_nil.mp hp
    | some t => rw [ho] at hp; exact List.perm_singleton.mp hp
  have hkey : ∀ t : Tunnel, decide ((servedMapping t).tunnelName = k.name ∧
      (servedMapping t).tunnelNamespace = k.ns) = decide (t.key = k) := by
    intro t
    refine decide_eq_decide.mpr ⟨fun h => ?_, fun h => by rw [← h]; exact ⟨rfl, rfl⟩⟩
    obtain ⟨ns, name, _⟩ := k
    obtain ⟨hn, hns⟩ := h
    cases ht : t.key with
    | mk ns' name' _ =>
        simp only [servedMapping, mappingTo, ht] at hn hns
        subst hn hns
        rfl
  have hsome : ∀ l : List TunnelMapping, (l.map some).filterMap id = l := by
    intro l
    simp [List.filterMap_map]
  rw [ForwarderConfig.mappingsFor, hsome, List.filter_map, List.filter_filter]
  simp only [Function.comp_def, hkey, hlist]
  cases (w.tunnels.lookup k).filter serves <;> rfl

end ServerConfig
end TunnelOperator
