import TunnelOperator.AckHistory
import TunnelOperator.Fleet

/-!
# Mappings of the stored Tunnels

The server knows a Tunnel by its name, so an acknowledgement says something about the stored
object only while no mapping of an earlier object of the same name is about. The invariant of
the runs in which this is so: whatever is in flight under the name of a stored Tunnel, and
whatever has been acknowledged under it, was issued for that very object, and nothing is
acknowledged before it has been applied.
-/

namespace TunnelOperator
open Interaction TunnelReconciler

/-- The mapping is about the Tunnel stored under its name, if there is one. -/
def Genuine (w : World) (m : TunnelMapping) : Prop :=
  ∃ k, m.Names k ∧ ∀ t, w.tunnels.lookup k = some t → t.uid = m.issuer

namespace World

def SameObjects (w w' : World) : Prop :=
  ∀ k t', w'.tunnels.lookup k = some t' → ∃ t, w.tunnels.lookup k = some t ∧ t.uid = t'.uid

variable {w w' : World}

theorem SameObjects.refl (w : World) : w.SameObjects w := fun _ t ht => ⟨t, ht, rfl⟩

theorem SameTunnels.sameObjects (h : w.SameTunnels w') : w.SameObjects w' :=
  fun _ t' ht => ⟨t', h.tunnels ▸ ht, rfl⟩

theorem storeTunnel_sameObjects (hw : w.WF) {k : NamespacedName} {current t : Tunnel}
    (hl : w.tunnels.lookup k = some current) (hkey : t.key = current.key)
    (huid : t.uid = current.uid) :
    w.SameObjects (w.storeTunnel t) := by
  intro k' t' ht
  rcases storeTunnel_found ht with ⟨hk, rfl⟩ | ⟨-, ht⟩
  · rw [hk, hkey, hw.key hl]
    exact ⟨current, hl, huid.symm⟩
  · exact ⟨t', ht, rfl⟩

theorem writeTunnel_sameObjects (hw : w.WF) {key : NamespacedName}
    {change : Tunnel → Except ApiError Tunnel}
    (h : ∀ current t, change current = .ok t → t.key = current.key ∧ t.uid = current.uid) :
    w.SameObjects (w.writeTunnel key change).2 :=
  writeTunnel_state (P := w.SameObjects) (SameObjects.refl w) fun current t hl hc =>
    storeTunnel_sameObjects hw hl (h current t hc).1 (h current t hc).2

theorem exec_sameObjects (hw : w.WF) (op : Op) (c : Choice) : w.SameObjects (exec op c w).2 := by
  have hrefl := SameObjects.refl w
  cases h : op.writesTunnel with
  | false => exact (exec_sameTunnels h c w).sameObjects
  | true =>
      cases op with
      | updateTunnel x =>
          refine writeResult_state (P := w.SameObjects) hrefl
            (writeTunnel_sameObjects hw fun _ _ hc => ?_)
          obtain ⟨-, rfl⟩ := updateTunnel_change hc
          exact ⟨rfl, rfl⟩
      | patchStatus x base =>
          refine writeResult_state (P := w.SameObjects) hrefl
            (writeTunnel_sameObjects hw fun _ _ hc => ?_)
          cases hc
          exact ⟨rfl, rfl⟩
      | deleteTunnel key =>
          refine writeResult_state (P := w.SameObjects) hrefl
            (writeTunnel_sameObjects hw fun _ _ hc => ?_)
          cases hc
          exact ⟨rfl, rfl⟩
      | _ => cases h

def Outside.creates : Outside → Option NamespacedName
  | .createTunnel key _ _ => some key
  | _ => none

theorem outside_sameObjects (hw : w.WF) {e : Outside} (he : e.creates = none)
    (h : w.outside e = some w') :
    w.SameObjects w' := by
  rcases outside_cases h with ⟨key, finalizers, spec, rfl, -⟩ | ⟨key, change, rfl, hc⟩ |
    ⟨pods, rfl, -⟩
  · cases he
  · refine writeTunnel_sameObjects hw fun current t ht => ?_
    cases ht
    exact ⟨(hc current).key, (hc current).uid⟩
  · exact SameObjects.refl w

end World

section Genuine

variable {w w' : World} {m : TunnelMapping}

theorem Genuine.sameObjects (h : Genuine w m) (hs : w.SameObjects w') : Genuine w' m := by
  obtain ⟨k, hk, hu⟩ := h
  refine ⟨k, hk, fun t' ht' => ?_⟩
  obtain ⟨t, ht, huid⟩ := hs k t' ht'
  rw [← huid]
  exact hu t ht

theorem Genuine.createTunnel (h : Genuine w m) {key : NamespacedName} {finalizers : List String}
    {spec : TunnelSpec} (hw : w.createTunnel key finalizers spec = some w') (hm : ¬ m.Names key) :
    Genuine w' m := by
  obtain ⟨k, hk, hu⟩ := h
  refine ⟨k, hk, fun t ht => ?_⟩
  obtain ⟨-, rfl⟩ := World.createTunnel_eq hw
  have hne : k ≠ key := by
    rintro rfl
    exact hm hk
  replace ht := (Table.lookup_insert_eq _ _ _ _).symm.trans ht
  rw [if_neg hne] at ht
  exact hu t ht

theorem genuine_of_lookup {k : NamespacedName} {t : Tunnel} (hl : w.tunnels.lookup k = some t)
    (hns : m.tunnelNamespace = k.ns) (hname : m.tunnelName = k.name) (hu : m.issuer = t.uid) :
    Genuine w m := by
  refine ⟨k, ⟨hns, hname⟩, fun t' ht' => ?_⟩
  rw [hl] at ht'
  cases ht'
  exact hu.symm

theorem genuine_servedMapping (hw : w.WF) {c : ServerChoice} {t : Tunnel} (ht : t ∈ w.listing c) :
    Genuine w (ServerConfig.servedMapping t) := by
  obtain ⟨k, hk⟩ := (Table.mem_values_iff _ _).mp ((ServerConfig.listing_perm w c).mem_iff.mp ht)
  have hkey := hw.key hk
  exact genuine_of_lookup hk (hkey ▸ rfl) (hkey ▸ rfl) rfl

theorem Genuine.issuer (h : Genuine w m) {k : NamespacedName}
    (hkey : m.tunnelNamespace ++ "/" ++ m.tunnelName =
    tunnelKey k) {t : Tunnel} (ht : w.tunnels.lookup k = some t) : m.issuer = t.uid := by
  obtain ⟨k', ⟨hns, hname⟩, hu⟩ := h
  have hk : k' = k := by
    rw [hns, hname] at hkey
    exact tunnelKey_injective hkey
  subst hk
  exact (hu t ht).symm

end Genuine

/-- What is known of one forwarder: every mapping it holds is genuine, a configuration being
computed for it holds mappings of the listed Tunnels only, and what it is going to acknowledge
it has applied. -/
structure Forwarder.Sound (w : World) (applied : List (String × TunnelMapping)) (id : String)
    (f : Forwarder) : Prop where
  genuine : ∀ m, f.Holds m → Genuine w m
  answer : ∀ ref listed call, f.duty = .fetching ref listed call →
    ∃ tr, call.Traces (fun _ _ => True) (fun x _ => ∃ vip, x =
      .ok ⟨vip, ((listed.filter ServerConfig.serves).map ServerConfig.servedMapping).map some⟩) tr
  owed : ∀ m ∈ f.duty.owed, (id, m) ∈ applied

namespace Forwarder

theorem mem_validMappings {snapshot : ForwarderConfig} {m : TunnelMapping}
    (h : m ∈ snapshotAcks snapshot) :
    m ∈ validMappings snapshot ∧ m ∈ snapshot.tunnels.filterMap id := by
  obtain ⟨hmem, hvalid⟩ := valid_of_mem_snapshotAcks h
  have hm : m ∈ snapshot.tunnels.filterMap id := List.mem_filterMap.mpr ⟨some m, hmem, rfl⟩
  exact ⟨List.mem_filter.mpr ⟨hm, by simpa using hvalid⟩, hm⟩

variable {w w' : World} {applied applied' : List (String × TunnelMapping)} {id : String}
  {f f' : Forwarder}

theorem Sound.mono (h : f.Sound w applied id) (hgen : ∀ m, f.Holds m → Genuine w m → Genuine w' m)
    (happ : applied ⊆ applied') : f.Sound w' applied' id where
  genuine := fun m hm => hgen m hm (h.genuine m hm)
  answer := h.answer
  owed := fun m hm => happ (h.owed m hm)

theorem sound_new : new.Sound w applied id where
  genuine := by
    rintro m (⟨u, hu, -⟩ | hm)
    · cases hu
    · cases hm
  answer := fun _ _ _ he => by cases he
  owed := fun m hm => by cases hm

theorem Sound.idle (h : f.Sound w applied id) (hd : f'.duty.mappings = []) (ho : f'.duty.owed = [])
    (hf : ∀ ref listed call, f'.duty ≠ .fetching ref listed call) (hw : f'.wire ⊆ f.wire) :
    f'.Sound w applied' id where
  genuine := by
    rintro m (⟨u, hu, hm⟩ | hm)
    · exact h.genuine m (Or.inl ⟨u, hw hu, hm⟩)
    · rw [hd] at hm
      cases hm
  answer := fun ref listed call he => absurd he (hf ref listed call)
  owed := fun m hm => by
    rw [ho] at hm
    cases hm

@[simp] theorem mappings_fetchFailed (ref : Option ℕ) : (Duty.fetchFailed ref).mappings = [] := by
  cases ref <;> rfl

@[simp] theorem owed_fetchFailed (ref : Option ℕ) : (Duty.fetchFailed ref).owed = [] := by
  cases ref <;> rfl

theorem Sound.fetchFailed (h : f.Sound w applied id) (ref : Option ℕ) :
    ({ f with duty := .fetchFailed ref } : Forwarder).Sound w applied' id :=
  h.idle (mappings_fetchFailed ref) (owed_fetchFailed ref) (fun _ _ _ he => by
    cases ref <;> cases he) fun _ hu => hu

@[simp] theorem mappings_acks (ref : ℕ) (ms : List TunnelMapping) :
    (Duty.acks ref ms).mappings = ms := by
  cases ms <;> rfl

@[simp] theorem owed_acks (ref : ℕ) (ms : List TunnelMapping) : (Duty.acks ref ms).owed = ms := by
  cases ms <;> rfl

theorem acks_ne_fetching (ref : ℕ) (ms : List TunnelMapping) (ref' : Option ℕ)
    (listed : List Tunnel) (call : ServerProg (Except String ForwarderConfig)) :
    Duty.acks ref ms ≠ .fetching ref' listed call := by
  cases ms <;> rintro ⟨⟩

theorem Sound.acks (h : f.Sound w applied id) (ref : ℕ) (ms : List TunnelMapping)
    (hgen : ∀ m ∈ ms, Genuine w m) (happ : ∀ m ∈ ms, (id, m) ∈ applied')
    (hd : f'.duty = .acks ref ms) (hw : f'.wire ⊆ f.wire) : f'.Sound w applied' id where
  genuine := by
    rintro m (⟨u, hu, hm⟩ | hm)
    · exact h.genuine m (Or.inl ⟨u, hw hu, hm⟩)
    · rw [hd, mappings_acks] at hm
      exact hgen m hm
  answer := fun ref listed call he => absurd (hd.symm.trans he) (acks_ne_fetching _ _ _ _ _)
  owed := fun m hm => by
    rw [hd, owed_acks] at hm
    exact happ m hm

theorem Sound.apply (h : f.Sound w applied id) {deny : Deny} {moved : Moved}
    (hs : f.apply deny = some moved) :
    moved.1.Sound w (applied ++ moved.2.map fun m => (id, m)) id := by
  unfold Forwarder.apply at hs
  split at hs
  · rename_i ref snapshot hduty
    split at hs
    · cases hs
      cases ref with
      | none => exact h.idle rfl rfl (fun _ _ _ he => by cases he) fun _ hu => hu
      | some ref =>
          refine h.acks ref (snapshotAcks snapshot) (fun m hm => ?_) (fun m hm => ?_) rfl
            fun _ hu => hu
          · refine h.genuine m (Or.inr ?_)
            rw [hduty]
            exact (mem_validMappings hm).2
          · exact List.mem_append_right _ (List.mem_map_of_mem (mem_validMappings hm).1)
    · cases hs
      cases ref with
      | none => exact h.idle rfl rfl (fun _ _ _ he => by cases he) fun _ hu => hu
      | some ref => exact h.idle rfl rfl (fun _ _ _ he => by cases he) fun _ hu => hu
  · cases hs

theorem Sound.receive (h : f.Sound w applied id) {deny : Deny} {moved : Moved}
    (hs : f.receive deny = some moved) :
    moved.1.Sound w (applied ++ moved.2.map fun m => (id, m)) id := by
  unfold Forwarder.receive at hs
  split at hs
  · rename_i ref u wire hduty hwire
    have hsub : wire ⊆ f.wire := hwire ▸ List.subset_cons_self u wire
    cases hs
    by_cases hu : u.type = .sync
    · exact h.idle (by simp [hu, Duty.mappings]) (by simp [hu, Duty.owed])
        (fun _ _ _ he => by simp [hu] at he) hsub
    · exact h.idle (by simp [hu, Duty.mappings]) (by simp [hu, Duty.owed])
        (fun _ _ _ he => by simp [hu] at he) hsub
  · rename_i ref u wire hduty hwire
    have hsub : wire ⊆ f.wire := hwire ▸ List.subset_cons_self u wire
    have hstays : ∀ proxy, ({ f with wire := wire, proxy := proxy } : Forwarder).Sound w
        (applied ++ [].map fun m => (id, m)) id := fun proxy =>
      h.idle (by simp [hduty, Duty.mappings]) (by simp [hduty, Duty.owed])
        (fun _ _ _ he => by simp [hduty] at he) hsub
    split_ifs at hs with hu
    · cases hs
      exact hstays _
    · split at hs
      · rename_i m proxy hh
        cases hs
        obtain ⟨⟨v, hv, hup⟩, -⟩ := handleUpdate_acking hh
        cases hv
        have hm : f.Holds m := Or.inl ⟨u, hwire ▸ List.mem_cons_self, hup⟩
        refine ⟨?_, fun _ _ _ he => by (cases he), fun n hn => ?_⟩
        · rintro n (⟨v, hv, hn⟩ | hn)
          · exact h.genuine n (Or.inl ⟨v, hsub hv, hn⟩)
          · rw [List.mem_singleton.mp hn]
            exact h.genuine m hm
        · rw [List.mem_singleton.mp hn]
          exact List.mem_append_right _ (List.mem_singleton_self _)
      · cases hs
        exact hstays _
  · cases hs

theorem Sound.disconnect (h : f.Sound w applied id) (hs : f.disconnect = some f') :
    f'.Sound w applied id := by
  unfold Forwarder.disconnect at hs
  split at hs
  · cases hs
    exact h.fetchFailed _
  · cases hs
    exact h.idle rfl rfl (fun _ _ _ he => by cases he) fun _ hu => hu
  · cases hs
    exact h.idle rfl rfl (fun _ _ _ he => by cases he) fun _ hu => hu
  · cases hs
    exact h.idle rfl rfl (fun _ _ _ he => by cases he) fun _ hu => hu
  · cases hs

/-- Whatever becomes of an `Ack` call, the forwarder goes on with the acknowledgements after it,
or starts over. -/
theorem Sound.acked (h : f.Sound w applied id) {m : TunnelMapping} (hm : f.duty.owed.head? = some m)
    (ok : Bool) : ({ f with duty := f.duty.acked ok } : Forwarder).Sound w applied id := by
  have hidle : ∀ duty : Duty, duty = .connecting ∨ (∃ ref, duty = .streaming ref) →
      ({ f with duty := duty } : Forwarder).Sound w applied id := by
    rintro duty (rfl | ⟨ref, rfl⟩)
    · exact h.idle rfl rfl (fun _ _ _ he => by cases he) fun _ hu => hu
    · exact h.idle rfl rfl (fun _ _ _ he => by cases he) fun _ hu => hu
  cases hd : f.duty with
  | acking ref n ms =>
      cases ok with
      | false => exact hidle _ (Or.inl rfl)
      | true =>
          refine h.acks ref ms (fun m hm => h.genuine m (Or.inr ?_))
            (fun m hm => h.owed m ?_) rfl fun _ hu => hu
          · rw [hd]
            exact List.mem_cons_of_mem _ hm
          · rw [hd]
            exact List.mem_cons_of_mem _ hm
  | acknowledging ref n => exact hidle _ (Or.inr ⟨ref, rfl⟩)
  | _ =>
      rw [hd] at hm
      cases hm

end Forwarder

/-- The revision counts the changes of the mapping, and recording a gateway Pod was one. -/
def Counted (s : TunnelStatus) : Prop :=
  0 ≤ s.mappingRevision ∧ (s.gatewayPodName ≠ "" → 1 ≤ s.mappingRevision)

theorem counted_empty : Counted {} := ⟨Int.le_refl 0, fun h => absurd rfl h⟩

namespace Fleet

structure Sound (s : Fleet) : Prop where
  wf : s.world.WF
  counted : ∀ {k t}, s.world.tunnels.lookup k = some t → Counted t.status
  queued : ∀ {ref stream}, s.server.streams.lookup ref = some stream → ∀ u ∈ stream.updates, ∀ m,
    u.Upserts m → Genuine s.world m
  forwarders : ∀ {id f}, s.forwarders.lookup id = some f → f.Sound s.world s.applied id
  delayed : ∀ p ∈ s.delayed, p ∈ s.applied ∧ Genuine s.world p.2
  acked : ∀ {id key}, 0 < s.server.ackedRevision id key → ∃ m, (id, m) ∈ s.applied ∧
    (ackRequest id m).key = key ∧ m.revision = s.server.ackedRevision id key ∧ Genuine s.world m
  registered : ∀ {ref stream}, s.server.streams.lookup ref = some stream → ref < s.nextRef
  present : ∀ ref ∈ s.present, ref < s.nextRef

/-- What a step leaves of the streams that have been registered since a `Reconcile` began. -/
structure Keeps (s s' : Fleet) : Prop where
  evolves : s.world.Evolves s'.world
  applied : s.applied ⊆ s'.applied
  streams : ∀ ref ∈ s'.present, ref ∈ s.present ∧ ∀ stream', s'.server.streams.lookup ref =
    some stream' →
    ∃ stream, s.server.streams.lookup ref = some stream ∧ stream'.id = stream.id

variable {s s' s'' : Fleet}

theorem Keeps.refl (s : Fleet) : Keeps s s :=
  ⟨World.Evolves.refl _, fun _ h => h, fun _ h => ⟨h, fun stream hl => ⟨stream, hl, rfl⟩⟩⟩

theorem Keeps.trans (h : Keeps s s') (h' : Keeps s' s'') : Keeps s s'' where
  evolves := h.evolves.trans h'.evolves
  applied := fun _ hx => h'.applied (h.applied hx)
  streams := fun ref href => by
    obtain ⟨href', hback'⟩ := h'.streams ref href
    obtain ⟨href, hback⟩ := h.streams ref href'
    refine ⟨href, fun stream'' hl => ?_⟩
    obtain ⟨stream', hl', hid'⟩ := hback' stream'' hl
    obtain ⟨stream, hl, hid⟩ := hback stream' hl'
    exact ⟨stream, hl, hid'.trans hid⟩

theorem Sound.advance (h : s.Sound) {id : String} {moved : Forwarder.Moved}
    (hf : moved.1.Sound s.world (s.applied ++ moved.2.map fun m => (id, m)) id) :
    (s.advance id moved).Sound where
  wf := h.wf
  counted := h.counted
  queued := h.queued
  forwarders := fun {id' f'} hl => by
    simp only [Fleet.advance, Table.lookup_insert_eq] at hl
    split_ifs at hl with hid
    · cases hl
      subst hid
      exact hf
    · exact (h.forwarders hl).mono (fun _ _ hm => hm) (List.subset_append_left _ _)
  delayed := fun p hp => ⟨List.mem_append_left _ (h.delayed p hp).1, (h.delayed p hp).2⟩
  acked := fun hpos => by
    obtain ⟨m, hm, hrest⟩ := h.acked hpos
    exact ⟨m, List.mem_append_left _ hm, hrest⟩
  registered := h.registered
  present := h.present

theorem keeps_advance (s : Fleet) (id : String) (moved : Forwarder.Moved) :
    Keeps s (s.advance id moved) :=
  ⟨World.Evolves.refl _, List.subset_append_left _ _, (Keeps.refl s).streams⟩

theorem Sound.changeWorld (h : s.Sound) {w : World} (hw : w.WF)
    (hcounted : ∀ {k t}, w.tunnels.lookup k = some t → Counted t.status)
    (hgen : ∀ m, s.InFlight m ∨ (∃ id, 0 < s.server.ackedRevision id (ackRequest id m).key) →
      Genuine s.world m → Genuine w m) : ({ s with world := w } : Fleet).Sound where
  wf := hw
  counted := hcounted
  queued := fun hl u hu m hm => hgen m (Or.inl (.queued hl hu hm)) (h.queued hl u hu m hm)
  forwarders := fun hl => (h.forwarders hl).mono (fun m hm => hgen m (Or.inl (.held hl hm)))
    fun _ hx => hx
  delayed := fun p hp => ⟨(h.delayed p hp).1, hgen p.2 (Or.inl (.delayed hp)) (h.delayed p hp).2⟩
  acked := fun {id key} hpos => by
    obtain ⟨m, hm, hkey, hrev, hg⟩ := h.acked hpos
    exact ⟨m, hm, hkey, hrev, hgen m (Or.inr ⟨id, hkey.symm ▸ hpos⟩) hg⟩
  registered := h.registered
  present := h.present

theorem Sound.sameObjects (h : s.Sound) {w : World} (hw : w.WF)
    (hcounted : ∀ {k t}, w.tunnels.lookup k = some t → Counted t.status)
    (hs : s.world.SameObjects w) :
    ({ s with world := w } : Fleet).Sound :=
  h.changeWorld hw hcounted fun _ _ hm => hm.sameObjects hs

theorem Sound.changeServer (h : s.Sound) {server : ForwarderServer} {nextRef : ℕ}
    (hqueued : ∀ {ref stream}, server.streams.lookup ref = some stream → ∀ u ∈ stream.updates, ∀ m,
      u.Upserts m → Genuine s.world m)
    (hacked : ∀ id key, 0 < server.ackedRevision id key →
      server.ackedRevision id key = s.server.ackedRevision id key)
    (hregistered : ∀ {ref stream}, server.streams.lookup ref = some stream → ref < nextRef)
    (hle : s.nextRef ≤ nextRef) : ({ s with server := server, nextRef := nextRef } : Fleet).Sound
    where
  wf := h.wf
  counted := h.counted
  queued := hqueued
  forwarders := h.forwarders
  delayed := h.delayed
  acked := fun {id key} hpos => by
    have heq := hacked id key hpos
    obtain ⟨m, hm, hkey, hrev, hg⟩ := h.acked (heq ▸ hpos)
    exact ⟨m, hm, hkey, hrev.trans heq.symm, hg⟩
  registered := hregistered
  present := fun ref href => lt_of_lt_of_le (h.present ref href) hle

theorem Sound.notifyUpdate (h : s.Sound) {u : TunnelUpdate}
    (hgen : ∀ m, u.Upserts m → Genuine s.world m) :
    ({ s with server := s.server.notifyUpdate (some u) } : Fleet).Sound ∧
      Keeps s { s with server := s.server.notifyUpdate (some u) } := by
  have hback : ∀ {ref stream'}, (s.server.notifyUpdate (some u)).streams.lookup ref = some stream' →
      ∃ stream, s.server.streams.lookup ref = some stream ∧ stream'.id = stream.id ∧
        ∀ v ∈ stream'.updates, v ∈ stream.updates ∨ v = u := by
    intro ref stream' hl
    rw [ForwarderServer.notifyUpdate, Table.lookup_mapValues] at hl
    obtain ⟨stream, hl₀, rfl⟩ := Option.map_eq_some_iff.mp hl
    refine ⟨stream, hl₀, ?_⟩
    unfold ForwarderServer.offer
    split_ifs
    · exact ⟨rfl, fun v hv => (List.mem_append.mp hv).imp_right List.mem_singleton.mp⟩
    · exact ⟨rfl, fun v hv => Or.inl hv⟩
  refine ⟨h.changeServer (fun hl v hv m hm => ?_) (fun _ _ _ => rfl) (fun hl => ?_) (Nat.le_refl _),
    ⟨World.Evolves.refl _, fun _ hx => hx, fun ref href => ⟨href, fun stream' hl => ?_⟩⟩⟩
  · obtain ⟨stream, hl, -, hsub⟩ := hback hl
    rcases hsub v hv with hv | rfl
    · exact h.queued hl v hv m hm
    · exact hgen m hm
  · obtain ⟨stream, hl, -⟩ := hback hl
    exact h.registered hl
  · obtain ⟨stream, hl, hid, -⟩ := hback hl
    exact ⟨stream, hl, hid⟩

theorem Sound.ack (h : s.Sound) {id : String} {m : TunnelMapping} (happ : (id, m) ∈ s.applied)
    (hgen : Genuine s.world m) :
    ({ s with server := (s.server.ack (ackRequest id m)).2 } : Fleet).Sound := by
  cases hack : s.server.ack (ackRequest id m) with
  | mk answer server =>
      cases answer with
      | error err =>
          rw [AckRun.ack_error hack]
          exact h
      | ok _ =>
          obtain ⟨-, hstreams, hother, hown⟩ := AckRun.ack_ok hack
          exact
            { wf := h.wf
              counted := h.counted
              queued := fun hl => h.queued (hstreams ▸ hl)
              forwarders := h.forwarders
              delayed := h.delayed
              acked := fun {id' key} hpos => by
                by_cases hid : id' = id
                · subst hid
                  have hrev : server.ackedRevision id' key = _ := hown key
                  simp only [hrev] at hpos ⊢
                  split_ifs at hpos ⊢ with hraised
                  · exact ⟨m, happ, hraised.1, rfl, hgen⟩
                  · exact h.acked hpos
                · have heq := AckRun.ackedRevision_congr (hother id' hid) key
                  simp only [heq] at hpos ⊢
                  exact h.acked hpos
              registered := fun hl => h.registered (hstreams ▸ hl)
              present := h.present }

theorem Duty.owed_subset (duty : Duty) : duty.owed ⊆ duty.mappings := by
  cases duty with
  | acking ref m ms => exact fun _ hm => hm
  | acknowledging ref m => exact fun _ hm => hm
  | _ => exact fun _ hm => by cases hm

theorem ack_streams (server : ForwarderServer) (request : AckRequest) :
    (server.ack request).2.streams = server.streams := by
  unfold ForwarderServer.ack
  split_ifs <;> rfl

section Steps

variable {cfg : ServerConfig} {id : String} {f : Forwarder}

theorem advance_steps (h : s.Sound) {moved : Forwarder.Moved}
    (hf : moved.1.Sound s.world (s.applied ++ moved.2.map fun m => (id, m)) id) :
    (s.advance id moved).Sound ∧ Keeps s (s.advance id moved) :=
  ⟨h.advance hf, keeps_advance s id moved⟩

theorem advance_unapplied (h : s.Sound) (hf : f.Sound s.world s.applied id) :
    (s.advance id (f, [])).Sound ∧ Keeps s (s.advance id (f, [])) :=
  advance_steps h (by simpa using hf)

theorem serverExec_sameTunnels (op : ServerOp) (c : ServerChoice) (w : World) :
    w.SameTunnels (World.serverExec op c w).2 := by
  cases op <;> exact ⟨rfl, rfl, rfl⟩

theorem join_steps (h : s.Sound) (hs : s.join id = some s') : s'.Sound ∧ Keeps s s' := by
  unfold join at hs
  split_ifs at hs
  cases hs
  exact advance_unapplied h Forwarder.sound_new

theorem list_steps (h : s.Sound) {c : ServerChoice} (hs : s.list cfg id c = some s') :
    s'.Sound ∧ Keeps s s' := by
  obtain ⟨f, hf, hs⟩ := Option.bind_eq_some_iff.mp hs
  obtain ⟨ref, href, hs⟩ := Option.bind_eq_some_iff.mp hs
  have hsound := h.forwarders hf
  split at hs
  · cases hs
    exact advance_unapplied h (hsound.fetchFailed ref)
  · rename_i listed hlist
    cases hs
    refine advance_unapplied h ⟨?_, fun ref' listed' call he => ?_, fun m hm => by (cases hm)⟩
    · rintro m (hm | hm)
      · exact hsound.genuine m (Or.inl hm)
      · obtain ⟨t, ht, rfl⟩ := List.mem_map.mp hm
        have hok : listed = s.world.listing c := by
          simp only [World.serverExec] at hlist
          split at hlist <;> cases hlist
          rfl
        exact genuine_servedMapping h.wf (hok ▸ (List.mem_filter.mp ht).1)
    · cases he
      exact ⟨[], cfg.configOf_traces listed []⟩

theorem serve_steps (h : s.Sound) {c : ServerChoice} (hs : s.serve id c = some s') :
    s'.Sound ∧ Keeps s s' := by
  obtain ⟨f, hf, hs⟩ := Option.bind_eq_some_iff.mp hs
  have hsound := h.forwarders hf
  split at hs
  · rename_i ref listed config hduty
    cases hs
    obtain ⟨tr, vip, hconfig⟩ := hsound.answer _ _ _ hduty
    cases hconfig
    refine advance_unapplied h ⟨?_, fun _ _ _ he => by (cases he), fun m hm => by (cases hm)⟩
    rintro m (hm | hm)
    · exact hsound.genuine m (Or.inl hm)
    · refine hsound.genuine m (Or.inr ?_)
      rw [hduty]
      simpa [Duty.mappings, List.filterMap_map] using hm
  · rename_i ref listed err hduty
    cases hs
    exact advance_unapplied h (hsound.fetchFailed ref)
  · rename_i ref listed op next hduty
    cases hs
    have hsame := serverExec_sameTunnels op c s.world
    have hworld : ({ s with world := (World.serverExec op c s.world).2 } : Fleet).Sound :=
      h.sameObjects (hsame.wf h.wf) (fun ht => h.counted (hsame.tunnels ▸ ht)) hsame.sameObjects
    obtain ⟨tr, htr⟩ := hsound.answer _ _ _ hduty
    have hf' : ({ f with duty := .fetching ref listed (next (World.serverExec op c s.world).1) } :
        Forwarder).Sound (World.serverExec op c s.world).2 s.applied id := by
      refine ⟨fun m hm => ?_, fun _ _ _ he => by (cases he; exact ⟨_, htr.2 _⟩), fun m hm => by
        (cases hm)⟩
      refine (hworld.forwarders hf).genuine m (hm.imp_right fun hm => ?_)
      rw [hduty]
      exact hm
    obtain ⟨hsound', hkeeps⟩ := advance_unapplied hworld hf'
    exact ⟨hsound', ⟨hsame.evolves, hkeeps.applied, hkeeps.streams⟩⟩
  · cases hs

theorem register_steps (h : s.Sound) (hs : s.register id = some s') : s'.Sound ∧ Keeps s s' := by
  obtain ⟨f, hf, hs⟩ := Option.bind_eq_some_iff.mp hs
  split at hs
  swap
  · cases hs
  cases hs
  -- the new stream is empty and has a reference of its own
  have hlookup : ∀ ref, ((s.server.streamID id).2.addStream s.nextRef
      ⟨(s.server.streamID id).1, [], false⟩).streams.lookup ref =
        if ref = s.nextRef then some ⟨(s.server.streamID id).1, [], false⟩
        else s.server.streams.lookup ref := fun ref => by
    rw [ForwarderServer.addStream, Table.lookup_insert_eq, ForwarderServer.streamID_streams]
  have hserver : ({ s with
      server := (s.server.streamID id).2.addStream s.nextRef ⟨(s.server.streamID id).1, [], false⟩
      nextRef := s.nextRef + 1 } : Fleet).Sound := by
    refine h.changeServer (fun {ref stream} hl u hu m hm => ?_) (fun id' key _ => ?_)
      (fun {ref stream} hl => ?_) (Nat.le_succ _)
    · rw [hlookup] at hl
      split_ifs at hl
      · cases hl
        cases hu
      · exact h.queued hl u hu m hm
    · exact AckRun.ackedRevision_congr
        (by rw [ForwarderServer.addStream, ForwarderServer.streamID_acks]) key
    · rw [hlookup] at hl
      split_ifs at hl with href
      · exact href ▸ Nat.lt_succ_self _
      · exact Nat.lt_succ_of_lt (h.registered hl)
  have hf' : ({ f with duty := .waiting s.nextRef, wire := [⟨.sync, none⟩] } : Forwarder).Sound
    s.world
      s.applied id := by
    refine ⟨?_, fun _ _ _ he => by (cases he), fun m hm => by (cases hm)⟩
    rintro m (⟨u, hu, hm⟩ | hm)
    · rw [List.mem_singleton.mp hu] at hm
      cases hm.2
    · cases hm
  obtain ⟨hsound, hkeeps⟩ := advance_unapplied hserver hf'
  refine ⟨hsound, ⟨World.Evolves.refl _, hkeeps.applied, fun ref href => ?_⟩⟩
  refine ⟨href, fun stream hl => ⟨stream, ?_, rfl⟩⟩
  have hne : ref ≠ s.nextRef := Nat.ne_of_lt (h.present ref href)
  replace hl := (hlookup ref).symm.trans hl
  rwa [if_neg hne] at hl

theorem send_steps (h : s.Sound) (hs : s.send id = some s') : s'.Sound ∧ Keeps s s' := by
  obtain ⟨f, hf, hs⟩ := Option.bind_eq_some_iff.mp hs
  obtain ⟨ref, href, hs⟩ := Option.bind_eq_some_iff.mp hs
  obtain ⟨stream, hl, hs⟩ := Option.bind_eq_some_iff.mp hs
  split at hs
  · cases hs
  · rename_i u updates hup
    cases hs
    have hlookup : ∀ ref', (s.server.addStream ref
        { stream with updates := updates }).streams.lookup ref' =
        if ref' = ref then some { stream with updates := updates }
        else s.server.streams.lookup ref' :=
      fun ref' => by rw [ForwarderServer.addStream, Table.lookup_insert_eq]
    have hgen : ∀ v ∈ stream.updates, ∀ m, v.Upserts m → Genuine s.world m := h.queued hl
    rw [hup] at hgen
    have hserver :
        ({ s with
          server := s.server.addStream ref { stream with updates := updates } } : Fleet).Sound := by
      refine h.changeServer (fun {ref' stream'} hl' v hv m hm => ?_) (fun _ _ _ => rfl)
        (fun {ref' stream'} hl' => ?_) (Nat.le_refl _)
      · rw [hlookup] at hl'
        split_ifs at hl'
        · cases hl'
          exact hgen v (List.mem_cons_of_mem _ hv) m hm
        · exact h.queued hl' v hv m hm
      · rw [hlookup] at hl'
        split_ifs at hl' with href'
        · exact href' ▸ h.registered hl
        · exact h.registered hl'
    have hsound := h.forwarders hf
    have hf' : ({ f with wire := f.wire ++ [u] } : Forwarder).Sound s.world s.applied id := by
      refine ⟨?_, hsound.answer, hsound.owed⟩
      rintro m (⟨v, hv, hm⟩ | hm)
      · rcases List.mem_append.mp hv with hv | hv
        · exact hsound.genuine m (Or.inl ⟨v, hv, hm⟩)
        · rw [List.mem_singleton.mp hv] at hm
          exact hgen u List.mem_cons_self m hm
      · exact hsound.genuine m (Or.inr hm)
    obtain ⟨hsound', hkeeps⟩ := advance_unapplied hserver hf'
    refine ⟨hsound', ⟨World.Evolves.refl _, hkeeps.applied, fun ref' href' =>
      ⟨href', fun stream' hl' => ?_⟩⟩⟩
    replace hl' := (hlookup ref').symm.trans hl'
    split_ifs at hl' with he
    · cases hl'
      exact ⟨stream, he ▸ hl, rfl⟩
    · exact ⟨stream', hl', rfl⟩

theorem ack_steps (h : s.Sound) {outcome : AckOutcome} (hs : s.ack id outcome = some s') :
    s'.Sound ∧ Keeps s s' := by
  obtain ⟨f, hf, hs⟩ := Option.bind_eq_some_iff.mp hs
  obtain ⟨m, hm, hs⟩ := Option.bind_eq_some_iff.mp hs
  have hsound := h.forwarders hf
  have happ : (id, m) ∈ s.applied := hsound.owed m (List.mem_of_head? hm)
  have hgen : Genuine s.world m :=
    hsound.genuine m (Or.inr (Duty.owed_subset _ (List.mem_of_head? hm)))
  have hexecuted : ∀ ok, (({ s with server := (s.server.ack (ackRequest id m)).2 } : Fleet).advance
    id
      ({ f with duty := f.duty.acked ok }, [])).Sound ∧
      Keeps s (({ s with server := (s.server.ack (ackRequest id m)).2 } : Fleet).advance id
        ({ f with duty := f.duty.acked ok }, [])) := by
    intro ok
    obtain ⟨hsound', hkeeps⟩ := advance_unapplied (h.ack happ hgen) (hsound.acked hm ok)
    refine ⟨hsound', ⟨World.Evolves.refl _, hkeeps.applied, fun ref href =>
      ⟨href, fun stream hl => ?_⟩⟩⟩
    exact ⟨stream, (ack_streams s.server _) ▸ hl, rfl⟩
  cases outcome with
  | answered =>
      cases hs
      exact hexecuted _
  | answerLost =>
      cases hs
      exact hexecuted false
  | lost =>
      cases hs
      exact advance_unapplied h (hsound.acked hm false)
  | late =>
      cases hs
      have hlate : ({ s with delayed := (id, m) :: s.delayed } : Fleet).Sound := by
        refine { h with delayed := fun p hp => ?_ }
        rcases List.mem_cons.mp hp with rfl | hp
        · exact ⟨happ, hgen⟩
        · exact h.delayed p hp
      obtain ⟨hsound', hkeeps⟩ := advance_unapplied hlate (hsound.acked hm false)
      exact ⟨hsound', ⟨World.Evolves.refl _, hkeeps.applied, hkeeps.streams⟩⟩

theorem deliver_steps (h : s.Sound) {i : ℕ} (hs : s.deliver i = some s') :
    s'.Sound ∧ Keeps s s' := by
  obtain ⟨p, hp, rfl⟩ := Option.map_eq_some_iff.mp hs
  obtain ⟨happ, hgen⟩ := h.delayed p (List.mem_of_getElem? hp)
  have hack := h.ack happ hgen
  refine ⟨{ hack with delayed := fun q hq => h.delayed q (List.mem_of_mem_eraseIdx hq) },
    ⟨World.Evolves.refl _, fun _ hx => hx, fun ref href => ⟨href, fun stream hl => ?_⟩⟩⟩
  exact ⟨stream, (ack_streams s.server _) ▸ hl, rfl⟩

theorem endStream_steps (h : s.Sound) {ref : ℕ} (hs : s.endStream ref = some s') :
    s'.Sound ∧ Keeps s s' := by
  obtain ⟨stream, hl, rfl⟩ := Option.map_eq_some_iff.mp hs
  have hlookup : ∀ ref', (s.server.removeStream ref stream.id).streams.lookup ref' =
      if ref' = ref then none else s.server.streams.lookup ref' := fun ref' => by
    rw [ForwarderServer.removeStream_streams, Table.lookup_erase_eq]
  have hback : ∀ {ref' stream'}, (s.server.removeStream ref stream.id).streams.lookup ref' =
    some stream' →
      s.server.streams.lookup ref' = some stream' := fun hl' => by
    rw [hlookup] at hl'
    split_ifs at hl'
    exact hl'
  have hserver : ({ s with server := s.server.removeStream ref stream.id } : Fleet).Sound := by
    refine h.changeServer (fun hl' => h.queued (hback hl')) (fun id key hpos => ?_)
      (fun hl' => h.registered (hback hl')) (Nat.le_refl _)
    have hacks := s.server.removeStream_acks ref stream.id id
    split_ifs at hacks
    · rw [AckRun.ackedRevision_none hacks] at hpos
      exact absurd hpos (Int.lt_irrefl 0)
    · exact AckRun.ackedRevision_congr hacks key
  refine ⟨{ hserver with present := fun r hr => h.present r (List.mem_filter.mp hr).1 },
    ⟨World.Evolves.refl _, fun _ hx => hx, fun r hr => ?_⟩⟩
  exact ⟨(List.mem_filter.mp hr).1, fun stream' hl' => ⟨stream', hback hl', rfl⟩⟩

theorem cluster_steps (h : s.Sound) {e : World.Outside} {w : World}
    (hs : s.world.outside e = some w) (hquiet : ∀ k, e.creates = some k → s.Quiet k) :
    ({ s with world := w } : Fleet).Sound ∧ Keeps s { s with world := w } := by
  obtain ⟨hw, hev⟩ := World.outside_evolves h.wf hs
  have hcounted : ∀ {k t}, w.tunnels.lookup k = some t → Counted t.status := fun ht =>
    hev.toFollows.forall_status counted_empty h.counted ht
  refine ⟨?_, hev, fun _ hx => hx, (Keeps.refl s).streams⟩
  cases hc : e.creates with
  | none => exact h.sameObjects hw hcounted (World.outside_sameObjects h.wf hc hs)
  | some k =>
      obtain ⟨hflight, hacks⟩ := hquiet k hc
      refine h.changeWorld hw hcounted fun m hm hg => ?_
      cases e with
      | createTunnel key finalizers spec =>
          obtain rfl : key = k := Option.some.inj hc
          refine hg.createTunnel hs fun hnames => ?_
          rcases hm with hm | ⟨id, hpos⟩
          · exact hflight m hm hnames
          · have hkey : (ackRequest id m).key = tunnelKey key := by
              rw [AckRequest.key, ackRequest, hnames.1, hnames.2]
              rfl
            rw [hkey] at hpos
            have := hacks id
            omega
      | _ => cases hc

end Steps

end Fleet

end TunnelOperator
