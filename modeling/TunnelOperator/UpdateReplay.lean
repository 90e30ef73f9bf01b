import TunnelOperator.UpdateFeed

/-!
# No update is lost between snapshot and stream

Updates that were queued before the snapshot are replayed after it, so the table is wrong in
between. What holds all the time is that the table, or the snapshot about to be applied, is
right at every port that no outstanding update touches, unless the stream has dropped an
update; then more has been notified than can ever be handled on it.
-/

namespace TunnelOperator
open Interaction GoText Feed

def UDPProxy.ShowsAt (proxy : UDPProxy) (port : Int) : Option TunnelMapping → Prop
  | none => proxy.mappings.lookup port = none
  | some m => ∃ l, proxy.mappings.lookup port = some l ∧ l.Shows m

def ForwarderConfig.ShowsAt (config : ForwarderConfig) (port : Int) (v : Option TunnelMapping) :
    Prop :=
  ∀ m, v = some m ↔ some m ∈ config.tunnels ∧ m.forwarderPort = port

abbrev CaughtUp := Changelog.CaughtUp TunnelUpdate.port TunnelUpdate.leaves

section Table

variable {store : Table TunnelName TunnelMapping} {log before rest : List TunnelUpdate}
  {u : TunnelUpdate} {m : TunnelMapping} {proxy proxy' : UDPProxy} {config : ForwarderConfig}

/-- A configuration that was read from the store and is about to be applied to the table. -/
structure Listed (log : List TunnelUpdate) (proxy : UDPProxy) (config : ForwarderConfig) :
    Prop where
  distinct : UDPProxy.PortsDistinct config.tunnels
  valid : ∀ m, some m ∈ config.tunnels → m.Valid
  sets : ∀ m, some m ∈ config.tunnels → ∃ u ∈ log, u.Sets m
  noNewer : UDPProxy.NoNewer config.tunnels proxy

theorem Listed.mono (h : Listed log proxy config) (hsub : log ⊆ rest) :
    Listed rest proxy config := by
  refine ⟨h.distinct, h.valid, fun m hm => ?_, h.noNewer⟩
  obtain ⟨u, hu, hs⟩ := h.sets m hm
  exact ⟨u, hsub hu, hs⟩

theorem UDPProxy.Serves.shows {before : Option PortListener} {l : PortListener}
    (h : UDPProxy.Serves m before l) (hno : ¬ UDPProxy.Newer m before) : l.Shows m := by
  obtain ⟨hsame, ⟨-, hg, hr⟩ | ⟨hb, hlt⟩⟩ := h
  · exact ⟨hsame, hg, hr⟩
  · exact absurd ⟨l, hb, hsame, hlt⟩ hno

theorem Recorded.valid (h : Recorded store log) (hm : store.lookup m.tunnel = some m) :
    m.Valid := by
  obtain ⟨u, hu, hs⟩ := h.exists_sets hm
  cases h.published u hu with
  | sets n hn hpos haddr =>
      cases hn.2.symm.trans hs.2
      refine ⟨hpos, fun he => haddr ?_⟩
      rw [he]
      rfl
  | removes n hd =>
      rw [TunnelUpdate.Sets, hd] at hs
      cases hs.1

section Listing

variable {listing : List TunnelMapping} (h : Recorded store log) (hperm : listing.Perm store.values)

include h hperm

theorem Recorded.mem_listing : some m ∈ listing.map some ↔ store.lookup m.tunnel = some m := by
  simp only [List.mem_map, Option.some.injEq, exists_eq_right]
  rw [hperm.mem_iff, Table.mem_values_iff]
  constructor
  · rintro ⟨k, hk⟩
    rw [h.stored hk]
    exact hk
  · intro hm
    exact ⟨_, hm⟩

theorem Recorded.listed (hi : Issued proxy log) (ip : Option String) :
    Listed log proxy ⟨ip, listing.map some⟩ := by
  have hvalid : ∀ m, some m ∈ listing.map some → m.Valid :=
    fun m hm => h.valid ((h.mem_listing hperm).mp hm)
  refine ⟨?_, hvalid, fun m hm => h.exists_sets ((h.mem_listing hperm).mp hm),
    fun m hm _ => h.not_newer_of_stored hi ((h.mem_listing hperm).mp hm)⟩
  -- two stored tunnels with one port would both be what the log leaves there
  have hnodup : (store.values.map (·.forwarderPort)).Nodup := by
    apply Table.nodup_map_values
    intro k k' m m' hk hk' he
    have hm := (h.content m.forwarderPort m).mpr ⟨by rw [h.stored hk]; exact hk, rfl⟩
    have hm' := (h.content m.forwarderPort m').mpr ⟨by rw [h.stored hk']; exact hk', he.symm⟩
    rw [hm] at hm'
    cases hm'
    exact (h.stored hk).symm.trans (h.stored hk')
  have hdesired : ∀ l : List TunnelMapping, (∀ m ∈ l, m.Valid) →
      UDPProxy.desired (l.map some) = l.map (·.forwarderPort) := by
    intro l hl
    induction l with
    | nil => rfl
    | cons m l ih =>
        rw [List.map_cons, UDPProxy.desired_cons_some (hl m List.mem_cons_self),
          ih fun m hm => hl m (List.mem_cons_of_mem _ hm), List.map_cons]
  rw [UDPProxy.PortsDistinct, hdesired listing fun m hm => hvalid m (List.mem_map_of_mem hm)]
  exact (hperm.map _).nodup_iff.mpr hnodup

theorem Recorded.listing_showsAt (ip : Option String) (port : Int) :
    ForwarderConfig.ShowsAt ⟨ip, listing.map some⟩ port (leftAt log port) := by
  intro m
  rw [h.content, h.mem_listing hperm]

end Listing

theorem Listed.apply (h : Listed log proxy config)
    (hok : proxy.reconcileMappings UDPProxy.listenAll config.tunnels = (.ok (), proxy')) :
    Issued proxy' log ∧ ∀ port v, config.ShowsAt port v → proxy'.ShowsAt port v := by
  obtain ⟨hentries, hothers⟩ := UDPProxy.reconcileMappings_ok h.distinct hok
  have hshows : ∀ m, some m ∈ config.tunnels →
      ∃ l, proxy'.mappings.lookup m.forwarderPort = some l ∧ l.Shows m := by
    intro m hm
    obtain ⟨l, hl, hserves⟩ := hentries m hm (h.valid m hm)
    exact ⟨l, hl, hserves.shows (h.noNewer m hm (h.valid m hm))⟩
  constructor
  · intro port l hl
    by_cases hp : port ∈ UDPProxy.desired config.tunnels
    · obtain ⟨m, hm, -, rfl⟩ := UDPProxy.mem_desired.mp hp
      obtain ⟨u, hu, hs⟩ := h.sets m hm
      obtain ⟨l', hl', hshow⟩ := hshows m hm
      rw [hl] at hl'
      cases hl'
      exact ⟨u, hu, m, hs, rfl, hshow⟩
    · rw [hothers port hp] at hl
      cases hl
  · intro port v hv
    cases v with
    | none =>
        apply hothers
        intro hp
        obtain ⟨m, hm, -, hport⟩ := UDPProxy.mem_desired.mp hp
        cases (hv m).mpr ⟨hm, hport⟩
    | some m =>
        obtain ⟨hm, rfl⟩ := (hv m).mp rfl
        exact hshows m hm

theorem handleUpdate_published (h : u.Published) (proxy : UDPProxy) :
    let proxy' := (handleUpdate UDPProxy.listenAll (some u) proxy).2
    (∀ port, port ≠ u.port → proxy'.mappings.lookup port = proxy.mappings.lookup port) ∧
      match u.leaves with
      | none => proxy'.mappings.lookup u.port = none
      | some m => u.Sets m ∧ ∃ l, proxy'.mappings.lookup u.port = some l ∧
          UDPProxy.Serves m (proxy.mappings.lookup u.port) l := by
  obtain ⟨type, tunnel⟩ := u
  cases h with
  | sets m hs hpos haddr =>
      have hvalid : m.Valid := by
        refine ⟨hpos, fun he => haddr ?_⟩
        rw [he]
        rfl
      obtain ⟨proxy', happ⟩ := UDPProxy.applyMapping_listenAll hvalid proxy
      obtain ⟨⟨l, hl, hserves⟩, hothers⟩ := UDPProxy.addMapping_ok (UDPProxy.applyMapping_ok happ).2
      have hresult : handleUpdate UDPProxy.listenAll (some ⟨type, tunnel⟩) proxy =
          (.acking m, proxy') := by
        obtain ⟨htype, htunnel⟩ := hs
        cases htunnel
        have hnot : ¬ m.forwarderPort ≤ 0 := by omega
        cases type with
        | added => simp only [handleUpdate, if_neg hnot, if_neg haddr, happ]
        | modified => simp only [handleUpdate, if_neg hnot, if_neg haddr, happ]
        | deleted => cases htype
        | sync => cases htype
        | unrecognized n => cases htype
      rw [hresult, hs.leaves, hs.port]
      exact ⟨hothers, hs, l, hl, hserves⟩
  | removes m hd ht hpos =>
      cases hd
      cases ht
      have hnot : ¬ m.forwarderPort ≤ 0 := by omega
      have hresult : handleUpdate UDPProxy.listenAll (some ⟨.deleted, some m⟩) proxy =
          (.removed, proxy.removeMapping m.forwarderPort) := by
        simp only [handleUpdate, if_neg hnot]
      rw [hresult]
      constructor
      · intro port hp
        exact (UDPProxy.removeMapping_lookup _ _ _).trans (if_neg hp)
      · exact (UDPProxy.removeMapping_lookup _ _ _).trans (if_pos rfl)

theorem Issued.handleUpdate (hr : Recorded store log) (h : Issued proxy log) (hu : u ∈ log) :
    Issued (handleUpdate UDPProxy.listenAll (some u) proxy).2 log := by
  obtain ⟨hothers, hat⟩ := handleUpdate_published (hr.published u hu) proxy
  intro port l hl
  by_cases hp : port = u.port
  · subst hp
    cases hleaves : u.leaves with
    | none =>
        rw [hleaves] at hat
        rw [hat] at hl
        cases hl
    | some m =>
        rw [hleaves] at hat
        obtain ⟨hs, l', hl', hsame, ⟨-, hg, hrev⟩ | ⟨hbefore, -⟩⟩ := hat
        · rw [hl] at hl'
          cases hl'
          exact ⟨u, hu, m, hs, hs.port.symm, hsame, hg, hrev⟩
        · rw [hl] at hl'
          cases hl'
          exact h _ l hbefore
  · rw [hothers port hp] at hl
    exact h port l hl

theorem caughtUp_handleUpdate (hr : Recorded store log) (hi : Issued proxy log)
    (hlog : log = before ++ u :: rest) (h : CaughtUp proxy.ShowsAt log (u :: rest)) :
    CaughtUp (handleUpdate UDPProxy.listenAll (some u) proxy).2.ShowsAt log rest := by
  have hu : u ∈ log := by simp [hlog]
  obtain ⟨hothers, hat⟩ := handleUpdate_published (hr.published u hu) proxy
  refine Changelog.CaughtUp.replay h hlog ?_ ?_
  · intro port v hp hv
    cases v with
    | none => exact (hothers port hp).trans hv
    | some m =>
        obtain ⟨l, hl, hshow⟩ := hv
        exact ⟨l, (hothers port hp).trans hl, hshow⟩
  · intro hlast
    cases hleaves : u.leaves with
    | none =>
        rw [hleaves] at hat
        exact hat
    | some m =>
        rw [hleaves] at hat
        obtain ⟨hs, l, hl, hserves⟩ := hat
        rw [hs.port] at hl hserves hlast ⊢
        exact ⟨l, hl, hserves.shows (hr.not_newer hi hlog hs hlast)⟩

end Table

/-- The configuration that the forwarder has fetched and not applied yet. -/
def Watch.fetchedConfig : Watch → Option ForwarderConfig
  | .configured config => some config
  | .fetched _ config => some config
  | _ => none

/-- What is right, at this point, at every port that no remaining update touches. -/
def Watch.Shows (watch : Watch) (handled : List TunnelUpdate) (proxy : UDPProxy)
    (log remaining : List TunnelUpdate) : Prop :=
  match watch with
  | .waiting _ => handled = []
  | .synced _ => handled = []
  | .fetched _ snapshot => handled = [] ∧ CaughtUp snapshot.ShowsAt log remaining
  | .streaming _ => CaughtUp proxy.ShowsAt log remaining
  | _ => True

theorem Watch.Shows.commit {watch : Watch} {handled log remaining : List TunnelUpdate}
    {proxy : UDPProxy} (h : watch.Shows handled proxy log remaining) (u : TunnelUpdate) :
    watch.Shows handled proxy (log ++ [u]) (remaining ++ [u]) := by
  cases watch with
  | starting => trivial
  | configured config => trivial
  | connecting => trivial
  | waiting ref => exact h
  | synced ref => exact h
  | fetched ref snapshot => exact ⟨h.1, Changelog.CaughtUp.commit h.2 u⟩
  | streaming ref => exact Changelog.CaughtUp.commit h u

def Watch.queue (watch : Watch) (server : ForwarderServer) : List TunnelUpdate :=
  match watch.stream with
  | none => []
  | some ref => ((server.streams.lookup ref).map (·.updates)).getD []

theorem offer_updates (u : TunnelUpdate) (stream : ForwarderStream) :
    (ForwarderServer.offer u stream).updates = stream.updates ∨
      (ForwarderServer.offer u stream).updates = stream.updates ++ [u] := by
  unfold ForwarderServer.offer
  split_ifs
  · exact Or.inr rfl
  · exact Or.inl rfl

theorem Watch.queue_notifyUpdate (watch : Watch) (u : TunnelUpdate) (server : ForwarderServer) :
    watch.queue (server.notifyUpdate (some u)) = watch.queue server ∨
      watch.queue (server.notifyUpdate (some u)) = watch.queue server ++ [u] := by
  unfold Watch.queue
  cases watch.stream with
  | none => exact Or.inl rfl
  | some ref =>
      simp only [ForwarderServer.notifyUpdate, Table.lookup_mapValues]
      cases server.streams.lookup ref with
      | none => exact Or.inl rfl
      | some stream => exact offer_updates u stream

theorem Watch.queue_removeStream (watch : Watch) (ref : ℕ) (id : String)
    (server : ForwarderServer) :
    watch.queue (server.removeStream ref id) = watch.queue server ∨
      (watch.queue (server.removeStream ref id)).length < (watch.queue server).length := by
  unfold Watch.queue
  cases watch.stream with
  | none => exact Or.inl rfl
  | some ref' =>
      simp only [ForwarderServer.removeStream_streams, Table.lookup_erase_eq]
      split_ifs
      · cases h : ((server.streams.lookup ref').map (·.updates)).getD [] with
        | nil => exact Or.inl rfl
        | cons u updates => exact Or.inr (by simp)
      · exact Or.inl rfl

namespace Feed

def inFlight (s : Feed) : List TunnelUpdate := s.wire.filter fun u => u.type ≠ .sync

/-- The updates that can still reach the forwarder on its stream. -/
def undelivered (s : Feed) : List TunnelUpdate := s.inFlight ++ s.watch.queue s.server

def remaining (s : Feed) : List TunnelUpdate := s.undelivered ++ s.pending.toList

def Behind (s : Feed) : Prop := s.handled.length + s.undelivered.length < s.notified.length

structure OnTrack (s : Feed) : Prop where
  notified : s.notified = s.handled ++ s.undelivered
  shown : s.watch.Shows s.handled s.proxy s.log s.remaining

structure Invariant (s : Feed) : Prop where
  recorded : Recorded s.store s.log
  issued : Issued s.proxy s.log
  queued : ∀ {ref stream}, s.server.streams.lookup ref = some stream →
    ∀ u ∈ stream.updates, u ∈ s.log
  wired : ∀ u ∈ s.wire, u.type = .sync ∨ u ∈ s.log
  split : ∃ before, s.log = before ++ s.notified ++ s.pending.toList
  listed : ∀ config, s.watch.fetchedConfig = some config → Listed s.log s.proxy config
  delivery : s.watch.stream ≠ none → s.Behind ∨ s.OnTrack

section Step

variable {s s' : Feed}

theorem Invariant.undelivered_le (h : s.Invariant) (hs : s.watch.stream ≠ none) :
    s.handled.length + s.undelivered.length ≤ s.notified.length := by
  cases h.delivery hs with
  | inl hb => exact Nat.le_of_lt hb
  | inr ht => rw [ht.notified, List.length_append]

theorem Invariant.carry (h : s.Invariant) (hs : s.watch.stream ≠ none)
    (hn : s'.notified = s.notified) (hh : s'.handled = s.handled)
    (hu : s'.undelivered = s.undelivered)
    (hshows : s.watch.Shows s.handled s.proxy s.log s.remaining →
      s'.watch.Shows s'.handled s'.proxy s'.log s'.remaining) :
    s'.Behind ∨ s'.OnTrack := by
  cases h.delivery hs with
  | inl hb =>
      left
      rw [Behind, hn, hh, hu]
      exact hb
  | inr ht =>
      right
      refine ⟨?_, hshows ht.shown⟩
      rw [hn, hh, hu]
      exact ht.notified

theorem invariant_initial : initial.Invariant where
  recorded := recorded_empty
  issued := issued_new _
  queued := by
    intro ref stream h
    cases h
  wired := by simp [initial]
  split := ⟨[], rfl⟩
  listed := by simp [initial, Watch.fetchedConfig]
  delivery := by simp [initial, Watch.stream]

theorem Invariant.commit {type : UpdateType} {m : TunnelMapping} (h : s.Invariant)
    (hstep : s.commit type m = some s') : s'.Invariant := by
  unfold Feed.commit at hstep
  by_cases hadm : s.pending = none ∧ s.Admits type m
  swap
  · rw [if_neg hadm] at hstep
    cases hstep
  rw [if_pos hadm] at hstep
  obtain ⟨hpending, hadmits⟩ := hadm
  cases hstep
  have hsub : s.log ⊆ s.log ++ [⟨type, some m⟩] := List.subset_append_left _ _
  refine ⟨?_, h.issued.mono hsub, fun hl u hu => hsub (h.queued hl u hu),
    fun u hu => (h.wired u hu).imp_right (hsub ·), ?_, fun c hc => (h.listed c hc).mono hsub, ?_⟩
  · cases hadmits with
    | inl hup =>
        obtain ⟨htype, hpos, haddr, hrev, hport⟩ := hup
        have hne : type ≠ .deleted := by
          rintro rfl
          cases htype
        have hstored : ∀ {k n}, s.store.lookup k = some n →
            (n.tunnel = m.tunnel ↔ n.forwarderPort = m.forwarderPort) :=
          fun hk => hport _ ((Table.mem_values_iff _ _).mpr ⟨_, hk⟩)
        simp only [if_neg hne]
        exact h.recorded.upsert htype hpos haddr
          (fun u hu n hn htunnel => hrev u hu hn.1 n hn.2 htunnel) hstored
    | inr hdel =>
        obtain ⟨rfl, n, hn, hport⟩ := hdel
        exact h.recorded.remove hn hport
  · obtain ⟨before, hbefore⟩ := h.split
    rw [hpending] at hbefore
    exact ⟨before, by simp [hbefore]⟩
  · intro hs
    refine (h.delivery hs).imp id fun ht => ⟨ht.notified, ?_⟩
    have hremaining : s.remaining = s.undelivered := by simp [remaining, hpending]
    have hshown := ht.shown.commit ⟨type, some m⟩
    rw [hremaining] at hshown
    exact hshown

theorem Invariant.notify (h : s.Invariant) (hstep : s.notify = some s') : s'.Invariant := by
  unfold Feed.notify at hstep
  obtain ⟨u, hpending, rfl⟩ := Option.map_eq_some_iff.mp hstep
  obtain ⟨before, hbefore⟩ := h.split
  rw [hpending] at hbefore
  have hu : u ∈ s.log := by simp [hbefore]
  refine ⟨h.recorded, h.issued, ?_, h.wired, ⟨before, by simp [hbefore]⟩, h.listed, fun hs => ?_⟩
  · intro ref stream hl v hv
    simp only [ForwarderServer.notifyUpdate, Table.lookup_mapValues] at hl
    obtain ⟨stream₀, hl₀, rfl⟩ := Option.map_eq_some_iff.mp hl
    cases offer_updates u stream₀ with
    | inl he =>
        rw [he] at hv
        exact h.queued hl₀ v hv
    | inr he =>
        rw [he] at hv
        rcases List.mem_append.mp hv with hv | hv
        · exact h.queued hl₀ v hv
        · rw [List.mem_singleton.mp hv]
          exact hu
  · have hle := h.undelivered_le hs
    cases s.watch.queue_notifyUpdate u s.server with
    | inl hq =>
        -- dropped: one more notified, none more to be delivered
        refine Or.inl ?_
        simp only [Behind, undelivered, inFlight, hq, List.length_append,
          List.length_singleton] at hle ⊢
        omega
    | inr hq =>
        refine (h.delivery hs).imp (fun hb => ?_) fun ht => ⟨?_, ?_⟩
        · simp only [Behind, undelivered, inFlight, hq, List.length_append,
            List.length_singleton] at hb ⊢
          omega
        · have hn := ht.notified
          simp only [undelivered, inFlight, hq] at hn ⊢
          rw [hn]
          simp only [List.append_assoc]
        · have hshown := ht.shown
          simp only [remaining, undelivered, inFlight, hq, hpending, Option.toList_some,
            Option.toList_none, List.append_assoc, List.append_nil] at hshown ⊢
          exact hshown

theorem Invariant.register {id : String} (h : s.Invariant) (hstep : s.register id = some s') :
    s'.Invariant := by
  unfold Feed.register at hstep
  split at hstep
  swap
  · cases hstep
  cases hstep
  refine ⟨h.recorded, h.issued, ?_, by simp, ?_, by
    simp [Watch.fetchedConfig], fun _ => Or.inr ⟨?_, rfl⟩⟩
  · intro ref stream hl u hu
    rw [ForwarderServer.addStream, Table.lookup_insert_eq] at hl
    split_ifs at hl
    · cases hl
      cases hu
    · exact h.queued hl u hu
  · obtain ⟨before, hbefore⟩ := h.split
    exact ⟨before ++ s.notified, by simp [hbefore]⟩
  · simp [undelivered, inFlight, Watch.queue, Watch.stream, ForwarderServer.addStream]

theorem Invariant.send (h : s.Invariant) (hstep : s.send = some s') : s'.Invariant := by
  unfold Feed.send at hstep
  cases href : s.watch.stream with
  | none => simp [href] at hstep
  | some ref =>
      cases hl : s.server.streams.lookup ref with
      | none => simp [href, hl] at hstep
      | some stream =>
          cases hupdates : stream.updates with
          | nil => simp [href, hl, hupdates] at hstep
          | cons u updates =>
              simp only [href, hl, hupdates, Option.bind_eq_bind, Option.bind_some,
                Option.some.injEq] at hstep
              subst hstep
              have hu : u ∈ s.log := h.queued hl u (by simp [hupdates])
              have hsync := (h.recorded.published u hu).ne_sync
              have hqueue : s.watch.queue s.server = u :: updates := by
                simp [Watch.queue, href, hl, hupdates]
              have hqueue' : s.watch.queue
                  (s.server.addStream ref { stream with updates := updates }) =
                  updates := by
                simp [Watch.queue, href, ForwarderServer.addStream]
              have hsame : undelivered { s with
                  server := s.server.addStream ref { stream with updates := updates }
                  wire := s.wire ++ [u] } = s.undelivered := by
                simp [undelivered, inFlight, hqueue, hqueue', hsync]
              refine ⟨h.recorded, h.issued, ?_, ?_, h.split, h.listed, fun hs => ?_⟩
              · intro ref' stream' hl' v hv
                rw [ForwarderServer.addStream, Table.lookup_insert_eq] at hl'
                split_ifs at hl'
                · cases hl'
                  exact h.queued hl v (by rw [hupdates]; exact List.mem_cons_of_mem _ hv)
                · exact h.queued hl' v hv
              · intro v hv
                rcases List.mem_append.mp hv with hv | hv
                · exact h.wired v hv
                · rw [List.mem_singleton.mp hv]
                  exact Or.inr hu
              · refine h.carry hs rfl rfl hsame fun hshown => ?_
                rw [remaining, hsame]
                exact hshown

theorem Invariant.leave (h : s.Invariant) {watch : Watch} {wire : List TunnelUpdate}
    {proxy : UDPProxy} (hwatch : watch = .starting ∨ watch = .connecting) (hwire : wire ⊆ s.wire)
    (hissued : Issued proxy s.log) :
    Invariant { s with watch := watch, wire := wire, proxy := proxy } := by
  refine ⟨h.recorded, hissued, h.queued, fun u hu => h.wired u (hwire hu), h.split, ?_, ?_⟩
  · intro config hc
    cases hwatch with
    | inl he => simp [he, Watch.fetchedConfig] at hc
    | inr he => simp [he, Watch.fetchedConfig] at hc
  · intro hs
    cases hwatch with
    | inl he => simp [he, Watch.stream] at hs
    | inr he => simp [he, Watch.stream] at hs

section Receive

variable {u : TunnelUpdate} {wire : List TunnelUpdate}

theorem inFlight_sync (hwire : s.wire = u :: wire) (hsync : u.type = .sync) :
    s.inFlight = wire.filter fun u => u.type ≠ .sync := by
  rw [inFlight, hwire, List.filter_cons]
  simp [hsync]

theorem inFlight_update (hwire : s.wire = u :: wire) (hsync : u.type ≠ .sync) :
    s.inFlight = u :: wire.filter fun u => u.type ≠ .sync := by
  rw [inFlight, hwire, List.filter_cons]
  simp [hsync]

theorem Invariant.wired_tail (h : s.Invariant) (hwire : s.wire = u :: wire) :
    ∀ v ∈ wire, v.type = .sync ∨ v ∈ s.log := by
  intro v hv
  apply h.wired v
  rw [hwire]
  exact List.mem_cons_of_mem u hv

theorem Invariant.receiveSync (h : s.Invariant) (hwire : s.wire = u :: wire)
    (hsync : u.type = .sync) {watch : Watch} (hstream : s.watch.stream ≠ none)
    (hqueue : watch.queue s.server = s.watch.queue s.server) (hconfig : watch.fetchedConfig = none)
    (hshows : s.watch.Shows s.handled s.proxy s.log s.remaining →
      watch.Shows s.handled s.proxy s.log s.remaining) :
    Invariant { s with watch := watch, wire := wire } := by
  have hsame : undelivered { s with watch := watch, wire := wire } = s.undelivered := by
    rw [undelivered, undelivered, inFlight_sync hwire hsync, hqueue]
    rfl
  refine ⟨h.recorded, h.issued, h.queued, h.wired_tail hwire, h.split, fun config hc => ?_,
    fun _ => h.carry hstream rfl rfl hsame fun hshown => ?_⟩
  · rw [hconfig] at hc
    cases hc
  · rw [remaining, hsame]
    exact hshows hshown

theorem Invariant.receiveUpdate (h : s.Invariant) {ref : ℕ} (hw : s.watch = .streaming ref)
    (hwire : s.wire = u :: wire) (hsync : u.type ≠ .sync) :
    Invariant { s with
      watch := .streaming ref
      wire := wire
      proxy := (handleUpdate UDPProxy.listenAll (some u) s.proxy).2
      handled := s.handled ++ [u] } := by
  have hu : u ∈ s.log := (h.wired u (by simp [hwire])).resolve_left hsync
  have hissued := h.issued.handleUpdate h.recorded hu
  have hstream : s.watch.stream ≠ none := by simp [hw, Watch.stream]
  set proxy := (handleUpdate UDPProxy.listenAll (some u) s.proxy).2 with hproxy
  have hnext : s.undelivered = u :: undelivered { s with
      watch := .streaming ref, wire := wire, proxy := proxy, handled := s.handled ++ [u] } := by
    rw [undelivered, undelivered, inFlight_update hwire hsync, hw]
    rfl
  refine ⟨h.recorded, hissued, h.queued, h.wired_tail hwire, h.split, by simp [Watch.fetchedConfig],
    fun _ => (h.delivery hstream).imp (fun hb => ?_) fun ht => ⟨?_, ?_⟩⟩
  · rw [Behind, hnext] at hb
    simp only [Behind, List.length_append, List.length_cons, List.length_nil] at hb ⊢
    omega
  · have hn := ht.notified
    rw [hnext] at hn
    simpa only [List.append_assoc, List.singleton_append] using hn
  · have hshown := ht.shown
    have hn := ht.notified
    rw [hw, remaining, hnext] at hshown
    rw [hnext] at hn
    obtain ⟨before, hbefore⟩ := h.split
    rw [hn] at hbefore
    have hlog : s.log = (before ++ s.handled) ++ u :: remaining { s with
        watch := .streaming ref, wire := wire, proxy := proxy, handled := s.handled ++ [u] } := by
      simpa only [remaining, List.append_assoc, List.cons_append] using hbefore
    exact caughtUp_handleUpdate h.recorded h.issued hlog hshown

theorem Invariant.receive (h : s.Invariant) (hstep : s.receive = some s') : s'.Invariant := by
  unfold Feed.receive at hstep
  cases hwire : s.wire with
  | nil => cases hw : s.watch <;> simp [hw, hwire] at hstep
  | cons u wire =>
      cases hw : s.watch with
      | starting => simp [hw, hwire] at hstep
      | configured config => simp [hw, hwire] at hstep
      | connecting => simp [hw, hwire] at hstep
      | synced ref => simp [hw, hwire] at hstep
      | fetched ref snapshot => simp [hw, hwire] at hstep
      | waiting ref =>
          simp only [hw, hwire, Option.some.injEq] at hstep
          subst hstep
          split_ifs with hsync
          · exact h.receiveSync hwire hsync (by simp [hw, Watch.stream]) (by rw [hw]; rfl) rfl
              fun hshown => by rwa [hw] at hshown
          · refine h.leave (Or.inr rfl) ?_ h.issued
            rw [hwire]
            exact List.subset_cons_self _ _
      | streaming ref =>
          simp only [hw, hwire] at hstep
          split_ifs at hstep with hsync
          · cases hstep
            exact h.receiveSync hwire hsync (by simp [hw, Watch.stream]) (by rw [hw]) rfl
              fun hshown => by rwa [hw] at hshown
          · cases hstep
            exact h.receiveUpdate hw hwire hsync

end Receive

theorem Invariant.fetch {listing : List TunnelMapping} (h : s.Invariant)
    (hstep : s.fetch listing = some s') : s'.Invariant := by
  unfold Feed.fetch at hstep
  split_ifs at hstep with hperm
  have hperm := List.isPerm_iff.mp hperm
  have hlisted := h.recorded.listed hperm h.issued none
  cases hw : s.watch with
  | starting =>
      simp only [hw, Option.some.injEq] at hstep
      subst hstep
      refine ⟨h.recorded, h.issued, h.queued, h.wired, h.split, ?_, by simp [Watch.stream]⟩
      intro config hc
      cases hc
      exact hlisted
  | synced ref =>
      simp only [hw, Option.some.injEq] at hstep
      subst hstep
      have hsame : undelivered { s with watch := .fetched ref ⟨none, listing.map some⟩ } =
          s.undelivered := by
        rw [undelivered, undelivered, hw]
        rfl
      refine ⟨h.recorded, h.issued, h.queued, h.wired, h.split, ?_, fun _ => ?_⟩
      · intro config hc
        cases hc
        exact hlisted
      · refine h.carry (by simp [hw, Watch.stream]) rfl rfl hsame fun hshown => ?_
        rw [hw] at hshown
        exact ⟨hshown, fun port _ => h.recorded.listing_showsAt hperm none port⟩
  | configured config => simp [hw] at hstep
  | connecting => simp [hw] at hstep
  | waiting ref => simp [hw] at hstep
  | fetched ref snapshot => simp [hw] at hstep
  | streaming ref => simp [hw] at hstep

theorem Invariant.apply (h : s.Invariant) (hstep : s.apply = some s') : s'.Invariant := by
  unfold Feed.apply at hstep
  cases hw : s.watch with
  | configured config =>
      obtain ⟨proxy, hok⟩ := UDPProxy.reconcileMappings_listenAll config.tunnels s.proxy
      simp only [hw, hok, Option.some.injEq] at hstep
      subst hstep
      obtain ⟨hissued, -⟩ := (h.listed config (by rw [hw]; rfl)).apply hok
      exact h.leave (Or.inr rfl) (List.Subset.refl _) hissued
  | fetched ref snapshot =>
      obtain ⟨proxy, hok⟩ := UDPProxy.reconcileMappings_listenAll snapshot.tunnels s.proxy
      simp only [hw, hok, Option.some.injEq] at hstep
      subst hstep
      obtain ⟨hissued, hshows⟩ := (h.listed snapshot (by rw [hw]; rfl)).apply hok
      have hsame : undelivered { s with proxy := proxy, watch := .streaming ref } =
        s.undelivered := by
        rw [undelivered, undelivered, hw]
        rfl
      refine ⟨h.recorded, hissued, h.queued, h.wired, h.split, by
        simp [Watch.fetchedConfig], fun _ => ?_⟩
      refine h.carry (by simp [hw, Watch.stream]) rfl rfl hsame fun hshown => ?_
      rw [hw] at hshown
      rw [remaining, hsame]
      exact Changelog.CaughtUp.mono hshown.2 hshows
  | starting => simp [hw] at hstep
  | connecting => simp [hw] at hstep
  | waiting ref => simp [hw] at hstep
  | synced ref => simp [hw] at hstep
  | streaming ref => simp [hw] at hstep

theorem Invariant.endStream {ref : ℕ} (h : s.Invariant) (hstep : s.endStream ref = some s') :
    s'.Invariant := by
  unfold Feed.endStream at hstep
  obtain ⟨stream, hl, rfl⟩ := Option.map_eq_some_iff.mp hstep
  refine ⟨h.recorded, h.issued, ?_, h.wired, h.split, h.listed, fun hs => ?_⟩
  · intro ref' stream' hl' u hu
    rw [ForwarderServer.removeStream_streams, Table.lookup_erase_eq] at hl'
    split_ifs at hl'
    exact h.queued hl' u hu
  · have hle := h.undelivered_le hs
    cases s.watch.queue_removeStream ref stream.id s.server with
    | inl hq =>
        have hsame : undelivered { s with server := s.server.removeStream ref stream.id } =
            s.undelivered := by
          simp only [undelivered, inFlight, hq]
        refine h.carry hs rfl rfl hsame fun hshown => ?_
        rw [remaining, hsame]
        exact hshown
    | inr hq =>
        refine Or.inl ?_
        simp only [Behind, undelivered, inFlight, List.length_append] at hle ⊢
        omega

theorem invariant_step (e : FeedEvent) (h : s.Invariant) (hstep : step e s = some s') :
    s'.Invariant := by
  cases e with
  | commit type m => exact h.commit hstep
  | notify => exact h.notify hstep
  | register id => exact h.register hstep
  | send => exact h.send hstep
  | receive => exact h.receive hstep
  | fetch listing => exact h.fetch hstep
  | apply => exact h.apply hstep
  | disconnect =>
      obtain ⟨ref, -, rfl⟩ := Option.map_eq_some_iff.mp hstep
      exact h.leave (Or.inr rfl) (List.Subset.refl _) h.issued
  | endStream ref => exact h.endStream hstep
  | restart =>
      cases hstep
      exact h.leave (Or.inl rfl) (List.Subset.refl _) (issued_new _)

end Step

theorem Reachable.invariant {s : Feed} (h : Reachable s) : s.Invariant := by
  induction h with
  | initial => exact invariant_initial
  | step e _ hstep ih => exact invariant_step e ih hstep

/-- Once the snapshot is applied and all that was notified on the stream is handled, the table
holds exactly the mappings of the store. -/
theorem settled_matches_store (s : Feed) (h : Reachable s) (hs : s.Settled) :
    UDPProxy.Matches (s.store.values.map some) s.proxy := by
  have hinv := h.invariant
  obtain ⟨ref, hw, -⟩ := hs.streaming
  have hmem : ∀ m, some m ∈ s.store.values.map some ↔ s.store.lookup m.tunnel = some m :=
    fun m => hinv.recorded.mem_listing (List.Perm.refl _)
  have hshown : ∀ port, s.proxy.ShowsAt port (leftAt s.log port) := by
    intro port
    cases hinv.delivery (by simp [hw, Watch.stream]) with
    | inl hb =>
        rw [Behind, hs.handled] at hb
        omega
    | inr ht =>
        have hnone : s.undelivered = [] := by
          have hn := ht.notified
          rw [hs.handled] at hn
          exact List.self_eq_append_right.mp hn
        have hcaught := ht.shown
        rw [hw, remaining, hnone, hs.pending] at hcaught
        exact hcaught port (by simp)
  refine ⟨fun port => ?_, fun m hm _ => ?_⟩
  · rw [UDPProxy.ports, Table.mem_keys_iff]
    have hport := hshown port
    constructor
    · rintro ⟨l, hl⟩
      cases hleft : leftAt s.log port with
      | none =>
          rw [hleft] at hport
          cases hl.symm.trans hport
      | some m =>
          obtain ⟨hm, he⟩ := (hinv.recorded.content port m).mp hleft
          exact ⟨m, (hmem m).mpr hm, hinv.recorded.valid hm, he⟩
    · rintro ⟨m, hm, -, he⟩
      rw [(hinv.recorded.content port m).mpr ⟨(hmem m).mp hm, he⟩] at hport
      obtain ⟨l, hl, -⟩ := hport
      exact ⟨l, hl⟩
  · have hport := hshown m.forwarderPort
    rw [(hinv.recorded.content _ m).mpr ⟨(hmem m).mp hm, rfl⟩] at hport
    obtain ⟨l, hl, hsame, hg, hr⟩ := hport
    exact ⟨l, hl, hsame.1, hsame.2, hg, hr⟩

theorem Reachable.run {events : List FeedEvent} {s s' : Feed} (h : Reachable s)
    (hrun : runEvents Feed.step events s = some s') : Reachable s' :=
  runEvents_invariant (fun e _ _ hr hstep => .step e hr hstep) h hrun

/-- Two tunnels on one port after each other: the change is queued before the snapshot and
replayed after it. -/
def portReused : List FeedEvent :=
  let old : TunnelMapping := ⟨"a", "team", 51820, "10.0.0.1:51820", 1, "uid", "10.0.0.1", 0⟩
  let new : TunnelMapping := ⟨"b", "team", 51820, "10.0.0.2:51820", 1, "uid", "10.0.0.2", 1⟩
  [.commit .added old, .notify, .fetch [old], .apply, .register "f", .receive,
    .commit .deleted old, .notify, .commit .added new, .notify, .fetch [new], .apply,
    .send, .receive, .send, .receive]

theorem settled_matches_store_port_reused : ∃ s, runEvents step portReused initial = some s ∧
    s.Settled ∧
    s.store.values.length = 1 ∧ UDPProxy.Matches (s.store.values.map some) s.proxy := by
  have hrun : ∃ s, runEvents step portReused initial = some s ∧ s.watch = .streaming 0 ∧
      s.handled = s.notified ∧ s.pending = none ∧ s.store.values.length = 1 ∧
      (s.server.streams.lookup 0).all (fun stream => !stream.overflow) = true :=
    ⟨_, rfl, rfl, rfl, rfl, rfl, rfl⟩
  obtain ⟨s, hrun, hw, hh, hp, hlen, hov⟩ := hrun
  have hs : s.Settled := by
    refine ⟨⟨0, hw, fun stream hl => ?_⟩, hh, hp⟩
    rw [hl] at hov
    simpa using hov
  exact ⟨s, hrun, hs, hlen, settled_matches_store s (Reachable.initial.run hrun) hs⟩

end Feed

end TunnelOperator
