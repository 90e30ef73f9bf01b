import TunnelOperator.Changelog
import TunnelOperator.EventRun
import TunnelOperator.ForwarderServer
import TunnelOperator.SnapshotReconcile

/-!
# A forwarder fed by snapshots and updates

A publisher commits changes to a store of mappings and notifies the forwarder server of
each one before it makes the next. One forwarder runs `WatchUpdates`: it registers a
stream, waits for SYNC, fetches and applies a snapshot, and then handles the updates of
the stream until that breaks, and starts again with the table it has. Every `Ack` and every
`ListenUDP` succeeds; a failed call of any other kind breaks the stream.
-/

namespace TunnelOperator
open Interaction GoText

/-- Where the forwarder is: before its first configuration, between streams, or on a stream. -/
inductive Watch where
  | starting
  | configured (config : ForwarderConfig)
  | connecting
  | waiting (ref : ℕ)
  | synced (ref : ℕ)
  | fetched (ref : ℕ) (snapshot : ForwarderConfig)
  | streaming (ref : ℕ)

def Watch.stream : Watch → Option ℕ
  | .waiting ref => some ref
  | .synced ref => some ref
  | .fetched ref _ => some ref
  | .streaming ref => some ref
  | _ => none

abbrev TunnelName := String × String

def TunnelMapping.tunnel (m : TunnelMapping) : TunnelName := (m.tunnelNamespace, m.tunnelName)

/-- `log`, `notified` and `handled` are records for the proofs: every committed change, and the
updates notified and handled since the current stream was registered. -/
structure Feed where
  store : Table TunnelName TunnelMapping
  pending : Option TunnelUpdate
  server : ForwarderServer
  nextRef : ℕ
  watch : Watch
  wire : List TunnelUpdate
  proxy : UDPProxy
  log : List TunnelUpdate
  notified : List TunnelUpdate
  handled : List TunnelUpdate

namespace Feed

def initial : Feed := ⟨∅, none, .new, 0, .starting, [], .new, [], [], []⟩

def isUpsert : UpdateType → Bool
  | .added => true
  | .modified => true
  | _ => false

/-- The changes a publisher makes: upserts of usable mappings under a fresh revision, on a port
that no other tunnel has and the tunnel keeps, and removals of tunnels that are there. -/
def Admits (s : Feed) (type : UpdateType) (m : TunnelMapping) : Prop :=
  (isUpsert type = true ∧ 0 < m.forwarderPort ∧ trimSpace m.gatewayAddress ≠ "" ∧
      (∀ u ∈ s.log, isUpsert u.type = true → ∀ n ∈ u.tunnel, n.tunnel = m.tunnel →
        n.revision < m.revision) ∧
      ∀ n ∈ s.store.values, n.tunnel = m.tunnel ↔ n.forwarderPort = m.forwarderPort) ∨
    (type = .deleted ∧ ∃ n ∈ s.store.lookup m.tunnel, n.forwarderPort = m.forwarderPort)

instance (s : Feed) (type : UpdateType) (m : TunnelMapping) : Decidable (s.Admits type m) :=
  inferInstanceAs (Decidable (_ ∨ _))

inductive FeedEvent where
  | commit (type : UpdateType) (m : TunnelMapping)
  | notify
  | register (id : String)
  | send
  | receive
  | fetch (listing : List TunnelMapping)
  | apply
  | disconnect
  | endStream (ref : ℕ)
  | restart

def commit (type : UpdateType) (m : TunnelMapping) (s : Feed) : Option Feed :=
  if s.pending = none ∧ s.Admits type m then
    some { s with
      store := if type = .deleted then s.store.erase m.tunnel else s.store.insert m.tunnel m
      pending := some ⟨type, some m⟩
      log := s.log ++ [⟨type, some m⟩] }
  else none

def notify (s : Feed) : Option Feed :=
  s.pending.map fun u => { s with
    pending := none
    server := s.server.notifyUpdate (some u)
    notified := s.notified ++ [u] }

/-- `StreamUpdates` registers the stream and sends SYNC. -/
def register (id : String) (s : Feed) : Option Feed :=
  match s.watch with
  | .connecting => some { s with
      server := s.server.addStream s.nextRef ⟨id, [], false⟩
      nextRef := s.nextRef + 1
      watch := .waiting s.nextRef
      wire := [⟨.sync, none⟩]
      notified := []
      handled := [] }
  | _ => none

/-- `StreamUpdates` takes the next update of the forwarder's stream from its queue and sends it. -/
def send (s : Feed) : Option Feed := do
  let ref ← s.watch.stream
  let stream ← s.server.streams.lookup ref
  match stream.updates with
  | [] => none
  | u :: updates => some { s with
      server := s.server.addStream ref { stream with updates := updates }
      wire := s.wire ++ [u] }

/-- The forwarder receives. The first message has to be SYNC, later ones are skipped. -/
def receive (s : Feed) : Option Feed :=
  match s.watch, s.wire with
  | .waiting ref, u :: wire => some { s with
      watch := if u.type = .sync then .synced ref else .connecting
      wire := wire }
  | .streaming _, u :: wire =>
      if u.type = .sync then some { s with wire := wire }
      else some { s with
        wire := wire
        proxy := (handleUpdate UDPProxy.listenAll (some u) s.proxy).2
        handled := s.handled ++ [u] }
  | _, _ => none

/-- `GetConfig` lists the store in any order. -/
def fetch (listing : List TunnelMapping) (s : Feed) : Option Feed :=
  if listing.isPerm s.store.values then
    match s.watch with
    | .starting => some { s with watch := .configured ⟨none, listing.map some⟩ }
    | .synced ref => some { s with watch := .fetched ref ⟨none, listing.map some⟩ }
    | _ => none
  else none

/-- `applyMappings` on the first configuration, `applySnapshot` on those that follow SYNC. An error
of the first ends the process. -/
def apply (s : Feed) : Option Feed :=
  match s.watch with
  | .configured config =>
      match s.proxy.reconcileMappings UDPProxy.listenAll config.tunnels with
      | (.ok (), proxy) => some { s with proxy := proxy, watch := .connecting }
      | (.error _, _) => some { s with proxy := .new, watch := .starting }
  | .fetched ref snapshot =>
      match s.proxy.reconcileMappings UDPProxy.listenAll snapshot.tunnels with
      | (.ok (), proxy) => some { s with proxy := proxy, watch := .streaming ref }
      | (.error _, proxy) => some { s with proxy := proxy, watch := .connecting }
  | _ => none

/-- `StreamUpdates` returns. -/
def endStream (ref : ℕ) (s : Feed) : Option Feed :=
  (s.server.streams.lookup ref).map fun stream =>
    { s with server := s.server.removeStream ref stream.id }

def disconnect (s : Feed) : Option Feed :=
  s.watch.stream.map fun _ => { s with watch := .connecting }

def step : FeedEvent → Feed → Option Feed
  | .commit type m => commit type m
  | .notify => notify
  | .register id => register id
  | .send => send
  | .receive => receive
  | .fetch listing => fetch listing
  | .apply => apply
  | .disconnect => disconnect
  | .endStream ref => endStream ref
  | .restart => fun s => some { s with proxy := .new, watch := .starting }

inductive Reachable : Feed → Prop where
  | initial : Reachable initial
  | step {s s' : Feed} (e : FeedEvent) : Reachable s → step e s = some s' → Reachable s'

/-- The snapshot is applied, the stream has not overflowed, everything notified since it was
registered is handled and nothing committed waits to be notified. -/
structure Settled (s : Feed) : Prop where
  streaming : ∃ ref, s.watch = .streaming ref ∧
    ∀ stream, s.server.streams.lookup ref = some stream → stream.overflow = false
  handled : s.handled = s.notified
  pending : s.pending = none

end Feed

open Feed

def TunnelUpdate.port (u : TunnelUpdate) : Int :=
  match u.tunnel with
  | some m => m.forwarderPort
  | none => 0

def TunnelUpdate.leaves (u : TunnelUpdate) : Option TunnelMapping :=
  if u.type = .deleted then none else u.tunnel

abbrev leftAt := Changelog.content TunnelUpdate.port TunnelUpdate.leaves

def TunnelUpdate.Sets (u : TunnelUpdate) (m : TunnelMapping) : Prop :=
  isUpsert u.type = true ∧ u.tunnel = some m

theorem TunnelUpdate.Sets.leaves {u : TunnelUpdate} {m : TunnelMapping} (h : u.Sets m) :
    u.leaves = some m := by
  have hne : u.type ≠ .deleted := by
    intro he
    rw [TunnelUpdate.Sets, he] at h
    cases h.1
  rw [TunnelUpdate.leaves, if_neg hne, h.2]

theorem TunnelUpdate.Sets.port {u : TunnelUpdate} {m : TunnelMapping} (h : u.Sets m) :
    u.port = m.forwarderPort := by
  rw [TunnelUpdate.port, h.2]

/-- The updates that a publisher sends. -/
inductive TunnelUpdate.Published (u : TunnelUpdate) : Prop where
  | sets (m : TunnelMapping) : u.Sets m → 0 < m.forwarderPort → trimSpace m.gatewayAddress ≠ "" →
      Published u
  | removes (m : TunnelMapping) : u.type = .deleted → u.tunnel = some m → 0 < m.forwarderPort →
      Published u

theorem TunnelUpdate.Published.ne_sync {u : TunnelUpdate} (h : u.Published) : u.type ≠ .sync := by
  intro he
  cases h with
  | sets m hs =>
      rw [TunnelUpdate.Sets, he] at hs
      cases hs.1
  | removes m hd =>
      rw [he] at hd
      cases hd

theorem TunnelUpdate.Published.sets_of_leaves {u : TunnelUpdate} {m : TunnelMapping}
    (h : u.Published) (hm : u.leaves = some m) : u.Sets m := by
  cases h with
  | sets n hs =>
      rw [hs.leaves] at hm
      cases hm
      exact hs
  | removes n hd =>
      rw [TunnelUpdate.leaves, if_pos hd] at hm
      cases hm

/-- The store is what the log of its changes leaves, and revisions rise along the log. -/
structure Recorded (store : Table TunnelName TunnelMapping) (log : List TunnelUpdate) : Prop where
  published : ∀ u ∈ log, u.Published
  rising : log.Pairwise fun u v => ∀ m n, u.Sets m → v.Sets n → m.tunnel = n.tunnel →
    m.revision < n.revision
  stored : ∀ {k m}, store.lookup k = some m → m.tunnel = k
  content : ∀ p m, leftAt log p = some m ↔ store.lookup m.tunnel = some m ∧ m.forwarderPort = p

/-- Every listener shows a mapping that was committed for its port. -/
def Issued (proxy : UDPProxy) (log : List TunnelUpdate) : Prop :=
  ∀ port l, proxy.mappings.lookup port = some l →
    ∃ u ∈ log, ∃ m, u.Sets m ∧ m.forwarderPort = port ∧ l.Shows m

section Log

variable {store : Table TunnelName TunnelMapping} {log before rest : List TunnelUpdate}
  {u : TunnelUpdate} {m n : TunnelMapping} {proxy : UDPProxy}

theorem Issued.mono (h : Issued proxy log) (hsub : log ⊆ rest) : Issued proxy rest := by
  intro port l hl
  obtain ⟨u, hu, hm⟩ := h port l hl
  exact ⟨u, hsub hu, hm⟩

theorem issued_new (log : List TunnelUpdate) : Issued .new log := by
  intro port l hl
  cases hl

theorem Recorded.not_newer (h : Recorded store log) (hi : Issued proxy log)
    (hlog : log = before ++ u :: rest) (hu : u.Sets m)
    (hrest : ∀ v ∈ rest, v.port ≠ m.forwarderPort) :
    ¬ UDPProxy.Newer m (proxy.mappings.lookup m.forwarderPort) := by
  rintro ⟨l, hl, hsame, hlt⟩
  obtain ⟨v, hv, n, hn, hport, hshows⟩ := hi _ l hl
  have htunnel : n.tunnel = m.tunnel := by
    have h₁ := hshows.1.1.symm.trans hsame.1
    have h₂ := hshows.1.2.symm.trans hsame.2
    simp only [TunnelMapping.tunnel, h₁, h₂]
  have hrev := hshows.2.2
  have hrising := h.rising
  rw [hlog] at hrising hv
  rcases List.mem_append.mp hv with hv | hv
  · have hlt' := (List.pairwise_append.mp hrising).2.2 v hv u List.mem_cons_self n m hn hu htunnel
    omega
  · rcases List.mem_cons.mp hv with rfl | hv
    · have hnm : n = m := Option.some.inj (hn.2.symm.trans hu.2)
      rw [hnm] at hrev
      omega
    · exact hrest v hv (hn.port.trans hport)

theorem Recorded.not_newer_of_stored (h : Recorded store log) (hi : Issued proxy log)
    (hm : store.lookup m.tunnel = some m) :
    ¬ UDPProxy.Newer m (proxy.mappings.lookup m.forwarderPort) := by
  have hcontent := (h.content m.forwarderPort m).mpr ⟨hm, rfl⟩
  obtain ⟨before, u, rest, hlog, -, hleaves, hrest⟩ := Changelog.exists_of_content hcontent
  have hu : u.Sets m := (h.published u (by simp [hlog])).sets_of_leaves hleaves
  exact h.not_newer hi hlog hu hrest

theorem Recorded.exists_sets (h : Recorded store log) (hm : store.lookup m.tunnel = some m) :
    ∃ u ∈ log, u.Sets m := by
  have hcontent := (h.content m.forwarderPort m).mpr ⟨hm, rfl⟩
  obtain ⟨before, u, rest, hlog, -, hleaves, -⟩ := Changelog.exists_of_content hcontent
  have hmem : u ∈ log := by simp [hlog]
  exact ⟨u, hmem, (h.published u hmem).sets_of_leaves hleaves⟩

theorem recorded_empty : Recorded ∅ [] :=
  ⟨by simp, List.Pairwise.nil, by simp, by simp [leftAt]⟩

theorem Recorded.upsert (h : Recorded store log) {type : UpdateType} (htype : isUpsert type = true)
    (hpos : 0 < m.forwarderPort) (haddr : trimSpace m.gatewayAddress ≠ "")
    (hrev : ∀ u ∈ log, ∀ n, u.Sets n → n.tunnel = m.tunnel → n.revision < m.revision)
    (hport : ∀ {k n}, store.lookup k = some n →
      (n.tunnel = m.tunnel ↔ n.forwarderPort = m.forwarderPort)) :
    Recorded (store.insert m.tunnel m) (log ++ [⟨type, some m⟩]) := by
  have hsets : (⟨type, some m⟩ : TunnelUpdate).Sets m := ⟨htype, rfl⟩
  refine ⟨?_, ?_, ?_, ?_⟩
  · intro u hu
    rcases List.mem_append.mp hu with hu | hu
    · exact h.published u hu
    · rw [List.mem_singleton.mp hu]
      exact .sets m hsets hpos haddr
  · refine List.pairwise_append.mpr ⟨h.rising, List.pairwise_singleton _ _, ?_⟩
    intro u hu v hv n n' hn hn' htunnel
    rw [List.mem_singleton.mp hv] at hn'
    cases hn'.2
    exact hrev u hu n hn htunnel
  · intro k n hn
    rw [Table.lookup_insert_eq] at hn
    split_ifs at hn with hk
    · cases hn
      exact hk.symm
    · exact h.stored hn
  · intro p n
    rw [leftAt, Changelog.content_concat, hsets.leaves, hsets.port, Table.lookup_insert_eq]
    by_cases hn : n.tunnel = m.tunnel
    · rw [if_pos hn]
      split_ifs with hp
      · constructor
        · intro he
          cases he
          exact ⟨rfl, hp⟩
        · rintro ⟨he, -⟩
          exact he
      · constructor
        · intro he
          have hold := (h.content p n).mp he
          exact absurd (((hport hold.1).mp hn).symm.trans hold.2) hp
        · rintro ⟨he, hp'⟩
          cases he
          exact absurd hp' hp
    · rw [if_neg hn]
      split_ifs with hp
      · constructor
        · intro he
          cases he
          exact absurd rfl hn
        · rintro ⟨he, hp'⟩
          exact absurd ((hport he).mpr (hp'.trans hp.symm)) hn
      · exact h.content p n

theorem Recorded.remove (h : Recorded store log) (hn : store.lookup m.tunnel = some n)
    (hport : n.forwarderPort = m.forwarderPort) :
    Recorded (store.erase m.tunnel) (log ++ [⟨.deleted, some m⟩]) := by
  have htunnel : n.tunnel = m.tunnel := h.stored hn
  have hcontent : leftAt log m.forwarderPort = some n :=
    (h.content _ n).mpr ⟨by rw [htunnel]; exact hn, hport⟩
  refine ⟨?_, ?_, ?_, ?_⟩
  · intro u hu
    rcases List.mem_append.mp hu with hu | hu
    · exact h.published u hu
    · obtain ⟨v, hv, hs⟩ := h.exists_sets (m := n) (by rw [htunnel]; exact hn)
      rw [List.mem_singleton.mp hu]
      cases h.published v hv with
      | sets n' hs' hpos =>
          cases hs'.2.symm.trans hs.2
          exact .removes m rfl rfl (hport ▸ hpos)
      | removes n' hd =>
          rw [TunnelUpdate.Sets, hd] at hs
          cases hs.1
  · refine List.pairwise_append.mpr ⟨h.rising, List.pairwise_singleton _ _, ?_⟩
    intro u hu v hv n n' _ hn'
    rw [List.mem_singleton.mp hv] at hn'
    cases hn'.1
  · intro k n' hk
    rw [Table.lookup_erase_eq] at hk
    split_ifs at hk
    exact h.stored hk
  · intro p n'
    have hleaves : (⟨.deleted, some m⟩ : TunnelUpdate).leaves = none := rfl
    have hp : (⟨.deleted, some m⟩ : TunnelUpdate).port = m.forwarderPort := rfl
    rw [leftAt, Changelog.content_concat, hleaves, hp, Table.lookup_erase_eq]
    by_cases hn' : n'.tunnel = m.tunnel
    · rw [if_pos hn']
      split_ifs with hp'
      · simp
      · constructor
        · intro he
          have hold := (h.content p n').mp he
          rw [hn', hn] at hold
          cases hold.1
          exact absurd (hport.symm.trans hold.2) hp'
        · rintro ⟨he, -⟩
          cases he
    · rw [if_neg hn']
      split_ifs with hp'
      · constructor
        · intro he
          cases he
        · rintro ⟨he, hpn⟩
          have hsame := (h.content m.forwarderPort n').mpr ⟨he, hpn.trans hp'.symm⟩
          rw [hcontent] at hsame
          cases hsame
          exact absurd htunnel hn'
      · exact h.content p n'

end Log

end TunnelOperator
