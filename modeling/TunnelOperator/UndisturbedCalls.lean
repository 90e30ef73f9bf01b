import TunnelOperator.ConcurrentProxy

/-!
# Calls that nobody comes in between

A call whose operations run one after the other without another call does to the table and the
sockets what `SocketProxy` says, and returns the same error. The two differ in the order of the
table only, so the loops over its ports are compared up to their order.
-/

namespace TunnelOperator
open Interaction GoText

/-- The memory behind a proxy: its table holds the same listeners by reference. -/
structure ProxyMemory.Shows (s : ProxyMemory) (p : SocketProxy) : Prop where
  mappings : ∀ port, p.mappings.lookup port = (s.mappings.lookup port).bind fun i =>
    s.listeners.lookup i
  named : ∀ i l, s.listeners.lookup i = some l → l.conn = i
  sockets : ∀ i, p.sockets.lookup i = (s.endpoints.lookup i).map (·.toSocket)
  listens : p.listens = s.listens

def ProxyMemory.proxy (s : ProxyMemory) : SocketProxy where
  mappings := s.mappings.mapValues fun i => (s.listeners.lookup i).getD ⟨i, "", 0, "", ""⟩
  listens := s.listens
  sockets := s.endpoints.mapValues (·.toSocket)

namespace SocketProxy

structure Same (p q : SocketProxy) : Prop where
  mappings : ∀ port, p.mappings.lookup port = q.mappings.lookup port
  sockets : ∀ i, p.sockets.lookup i = q.sockets.lookup i
  listens : p.listens = q.listens

variable {p q r : SocketProxy} {ports ports' : List Int} {keep : List Int}

theorem Same.refl (p : SocketProxy) : p.Same p := ⟨fun _ => rfl, fun _ => rfl, rfl⟩

theorem Same.trans (h : p.Same q) (h' : q.Same r) : p.Same r :=
  ⟨fun port => (h.mappings port).trans (h'.mappings port), fun i =>
    (h.sockets i).trans (h'.sockets i), h.listens.trans h'.listens⟩

def ended (conn : Option ℕ) (i : ℕ) (s : Socket) : Socket :=
  if conn = some i then ⟨s.port, true, true⟩ else s

theorem map_ended_of_ne {conn : Option ℕ} {i : ℕ} (h : conn ≠ some i) (o : Option Socket) :
    o.map (ended conn i) = o := by
  cases o with
  | none => rfl
  | some s => rw [Option.map_some, ended, if_neg h]

theorem removeMapping_lookups (port : Int) (p : SocketProxy) :
    (∀ q, (p.removeMapping port).mappings.lookup q = if q = port
      then none else p.mappings.lookup q) ∧
    (∀ i, (p.removeMapping port).sockets.lookup i =
      (p.sockets.lookup i).map (ended ((p.mappings.lookup port).map (·.conn)) i)) ∧
    (p.removeMapping port).listens = p.listens := by
  unfold removeMapping
  cases hl : p.mappings.lookup port with
  | none =>
      refine ⟨fun q => ?_, fun i => ?_, rfl⟩
      · split_ifs with hq
        · rw [hq, hl]
        · rfl
      · rw [Option.map_none, map_ended_of_ne (Option.some_ne_none i).symm]
  | some l =>
      simp only [closeConn, cancel, modify_toUDPProxy, Option.map_some]
      refine ⟨fun q => Table.lookup_erase_eq _ _ _, fun i => ?_, trivial⟩
      cases hs : p.sockets.lookup l.conn with
      | none =>
          simp only [modify, hs]
          by_cases hi : i = l.conn
          · rw [hi, hs]
            rfl
          · exact (map_ended_of_ne (fun he => hi (Option.some.inj he).symm) _).symm
      | some x =>
          refine (cancel_closeConn_lookup (p := { p with mappings := p.mappings.erase port }) hs
            i).trans ?_
          by_cases hi : i = l.conn
          · rw [if_pos hi, hi, hs]
            simp only [ended, if_true, Option.map_some]
          · rw [if_neg hi]
            exact (map_ended_of_ne (fun he => hi (Option.some.inj he).symm) _).symm

theorem Same.removeMapping (h : p.Same q) (port : Int) :
    (p.removeMapping port).Same (q.removeMapping port) := by
  obtain ⟨hm, hs, hn⟩ := removeMapping_lookups port p
  obtain ⟨hm', hs', hn'⟩ := removeMapping_lookups port q
  refine ⟨fun r => ?_, fun i => ?_, hn.trans (h.listens.trans hn'.symm)⟩
  · rw [hm, hm', h.mappings]
  · rw [hs, hs', h.sockets, h.mappings]

theorem removeMapping_comm (a b : Int) (p : SocketProxy) :
    ((p.removeMapping a).removeMapping b).Same ((p.removeMapping b).removeMapping a) := by
  obtain ⟨hma, hsa, hna⟩ := removeMapping_lookups a p
  obtain ⟨hmb, hsb, hnb⟩ := removeMapping_lookups b p
  obtain ⟨hmab, hsab, hnab⟩ := removeMapping_lookups b (p.removeMapping a)
  obtain ⟨hmba, hsba, hnba⟩ := removeMapping_lookups a (p.removeMapping b)
  refine ⟨fun q => ?_, fun i => ?_, by rw [hnab, hna, hnba, hnb]⟩
  · rw [hmab, hma, hmba, hmb]
    split_ifs <;> rfl
  · rw [hsab, hsa, hsba, hsb, hma, hmb, Option.map_map, Option.map_map]
    by_cases hab : a = b
    · rw [hab]
    · rw [if_neg (Ne.symm hab), if_neg hab]
      congr 1
      funext x
      simp only [Function.comp_apply, ended]
      split_ifs <;> rfl

def removeMappings (keep ports : List Int) (p : SocketProxy) : SocketProxy :=
  ports.foldl (fun p port => if port ∈ keep then p else p.removeMapping port) p

theorem Same.removeMappings (h : p.Same q) (keep ports : List Int) :
    (p.removeMappings keep ports).Same (q.removeMappings keep ports) := by
  induction ports generalizing p q with
  | nil => exact h
  | cons port ports ih =>
      simp only [SocketProxy.removeMappings, List.foldl_cons]
      split_ifs
      · exact ih h
      · exact ih (h.removeMapping port)

theorem removeMappings_perm (h : ports.Perm ports') (p : SocketProxy) :
    (p.removeMappings keep ports).Same (p.removeMappings keep ports') := by
  induction h generalizing p with
  | nil => exact Same.refl p
  | cons port _ ih => exact ih _
  | swap a b ports =>
      simp only [removeMappings, List.foldl_cons]
      split_ifs
      · exact Same.refl _
      · exact Same.refl _
      · exact Same.refl _
      · exact (removeMapping_comm b a p).removeMappings keep ports
  | trans _ _ ih ih' => exact (ih p).trans (ih' p)

end SocketProxy

namespace ProxyThread

open ProxyMemory

variable {s : ProxyMemory} {p q : SocketProxy} {c : ProxyChoice} {α : Type}

def alone (c : ProxyChoice) (call : Run α) (s : ProxyMemory) : α × ProxyMemory :=
  call.alone (fun op => exec op c) s

theorem alone_bind {β : Type} (call : Run α) (f : α → Run β) (s : ProxyMemory) :
    alone c (call >>= f) s = alone c (f (alone c call s).1) (alone c call s).2 :=
  Program.alone_bind _ call f s

theorem alone_owned {call : Run α} (h : Clean 0 call) (ho : s.Owned fun _ => none) :
    (alone c call s).2.Owned fun _ => none := by
  obtain ⟨x, hx, rfl⟩ := Sharing.Keeps.alone h c rfl ho
  rwa [Function.update_eq_self] at hx

theorem Shows.same (h : s.Shows p) (hpq : p.Same q) : s.Shows q :=
  ⟨fun port => (hpq.mappings port).symm.trans (h.mappings port), h.named,
    fun i => (hpq.sockets i).symm.trans (h.sockets i), hpq.listens.symm.trans h.listens⟩

/-- What a call does to a memory, it does to the proxy that the memory shows. -/
structure Agrees (r : Except String Unit × ProxyMemory) (r' : Except String Unit × SocketProxy) :
    Prop where
  result : r.1 = r'.1
  shows : r.2.Shows r'.2

theorem shows_keys (h : s.Shows p) (ho : s.Owned fun _ => none) :
    s.mappings.keys.Perm p.mappings.keys := by
  refine (List.perm_ext_iff_of_nodup s.mappings.keys_nodup p.mappings.keys_nodup).mpr fun port => ?_
  rw [Table.mem_keys_iff, Table.mem_keys_iff, h.mappings]
  constructor
  · rintro ⟨i, hi⟩
    obtain ⟨l, hl⟩ := Option.isSome_iff_exists.mp (ho.live hi).2
    exact ⟨l, by rw [hi]; exact hl⟩
  · rintro ⟨l, hl⟩
    obtain ⟨i, hi, -⟩ := Option.bind_eq_some_iff.mp hl
    exact ⟨i, hi⟩

theorem shows_onEndpoint (h : s.Shows p) (i : ℕ) {f : Endpoint → Endpoint} {g : Socket → Socket}
    (hfg : ∀ e, (f e).toSocket = g e.toSocket) : (s.onEndpoint i f).Shows (p.modify i g) := by
  have hp := h.sockets i
  unfold onEndpoint SocketProxy.modify
  cases he : s.endpoints.lookup i with
  | none =>
      rw [he, Option.map_none] at hp
      simp only [hp]
      exact h
  | some e =>
      rw [he, Option.map_some] at hp
      simp only [hp]
      refine ⟨h.mappings, h.named, fun j => ?_, h.listens⟩
      rw [Table.lookup_insert_eq, Table.lookup_insert_eq]
      split_ifs
      · rw [Option.map_some, hfg]
      · exact h.sockets j

theorem shows_closeSessions (h : s.Shows p) (i : ℕ) :
    (s.onEndpoint i fun e => { e with sessionsClosed := true }).Shows p := by
  have hid : p.modify i id = p ∨ ∃ x, p.sockets.lookup i = some x ∧
      p.modify i id = { p with sockets := p.sockets.insert i x } := by
    unfold SocketProxy.modify
    cases hx : p.sockets.lookup i with
    | none => exact Or.inl rfl
    | some x => exact Or.inr ⟨x, rfl, rfl⟩
  have hshows := shows_onEndpoint h i (f := fun e => { e with sessionsClosed := true }) (g := id)
    fun _ => rfl
  rcases hid with hid | ⟨x, hx, hid⟩
  · rwa [hid] at hshows
  · rw [hid] at hshows
    refine Shows.same hshows ⟨fun _ => rfl, fun j => ?_, rfl⟩
    rw [Table.lookup_insert_eq]
    split_ifs with hj
    · rw [hj, hx]
    · rfl

theorem removeMapping_shows (h : s.Shows p) (ho : s.Owned fun _ => none) (port : Int) :
    (alone c (removeMapping port) s).2.Shows (p.removeMapping port) := by
  have hp := h.mappings port
  simp only [removeMapping, alone_bind]
  cases hm : s.mappings.lookup port with
  | none =>
      rw [hm] at hp
      have hexec : alone c (perform (.delete port)) s = (none, s) := by
        simp only [alone, perform, Program.perform, Program.alone, exec, hm]
      have hnone : p.removeMapping port = p := by
        simp only [SocketProxy.removeMapping, hp, Option.bind_none]
      rw [hexec, hnone]
      exact h
  | some i =>
      obtain ⟨l, hl⟩ := Option.isSome_iff_exists.mp (ho.live hm).2
      rw [hm, Option.bind_some, hl] at hp
      obtain rfl := h.named i l hl
      have hexec : alone c (perform (.delete port)) s =
          (some l.conn, { s with mappings := s.mappings.erase port }) := by
        simp only [alone, perform, Program.perform, Program.alone, exec, hm]
      have hremove : p.removeMapping port =
          ({ p with mappings := p.mappings.erase port }.cancel l.conn).closeConn l.conn := by
        simp only [SocketProxy.removeMapping, hp]
      have herase : Shows { s with mappings := s.mappings.erase port }
          { p with mappings := p.mappings.erase port } := by
        refine ⟨fun q => ?_, h.named, h.sockets, h.listens⟩
        rw [Table.lookup_erase_eq, Table.lookup_erase_eq]
        split_ifs
        · rfl
        · exact h.mappings q
      have hcancel := shows_onEndpoint herase l.conn (f := fun e => { e with cancelled := true })
        (g := fun x => { x with cancelled := true }) fun _ => rfl
      have hclose := shows_onEndpoint hcancel l.conn (f := fun e => { e with closed := true })
        (g := fun x => { x with closed := true }) fun _ => rfl
      rw [hexec, hremove]
      exact shows_closeSessions hclose l.conn

theorem shows_inUse (h : s.Shows p) (port : Int) : s.inUse port = p.inUse port := by
  rw [Bool.eq_iff_iff, inUse_iff, SocketProxy.inUse_iff]
  constructor
  · rintro ⟨i, e, he, hport, hopen⟩
    exact ⟨i, e.toSocket, by rw [h.sockets, he]; rfl, hport, hopen⟩
  · rintro ⟨i, x, hx, hport, hopen⟩
    rw [h.sockets] at hx
    obtain ⟨e, he, rfl⟩ := Option.map_eq_some_iff.mp hx
    exact ⟨i, e, he, hport, hopen⟩

theorem shows_failed (h : s.Shows p) :
    Shows { s with listens := s.listens + 1 } { p with listens := p.listens + 1 } :=
  ⟨h.mappings, h.named, h.sockets, congrArg (· + 1) h.listens⟩

theorem shows_opened (h : s.Shows p) (port : Int) :
    Shows { s with
        listens := s.listens + 1
        endpoints := s.endpoints.insert s.listens ⟨⟨port, false, false⟩, false⟩ }
      { p with
        listens := p.listens + 1
        sockets := p.sockets.insert p.listens ⟨port, false, false⟩ } := by
  refine ⟨h.mappings, h.named, fun i => ?_, congrArg (· + 1) h.listens⟩
  rw [h.listens, Table.lookup_insert_eq, Table.lookup_insert_eq]
  split_ifs
  · rfl
  · exact h.sockets i

theorem shows_stored {held : ℕ → Option HeldSocket} {t : ℕ} {port : Int} {l : PortListener}
    (h : s.Shows p) (ho : s.Owned held) (ht : held t = some (opened port l.conn)) :
    Shows { s with
        mappings := s.mappings.insert port l.conn
        listeners := s.listeners.insert l.conn l }
      { p with mappings := p.mappings.insert port l } := by
  refine ⟨fun q => ?_, fun i l' hi => ?_, h.sockets, h.listens⟩
  · rw [Table.lookup_insert_eq, Table.lookup_insert_eq]
    split_ifs
    · rw [Option.bind_some, Table.lookup_insert_eq, if_pos rfl]
    · -- the other ports do not refer to the listener just made
      rw [h.mappings]
      refine Option.bind_congr fun i hi => ?_
      rw [Table.lookup_insert_eq, if_neg]
      rintro rfl
      exact (ho.holds ht).2.2 q hi
  · rw [Table.lookup_insert_eq] at hi
    split_ifs at hi with hil
    · cases hi
      exact hil.symm
    · exact h.named i l' hi

theorem listen_agrees (h : s.Shows p) (ho : s.Owned fun _ => none) (m : TunnelMapping) :
    Agrees (alone c (listen m) s) (p.listen c.deny m) := by
  simp only [listen, alone_bind, SocketProxy.listen, SocketProxy.listenUDP]
  cases hd : c.deny s.listens with
  | some err =>
      have hexec : alone c (perform (.listenUDP m.forwarderPort)) s =
          (.error err, { s with listens := s.listens + 1 }) := by
        simp only [alone, perform, Program.perform, Program.alone, exec, hd]
      rw [hexec, h.listens, hd]
      exact ⟨rfl, h.listens ▸ shows_failed h⟩
  | none =>
      by_cases hu : s.inUse m.forwarderPort = true
      · have hexec : alone c (perform (.listenUDP m.forwarderPort)) s =
            (.error "bind: address already in use", { s with listens := s.listens + 1 }) := by
          simp only [alone, perform, Program.perform, Program.alone, exec, hd, if_pos hu]
        rw [hexec, ← shows_inUse h, if_pos hu, h.listens, hd]
        exact ⟨rfl, h.listens ▸ shows_failed h⟩
      · have hexec : alone c (perform (.listenUDP m.forwarderPort)) s = (.ok s.listens, { s with
            listens := s.listens + 1
            endpoints := s.endpoints.insert s.listens ⟨⟨m.forwarderPort, false, false⟩,
              false⟩ }) := by
          simp only [alone, perform, Program.perform, Program.alone, exec, hd, if_neg hu]
        have howned := ho.opened (t := 0) rfl (Bool.eq_false_iff.mpr hu)
        have hfree := Owned.free howned (Function.update_self _ _ _)
        let pl : PortListener :=
          ⟨s.listens, m.gatewayAddress, m.revision, m.tunnelName, m.tunnelNamespace⟩
        have hshown := shows_stored (l := pl) (shows_opened h m.forwarderPort) howned
          (Function.update_self _ _ _)
        have hp : p.mappings.lookup m.forwarderPort = none := by
          rw [h.mappings, hfree, Option.bind_none]
        rw [hexec, ← shows_inUse h, if_neg hu, h.listens, hd]
        simp only [hp]
        refine ⟨?_, ?_⟩
        · simp only [alone, perform, Program.perform, bind, Program.bind, Program.alone, exec,
            hfree]
          rfl
        · simp only [alone, perform, Program.perform, bind, Program.bind, Program.alone, exec,
            hfree]
          rw [h.listens] at hshown
          exact hshown

theorem bump_agrees (h : s.Shows p) {port : Int} {i : ℕ} {l : PortListener}
    (hm : s.mappings.lookup port = some i) (hl : s.listeners.lookup i = some l)
    (ho : s.Owned fun _ => none) (revision : Int) : (s.bump port i revision).Shows
      (if l.revision < revision then
        { p with mappings := p.mappings.insert port { l with revision := revision } } else p) := by
  unfold bump
  simp only [hl, hm, true_and]
  split_ifs with hlt
  · obtain rfl := h.named i l hl
    refine ⟨fun q => ?_, fun j l' hj => ?_, h.sockets, h.listens⟩
    · rw [Table.lookup_insert_eq]
      split_ifs with hq
      · rw [hq, hm, Option.bind_some, Table.lookup_insert_eq, if_pos rfl]
      · rw [h.mappings]
        refine Option.bind_congr fun j hj => ?_
        rw [Table.lookup_insert_eq, if_neg]
        -- one socket would be bound to two ports
        rintro rfl
        have hbound := (ho.live hj).1
        rw [(ho.live hm).1] at hbound
        cases hbound
        exact hq rfl
    · rw [Table.lookup_insert_eq] at hj
      split_ifs at hj with hjl
      · cases hj
        exact hjl.symm
      · exact h.named j l' hj
  · exact h

theorem addMapping_agrees (h : s.Shows p) (ho : s.Owned fun _ => none) (m : TunnelMapping) :
    Agrees (alone c (addMapping m) s) (p.addMapping c.deny m) := by
  have hp := h.mappings m.forwarderPort
  have hfind : alone c (perform (.find m.forwarderPort)) s =
      (s.mappings.lookup m.forwarderPort, s) := rfl
  simp only [addMapping, alone_bind, hfind, SocketProxy.addMapping]
  cases hm : s.mappings.lookup m.forwarderPort with
  | none =>
      rw [hm, Option.bind_none] at hp
      simp only [hp]
      exact listen_agrees h ho m
  | some i =>
      obtain ⟨l, hl⟩ := Option.isSome_iff_exists.mp (ho.live hm).2
      rw [hm, Option.bind_some, hl] at hp
      have hfields : alone c (perform (.fields i)) s = (l, s) := by
        simp only [alone, perform, Program.perform, Program.alone, exec, hl, Option.getD_some]
      simp only [alone_bind, hfields, hp]
      split_ifs with hold hsame hlt
      · exact ⟨rfl, h⟩
      · have hbump := bump_agrees h hm hl ho m.revision
        rw [if_pos hlt] at hbump
        exact ⟨rfl, hbump⟩
      · have hbump := bump_agrees h hm hl ho m.revision
        rw [if_neg hlt] at hbump
        exact ⟨rfl, hbump⟩
      · have hremoved := removeMapping_shows (c := c) h ho m.forwarderPort
        rw [alone_bind]
        exact listen_agrees hremoved (alone_owned (clean_removeMapping _) ho) m

theorem applyMapping_agrees (h : s.Shows p) (ho : s.Owned fun _ => none)
    (mapping : Option TunnelMapping) :
    Agrees (alone c (applyMapping mapping) s) (p.applyMapping c.deny mapping) := by
  cases mapping with
  | none => exact ⟨rfl, h⟩
  | some m =>
      simp only [applyMapping, SocketProxy.applyMapping]
      split_ifs
      · exact ⟨rfl, h⟩
      · exact addMapping_agrees h ho m

theorem applyMappings_agrees (h : s.Shows p) (ho : s.Owned fun _ => none)
    (mappings : List (Option TunnelMapping)) :
    Agrees (alone c (applyMappings mappings) s) (p.applyMappings c.deny mappings) := by
  induction mappings generalizing s p with
  | nil => exact ⟨rfl, h⟩
  | cons mapping mappings ih =>
      cases mapping with
      | none => exact ih h ho
      | some m =>
          simp only [applyMappings, SocketProxy.applyMappings]
          split_ifs
          · exact ih h ho
          · obtain ⟨hresult, hshows⟩ := applyMapping_agrees (c := c) h ho (some m)
            have howned := alone_owned (c := c) (clean_applyMapping (some m)) ho
            rw [alone_bind]
            rcases hr : p.applyMapping c.deny (some m) with ⟨_ | _, p'⟩
            · rw [hr] at hresult hshows
              rw [hresult]
              exact ⟨rfl, hshows⟩
            · rw [hr] at hresult hshows
              rw [hresult]
              exact ih hshows howned

theorem removeMappings_shows (h : s.Shows p) (ho : s.Owned fun _ => none) (keep ports : List Int) :
    (alone c (removeMappings keep ports) s).2.Shows (p.removeMappings keep ports) := by
  induction ports generalizing s p with
  | nil => exact h
  | cons port ports ih =>
      simp only [removeMappings, SocketProxy.removeMappings, List.foldl_cons]
      split_ifs
      · exact ih h ho
      · rw [alone_bind]
        exact ih (removeMapping_shows h ho port) (alone_owned (clean_removeMapping port) ho)

theorem removePorts_shows (h : s.Shows p) (ho : s.Owned fun _ => none) (keep : List Int) :
    (alone c (perform .ports >>= removeMappings keep) s).2.Shows
      (p.removeMappings keep p.ports) := by
  have hports : ((alone c (perform .ports) s).1 : List Int).Perm p.ports := by
    refine List.Perm.trans ?_ (shows_keys h ho)
    simp only [alone, perform, Program.perform, Program.alone, exec]
    split_ifs with hperm
    · exact hperm
    · exact List.Perm.refl _
  rw [alone_bind]
  exact Shows.same (removeMappings_shows h ho keep _) (SocketProxy.removeMappings_perm hports p)

def result (deny : Deny) : ProxyCall → SocketProxy → Except String Unit
  | .applyMapping mapping, p => (p.applyMapping deny mapping).1
  | .reconcileMappings mappings, p => (p.reconcileMappings deny mappings).1
  | .removeMapping _, _ => .ok ()
  | .close, _ => .ok ()

theorem program_agrees (h : s.Shows p) (ho : s.Owned fun _ => none) (call : ProxyCall) :
    Agrees (alone c (program call) s) (result c.deny call p, call.run c.deny p) := by
  cases call with
  | applyMapping mapping => exact applyMapping_agrees h ho mapping
  | removeMapping port =>
      simp only [program, alone_bind]
      exact ⟨rfl, removeMapping_shows h ho port⟩
  | close =>
      simp only [program, alone_bind]
      refine ⟨rfl, ?_⟩
      have hremoved := removePorts_shows (c := c) h ho []
      simp only [SocketProxy.removeMappings, List.not_mem_nil, if_false] at hremoved
      exact hremoved
  | reconcileMappings mappings =>
      obtain ⟨hresult, hshows⟩ := applyMappings_agrees (c := c) h ho mappings
      have howned := alone_owned (c := c) (clean_applyMappings mappings) ho
      simp only [program, reconcileMappings, alone_bind, result, ProxyCall.run,
        SocketProxy.reconcileMappings]
      rcases hr : p.applyMappings c.deny mappings with ⟨_ | _, p'⟩
      · rw [hr] at hresult hshows
        rw [hresult]
        exact ⟨rfl, hshows⟩
      · rw [hr] at hresult hshows
        rw [hresult]
        have hremoved := removePorts_shows (c := c) hshows howned (UDPProxy.desired mappings)
        rw [alone_bind] at hremoved
        exact ⟨by simp only [alone_bind]; rfl, by simp only [alone_bind]; exact hremoved⟩

/-- Every listener is stored under the number of its socket. -/
def Named (s : ProxyMemory) : Prop := ∀ i l, s.listeners.lookup i = some l → l.conn = i

theorem onEndpoint_listeners (i : ℕ) (f : Endpoint → Endpoint) (s : ProxyMemory) :
    (s.onEndpoint i f).listeners = s.listeners := by
  unfold onEndpoint
  cases s.endpoints.lookup i <;> rfl

theorem Named.insert {l : PortListener} (h : Named s) :
    ∀ i l', (s.listeners.insert l.conn l).lookup i = some l' → l'.conn = i := by
  intro i l' hi
  rw [Table.lookup_insert_eq] at hi
  split_ifs at hi with hil
  · cases hi
    exact hil.symm
  · exact h i l' hi

theorem Named.bump (h : Named s) (port : Int) (existing : ℕ) (revision : Int) :
    Named (s.bump port existing revision) := by
  unfold ProxyMemory.bump
  cases hl : s.listeners.lookup existing with
  | none => exact h
  | some current =>
      simp only
      split_ifs
      · obtain rfl := h existing current hl
        exact Named.insert (l := { current with revision := revision }) h
      · exact h

theorem Named.exec (h : Named s) (op : ProxyOp) (c : ProxyChoice) : Named (exec op c s).2 := by
  cases op with
  | find | fields | ports => exact h
  | bump port existing revision => exact h.bump port existing revision
  | delete port =>
      simp only [ProxyMemory.exec]
      cases s.mappings.lookup port <;> exact h
  | cancel i | closeConn i | closeSessions i =>
      simp only [Named, ProxyMemory.exec, onEndpoint_listeners]
      exact h
  | listenUDP port =>
      simp only [ProxyMemory.exec]
      cases c.deny s.listens with
      | some err => exact h
      | none =>
          simp only
          split_ifs <;> exact h
  | store port l =>
      simp only [ProxyMemory.exec]
      cases s.mappings.lookup port with
      | some i => exact h
      | none => exact Named.insert h

theorem named_of_run {events : List Event} {g : Pool ProxyOp.Ans (Except String Unit) ProxyMemory}
    (hrun : runEvents (Pool.step exec program) events ⟨new, []⟩ = some g) : Named g.state := by
  refine runEvents_invariant (P := fun g => Named g.state) (fun e g g' h hstep => ?_)
    (fun i l hl => by cases hl) hrun
  cases e with
  | start call =>
      cases hstep
      exact h
  | call i c =>
      simp only [Pool.step] at hstep
      split at hstep
      · cases hstep
        exact h.exec _ c
      · cases hstep

theorem shows_proxy {events : List Event} {g : Pool ProxyOp.Ans (Except String Unit) ProxyMemory}
    (hrun : runEvents (Pool.step exec program) events ⟨new, []⟩ = some g) :
    g.state.Shows g.state.proxy := by
  obtain ⟨held, hacc⟩ := accounts hrun
  have ho : g.state.Owned held := hacc.balanced
  refine ⟨fun port => ?_, named_of_run hrun, fun i => Table.lookup_mapValues _ _ i, rfl⟩
  rw [ProxyMemory.proxy, Table.lookup_mapValues]
  cases hport : g.state.mappings.lookup port with
  | none => rfl
  | some i =>
      obtain ⟨l, hl⟩ := Option.isSome_iff_exists.mp (ho.live hport).2
      rw [Option.map_some, Option.bind_some, hl]
      rfl

def oneListener : ProxyMemory where
  mappings := AList.insert 51820 0 ∅
  listeners := AList.insert 0 ⟨0, "10.0.0.1:51820", 1, "a", "team"⟩ ∅
  endpoints := AList.insert 0 ⟨⟨51820, false, false⟩, false⟩ ∅
  listens := 1

end ProxyThread
end TunnelOperator
