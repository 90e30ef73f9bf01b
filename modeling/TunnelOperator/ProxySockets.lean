import Mathlib.Data.List.Induction
import TunnelOperator.Proxy

/-!
# The sockets behind the port table

`UDPProxy` again, with the sockets it opens: every successful `ListenUDP` adds a socket that
stays on record, so that a socket closed too late or never can be seen. Between two calls the
open sockets are those of the table. Inside a call one socket may be in neither state: the one
just taken from the table, or the one just opened. `Matched held` allows for it.
-/

namespace TunnelOperator
open Interaction GoText

/-- A listening socket and the context of the goroutines that serve it. -/
structure Socket where
  port : Int
  closed : Bool
  cancelled : Bool
  deriving DecidableEq

/-- The proxy and every socket it has opened, by the number of the `ListenUDP` call. -/
structure SocketProxy extends UDPProxy where
  sockets : Table ℕ Socket

def UDPProxy.close (p : UDPProxy) : UDPProxy := p.ports.foldl (fun p port => p.removeMapping port) p

namespace SocketProxy

def new : SocketProxy := ⟨UDPProxy.new, ∅⟩

def modify (conn : ℕ) (f : Socket → Socket) (p : SocketProxy) : SocketProxy :=
  match p.sockets.lookup conn with
  | none => p
  | some s => { p with sockets := p.sockets.insert conn (f s) }

/-- The listener's `cancel`. -/
def cancel (conn : ℕ) : SocketProxy → SocketProxy :=
  modify conn fun s => { s with cancelled := true }

/-- `conn.Close`. -/
def closeConn (conn : ℕ) : SocketProxy → SocketProxy :=
  modify conn fun s => { s with closed := true }

def inUse (port : Int) (p : SocketProxy) : Bool :=
  p.sockets.values.any fun s => s.port = port && !s.closed

def listenUDP (deny : Deny) (port : Int) (p : SocketProxy) : Except String ℕ × SocketProxy :=
  let p' := { p with listens := p.listens + 1 }
  match deny p.listens with
  | some err => (.error err, p')
  | none =>
      if p.inUse port then (.error "bind: address already in use", p')
      else (.ok p.listens, { p' with sockets := p.sockets.insert p.listens ⟨port, false, false⟩ })

def removeMapping (port : Int) (p : SocketProxy) : SocketProxy :=
  match p.mappings.lookup port with
  | none => p
  | some pl => ({ p with mappings := p.mappings.erase port }.cancel pl.conn).closeConn pl.conn

/-- The second half of `addMapping`: open a socket and enter its listener. -/
def listen (deny : Deny) (m : TunnelMapping) (p : SocketProxy) : Except String Unit × SocketProxy :=
  match p.listenUDP deny m.forwarderPort with
  | (.error err, p') => (.error ("listen udp on port " ++ itoa m.forwarderPort ++ ": " ++ err), p')
  | (.ok conn, p') =>
      match p'.mappings.lookup m.forwarderPort with
      | some _ =>
          (.error ("mapping already exists for port " ++ itoa m.forwarderPort),
            (p'.cancel conn).closeConn conn)
      | none =>
          let pl : PortListener :=
            ⟨conn, m.gatewayAddress, m.revision, m.tunnelName, m.tunnelNamespace⟩
          (.ok (), { p' with mappings := p'.mappings.insert m.forwarderPort pl })

def addMapping (deny : Deny) (m : TunnelMapping) (p : SocketProxy) :
    Except String Unit × SocketProxy :=
  match p.mappings.lookup m.forwarderPort with
  | none => p.listen deny m
  | some existing =>
      if existing.SameTunnel m ∧ m.revision < existing.revision then (.ok (), p)
      else if existing.SameTunnel m ∧ existing.gateway = m.gatewayAddress then
        if existing.revision < m.revision then
          (.ok (), { p with mappings :=
            p.mappings.insert m.forwarderPort { existing with revision := m.revision } })
        else (.ok (), p)
      else (p.removeMapping m.forwarderPort).listen deny m

def applyMapping (deny : Deny) (mapping : Option TunnelMapping) (p : SocketProxy) :
    Except String Unit × SocketProxy :=
  match mapping with
  | none => (.error "invalid tunnel mapping", p)
  | some m =>
      if m.forwarderPort ≤ 0 ∨ m.gatewayAddress = "" then (.error "invalid tunnel mapping", p)
      else p.addMapping deny m

/-- The first loop of `ReconcileMappings`. -/
def applyMappings (deny : Deny) :
    List (Option TunnelMapping) → SocketProxy → Except String Unit × SocketProxy
  | [], p => (.ok (), p)
  | none :: mappings, p => applyMappings deny mappings p
  | some m :: mappings, p =>
      if m.forwarderPort ≤ 0 ∨ m.gatewayAddress = "" then applyMappings deny mappings p
      else
        match p.applyMapping deny (some m) with
        | (.error err, p') =>
            (.error ("apply mapping for port " ++ itoa m.forwarderPort ++ ": " ++ err), p')
        | (.ok (), p') => applyMappings deny mappings p'

def removeStale (mappings : List (Option TunnelMapping)) (p : SocketProxy) : SocketProxy :=
  p.ports.foldl (fun p port => if port ∈ UDPProxy.desired mappings then p
    else p.removeMapping port) p

def reconcileMappings (deny : Deny) (mappings : List (Option TunnelMapping)) (p : SocketProxy) :
    Except String Unit × SocketProxy :=
  match p.applyMappings deny mappings with
  | (.error err, p') => (.error err, p')
  | (.ok (), p') => (.ok (), p'.removeStale mappings)

def close (p : SocketProxy) : SocketProxy := p.ports.foldl (fun p port => p.removeMapping port) p

/-- The sockets and the table agree, but for a socket that the call under way holds. -/
structure Matched (held : Option ℕ) (p : SocketProxy) : Prop where
  bound : ∀ {port l}, p.mappings.lookup port = some l →
    p.sockets.lookup l.conn = some ⟨port, false, false⟩
  released : ∀ {n s}, p.sockets.lookup n = some s → held ≠ some n →
    (∃ l, p.mappings.lookup s.port = some l ∧ l.conn = n) ∨ (s.closed = true ∧ s.cancelled = true)
  apart : ∀ {port l}, p.mappings.lookup port = some l → held ≠ some l.conn
  fresh : ∀ {n s}, p.sockets.lookup n = some s → n < p.listens

variable {deny : Deny} {m : TunnelMapping} {p p' : SocketProxy} {port : Int} {l : PortListener}
  {conn : ℕ} {s : Socket}

theorem matched_new : new.Matched none where
  bound h := by cases h
  released h := by cases h
  apart h := by cases h
  fresh h := by cases h

theorem inUse_iff :
    p.inUse port = true ↔ ∃ n s, p.sockets.lookup n = some s ∧ s.port = port ∧
      s.closed = false := by
  simp only [inUse, List.any_eq_true, Bool.and_eq_true, decide_eq_true_eq, Bool.not_eq_true',
    Table.mem_values_iff]
  constructor
  · rintro ⟨s, ⟨n, hn⟩, hs⟩
    exact ⟨n, s, hn, hs⟩
  · rintro ⟨n, s, hn, hs⟩
    exact ⟨s, ⟨n, hn⟩, hs⟩

theorem Matched.not_inUse (h : p.Matched none) (hl : p.mappings.lookup port = none) :
    p.inUse port = false := by
  rw [Bool.eq_false_iff, ne_eq, inUse_iff]
  rintro ⟨n, s, hn, rfl, hopen⟩
  obtain ⟨l, hl', -⟩ | ⟨hclosed, -⟩ := h.released hn (by simp)
  · rw [hl] at hl'
    cases hl'
  · rw [hopen] at hclosed
    cases hclosed

@[simp] theorem modify_toUDPProxy (f : Socket → Socket) :
    (p.modify conn f).toUDPProxy = p.toUDPProxy := by
  unfold modify
  split <;> rfl

theorem modify_sockets (f : Socket → Socket) (hs : p.sockets.lookup conn = some s) :
    (p.modify conn f).sockets = p.sockets.insert conn (f s) := by
  simp only [modify, hs]

theorem cancel_closeConn_lookup (hs : p.sockets.lookup conn = some s) (n : ℕ) :
    ((p.cancel conn).closeConn conn).sockets.lookup n =
      if n = conn then some ⟨s.port, true, true⟩ else p.sockets.lookup n := by
  have hcancel := modify_sockets (fun s => { s with cancelled := true }) hs
  have hs' : (p.cancel conn).sockets.lookup conn = some { s with cancelled := true } := by
    rw [cancel, hcancel, Table.lookup_insert_eq, if_pos rfl]
  rw [closeConn, modify_sockets _ hs', cancel, hcancel, Table.lookup_insert_eq,
    Table.lookup_insert_eq]
  split_ifs <;> rfl

theorem Matched.taken (h : p.Matched none) (hl : p.mappings.lookup port = some l) :
    Matched (some l.conn) { p with mappings := p.mappings.erase port } where
  bound {q l'} hq := by
    rw [Table.lookup_erase_eq] at hq
    split_ifs at hq
    exact h.bound hq
  released {n s} hn hheld := by
    obtain ⟨l', hl', rfl⟩ | hdone := h.released hn (by simp)
    · refine Or.inl ⟨l', ?_, rfl⟩
      rw [Table.lookup_erase_eq, if_neg]
      · exact hl'
      · intro hport
        rw [hport, hl] at hl'
        cases hl'
        exact hheld rfl
    · exact Or.inr hdone
  apart {q l'} hq heq := by
    rw [Table.lookup_erase_eq] at hq
    split_ifs at hq with hne
    -- one socket would be bound to two ports
    have hbound := h.bound hq
    rw [← Option.some.inj heq, h.bound hl] at hbound
    cases hbound
    exact hne rfl
  fresh hn := h.fresh hn

theorem Matched.ended (h : p.Matched (some conn)) (hs : p.sockets.lookup conn = some s) :
    Matched none ((p.cancel conn).closeConn conn) where
  bound {port l} hl := by
    simp only [closeConn, cancel, modify_toUDPProxy] at hl
    have hne : l.conn ≠ conn := fun he => h.apart hl (by rw [he])
    rw [cancel_closeConn_lookup hs, if_neg hne]
    exact h.bound hl
  released {n t} hn _ := by
    simp only [closeConn, cancel, modify_toUDPProxy]
    rw [cancel_closeConn_lookup hs] at hn
    split_ifs at hn with hne
    · cases hn
      exact Or.inr ⟨rfl, rfl⟩
    · exact h.released hn fun he => hne (Option.some.inj he).symm
  apart _ he := by cases he
  fresh {n t} hn := by
    simp only [closeConn, cancel, modify_toUDPProxy]
    rw [cancel_closeConn_lookup hs] at hn
    split_ifs at hn with hne
    · rw [hne]
      exact h.fresh hs
    · exact h.fresh hn

theorem Matched.failed (h : p.Matched none) : Matched none { p with listens := p.listens + 1 } where
  bound := h.bound
  released := h.released
  apart := h.apart
  fresh hn := Nat.lt_succ_of_lt (h.fresh hn)

theorem Matched.opened (h : p.Matched none) (port : Int) :
    Matched (some p.listens) { p with
      listens := p.listens + 1, sockets := p.sockets.insert p.listens ⟨port, false, false⟩ } where
  bound {q l} hl := by
    have hne : l.conn ≠ p.listens := (h.fresh (h.bound hl)).ne
    rw [Table.lookup_insert_eq, if_neg hne]
    exact h.bound hl
  released {n s} hn hheld := by
    rw [Table.lookup_insert_eq, if_neg fun he => hheld (by rw [he])] at hn
    exact h.released hn (by simp)
  apart {q l} hl he := (h.fresh (h.bound hl)).ne (Option.some.inj he).symm
  fresh {n s} hn := by
    rw [Table.lookup_insert_eq] at hn
    split_ifs at hn with he
    · exact he ▸ Nat.lt_succ_self _
    · exact Nat.lt_succ_of_lt (h.fresh hn)

theorem Matched.stored (h : p.Matched (some l.conn)) (hfree : p.mappings.lookup port = none)
    (hs : p.sockets.lookup l.conn = some ⟨port, false, false⟩) :
    Matched none { p with mappings := p.mappings.insert port l } where
  bound {q l'} hq := by
    rw [Table.lookup_insert_eq] at hq
    split_ifs at hq with he
    · cases hq
      rw [he]
      exact hs
    · exact h.bound hq
  released {n s} hn _ := by
    by_cases he : n = l.conn
    · subst he
      rw [hs] at hn
      cases hn
      exact Or.inl ⟨l, (Table.lookup_insert_eq _ _ _ _).trans (if_pos rfl), rfl⟩
    · obtain ⟨l', hl', rfl⟩ | hdone := h.released hn fun heq => he (Option.some.inj heq).symm
      · refine Or.inl ⟨l', ?_, rfl⟩
        rw [Table.lookup_insert_eq, if_neg]
        · exact hl'
        · intro hport
          rw [hport, hfree] at hl'
          cases hl'
      · exact Or.inr hdone
  apart _ he := by cases he
  fresh hn := h.fresh hn

theorem Matched.revised (h : p.Matched none) (hl : p.mappings.lookup port = some l)
    (revision : Int) :
    Matched none { p with mappings := p.mappings.insert port { l with revision := revision } } where
  bound {q l'} hq := by
    rw [Table.lookup_insert_eq] at hq
    split_ifs at hq with he
    · cases hq
      have hbound := h.bound hl
      rw [he]
      exact hbound
    · exact h.bound hq
  released {n s} hn hheld := by
    obtain ⟨l', hl', rfl⟩ | hdone := h.released hn hheld
    · by_cases hport : s.port = port
      · rw [hport, hl] at hl'
        cases hl'
        exact Or.inl ⟨_, (Table.lookup_insert_eq _ _ _ _).trans (if_pos hport), rfl⟩
      · exact Or.inl ⟨l', (Table.lookup_insert_eq _ _ _ _).trans ((if_neg hport).trans hl'), rfl⟩
    · exact Or.inr hdone
  apart _ he := by cases he
  fresh hn := h.fresh hn

/-- The outcome of a call on the proxy with sockets against the one on the table alone. -/
structure Refines (r : Except String Unit × SocketProxy) (r' : Except String Unit × UDPProxy) :
    Prop where
  matched : r.2.Matched none
  table : (r.1, r.2.toUDPProxy) = r'

theorem removeMapping_refines (h : p.Matched none) (port : Int) :
    (p.removeMapping port).Matched none ∧
      (p.removeMapping port).toUDPProxy = p.toUDPProxy.removeMapping port := by
  unfold removeMapping
  cases hl : p.mappings.lookup port with
  | none =>
      refine ⟨h, ?_⟩
      have herase : p.mappings.erase port = p.mappings := by
        apply AList.ext
        apply List.kerase_of_notMem_keys
        rwa [← AList.keys, ← AList.mem_keys, ← AList.lookup_eq_none]
      simp only [UDPProxy.removeMapping, herase]
  | some l =>
      refine ⟨(h.taken hl).ended (h.bound hl), ?_⟩
      simp only [closeConn, cancel, modify_toUDPProxy, UDPProxy.removeMapping]

theorem listen_refines (h : p.Matched none) (hfree : p.mappings.lookup m.forwarderPort = none) :
    Refines (p.listen deny m) (p.toUDPProxy.listen deny m) := by
  unfold listen listenUDP UDPProxy.listen
  cases hd : deny p.listens with
  | some err => exact ⟨h.failed, rfl⟩
  | none =>
      simp only [h.not_inUse hfree, Bool.false_eq_true, if_false, hfree]
      have hstored := (h.opened m.forwarderPort).stored
        (l := ⟨p.listens, m.gatewayAddress, m.revision, m.tunnelName,
        m.tunnelNamespace⟩) hfree ((Table.lookup_insert_eq _ _ _ _).trans (if_pos rfl))
      exact ⟨hstored, rfl⟩

theorem addMapping_refines (h : p.Matched none) (m : TunnelMapping) :
    Refines (p.addMapping deny m) (p.toUDPProxy.addMapping deny m) := by
  unfold addMapping UDPProxy.addMapping
  cases hl : p.mappings.lookup m.forwarderPort with
  | none => exact listen_refines h hl
  | some existing =>
      simp only
      split_ifs
      · exact ⟨h, rfl⟩
      · exact ⟨h.revised hl _, rfl⟩
      · exact ⟨h, rfl⟩
      · obtain ⟨hremoved, htable⟩ := removeMapping_refines h m.forwarderPort
        rw [← htable]
        apply listen_refines hremoved
        rw [htable, UDPProxy.removeMapping_lookup, if_pos rfl]

theorem applyMapping_refines (h : p.Matched none) (mapping : Option TunnelMapping) :
    Refines (p.applyMapping deny mapping) (p.toUDPProxy.applyMapping deny mapping) := by
  unfold applyMapping UDPProxy.applyMapping
  cases mapping with
  | none => exact ⟨h, rfl⟩
  | some m =>
      simp only
      split_ifs
      · exact ⟨h, rfl⟩
      · exact addMapping_refines h m

theorem applyMappings_refines (h : p.Matched none) (mappings : List (Option TunnelMapping)) :
    Refines (p.applyMappings deny mappings) (p.toUDPProxy.applyMappings deny mappings) := by
  induction mappings generalizing p with
  | nil => exact ⟨h, rfl⟩
  | cons mapping mappings ih =>
      cases mapping with
      | none => exact ih h
      | some m =>
          simp only [applyMappings, UDPProxy.applyMappings]
          split_ifs
          · exact ih h
          · have hstep : Refines (p.applyMapping deny (some m)) _ := applyMapping_refines h (some m)
            rw [← hstep.table]
            rcases hr : p.applyMapping deny (some m) with ⟨_ | _, p'⟩
            · rw [hr] at hstep
              exact ⟨hstep.matched, rfl⟩
            · rw [hr] at hstep
              exact ih hstep.matched

/-- Removing ports one after the other, as both loops over `Ports` do. -/
theorem removeMappings_refines (h : p.Matched none) (skip : Int → Prop) [DecidablePred skip]
    (ports : List Int) :
    (ports.foldl (fun p port => if skip port then p else p.removeMapping port) p).Matched none ∧
      (ports.foldl (fun p port => if skip port then p else p.removeMapping port) p).toUDPProxy =
        ports.foldl (fun p port => if skip port then p else p.removeMapping port) p.toUDPProxy := by
  induction ports generalizing p with
  | nil => exact ⟨h, rfl⟩
  | cons port ports ih =>
      simp only [List.foldl_cons]
      by_cases hskip : skip port
      · simp only [if_pos hskip]
        exact ih h
      · simp only [if_neg hskip]
        obtain ⟨hremoved, htable⟩ := removeMapping_refines h port
        rw [← htable]
        exact ih hremoved

theorem reconcileMappings_refines (h : p.Matched none) (mappings : List (Option TunnelMapping)) :
    Refines (p.reconcileMappings deny mappings) (p.toUDPProxy.reconcileMappings deny mappings) := by
  have happlied : Refines (p.applyMappings deny mappings) _ := applyMappings_refines h mappings
  unfold reconcileMappings UDPProxy.reconcileMappings
  rw [← happlied.table]
  rcases hr : p.applyMappings deny mappings with ⟨_ | _, p'⟩
  · rw [hr] at happlied
    exact ⟨happlied.matched, rfl⟩
  · rw [hr] at happlied
    obtain ⟨hremoved, htable⟩ :=
      removeMappings_refines happlied.matched (· ∈ UDPProxy.desired mappings) p'.ports
    exact ⟨hremoved, by rw [Prod.mk.injEq]; exact ⟨rfl, htable⟩⟩

theorem close_refines (h : p.Matched none) :
    p.close.Matched none ∧ p.close.toUDPProxy = p.toUDPProxy.close := by
  have hall := removeMappings_refines h (fun _ => False) p.ports
  simp only [if_false] at hall
  exact hall

end SocketProxy

/-- The calls on a proxy. -/
inductive ProxyCall where
  | applyMapping (mapping : Option TunnelMapping)
  | reconcileMappings (mappings : List (Option TunnelMapping))
  | removeMapping (port : Int)
  | close

def ProxyCall.run (deny : Deny) : ProxyCall → SocketProxy → SocketProxy
  | .applyMapping mapping, p => (p.applyMapping deny mapping).2
  | .reconcileMappings mappings, p => (p.reconcileMappings deny mappings).2
  | .removeMapping port, p => p.removeMapping port
  | .close, p => p.close

/-- A proxy after a sequence of calls, some of which may have failed. -/
def runCalls (deny : Deny) (calls : List ProxyCall) : SocketProxy :=
  calls.foldl (fun p call => call.run deny p) SocketProxy.new

namespace SocketProxy

variable {deny : Deny} {p : SocketProxy}

theorem run_matched (call : ProxyCall) (h : p.Matched none) : (call.run deny p).Matched none := by
  cases call with
  | applyMapping mapping => exact (applyMapping_refines h mapping).matched
  | reconcileMappings mappings => exact (reconcileMappings_refines h mappings).matched
  | removeMapping port => exact (removeMapping_refines h port).1
  | close => exact (close_refines h).1

theorem runCalls_matched (deny : Deny) (calls : List ProxyCall) :
    (runCalls deny calls).Matched none := by
  induction calls using List.reverseRecOn with
  | nil => exact matched_new
  | append_singleton calls call ih =>
      rw [runCalls, List.foldl_append]
      exact run_matched call ih

theorem close_lookup (h : p.Matched none) (port : Int) : p.close.mappings.lookup port = none := by
  rw [(close_refines h).2]
  have hstale := UDPProxy.removeStale_lookup [] p.toUDPProxy port
  simpa [UDPProxy.close, UDPProxy.removeStale, UDPProxy.desired] using hstale

/-- Socket `n` is open and listens on the port. -/
def OpenOn (n : ℕ) (port : Int) (p : SocketProxy) : Prop :=
  ∃ s, p.sockets.lookup n = some s ∧ s.port = port ∧ s.closed = false

/-- After any calls, of which any may have failed anywhere, the open sockets are those of the
table, each on the port it is stored under; every other socket has been cancelled and closed;
and `Close` leaves none open. -/
theorem open_sockets_match (deny : Deny) (calls : List ProxyCall) :
    let p := runCalls deny calls
    (∀ n port, p.OpenOn n port ↔ ∃ l, p.mappings.lookup port = some l ∧ l.conn = n) ∧
      (∀ n s, p.sockets.lookup n = some s → (∀ port l, p.mappings.lookup port = some l →
        l.conn ≠ n) →
        s.cancelled = true ∧ s.closed = true) ∧
      (calls.getLast? = some .close → ∀ n port, ¬ p.OpenOn n port) := by
  intro p
  have hp : p.Matched none := runCalls_matched deny calls
  have hopen : ∀ n port, p.OpenOn n port ↔ ∃ l, p.mappings.lookup port = some l ∧ l.conn = n := by
    intro n port
    constructor
    · rintro ⟨s, hn, rfl, hclosed⟩
      obtain hl | ⟨hdone, -⟩ := hp.released hn (by simp)
      · exact hl
      · rw [hclosed] at hdone
        cases hdone
    · rintro ⟨l, hl, rfl⟩
      exact ⟨_, hp.bound hl, rfl, rfl⟩
  refine ⟨hopen, ?_, ?_⟩
  · intro n s hn hout
    obtain ⟨l, hl, he⟩ | ⟨hclosed, hcancelled⟩ := hp.released hn (by simp)
    · exact absurd he (hout _ l hl)
    · exact ⟨hcancelled, hclosed⟩
  · intro hlast n port hn
    obtain ⟨l, hl, -⟩ := (hopen n port).mp hn
    obtain ⟨before, rfl⟩ := List.getLast?_eq_some_iff.mp hlast
    have hnone := close_lookup (runCalls_matched deny before) port
    have hrun : p = (runCalls deny before).close := by
      simp only [p, runCalls, List.foldl_append]
      rfl
    rw [hrun, hnone] at hl
    cases hl

end SocketProxy
end TunnelOperator
