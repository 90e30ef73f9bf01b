import TunnelOperator.ProxySockets
import TunnelOperator.Threads

/-!
# Concurrent calls on the UDP proxy

`UDPProxy` is guarded by one mutex that its calls take and release several times: `addMapping`
reads the table, decides, opens its socket without the lock and takes the lock again to store the
listener; `RemoveMapping` closes what it took from the table without the lock. Here each call is a
program cut at these places, and any number of calls run against one memory in any order. Between
the cuts a call may hold a socket that is open and not in the table.
-/

namespace TunnelOperator
open Interaction GoText

/-- A listening socket, and whether the sessions behind it have been closed. -/
structure Endpoint extends Socket where
  sessionsClosed : Bool
  deriving DecidableEq

/-- The table holds references. A listener is referred to by the number of its socket, which is
made with it and belongs to no other. -/
structure ProxyMemory where
  mappings : Table Int ℕ
  listeners : Table ℕ PortListener
  endpoints : Table ℕ Endpoint
  listens : ℕ

/-- What a call cannot know: whether `ListenUDP` fails, and in which order a map is ranged over. -/
structure ProxyChoice where
  deny : Deny
  order : List Int

/-- What a call does between two points at which others can come in. -/
inductive ProxyOp where
  | find (port : Int)
  | fields (listener : ℕ)
  | bump (port : Int) (existing : ℕ) (revision : Int)
  | delete (port : Int)
  | cancel (listener : ℕ)
  | closeConn (listener : ℕ)
  | closeSessions (listener : ℕ)
  | listenUDP (port : Int)
  | store (port : Int) (listener : PortListener)
  | ports

abbrev ProxyOp.Ans : ProxyOp → Type
  | .find _ => Option ℕ
  | .fields _ => PortListener
  | .bump _ _ _ => Unit
  | .delete _ => Option ℕ
  | .cancel _ => Unit
  | .closeConn _ => Unit
  | .closeSessions _ => Unit
  | .listenUDP _ => Except String ℕ
  | .store _ _ => Bool
  | .ports => List Int

namespace ProxyMemory

def new : ProxyMemory := ⟨∅, ∅, ∅, 0⟩

def onEndpoint (i : ℕ) (f : Endpoint → Endpoint) (p : ProxyMemory) : ProxyMemory :=
  match p.endpoints.lookup i with
  | none => p
  | some e => { p with endpoints := p.endpoints.insert i (f e) }

/-- `current == existing && current.revision < revision` and the assignment. -/
def bump (port : Int) (existing : ℕ) (revision : Int) (p : ProxyMemory) : ProxyMemory :=
  match p.listeners.lookup existing with
  | none => p
  | some current =>
      if p.mappings.lookup port = some existing ∧ current.revision < revision then
        { p with listeners := p.listeners.insert existing { current with revision := revision } }
      else p

def inUse (port : Int) (p : ProxyMemory) : Bool :=
  p.endpoints.values.any fun e => e.port = port && !e.closed

def exec : (op : ProxyOp) → ProxyChoice → ProxyMemory → op.Ans × ProxyMemory
  | .find port, _, p => (p.mappings.lookup port, p)
  | .fields i, _, p => ((p.listeners.lookup i).getD ⟨i, "", 0, "", ""⟩, p)
  | .bump port i revision, _, p => ((), p.bump port i revision)
  | .delete port, _, p =>
      match p.mappings.lookup port with
      | none => (none, p)
      | some i => (some i, { p with mappings := p.mappings.erase port })
  | .cancel i, _, p => ((), p.onEndpoint i fun e => { e with cancelled := true })
  | .closeConn i, _, p => ((), p.onEndpoint i fun e => { e with closed := true })
  | .closeSessions i, _, p => ((), p.onEndpoint i fun e => { e with sessionsClosed := true })
  | .listenUDP port, c, p =>
      let p' := { p with listens := p.listens + 1 }
      match c.deny p.listens with
      | some err => (.error err, p')
      | none =>
          if p.inUse port then (.error "bind: address already in use", p')
          else (.ok p.listens,
            { p' with endpoints := p.endpoints.insert p.listens ⟨⟨port, false, false⟩, false⟩ })
  | .store port l, _, p =>
      match p.mappings.lookup port with
      | some _ => (false, p)
      | none => (true, { p with
          mappings := p.mappings.insert port l.conn, listeners := p.listeners.insert l.conn l })
  | .ports, c, p => (if c.order.Perm p.mappings.keys then c.order else p.mappings.keys, p)

end ProxyMemory

namespace ProxyThread

abbrev Run (α : Type) := Program ProxyOp.Ans α

def perform (op : ProxyOp) : Run op.Ans := Program.perform op

def removeMapping (port : Int) : Run Unit := do
  match ← perform (.delete port) with
  | none => pure ()
  | some pl => do
      perform (.cancel pl)
      perform (.closeConn pl)
      perform (.closeSessions pl)

/-- The second half of `addMapping`. -/
def listen (m : TunnelMapping) : Run (Except String Unit) := do
  match ← perform (.listenUDP m.forwarderPort) with
  | .error err => pure (.error ("listen udp on port " ++ itoa m.forwarderPort ++ ": " ++ err))
  | .ok conn => do
      let pl : PortListener := ⟨conn, m.gatewayAddress, m.revision, m.tunnelName, m.tunnelNamespace⟩
      if ← perform (.store m.forwarderPort pl) then pure (.ok ())
      else do
        perform (.cancel conn)
        perform (.closeConn conn)
        pure (.error ("mapping already exists for port " ++ itoa m.forwarderPort))

def addMapping (m : TunnelMapping) : Run (Except String Unit) := do
  match ← perform (.find m.forwarderPort) with
  | none => listen m
  | some existing => do
      let l ← perform (.fields existing)
      if l.SameTunnel m ∧ m.revision < l.revision then pure (.ok ())
      else if l.SameTunnel m ∧ l.gateway = m.gatewayAddress then do
        perform (.bump m.forwarderPort existing m.revision)
        pure (.ok ())
      else do
        removeMapping m.forwarderPort
        listen m

def applyMapping (mapping : Option TunnelMapping) : Run (Except String Unit) :=
  match mapping with
  | none => pure (.error "invalid tunnel mapping")
  | some m =>
      if m.forwarderPort ≤ 0 ∨ m.gatewayAddress = "" then pure (.error "invalid tunnel mapping")
      else addMapping m

/-- The first loop of `ReconcileMappings`. -/
def applyMappings : List (Option TunnelMapping) → Run (Except String Unit)
  | [] => pure (.ok ())
  | none :: mappings => applyMappings mappings
  | some m :: mappings =>
      if m.forwarderPort ≤ 0 ∨ m.gatewayAddress = "" then applyMappings mappings
      else do
        match ← applyMapping (some m) with
        | .error err =>
            pure (.error ("apply mapping for port " ++ itoa m.forwarderPort ++ ": " ++ err))
        | .ok () => applyMappings mappings

def removeMappings (keep : List Int) : List Int → Run Unit
  | [] => pure ()
  | port :: ports =>
      if port ∈ keep then removeMappings keep ports
      else do
        removeMapping port
        removeMappings keep ports

def reconcileMappings (mappings : List (Option TunnelMapping)) : Run (Except String Unit) := do
  match ← applyMappings mappings with
  | .error err => pure (.error err)
  | .ok () => do
      let ports ← perform .ports
      removeMappings (UDPProxy.desired mappings) ports
      pure (.ok ())

def close : Run Unit := do
  let ports ← perform .ports
  removeMappings [] ports

def program : ProxyCall → Run (Except String Unit)
  | .applyMapping mapping => applyMapping mapping
  | .reconcileMappings mappings => reconcileMappings mappings
  | .removeMapping port => do
      removeMapping port
      pure (.ok ())
  | .close => do
      close
      pure (.ok ())

end ProxyThread

/-- A socket that a call has opened and not stored, or taken from the table and not finished
with: in the state the call has left it in, and whether a listener was ever stored for it. -/
structure HeldSocket where
  conn : ℕ
  endpoint : Endpoint
  stored : Bool

namespace ProxyMemory

def Finished (p : ProxyMemory) (i : ℕ) (e : Endpoint) : Prop :=
  e.closed = true ∧ e.cancelled = true ∧ ((p.listeners.lookup i).isSome = true →
    e.sessionsClosed = true)

def Apart (held : ℕ → Option HeldSocket) : Prop :=
  ∀ t u h h', held t = some h → held u = some h' → h.conn = h'.conn → t = u

/-- Every socket is in the table, held by exactly one call or finished. -/
structure Owned (held : ℕ → Option HeldSocket) (p : ProxyMemory) : Prop where
  live : ∀ {port i}, p.mappings.lookup port = some i →
    p.endpoints.lookup i = some ⟨⟨port, false, false⟩, false⟩ ∧ (p.listeners.lookup i).isSome = true
  holds : ∀ {t h}, held t = some h → p.endpoints.lookup h.conn = some h.endpoint ∧
    (p.listeners.lookup h.conn).isSome = h.stored ∧ ∀ port, p.mappings.lookup port ≠ some h.conn
  apart : Apart held
  placed : ∀ {i e}, p.endpoints.lookup i = some e →
    p.mappings.lookup e.port = some i ∨ (∃ t h, held t = some h ∧ h.conn = i) ∨ p.Finished i e
  single : ∀ {i j e e'}, p.endpoints.lookup i = some e → p.endpoints.lookup j = some e' →
    e.closed = false → e'.closed = false → e.port = e'.port → i = j
  fresh : ∀ {i e}, p.endpoints.lookup i = some e → i < p.listens
  backed : ∀ {i l}, p.listeners.lookup i = some l → ∃ e, p.endpoints.lookup i = some e

section Steps

variable {p : ProxyMemory} {held : ℕ → Option HeldSocket} {t : ℕ} {h : HeldSocket}

theorem owned_new : new.Owned fun _ => none where
  live h := by cases h
  holds h := by cases h
  apart _ _ _ _ h := by cases h
  placed h := by cases h
  single h := by cases h
  fresh h := by cases h
  backed h := by cases h

theorem update_eq_some {x : Option HeldSocket} {u : ℕ} {h : HeldSocket}
    (hu : Function.update held t x u = some h) : (u = t ∧ x = some h) ∨
    (u ≠ t ∧ held u = some h) := by
  by_cases hut : u = t
  · subst hut
    rw [Function.update_self] at hu
    exact Or.inl ⟨rfl, hu⟩
  · rw [Function.update_of_ne hut] at hu
    exact Or.inr ⟨hut, hu⟩

theorem Apart.update (ha : Apart held) {x : Option HeldSocket}
    (hx : ∀ h u h', x = some h → u ≠ t → held u = some h' → h'.conn ≠ h.conn) :
    Apart (Function.update held t x) := by
  intro u v h h' hu hv hc
  rcases update_eq_some hu with ⟨hut, hxu⟩ |
    ⟨hut, hu⟩ <;> rcases update_eq_some hv with ⟨hvt, hxv⟩ | ⟨hvt, hv⟩
  · exact hut.trans hvt.symm
  · exact absurd hc.symm (hx h v h' hxu hvt hv)
  · exact absurd hc (hx h' u h hxv hut hu)
  · exact ha u v h h' hu hv hc

theorem Apart.kept {u : ℕ} {x : Option HeldSocket} (hu : held u = some h)
    (ht : ∀ y, held t = some y → y.conn ≠ h.conn) : Function.update held t x u = some h := by
  rw [Function.update_of_ne]
  · exact hu
  · rintro rfl
    exact ht h hu rfl

theorem inUse_iff {port : Int} :
    p.inUse port = true ↔ ∃ i e, p.endpoints.lookup i = some e ∧ e.port = port ∧
      e.closed = false := by
  simp only [inUse, List.any_eq_true, Bool.and_eq_true, decide_eq_true_eq, Bool.not_eq_true',
    Table.mem_values_iff]
  constructor
  · rintro ⟨e, ⟨i, hi⟩, he⟩
    exact ⟨i, e, hi, he⟩
  · rintro ⟨i, e, hi, he⟩
    exact ⟨e, ⟨i, hi⟩, he⟩

theorem bump_rest (port : Int) (i : ℕ) (revision : Int) (p : ProxyMemory) :
    (p.bump port i revision).mappings = p.mappings ∧ (p.bump port i revision).endpoints =
      p.endpoints ∧
      (p.bump port i revision).listens = p.listens ∧
      ∀ j, ((p.bump port i revision).listeners.lookup j).isSome =
        (p.listeners.lookup j).isSome := by
  unfold bump
  cases hl : p.listeners.lookup i with
  | none => exact ⟨rfl, rfl, rfl, fun _ => rfl⟩
  | some l =>
      simp only
      split_ifs with hc
      · refine ⟨rfl, rfl, rfl, fun j => ?_⟩
        rw [Table.lookup_insert_eq]
        split_ifs with hj
        · rw [hj, hl]
          rfl
        · rfl
      · exact ⟨rfl, rfl, rfl, fun _ => rfl⟩

theorem Owned.bumped (ho : p.Owned held) (port : Int) (i : ℕ) (revision : Int) :
    (p.bump port i revision).Owned held := by
  obtain ⟨hm, he, hn, hsome⟩ := bump_rest port i revision p
  refine ⟨fun hp => ?_, fun ht => ?_, ho.apart, fun hi => ?_, fun hi hj => ?_, fun hi => ?_,
    fun hi => ?_⟩
  · rw [he, hsome]
    exact ho.live (hm ▸ hp)
  · rw [he, hsome, hm]
    exact ho.holds ht
  · rw [hm, Finished, hsome]
    exact ho.placed (he ▸ hi)
  · exact ho.single (he ▸ hi) (he ▸ hj)
  · rw [hn]
    exact ho.fresh (he ▸ hi)
  · rw [he]
    obtain ⟨l, hl⟩ := Option.isSome_iff_exists.mp
      ((hsome _).symm.trans (Option.isSome_iff_exists.mpr ⟨_, hi⟩))
    exact ho.backed hl

theorem Owned.taken (ho : p.Owned held) (ht : held t = none) {port : Int} {i : ℕ}
    (hp : p.mappings.lookup port = some i) :
    Owned (Function.update held t (some ⟨i, ⟨⟨port, false, false⟩, false⟩, true⟩))
      { p with mappings := p.mappings.erase port } where
  live {q j} hq := by
    rw [Table.lookup_erase_eq] at hq
    split_ifs at hq
    exact ho.live hq
  holds {u h} hu := by
    obtain ⟨rfl, hx⟩ | ⟨-, hu⟩ := update_eq_some hu
    · cases hx
      refine ⟨(ho.live hp).1, (ho.live hp).2, fun q hq => ?_⟩
      rw [Table.lookup_erase_eq] at hq
      split_ifs at hq with hne
      -- one socket would be bound to two ports
      have hbound := (ho.live hq).1
      rw [(ho.live hp).1] at hbound
      cases hbound
      exact hne rfl
    · refine ⟨(ho.holds hu).1, (ho.holds hu).2.1, fun q hq => ?_⟩
      rw [Table.lookup_erase_eq] at hq
      split_ifs at hq
      exact (ho.holds hu).2.2 q hq
  apart := by
    refine Apart.update ho.apart fun h u h' hx _ hu hc => ?_
    cases hx
    exact (ho.holds hu).2.2 port (hc ▸ hp)
  placed {j e} hj := by
    obtain hm | ⟨u, h, hu, hc⟩ | hf := ho.placed hj
    · by_cases hport : e.port = port
      · rw [hport, hp] at hm
        cases hm
        exact Or.inr (Or.inl ⟨t, _, Function.update_self _ _ _, rfl⟩)
      · exact Or.inl ((Table.lookup_erase_eq _ _ _).trans ((if_neg hport).trans hm))
    · exact Or.inr (Or.inl ⟨u, h, Apart.kept hu (by simp [ht]), hc⟩)
    · exact Or.inr (Or.inr hf)
  single := ho.single
  fresh := ho.fresh
  backed := ho.backed

theorem onEndpoint_eq {i : ℕ} {e : Endpoint} (f : Endpoint → Endpoint)
    (he : p.endpoints.lookup i = some e) :
    p.onEndpoint i f = { p with endpoints := p.endpoints.insert i (f e) } := by
  simp only [onEndpoint, he]

theorem Owned.changed (ho : p.Owned held) (ht : held t = some h) {f : Endpoint → Endpoint}
    (hport : (f h.endpoint).port = h.endpoint.port)
    (hopen : (f h.endpoint).closed = false → h.endpoint.closed = false) :
    (p.onEndpoint h.conn f).Owned
      (Function.update held t (some { h with endpoint := f h.endpoint })) := by
  obtain ⟨he, hs, hout⟩ := ho.holds ht
  rw [onEndpoint_eq f he]
  -- an open endpoint was there before, open on the same port
  have hback : ∀ {j e'}, (p.endpoints.insert h.conn (f h.endpoint)).lookup j = some e' →
      ∃ e, p.endpoints.lookup j = some e ∧ e.port = e'.port ∧
      (e'.closed = false → e.closed = false) := by
    intro j e' hj
    rw [Table.lookup_insert_eq] at hj
    split_ifs at hj with hji
    · cases hj
      rw [hji]
      exact ⟨h.endpoint, he, hport.symm, hopen⟩
    · exact ⟨e', hj, rfl, id⟩
  refine ⟨fun {port i} hp => ?_, fun {u x} hu => ?_, ?_, fun {j e'} hj => ?_,
    fun {i j e e'} hi hj => ?_, fun {j e'} hj => ?_, fun {j l} hj => ?_⟩
  · have hne : i ≠ h.conn := fun hi => hout port (hi ▸ hp)
    rw [Table.lookup_insert_eq, if_neg hne]
    exact ho.live hp
  · obtain ⟨rfl, hx⟩ | ⟨hut, hu⟩ := update_eq_some hu
    · cases hx
      exact ⟨(Table.lookup_insert_eq _ _ _ _).trans (if_pos rfl), hs, hout⟩
    · have hne : x.conn ≠ h.conn := fun hc => hut (ho.apart _ _ _ _ hu ht hc)
      exact ⟨(Table.lookup_insert_eq _ _ _ _).trans ((if_neg hne).trans (ho.holds hu).1),
        (ho.holds hu).2⟩
  · refine Apart.update ho.apart fun x u y hx hut hu hc => hut ?_
    cases hx
    exact ho.apart _ _ _ _ hu ht hc
  · by_cases hji : j = h.conn
    · exact Or.inr (Or.inl ⟨t, _, Function.update_self _ _ _, hji.symm⟩)
    · rw [Table.lookup_insert_eq, if_neg hji] at hj
      obtain hm | ⟨u, x, hu, hc⟩ | hf := ho.placed hj
      · exact Or.inl hm
      · refine Or.inr (Or.inl ⟨u, x, Apart.kept hu fun y hy => ?_, hc⟩)
        rw [ht] at hy
        cases hy
        exact fun hxy => hji (hc.symm.trans hxy.symm)
      · exact Or.inr (Or.inr hf)
  · intro hopen hopen' hsame
    obtain ⟨e₀, hi₀, hp₀, ho₀⟩ := hback hi
    obtain ⟨e₁, hj₁, hp₁, ho₁⟩ := hback hj
    exact ho.single hi₀ hj₁ (ho₀ hopen) (ho₁ hopen') (hp₀.trans (hsame.trans hp₁.symm))
  · obtain ⟨e, hj, -⟩ := hback hj
    exact ho.fresh hj
  · obtain ⟨e, he'⟩ := ho.backed hj
    rw [Table.lookup_insert_eq]
    split_ifs
    · exact ⟨_, rfl⟩
    · exact ⟨e, he'⟩

theorem Owned.released (ho : p.Owned held) (ht : held t = some h)
    (hclosed : h.endpoint.closed = true) (hcancelled : h.endpoint.cancelled = true)
    (hsessions : h.stored = true → h.endpoint.sessionsClosed = true) :
    p.Owned (Function.update held t none) where
  live := ho.live
  holds {u x} hu := by
    obtain ⟨-, hx⟩ | ⟨-, hu⟩ := update_eq_some hu
    · cases hx
    · exact ho.holds hu
  apart := Apart.update ho.apart nofun
  placed {i e} hi := by
    obtain hm | ⟨u, x, hu, rfl⟩ | hf := ho.placed hi
    · exact Or.inl hm
    · by_cases hut : u = t
      · subst hut
        rw [ht] at hu
        cases hu
        obtain ⟨he, hs, -⟩ := ho.holds ht
        rw [he] at hi
        cases hi
        exact Or.inr (Or.inr ⟨hclosed, hcancelled, fun hsome => hsessions (hs ▸ hsome)⟩)
      · exact Or.inr (Or.inl ⟨u, x, (Function.update_of_ne hut _ _).trans hu, rfl⟩)
    · exact Or.inr (Or.inr hf)
  single := ho.single
  fresh := ho.fresh
  backed := ho.backed

theorem Owned.failed (ho : p.Owned held) : Owned held { p with listens := p.listens + 1 } where
  live := ho.live
  holds := ho.holds
  apart := ho.apart
  placed := ho.placed
  single := ho.single
  fresh hi := Nat.lt_succ_of_lt (ho.fresh hi)
  backed := ho.backed

theorem Owned.opened (ho : p.Owned held) (ht : held t = none) {port : Int}
    (hfree : p.inUse port = false) :
    Owned (Function.update held t (some ⟨p.listens, ⟨⟨port, false, false⟩, false⟩, false⟩))
      { p with
        listens := p.listens + 1
        endpoints := p.endpoints.insert p.listens ⟨⟨port, false, false⟩, false⟩ } := by
  have hold : ∀ {i e}, p.endpoints.lookup i = some e → i ≠ p.listens := fun hi => (ho.fresh hi).ne
  have hnone : ∀ {i e}, p.endpoints.lookup i = some e → e.closed = false → e.port ≠ port := by
    intro i e hi hopen hport
    exact Bool.eq_false_iff.mp hfree (inUse_iff.mpr ⟨i, e, hi, hport, hopen⟩)
  have hnew : p.listeners.lookup p.listens = none := by
    cases hl : p.listeners.lookup p.listens with
    | none => rfl
    | some l =>
        obtain ⟨e, he⟩ := ho.backed hl
        exact absurd rfl (hold he)
  refine ⟨fun {q i} hq => ?_, fun {u x} hu => ?_, ?_, fun {i e} hi => ?_,
    fun {i j e e'} hi hj hopen hopen' hport => ?_, fun {i e} hi => ?_, fun {i l} hi => ?_⟩
  · rw [Table.lookup_insert_eq, if_neg (hold (ho.live hq).1)]
    exact ho.live hq
  · obtain ⟨-, hx⟩ | ⟨-, hu⟩ := update_eq_some hu
    · cases hx
      refine ⟨(Table.lookup_insert_eq _ _ _ _).trans (if_pos rfl), by
        rw [hnew]; rfl, fun q hq => ?_⟩
      exact hold (ho.live hq).1 rfl
    · refine ⟨?_, (ho.holds hu).2⟩
      rw [Table.lookup_insert_eq, if_neg (hold (ho.holds hu).1)]
      exact (ho.holds hu).1
  · refine Apart.update ho.apart fun x u y hx _ hu => ?_
    cases hx
    exact hold (ho.holds hu).1
  · rw [Table.lookup_insert_eq] at hi
    split_ifs at hi with hin
    · exact Or.inr (Or.inl ⟨t, _, Function.update_self _ _ _, hin.symm⟩)
    · obtain hm | ⟨u, x, hu, hc⟩ | hf := ho.placed hi
      · exact Or.inl hm
      · exact Or.inr (Or.inl ⟨u, x, Apart.kept hu (by simp [ht]), hc⟩)
      · exact Or.inr (Or.inr hf)
  · rw [Table.lookup_insert_eq] at hi hj
    split_ifs at hi with hin <;> split_ifs at hj with hjn
    · exact hin.trans hjn.symm
    · cases hi
      exact absurd hport.symm (hnone hj hopen')
    · cases hj
      exact absurd hport (hnone hi hopen)
    · exact ho.single hi hj hopen hopen' hport
  · rw [Table.lookup_insert_eq] at hi
    split_ifs at hi with hin
    · exact hin ▸ Nat.lt_succ_self _
    · exact Nat.lt_succ_of_lt (ho.fresh hi)
  · obtain ⟨e, he⟩ := ho.backed hi
    rw [Table.lookup_insert_eq]
    split_ifs
    · exact ⟨_, rfl⟩
    · exact ⟨e, he⟩

theorem Owned.stored (ho : p.Owned held) {port : Int} {l : PortListener}
    (ht : held t = some ⟨l.conn, ⟨⟨port, false, false⟩, false⟩, false⟩)
    (hfree : p.mappings.lookup port = none) :
    Owned (Function.update held t none) { p with
      mappings := p.mappings.insert port l.conn, listeners := p.listeners.insert l.conn l } := by
  obtain ⟨he, hs, hout⟩ := ho.holds ht
  have hother : ∀ {i}, i ≠ l.conn → (p.listeners.insert l.conn l).lookup i = p.listeners.lookup i :=
    fun hi => (Table.lookup_insert_eq _ _ _ _).trans (if_neg hi)
  refine ⟨fun {q i} hq => ?_, fun {u x} hu => ?_, ?_, fun {i e} hi => ?_,
    ho.single, ho.fresh, fun {i l'} hi => ?_⟩
  · rw [Table.lookup_insert_eq] at hq
    split_ifs at hq with hqp
    · cases hq
      rw [hqp, Table.lookup_insert_eq, if_pos rfl]
      exact ⟨he, rfl⟩
    · rw [hother fun hi => hout q (hi ▸ hq)]
      exact ho.live hq
  · obtain ⟨-, hx⟩ | ⟨hut, hu⟩ := update_eq_some hu
    · cases hx
    · have hne : x.conn ≠ l.conn := fun hc => hut (ho.apart _ _ _ _ hu ht hc)
      refine ⟨(ho.holds hu).1, ?_, fun q hq => ?_⟩
      · rw [hother hne]
        exact (ho.holds hu).2.1
      · rw [Table.lookup_insert_eq] at hq
        split_ifs at hq
        · exact hne (Option.some.inj hq).symm
        · exact (ho.holds hu).2.2 q hq
  · exact Apart.update ho.apart nofun
  · by_cases hil : i = l.conn
    · subst hil
      rw [he] at hi
      cases hi
      exact Or.inl ((Table.lookup_insert_eq _ _ _ _).trans (if_pos rfl))
    · obtain hm | ⟨u, x, hu, hc⟩ | hf := ho.placed hi
      · refine Or.inl ((Table.lookup_insert_eq _ _ _ _).trans ((if_neg ?_).trans hm))
        intro hport
        rw [hport, hfree] at hm
        cases hm
      · refine Or.inr (Or.inl ⟨u, x, Apart.kept hu fun y hy => ?_, hc⟩)
        rw [ht] at hy
        cases hy
        exact fun hxy => hil (hc.symm.trans hxy.symm)
      · refine Or.inr (Or.inr ⟨hf.1, hf.2.1, fun hsome => hf.2.2 ?_⟩)
        rwa [hother hil] at hsome
  · rw [Table.lookup_insert_eq] at hi
    split_ifs at hi with hil
    · exact ⟨_, hil ▸ he⟩
    · exact ho.backed hi

end Steps
end ProxyMemory

namespace ProxyThread

open ProxyMemory

/-- The goal: whoever comes to store a listener finds its port free. -/
def Stores : (op : ProxyOp) → op.Ans → Prop
  | .store _ _, ok => ok = true
  | _, _ => True

def sharing : Sharing ProxyOp.Ans ProxyMemory ProxyChoice (Option HeldSocket) :=
  ⟨exec, Owned, Stores⟩

/-- The call starts, or goes on, with no socket of its own and ends so. -/
abbrev Clean {α : Type} (t : ℕ) (p : Run α) : Prop := sharing.Keeps (fun _ h => h = none) t p none

variable {α β : Type} {t : ℕ} {m : TunnelMapping} {h : HeldSocket}

theorem Clean.seq {p : Run α} {f : α → Run β} (hp : Clean t p) (hf : ∀ a, Clean t (f a)) :
    Clean t (p >>= f) := by
  refine Sharing.Keeps.bind hp fun a x hx => ?_
  subst hx
  exact hf a

theorem clean_pure (a : α) : Clean t (pure a : Run α) := rfl

theorem clean_read {op : ProxyOp} (hgoal : ∀ a, Stores op a) (hop : ∀ c p, (exec op c p).2 = p) :
    Clean t (perform op) := by
  refine Sharing.Keeps.perform_same hgoal fun c p held _ ho => ⟨?_, rfl⟩
  change Owned held (exec op c p).2
  rw [hop]
  exact ho

theorem clean_bump (port : Int) (i : ℕ) (revision : Int) :
    Clean t (perform (.bump port i revision)) :=
  Sharing.Keeps.perform_same (fun _ => trivial) fun _ _ _ _ ho => ⟨ho.bumped port i revision, rfl⟩

theorem keeps_change {op : ProxyOp} {f : Endpoint → Endpoint} (hgoal : ∀ a, Stores op a)
    (hop : ∀ c p, (exec op c p).2 = p.onEndpoint h.conn f)
    (hport : (f h.endpoint).port = h.endpoint.port)
    (hopen : (f h.endpoint).closed = false → h.endpoint.closed = false) :
    sharing.Keeps (fun _ x => x = some { h with endpoint := f h.endpoint }) t (perform op)
      (some h) := by
  refine Sharing.Keeps.perform fun c p held ht ho => ⟨hgoal _, _, ?_, rfl⟩
  change Owned _ (exec op c p).2
  rw [hop]
  exact ho.changed ht hport hopen

theorem keeps_finish {op : ProxyOp} {f : Endpoint → Endpoint} (hgoal : ∀ a, Stores op a)
    (hop : ∀ c p, (exec op c p).2 = p.onEndpoint h.conn f)
    (hport : (f h.endpoint).port = h.endpoint.port) (hclosed : (f h.endpoint).closed = true)
    (hcancelled : (f h.endpoint).cancelled = true)
    (hsessions : h.stored = true → (f h.endpoint).sessionsClosed = true) :
    sharing.Keeps (fun _ x => x = none) t (perform op) (some h) := by
  refine Sharing.Keeps.perform fun c p held ht ho => ⟨hgoal _, none, ?_, rfl⟩
  have hchanged := ho.changed ht hport fun hopen => by rw [hclosed] at hopen; cases hopen
  have hreleased := hchanged.released (Function.update_self _ _ _) hclosed hcancelled hsessions
  rw [Function.update_idem] at hreleased
  change Owned _ (exec op c p).2
  rw [hop]
  exact hreleased

theorem keeps_delete (port : Int) : sharing.Keeps (fun (a : Option ℕ) x =>
    x = a.map fun i => ⟨i, ⟨⟨port, false, false⟩, false⟩, true⟩) t
      (perform (.delete port)) none := by
  refine Sharing.Keeps.perform fun c p held ht ho => ⟨trivial, ?_⟩
  change ∃ x, Owned (Function.update held t x) (exec (.delete port) c p).2 ∧
    x = (exec (.delete port) c p).1.map _
  cases hp : p.mappings.lookup port with
  | none =>
      simp only [exec, hp, Option.map_none]
      refine ⟨none, ?_, rfl⟩
      rw [← ht, Function.update_eq_self]
      exact ho
  | some i =>
      simp only [exec, hp, Option.map_some]
      exact ⟨_, ho.taken ht hp, rfl⟩

theorem clean_removeMapping (port : Int) : Clean t (removeMapping port) := by
  refine Sharing.Keeps.bind (keeps_delete port) fun a x hx => ?_
  subst hx
  cases a with
  | none => rfl
  | some i =>
      refine Sharing.Keeps.bind (keeps_change (fun _ => trivial) (fun _ _ => rfl) rfl id)
        fun _ x hx => ?_
      subst hx
      refine Sharing.Keeps.bind (keeps_change (fun _ => trivial) (fun _ _ => rfl) rfl nofun)
        fun _ x hx => ?_
      subst hx
      exact keeps_finish (fun _ => trivial) (fun _ _ => rfl) rfl rfl rfl fun _ => rfl

/-- A socket that `ListenUDP` has just returned. -/
def opened (port : Int) (conn : ℕ) : HeldSocket := ⟨conn, ⟨⟨port, false, false⟩, false⟩, false⟩

theorem keeps_listenUDP (port : Int) : sharing.Keeps (fun (a : Except String ℕ) x =>
    x = a.toOption.map (opened port)) t (perform (.listenUDP port)) none := by
  refine Sharing.Keeps.perform fun c p held ht ho => ⟨trivial, ?_⟩
  change ∃ x, Owned (Function.update held t x) (exec (.listenUDP port) c p).2 ∧
    x = (exec (.listenUDP port) c p).1.toOption.map (opened port)
  have hfailed : Owned (Function.update held t none) { p with listens := p.listens + 1 } := by
    rw [← ht, Function.update_eq_self]
    exact ho.failed
  cases hd : c.deny p.listens with
  | some err =>
      simp only [exec, hd]
      exact ⟨none, hfailed, rfl⟩
  | none =>
      by_cases hu : p.inUse port = true
      · simp only [exec, hd, if_pos hu]
        exact ⟨none, hfailed, rfl⟩
      · simp only [exec, hd, if_neg hu]
        exact ⟨_, ho.opened ht (Bool.eq_false_iff.mpr hu), rfl⟩

theorem Owned.free {p : ProxyMemory} {held : ℕ → Option HeldSocket} (ho : p.Owned held) {port : Int}
    {conn : ℕ} (ht : held t = some (opened port conn)) : p.mappings.lookup port = none := by
  cases hp : p.mappings.lookup port with
  | none => rfl
  | some i =>
      obtain ⟨he, -, hout⟩ := ho.holds ht
      have hsame : i = conn := ho.single (ho.live hp).1 he rfl rfl rfl
      exact absurd (hsame ▸ hp) (hout port)

theorem keeps_store (pl : PortListener) (port : Int) : sharing.Keeps (fun (ok : Bool) x =>
    ok = true ∧ x = none) t (perform (.store port pl)) (some (opened port pl.conn)) := by
  refine Sharing.Keeps.perform fun c p held ht ho => ?_
  have hfree := Owned.free ho ht
  have hstored := ho.stored ht hfree
  change Stores (.store port pl) (exec (.store port pl) c p).1 ∧
    ∃ x, Owned (Function.update held t x) (exec (.store port pl) c p).2 ∧
    (exec (.store port pl) c p).1 = true ∧ x = none
  simp only [exec, hfree]
  exact ⟨rfl, none, hstored, trivial, rfl⟩

theorem clean_listen (m : TunnelMapping) : Clean t (listen m) := by
  refine Sharing.Keeps.bind (keeps_listenUDP m.forwarderPort) fun a x hx => ?_
  subst hx
  cases a with
  | error err => rfl
  | ok conn =>
      refine Sharing.Keeps.bind (keeps_store
        ⟨conn, m.gatewayAddress, m.revision, m.tunnelName, m.tunnelNamespace⟩ m.forwarderPort)
        fun ok x hx => ?_
      obtain ⟨rfl, rfl⟩ := hx
      rfl

theorem clean_addMapping (m : TunnelMapping) : Clean t (addMapping m) := by
  refine Clean.seq (clean_read (fun _ => trivial) fun _ _ => rfl) fun a => ?_
  cases a with
  | none => exact clean_listen m
  | some existing =>
      refine Clean.seq (clean_read (fun _ => trivial) fun _ _ => rfl) fun l => ?_
      split_ifs
      · exact clean_pure _
      · exact (clean_bump _ _ _).seq fun _ => clean_pure _
      · exact (clean_removeMapping _).seq fun _ => clean_listen m

theorem clean_applyMapping (mapping : Option TunnelMapping) : Clean t (applyMapping mapping) := by
  cases mapping with
  | none => exact clean_pure _
  | some m =>
      simp only [applyMapping]
      split_ifs
      · exact clean_pure _
      · exact clean_addMapping m

theorem clean_applyMappings (mappings : List (Option TunnelMapping)) :
    Clean t (applyMappings mappings) := by
  induction mappings with
  | nil => exact clean_pure _
  | cons mapping mappings ih =>
      cases mapping with
      | none => exact ih
      | some m =>
          simp only [applyMappings]
          split_ifs
          · exact ih
          · refine (clean_applyMapping (some m)).seq fun r => ?_
            cases r with
            | error err => exact clean_pure _
            | ok _ => exact ih

theorem clean_removeMappings (keep ports : List Int) : Clean t (removeMappings keep ports) := by
  induction ports with
  | nil => exact clean_pure _
  | cons port ports ih =>
      simp only [removeMappings]
      split_ifs
      · exact ih
      · exact (clean_removeMapping port).seq fun _ => ih

theorem clean_program (call : ProxyCall) : Clean t (program call) := by
  cases call with
  | applyMapping mapping => exact clean_applyMapping mapping
  | reconcileMappings mappings =>
      refine (clean_applyMappings mappings).seq fun r => ?_
      cases r with
      | error err => exact clean_pure _
      | ok _ =>
          refine Clean.seq (clean_read (fun _ => trivial) fun _ _ => rfl) fun ports => ?_
          exact (clean_removeMappings _ ports).seq fun _ => clean_pure _
  | removeMapping port => exact (clean_removeMapping port).seq fun _ => clean_pure _
  | close =>
      refine Clean.seq ?_ fun _ => clean_pure _
      exact Clean.seq (clean_read (fun _ => trivial) fun _ _ => rfl) fun ports =>
        clean_removeMappings [] ports

abbrev Event := PoolEvent ProxyCall ProxyChoice

theorem accounts {events : List Event} {g : Pool ProxyOp.Ans (Except String Unit) ProxyMemory}
    (hrun : runEvents (Pool.step exec program) events ⟨new, []⟩ = some g) :
    ∃ held, sharing.Accounts (fun (_ : Except String Unit) h => h = none) none held g :=
  Sharing.accounts (D := sharing) (fun call _ => clean_program call) owned_new hrun

/-- A listener is stored; then one call replaces it for another Tunnel while a second removes it. -/
def removedWhileReplaced : List Event :=
  let c : ProxyChoice := ⟨fun _ => none, []⟩
  [.start (.applyMapping (some ⟨"a", "team", 51820, "10.0.0.1:51820", 1, "", "", 0⟩)),
    .call 0 c, .call 0 c, .call 0 c,
    .start (.applyMapping (some ⟨"b", "team", 51820, "10.0.0.2:51820", 1, "", "", 0⟩)),
    .start (.removeMapping 51820),
    .call 1 c, .call 1 c, .call 2 c, .call 2 c, .call 1 c, .call 2 c, .call 1 c, .call 2 c,
    .call 1 c]

/-- The check that `addMapping` repeats under the lock never fires: a call that comes to store its
listener finds the port free, so none returns that the mapping already exists. -/
theorem second_check_never_fires (events : List Event)
    (g : Pool ProxyOp.Ans (Except String Unit) ProxyMemory)
    (hrun : runEvents (Pool.step exec program) events ⟨new, []⟩ = some g) (t : ℕ) (port : Int)
    (pl : PortListener) (next : Bool → Run (Except String Unit))
    (ht : g.threads[t]? = some (.call (.store port pl) next)) :
    g.state.mappings.lookup port = none := by
  obtain ⟨held, hacc⟩ := accounts hrun
  have hstores : (exec (.store port pl) ⟨fun _ => none, []⟩ g.state).1 = true :=
    hacc.answered ht ⟨fun _ => none, []⟩
  cases hp : g.state.mappings.lookup port with
  | none => rfl
  | some i =>
      simp only [exec, hp] at hstores
      cases hstores

theorem second_check_never_fires_replaced :
    ∃ g pl next, runEvents (Pool.step exec program) removedWhileReplaced.dropLast
      ⟨new, []⟩ = some g ∧
      g.threads[1]? = some (.call (.store 51820 pl) next) ∧ g.state.mappings.lookup 51820 = none :=
  ⟨_, _, _, rfl, rfl, second_check_never_fires removedWhileReplaced.dropLast _ rfl 1 51820 _ _ rfl⟩

end ProxyThread
end TunnelOperator
