import Mathlib.Algebra.GroupWithZero.Nat
import TunnelOperator.PortRelay

/-!
# Where the datagrams go

Over every run of a listener's goroutines: the packets of a client reach the gateway connections
of that client's own sessions, in the order they arrived and each at most once, and every packet is
forwarded, dropped or still in the hands of `servePort`. Replies go back to the client of the
session they came for, in order, and at most one that was read is missing.
-/

namespace TunnelOperator
open Interaction

/-- The client whose packet `servePort` holds. -/
def ServePhase.hand : ServePhase → Option String
  | .received c => some c
  | .dialing c => some c
  | .dialed c _ => some c
  | .writing c _ => some c
  | _ => none

namespace ListenerState

variable {s s' : ListenerState}

/-- The steps at which `servePort` takes a packet or is done with it. -/
def takes : SessionEvent → Bool
  | .packet _ => true
  | .dial ok => !ok
  | .write _ => true
  | _ => false

theorem takes_of_plain {e : SessionEvent} (h : e.plain = true) : takes e = false := by
  cases e <;> first | rfl | cases h

theorem step_hand {e : SessionEvent} (he : takes e = false) (hstep : step e s = some s') :
    s'.serve.hand = s.serve.hand := by
  cases e with
  | packet c => cases he
  | write ok => cases he
  | readError =>
      simp only [step, readError] at hstep
      by_cases hg : s.serve = .reading
      · rw [if_pos hg] at hstep
        cases hstep
        rw [hg]
        split_ifs <;> rfl
      · rw [if_neg hg] at hstep
        cases hstep
  | getSession =>
      simp only [step, getSession] at hstep
      cases hserve : s.serve with
      | received c =>
          simp only [hserve] at hstep
          cases hl : s.sessions.lookup c with
          | none =>
              simp only [hl, Option.some.injEq] at hstep
              subst hstep
              rfl
          | some i =>
              simp only [hl, Option.some.injEq] at hstep
              subst hstep
              rfl
      | _ => simp [hserve] at hstep
  | dial ok =>
      cases ok with
      | false => cases he
      | true =>
          simp only [step, dial, if_true] at hstep
          cases hserve : s.serve with
          | dialing c =>
              simp only [hserve, Option.some.injEq] at hstep
              subst hstep
              rfl
          | _ => simp [hserve] at hstep
  | setSession =>
      simp only [step, setSession] at hstep
      cases hserve : s.serve with
      | dialed c i =>
          simp only [hserve, Option.some.injEq] at hstep
          subst hstep
          rfl
      | _ => simp [hserve] at hstep
  | deleteFailed =>
      simp only [step, deleteFailed] at hstep
      cases hserve : s.serve with
      | failed c i =>
          simp only [hserve, Option.some.injEq] at hstep
          subst hstep
          rfl
      | _ => simp [hserve] at hstep
  | closeFailed =>
      simp only [step, closeFailed] at hstep
      cases hserve : s.serve with
      | closing i =>
          simp only [hserve, Option.some.injEq] at hstep
          subst hstep
          rfl
      | _ => simp [hserve] at hstep
  | pipeFail i => rw [(shrinks_pipeFail hstep).serve]
  | pipeDelete i => rw [(shrinks_pipeDelete hstep).serve]
  | pipeClose i => rw [(shrinks_pipeClose hstep).serve]
  | cleanupIdle idle =>
      simp only [step] at hstep
      split_ifs at hstep
      cases hstep
      rw [(shrinks_cleanup idle s).serve]
  | cleanupReturn | cancel | closeConn =>
      simp only [step] at hstep
      split_ifs at hstep
      cases hstep
      rfl
  | closeAll =>
      simp only [step] at hstep
      split_ifs at hstep
      cases hstep
      exact congrArg ServePhase.hand (shrinks_cleanup s.sessions.keys s).serve

theorem packet_hand {c : String} (hstep : s.packet c = some s') :
    s.serve.hand = none ∧ s'.serve.hand = some c := by
  simp only [packet] at hstep
  split_ifs at hstep with hg
  cases hstep
  rw [hg.1]
  exact ⟨rfl, rfl⟩

theorem dial_false_hand {c : String} (hserve : s.serve = .dialing c)
    (hstep : s.dial false = some s') :
    s'.serve.hand = none := by
  simp only [dial, hserve, Bool.false_eq_true, if_false, Option.some.injEq] at hstep
  subst hstep
  rfl

theorem write_hand {c : String} {i : ℕ} {ok : Bool} (hserve : s.serve = .writing c i)
    (hstep : s.write ok = some s') : s'.serve.hand = none := by
  simp only [write, hserve] at hstep
  split_ifs at hstep <;> cases hstep <;> rfl

end ListenerState

namespace PortRelay

variable {timeout : ℕ} {r r' : PortRelay} {e : PortEvent}

/-- What a step does to the packets of the clients. -/
inductive UpStep (r r' : PortRelay) : Prop where
  | rest (hbuf : r'.buf = r.buf) (harrived : r'.arrived = r.arrived) (hfates : r'.fates = r.fates)
      (hcounter : r'.clientToGateway = r.clientToGateway)
      (hhand : r'.listener.serve.hand = r.listener.serve.hand)
  | arrive (c : String) (data : Datagram) (hnone : r.listener.serve.hand = none)
      (hhand : r'.listener.serve.hand = some c) (hbuf : r'.buf = readInto data)
      (harrived : r'.arrived = r.arrived ++ [(c, data)]) (hfates : r'.fates = r.fates)
      (hcounter : r'.clientToGateway = r.clientToGateway)
  | drop (c : String) (hold : r.listener.serve.hand = some c)
    (hhand : r'.listener.serve.hand = none)
      (harrived : r'.arrived = r.arrived) (hfates : r'.fates = r.fates ++ [⟨c, r.buf, none⟩])
      (hcounter : r'.clientToGateway = r.clientToGateway)
  | forward (c : String) (i : ℕ) (hserve : r.listener.serve = .writing c i)
      (hhand : r'.listener.serve.hand = none) (harrived : r'.arrived = r.arrived)
      (hfates : r'.fates = r.fates ++ [⟨c, r.buf, some i⟩])
      (hcounter : r'.clientToGateway = r.clientToGateway.add r.buf)

theorem step_up (hstep : step timeout e r = some r') : UpStep r r' := by
  cases step_effect hstep with
  | packet c data s hs =>
      obtain ⟨hnone, hhand⟩ := ListenerState.packet_hand hs
      exact .arrive c data hnone hhand rfl rfl rfl rfl
  | dialed c s _ hs =>
      exact .rest rfl rfl rfl rfl (ListenerState.step_hand (e := .dial true) rfl hs)
  | undialed c s hserve hs =>
      exact .drop c (by rw [hserve]; rfl) (ListenerState.dial_false_hand hserve hs) rfl rfl rfl
  | setSession s hs =>
      exact .rest rfl rfl rfl rfl (ListenerState.step_hand (e := .setSession) rfl hs)
  | sent c i s hserve _ hs =>
      exact .forward c i hserve (ListenerState.write_hand hserve hs) rfl rfl rfl
  | unsent c i s hserve _ hs =>
      exact .drop c (by rw [hserve]; rfl) (ListenerState.write_hand hserve hs) rfl rfl rfl
  | pipeFail i s hs =>
      exact .rest rfl rfl rfl rfl (ListenerState.step_hand (e := .pipeFail i) rfl hs)
  | pipeClose i s hs =>
      exact .rest rfl rfl rfl rfl (ListenerState.step_hand (e := .pipeClose i) rfl hs)
  | sweep t s _ hs => exact .rest rfl rfl rfl rfl (ListenerState.step_hand rfl hs)
  | cleanupReturn s hs => exact .rest rfl rfl rfl rfl (ListenerState.step_hand rfl hs)
  | session e s hplain hs =>
      exact .rest rfl rfl rfl rfl (ListenerState.step_hand (ListenerState.takes_of_plain hplain) hs)
  | tick | touch | pipeRead | pipeTouch | pipeWrite | startCleanup =>
      exact .rest rfl rfl rfl rfl rfl

/-- The packet that `servePort` holds. -/
def inHand (r : PortRelay) : List (String × Datagram) :=
  (r.listener.serve.hand.map fun c => (c, r.buf)).toList

/-- The packets of one client, as `servePort` read them. -/
def arrivedFrom (c : String) (r : PortRelay) : List Datagram :=
  (r.arrived.filter fun p => p.1 = c).map fun p => readInto p.2

def upstream (i : ℕ) (r : PortRelay) : List Datagram :=
  (r.fates.filter fun f => f.session = some i).map (·.data)

def forwarded (r : PortRelay) : List Datagram :=
  (r.fates.filter fun f => f.session.isSome).map (·.data)

def tally (sent : List Datagram) : Counter := ⟨sent.length, (sent.map List.length).sum⟩

theorem tally_concat (sent : List Datagram) (data : Datagram) :
    tally (sent ++ [data]) = (tally sent).add data := by
  simp [tally, Counter.add]

structure Carried (r : PortRelay) : Prop where
  linked : r.listener.Linked
  complete : r.arrived.map (fun p => (p.1, readInto p.2)) =
    r.fates.map (fun f => (f.clientAddr, f.data)) ++ r.inHand
  addressed : ∀ f ∈ r.fates, ∀ i, f.session = some i →
    ∃ x, r.listener.made.lookup i = some x ∧ x.clientAddr = f.clientAddr
  counted : r.clientToGateway = tally r.forwarded

theorem carried_initial : initial.Carried :=
  ⟨ListenerState.linked_initial, rfl, nofun, rfl⟩

theorem Carried.step (h : r.Carried) (hstep : step timeout e r = some r') : r'.Carried := by
  have hlinked := linked_step h.linked hstep
  have haddressed : ∀ f ∈ r.fates, ∀ i, f.session = some i →
      ∃ x, r'.listener.made.lookup i = some x ∧ x.clientAddr = f.clientAddr :=
    fun f hf i hi => client_step h.linked hstep (h.addressed f hf i hi)
  have hcomplete := h.complete
  rcases step_up hstep with ⟨hbuf, harrived, hfates, hcounter, hhand⟩ |
    ⟨c, data, hnone, hhand, hbuf, harrived, hfates, hcounter⟩ |
    ⟨c, hold, hhand, harrived, hfates, hcounter⟩ |
    ⟨c, i, hserve, hhand, harrived, hfates, hcounter⟩
  · refine ⟨hlinked, ?_, by rw [hfates]; exact haddressed, ?_⟩
    · rw [harrived, hfates, hcomplete, inHand, inHand, hhand, hbuf]
    · rw [hcounter, forwarded, hfates]
      exact h.counted
  · -- a packet is read only when none is held
    refine ⟨hlinked, ?_, by rw [hfates]; exact haddressed, ?_⟩
    · rw [inHand, hnone] at hcomplete
      rw [harrived, hfates, inHand, hhand, hbuf, List.map_append, hcomplete]
      simp
    · rw [hcounter, forwarded, hfates]
      exact h.counted
  · rw [inHand, hold] at hcomplete
    refine ⟨hlinked, ?_, fun f hf i hi => ?_, ?_⟩
    · rw [harrived, hfates, inHand, hhand, hcomplete]
      simp
    · rw [hfates, List.mem_append, List.mem_singleton] at hf
      rcases hf with hf | rfl
      · exact haddressed f hf i hi
      · cases hi
    · rw [hcounter, h.counted, forwarded, forwarded, hfates]
      simp
  · have hhand₀ : r.listener.serve.hand = some c := by
      rw [hserve]
      rfl
    rw [inHand, hhand₀] at hcomplete
    refine ⟨hlinked, ?_, fun f hf j hj => ?_, ?_⟩
    · rw [harrived, hfates, inHand, hhand, hcomplete]
      simp
    · rw [hfates, List.mem_append, List.mem_singleton] at hf
      rcases hf with hf | rfl
      · exact haddressed f hf j hj
      · cases hj
        apply client_step h.linked hstep
        exact h.linked.serving c i (by rw [hserve]; exact ⟨rfl, rfl⟩)
    · rw [hcounter, h.counted, forwarded, forwarded, hfates, ← tally_concat]
      simp

theorem Carried.run {events : List PortEvent}
    (hrun : runEvents (PortRelay.step timeout) events initial = some r) :
    r.Carried :=
  runEvents_invariant (fun _ _ _ h hstep => Carried.step h hstep) carried_initial hrun

theorem Carried.upstream_sublist (h : r.Carried) {i : ℕ} {x : Session}
    (hx : r.listener.made.lookup i = some x) :
    (r.upstream i).Sublist (r.arrivedFrom x.clientAddr) := by
  have hown : ∀ f ∈ r.fates, f.session = some i → f.clientAddr = x.clientAddr := by
    intro f hf hi
    obtain ⟨y, hy, hc⟩ := h.addressed f hf i hi
    rw [hx] at hy
    cases hy
    exact hc.symm
  have hfates : (r.upstream i).Sublist
      ((r.fates.filter fun f => f.clientAddr = x.clientAddr).map (·.data)) := by
    refine List.Sublist.map _ ?_
    have hboth : r.fates.filter (fun f => f.session = some i) =
        (r.fates.filter fun f => f.clientAddr = x.clientAddr).filter fun f =>
        f.session = some i := by
      rw [List.filter_filter]
      refine List.filter_congr fun f hf => ?_
      by_cases hi : f.session = some i
      · simp [hi, hown f hf hi]
      · simp [hi]
    rw [hboth]
    exact List.filter_sublist
  have harrived : r.arrivedFrom x.clientAddr =
      (((r.fates.map fun f => (f.clientAddr, f.data)) ++ r.inHand).filter fun p =>
        p.1 = x.clientAddr).map (·.2) := by
    rw [← h.complete, arrivedFrom, List.filter_map, List.map_map]
    rfl
  rw [harrived, List.filter_append, List.map_append]
  refine List.Sublist.trans ?_ (List.sublist_append_left _ _)
  rw [List.filter_map, List.map_map]
  exact hfates

/-- In every run of a listener's goroutines: a session's gateway connection gets packets of the
session's own client only, in the order in which they arrived and none twice; every packet that
arrived was forwarded to such a session, or dropped, or is the one in the hands of `servePort`; and
the counters show exactly what was forwarded. -/
theorem packets_reach_own_sessions (timeout : ℕ) (events : List PortEvent) (r : PortRelay)
    (hrun : runEvents (step timeout) events initial = some r) :
    (∀ i x, r.listener.made.lookup i = some x →
      (r.upstream i).Sublist (r.arrivedFrom x.clientAddr)) ∧
      (r.arrived.map (fun p => (p.1, readInto p.2)) =
        r.fates.map (fun f => (f.clientAddr, f.data)) ++ r.inHand ∧ r.inHand.length ≤ 1) ∧
      (∀ f ∈ r.fates, ∀ i, f.session = some i →
        ∃ x, r.listener.made.lookup i = some x ∧ x.clientAddr = f.clientAddr) ∧
      r.clientToGateway = tally r.forwarded := by
  have h := Carried.run hrun
  refine ⟨fun i x => h.upstream_sublist, ⟨h.complete, ?_⟩, h.addressed, h.counted⟩
  rw [inHand]
  cases r.listener.serve.hand <;> simp

/-- Two clients send, the second one again while its session is up, and the first gets a reply. -/
def twoClients : List PortEvent :=
  [.packet "10.0.0.7:4000" [1], .session .getSession, .dial true, .setSession, .touch, .write true,
    .packet "10.0.0.8:4000" [2], .session .getSession, .dial true, .setSession, .touch, .write true,
    .pipeRead 0 [3], .packet "10.0.0.8:4000" [4], .session .getSession, .touch, .pipeTouch 0,
    .write true, .pipeWrite 0]

theorem packets_reach_own_sessions_two :
    ∃ r, runEvents (step 30) twoClients initial = some r ∧ r.upstream 0 = [[1]] ∧
      r.upstream 1 = [[2], [4]] ∧
      (r.upstream 1).Sublist (r.arrivedFrom "10.0.0.8:4000") := by
  refine ⟨_, rfl, by decide, by decide, ?_⟩
  exact (packets_reach_own_sessions 30 twoClients _ rfl).1 1 ⟨"10.0.0.8:4000", true, .reading⟩
    (by decide)

/-- What a step does to the replies of the gateways. -/
inductive DownStep (r r' : PortRelay) : Prop where
  | rest (hreplies : r'.replies = r.replies) (hreceived : r'.received = r.received)
      (hdelivered : r'.delivered = r.delivered) (hcounter : r'.gatewayToClient = r.gatewayToClient)
  | read (i : ℕ) (x : Session) (data : Datagram) (hx : r.listener.made.lookup i = some x)
      (hpipe : x.pipe = .reading) (hnone : r.replies.lookup i = none)
      (hreplies : r'.replies = r.replies.insert i (readInto data, false))
      (hreceived : r'.received = r.received ++ [(i, data)])
      (hdelivered : r'.delivered = r.delivered) (hcounter : r'.gatewayToClient = r.gatewayToClient)
  | touch (i : ℕ) (data : Datagram) (hold : r.replies.lookup i = some (data, false))
      (hreplies : r'.replies = r.replies.insert i (data, true))
      (hreceived : r'.received = r.received)
      (hdelivered : r'.delivered = r.delivered) (hcounter : r'.gatewayToClient = r.gatewayToClient)
  | write (i : ℕ) (x : Session) (data : Datagram) (hx : r.listener.made.lookup i = some x)
      (hold : r.replies.lookup i = some (data, true)) (hreplies : r'.replies = r.replies.erase i)
      (hreceived : r'.received = r.received)
      (hdelivered : r'.delivered = r.delivered ++ [⟨i, x.clientAddr, data⟩])
      (hcounter : r'.gatewayToClient = r.gatewayToClient.add data)
  | fail (i : ℕ) (hended : r'.listener.Ended i) (hreplies : r'.replies = r.replies.erase i)
      (hreceived : r'.received = r.received) (hdelivered : r'.delivered = r.delivered)
      (hcounter : r'.gatewayToClient = r.gatewayToClient)

theorem step_down (hstep : step timeout e r = some r') : DownStep r r' := by
  cases step_effect hstep with
  | pipeRead i x data hx hpipe hnone => exact .read i x data hx hpipe hnone rfl rfl rfl rfl
  | pipeTouch i data hold => exact .touch i data hold rfl rfl rfl rfl
  | pipeWrite i x data hx hold _ => exact .write i x data hx hold rfl rfl rfl rfl
  | pipeFail i s hs => exact .fail i (ListenerState.ended_pipeFail hs) rfl rfl rfl rfl
  | tick | packet | dialed | undialed | setSession | touch | sent | unsent | pipeClose
    | startCleanup | sweep
  | cleanupReturn | session => exact .rest rfl rfl rfl rfl

/-- What the `pipeResponses` of a session has read from the gateway. -/
def readFrom (i : ℕ) (r : PortRelay) : List Datagram :=
  (r.received.filter fun p => p.1 = i).map fun p => readInto p.2

def deliveredBy (i : ℕ) (r : PortRelay) : List Datagram :=
  (r.delivered.filter fun d => d.session = i).map (·.data)

def pending (i : ℕ) (r : PortRelay) : List Datagram := ((r.replies.lookup i).map (·.1)).toList

/-- What a session's `pipeResponses` has read, it has written, holds or, once it has left its loop,
may have lost. -/
def Balanced (i : ℕ) (r : PortRelay) : Prop :=
  ∃ lost : Option Datagram, r.readFrom i = r.deliveredBy i ++ lost.toList ++ r.pending i ∧
    (lost.isSome = true → r.listener.Ended i ∧ r.replies.lookup i = none)

section Own

variable {i : ℕ}

theorem Balanced.same (h : r.Balanced i) (hread : r'.readFrom i = r.readFrom i)
    (hdelivered : r'.deliveredBy i = r.deliveredBy i)
    (hreplies : r'.replies.lookup i = r.replies.lookup i)
    (hended : r.listener.Ended i → r'.listener.Ended i) : r'.Balanced i := by
  obtain ⟨lost, hbalance, hlost⟩ := h
  refine ⟨lost, ?_, fun hl => ⟨hended (hlost hl).1, hreplies.trans (hlost hl).2⟩⟩
  rw [hread, hdelivered, pending, hreplies]
  exact hbalance

theorem Balanced.reading {x : Session} (h : r.Balanced i) (hx : r.listener.made.lookup i = some x)
    (hpipe : x.pipe = .reading) : r.readFrom i = r.deliveredBy i ++ r.pending i := by
  obtain ⟨lost, hbalance, hlost⟩ := h
  cases lost with
  | none => simpa using hbalance
  | some d =>
      obtain ⟨⟨y, hy, hended⟩, -⟩ := hlost rfl
      rw [hx] at hy
      cases hy
      rw [hpipe] at hended
      cases hended

theorem Balanced.holding {p : Datagram × Bool} (h : r.Balanced i)
    (hp : r.replies.lookup i = some p) :
    r.readFrom i = r.deliveredBy i ++ [p.1] := by
  obtain ⟨lost, hbalance, hlost⟩ := h
  cases lost with
  | none => simpa [pending, hp] using hbalance
  | some d =>
      rw [(hlost rfl).2] at hp
      cases hp

theorem readFrom_concat {j : ℕ} {data : Datagram} (h : r'.received = r.received ++ [(j, data)]) :
    r'.readFrom i = r.readFrom i ++ if j = i then [readInto data] else [] := by
  rw [readFrom, h, List.filter_append, List.map_append]
  split_ifs with hj <;> simp [hj, readFrom]

theorem deliveredBy_concat {d : Delivery} (h : r'.delivered = r.delivered ++ [d]) :
    r'.deliveredBy i = r.deliveredBy i ++ if d.session = i then [d.data] else [] := by
  rw [deliveredBy, h, List.filter_append, List.map_append]
  split_ifs with hd <;> simp [hd, deliveredBy]

end Own

structure Replied (r : PortRelay) : Prop where
  linked : r.listener.Linked
  balanced : ∀ i, r.Balanced i
  addressed : ∀ d ∈ r.delivered, ∃ x, r.listener.made.lookup d.session = some x ∧
    x.clientAddr = d.clientAddr
  counted : r.gatewayToClient = tally (r.delivered.map (·.data))

theorem replied_initial : initial.Replied :=
  ⟨ListenerState.linked_initial, fun _ => ⟨none, rfl, nofun⟩, nofun, rfl⟩

theorem ended_step (h : r.listener.Linked) (hstep : step timeout e r = some r') {i : ℕ}
    (hi : r.listener.Ended i) : r'.listener.Ended i := by
  rcases step_listener hstep with hsame | ⟨e', he'⟩
  · rw [hsame]
    exact hi
  · exact hi.step h he'

theorem Replied.step_balanced (h : r.Replied) (hstep : step timeout e r = some r') (j : ℕ) :
    r'.Balanced j := by
  have hended : r.listener.Ended j → r'.listener.Ended j := ended_step h.linked hstep
  have hj := h.balanced j
  rcases step_down hstep with ⟨hreplies, hreceived, hdelivered, -⟩ |
    ⟨i, x, data, hx, hpipe, hnone, hreplies, hreceived, hdelivered, -⟩ |
    ⟨i, data, hold, hreplies, hreceived, hdelivered, -⟩ |
    ⟨i, x, data, hx, hold, hreplies, hreceived, hdelivered, -⟩ |
    ⟨i, hend, hreplies, hreceived, hdelivered, -⟩
  all_goals
    have hread (h : r'.received = r.received) : r'.readFrom j = r.readFrom j := by
      rw [readFrom, h]; rfl
    have hdeliver (h : r'.delivered = r.delivered) : r'.deliveredBy j = r.deliveredBy j := by
      rw [deliveredBy, h]; rfl
  · exact hj.same (hread hreceived) (hdeliver hdelivered) (by rw [hreplies]) hended
  · by_cases hji : j = i
    · subst hji
      refine ⟨none, ?_, nofun⟩
      have hbefore := hj.reading hx hpipe
      rw [pending, hnone] at hbefore
      rw [readFrom_concat hreceived, hdeliver hdelivered, hbefore, pending, hreplies,
        Table.lookup_insert_eq, if_pos rfl, if_pos rfl]
      simp
    · refine hj.same ?_ (hdeliver hdelivered) ?_ hended
      · rw [readFrom_concat hreceived, if_neg (Ne.symm hji), List.append_nil]
      · rw [hreplies, Table.lookup_insert_eq, if_neg hji]
  · by_cases hji : j = i
    · subst hji
      refine ⟨none, ?_, nofun⟩
      rw [hread hreceived, hdeliver hdelivered, hj.holding hold, pending, hreplies,
        Table.lookup_insert_eq, if_pos rfl]
      simp
    · refine hj.same (hread hreceived) (hdeliver hdelivered) ?_ hended
      rw [hreplies, Table.lookup_insert_eq, if_neg hji]
  · by_cases hji : j = i
    · subst hji
      refine ⟨none, ?_, nofun⟩
      rw [hread hreceived, deliveredBy_concat hdelivered, hj.holding hold, pending, hreplies,
        Table.lookup_erase_eq, if_pos rfl, if_pos rfl]
      simp
    · refine hj.same (hread hreceived) ?_ ?_ hended
      · rw [deliveredBy_concat hdelivered, if_neg (Ne.symm hji), List.append_nil]
      · rw [hreplies, Table.lookup_erase_eq, if_neg hji]
  · by_cases hji : j = i
    · subst hji
      have hgone : r'.replies.lookup j = none := by rw [hreplies, Table.lookup_erase_eq, if_pos rfl]
      cases hp : r.replies.lookup j with
      | none => exact hj.same (hread hreceived) (hdeliver hdelivered) (hgone.trans hp.symm) hended
      | some p =>
          -- what the pipe had read and not written is lost
          refine ⟨some p.1, ?_, fun _ => ⟨hend, hgone⟩⟩
          rw [hread hreceived, hdeliver hdelivered, hj.holding hp, pending, hgone]
          simp
    · refine hj.same (hread hreceived) (hdeliver hdelivered) ?_ hended
      rw [hreplies, Table.lookup_erase_eq, if_neg hji]

theorem Replied.step (h : r.Replied) (hstep : step timeout e r = some r') : r'.Replied := by
  have haddressed : ∀ d ∈ r.delivered,
      ∃ x, r'.listener.made.lookup d.session = some x ∧ x.clientAddr = d.clientAddr :=
    fun d hd => client_step h.linked hstep (h.addressed d hd)
  refine ⟨linked_step h.linked hstep, h.step_balanced hstep, ?_, ?_⟩
  · rcases step_down hstep with ⟨-, -, hdelivered, -⟩ | ⟨_, _, _, -, -, -, -, -, hdelivered, -⟩ |
      ⟨_, _, -, -, -, hdelivered, -⟩ | ⟨i, x, data, hx, -, -, -, hdelivered, -⟩ |
      ⟨_, -, -, -, hdelivered, -⟩
    case write =>
      intro d hd
      rw [hdelivered, List.mem_append, List.mem_singleton] at hd
      rcases hd with hd | rfl
      · exact haddressed d hd
      · exact client_step h.linked hstep ⟨x, hx, rfl⟩
    all_goals
      rw [hdelivered]
      exact haddressed
  · rcases step_down hstep with ⟨-, -, hdelivered, hcounter⟩ |
      ⟨_, _, _, -, -, -, -, -, hdelivered, hcounter⟩ |
      ⟨_, _, -, -, -, hdelivered, hcounter⟩ | ⟨i, x, data, -, -, -, -, hdelivered, hcounter⟩ |
      ⟨_, -, -, -, hdelivered, hcounter⟩
    case write =>
      rw [hcounter, h.counted, hdelivered, List.map_append, ← tally_concat]
      rfl
    all_goals
      rw [hcounter, hdelivered]
      exact h.counted

theorem Replied.run {events : List PortEvent}
    (hrun : runEvents (PortRelay.step timeout) events initial = some r) :
    r.Replied :=
  runEvents_invariant (fun _ _ _ h hstep => Replied.step h hstep) replied_initial hrun

/-- In every run: a reply goes to the client of the session it came for; what a session's client
got is what was read from the gateway, in order and from the first on, with at most the last one
missing, and with none missing while the loop waits for the next; and the counters show exactly
what was delivered. -/
theorem replies_return_to_clients (timeout : ℕ) (events : List PortEvent) (r : PortRelay)
    (hrun : runEvents (step timeout) events initial = some r) :
    (∀ d ∈ r.delivered, ∃ x, r.listener.made.lookup d.session = some x ∧
      x.clientAddr = d.clientAddr) ∧
      (∀ i, r.deliveredBy i <+: r.readFrom i ∧ (r.readFrom i).length ≤
        (r.deliveredBy i).length + 1) ∧
      (∀ i x, r.listener.made.lookup i = some x → x.pipe = .reading → r.replies.lookup i = none →
        r.deliveredBy i = r.readFrom i) ∧
      r.gatewayToClient = tally (r.delivered.map (·.data)) := by
  have h := Replied.run hrun
  refine ⟨h.addressed, fun i => ?_, fun i x hx hpipe hnone => ?_, h.counted⟩
  · obtain ⟨lost, hbalance, hlost⟩ := h.balanced i
    rw [hbalance, List.append_assoc]
    refine ⟨List.prefix_append _ _, ?_⟩
    cases lost with
    | none => cases hp : r.replies.lookup i <;> simp [pending, hp]
    | some d => simp [pending, (hlost rfl).2]
  · have hread := (h.balanced i).reading hx hpipe
    rw [pending, hnone] at hread
    simpa using hread.symm

theorem replies_return_to_clients_two :
    ∃ r, runEvents (step 30) twoClients initial = some r ∧
      r.delivered = [⟨0, "10.0.0.7:4000", [3]⟩] ∧
      r.deliveredBy 0 = r.readFrom 0 := by
  refine ⟨_, rfl, by decide, ?_⟩
  exact (replies_return_to_clients 30 twoClients _ rfl).2.2.1 0 ⟨"10.0.0.7:4000", true, .reading⟩
    (by decide) rfl
    (by decide)

end PortRelay
end TunnelOperator
