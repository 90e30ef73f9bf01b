import TunnelOperator.AckHistory

/-!
# Forwarders without an identity

A forwarder that sends no identity gets one from a counter and cannot acknowledge anything, so
it has to hold back readiness for as long as its stream is registered. `streamID` and
`addStream` are separate steps of a `StreamUpdates` call, and other calls may come between them.
-/

namespace TunnelOperator
open Interaction GoText

/-- The identity in a request and the one that `streamID` gave the call. -/
structure StreamIdentity where
  requested : String
  id : String
  deriving DecidableEq

/-- `calls` has the `StreamUpdates` calls in the order of their `streamID`, and `added` those that
have reached `addStream`. -/
structure Registrations where
  server : ForwarderServer
  calls : List StreamIdentity
  added : List ℕ

inductive RegistrationEvent where
  | streamID (requested : String)
  | addStream (call : ℕ)
  | removeStream (call : ℕ)
  | ack (request : AckRequest)

def RegistrationEvent.supplied : RegistrationEvent → Option String
  | .streamID requested => if requested = "" then none else some requested
  | .ack request => some request.forwarderId
  | _ => none

def RegistrationEvent.isLegacy : RegistrationEvent → Bool
  | .streamID requested => requested = ""
  | _ => false

/-- The calls whose streams were added and not removed, by the events alone. -/
def registeredCalls (events : List RegistrationEvent) : List ℕ :=
  events.foldl (fun calls e =>
    match e with
    | .addStream call => call :: calls
    | .removeStream call => calls.filter (· ≠ call)
    | _ => calls) []

namespace Registrations

def initial : Registrations := ⟨.new, [], []⟩

def step (e : RegistrationEvent) (s : Registrations) : Option Registrations :=
  match e with
  | .streamID requested =>
      let named := s.server.streamID requested
      some { s with server := named.2, calls := s.calls ++ [⟨requested, named.1⟩] }
  | .addStream call =>
      if call ∈ s.added then none
      else (s.calls[call]?).map fun x =>
        { s with server := s.server.addStream call ⟨x.id, [], false⟩, added := call :: s.added }
  | .removeStream call =>
      (s.server.streams.lookup call).map fun stream =>
        { s with server := s.server.removeStream call stream.id }
  | .ack request => some { s with server := (s.server.ack request).2 }

def legacyCount (calls : List StreamIdentity) : ℕ := calls.countP (·.requested = "")

def legacyName (n : ℕ) : String := "legacy-" ++ itoa n

theorem legacyName_inj {m n : ℕ} : legacyName m = legacyName n ↔ m = n := by
  rw [legacyName, legacyName, String.append_right_inj, itoa_inj (by omega) (by omega),
    Int.natCast_inj]

/-- What the events so far have left: the counter has counted the legacy calls, their names are
its values, and every other name and every acknowledgement comes from a client. -/
structure Sound (events : List RegistrationEvent) (s : Registrations) : Prop where
  counted : legacyCount s.calls = events.countP (·.isLegacy)
  seq : s.server.legacyForwarderSeq = legacyCount s.calls % 2 ^ 64
  named : ∀ i x, s.calls[i]? = some x → x.requested = "" →
    x.id = legacyName (legacyCount (s.calls.take (i + 1)) % 2 ^ 64)
  supplied : ∀ x ∈ s.calls, x.requested ≠ "" → ∃ e ∈ events, e.supplied = some x.id
  registered : ∀ call, call ∈ registeredCalls events ↔
    ∃ stream, s.server.streams.lookup call = some stream
  identified : ∀ call stream, s.server.streams.lookup call = some stream →
    ∃ x, s.calls[call]? = some x ∧ stream.id = x.id
  acked : ∀ id, s.server.acks.lookup id ≠ none → ∃ e ∈ events, e.supplied = some id

variable {events : List RegistrationEvent} {s s' : Registrations}

theorem sound_initial : Sound [] initial where
  counted := rfl
  seq := rfl
  named := fun i x hx => by cases hx
  supplied := fun x hx => by cases hx
  registered := by
    intro call
    constructor
    · intro h
      cases h
    · rintro ⟨stream, h⟩
      cases h
  identified := fun call stream h => by cases h
  acked := fun id h => absurd rfl h

theorem registeredCalls_concat (events : List RegistrationEvent) (e : RegistrationEvent) :
    registeredCalls (events ++ [e]) = match e with
      | .addStream call => call :: registeredCalls events
      | .removeStream call => (registeredCalls events).filter (· ≠ call)
      | _ => registeredCalls events := by
  rw [registeredCalls, List.foldl_concat]
  rfl

theorem exists_append {P : RegistrationEvent → Prop} (h : ∃ e ∈ events, P e)
    (e' : RegistrationEvent) :
    ∃ e ∈ events ++ [e'], P e := by
  obtain ⟨e, he, hp⟩ := h
  exact ⟨e, List.mem_append_left _ he, hp⟩

theorem take_concat_getElem? {calls : List StreamIdentity} {x y : StreamIdentity} {i : ℕ}
    (h : (calls ++ [y])[i]? = some x) :
    (calls[i]? = some x ∧ (calls ++ [y]).take (i + 1) = calls.take (i + 1)) ∨
      (x = y ∧ (calls ++ [y]).take (i + 1) = calls ++ [y]) := by
  rw [List.getElem?_append] at h
  split_ifs at h with hi
  · exact Or.inl ⟨h, List.take_append_of_le_length hi⟩
  · have hlen : i - calls.length = 0 := by
      by_contra hne
      rw [List.getElem?_eq_none (by simp; omega)] at h
      cases h
    rw [hlen] at h
    exact Or.inr ⟨(Option.some.inj h).symm, List.take_of_length_le (by simp; omega)⟩

theorem Sound.streamID (h : Sound events s) (requested : String)
    (hstep : step (.streamID requested) s = some s') :
    Sound (events ++ [.streamID requested]) s' := by
  cases hstep
  have hstreams := s.server.streamID_streams requested
  have hacks := s.server.streamID_acks requested
  -- what the counter does, and the name it gives
  have hcount : legacyCount (s.calls ++ [⟨requested, (s.server.streamID requested).1⟩]) =
      legacyCount s.calls + if requested = "" then 1 else 0 := by
    simp [legacyCount, List.countP_append, List.countP_singleton]
  have hseq : (s.server.streamID requested).2.legacyForwarderSeq =
      (legacyCount s.calls + if requested = "" then 1 else 0) % 2 ^ 64 := by
    unfold ForwarderServer.streamID
    by_cases hr : requested = ""
    · simp only [hr, ne_eq, not_true_eq_false, if_false, if_true, h.seq]
      omega
    · simp only [ne_eq, hr, not_false_eq_true, if_true, if_false, h.seq]
      omega
  refine ⟨?_, ?_, fun i x hx hr => ?_, fun x hx hr => ?_, fun call => ?_, fun call stream hl => ?_,
    fun id hid => ?_⟩
  · rw [hcount, List.countP_append, h.counted]
    simp [RegistrationEvent.isLegacy, List.countP_singleton]
  · rw [hseq, hcount]
  · rcases take_concat_getElem? hx with ⟨hx, htake⟩ | ⟨rfl, htake⟩
    · rw [htake]
      exact h.named i x hx hr
    · have hr : requested = "" := hr
      rw [htake, hcount, ← hseq]
      simp [ForwarderServer.streamID, hr, legacyName]
  · rcases List.mem_append.mp hx with hx | hx
    · exact exists_append (h.supplied x hx hr) _
    · cases List.mem_singleton.mp hx
      have hr : requested ≠ "" := hr
      refine ⟨.streamID requested, by simp, ?_⟩
      simp [RegistrationEvent.supplied, ForwarderServer.streamID, hr]
  · rw [registeredCalls_concat, hstreams]
    exact h.registered call
  · rw [hstreams] at hl
    obtain ⟨x, hx, hid⟩ := h.identified call stream hl
    exact ⟨x, List.getElem?_append_left (List.getElem?_eq_some_iff.mp hx).1 ▸ hx, hid⟩
  · rw [hacks] at hid
    exact exists_append (h.acked id hid) _

theorem Sound.addStream (h : Sound events s) (call : ℕ)
    (hstep : step (.addStream call) s = some s') :
    Sound (events ++ [.addStream call]) s' := by
  simp only [step] at hstep
  split_ifs at hstep
  obtain ⟨x, hx, rfl⟩ := Option.map_eq_some_iff.mp hstep
  refine ⟨?_, h.seq, h.named, fun y hy hr => exists_append (h.supplied y hy hr) _, fun c => ?_,
    fun c stream hl => ?_, fun id hid => exists_append (h.acked id hid) _⟩
  · rw [List.countP_append, ← h.counted]
    rfl
  · simp only [registeredCalls_concat, List.mem_cons, ForwarderServer.addStream,
      Table.lookup_insert_eq, h.registered]
    split_ifs with hc
    · simp [hc]
    · simp [hc]
  · replace hl := (Table.lookup_insert_eq _ _ _ _).symm.trans hl
    split_ifs at hl with hc
    · cases hl
      exact ⟨x, hc ▸ hx, rfl⟩
    · exact h.identified c stream hl

theorem Sound.removeStream (h : Sound events s) (call : ℕ)
    (hstep : step (.removeStream call) s = some s') :
    Sound (events ++ [.removeStream call]) s' := by
  obtain ⟨stream, hl, rfl⟩ := Option.map_eq_some_iff.mp hstep
  have hacks := s.server.removeStream_acks call stream.id
  refine ⟨?_, ?_, h.named, fun y hy hr => exists_append (h.supplied y hy hr) _, fun c => ?_,
    fun c stream' hl' => ?_, fun id hid => ?_⟩
  · rw [List.countP_append, ← h.counted]
    rfl
  · rw [← h.seq]
    unfold ForwarderServer.removeStream
    dsimp only
    split_ifs
    · rfl
    · rfl
  · simp only [registeredCalls_concat, List.mem_filter, decide_eq_true_eq, h.registered,
      ForwarderServer.removeStream_streams, Table.lookup_erase_eq]
    split_ifs with hc
    · simp [hc]
    · simp [hc]
  · rw [ForwarderServer.removeStream_streams, Table.lookup_erase_eq] at hl'
    split_ifs at hl'
    exact h.identified c stream' hl'
  · rw [hacks] at hid
    split_ifs at hid
    · exact absurd rfl hid
    · exact exists_append (h.acked id hid) _

theorem Sound.ack (h : Sound events s) (request : AckRequest)
    (hstep : step (.ack request) s = some s') :
    Sound (events ++ [.ack request]) s' := by
  cases hstep
  have hcount : legacyCount s.calls = (events ++ [RegistrationEvent.ack request]).countP
      (·.isLegacy) := by
    rw [List.countP_append, ← h.counted]
    rfl
  have hsupplied := fun y hy hr => exists_append (h.supplied y hy hr) (.ack request)
  have hregistered : ∀ {server : ForwarderServer}, server.streams = s.server.streams → ∀ call,
      call ∈ registeredCalls (events ++ [.ack request]) ↔
        ∃ stream, server.streams.lookup call = some stream := by
    intro server hstreams call
    rw [registeredCalls_concat, hstreams]
    exact h.registered call
  have hseq : (s.server.ack request).2.legacyForwarderSeq = s.server.legacyForwarderSeq := by
    unfold ForwarderServer.ack
    split_ifs <;> rfl
  cases hack : s.server.ack request with
  | mk answer server =>
      rw [hack] at hseq
      cases answer with
      | error err =>
          obtain rfl := AckRun.ack_error hack
          refine ⟨hcount, h.seq, h.named, hsupplied, hregistered rfl, h.identified,
            fun id hid => ?_⟩
          exact exists_append (h.acked id hid) _
      | ok _ =>
          obtain ⟨-, hstreams, hother, -⟩ := AckRun.ack_ok hack
          refine ⟨hcount, hseq.trans h.seq, h.named, hsupplied, hregistered hstreams,
            fun call stream hl => ?_, fun id hid => ?_⟩
          · exact h.identified call stream (hstreams ▸ hl)
          · by_cases hown : id = request.forwarderId
            · exact ⟨.ack request, by simp, by rw [hown]; rfl⟩
            · exact exists_append (h.acked id (hother id hown ▸ hid)) _

theorem sound_step (events : List RegistrationEvent) (e : RegistrationEvent) (s s' : Registrations)
    (h : Sound events s) (hstep : step e s = some s') : Sound (events ++ [e]) s' := by
  cases e with
  | streamID requested => exact h.streamID requested hstep
  | addStream call => exact h.addStream call hstep
  | removeStream call => exact h.removeStream call hstep
  | ack request => exact h.ack request hstep

theorem legacyCount_take_lt {calls : List StreamIdentity} {i j : ℕ} {y : StreamIdentity}
    (hij : i < j) (hy : calls[j]? = some y) (hr : y.requested = "") :
    legacyCount (calls.take (i + 1)) < legacyCount (calls.take (j + 1)) := by
  have hle : legacyCount (calls.take (i + 1)) ≤ legacyCount (calls.take j) :=
    (List.take_sublist_take_left (by omega)).countP_le
  have hlast : legacyCount (calls.take (j + 1)) = legacyCount (calls.take j) + 1 := by
    rw [List.take_add_one, hy, legacyCount, List.countP_append]
    simp [hr, legacyCount]
  omega

theorem Sound.legacy_id (h : Sound events s) (hlegacy : events.countP (·.isLegacy) < 2 ^ 64) {i : ℕ}
    {x : StreamIdentity} (hx : s.calls[i]? = some x) (hr : x.requested = "") :
    x.id = legacyName (legacyCount (s.calls.take (i + 1))) := by
  have hle : legacyCount (s.calls.take (i + 1)) ≤ legacyCount s.calls :=
    (List.take_sublist _ _).countP_le
  rw [h.named i x hx hr, Nat.mod_eq_of_lt]
  rw [h.counted] at hle
  omega

/-- Names from the counter do not repeat and are not used by anybody else. The server has the
streams that were added and not removed, and while one of a legacy forwarder is among them,
`MissingAcks` reports its name. -/
theorem legacy_forwarders_block_ready (events : List RegistrationEvent) (s : Registrations)
    (hrun : runEvents step events initial = some s)
    (hapart : ∀ e ∈ events, ∀ id, e.supplied = some id → ∀ x ∈ s.calls, x.requested = "" →
      id ≠ x.id)
    (hlegacy : events.countP (·.isLegacy) < 2 ^ 64) :
    (∀ (i j : ℕ) (x y : StreamIdentity), s.calls[i]? = some x → s.calls[j]? = some y → i ≠ j →
        x.requested = "" → x.id ≠ y.id) ∧
      (∀ call, call ∈ registeredCalls events ↔
        ∃ stream, s.server.streams.lookup call = some stream) ∧
      ∀ (call : ℕ) (x : StreamIdentity), call ∈ registeredCalls events → s.calls[call]? = some x →
        x.requested = "" →
        (∃ stream, s.server.streams.lookup call = some stream ∧ stream.id = x.id) ∧
          ∀ ns name revision, 1 ≤ revision → x.id ∈ s.server.missingAcks ns name revision := by
  have h : Sound events s := runEvents_history sound_step sound_initial hrun
  refine ⟨fun i j x y hx hy hij hr heq => ?_, h.registered, fun call x hcall hx hr => ?_⟩
  · by_cases hry : y.requested = ""
    · rw [h.legacy_id hlegacy hx hr, h.legacy_id hlegacy hy hry, legacyName_inj] at heq
      rcases Nat.lt_or_gt_of_ne hij with hlt | hlt
      · have := legacyCount_take_lt hlt hy hry
        omega
      · have := legacyCount_take_lt hlt hx hr
        omega
    · obtain ⟨e, he, hsup⟩ := h.supplied y (List.mem_of_getElem? hy) hry
      exact hapart e he y.id hsup x (List.mem_of_getElem? hx) hr heq.symm
  · obtain ⟨stream, hl⟩ := (h.registered call).mp hcall
    obtain ⟨x', hx', hid⟩ := h.identified call stream hl
    rw [hx] at hx'
    cases hx'
    refine ⟨⟨stream, hl, hid⟩, fun ns name revision hrev => ?_⟩
    -- nobody can have acknowledged under a generated name
    have hnone : s.server.acks.lookup x.id = none := by
      by_contra hne
      obtain ⟨e, he, hsup⟩ := h.acked x.id hne
      exact hapart e he x.id hsup x (List.mem_of_getElem? hx) hr rfl
    rw [ForwarderServer.missingAcks, List.mem_filter, List.mem_dedup,
      AckRun.ackedRevision_none hnone]
    refine ⟨List.mem_map.mpr ⟨stream, (Table.mem_values_iff _ _).mpr ⟨call, hl⟩, hid⟩, ?_⟩
    exact decide_eq_true (by omega)

/-- Two legacy forwarders and one with an identity, which acknowledges. -/
def mixedForwarders : List RegistrationEvent :=
  [.streamID "", .streamID "f", .streamID "", .addStream 1, .addStream 2, .addStream 0,
    .removeStream 2, .ack ⟨"f", "a", "team", 1⟩]

theorem legacy_forwarders_block_mixed : ∃ s, runEvents step mixedForwarders initial = some s ∧
    registeredCalls mixedForwarders = [0, 1] ∧ s.server.missingAcks "team" "a" 1 = ["legacy-1"] ∧
    ∀ ns name revision, 1 ≤ revision → "legacy-1" ∈ s.server.missingAcks ns name revision := by
  have hrun : ∃ s, runEvents step mixedForwarders initial = some s ∧
      s.server.missingAcks "team" "a" 1 = ["legacy-1"] ∧
      s.calls = [⟨"", "legacy-1"⟩, ⟨"f", "f"⟩, ⟨"", "legacy-2"⟩] := ⟨_, rfl, rfl, rfl⟩
  obtain ⟨s, hrun, hmissing, hcalls⟩ := hrun
  have hapart : ∀ e ∈ mixedForwarders, ∀ id, e.supplied = some id →
      ∀ x ∈ s.calls, x.requested = "" → id ≠ x.id := by
    rw [hcalls]
    decide
  have hblock := (legacy_forwarders_block_ready mixedForwarders s hrun hapart (by decide)).2.2 0
    ⟨"", "legacy-1"⟩ (by decide) (by rw [hcalls]; rfl) rfl
  exact ⟨s, hrun, by decide, hmissing, hblock.2⟩

end Registrations
end TunnelOperator
