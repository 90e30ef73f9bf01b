import Mathlib.Data.List.Dedup
import TunnelOperator.EventRun
import TunnelOperator.ForwarderServer

/-!
# The acknowledgement table

The table keeps a maximum per forwarder and Tunnel and is pruned when the last stream of a
forwarder goes away. It is compared with a ledger that is read off the calls alone: which streams
were added and not removed, and which acknowledgements of a forwarder came since it last went from
no registered stream to one.
-/

namespace TunnelOperator
open Interaction

namespace ForwarderServer

variable {s : ForwarderServer} {ref : ℕ} {id id' : String}

theorem connectedLocked_iff :
    s.connectedLocked id = true ↔ ∃ ref stream, s.streams.lookup ref = some stream ∧
      stream.id = id := by
  simp only [connectedLocked, List.any_eq_true, decide_eq_true_eq, Table.mem_values_iff]
  constructor
  · rintro ⟨stream, ⟨ref, hl⟩, hid⟩
    exact ⟨ref, stream, hl, hid⟩
  · rintro ⟨ref, stream, hl, hid⟩
    exact ⟨stream, ⟨ref, hl⟩, hid⟩

/-- Removing a stream prunes the acknowledgements of its forwarder unless another stream of the
same forwarder is left. -/
theorem removeStream_acks (s : ForwarderServer) (ref : ℕ) (id id' : String) :
    (s.removeStream ref id).acks.lookup id' =
      if id' = id ∧ (s.removeStream ref id).connectedLocked id = false
        then none else s.acks.lookup id' := by
  have hconnected : (s.removeStream ref id).connectedLocked id =
      ({ s with streams := s.streams.erase ref } : ForwarderServer).connectedLocked id := by
    simp only [connectedLocked, removeStream_streams]
  rw [hconnected]
  unfold removeStream
  dsimp only
  by_cases hc : ({ s with streams := s.streams.erase ref } : ForwarderServer).connectedLocked id =
    true
  · rw [if_pos hc, if_neg]
    rintro ⟨-, hf⟩
    rw [hc] at hf
    cases hf
  · rw [if_neg hc, Table.lookup_erase_eq]
    simp [hc]

end ForwarderServer

def AckRequest.key (request : AckRequest) : String :=
  request.tunnelNamespace ++ "/" ++ request.tunnelName

def AckRequest.SlashFree (request : AckRequest) : Prop :=
  '/' ∉ request.tunnelNamespace.toList ∧ '/' ∉ request.tunnelName.toList

theorem AckRequest.key_eq {request : AckRequest} {ns name : String} (h : request.SlashFree)
    (hns : '/' ∉ ns.toList) :
    request.key = ns ++ "/" ++ name ↔ request.tunnelNamespace = ns ∧ request.tunnelName = name := by
  have hinj := @tunnelKey_inj ⟨request.tunnelNamespace, request.tunnelName, h.1⟩ ⟨ns, name, hns⟩
  rw [NamespacedName.mk.injEq] at hinj
  exact hinj

def AckRequest.Complete (request : AckRequest) : Prop :=
  request.forwarderId ≠ "" ∧ request.tunnelName ≠ "" ∧ request.tunnelNamespace ≠ ""

instance (request : AckRequest) : Decidable request.Complete :=
  inferInstanceAs (Decidable (_ ∧ _ ∧ _))

inductive AckEvent where
  | addStream (ref : ℕ) (id : String)
  | removeStream (ref : ℕ)
  | ack (request : AckRequest)

/-- What a sequence of calls means, without the server: the forwarder of every stream that was
added and not removed, and the acknowledgements accepted for a forwarder since it last went from
no registered stream to one. -/
structure Ledger where
  streams : Table ℕ String
  since : String → List AckRequest

namespace Ledger

def Registered (l : Ledger) (id : String) : Prop := id ∈ l.streams.values

instance (l : Ledger) (id : String) : Decidable (l.Registered id) :=
  inferInstanceAs (Decidable (id ∈ l.streams.values))

def note (l : Ledger) : AckEvent → Ledger
  | .addStream ref id =>
      { streams := l.streams.insert ref id
        since := fun i => if i = id ∧ ¬ l.Registered id then [] else l.since i }
  | .removeStream ref => { l with streams := l.streams.erase ref }
  | .ack request =>
      if request.Complete ∧ l.Registered request.forwarderId then
        { l with since := fun i => if i = request.forwarderId then l.since i ++ [request]
          else l.since i }
      else l

def empty : Ledger := ⟨∅, fun _ => []⟩

def of (events : List AckEvent) : Ledger := events.foldl note empty

theorem of_concat (events : List AckEvent) (e : AckEvent) :
    of (events ++ [e]) = (of events).note e := by
  rw [of, List.foldl_concat]
  rfl

theorem registered_iff {l : Ledger} {id : String} :
    l.Registered id ↔ ∃ ref, l.streams.lookup ref = some id :=
  Table.mem_values_iff _ _

theorem mem_since {events : List AckEvent} {id : String} {request : AckRequest}
    (h : request ∈ (of events).since id) : .ack request ∈ events := by
  induction events using List.reverseRecOn with
  | nil => cases h
  | append_singleton events e ih =>
      rw [of_concat] at h
      cases e with
      | addStream ref id' =>
          simp only [note] at h
          split_ifs at h
          · cases h
          · exact List.mem_append_left _ (ih h)
      | removeStream ref => exact List.mem_append_left _ (ih h)
      | ack r =>
          simp only [note] at h
          split_ifs at h
          · simp only at h
            split_ifs at h
            · rcases List.mem_append.mp h with h | h
              · exact List.mem_append_left _ (ih h)
              · simp [List.mem_singleton.mp h]
            · exact List.mem_append_left _ (ih h)
          · exact List.mem_append_left _ (ih h)

end Ledger

/-- A stream is the key of the source's map, so it is added once and removed with its own identity.
-/
structure AckRun where
  server : ForwarderServer
  ledger : Ledger

namespace AckRun

def initial : AckRun := ⟨.new, .empty⟩

def step (e : AckEvent) (s : AckRun) : Option AckRun :=
  match e with
  | .addStream ref id =>
      if s.ledger.streams.lookup ref = none then
        some ⟨s.server.addStream ref ⟨id, [], false⟩, s.ledger.note e⟩
      else none
  | .removeStream ref =>
      (s.ledger.streams.lookup ref).map fun id => ⟨s.server.removeStream ref id, s.ledger.note e⟩
  | .ack request => some ⟨(s.server.ack request).2, s.ledger.note e⟩

theorem step_ledger {e : AckEvent} {s s' : AckRun} (h : step e s = some s') :
    s'.ledger = s.ledger.note e := by
  cases e with
  | addStream ref id =>
      simp only [step] at h
      split_ifs at h
      cases h
      rfl
  | removeStream ref =>
      obtain ⟨id, -, rfl⟩ := Option.map_eq_some_iff.mp h
      rfl
  | ack request =>
      cases h
      rfl

theorem ledger_of_run {events : List AckEvent} {s : AckRun}
    (hrun : runEvents step events initial = some s) : s.ledger = .of events :=
  runEvents_history (P := fun events s => s.ledger = .of events)
    (fun events e s s' h hstep => by rw [step_ledger hstep, h, Ledger.of_concat]) rfl hrun

/-- The table entry of a forwarder and Tunnel is the largest revision of its acknowledgements. -/
structure Maximal (acks : List AckRequest) (key : String) (revision : Int) : Prop where
  bound : ∀ request ∈ acks, request.key = key → request.revision ≤ revision
  attained : revision = 0 ∨ ∃ request ∈ acks, request.key = key ∧ request.revision = revision

structure Sound (s : AckRun) : Prop where
  table : ∀ ref, s.ledger.streams.lookup ref = (s.server.streams.lookup ref).map (·.id)
  pruned : ∀ id, ¬ s.ledger.Registered id → s.server.acks.lookup id = none
  maximal : ∀ id, s.ledger.Registered id → ∀ key,
    Maximal (s.ledger.since id) key (s.server.ackedRevision id key)

theorem maximal_nil (key : String) : Maximal [] key 0 := ⟨by simp, Or.inl rfl⟩

theorem Maximal.concat {acks : List AckRequest} {key : String} {revision : Int}
    (h : Maximal acks key revision) (request : AckRequest) : Maximal (acks ++ [request]) key
      (if request.key = key ∧ revision < request.revision then request.revision else revision) := by
  constructor
  · intro r hr hkey
    rcases List.mem_append.mp hr with hr | hr
    · have hle := h.bound r hr hkey
      split_ifs <;> omega
    · rw [List.mem_singleton.mp hr] at hkey ⊢
      by_cases hlt : revision < request.revision
      · exact Int.le_of_eq (if_pos ⟨hkey, hlt⟩).symm
      · rw [if_neg fun hc => hlt hc.2]
        omega
  · split_ifs with hc
    · exact Or.inr ⟨request, by simp, hc.1, rfl⟩
    · cases h.attained with
      | inl hz => exact Or.inl hz
      | inr hr =>
          obtain ⟨r, hr, hkey, hrev⟩ := hr
          exact Or.inr ⟨r, List.mem_append_left _ hr, hkey, hrev⟩

section Step

variable {s s' : AckRun} {ref : ℕ} {id : String}

theorem ackedRevision_congr {s s' : ForwarderServer} (h : s'.acks.lookup id = s.acks.lookup id)
    (key : String) : s'.ackedRevision id key = s.ackedRevision id key := by
  rw [ForwarderServer.ackedRevision, ForwarderServer.ackedRevision, h]

theorem ackedRevision_none {server : ForwarderServer} (h : server.acks.lookup id = none)
    (key : String) :
    server.ackedRevision id key = 0 := by
  rw [ForwarderServer.ackedRevision, h]

theorem connectedLocked_eq_registered {server : ForwarderServer} {ledger : Ledger}
    (h : ∀ ref, ledger.streams.lookup ref = (server.streams.lookup ref).map (·.id)) :
    server.connectedLocked id = true ↔ ledger.Registered id := by
  simp only [ForwarderServer.connectedLocked_iff, Ledger.registered_iff, h, Option.map_eq_some_iff]

theorem Sound.connected (h : s.Sound) : s.server.connectedLocked id = true ↔
    s.ledger.Registered id :=
  connectedLocked_eq_registered h.table

theorem Sound.addStream (h : s.Sound) (hfresh : s.ledger.streams.lookup ref = none) :
    Sound ⟨s.server.addStream ref ⟨id, [], false⟩, s.ledger.note (.addStream ref id)⟩ := by
  have hregistered : ∀ i, (s.ledger.note (.addStream ref id)).Registered i ↔
      s.ledger.Registered i ∨ i = id := by
    intro i
    simp only [Ledger.registered_iff, Ledger.note, Table.lookup_insert_eq]
    constructor
    · rintro ⟨r, hr⟩
      split_ifs at hr
      · exact Or.inr (Option.some.inj hr).symm
      · exact Or.inl ⟨r, hr⟩
    · rintro (⟨r, hr⟩ | rfl)
      · have hne : r ≠ ref := by
          rintro rfl
          rw [hfresh] at hr
          cases hr
        exact ⟨r, by rw [if_neg hne, hr]⟩
      · exact ⟨ref, if_pos rfl⟩
  refine ⟨fun r => ?_, fun i hi => ?_, fun i hi key => ?_⟩
  · simp only [Ledger.note, ForwarderServer.addStream, Table.lookup_insert_eq]
    split_ifs
    · rfl
    · exact h.table r
  · exact h.pruned i fun hc => hi ((hregistered i).mpr (Or.inl hc))
  · change Maximal (if i = id ∧ ¬ s.ledger.Registered id then [] else s.ledger.since i) key
      (s.server.ackedRevision i key)
    split_ifs with hnew
    · rw [hnew.1, ackedRevision_none (h.pruned id hnew.2)]
      exact maximal_nil key
    · refine h.maximal i ?_ key
      rcases (hregistered i).mp hi with hold | rfl
      · exact hold
      · by_contra hc
        exact hnew ⟨rfl, hc⟩

theorem Sound.removeStream (h : s.Sound) (hl : s.ledger.streams.lookup ref = some id) :
    Sound ⟨s.server.removeStream ref id, s.ledger.note (.removeStream ref)⟩ := by
  have htable : ∀ r, (s.ledger.note (.removeStream ref)).streams.lookup r =
      ((s.server.removeStream ref id).streams.lookup r).map (·.id) := by
    intro r
    simp only [Ledger.note, ForwarderServer.removeStream_streams, Table.lookup_erase_eq]
    split_ifs
    · rfl
    · exact h.table r
  have hconnected : ∀ i, (s.server.removeStream ref id).connectedLocked i = true ↔
      (s.ledger.note (.removeStream ref)).Registered i :=
        fun i => connectedLocked_eq_registered htable
  have hacks := s.server.removeStream_acks ref id
  refine ⟨htable, fun i hi => ?_, fun i hi key => ?_⟩
  · rw [hacks]
    split_ifs with hpruned
    · rfl
    · refine h.pruned i fun hc => ?_
      obtain ⟨r, hr⟩ := Ledger.registered_iff.mp hc
      -- the stream that registers `i` is the removed one, so `i` is the pruned forwarder
      have hr' : r = ref := by
        by_contra hne
        refine hi (Ledger.registered_iff.mpr ⟨r, ?_⟩)
        rw [Ledger.note, Table.lookup_erase_eq, if_neg hne, hr]
      subst hr'
      obtain rfl : id = i := Option.some.inj (hl.symm.trans hr)
      exact hpruned ⟨rfl, by simpa using fun hc => hi ((hconnected id).mp hc)⟩
  · have hold : s.ledger.Registered i := by
      obtain ⟨r, hr⟩ := Ledger.registered_iff.mp hi
      rw [Ledger.note, Table.lookup_erase_eq] at hr
      split_ifs at hr
      exact Ledger.registered_iff.mpr ⟨r, hr⟩
    rw [ackedRevision_congr (s := s.server)]
    · exact h.maximal i hold key
    · rw [hacks, if_neg]
      rintro ⟨rfl, hf⟩
      rw [(hconnected i).mpr hi] at hf
      cases hf

theorem ack_error {server server' : ForwarderServer} {request : AckRequest} {err : String}
    (h : server.ack request = (.error err, server')) : server' = server := by
  unfold ForwarderServer.ack at h
  split_ifs at h <;> cases h
  · rfl
  · rfl

theorem ack_ok {server server' : ForwarderServer} {request : AckRequest}
    (h : server.ack request = (.ok (), server')) :
    server.connectedLocked request.forwarderId = true ∧ server'.streams = server.streams ∧
      (∀ id, id ≠ request.forwarderId → server'.acks.lookup id = server.acks.lookup id) ∧
      ∀ key, server'.ackedRevision request.forwarderId key =
        if request.key = key ∧ server.ackedRevision request.forwarderId key < request.revision
        then request.revision else server.ackedRevision request.forwarderId key := by
  unfold ForwarderServer.ack at h
  split_ifs at h with h₁ h₂ <;> cases h
  refine ⟨by simpa using h₂, rfl, fun id hid => ?_, fun key => ?_⟩
  · exact (Table.lookup_insert_eq _ _ _ _).trans (if_neg hid)
  · have hbefore : server.ackedRevision request.forwarderId key =
        (((server.acks.lookup request.forwarderId).getD ∅).lookup key).getD 0 := by
      unfold ForwarderServer.ackedRevision
      cases server.acks.lookup request.forwarderId with
      | none => rfl
      | some revisions => rfl
    rw [hbefore]
    generalize (server.acks.lookup request.forwarderId).getD ∅ = revisions
    simp only [ForwarderServer.ackedRevision, AList.lookup_insert]
    change ((if (revisions.lookup request.key).getD 0 < request.revision then
      revisions.insert request.key request.revision else revisions).lookup key).getD 0 = _
    by_cases hlt : (revisions.lookup request.key).getD 0 < request.revision
    · rw [if_pos hlt, Table.lookup_insert_eq]
      by_cases hk : key = request.key
      · subst hk
        rw [if_pos rfl, if_pos ⟨rfl, hlt⟩]
        rfl
      · rw [if_neg hk, if_neg fun hc => hk hc.1.symm]
    · rw [if_neg hlt, if_neg]
      rintro ⟨rfl, hlt'⟩
      exact hlt hlt'

theorem ack_ok_iff (server : ForwarderServer) (request : AckRequest) :
    (server.ack request).1 = .ok () ↔
      request.Complete ∧ server.connectedLocked request.forwarderId = true := by
  unfold ForwarderServer.ack AckRequest.Complete
  split_ifs with h₁ h₂
  · refine ⟨fun h => (by cases h), fun h => absurd h₁ ?_⟩
    rintro (h' | h' | h')
    · exact h.1.1 h'
    · exact h.1.2.1 h'
    · exact h.1.2.2 h'
  · refine ⟨fun h => (by cases h), fun h => ?_⟩
    rw [h₂] at h
    cases h.2
  · simp only [not_or] at h₁
    exact ⟨fun _ => ⟨h₁, by simpa using h₂⟩, fun _ => rfl⟩

theorem Sound.ack (h : s.Sound) (request : AckRequest) :
    Sound ⟨(s.server.ack request).2, s.ledger.note (.ack request)⟩ := by
  have hok := ack_ok_iff s.server request
  rw [h.connected] at hok
  cases hack : s.server.ack request with
  | mk answer server =>
      rw [hack] at hok
      cases answer with
      | error err =>
          have hrejected : s.ledger.note (.ack request) = s.ledger :=
            if_neg fun hc => (by cases hok.mpr hc)
          rw [hrejected, ack_error hack]
          exact h
      | ok =>
          obtain ⟨-, hstreams, hother, hown⟩ := ack_ok hack
          have haccepted : s.ledger.note (.ack request) = { s.ledger with
              since := fun i => if i = request.forwarderId then s.ledger.since i ++ [request]
                else s.ledger.since i } := if_pos (hok.mp rfl)
          rw [haccepted]
          refine ⟨fun r => ?_, fun i hi => ?_, fun i hi key => ?_⟩
          · rw [hstreams]
            exact h.table r
          · have hne : i ≠ request.forwarderId := by
              rintro rfl
              exact hi (hok.mp rfl).2
            rw [hother i hne]
            exact h.pruned i hi
          · change Maximal (if i = request.forwarderId then s.ledger.since i ++ [request]
              else s.ledger.since i) key (server.ackedRevision i key)
            split_ifs with hi'
            · rw [hi', hown]
              exact (h.maximal _ (hi' ▸ hi) key).concat request
            · rw [ackedRevision_congr (hother i hi')]
              exact h.maximal i hi key

theorem sound_step (e : AckEvent) (h : s.Sound) (hstep : step e s = some s') : s'.Sound := by
  cases e with
  | addStream ref id =>
      simp only [step] at hstep
      split_ifs at hstep with hfresh
      cases hstep
      exact h.addStream hfresh
  | removeStream ref =>
      obtain ⟨id, hl, rfl⟩ := Option.map_eq_some_iff.mp hstep
      exact h.removeStream hl
  | ack request =>
      cases hstep
      exact h.ack request

end Step

theorem sound_initial : initial.Sound where
  table := fun _ => rfl
  pruned := fun _ _ => rfl
  maximal := by
    intro id hid
    cases hid

theorem missingAcks_eq_nil {events : List AckEvent} {s : AckRun}
    (hrun : runEvents step events initial = some s) {ns name : String} {revision : Int}
    (hacked : ∀ id, (Ledger.of events).Registered id → ∃ request ∈ (Ledger.of events).since id,
      request.tunnelNamespace = ns ∧ request.tunnelName = name ∧ revision ≤ request.revision) :
    s.server.missingAcks ns name revision = [] := by
  have hsound : s.Sound :=
    runEvents_invariant (fun e _ _ h hstep => sound_step e h hstep) sound_initial hrun
  rw [← ledger_of_run hrun] at hacked
  refine List.filter_eq_nil_iff.mpr fun id hid => ?_
  obtain ⟨stream, hstream, rfl⟩ := List.mem_map.mp (List.mem_dedup.mp hid)
  have hregistered : s.ledger.Registered stream.id := by
    rw [← hsound.connected, ForwarderServer.connectedLocked, List.any_eq_true]
    exact ⟨stream, hstream, decide_eq_true rfl⟩
  obtain ⟨request, hr, rfl, rfl, hrevision⟩ := hacked stream.id hregistered
  have hle := (hsound.maximal stream.id hregistered request.key).bound request hr rfl
  rw [decide_eq_true_eq]
  exact Int.not_lt.mpr (Int.le_trans hrevision hle)

/-- `MissingAcks` reports exactly the forwarders with a registered stream and without an accepted
acknowledgement of the revision since they were last without one. The table has entries for
forwarders with a registered stream only, an acknowledgement is accepted if it is complete and comes
from such a forwarder, and a rejected one changes nothing. -/
theorem missingAcks_exact (events : List AckEvent) (s : AckRun)
    (hrun : runEvents step events initial = some s)
    (hslash : ∀ request, .ack request ∈ events → request.SlashFree) :
    (∀ ns name revision, '/' ∉ ns.toList → '/' ∉ name.toList → 1 ≤ revision →
      (s.server.missingAcks ns name revision).Nodup ∧
      ∀ id, id ∈ s.server.missingAcks ns name revision ↔
        (Ledger.of events).Registered id ∧ ∀ request ∈ (Ledger.of events).since id,
          request.tunnelNamespace = ns → request.tunnelName = name → request.revision < revision) ∧
    (∀ id, s.server.acks.lookup id ≠ none → (Ledger.of events).Registered id) ∧
    (∀ request, (s.server.ack request).1 = .ok () ↔
      request.Complete ∧ (Ledger.of events).Registered request.forwarderId) ∧
    ∀ request err server, s.server.ack request = (.error err, server) → server = s.server := by
  have hsound : s.Sound :=
    runEvents_invariant (fun e _ _ h hstep => sound_step e h hstep) sound_initial hrun
  have hledger := ledger_of_run hrun
  have hslash' : ∀ {id request}, request ∈ s.ledger.since id → request.SlashFree := by
    intro id request hr
    rw [hledger] at hr
    exact hslash request (Ledger.mem_since hr)
  rw [← hledger]
  refine ⟨fun ns name revision hns _ hrev => ⟨(List.nodup_dedup _).filter _, fun id => ?_⟩,
    fun id hid => ?_, fun request => ?_, fun request err server hack => ack_error hack⟩
  · have hmem : id ∈ (s.server.streams.values.map (·.id)).dedup ↔ s.ledger.Registered id := by
      rw [← hsound.connected]
      simp only [List.mem_dedup, List.mem_map, ForwarderServer.connectedLocked, List.any_eq_true,
        decide_eq_true_eq]
    rw [ForwarderServer.missingAcks, List.mem_filter, hmem, decide_eq_true_eq]
    constructor
    · rintro ⟨hregistered, hlt⟩
      refine ⟨hregistered, fun request hr hn hm => ?_⟩
      have hkey := (AckRequest.key_eq (hslash' hr) hns).mpr ⟨hn, hm⟩
      have hle := (hsound.maximal id hregistered (ns ++ "/" ++ name)).bound request hr hkey
      omega
    · rintro ⟨hregistered, hall⟩
      refine ⟨hregistered, ?_⟩
      cases (hsound.maximal id hregistered (ns ++ "/" ++ name)).attained with
      | inl hzero => omega
      | inr hmax =>
          obtain ⟨request, hr, hkey, hrevision⟩ := hmax
          obtain ⟨hn, hm⟩ := (AckRequest.key_eq (hslash' hr) hns).mp hkey
          have := hall request hr hn hm
          omega
  · by_contra hc
    exact hid (hsound.pruned id hc)
  · rw [ack_ok_iff, hsound.connected]

/-- A forwarder reconnects while its first stream is still registered, and acknowledges in
between; another one goes away after an acknowledgement and comes back. -/
def overlapping : List AckEvent :=
  [.addStream 0 "f", .ack ⟨"f", "a", "team", 3⟩, .addStream 1 "f", .removeStream 0,
    .ack ⟨"f", "a", "team", 2⟩, .addStream 2 "g", .ack ⟨"g", "a", "team", 3⟩, .removeStream 2,
    .addStream 3 "h", .removeStream 3, .addStream 4 "g", .ack ⟨"h", "a", "team", 3⟩]

theorem missingAcks_exact_overlapping : ∃ s, runEvents step overlapping initial = some s ∧
    s.server.missingAcks "team" "a" 3 = ["g"] ∧
    (∀ id, id ∈ s.server.missingAcks "team" "a" 3 ↔ (Ledger.of overlapping).Registered id ∧
      ∀ request ∈ (Ledger.of overlapping).since id, request.tunnelNamespace = "team" →
        request.tunnelName = "a" → request.revision < 3) ∧
    (Ledger.of overlapping).Registered "f" ∧ (Ledger.of overlapping).since "g" = [] ∧
    ¬ (Ledger.of overlapping).Registered "h" := by
  have hrun : ∃ s, runEvents step overlapping initial = some s ∧
      s.server.missingAcks "team" "a" 3 = ["g"] := ⟨_, rfl, rfl⟩
  obtain ⟨s, hrun, hmissing⟩ := hrun
  have hslash : ∀ request, .ack request ∈ overlapping → request.SlashFree := by
    intro request hr
    simp only [overlapping, List.mem_cons, reduceCtorEq, AckEvent.ack.injEq, List.not_mem_nil,
      or_false, false_or] at hr
    rcases hr with rfl | rfl | rfl | rfl <;> exact ⟨by decide, by decide⟩
  have hexact := (missingAcks_exact overlapping s hrun hslash).1 "team" "a" 3
    (by decide) (by decide) (by decide)
  exact ⟨s, hrun, hmissing, hexact.2, by decide, by decide, by decide⟩

end AckRun

end TunnelOperator
