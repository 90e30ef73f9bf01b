import TunnelOperator.EventRun
import TunnelOperator.ForwarderServer

/-!
# Delivery on the update streams

`StreamUpdates` and `NotifyUpdate` in their lock-protected steps. A `NotifyUpdate` call holds
the read lock while it offers its update to one stream after the other, in any order; streams
are registered and removed under the write lock, and the receive steps of `StreamUpdates` take
no lock. A stream that cannot take an update has its `overflow` channel closed.
-/

namespace TunnelOperator
open Interaction

/-- Where a `StreamUpdates` call is: before SYNC is sent, in its loop, or about to return. -/
inductive SendPhase where
  | syncing
  | selecting
  | returning
  deriving DecidableEq

/-- A `StreamUpdates` call. `sent` is what it has passed to `Send` after SYNC and `once` its
`sync.Once`. `closes`, how often `overflow` was closed, and `since`, how many updates had been
notified before the stream was registered, are records. -/
structure StreamCall where
  phase : SendPhase
  sent : List TunnelUpdate
  once : Bool
  closes : ℕ
  since : ℕ
  deriving DecidableEq

namespace StreamCall

/-- `once.Do(func() { close(overflow) })` -/
def fire (c : StreamCall) : StreamCall :=
  if c.once then c else { c with once := true, closes := c.closes + 1 }

def sync (ok : Bool) (stream : ForwarderStream) (c : StreamCall) :
    Option (ForwarderStream × StreamCall) :=
  if c.phase = .syncing then
    some (stream, { c with phase := if ok then .selecting else .returning })
  else none

def receive (ok : Bool) (stream : ForwarderStream) (c : StreamCall) :
    Option (ForwarderStream × StreamCall) :=
  if c.phase = .selecting then
    match stream.updates with
    | [] => none
    | u :: updates => some ({ stream with updates := updates },
        { c with phase := if ok then .selecting else .returning, sent := c.sent ++ [u] })
  else none

/-- The loop ends: the context is done or `overflow` is closed. -/
def finish (stream : ForwarderStream) (c : StreamCall) : Option (ForwarderStream × StreamCall) :=
  if c.phase = .selecting then some (stream, { c with phase := .returning }) else none

/-- `NotifyUpdate` reaches the stream. -/
def offer (u : TunnelUpdate) (stream : ForwarderStream) (c : StreamCall) :
    Option (ForwarderStream × StreamCall) :=
  some (ForwarderServer.offer u stream,
    if stream.updates.length < ForwarderServer.updatesCapacity then c else c.fire)

end StreamCall

/-- `notifying` is the update of the running `NotifyUpdate` call with the streams it has still to
reach, `log` every update notified so far. -/
structure Broadcast where
  server : ForwarderServer
  calls : Table ℕ StreamCall
  notifying : Option (TunnelUpdate × List ℕ)
  log : List TunnelUpdate

inductive StreamEvent where
  | addStream (ref : ℕ) (id : String)
  | removeStream (ref : ℕ)
  | sync (ref : ℕ) (ok : Bool)
  | receive (ref : ℕ) (ok : Bool)
  | finish (ref : ℕ)
  | notify (update : Option TunnelUpdate)
  | offer (ref : ℕ)
  | notified

namespace Broadcast

def initial : Broadcast := ⟨.new, ∅, none, []⟩

def onStream (ref : ℕ)
    (f : ForwarderStream → StreamCall → Option (ForwarderStream × StreamCall)) (s : Broadcast) :
    Option Broadcast := do
  let stream ← s.server.streams.lookup ref
  let call ← s.calls.lookup ref
  let (stream', call') ← f stream call
  some { s with server := s.server.addStream ref stream', calls := s.calls.insert ref call' }

def addStream (ref : ℕ) (id : String) (s : Broadcast) : Option Broadcast :=
  if s.notifying = none ∧ s.calls.lookup ref = none then
    let (id, server) := s.server.streamID id
    some { s with
      server := server.addStream ref ⟨id, [], false⟩
      calls := s.calls.insert ref ⟨.syncing, [], false, 0, s.log.length⟩ }
  else none

def removeStream (ref : ℕ) (s : Broadcast) : Option Broadcast := do
  let stream ← s.server.streams.lookup ref
  let call ← s.calls.lookup ref
  if s.notifying = none ∧ call.phase = .returning then
    some { s with
      server := s.server.removeStream ref stream.id
      calls := s.calls.erase ref }
  else none

def notify (update : Option TunnelUpdate) (s : Broadcast) : Option Broadcast :=
  match s.notifying, update with
  | some _, _ => none
  | none, none => some s
  | none, some u =>
      some { s with notifying := some (u, s.server.streams.keys), log := s.log ++ [u] }

def offer (ref : ℕ) (s : Broadcast) : Option Broadcast :=
  match s.notifying with
  | none => none
  | some (u, refs) =>
      if ref ∈ refs then
        ({ s with notifying := some (u, refs.filter (· ≠ ref)) } : Broadcast).onStream ref
          (StreamCall.offer u)
      else none

def notified (s : Broadcast) : Option Broadcast :=
  match s.notifying with
  | some (_, []) => some { s with notifying := none }
  | _ => none

def step : StreamEvent → Broadcast → Option Broadcast
  | .addStream ref id => addStream ref id
  | .removeStream ref => removeStream ref
  | .sync ref ok => onStream ref (StreamCall.sync ok)
  | .receive ref ok => onStream ref (StreamCall.receive ok)
  | .finish ref => onStream ref StreamCall.finish
  | .notify update => notify update
  | .offer ref => offer ref
  | .notified => notified

/-- The update that the running `NotifyUpdate` call has still to offer to the stream. -/
def pending (s : Broadcast) (ref : ℕ) : Option TunnelUpdate :=
  match s.notifying with
  | some (u, refs) => if ref ∈ refs then some u else none
  | none => none

/-- The updates of the `NotifyUpdate` calls whose loop is past the stream. -/
def passed (s : Broadcast) (ref : ℕ) : List TunnelUpdate :=
  if s.pending ref = none then s.log else s.log.dropLast

end Broadcast

/-- A stream against the updates notified since it was registered. -/
structure Delivers (notified : List TunnelUpdate) (stream : ForwarderStream) (call : StreamCall) :
    Prop where
  sublist : (call.sent ++ stream.updates).Sublist notified
  whole : stream.overflow = false → call.sent ++ stream.updates = notified
  capacity : stream.updates.length ≤ ForwarderServer.updatesCapacity
  once : call.once = stream.overflow
  closes : call.closes = if stream.overflow then 1 else 0

section Delivers

variable {notified : List TunnelUpdate} {stream stream' : ForwarderStream} {call call' : StreamCall}

/-- A step of a `StreamUpdates` call: what is sent and queued together stays the same. -/
structure Moves (stream : ForwarderStream) (call : StreamCall) (stream' : ForwarderStream)
    (call' : StreamCall) : Prop where
  updates : call'.sent ++ stream'.updates = call.sent ++ stream.updates
  length : stream'.updates.length ≤ stream.updates.length
  overflow : stream'.overflow = stream.overflow
  once : call'.once = call.once
  closes : call'.closes = call.closes
  since : call'.since = call.since

theorem StreamCall.sync_moves {ok : Bool} (h : call.sync ok stream = some (stream', call')) :
    Moves stream call stream' call' := by
  unfold StreamCall.sync at h
  by_cases hp : call.phase = .syncing
  · rw [if_pos hp] at h
    cases h
    exact ⟨rfl, le_refl _, rfl, rfl, rfl, rfl⟩
  · rw [if_neg hp] at h
    cases h

theorem StreamCall.finish_moves (h : call.finish stream = some (stream', call')) :
    Moves stream call stream' call' := by
  unfold StreamCall.finish at h
  by_cases hp : call.phase = .selecting
  · rw [if_pos hp] at h
    cases h
    exact ⟨rfl, le_refl _, rfl, rfl, rfl, rfl⟩
  · rw [if_neg hp] at h
    cases h

theorem StreamCall.receive_moves {ok : Bool} (h : call.receive ok stream = some (stream', call')) :
    Moves stream call stream' call' := by
  unfold StreamCall.receive at h
  by_cases hp : call.phase = .selecting
  · rw [if_pos hp] at h
    cases hu : stream.updates with
    | nil =>
        rw [hu] at h
        cases h
    | cons u updates =>
        rw [hu] at h
        cases h
        refine ⟨?_, ?_, rfl, rfl, rfl, rfl⟩
        · simp [hu]
        · simp [hu]
  · rw [if_neg hp] at h
    cases h

theorem Delivers.moves (h : Delivers notified stream call) (hm : Moves stream call stream' call') :
    Delivers notified stream' call' := by
  refine ⟨?_, ?_, le_trans hm.length h.capacity, ?_, ?_⟩
  · rw [hm.updates]
    exact h.sublist
  · rw [hm.overflow, hm.updates]
    exact h.whole
  · rw [hm.once, hm.overflow]
    exact h.once
  · rw [hm.closes, hm.overflow]
    exact h.closes

/-- An update is appended to a queue with room. A full queue drops it and the stream overflows,
for the first time or again. -/
theorem Delivers.offer {u : TunnelUpdate} (h : Delivers notified stream call)
    (hf : call.offer u stream = some (stream', call')) :
    Delivers (notified ++ [u]) stream' call' ∧ call'.since = call.since := by
  unfold StreamCall.offer ForwarderServer.offer at hf
  by_cases hroom : stream.updates.length < ForwarderServer.updatesCapacity
  · rw [if_pos hroom, if_pos hroom] at hf
    cases hf
    refine ⟨⟨?_, fun ho => ?_, ?_, h.once, h.closes⟩, rfl⟩
    · rw [← List.append_assoc]
      exact h.sublist.append (List.Sublist.refl _)
    · rw [← List.append_assoc, h.whole ho]
    · rw [List.length_append]
      exact hroom
  · rw [if_neg hroom, if_neg hroom] at hf
    cases hf
    have hsub := h.sublist.trans (List.sublist_append_left notified [u])
    unfold StreamCall.fire
    by_cases hover : stream.overflow = true
    · rw [if_pos (h.once.trans hover)]
      exact ⟨⟨hsub, by simp, h.capacity, h.once.trans hover, by
        rw [h.closes, if_pos hover, if_pos rfl]⟩, rfl⟩
    · rw [if_neg (fun ho => hover (h.once.symm.trans ho))]
      exact ⟨⟨hsub, by simp, h.capacity, rfl, by simp [h.closes, hover]⟩, rfl⟩

end Delivers

namespace Broadcast

structure Sound (s : Broadcast) : Prop where
  registered : ∀ ref, s.calls.lookup ref = none ↔ s.server.streams.lookup ref = none
  delivers : ∀ ref stream call, s.server.streams.lookup ref = some stream →
    s.calls.lookup ref = some call → call.since ≤ (s.passed ref).length ∧
      Delivers ((s.passed ref).drop call.since) stream call
  notifying : ∀ u refs, s.notifying = some (u, refs) → s.log.getLast? = some u

section Step

variable {s s' : Broadcast} {ref : ℕ}
  {f : ForwarderStream → StreamCall → Option (ForwarderStream × StreamCall)}

theorem onStream_eq (h : s.onStream ref f = some s') :
    ∃ stream call stream' call', s.server.streams.lookup ref = some stream ∧
      s.calls.lookup ref = some call ∧ f stream call = some (stream', call') ∧
      s' = { s with
        server := s.server.addStream ref stream', calls := s.calls.insert ref call' } := by
  simp only [onStream, Option.bind_eq_bind, Option.bind_eq_some_iff, Option.some.injEq] at h
  obtain ⟨stream, hs, call, hc, ⟨stream', call'⟩, hf, he⟩ := h
  exact ⟨stream, call, stream', call', hs, hc, hf, he.symm⟩

theorem passed_none (h : s.notifying = none) (ref : ℕ) : s.passed ref = s.log := by
  simp [passed, pending, h]

theorem Sound.onStream (h : s.Sound)
    (hmoves : ∀ {stream call stream' call'}, f stream call = some (stream', call') →
      Moves stream call stream' call')
    (hstep : s.onStream ref f = some s') : s'.Sound := by
  obtain ⟨stream, call, stream', call', hs, hc, hf, rfl⟩ := onStream_eq hstep
  have hm := hmoves hf
  refine ⟨fun r => ?_, fun r st c hst hcall => ?_, h.notifying⟩
  · simp only [ForwarderServer.addStream, Table.lookup_insert_eq]
    by_cases hr : r = ref
    · simp [hr]
    · simp [hr, h.registered]
  · simp only [ForwarderServer.addStream, Table.lookup_insert_eq] at hst hcall
    by_cases hr : r = ref
    · rw [if_pos hr] at hst hcall
      cases hst
      cases hcall
      subst hr
      obtain ⟨hle, hd⟩ := h.delivers r stream call hs hc
      rw [hm.since]
      exact ⟨hle, hd.moves hm⟩
    · rw [if_neg hr] at hst hcall
      exact h.delivers r st c hst hcall

theorem Sound.addStream {id : String} (h : s.Sound) (hstep : s.addStream ref id = some s') :
    s'.Sound := by
  unfold Broadcast.addStream at hstep
  by_cases hg : s.notifying = none ∧ s.calls.lookup ref = none
  swap
  · rw [if_neg hg] at hstep
    cases hstep
  rw [if_pos hg] at hstep
  have hstreams := s.server.streamID_streams id
  generalize s.server.streamID id = registered at hstep hstreams
  cases hstep
  refine ⟨fun r => ?_, fun r st c hst hcall => ?_, by simp [hg.1]⟩
  · simp only [ForwarderServer.addStream, Table.lookup_insert_eq, hstreams]
    by_cases hr : r = ref
    · simp [hr]
    · simp [hr, h.registered]
  · simp only [ForwarderServer.addStream, Table.lookup_insert_eq, hstreams] at hst hcall
    by_cases hr : r = ref
    · rw [if_pos hr] at hst hcall
      cases hst
      cases hcall
      refine ⟨?_, ⟨?_, ?_, Nat.zero_le _, rfl, rfl⟩⟩
      · rw [passed_none]
        exact hg.1
      · simp [passed, pending, hg.1]
      · simp [passed, pending, hg.1]
    · rw [if_neg hr] at hst hcall
      exact h.delivers r st c hst hcall

theorem Sound.removeStream (h : s.Sound) (hstep : s.removeStream ref = some s') : s'.Sound := by
  simp only [Broadcast.removeStream, Option.bind_eq_bind, Option.bind_eq_some_iff] at hstep
  obtain ⟨stream, hs, call, hc, hstep⟩ := hstep
  split_ifs at hstep with hg
  cases hstep
  have hstreams := s.server.removeStream_streams ref stream.id
  refine ⟨fun r => ?_, fun r st c hst hcall => ?_, h.notifying⟩
  · simp only [hstreams, Table.lookup_erase_eq]
    by_cases hr : r = ref
    · simp [hr]
    · simp [hr, h.registered]
  · simp only [hstreams, Table.lookup_erase_eq] at hst hcall
    split_ifs at hst hcall
    exact h.delivers r st c hst hcall

theorem Sound.notify {update : Option TunnelUpdate} (h : s.Sound)
    (hstep : s.notify update = some s') : s'.Sound := by
  unfold Broadcast.notify at hstep
  cases hn : s.notifying with
  | some n =>
      rw [hn] at hstep
      cases hstep
  | none =>
      rw [hn] at hstep
      cases update with
      | none =>
          cases hstep
          exact h
      | some u =>
          cases hstep
          refine ⟨h.registered, fun r st c hst hcall => ?_, ?_⟩
          · have hmem : r ∈ s.server.streams.keys := (Table.mem_keys_iff _ _).mpr ⟨st, hst⟩
            have hd := h.delivers r st c hst hcall
            rw [passed_none hn] at hd
            simpa [passed, pending, hmem] using hd
          · intro v refs hv
            cases hv
            simp

theorem Sound.offer (h : s.Sound) (hstep : s.offer ref = some s') : s'.Sound := by
  unfold Broadcast.offer at hstep
  cases hn : s.notifying with
  | none =>
      rw [hn] at hstep
      cases hstep
  | some n =>
      obtain ⟨u, refs⟩ := n
      rw [hn] at hstep
      simp only at hstep
      by_cases hmem : ref ∈ refs
      swap
      · rw [if_neg hmem] at hstep
        cases hstep
      rw [if_pos hmem] at hstep
      obtain ⟨stream, call, stream', call', hs, hc, hf, rfl⟩ := onStream_eq hstep
      have hlast := h.notifying u refs hn
      refine ⟨fun r => ?_, fun r st c hst hcall => ?_, ?_⟩
      · simp only [ForwarderServer.addStream, Table.lookup_insert_eq]
        by_cases hr : r = ref
        · simp [hr]
        · simp [hr, h.registered]
      · simp only [ForwarderServer.addStream, Table.lookup_insert_eq] at hst hcall
        by_cases hr : r = ref
        · rw [if_pos hr] at hst hcall
          cases hst
          cases hcall
          subst hr
          obtain ⟨hle, hd⟩ := h.delivers r stream call hs hc
          have hbefore : s.passed r = s.log.dropLast := by simp [passed, pending, hn, hmem]
          obtain ⟨hd', hsince⟩ := hd.offer hf
          have hlog : s.log = s.log.dropLast ++ [u] := by
            rw [List.dropLast_append_getLast? u hlast]
          have hafter : passed { s with
              server := s.server.addStream r stream'
              calls := s.calls.insert r call'
              notifying := some (u, refs.filter (· ≠ r)) } r = s.passed r ++ [u] := by
            rw [hbefore, ← hlog]
            simp [passed, pending]
          rw [hafter, hsince]
          refine ⟨le_trans hle (by simp), ?_⟩
          rw [List.drop_append_of_le_length hle]
          exact hd'
        · rw [if_neg hr] at hst hcall
          have hd := h.delivers r st c hst hcall
          simpa [passed, pending, hn, hr] using hd
      · intro v refs' hv
        cases hv
        exact hlast

theorem Sound.notified (h : s.Sound) (hstep : s.notified = some s') : s'.Sound := by
  unfold Broadcast.notified at hstep
  split at hstep
  swap
  · cases hstep
  · rename_i u hn
    cases hstep
    refine ⟨h.registered, fun r st c hst hcall => ?_, by simp⟩
    have hd := h.delivers r st c hst hcall
    simpa [passed, pending, hn] using hd

theorem sound_step (e : StreamEvent) (h : s.Sound) (hstep : step e s = some s') : s'.Sound := by
  cases e with
  | addStream ref id => exact h.addStream hstep
  | removeStream ref => exact h.removeStream hstep
  | sync ref ok => exact h.onStream StreamCall.sync_moves hstep
  | receive ref ok => exact h.onStream StreamCall.receive_moves hstep
  | finish ref => exact h.onStream StreamCall.finish_moves hstep
  | notify update => exact h.notify hstep
  | offer ref => exact h.offer hstep
  | notified => exact h.notified hstep

end Step

theorem sound_initial : initial.Sound where
  registered := fun _ => ⟨fun _ => rfl, fun _ => rfl⟩
  delivers := by
    intro ref stream call hs
    cases hs
  notifying := by
    intro u refs hn
    cases hn

/-- The events that are about the stream or about all streams. -/
def concerns (ref : ℕ) : StreamEvent → Bool
  | .addStream r _ => r = ref
  | .removeStream r => r = ref
  | .sync r _ => r = ref
  | .receive r _ => r = ref
  | .finish r => r = ref
  | .offer r => r = ref
  | .notify _ => true
  | .notified => false

/-- What a run leaves of one stream. The identity is left out, since those of legacy forwarders
are numbered over all streams. -/
def view (ref : ℕ) (s : Broadcast) :
    List TunnelUpdate × Option TunnelUpdate × Option (List TunnelUpdate × Bool) ×
      Option StreamCall :=
  (s.log, s.pending ref, (s.server.streams.lookup ref).map fun stream =>
    (stream.updates, stream.overflow), s.calls.lookup ref)

section View

variable {s s' s₁ s₂ s₁' s₂' : Broadcast} {ref r : ℕ}
  {f : ForwarderStream → StreamCall → Option (ForwarderStream × StreamCall)}

theorem onStream_frame (hr : r ≠ ref) (h : s.onStream r f = some s') :
    s'.view ref = s.view ref := by
  obtain ⟨stream, call, stream', call', hs, hc, hf, rfl⟩ := onStream_eq h
  simp [view, pending, ForwarderServer.addStream, hr.symm]

theorem step_frame (ref : ℕ) (e : StreamEvent) (s s' : Broadcast) (hc : concerns ref e = false)
    (h : step e s = some s') : s'.view ref = s.view ref := by
  cases e with
  | addStream r id =>
      have hr : r ≠ ref := by simpa [concerns] using hc
      simp only [step, addStream] at h
      split_ifs at h
      have hstreams := s.server.streamID_streams id
      generalize s.server.streamID id = registered at h hstreams
      cases h
      simp [view, pending, ForwarderServer.addStream, hr.symm, hstreams]
  | removeStream r =>
      have hr : r ≠ ref := by simpa [concerns] using hc
      simp only [step, removeStream, Option.bind_eq_bind, Option.bind_eq_some_iff] at h
      obtain ⟨stream, hs, call, hcall, h⟩ := h
      split_ifs at h
      cases h
      simp [view, pending, ForwarderServer.removeStream_streams, hr.symm]
  | sync r ok => exact onStream_frame (by simpa [concerns] using hc) h
  | receive r ok => exact onStream_frame (by simpa [concerns] using hc) h
  | finish r => exact onStream_frame (by simpa [concerns] using hc) h
  | notify update => cases hc
  | offer r =>
      have hr : r ≠ ref := by simpa [concerns] using hc
      simp only [step, offer] at h
      split at h
      · cases h
      · rename_i u refs hn
        split_ifs at h
        rw [onStream_frame hr h]
        simp [view, pending, hn, hr.symm]
  | notified =>
      simp only [step, notified] at h
      split at h
      · rename_i u hn
        cases h
        simp [view, pending, hn]
      · cases h

def Anonymous (f : ForwarderStream → StreamCall → Option (ForwarderStream × StreamCall)) : Prop :=
  ∀ stream id call, f { stream with id := id } call =
    (f stream call).map fun next => ({ next.1 with id := id }, next.2)

theorem anonymous_sync (ok : Bool) : Anonymous fun stream call => call.sync ok stream := by
  intro stream id call
  unfold StreamCall.sync
  by_cases hp : call.phase = .syncing
  · simp only [if_pos hp, Option.map_some]
  · simp only [if_neg hp, Option.map_none]

theorem anonymous_finish : Anonymous fun stream call => call.finish stream := by
  intro stream id call
  unfold StreamCall.finish
  by_cases hp : call.phase = .selecting
  · simp only [if_pos hp, Option.map_some]
  · simp only [if_neg hp, Option.map_none]

theorem anonymous_receive (ok : Bool) : Anonymous fun stream call => call.receive ok stream := by
  intro stream id call
  unfold StreamCall.receive
  by_cases hp : call.phase = .selecting
  · cases hu : stream.updates with
    | nil => simp only [if_pos hp, hu, Option.map_none]
    | cons u updates => simp only [if_pos hp, hu, Option.map_some]
  · simp only [if_neg hp, Option.map_none]

theorem anonymous_offer (u : TunnelUpdate) : Anonymous fun stream call => call.offer u stream := by
  intro stream id call
  simp only [StreamCall.offer, ForwarderServer.offer]
  split_ifs
  · rfl
  · rfl

theorem onStream_view (hf : Anonymous f) (hview : s₁.view ref = s₂.view ref)
    (h₁ : s₁.onStream ref f = some s₁') (h₂ : s₂.onStream ref f = some s₂') :
    s₁'.view ref = s₂'.view ref := by
  obtain ⟨stream₁, call₁, stream₁', call₁', hs₁, hc₁, hf₁, rfl⟩ := onStream_eq h₁
  obtain ⟨stream₂, call₂, stream₂', call₂', hs₂, hc₂, hf₂, rfl⟩ := onStream_eq h₂
  simp only [view, pending, hs₁, hs₂, hc₁, hc₂, Option.map_some, Prod.mk.injEq,
    Option.some.injEq] at hview
  obtain ⟨hlog, hpending, ⟨hupdates, hoverflow⟩, rfl⟩ := hview
  have hsame : stream₂ = { stream₁ with id := stream₂.id } := by
    cases stream₁
    cases stream₂
    simp_all
  rw [hsame, hf, hf₁] at hf₂
  cases hf₂
  simp only [view, pending, hlog, hpending, ForwarderServer.addStream, AList.lookup_insert,
    Option.map_some]

theorem addStream_view {id : String} (hview : s₁.view ref = s₂.view ref)
    (h₁ : s₁.addStream ref id = some s₁') (h₂ : s₂.addStream ref id = some s₂') :
    s₁'.view ref = s₂'.view ref := by
  simp only [addStream] at h₁ h₂
  split_ifs at h₁ with hg₁
  split_ifs at h₂ with hg₂
  cases h₁
  cases h₂
  have hlog : s₁.log = s₂.log := congrArg Prod.fst hview
  simp [view, pending, hg₁.1, hg₂.1, hlog, ForwarderServer.addStream]

theorem removeStream_view (hview : s₁.view ref = s₂.view ref)
    (h₁ : s₁.removeStream ref = some s₁') (h₂ : s₂.removeStream ref = some s₂') :
    s₁'.view ref = s₂'.view ref := by
  simp only [removeStream, Option.bind_eq_bind, Option.bind_eq_some_iff] at h₁ h₂
  obtain ⟨stream₁, hs₁, call₁, hcall₁, h₁⟩ := h₁
  obtain ⟨stream₂, hs₂, call₂, hcall₂, h₂⟩ := h₂
  split_ifs at h₁ with hg₁
  split_ifs at h₂ with hg₂
  cases h₁
  cases h₂
  have hlog : s₁.log = s₂.log := congrArg Prod.fst hview
  simp [view, pending, hg₁.1, hg₂.1, hlog, ForwarderServer.removeStream_streams]

theorem notify_view {update : Option TunnelUpdate} (hview : s₁.view ref = s₂.view ref)
    (h₁ : s₁.notify update = some s₁') (h₂ : s₂.notify update = some s₂') :
    s₁'.view ref = s₂'.view ref := by
  simp only [notify] at h₁ h₂
  cases hn₁ : s₁.notifying with
  | some n => simp [hn₁] at h₁
  | none =>
      cases hn₂ : s₂.notifying with
      | some n => simp [hn₂] at h₂
      | none =>
          cases update with
          | none =>
              simp only [hn₁, hn₂, Option.some.injEq] at h₁ h₂
              rw [← h₁, ← h₂, hview]
          | some u =>
              simp only [hn₁, hn₂, Option.some.injEq] at h₁ h₂
              subst h₁
              subst h₂
              simp only [view, Prod.mk.injEq] at hview
              obtain ⟨hlog, -, hstream, hcall⟩ := hview
              -- the update is pending for the streams that are registered
              have hkeys : ref ∈ s₁.server.streams.keys ↔ ref ∈ s₂.server.streams.keys := by
                have := congrArg Option.isSome hstream
                simp only [Option.isSome_map] at this
                simp only [Table.mem_keys_iff, ← Option.isSome_iff_exists, this]
              simp only [view, pending, hlog, hstream, hcall, hkeys]

theorem offer_view (hview : s₁.view ref = s₂.view ref) (h₁ : s₁.offer ref = some s₁')
    (h₂ : s₂.offer ref = some s₂') : s₁'.view ref = s₂'.view ref := by
  simp only [offer] at h₁ h₂
  split at h₁
  · cases h₁
  split at h₂
  · cases h₂
  rename_i u₁ refs₁ hn₁ _ u₂ refs₂ hn₂
  split_ifs at h₁ with hm₁
  split_ifs at h₂ with hm₂
  have hu : u₁ = u₂ := by
    have := congrArg (fun v => v.2.1) hview
    simpa [view, pending, hn₁, hn₂, hm₁, hm₂] using this
  subst hu
  refine onStream_view (anonymous_offer u₁) ?_ h₁ h₂
  simp only [view, Prod.mk.injEq] at hview
  simp [view, pending, hview]

theorem step_view (ref : ℕ) (e : StreamEvent) (s₁ s₂ s₁' s₂' : Broadcast)
    (hc : concerns ref e = true) (hview : s₁.view ref = s₂.view ref) (h₁ : step e s₁ = some s₁')
    (h₂ : step e s₂ = some s₂') :
    s₁'.view ref = s₂'.view ref := by
  cases e with
  | addStream r id =>
      obtain rfl : r = ref := of_decide_eq_true hc
      exact addStream_view hview h₁ h₂
  | removeStream r =>
      obtain rfl : r = ref := of_decide_eq_true hc
      exact removeStream_view hview h₁ h₂
  | sync r ok =>
      obtain rfl : r = ref := of_decide_eq_true hc
      exact onStream_view (anonymous_sync ok) hview h₁ h₂
  | receive r ok =>
      obtain rfl : r = ref := of_decide_eq_true hc
      exact onStream_view (anonymous_receive ok) hview h₁ h₂
  | finish r =>
      obtain rfl : r = ref := of_decide_eq_true hc
      exact onStream_view anonymous_finish hview h₁ h₂
  | notify update => exact notify_view hview h₁ h₂
  | offer r =>
      obtain rfl : r = ref := of_decide_eq_true hc
      exact offer_view hview h₁ h₂
  | notified => cases hc

end View

/-- What a registered stream has sent and queued are updates notified since it was registered, in
order and without repetition: all of them unless its overflow channel has been closed. That happens
at most once, and then its `sync.Once` has fired. Nothing of it depends on other streams. -/
theorem stream_delivery (events : List StreamEvent) (s : Broadcast) (ref : ℕ)
    (stream : ForwarderStream) (call : StreamCall) (hrun : runEvents step events initial = some s)
    (hs : s.server.streams.lookup ref = some stream) (hc : s.calls.lookup ref = some call) :
    (call.sent ++ stream.updates).Sublist ((s.passed ref).drop call.since) ∧
      (stream.overflow = false → call.sent ++ stream.updates = (s.passed ref).drop call.since) ∧
      stream.updates.length ≤ 64 ∧ call.closes ≤ 1 ∧
      call.once = stream.overflow ∧ call.closes = (if stream.overflow then 1 else 0) ∧
      ∀ events' s', runEvents step events' initial = some s' →
        events'.filter (concerns ref) = events.filter (concerns ref) →
        s'.calls.lookup ref = some call ∧ ∃ stream', s'.server.streams.lookup ref = some stream' ∧
          stream'.updates = stream.updates ∧ stream'.overflow = stream.overflow := by
  have hsound : s.Sound :=
    runEvents_invariant (fun e _ _ h hstep => sound_step e h hstep) sound_initial hrun
  have hd := (hsound.delivers ref stream call hs hc).2
  refine ⟨hd.sublist, hd.whole, hd.capacity, ?_, hd.once, hd.closes, ?_⟩
  · rw [hd.closes]
    split_ifs
    · exact le_refl _
    · exact Nat.zero_le _
  · intro events' s' hrun' hsame
    have hview : s'.view ref = s.view ref :=
      runEvents_view (step_frame ref) (step_view ref) rfl hsame hrun' hrun
    simp only [view, hs, hc, Option.map_some, Prod.mk.injEq] at hview
    obtain ⟨-, -, hstream, hcall⟩ := hview
    obtain ⟨stream', hs', he⟩ := Option.map_eq_some_iff.mp hstream
    simp only [Prod.mk.injEq] at he
    exact ⟨hcall, stream', hs', he⟩

/-- A second stream registers while updates flow on the first, and never reads. -/
def twoStreams : List StreamEvent :=
  let m : TunnelMapping := ⟨"a", "team", 51820, "10.0.0.1:51820", 1, "uid", "10.0.0.1", 0⟩
  [.addStream 0 "f", .sync 0 true, .notify (some ⟨.added, some m⟩), .offer 0, .notified,
    .addStream 1 "", .notify none, .receive 0 true] ++
    (List.replicate 65 [.notify (some ⟨.modified, some m⟩), .offer 1, .offer 0, .notified,
      .receive 0 true]).flatten

theorem stream_delivery_two_streams : ∃ s stream call stream' call',
    runEvents step twoStreams initial = some s ∧
    s.server.streams.lookup 0 = some stream ∧ s.calls.lookup 0 = some call ∧
    call.sent.length = 66 ∧ call.sent ++ stream.updates = s.log ∧
    s.server.streams.lookup 1 = some stream' ∧ s.calls.lookup 1 = some call' ∧
    stream'.updates.length = 64 ∧ call'.closes = 1 := by
  have hrun : (runEvents step twoStreams initial).any (fun s =>
      (s.server.streams.lookup 0).map (·.overflow) = some false ∧
      (s.calls.lookup 0).map (fun call => (call.sent.length, call.since)) = some (66, 0) ∧
      s.passed 0 = s.log ∧
      (s.server.streams.lookup 1).map (fun stream => (stream.updates.length, stream.overflow)) =
        some (64, true) ∧
      (s.calls.lookup 1).isSome) = true := by decide +kernel
  obtain ⟨s, hrun, hs⟩ := (Option.any_eq_true ..).mp hrun
  obtain ⟨h0, hc0, hpassed, h1, hc1⟩ := of_decide_eq_true hs
  obtain ⟨stream, hstream, hover⟩ := Option.map_eq_some_iff.mp h0
  obtain ⟨call, hcall, hsent⟩ := Option.map_eq_some_iff.mp hc0
  obtain ⟨stream', hstream', hfull⟩ := Option.map_eq_some_iff.mp h1
  obtain ⟨call', hcall'⟩ := Option.isSome_iff_exists.mp hc1
  simp only [Prod.mk.injEq] at hsent hfull
  have hwhole := (stream_delivery twoStreams s 0 stream call hrun hstream hcall).2.1 hover
  have hclosed := (stream_delivery twoStreams s 1 stream' call' hrun hstream' hcall').2.2.2.2.2.1
  rw [hsent.2, hpassed, List.drop_zero] at hwhole
  rw [hfull.2] at hclosed
  exact ⟨s, stream, call, stream', call', hrun, hstream, hcall, hsent.1, hwhole, hstream', hcall',
    hfull.1, hclosed⟩

end Broadcast

end TunnelOperator
