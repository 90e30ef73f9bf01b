import TunnelOperator.SnapshotReconcile

/-!
# Acknowledgements are for what is installed

`applySnapshot` and `handleUpdate` of the forwarder with the acknowledgements they send.
`refuse` says which `Ack` calls fail and how; a failed call was sent all the same. Every
acknowledgement is recorded with the table at the moment it was sent.
-/

namespace TunnelOperator
open Interaction GoText

abbrev Refuse := ℕ → Option String

structure SentAck where
  request : AckRequest
  port : Int
  table : UDPProxy

/-- The result of a call: its error, the table it leaves and the acknowledgements it sent. -/
structure ForwarderResult where
  outcome : Except String Unit
  table : UDPProxy
  sent : List SentAck

/-- The loop of `applySnapshot` over the entries it acknowledges; `acks` numbers the next call. -/
def sendAcks (refuse : Refuse) (forwarderID : String) (p : UDPProxy) :
    (acks : ℕ) → List TunnelMapping → Except String Unit × List SentAck
  | _, [] => (.ok (), [])
  | acks, m :: mappings =>
      let sent : SentAck := ⟨ackRequest forwarderID m, m.forwarderPort, p⟩
      match refuse acks with
      | some err =>
          (.error ("ack mapping " ++ m.tunnelNamespace ++ "/" ++ m.tunnelName ++ " revision " ++
          itoa m.revision ++ ": " ++ err), [sent])
      | none =>
          let (outcome, rest) := sendAcks refuse forwarderID p (acks + 1) mappings
          (outcome, sent :: rest)

def applySnapshot (deny : Deny) (refuse : Refuse) (forwarderID : String)
    (snapshot : ForwarderConfig) (p : UDPProxy) : ForwarderResult :=
  match p.reconcileMappings deny snapshot.tunnels with
  | (.error err, p') => ⟨.error err, p', []⟩
  | (.ok (), p') =>
      let (outcome, sent) := sendAcks refuse forwarderID p' 0 (snapshotAcks snapshot)
      ⟨outcome, p', sent⟩

/-- `handleUpdate` with its acknowledgement. -/
def handleAndAck (deny : Deny) (refuse : Refuse) (forwarderID : String)
    (update : Option TunnelUpdate) (p : UDPProxy) : ForwarderResult :=
  match handleUpdate deny update p with
  | (.acking m, p') =>
      let sent : SentAck := ⟨ackRequest forwarderID m, m.forwarderPort, p'⟩
      match refuse 0 with
      | some err =>
          ⟨.error ("ack tunnel update for port " ++ itoa m.forwarderPort ++ ": " ++ err), p',
            [sent]⟩
      | none => ⟨.ok (), p', [sent]⟩
  | (.failed err, p') => ⟨.error err, p', []⟩
  | (.ignored, p') => ⟨.ok (), p', []⟩
  | (.removed, p') => ⟨.ok (), p', []⟩

/-- The port has a listener of the acknowledged Tunnel, at the acknowledged revision or later. -/
def SentAck.Installed (a : SentAck) : Prop :=
  ∃ l, a.table.mappings.lookup a.port = some l ∧ l.tunnelName = a.request.tunnelName ∧
    l.tunnelNamespace = a.request.tunnelNamespace ∧ a.request.revision ≤ l.revision

section Sent

variable {deny : Deny} {refuse : Refuse} {forwarderID : String} {p p' : UDPProxy}
  {m : TunnelMapping}

theorem UDPProxy.Serves.installed {before : Option PortListener} {l : PortListener}
    (h : UDPProxy.Serves m before l) (hl : p.mappings.lookup m.forwarderPort = some l) :
    SentAck.Installed ⟨ackRequest forwarderID m, m.forwarderPort, p⟩ := by
  obtain ⟨hsame, ⟨-, -, hrev⟩ | ⟨-, hlt⟩⟩ := h
  · exact ⟨l, hl, hsame.1, hsame.2, Int.le_of_eq hrev.symm⟩
  · exact ⟨l, hl, hsame.1, hsame.2, Int.le_of_lt hlt⟩

theorem mem_sendAcks {a : SentAck} {acks : ℕ} {mappings : List TunnelMapping}
    (h : a ∈ (sendAcks refuse forwarderID p acks mappings).2) :
    ∃ m ∈ mappings, a = ⟨ackRequest forwarderID m, m.forwarderPort, p⟩ := by
  induction mappings generalizing acks with
  | nil => cases h
  | cons m mappings ih =>
      simp only [sendAcks] at h
      cases hr : refuse acks with
      | some err =>
          simp only [hr, List.mem_singleton] at h
          exact ⟨m, List.mem_cons_self, h⟩
      | none =>
          simp only [hr] at h
          rcases List.mem_cons.mp h with rfl | h
          · exact ⟨m, List.mem_cons_self, rfl⟩
          · obtain ⟨m', hm', he⟩ := ih h
            exact ⟨m', List.mem_cons_of_mem _ hm', he⟩

/-- What `applySnapshot` acknowledges, `ReconcileMappings` has applied: the filter of the first is
the stricter one. -/
theorem valid_of_mem_snapshotAcks {snapshot : ForwarderConfig} (h : m ∈ snapshotAcks snapshot) :
    some m ∈ snapshot.tunnels ∧ m.Valid := by
  simp only [snapshotAcks, List.mem_filterMap] at h
  obtain ⟨mapping, hmem, hsome⟩ := h
  cases mapping with
  | none => cases hsome
  | some n =>
      simp only at hsome
      split_ifs at hsome with hskip
      cases hsome
      obtain ⟨hport, haddr⟩ := not_or.mp hskip
      refine ⟨hmem, by omega, fun he => haddr ?_⟩
      rw [he]
      rfl

theorem handleUpdate_acking {update : Option TunnelUpdate}
    (h : handleUpdate deny update p = (.acking m, p')) :
    (∃ u, update = some u ∧ u.Upserts m) ∧ p.applyMapping deny (some m) = (.ok (), p') := by
  have happly : ∀ {n : TunnelMapping} {err : String → String},
      (match p.applyMapping deny (some n) with
        | (.error e, q) => (Handled.failed (err e), q)
        | (.ok (), q) => (Handled.acking n, q)) = (.acking m, p') →
      n = m ∧ p.applyMapping deny (some m) = (.ok (), p') := by
    intro n err hn
    cases hap : p.applyMapping deny (some n) with
    | mk res q =>
        rw [hap] at hn
        cases res with
        | error e => cases hn
        | ok u =>
            cases hn
            exact ⟨rfl, hap⟩
  unfold handleUpdate at h
  split at h
  swap
  · cases h
  rename_i type n
  by_cases hport : n.forwarderPort ≤ 0
  · rw [if_pos hport] at h
    cases h
  rw [if_neg hport] at h
  by_cases haddr : trimSpace n.gatewayAddress = ""
  · simp only [if_pos haddr] at h
    cases type <;> cases h
  simp only [if_neg haddr] at h
  cases type with
  | added =>
      obtain ⟨rfl, hap⟩ := happly h
      exact ⟨⟨_, rfl, Or.inl rfl, rfl⟩, hap⟩
  | modified =>
      obtain ⟨rfl, hap⟩ := happly h
      exact ⟨⟨_, rfl, Or.inr rfl, rfl⟩, hap⟩
  | deleted => cases h
  | sync => cases h
  | unrecognized k => cases h

theorem applyMappings_error {before after : List (Option TunnelMapping)} {q : UDPProxy}
    {err : String} (hbefore : p.applyMappings deny before = (.ok (), q)) (hvalid : m.Valid)
    (hm : (q.applyMapping deny (some m)).1 = .error err) :
    ∃ err' p', p.applyMappings deny (before ++ some m :: after) = (.error err', p') := by
  induction before generalizing p with
  | nil =>
      cases hbefore
      have hnot : ¬(m.forwarderPort ≤ 0 ∨ m.gatewayAddress = "") :=
        not_or.mpr ⟨by have := hvalid.1; omega, hvalid.2⟩
      cases hap : q.applyMapping deny (some m) with
      | mk res q₁ =>
          rw [hap] at hm
          cases hm
          rw [List.nil_append, UDPProxy.applyMappings, if_neg hnot, hap]
          exact ⟨_, _, rfl⟩
  | cons mapping before ih =>
      cases mapping with
      | none => exact ih hbefore
      | some n =>
          rw [List.cons_append]
          simp only [UDPProxy.applyMappings] at hbefore ⊢
          by_cases hinv : n.forwarderPort ≤ 0 ∨ n.gatewayAddress = ""
          · rw [if_pos hinv] at hbefore ⊢
            exact ih hbefore
          · rw [if_neg hinv] at hbefore ⊢
            cases hap : p.applyMapping deny (some n) with
            | mk res q₁ =>
                rw [hap] at hbefore
                cases res with
                | error e => cases hbefore
                | ok u => exact ih hbefore

end Sent

/-- Every acknowledgement that `applySnapshot` or `handleUpdate` sends is for a listener in the
table at that moment, and a snapshot with an entry that fails to apply is not acknowledged at
all. -/
theorem acks_installed (deny : Deny) (refuse : Refuse) (forwarderID : String)
    (snapshot : ForwarderConfig) (update : Option TunnelUpdate) (p : UDPProxy)
    (hd : UDPProxy.PortsDistinct snapshot.tunnels) :
    (∀ a ∈ (applySnapshot deny refuse forwarderID snapshot p).sent, a.Installed) ∧
    (∀ a ∈ (handleAndAck deny refuse forwarderID update p).sent, a.Installed) ∧
    ∀ before m after q err, snapshot.tunnels = before ++ some m :: after → m.Valid →
      p.applyMappings deny before = (.ok (), q) → (q.applyMapping deny (some m)).1 = .error err →
      (applySnapshot deny refuse forwarderID snapshot p).sent = [] := by
  refine ⟨fun a ha => ?_, fun a ha => ?_, fun before m after q err hsplit hvalid hbefore hm => ?_⟩
  · unfold applySnapshot at ha
    cases hrec : p.reconcileMappings deny snapshot.tunnels with
    | mk res p' =>
        rw [hrec] at ha
        cases res with
        | error err => cases ha
        | ok u =>
            obtain ⟨m, hm, rfl⟩ := mem_sendAcks ha
            obtain ⟨hmem, hvalid⟩ := valid_of_mem_snapshotAcks hm
            obtain ⟨l, hl, hserves⟩ := (UDPProxy.reconcileMappings_ok hd hrec).1 m hmem hvalid
            exact hserves.installed hl
  · unfold handleAndAck at ha
    cases hup : handleUpdate deny update p with
    | mk handled p' =>
        rw [hup] at ha
        cases handled with
        | ignored => cases ha
        | removed => cases ha
        | failed err => cases ha
        | acking m =>
            obtain ⟨⟨l, hl, hserves⟩, -⟩ :=
              UDPProxy.addMapping_ok (UDPProxy.applyMapping_ok (handleUpdate_acking hup).2).2
            have hsent : a = ⟨ackRequest forwarderID m, m.forwarderPort, p'⟩ := by
              cases hr : refuse 0 with
              | none => simpa [hr] using ha
              | some err => simpa [hr] using ha
            rw [hsent]
            exact hserves.installed hl
  · obtain ⟨err', p', hap⟩ := applyMappings_error hbefore hvalid hm
    rw [← hsplit] at hap
    simp only [applySnapshot, UDPProxy.reconcileMappings, hap]

/-- A snapshot of two mappings, the second of which cannot be acknowledged. -/
theorem acks_installed_two :
    let snapshot : ForwarderConfig :=
      ⟨none, [some ⟨"a", "team", 51820, "10.0.0.1:51820", 1, "uid", "10.0.0.1", 0⟩,
      some ⟨"b", "team", 51821, " ", 1, "uid", "10.0.0.2", 1⟩,
      some ⟨"c", "team", 51822, "10.0.0.3:51820", 4, "uid", "10.0.0.3", 2⟩]⟩
    let result := applySnapshot UDPProxy.listenAll (fun n => if n = 1 then some "unavailable"
      else none) "f"
      snapshot .new
    result.sent.map (·.request) = [⟨"f", "a", "team", 1⟩, ⟨"f", "c", "team", 4⟩] ∧
      ∀ a ∈ result.sent, a.Installed := by
  intro snapshot result
  exact ⟨rfl, (acks_installed UDPProxy.listenAll (fun n => if n = 1 then some "unavailable"
    else none) "f"
    snapshot none .new (by decide)).1⟩

end TunnelOperator
