import TunnelOperator.ForwarderProcess

/-!
# The order of a forwarder's calls

What `WatchUpdates` may call next, by the calls it has made. A pass begins with a stream and is
described by its calls since then: the stream's SYNC, the configuration, the proxy's answer and one
acknowledgement for each entry come before the forwarder reports ready, and single updates only
after that. The time it waits after an error is a function of the waits since it last reported
ready.
-/

namespace TunnelOperator
namespace ForwarderProcess
open Interaction GoText

abbrev History := List (Call ProcessOp.Ans)

def current (tr : History) : History :=
  tr.foldl (fun calls c => match c.op with
    | .streamUpdates _ => [c]
    | _ => calls ++ [c]) []

/-- How often the forwarder has waited since it last reported ready. -/
def waits (tr : History) : ℕ :=
  tr.foldl (fun n c => match c.op with
    | .after _ => n + 1
    | .setReady _ => 0
    | _ => n) 0

def fetchedCalls (id : String) (ref : ℕ) (u : TunnelUpdate) (config : ForwarderConfig) : History :=
  [⟨.streamUpdates id, .ok ref⟩, ⟨.recv ref, .ok u⟩, ⟨.fetchConfig none, .ok config⟩]

/-- The calls of a pass whose configuration the proxy has taken over and whose first entries have
been acknowledged. -/
def ackedCalls (id : String) (ref : ℕ) (u : TunnelUpdate) (config : ForwarderConfig)
    (acked : List TunnelMapping) : History :=
  fetchedCalls id ref u config ++ ⟨.reconcileMappings config.tunnels, .ok ()⟩ ::
    acked.map fun m => ⟨.ack (ackRequest id m), .ok ()⟩

def Streaming (id : String) (tr : History) (ref : ℕ) : Prop :=
  ∃ u config rest, u.type = .sync ∧
    current tr = ackedCalls id ref u config (snapshotAcks config) ++ ⟨.setReady true, ()⟩ :: rest

def Handshake (id : String) (tr : History) : ProcessOp → Prop
  | .streamUpdates forwarderID => forwarderID = id
  | .recv ref => current tr = [⟨.streamUpdates id, .ok ref⟩] ∨ Streaming id tr ref
  | .fetchConfig timeout => timeout = none ∧ ∃ ref u, u.type = .sync ∧
      current tr = [⟨.streamUpdates id, .ok ref⟩, ⟨.recv ref, .ok u⟩]
  | .reconcileMappings mappings => ∃ ref u config, u.type = .sync ∧
      current tr = fetchedCalls id ref u config ∧ mappings = config.tunnels
  | .setReady ready => ready = true ∧ ∃ ref u config, u.type = .sync ∧
      current tr = ackedCalls id ref u config (snapshotAcks config)
  | .ack request =>
      (∃ ref u config acked m left, u.type = .sync ∧ snapshotAcks config = acked ++ m :: left ∧
        current tr = ackedCalls id ref u config acked ∧ request = ackRequest id m) ∨
      ∃ ref m, Streaming id tr ref ∧ tr.getLast? = some ⟨.applyMapping m, .ok ()⟩ ∧
        request = ackRequest id m
  | .applyMapping m =>
      ∃ ref u, Streaming id tr ref ∧ tr.getLast? = some ⟨.recv ref, .ok u⟩ ∧ u.Upserts m
  | .removeMapping port => ∃ ref u m, Streaming id tr ref ∧ tr.getLast? = some ⟨.recv ref, .ok u⟩ ∧
      u.Deletes m ∧ port = m.forwarderPort
  | .ctxErr => True
  | .after _ => True
  | .log _ => True
  | .connect _ => False
  | .closeClient => False
  | .setVIP _ => False

/-- The waiting time after `n` waits in a row. -/
def backoffAfter (n : ℕ) : ℕ := min (2 ^ n) 32

def Paced (tr : History) : ProcessOp → Prop
  | .after seconds => seconds = backoffAfter (waits tr)
  | _ => True

/-- Both conditions, so that the program is gone through once. -/
def Expected (id : String) (tr : History) (op : ProcessOp) : Prop :=
  Handshake id tr op ∧ Paced tr op

theorem backoffAfter_succ (n : ℕ) :
    backoffAfter (n + 1) = if backoffAfter n < 30 then backoffAfter n * 2 else backoffAfter n := by
  unfold backoffAfter
  have h : n < 5 ∨ 5 ≤ n := by omega
  rcases h with h | h
  · have hn : n = 0 ∨ n = 1 ∨ n = 2 ∨ n = 3 ∨ n = 4 := by omega
    rcases hn with rfl | rfl | rfl | rfl | rfl <;> rfl
  · have hpow : 2 ^ 5 ≤ 2 ^ n := Nat.pow_le_pow_right (by decide) h
    rw [Nat.pow_succ, if_neg (by omega)]
    omega

section Snoc

variable {tr : History} {id : String} {ref : ℕ}

theorem current_concat (tr : History) (c : Call ProcessOp.Ans) :
    current (tr ++ [c]) = match c.op with
      | .streamUpdates _ => [c]
      | _ => current tr ++ [c] := by
  simp only [current, List.foldl_append, List.foldl_cons, List.foldl_nil]

theorem waits_concat (tr : History) (c : Call ProcessOp.Ans) :
    waits (tr ++ [c]) = match c.op with
      | .after _ => waits tr + 1
      | .setReady _ => 0
      | _ => waits tr := by
  simp only [waits, List.foldl_append, List.foldl_cons, List.foldl_nil]

theorem Streaming.concat (h : Streaming id tr ref) {c : Call ProcessOp.Ans}
    (hc : ∀ forwarderID, c.op ≠ .streamUpdates forwarderID) : Streaming id (tr ++ [c]) ref := by
  obtain ⟨u, config, rest, hu, hcur⟩ := h
  refine ⟨u, config, rest ++ [c], hu, ?_⟩
  have hcont : current (tr ++ [c]) = current tr ++ [c] := by
    rw [current_concat]
    split
    · next forwarderID hop => exact absurd hop (hc forwarderID)
    · rfl
  rw [hcont, hcur, List.append_assoc, List.cons_append]

end Snoc

section Walk

-- Goals about the programs are reduced at every step, and this text function must not be.
attribute [local irreducible] trimSpace

variable {tr : History} {id : String} {ref : ℕ} {u : TunnelUpdate} {config : ForwarderConfig}

/-- The loop of acknowledgements goes through the entries of the snapshot, and ends without an
error only behind the last. -/
theorem sendAcks_traces {acked mappings : List TunnelMapping} (hu : u.type = .sync)
    (hcur : current tr = ackedCalls id ref u config acked)
    (hsplit : snapshotAcks config = acked ++ mappings) :
    (sendAcks id mappings).Traces (Expected id)
      (fun r tr' => waits tr' = waits tr ∧
        (r = .ok () → current tr' = ackedCalls id ref u config (snapshotAcks config))) tr := by
  induction mappings generalizing acked tr with
  | nil =>
      rw [List.append_nil] at hsplit
      exact ⟨rfl, fun _ => hsplit ▸ hcur⟩
  | cons m mappings ih =>
      refine ⟨⟨Or.inl ⟨ref, u, config, acked, m, mappings, hu, hsplit, hcur, rfl⟩, trivial⟩,
        fun a => ?_⟩
      cases a with
      | error err => exact ⟨waits_concat _ _, fun h => by cases h⟩
      | ok _ =>
          have hnext : current (tr ++ [⟨.ack (ackRequest id m), .ok ()⟩]) =
              ackedCalls id ref u config (acked ++ [m]) := by
            rw [current_concat, hcur]
            simp [ackedCalls]
          refine (ih hnext (by simpa using hsplit)).mono fun r tr' h =>
            ⟨h.1.trans (waits_concat _ _), h.2⟩

theorem onSnapshot_traces (hu : u.type = .sync) (hcur : current tr = fetchedCalls id ref u config) :
    (onSnapshot id config).Traces (Expected id)
      (fun r tr' => (∀ err, r = .error err → waits tr' = waits tr) ∧
        (r = .ok () → waits tr' = 0 ∧ Streaming id tr' ref)) tr := by
  refine ⟨⟨⟨ref, u, config, hu, hcur, rfl⟩, trivial⟩, fun a => ?_⟩
  cases a with
  | error err => exact ⟨fun _ _ => waits_concat _ _, fun h => by cases h⟩
  | ok _ =>
      have happlied : current (tr ++ [⟨.reconcileMappings config.tunnels, .ok ()⟩]) =
          ackedCalls id ref u config [] := by
        rw [current_concat, hcur]
        rfl
      refine (sendAcks_traces hu happlied rfl).seq fun r tr' h => ?_
      cases r with
      | error err => exact ⟨fun _ _ => h.1.trans (waits_concat _ _), fun h => by cases h⟩
      | ok _ =>
          refine ⟨⟨⟨rfl, ref, u, config, hu, h.2 rfl⟩, trivial⟩, fun _ => ?_⟩
          refine ⟨fun _ h => (by cases h), fun _ => ⟨waits_concat _ _, u, config, [], hu, ?_⟩⟩
          rw [current_concat, h.2 rfl]

theorem openStream_traces :
    (openStream id (onSnapshot id)).Traces (Expected id)
      (fun r tr' => (∀ err, r = .error err → waits tr' = waits tr) ∧
        ∀ ref, r = .ok ref → waits tr' = 0 ∧ Streaming id tr' ref) tr := by
  refine ⟨⟨rfl, trivial⟩, fun a => ?_⟩
  cases a with
  | error err => exact ⟨fun _ _ => waits_concat _ _, fun _ h => by cases h⟩
  | ok ref =>
      set tr₁ : History := tr ++ [⟨.streamUpdates id, .ok ref⟩]
      have hcur₁ : current tr₁ = [⟨.streamUpdates id, .ok ref⟩] := current_concat _ _
      have hw₁ : waits tr₁ = waits tr := waits_concat _ _
      refine ⟨⟨Or.inl hcur₁, trivial⟩, fun a => ?_⟩
      cases a with
      | error err => exact ⟨fun _ _ => (waits_concat _ _).trans hw₁, fun _ h => by cases h⟩
      | ok u =>
          set tr₂ : History := tr₁ ++ [⟨.recv ref, .ok u⟩]
          have hw₂ : waits tr₂ = waits tr := (waits_concat _ _).trans hw₁
          have hcur₂ : current tr₂ = [⟨.streamUpdates id, .ok ref⟩, ⟨.recv ref, .ok u⟩] := by
            rw [current_concat, hcur₁]
            rfl
          change Program.Traces _ _ (if u.type ≠ .sync then _ else _) _
          split_ifs with hu
          · exact ⟨fun _ _ => hw₂, fun _ h => by cases h⟩
          · have hsync : u.type = .sync := not_not.mp hu
            refine ⟨⟨⟨rfl, ref, u, hsync, hcur₂⟩, trivial⟩, fun a => ?_⟩
            cases a with
            | error err => exact ⟨fun _ _ => (waits_concat _ _).trans hw₂, fun _ h => by cases h⟩
            | ok config =>
                have hcur₃ : current (tr₂ ++ [⟨.fetchConfig none, .ok config⟩]) =
                    fetchedCalls id ref u config := by
                  rw [current_concat, hcur₂]
                  rfl
                refine (onSnapshot_traces hsync hcur₃).seq fun r tr' h => ?_
                cases r with
                | error err =>
                    exact ⟨fun _ _ => (h.1 err rfl).trans ((waits_concat _ _).trans hw₂),
                      fun _ h => by cases h⟩
                | ok _ =>
                    refine ⟨fun _ h => (by cases h), fun ref' href => ?_⟩
                    cases href
                    exact h.2 rfl

theorem upsert_traces {m : TunnelMapping} (hm : u.Upserts m) (hs : Streaming id tr ref)
    (hlast : tr.getLast? = some ⟨.recv ref, .ok u⟩) :
    (upsert id m).Traces (Expected id) (fun _ tr' => waits tr' = waits tr ∧
      Streaming id tr' ref) tr := by
  unfold upsert
  split_ifs
  · exact ⟨rfl, hs⟩
  · refine ⟨⟨⟨ref, u, hs, hlast, hm⟩, trivial⟩, fun a => ?_⟩
    cases a with
    | error err => exact ⟨waits_concat _ _, hs.concat fun _ h => by cases h⟩
    | ok _ =>
        have hs₁ : Streaming id (tr ++ [⟨.applyMapping m, .ok ()⟩]) ref :=
          hs.concat fun _ h => by cases h
        refine ⟨⟨Or.inr ⟨ref, m, hs₁, List.getLast?_concat, rfl⟩, trivial⟩, fun a => ?_⟩
        have hpost : waits (tr ++ [⟨.applyMapping m, .ok ()⟩] ++ [⟨.ack (ackRequest id m), a⟩]) =
          waits tr ∧
            Streaming id (tr ++ [⟨.applyMapping m, .ok ()⟩] ++ [⟨.ack (ackRequest id m), a⟩]) ref :=
          ⟨(waits_concat _ _).trans (waits_concat _ _), hs₁.concat fun _ h => by cases h⟩
        cases a with
        | error err => exact hpost
        | ok _ => exact hpost

theorem handleUpdate_traces (hs : Streaming id tr ref)
    (hlast : tr.getLast? = some ⟨.recv ref, .ok u⟩) :
    (handleUpdate id (some u)).Traces (Expected id)
      (fun _ tr' => waits tr' = waits tr ∧ Streaming id tr' ref) tr := by
  obtain ⟨type, _ | m⟩ := u
  · exact ⟨rfl, hs⟩
  · simp only [handleUpdate]
    split_ifs
    · exact ⟨rfl, hs⟩
    · cases type with
      | added => exact upsert_traces ⟨Or.inl rfl, rfl⟩ hs hlast
      | modified => exact upsert_traces ⟨Or.inr rfl, rfl⟩ hs hlast
      | deleted =>
          refine ⟨⟨⟨ref, _, m, hs, hlast, ⟨rfl, rfl⟩, rfl⟩, trivial⟩, fun _ => ?_⟩
          exact ⟨waits_concat _ _, hs.concat fun _ h => by cases h⟩
      | sync => exact ⟨rfl, hs⟩
      | unrecognized n => exact ⟨rfl, hs⟩

theorem receiveUpdates_traces (messages : ℕ) (hs : Streaming id tr ref) :
    (receiveUpdates (fun update => handleUpdate id (some update)) ref messages).Traces (Expected id)
      (fun _ tr' => waits tr' = waits tr) tr := by
  induction messages generalizing tr with
  | zero => exact rfl
  | succ messages ih =>
      refine ⟨⟨Or.inr hs, trivial⟩, fun a => ?_⟩
      cases a with
      | error err => exact waits_concat _ _
      | ok u =>
          set tr₁ : History := tr ++ [⟨.recv ref, .ok u⟩]
          have hw₁ : waits tr₁ = waits tr := waits_concat _ _
          have hs₁ : Streaming id tr₁ ref := hs.concat fun _ h => by cases h
          change Program.Traces _ _ (if u.type = .sync then _ else _) _
          split_ifs
          · exact (ih hs₁).mono fun _ _ h => h.trans hw₁
          · refine (handleUpdate_traces hs₁ List.getLast?_concat).seq fun r tr₂ h => ?_
            have hw₂ : waits tr₂ = waits tr := h.1.trans hw₁
            cases r with
            | ok _ => exact (ih h.2).mono fun _ _ h => h.trans hw₂
            | error err =>
                refine ⟨⟨trivial, trivial⟩, fun _ => ?_⟩
                exact (ih (h.2.concat fun _ h => by cases h)).mono fun _ _ h =>
                  h.trans ((waits_concat _ _).trans hw₂)

/-- A pass that fails before it reports ready leaves the waiting time as it is; one that fails
later starts again from the smallest. -/
theorem watchStream_traces (messages : ℕ) :
    (watchStream id (onSnapshot id) (fun update => handleUpdate id (some update)) messages
      (backoffAfter (waits tr))).Traces (Expected id)
      (fun r tr' => ∀ err backoff, r = some (err, backoff) →
        backoff = backoffAfter (waits tr')) tr := by
  refine openStream_traces.seq fun r tr₁ h => ?_
  cases r with
  | error err =>
      intro err' backoff hr
      cases hr
      rw [h.1 err rfl]
  | ok ref =>
      obtain ⟨hw, hs⟩ := h.2 ref rfl
      refine (receiveUpdates_traces messages hs).seq fun r tr₂ h₂ => ?_
      cases r with
      | none =>
          intro err backoff hr
          cases hr
      | some err =>
          intro err' backoff hr
          cases hr
          rw [h₂, hw]
          rfl

theorem watchLoop_traces (messages rounds : ℕ) :
    (watchLoop id (onSnapshot id) (fun update => handleUpdate id (some update)) messages rounds
      (backoffAfter (waits tr))).Traces (Expected id)
      (fun r tr' => r = .canceled → tr'.getLast? = some ⟨.ctxErr, true⟩ ∨
        ∃ seconds, tr'.getLast? = some ⟨.after seconds, false⟩) tr := by
  induction rounds generalizing tr with
  | zero =>
      intro h
      cases h
  | succ rounds ih =>
      refine ⟨⟨trivial, trivial⟩, fun a => ?_⟩
      cases a with
      | true => exact fun _ => Or.inl List.getLast?_concat
      | false =>
          have hw : waits (tr ++ [⟨.ctxErr, false⟩]) = waits tr := waits_concat _ _
          rw [← hw]
          refine (watchStream_traces messages).seq fun r tr₁ h₁ => ?_
          cases r with
          | none =>
              intro h
              cases h
          | some waiting =>
              obtain ⟨err, backoff⟩ := waiting
              obtain rfl := h₁ err backoff rfl
              refine ⟨⟨trivial, trivial⟩, fun _ => ?_⟩
              set tr₂ : History :=
                tr₁ ++ [⟨.log (.reconnecting err (backoffAfter (waits tr₁))), ()⟩]
              have hw₂ : waits tr₂ = waits tr₁ := waits_concat _ _
              refine ⟨⟨trivial, congrArg backoffAfter hw₂.symm⟩, fun a => ?_⟩
              cases a with
              | false => exact fun _ => Or.inr ⟨_, List.getLast?_concat⟩
              | true =>
                  have hnext : waits (tr₂ ++ [⟨.after (backoffAfter (waits tr₁)), true⟩]) =
                      waits tr₁ + 1 := by
                    rw [waits_concat, hw₂]
                  have hih := @ih (tr₂ ++ [⟨.after (backoffAfter (waits tr₁)), true⟩])
                  rw [hnext, backoffAfter_succ] at hih
                  exact hih

theorem watch_traces (id : String) (messages rounds : ℕ) :
    (watch id messages rounds).Traces (Expected id)
      (fun r tr => r = .canceled → tr.getLast? = some ⟨.ctxErr, true⟩ ∨
        ∃ seconds, tr.getLast? = some ⟨.after seconds, false⟩) [] :=
  @watchLoop_traces [] id messages rounds

end Walk

/-- Whatever the operator, the proxy and the clock answer, every call of `WatchUpdates` is in its
place: the configuration is fetched after the SYNC of the current stream and passed to the proxy,
the entries are acknowledged in order, readiness is reported once all of them have been accepted,
and updates are applied, and then acknowledged, only on a stream on which readiness was reported. -/
theorem calls_follow_handshake (id : String) (messages rounds : ℕ) :
    (watch id messages rounds).Traces (Handshake id) (fun _ _ => True) [] :=
  ((watch_traces id messages rounds).imp fun _ _ h => h.1).mono fun _ _ _ => trivial

/-- Every wait of `WatchUpdates` takes one second, doubled for each wait since readiness was last
reported, up to 32 seconds; and nothing but the end of the context makes it return. -/
theorem waits_double_until_ready (id : String) (messages rounds : ℕ) :
    (watch id messages rounds).Traces
      (fun tr op => ∀ seconds, op = .after seconds → seconds = min (2 ^ waits tr) 32)
      (fun r tr => r = .canceled → tr.getLast? = some ⟨.ctxErr, true⟩ ∨
        ∃ seconds, tr.getLast? = some ⟨.after seconds, false⟩) [] :=
  (watch_traces id messages rounds).imp fun tr op h seconds hop => by
    subst hop
    exact h.2

end ForwarderProcess
end TunnelOperator
