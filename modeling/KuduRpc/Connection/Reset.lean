import KuduRpc.Connection.Poll

/-!
# Reset

`Connection::reset` arms the backoff timer, clears both buffers, and drains `recv_queue`
and then `send_queue`: a cancelled call is dropped, a timed-out one failed with
`TimedOut`, a fail-fast one failed with the error, and the rest are inserted into the
emptied `send_queue` in the order they were drained (`reset_spec`).

That order is `recv_queue`'s, which `HashMap::drain` leaves unspecified, followed by
`send_queue`'s; the ids of the calls in flight need not come out ascending
(`reset_not_ascending`).
-/

namespace KuduRpc

/-- Whether `reset` keeps a call for a retry: not cancelled, not timed out, not
fail-fast. -/
def Rpc.retained (now : Nat) (r : Rpc) : Bool := !r.cancelled && !r.timedOut now && !r.failFast

/-- The signal `reset` sends for a call, if any. -/
def resetSignal (error : Error) (now : Nat) (r : Rpc) : Option Signal :=
  if r.cancelled then none
  else if r.timedOut now then some (.fail r .timedOut)
  else if r.failFast then some (.fail r error)
  else none

/-- The loop over the drained calls signals each call as `resetSignal` says and keeps
those `retained`, in order. -/
theorem resetDrain_eq (error : Error) (now : Nat) (es : List (Nat × Rpc)) :
    resetDrain error now es =
      (es.filterMap (resetSignal error now ·.2), es.filter (Rpc.retained now ·.2)) := by
  induction es with
  | nil => rfl
  | cons e es ih =>
    obtain ⟨callId, rpc⟩ := e
    simp only [resetDrain, ih, List.filterMap_cons, List.filter_cons, resetSignal, Rpc.retained]
    cases rpc.cancelled <;> cases rpc.timedOut now <;> cases rpc.failFast <;> rfl

/-- Inserting calls under fresh, distinct ids appends them. -/
theorem insertAll_fresh : ∀ (q : CallMap) (es : List (Nat × Rpc)),
    (q.keys ++ es.map Prod.fst).Nodup → (insertAll q es).entries = q.entries ++ es
  | q, [], _ => by simp [insertAll]
  | q, e :: es, h => by
    have hfresh : e.1 ∉ q.keys := by
      intro hk
      exact (List.nodup_append.1 h).2.2 hk (List.mem_cons_self _ _)
    have h' : ((q.insert e.1 e.2).keys ++ es.map Prod.fst).Nodup := by
      rw [CallMap.keys_insert_of_not_mem hfresh, List.append_assoc]
      simpa using h
    show (insertAll (q.insert e.1 e.2) es).entries = _
    rw [insertAll_fresh _ es h', CallMap.entries_insert_of_not_mem hfresh]
    simp

/-- The calls `reset` drains: `recv_queue`'s, in `HashMap::drain` order, then
`send_queue`'s. -/
def Connection.drained (c : Connection) : List (Nat × Rpc) := c.recvQueue.drain ++ c.sendQueue.drain

theorem Connection.nodup_drained {c : Connection}
    (hd : ∀ k ∈ c.recvQueue.keys, k ∉ c.sendQueue.keys) :
    (c.drained.map Prod.fst).Nodup := by
  rw [Connection.drained, CallMap.drain, CallMap.drain, List.map_append, List.nodup_append]
  exact ⟨c.recvQueue.keys_nodup, c.sendQueue.keys_nodup, fun a ha hb => hd a ha hb⟩

/-- After a reset, for queues whose ids are disjoint, `send_queue` holds the drained
calls that are retained, each under its id, in drain order. -/
theorem Connection.sendQueue_reset (c : Connection) (error : Error) (now jitter : Nat)
    (hd : ∀ k ∈ c.recvQueue.keys, k ∉ c.sendQueue.keys) :
    (c.reset error now jitter).sendQueue.entries = c.drained.filter (Rpc.retained now ·.2) := by
  have hnd : (CallMap.empty.keys ++ (c.drained.filter (Rpc.retained now ·.2)).map Prod.fst).Nodup := by
    rw [CallMap.empty_keys, List.nil_append]
    exact (c.nodup_drained hd).sublist ((List.filter_sublist _).map _)
  simp only [Connection.reset, resetDrain_eq]
  exact insertAll_fresh _ _ hnd

/-- Reset, for queues whose ids are disjoint: the connection waits out the backoff in
`Reset`, both buffers and `recv_queue` are empty, each drained call that is not
cancelled is failed once with `TimedOut` if its deadline has passed, else once with the
error if it is fail-fast, and `send_queue` holds the other calls, each under its id, in
the order they were drained. -/
theorem reset_spec (c : Connection) (error : Error) (now jitter : Nat)
    (hd : ∀ k ∈ c.recvQueue.keys, k ∉ c.sendQueue.keys) :
    (c.reset error now jitter).state =
        .reset ⟨(c.resetBackoff.nextBackoffMs jitter).1, .pending⟩ ∧
      (c.reset error now jitter).recvQueue = .empty ∧
      (c.reset error now jitter).recvBuf = [] ∧ (c.reset error now jitter).writeBuf = [] ∧
      (c.reset error now jitter).signals =
        c.signals ++ c.drained.filterMap (resetSignal error now ·.2) ∧
      (c.reset error now jitter).sendQueue.entries = c.drained.filter (Rpc.retained now ·.2) :=
  ⟨rfl, rfl, rfl, rfl, by simp only [Connection.reset, resetDrain_eq]; rfl,
    c.sendQueue_reset error now jitter hd⟩

/-- Two calls in flight, drained with the larger id first, and none queued. -/
def inFlightDescending : Connection :=
  { Connection.new .default .pending with
    state := .connected ⟨[], false, [], [], none⟩
    recvQueue := ⟨[(1, ⟨"s", "m", 10, [], [], [], false, false⟩),
      (0, ⟨"s", "m", 10, [], [], [], false, false⟩)], by decide⟩ }

/-- `reset` retries the calls in drain order, not by ascending id. -/
theorem reset_not_ascending :
    (inFlightDescending.reset .connectionError 0 0).sendQueue.keys = [1, 0] := by
  decide

/-- The amended statement at `inFlightDescending`. -/
theorem reset_spec_inFlightDescending :
    (inFlightDescending.reset .connectionError 0 0).sendQueue.entries =
      inFlightDescending.drained.filter (Rpc.retained 0 ·.2) :=
  (reset_spec inFlightDescending .connectionError 0 0 (by decide)).2.2.2.2.2

end KuduRpc
