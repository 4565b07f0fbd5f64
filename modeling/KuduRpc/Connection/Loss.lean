import KuduRpc.Connection.Negotiation

/-!
# Calls the connection loses

A call that entered `send_queue` should stay in one of the two queues until its
completion is signalled, or until a reset drops it as cancelled. `poll_write_connected`
breaks this in three ways (lines 626-639 of `rpc/connection.rs`), whatever else the
connection holds:

* it pops `send_queue` twice, and the first call popped is dropped, in no queue and with
  no signal;
* with one call queued, the second pop's `unwrap` panics;
* a call id past `i32::MAX` returns `Err` after the pop, and the call is dropped with it.

No run reaches `Connected`, since the negotiation that would lead there panics
(`negotiation_refuses_conforming_replies`): the panic ends the task, and every queued
call with it, none of them signalled. A run from `Connection::new` that queues a call and
meets a server answering SUCCESS under id 33 gets there.
-/

namespace KuduRpc

open Wire

/-- `r` is in neither queue of `c`, and no signal of `c` carries it. -/
def Lost (r : Rpc) (c : Connection) : Prop :=
  (∀ e ∈ c.sendQueue.entries, e.2 ≠ r) ∧ (∀ e ∈ c.recvQueue.entries, e.2 ≠ r) ∧
    ∀ s ∈ c.signals, s.rpc ≠ r

instance (r : Rpc) (c : Connection) : Decidable (Lost r c) :=
  inferInstanceAs (Decidable (_ ∧ _ ∧ _))

/-! ## The write path -/

theorem flushIfFull_of_le {c : Connection} (h : c.writeBuf.length ≤ 8 * 1024) :
    flushIfFull c = .ok false c := by
  simp [flushIfFull, Nat.not_lt.2 h]

section WritePath

variable {now : Nat} {c : Connection} {e1 : Nat × Rpc} {q1 : CallMap}

/-- Below the buffer limit and the throttle, `poll_write_connected` pops twice and sends
the second call, on a connection without the first. -/
theorem pollWriteConnected_two {e2 : Nat × Rpc} {q2 : CallMap}
    (hw : c.writeBuf.length ≤ 8 * 1024) (ht : c.recvQueue.len < c.throttle)
    (h1 : c.sendQueue.pop = some (e1, q1)) (h2 : q1.pop = some (e2, q2)) :
    pollWriteConnected now c = sendCall now e2.1 e2.2 { c with sendQueue := q2 } := by
  rw [pollWriteConnected, ConnM.bind_ok (flushIfFull_of_le hw)]
  simp only [Bool.false_eq_true, if_false, if_neg (Nat.not_le.2 ht), h1, h2]

/-- With one call queued, the second pop panics. -/
theorem pollWriteConnected_one (hw : c.writeBuf.length ≤ 8 * 1024)
    (ht : c.recvQueue.len < c.throttle) (h1 : c.sendQueue.pop = some (e1, q1))
    (h2 : q1.pop = none) : pollWriteConnected now c = .panic .unwrapNone := by
  rw [pollWriteConnected, ConnM.bind_ok (flushIfFull_of_le hw)]
  simp only [Bool.false_eq_true, if_false, if_neg (Nat.not_le.2 ht), h1, h2]

end WritePath

/-- Sending a call loses no other call: it signals only the call sent, and queues only
it. -/
theorem sendCall_lost {now i : Nat} {r r' : Rpc} {c : Connection} (hne : r ≠ r')
    (hl : Lost r' c) :
    (∀ a c', sendCall now i r c = .ok a c' → Lost r' c') ∧
      (∀ e c', sendCall now i r c = .err e c' → Lost r' c') := by
  obtain ⟨hs, hr, hg⟩ := hl
  have hsig : ∀ e, Lost r' { c with signals := c.signals ++ [.fail r e] } := fun e =>
    ⟨hs, hr, fun s hs' => by
      rcases List.mem_append.1 hs' with hs' | hs'
      · exact hg s hs'
      · rw [List.mem_singleton.1 hs']; exact hne⟩
  unfold sendCall
  split_ifs
  · exact ⟨fun a c' h => by cases h; exact hsig _, fun _ _ h => nomatch h⟩
  · exact ⟨fun a c' h => by cases h; exact hsig _, fun _ _ h => nomatch h⟩
  · exact ⟨fun _ _ h => (nomatch h), fun e c' h => by cases h; exact ⟨hs, hr, hg⟩⟩
  · rcases bufferMessage_cases (requestHeader i r now) r.request c with hb | hb <;>
      rw [ConnM.bind_apply, hb]
    · exact ⟨fun _ _ h => (nomatch h), fun _ _ h => nomatch h⟩
    refine ⟨fun a c' h => ?_, fun _ _ h => nomatch h⟩
    cases h
    refine ⟨hs, fun e he => ?_, hg⟩
    rcases CallMap.mem_insert he with rfl | he
    · exact hne
    · exact hr e he

/-! ## A reachable panic with a call queued -/

/-- A fail-fast call to the master's `method`, five seconds from time 0. -/
def pingCall (method : String) : Rpc :=
  ⟨"kudu.master.MasterService", method, 5000, [], [], [], true, false⟩

/-- SUCCESS under id 33. -/
def successUnder33 : ResponseFrame := saslReply 33 (by decide) successReply (by decide)

/-- A connect attempt that succeeds with a socket whose server answers SUCCESS under id
33, and which accepts the client's first bytes. -/
def successSocket : Socket := ⟨[.data successUnder33.bytes], false, [.accept 4096], [], none⟩

/-- A call queued, then the connect attempt completes. -/
def queuedThenConnected : List Action :=
  [.enqueue 0 (pingCall "Ping"), .reactor (.connecting (.connected successSocket))]

/-- The connection `queuedThenConnected` reaches from `Connection::new`. -/
def queuedConnection : Connection :=
  { Connection.new .default .pending with
    state := .connecting (.connected successSocket)
    sendQueue := ⟨[(0, pingCall "Ping")], by decide⟩ }

theorem reachable_queuedConnection : Reachable .default queuedConnection :=
  reachable_run (.new .pending)
    (show run (Connection.new .default .pending) queuedThenConnected = some queuedConnection from rfl)

/-- The poll of `queuedConnection` panics. -/
theorem queuedConnection_poll : queuedConnection.poll env0 = .panic (.unreachable .pollReady) := by
  have hc : pollConnecting queuedConnection = pollNegotiating { queuedConnection with
      state := .negotiating successSocket
      writeBuf := [] ++ (utf8 "hrpc" ++ [9, 0, 0]) ++ saslNegotiateFrame } :=
    pollConnecting_connected rfl rfl
  have hr : Receiving { queuedConnection with
      state := .negotiating successSocket
      writeBuf := [] ++ (utf8 "hrpc" ++ [9, 0, 0]) ++ saslNegotiateFrame } [successUnder33] [] :=
    .of_reads rfl rfl rfl rfl (by decide)
  obtain ⟨c', hc'⟩ := hr.pollNegotiating_success (.inr ⟨_, 4096, [], rfl, rfl, by decide⟩) rfl rfl
    (show SaslMessagePB.type.parseDelimited (encodeDelimited successUnder33.body) =
      .ok (successReply, successUnder33.bodyLen) from rfl) rfl
  exact Connection.poll_of_ready (by rw [pollState_of_connecting (c := queuedConnection) rfl, hc, hc'])

/-- Ways the connection loses a queued call. Below the buffer limit and the throttle,
`poll_write_connected` drops the first of two calls it pops; with one call queued it
panics; with a second call under an id past `i32::MAX` it returns `Err` and drops that
call too. And a run from `Connection::new` reaches a state holding a call whose next poll
panics. -/
theorem connection_loses_queued_calls :
    (∀ (now : Nat) (c : Connection) (e1 e2 : Nat × Rpc) (rest : List (Nat × Rpc)),
      c.writeBuf.length ≤ 8 * 1024 → c.recvQueue.len < c.throttle →
      c.sendQueue.entries = e1 :: e2 :: rest → e2.2 ≠ e1.2 → (∀ e ∈ rest, e.2 ≠ e1.2) →
      (∀ e ∈ c.recvQueue.entries, e.2 ≠ e1.2) → (∀ s ∈ c.signals, s.rpc ≠ e1.2) →
      (∀ a c', pollWriteConnected now c = .ok a c' → Lost e1.2 c') ∧
        (∀ err c', pollWriteConnected now c = .err err c' → Lost e1.2 c')) ∧
    (∀ (now : Nat) (c : Connection) (e : Nat × Rpc),
      c.writeBuf.length ≤ 8 * 1024 → c.recvQueue.len < c.throttle →
      c.sendQueue.entries = [e] → pollWriteConnected now c = .panic .unwrapNone) ∧
    (∀ (now : Nat) (c : Connection) (e1 e2 : Nat × Rpc) (rest : List (Nat × Rpc)),
      c.writeBuf.length ≤ 8 * 1024 → c.recvQueue.len < c.throttle →
      c.sendQueue.entries = e1 :: e2 :: rest → e2.2.cancelled = false →
      e2.2.timedOut now = false → i32Max < e2.1 → (∀ e ∈ rest, e.2 ≠ e2.2) →
      (∀ e ∈ c.recvQueue.entries, e.2 ≠ e2.2) → (∀ s ∈ c.signals, s.rpc ≠ e2.2) →
      ∃ c', pollWriteConnected now c = .err .connectionError c' ∧ Lost e2.2 c') ∧
    (∃ c, Reachable .default c ∧ (0, pingCall "Ping") ∈ c.sendQueue.entries ∧
      c.poll env0 = .panic (.unreachable .pollReady)) := by
  refine ⟨fun now c e1 e2 rest hw ht he hne hrest hrecv hsig => ?_, fun now c e hw ht he => ?_,
    fun now c e1 e2 rest hw ht he hc hto hid hrest hrecv hsig => ?_,
    ⟨_, reachable_queuedConnection, List.mem_singleton_self _, queuedConnection_poll⟩⟩
  · obtain ⟨q1, h1, hq1⟩ := CallMap.pop_of_entries he
    obtain ⟨q2, h2, hq2⟩ := CallMap.pop_of_entries hq1
    rw [pollWriteConnected_two hw ht h1 h2]
    exact sendCall_lost hne ⟨by rw [hq2]; exact hrest, hrecv, hsig⟩
  · obtain ⟨q1, h1, hq1⟩ := CallMap.pop_of_entries he
    exact pollWriteConnected_one hw ht h1 (CallMap.pop_eq_none.2 hq1)
  · obtain ⟨q1, h1, hq1⟩ := CallMap.pop_of_entries he
    obtain ⟨q2, h2, hq2⟩ := CallMap.pop_of_entries hq1
    refine ⟨{ c with sendQueue := q2 }, ?_, by rw [hq2]; exact hrest, hrecv, hsig⟩
    rw [pollWriteConnected_two hw ht h1 h2, sendCall]
    simp only [hc, hto, Bool.false_eq_true, if_false, if_pos hid]

/-- A connected connection with nothing in flight and the calls `es` queued. -/
def connectedWith (es : List (Nat × Rpc)) (h : (es.map Prod.fst).Nodup) : Connection :=
  { Connection.new .default .pending with
    state := .connected ⟨[], false, [.accept 4096], [], none⟩
    sendQueue := ⟨es, h⟩ }

/-- Two calls queued: the first is lost although the poll succeeds; one call: the poll
panics; a second call under `2^31`: both are lost. -/
theorem connection_loses_queued_calls_at :
    ((∃ c', pollWriteConnected 0 (connectedWith [(0, pingCall "Ping"), (1, pingCall "ListMasters")]
        (by decide)) = .ok (.ready ()) c') ∧
      ∀ a c', pollWriteConnected 0 (connectedWith [(0, pingCall "Ping"), (1, pingCall "ListMasters")]
        (by decide)) = .ok a c' → Lost (pingCall "Ping") c') ∧
    pollWriteConnected 0 (connectedWith [(0, pingCall "Ping")] (by decide)) = .panic .unwrapNone ∧
    (∃ c', pollWriteConnected 0 (connectedWith [(0, pingCall "Ping"), (2 ^ 31, pingCall "ListMasters")]
      (by decide)) = .err .connectionError c' ∧ Lost (pingCall "ListMasters") c') :=
  ⟨⟨by
      obtain ⟨a, c', h, ha⟩ := Outcome.exists_of_okWith (p := fun a _ => decide (a = .ready ()))
        (o := pollWriteConnected 0 (connectedWith [(0, pingCall "Ping"), (1, pingCall "ListMasters")]
          (by decide))) (by decide)
      exact ⟨c', by rw [h, of_decide_eq_true ha]⟩,
    (connection_loses_queued_calls.1 0 _ (0, pingCall "Ping") (1, pingCall "ListMasters") [] (by decide)
      (by decide) rfl (by decide) (by simp) (by decide) (by decide)).1⟩,
    connection_loses_queued_calls.2.1 0 _ (0, pingCall "Ping") (by decide) (by decide) rfl,
    connection_loses_queued_calls.2.2.1 0 _ (0, pingCall "Ping") (2 ^ 31, pingCall "ListMasters") []
      (by decide) (by decide) rfl rfl rfl (by decide) (by simp) (by decide) (by decide)⟩

end KuduRpc
