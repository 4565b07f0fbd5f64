import KuduRpc.Connection.Loss

/-!
# The timeout a request carries

`poll_write_connected` sets the request header's `timeout_millis` to
`duration_to_ms(&rpc.deadline.duration_since(now)) as u32` (line 645 of
`rpc/connection.rs`), after checking that the deadline is still ahead. The `as u32`
cast keeps the low 32 bits of the remaining milliseconds: a call whose deadline is
`2^32` ms (about 49.7 days) or more ahead goes on the wire with the remainder modulo
`2^32`, which can be far shorter than the time left, and a deadline exactly `2^32` ms
ahead is sent as a timeout of 0.

Instants are in milliseconds in the model, so `duration_to_ms` of a difference of
instants is the difference itself.
-/

namespace KuduRpc

open Wire

/-! ## Spec lemmas of the write path -/

theorem pollFlush_recvQueue {c c' : Connection} {a : Async Unit} (h : pollFlush c = .ok a c') :
    c'.recvQueue = c.recvQueue := by
  unfold pollFlush at h
  split at h
  · cases h; rfl
  split at h
  · cases h
  split at h
  split at h <;> cases h <;> rfl

theorem flushIfFull_recvQueue {c c' : Connection} {full : Bool} (h : flushIfFull c = .ok full c') :
    c'.recvQueue = c.recvQueue := by
  unfold flushIfFull at h
  split at h
  · split at h <;> cases h
    exact pollFlush_recvQueue ‹_›
  · cases h; rfl

/-- The fields of the header `poll_write_connected` sends have one `timeout_millis`
(field 10): the remaining milliseconds modulo `2^32`. -/
theorem requestHeader_timeout (callId : Nat) (rpc : Rpc) (now : Nat) :
    (requestHeader callId rpc now).toFields.filter (·.number == 10) =
      [⟨10, .varint ((rpc.deadline - now) % 2 ^ 32)⟩] := by
  simp [requestHeader, RequestHeader.toFields, List.filter_map, Function.comp_def]

/-- Sending the popped call leaves the write buffer and `recv_queue` alone, when the call
is failed as cancelled or timed out; or, for a call whose deadline is ahead, appends the
frame of its header and request and moves it to `recv_queue`. -/
theorem sendCall_ok {now callId : Nat} {rpc : Rpc} {c c' : Connection} {a : Async Unit}
    (h : sendCall now callId rpc c = .ok a c') :
    (c'.writeBuf = c.writeBuf ∧ c'.recvQueue = c.recvQueue) ∨
      (now < rpc.deadline ∧
        c'.writeBuf = c.writeBuf ++
          frame (encodeMessage (requestHeader callId rpc now).toFields) (encodeMessage rpc.request) ∧
        c'.recvQueue = c.recvQueue.insert callId rpc) := by
  unfold sendCall at h
  split at h
  · cases h; exact .inl ⟨rfl, rfl⟩
  split at h
  · cases h; exact .inl ⟨rfl, rfl⟩
  next hto =>
  split at h
  · cases h
  rcases bufferMessage_cases (requestHeader callId rpc now) rpc.request c with hb | hb <;>
    rw [ConnM.bind_apply, hb] at h
  · cases h
  · cases h
    exact .inr ⟨by simpa [Rpc.timedOut] using hto, rfl, rfl⟩

/-- What a `poll_write_connected` that returns has sent: after the flush of a full
buffer, either nothing, or the frame of one call whose deadline is ahead, carrying its
remaining milliseconds modulo `2^32`, with the call moved to `recv_queue`. -/
theorem pollWriteConnected_ok {now : Nat} {c c' : Connection} {a : Async Unit}
    (h : pollWriteConnected now c = .ok a c') :
    ∃ full c1, flushIfFull c = .ok full c1 ∧
      ((c'.writeBuf = c1.writeBuf ∧ c'.recvQueue = c.recvQueue) ∨
        ∃ callId rpc, now < rpc.deadline ∧
          c'.writeBuf = c1.writeBuf ++
            frame (encodeMessage (requestHeader callId rpc now).toFields) (encodeMessage rpc.request) ∧
          c'.recvQueue = c.recvQueue.insert callId rpc) := by
  unfold pollWriteConnected at h
  rcases hf : flushIfFull c with ⟨full, c1⟩ | ⟨e, c1⟩ | p | _
  all_goals rw [ConnM.bind_apply, hf] at h
  all_goals first | cases h | skip
  refine ⟨full, c1, rfl, ?_⟩
  have hq := flushIfFull_recvQueue hf
  dsimp only at h
  split at h
  · cases h; exact .inl ⟨rfl, hq⟩
  split at h
  · cases h; exact .inl ⟨rfl, hq⟩
  split at h
  · cases h; exact .inl ⟨rfl, hq⟩
  split at h
  · cases h
  rcases sendCall_ok h with ⟨hw, hr⟩ | ⟨hd, hw, hr⟩
  · exact .inl ⟨hw, hr.trans hq⟩
  · exact .inr ⟨_, _, hd, hw, by rw [hr, hq]⟩

/-- A call to the master whose deadline is `2^32` ms after time 0. -/
def farCall : Rpc := { pingCall "ListMasters" with deadline := 2 ^ 32 }

/-- Every call `poll_write_connected` sends has its deadline ahead, and its header's one
`timeout_millis` is the remaining milliseconds modulo `2^32`: the frame appended after
the flush of a full buffer carries it. A call whose deadline is `2^32` ms ahead, sent at
time 0 (as the second of two queued calls, the one the write path sends), goes out with
a timeout of 0. -/
theorem timeout_millis_wraps :
    (∀ (now : Nat) (c c' : Connection) (a : Async Unit), pollWriteConnected now c = .ok a c' →
      ∃ full c1, flushIfFull c = .ok full c1 ∧
        ((c'.writeBuf = c1.writeBuf ∧ c'.recvQueue = c.recvQueue) ∨
          ∃ (callId : Nat) (rpc : Rpc) (fs : Message), now < rpc.deadline ∧
            fs.filter (·.number == 10) = [⟨10, .varint ((rpc.deadline - now) % 2 ^ 32)⟩] ∧
            c'.writeBuf = c1.writeBuf ++ frame (encodeMessage fs) (encodeMessage rpc.request) ∧
            c'.recvQueue = c.recvQueue.insert callId rpc)) ∧
    ∃ (c c' : Connection) (fs : Message),
      pollWriteConnected 0 c = .ok (.ready ()) c' ∧ farCall.deadline - 0 = 2 ^ 32 ∧
      fs.filter (·.number == 10) = [⟨10, .varint 0⟩] ∧
      c'.writeBuf = c.writeBuf ++ frame (encodeMessage fs) (encodeMessage farCall.request) ∧
      c'.recvQueue = c.recvQueue.insert 1 farCall := by
  refine ⟨fun now c c' a h => ?_, ?_⟩
  · obtain ⟨full, c1, hf, hs | ⟨callId, rpc, hd, hw, hr⟩⟩ := pollWriteConnected_ok h
    · exact ⟨full, c1, hf, .inl hs⟩
    · exact ⟨full, c1, hf, .inr ⟨callId, rpc, _, hd, requestHeader_timeout callId rpc now, hw, hr⟩⟩
  · let c := connectedWith [(0, pingCall "Ping"), (1, farCall)] (by decide)
    obtain ⟨q1, h1, hq1⟩ := CallMap.pop_of_entries (q := c.sendQueue) rfl
    obtain ⟨q2, h2, -⟩ := CallMap.pop_of_entries hq1
    have hb := bufferMessage_frame (requestHeader 1 farCall 0) farCall.request
      { c with sendQueue := q2 } (by decide)
    refine ⟨c, { c with
        sendQueue := q2
        writeBuf := c.writeBuf ++ frame (encodeMessage (requestHeader 1 farCall 0).toFields)
          (encodeMessage farCall.request)
        recvQueue := c.recvQueue.insert 1 farCall }, _, ?_, rfl, requestHeader_timeout 1 farCall 0,
      rfl, rfl⟩
    rw [pollWriteConnected_two (by decide) (by decide) h1 h2, sendCall]
    simp only [show farCall.cancelled = false from rfl, show farCall.timedOut 0 = false from rfl,
      show ¬i32Max < 1 by decide, Bool.false_eq_true, if_false, ConnM.bind_apply, hb]

/-- The send of the far call, described by the general part. -/
theorem timeout_millis_wraps_at :
    ∃ (c c' : Connection), pollWriteConnected 0 c = .ok (.ready ()) c' ∧
      ∃ full c1, flushIfFull c = .ok full c1 ∧
        ((c'.writeBuf = c1.writeBuf ∧ c'.recvQueue = c.recvQueue) ∨
          ∃ (callId : Nat) (rpc : Rpc) (fs : Message), 0 < rpc.deadline ∧
            fs.filter (·.number == 10) = [⟨10, .varint ((rpc.deadline - 0) % 2 ^ 32)⟩] ∧
            c'.writeBuf = c1.writeBuf ++ frame (encodeMessage fs) (encodeMessage rpc.request) ∧
            c'.recvQueue = c.recvQueue.insert callId rpc) := by
  obtain ⟨c, c', -, h, -⟩ := timeout_millis_wraps.2
  exact ⟨c, c', h, timeout_millis_wraps.1 0 c c' _ h⟩

end KuduRpc
