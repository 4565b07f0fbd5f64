import KuduRpc.Connection.Framing
import KuduRpc.Connection.Reset

/-!
# Responses

`poll_read_connected` reads a frame's header, and then either fails the call the
response answers with the error status in its body, or merges the body into the call's
response slot and completes it. Two inputs make the read path panic
(`read_path_panics`):

* a header whose length-delimited encoding runs past the frame's length prefix into
  bytes already buffered: `msg_len - pos` underflows, in `poll_read_header`, so in
  `poll_read_negotiation` as in `poll_read_connected`;
* a success response with sidecar offsets for a call in flight.

A body whose decoding fails after some fields leaves those fields merged into the
response slot of the call, which stays in `recv_queue`; a reset then requeues the call
with that slot (`failed_merge_keeps_fields`).
-/

namespace KuduRpc

open Wire

/-! ## The end of `poll_read_header` -/

theorem parseResponseHeader_overflow {c : Connection} {msgLen pos : Nat} {h : ResponseHeader}
    (hm : ResponseHeader.type.mergeDelimited (c.recvBuf.drop 4) = .ok (h, pos))
    (hp : msgLen < pos) : parseResponseHeader msgLen c = .panic .overflow := by
  simp only [parseResponseHeader, hm, if_pos hp]

/-- A header that runs past the frame's length prefix into buffered bytes makes the
body length underflow. -/
theorem pollReadHeader_overrun {c : Connection} {len : Nat} {fields : Message}
    {h : ResponseHeader} {more : List UInt8}
    (hb : c.recvBuf = be32 len ++ encodeDelimited (encodeMessage fields) ++ more)
    (hlen : len < 2 ^ 32) (hmax : len ≤ c.options.maxMessageLength)
    (hv : ∀ f ∈ fields, f.Valid) (hd : ResponseHeader.type.ofFields fields = .ok h)
    (h64 : (encodeMessage fields).length < 2 ^ 64)
    (hover : len < (encodeDelimited (encodeMessage fields)).length) :
    pollReadHeader c = .panic .overflow := by
  have hl : c.recvBuf.length = 4 + (encodeDelimited (encodeMessage fields)).length + more.length := by
    simp [hb]; omega
  have hbe : readBE32 c.recvBuf = len := by rw [hb, List.append_assoc, readBE32_be32 hlen]
  have hm : ResponseHeader.type.mergeDelimited (c.recvBuf.drop 4) =
      .ok (h, (encodeDelimited (encodeMessage fields)).length) := by
    rw [hb, List.append_assoc, List.drop_left' (be32_length _),
      MessageType.mergeDelimited_encodeDelimited _ hv h64, hd]
    rfl
  rw [pollReadHeader, tryReady_ready (fillTo_of_le (by omega))]
  simp only [if_neg (show ¬c.recvBuf.length < 4 by omega), hbe, if_neg (Nat.not_lt.2 hmax)]
  rw [tryReady_ready (fillTo_of_le (by omega)), parseResponseHeader_overflow hm hover]

/-! ## Success responses -/

section Success

variable {c : Connection} {callId bodyLen : Nat} {r : Rpc}

/-- A body that fails to decode: the fields decoded before the error stay merged into
the response slot, and the call stays queued. -/
theorem readSuccessResponse_mergeError {e : PbError} (hr : c.recvQueue.get? callId = some r)
    (hl : bodyLen ≤ c.recvBuf.length)
    (hm : (mergeMessage r.response (c.recvBuf.take bodyLen)).2 = some e) :
    readSuccessResponse callId bodyLen c = .err (.protobuf e)
      { c with recvQueue := c.recvQueue.modify callId fun r' =>
          { r' with response := (mergeMessage r.response (c.recvBuf.take bodyLen)).1 } } := by
  simp only [readSuccessResponse, hr, if_neg (Nat.not_lt.2 hl), hm]

theorem readSuccessResponse_sidecars (hr : c.recvQueue.get? callId = some r)
    (hl : bodyLen ≤ c.recvBuf.length)
    (hm : (mergeMessage r.response (c.recvBuf.take bodyLen)).2 = none)
    (hs : c.responseHeader.sidecarOffsets ≠ []) :
    readSuccessResponse callId bodyLen c = .panic .sidecars := by
  simp only [readSuccessResponse, hr, if_neg (Nat.not_lt.2 hl), hm, ne_eq, if_pos hs]

/-- A response for no call in flight is skipped: only its body is consumed. -/
theorem readSuccessResponse_absent (hr : c.recvQueue.get? callId = none) :
    readSuccessResponse callId bodyLen c = .ok (.ready ()) { c with recvBuf := c.recvBuf.drop bodyLen } := by
  simp only [readSuccessResponse, hr]

/-- A body that decodes completes the call with it merged into its response slot, and
raises the throttle by one up to `rpc_queue_len`. -/
theorem readSuccessResponse_complete {merged : Message} (hr : c.recvQueue.get? callId = some r)
    (hl : bodyLen ≤ c.recvBuf.length)
    (hm : mergeMessage r.response (c.recvBuf.take bodyLen) = (merged, none))
    (hs : c.responseHeader.sidecarOffsets = []) :
    readSuccessResponse callId bodyLen c = .ok (.ready ())
      { c with
        recvQueue := (c.recvQueue.remove callId).2
        signals := c.signals ++ [.complete { r with response := merged }]
        throttle := if c.throttle < c.options.rpcQueueLen then c.throttle + 1 else c.throttle
        recvBuf := c.recvBuf.drop bodyLen } := by
  simp only [readSuccessResponse, hr, if_neg (Nat.not_lt.2 hl), hm, hs, ne_eq, not_true_eq_false,
    if_false, completeCall, ConnM.bind_apply, CallMap.remove_modify, CallMap.remove_fst,
    CallMap.get?_modify, Option.map_some', Option.toList_some]

end Success

/-- An error response whose status parses and is not fatal fails the call it answers,
if in flight, and takes it out of `recv_queue`. -/
theorem readErrorResponse_status {c : Connection} {callId bodyLen : Nat} {s : ErrorStatusPB} {n : Nat}
    (hl : bodyLen ≤ c.recvBuf.length)
    (hp : ErrorStatusPB.type.parseDelimited (c.recvBuf.take bodyLen) = .ok (s, n))
    (hf : (RpcError.ofStatus s).isFatal = false) :
    readErrorResponse callId bodyLen c = .ok (.ready ())
      { c with
        recvQueue := (c.recvQueue.remove callId).2
        signals := c.signals ++ ((c.recvQueue.get? callId).map fun r =>
          Signal.fail r (.rpc (.ofStatus s))).toList
        recvBuf := c.recvBuf.drop bodyLen } := by
  simp only [readErrorResponse, if_neg (Nat.not_lt.2 hl), hp, hf, Bool.false_eq_true, if_false]
  rfl

/-- The call a response answers, by its header's call id. -/
theorem pollReadConnected_success {c c1 : Connection} {bodyLen : Nat}
    (hh : pollReadHeader c = .ok (.ready bodyLen) c1) (he : c1.responseHeader.isError = false) :
    pollReadConnected c = readSuccessResponse (usizeOfI32 c1.responseHeader.callId) bodyLen c1 := by
  rw [pollReadConnected, tryReady_ready hh]
  simp only [he, Bool.false_eq_true, if_false]

/-- The response to the first frame of a connection reading frames, as the connection
holds it after the header. -/
theorem Receiving.success_body {c : Connection} {f : ResponseFrame} {fs : List ResponseFrame}
    {part : List UInt8} (h : Receiving c (f :: fs) part) (he : f.header.isError = false) :
    ∃ c1, pollReadConnected c = readSuccessResponse (usizeOfI32 f.header.callId) f.bodyLen c1 ∧
      c1.recvQueue = c.recvQueue ∧ c1.sendQueue = c.sendQueue ∧ c1.responseHeader = f.header ∧
      f.bodyLen ≤ c1.recvBuf.length ∧ c1.recvBuf.take f.bodyLen = encodeDelimited f.body := by
  obtain ⟨c1, hk, hh, hq, hsq, -, -, -, -, hl, htake, -⟩ := h.readHeader
  refine ⟨c1, ?_, hq, hsq, hh, hl, htake⟩
  rw [pollReadConnected_success hk (by rw [hh]; exact he), hh]

/-! ## Where the read path panics or keeps a failed merge -/

/-- The read path panics on two inputs: a header that overruns its frame into buffered
bytes, in `poll_read_header` and so in both of its callers; and a success response with
sidecar offsets for a call in flight. -/
theorem read_path_panics :
    (∀ (c : Connection) (len : Nat) (fields : Message) (h : ResponseHeader) (more : List UInt8),
      c.recvBuf = be32 len ++ encodeDelimited (encodeMessage fields) ++ more → len < 2 ^ 32 →
      len ≤ c.options.maxMessageLength → (∀ f ∈ fields, f.Valid) →
      ResponseHeader.type.ofFields fields = .ok h → (encodeMessage fields).length < 2 ^ 64 →
      len < (encodeDelimited (encodeMessage fields)).length →
      pollReadHeader c = .panic .overflow ∧ pollReadNegotiation c = .panic .overflow ∧
        pollReadConnected c = .panic .overflow) ∧
    (∀ (c : Connection) (f : ResponseFrame) (fs : List ResponseFrame) (part : List UInt8)
      (r : Rpc) (m : Message), Receiving c (f :: fs) part → f.header.isError = false →
      f.header.sidecarOffsets ≠ [] → c.recvQueue.get? (usizeOfI32 f.header.callId) = some r →
      f.body = encodeMessage m → (∀ x ∈ m, x.Valid) → pollReadConnected c = .panic .sidecars) := by
  refine ⟨fun c len fields h more hb hlen hmax hv hd h64 hover => ?_,
    fun c f fs part r m h he hs hr hbody hm => ?_⟩
  · have hp := pollReadHeader_overrun hb hlen hmax hv hd h64 hover
    exact ⟨hp, tryReady_panic hp _, tryReady_panic hp _⟩
  · obtain ⟨c1, hc1, hq, -, hh, hl, htake⟩ := h.success_body he
    have h64 : (encodeMessage m).length < 2 ^ 64 := by
      have := f.length_lt
      simp only [encodeDelimited, List.length_append, hbody] at this
      omega
    rw [hc1, readSuccessResponse_sidecars (by rw [hq]; exact hr) hl
      (by rw [htake, hbody, ← List.append_nil (encodeDelimited _),
        mergeMessage_encodeMessage _ hm h64]) (by rw [hh]; exact hs)]

/-- A negotiating connection holding a frame of length 2 whose header encoding,
`[6, 8, 33, 16, 0, 32, 0]`, is seven bytes long. -/
def overrunConnection : Connection :=
  { Connection.new .default .pending with
    state := .negotiating ⟨[], false, [], [], none⟩
    recvBuf := [0, 0, 0, 2, 6, 8, 33, 16, 0, 32, 0] }

/-- A success response to call 0 with one sidecar offset and an empty body. -/
def sidecarFrame : ResponseFrame := .ofHeader ⟨0, false, [0]⟩ (by decide) [] (by decide)

/-- A fail-fast call with an empty response slot. -/
def emptyCall : Rpc := ⟨"kudu.tserver.TabletServerService", "Write", 5000, [], [], [], true, false⟩

/-- A connected connection with call 0 in flight whose socket returns `f`. -/
def inFlightWith (f : ResponseFrame) : Connection :=
  { Connection.new .default .pending with
    state := .connected ⟨[.data f.bytes], false, [], [], none⟩
    recvQueue := ⟨[(0, emptyCall)], by decide⟩ }

theorem inFlightWith_receiving (f : ResponseFrame) (hf : f.length ≤ 5 * 1024 * 1024) :
    Receiving (inFlightWith f) [f] [] :=
  .of_reads rfl rfl rfl rfl (by simpa using hf)

/-- Both panics, on `[0, 0, 0, 2, 6, 8, 33, 16, 0, 32, 0]` and on `sidecarFrame`. -/
theorem read_path_panics_at :
    (pollReadHeader overrunConnection = .panic .overflow ∧
      pollReadNegotiation overrunConnection = .panic .overflow ∧
      pollReadConnected overrunConnection = .panic .overflow) ∧
    pollReadConnected (inFlightWith sidecarFrame) = .panic .sidecars :=
  ⟨read_path_panics.1 overrunConnection 2 [⟨1, .varint 33⟩, ⟨2, .varint 0⟩, ⟨4, .varint 0⟩]
      ⟨33, false, []⟩ [] (by decide) (by decide) (by decide) (by decide) rfl (by decide) (by decide),
    read_path_panics.2 _ sidecarFrame [] [] emptyCall [] (inFlightWith_receiving _ (by decide)) rfl
      (by decide) rfl rfl (by simp)⟩

/-- A success response whose body decodes valid fields `m` and then fails: the call stays
in `recv_queue` with `m` merged into its response slot, and a reset that keeps the call
requeues it with that slot. -/
theorem failed_merge_keeps_fields :
    ∀ (c : Connection) (f : ResponseFrame) (fs : List ResponseFrame) (part : List UInt8)
      (r : Rpc) (m : Message) (junk : List UInt8) (e : PbError),
      Receiving c (f :: fs) part → f.header.isError = false →
      c.recvQueue.get? (usizeOfI32 f.header.callId) = some r → f.body = encodeMessage m ++ junk →
      (∀ x ∈ m, x.Valid) → junk ≠ [] → decodeField junk = .error e →
      ∃ c', pollReadConnected c = .err (.protobuf e) c' ∧
        c'.recvQueue = c.recvQueue.modify (usizeOfI32 f.header.callId)
          (fun r' => { r' with response := r.response ++ m }) ∧
        c'.sendQueue = c.sendQueue ∧
        ∀ now jitter, (∀ k ∈ c.recvQueue.keys, k ∉ c.sendQueue.keys) → r.retained now = true →
          (usizeOfI32 f.header.callId, { r with response := r.response ++ m }) ∈
            (c'.reset (.protobuf e) now jitter).sendQueue.entries := by
  intro c f fs part r m junk e h he hr hbody hm hne hjunk
  obtain ⟨c1, hc1, hq, hsq, -, hl, htake⟩ := h.success_body he
  have hlen : (encodeMessage m ++ junk).length < 2 ^ 64 := by
    have := f.length_lt
    simp only [encodeDelimited, List.length_append, hbody] at this ⊢
    omega
  have hmerge : mergeMessage r.response (c1.recvBuf.take f.bodyLen) = (r.response ++ m, some e) := by
    rw [htake, hbody, ← List.append_nil (encodeDelimited _), mergeMessage_error _ hm hne hjunk hlen]
  have hread := readSuccessResponse_mergeError (by rw [hq]; exact hr) hl (by rw [hmerge])
  rw [hmerge] at hread
  refine ⟨_, hc1.trans hread, by rw [hq], hsq, fun now jitter hd hret => ?_⟩
  -- the dirty call is still in flight, under its id, and the reset retains it
  rw [Connection.sendQueue_reset _ _ _ _ (by rw [CallMap.keys_modify, hq]; exact hsq ▸ hd)]
  refine List.mem_filter.2 ⟨List.mem_append_left _ (CallMap.mem_of_get? ?_), hret⟩
  rw [CallMap.get?_modify, hq, hr]
  rfl

/-- A success response to call 0 whose body holds field 1 and then a zero tag. -/
def truncatedFrame : ResponseFrame :=
  .ofHeader ⟨0, false, []⟩ (by decide) (encodeMessage [⟨1, .varint 5⟩] ++ [0]) (by decide)

/-- The read fails on the zero tag and leaves field 1 in call 0's response slot. -/
theorem failed_merge_keeps_fields_at :
    ∃ c', pollReadConnected (inFlightWith truncatedFrame) = .err (.protobuf (.incorrectTag 0)) c' ∧
      c'.recvQueue.get? 0 = some { emptyCall with response := [⟨1, .varint 5⟩] } := by
  obtain ⟨c', hpoll, hq, -⟩ := failed_merge_keeps_fields _ truncatedFrame [] [] emptyCall
    [⟨1, .varint 5⟩] [0] (.incorrectTag 0) (inFlightWith_receiving _ (by decide)) rfl rfl rfl
    (by decide) (by decide) rfl
  exact ⟨c', hpoll, by rw [hq]; exact (CallMap.get?_modify _ _ _).trans rfl⟩

end KuduRpc
