import KuduRpc.Connection.Read

/-!
# The write path

`buffer_message` frames a message into `write_buf`, `poll_flush` writes `write_buf` to
the socket, and `poll_write_connected` moves the next call of `send_queue` to the wire
and into `recv_queue`.

`poll_write_connected` pops `send_queue` twice (lines 626 and 627 of
`rpc/connection.rs`): the first call popped is dropped without a signal, and with one
call queued the second pop's `unwrap` panics. The model keeps both pops.
-/

namespace KuduRpc

open Wire

/-- How the `poll_flush` loop ends. -/
inductive FlushEnd
  | done
  | wouldBlock
  | error (e : IoError)
  | writeZero
  deriving DecidableEq, Repr

/-- The `while !write_buf.is_empty()` loop of `poll_flush` over the socket's writes: each
write takes as many bytes as the socket accepts. Returns what is left of the buffer, the
writes left, the bytes the socket now holds, and how the loop ended. -/
def flushLoop : List UInt8 → List WriteResult → List UInt8 → List UInt8 × List WriteResult × List UInt8 × FlushEnd
  | [], ws, sent => ([], ws, sent, .done)
  | buf@(_ :: _), [], sent => (buf, [], sent, .wouldBlock)
  | buf@(_ :: _), .error e :: ws, sent => (buf, ws, sent, .error e)
  | buf@(_ :: _), .accept n :: ws, sent =>
    if n = 0 then (buf, ws, sent, .writeZero)
    else flushLoop (buf.drop n) ws (sent ++ buf.take n)

/-- `poll_flush`: writes `write_buf` to the socket; a write of zero bytes is an error. -/
def pollFlush : ConnM (Async Unit) := fun c =>
  if c.writeBuf = [] then .ok (.ready ()) c
  else
    match c.state.stream? with
    | none => .panic (.unreachable .stateStream)
    | some s =>
      match flushLoop c.writeBuf s.writes s.sent with
      | (buf, ws, sent, r) =>
        let c' := { c with writeBuf := buf, state := c.state.withStream { s with writes := ws, sent } }
        match r with
        | .done => .ok (.ready ()) c'
        | .wouldBlock => .ok .notReady c'
        | .error e => .err (.io e) c'
        | .writeZero => .err (.io ⟨.writeZero, "failed to flush to socket"⟩) c'

/-- The bytes `buffer_message` appends for a header encoding `h` and a message encoding
`m`: the big-endian length of the rest, then each length-delimited. -/
def frame (h m : List UInt8) : List UInt8 :=
  be32 (h.length + lenVarint h.length + m.length + lenVarint m.length) ++
    encodeDelimited h ++ encodeDelimited m

/-- What a server writes for a response with header `h` and body message `m`: the same
framing, with a `ResponseHeader`. -/
def responseFrame (h : ResponseHeader) (m : Message) : List UInt8 :=
  frame (encodeMessage h.toFields) (encodeMessage m)

/-- `buffer_message`: the `u32` length is computed with overflow checks. -/
def bufferMessage (header : RequestHeader) (msg : Message) : ConnM Unit := fun c =>
  let h := encodeMessage header.toFields
  let m := encodeMessage msg
  if 2 ^ 32 ≤ h.length + lenVarint h.length + m.length + lenVarint m.length then .panic .overflow
  else .ok () { c with writeBuf := c.writeBuf ++ frame h m }

/-- `buffer_connection_header`: `b"hrpc\x09\0\0"`. -/
def bufferConnectionHeader : ConnM Unit :=
  ConnM.modify fun c => { c with writeBuf := c.writeBuf ++ (utf8 "hrpc" ++ [9, 0, 0]) }

/-- The SASL NEGOTIATE message. -/
def saslNegotiate : SaslMessagePB := { SaslMessagePB.new with state := some .negotiate }

/-- The SASL INITIATE message: token `"\0user\0"`, one auth with mechanism `PLAIN`. -/
def saslInitiate : SaslMessagePB :=
  { SaslMessagePB.new with
    state := some .initiate
    token := some (0 :: utf8 "user" ++ [0])
    auths := [⟨none, some (utf8 "PLAIN"), none⟩] }

/-- `buffer_sasl_negotiate`. -/
def bufferSaslNegotiate : ConnM Unit :=
  bufferMessage (.ofCallId (-33)) saslNegotiate.toFields

/-- `buffer_sasl_initiate`. -/
def bufferSaslInitiate : ConnM Unit :=
  bufferMessage (.ofCallId (-33)) saslInitiate.toFields

/-- `buffer_connection_context`: both users `"user"`. -/
def bufferConnectionContext : ConnM Unit :=
  bufferMessage (.ofCallId (-3)) (connectionContextFields "user" "user")

/-- The bytes `buffer_message` appends are the length of the rest, then the header and
the body, each length-delimited. -/
theorem frame_eq (h m : List UInt8) :
    frame h m = be32 (encodeDelimited h ++ encodeDelimited m).length ++
      (encodeDelimited h ++ encodeDelimited m) := by
  simp only [frame, encodeDelimited, lenVarint, List.length_append, List.append_assoc]
  congr 2
  omega

/-- `buffer_message` appends the frame of the request header and the message, when its
length fits in the `u32` prefix. -/
theorem bufferMessage_frame (header : RequestHeader) (msg : Message) (c : Connection)
    (h : (encodeDelimited (encodeMessage header.toFields) ++
      encodeDelimited (encodeMessage msg)).length < 2 ^ 32) :
    bufferMessage header msg c =
      .ok () { c with writeBuf := c.writeBuf ++ frame (encodeMessage header.toFields) (encodeMessage msg) } := by
  simp only [encodeDelimited, List.length_append] at h
  simp only [bufferMessage, lenVarint]
  rw [if_neg (by omega)]

/-- `buffer_message` appends a frame, or panics on the overflow of its length. -/
theorem bufferMessage_cases (header : RequestHeader) (msg : Message) (c : Connection) :
    bufferMessage header msg c = .panic .overflow ∨
      bufferMessage header msg c =
        .ok () { c with writeBuf := c.writeBuf ++ frame (encodeMessage header.toFields) (encodeMessage msg) } := by
  simp only [bufferMessage]
  split
  · exact .inl rfl
  · exact .inr rfl

/-- The bytes `buffer_sasl_negotiate` appends. -/
def saslNegotiateFrame : List UInt8 :=
  frame (encodeMessage (RequestHeader.ofCallId (-33)).toFields) (encodeMessage saslNegotiate.toFields)

/-- The bytes `buffer_sasl_initiate` appends. -/
def saslInitiateFrame : List UInt8 :=
  frame (encodeMessage (RequestHeader.ofCallId (-33)).toFields) (encodeMessage saslInitiate.toFields)

/-- The bytes `buffer_connection_context` appends. -/
def connectionContextFrame : List UInt8 :=
  frame (encodeMessage (RequestHeader.ofCallId (-3)).toFields)
    (encodeMessage (connectionContextFields "user" "user"))

theorem bufferSaslNegotiate_eq (c : Connection) :
    bufferSaslNegotiate c = .ok () { c with writeBuf := c.writeBuf ++ saslNegotiateFrame } :=
  bufferMessage_frame _ _ c (by decide)

theorem bufferSaslInitiate_eq (c : Connection) :
    bufferSaslInitiate c = .ok () { c with writeBuf := c.writeBuf ++ saslInitiateFrame } :=
  bufferMessage_frame _ _ c (by decide)

theorem bufferConnectionContext_eq (c : Connection) :
    bufferConnectionContext c = .ok () { c with writeBuf := c.writeBuf ++ connectionContextFrame } :=
  bufferMessage_frame _ _ c (by decide)

/-- The largest call id a request may carry, `i32::MAX`. -/
def i32Max : Nat := 2 ^ 31 - 1

/-- The request header `poll_write_connected` fills for a call sent at `now`:
`timeout_millis` is `duration_to_ms(deadline - now) as u32` (instants are in
milliseconds). -/
def requestHeader (callId : Nat) (rpc : Rpc) (now : Nat) : RequestHeader :=
  ⟨callId, some ⟨rpc.serviceName, rpc.methodName⟩, some ((rpc.deadline - now) % 2 ^ 32),
    rpc.requiredFeatureFlags⟩

/-- The start of `poll_write_connected`: past 8 KiB, flush; whether the buffer is still
past 8 KiB. -/
def flushIfFull : ConnM Bool := fun c =>
  if 8 * 1024 < c.writeBuf.length then
    match pollFlush c with
    | .ok _ c' => .ok (8 * 1024 < c'.writeBuf.length) c'
    | .err e c' => .err e c'
    | .panic p => .panic p
    | .diverge => .diverge
  else .ok false c

/-- What `poll_write_connected` does with the call it took from `send_queue`: fail it
when cancelled or timed out, refuse an id past `i32::MAX`, and otherwise frame it and
move it to `recv_queue`. -/
def sendCall (now callId : Nat) (rpc : Rpc) : ConnM (Async Unit) := fun c =>
  if rpc.cancelled then .ok (.ready ()) { c with signals := c.signals ++ [.fail rpc .cancelled] }
  else if rpc.timedOut now then .ok (.ready ()) { c with signals := c.signals ++ [.fail rpc .timedOut] }
  else if i32Max < callId then .err .connectionError c
  else
    (bufferMessage (requestHeader callId rpc now) rpc.request >>= fun () c' =>
      .ok (.ready ()) { c' with recvQueue := c'.recvQueue.insert callId rpc }) c

/-- `poll_write_connected`, with its two pops. -/
def pollWriteConnected (now : Nat) : ConnM (Async Unit) :=
  flushIfFull >>= fun full c =>
    if full then .ok .notReady c
    else if c.throttle ≤ c.recvQueue.len then .ok .notReady c
    else
      match c.sendQueue.pop with
      | none => .ok .notReady c
      | some (_, q1) =>
        match q1.pop with
        | none => .panic .unwrapNone
        | some ((callId, rpc), q2) => sendCall now callId rpc { c with sendQueue := q2 }

end KuduRpc
