import KuduRpc.Connection.State

/-!
# The read path

`poll_read_header` reads a frame's length prefix and header from the socket into
`recv_buf`, `poll_read_negotiation` reads one SASL message from it, and
`poll_read_connected` one response, which completes or fails the call it answers.

The header is parsed from `recv_buf[4..]`, all the buffered bytes after the prefix, not
from the frame alone; the body length is `msg_len - pos`, which a debug build checks.
-/

namespace KuduRpc

open Wire

/-- How the `read_at_least` loop ends. -/
inductive ReadEnd
  | done
  | wouldBlock
  | error (e : IoError)
  /-- The peer has closed the stream and too few bytes came: every further read returns
  zero bytes, so the loop never exits. -/
  | forever
  deriving DecidableEq, Repr

/-- The `while received < min` loop of `read_at_least` over the socket's reads: each
read's bytes are appended to the buffer. Returns the buffer, the reads left, and how the
loop ended. -/
def readLoop (min : Nat) (closed : Bool) (received : Nat) (buf : List UInt8)
    (rs : List ReadResult) : List UInt8 × List ReadResult × ReadEnd :=
  if received < min then
    match rs with
    | [] => (buf, [], if closed then .forever else .wouldBlock)
    | .error e :: rs => (buf, rs, .error e)
    | .data bs :: rs => readLoop min closed (received + bs.length) (buf ++ bs) rs
  else (buf, rs, .done)

/-- `read_at_least(min)`: reads from the socket into `recv_buf` until at least `min`
bytes have come. -/
def readAtLeast (min : Nat) : ConnM (Async Unit) :=
  if 0 < min then
    stream >>= fun s c =>
      match readLoop min s.closed 0 c.recvBuf s.reads with
      | (buf, rs, r) =>
        let c' := { c with recvBuf := buf, state := c.state.withStream { s with reads := rs } }
        match r with
        | .done => .ok (.ready ()) c'
        | .wouldBlock => .ok .notReady c'
        | .error e => .err (.io e) c'
        | .forever => .diverge
  else pure (.ready ())

/-- Reads until `recv_buf` holds `n` bytes, when it holds fewer. -/
def fillTo (n : Nat) : ConnM (Async Unit) := fun c =>
  if c.recvBuf.length < n then readAtLeast (n - c.recvBuf.length) c else .ok (.ready ()) c

/-- The error `poll_read_header` returns for a length prefix over the limit. -/
def messageTooLong (msgLen max : Nat) : Error :=
  .rpc (.invalidRpcHeader
    s!"RPC response message is too long; length: {msgLen}, max length: {max}")

/-- The end of `poll_read_header`: clear the header, `merge_message` it from
`recv_buf[4..]`, consume the prefix and the header, and return `msg_len - pos`. After a
failed merge the code leaves the fields merged before the error in the header, and the
model leaves it cleared: nothing reads it before the next call clears it again. -/
def parseResponseHeader (msgLen : Nat) : ConnM (Async Nat) := fun c =>
  match ResponseHeader.type.mergeDelimited (c.recvBuf.drop 4) with
  | .error e => .err (.protobuf e) { c with responseHeader := .empty }
  | .ok (h, pos) =>
    if msgLen < pos then .panic .overflow
    else .ok (.ready (msgLen - pos)) { c with responseHeader := h, recvBuf := c.recvBuf.drop (4 + pos) }

/-- `poll_read_header`: returns the body length of the next frame, its header in
`response_header`, and the body at the front of `recv_buf`. -/
def pollReadHeader : ConnM (Async Nat) :=
  tryReady (fillTo 4) fun () c =>
    if c.recvBuf.length < 4 then .panic .sliceIndex
    else
      let msgLen := readBE32 c.recvBuf
      if c.options.maxMessageLength < msgLen then .err (messageTooLong msgLen c.options.maxMessageLength) c
      else tryReady (fillTo (msgLen + 4)) (fun () => parseResponseHeader msgLen) c

/-- `poll_read_negotiation`: one SASL message, which must answer call id 33, carry no
sidecars and be the only bytes buffered. The `Debug` rendering of the header in the
call-id error's message is left out. -/
def pollReadNegotiation : ConnM (Async SaslMessagePB) :=
  tryReady pollReadHeader fun bodyLen c =>
    if c.responseHeader.callId ≠ 33 then
      .err (.rpc (.invalidRpcHeader "negotiation RPC response header has illegal call id")) c
    else if c.responseHeader.sidecarOffsets ≠ [] then
      .err (.rpc (.invalidRpcHeader "negotiation RPC response includes sidecars")) c
    else if bodyLen ≠ c.recvBuf.length then
      .err (.negotiationError "detected multiple in-flight RPC responses during negotiation") c
    else if c.responseHeader.isError then
      match ErrorStatusPB.type.parseDelimited c.recvBuf with
      | .error e => .err (.protobuf e) c
      | .ok (s, _) => .err (.rpc (.ofStatus s)) c
    else
      match SaslMessagePB.type.parseDelimited c.recvBuf with
      | .error e => .err (.protobuf e) c
      | .ok (msg, pos) =>
        if bodyLen ≠ pos then
          .err (.negotiationError "decoded message length does not match the header length") c
        else .ok (.ready msg) { c with recvBuf := c.recvBuf.drop bodyLen }

/-- `call_id as usize` for an `i32`: a negative id wraps to `2^64 + id`. -/
def usizeOfI32 (v : Int) : Nat := (v % 2 ^ 64).toNat

/-- `Rpc::complete` on the call `entry.remove()` took out, and the throttle's growth by
one, capped at `rpc_queue_len`. -/
def completeCall (callId : Nat) : ConnM Unit := fun c =>
  let (r?, q) := c.recvQueue.remove callId
  .ok () { c with
    recvQueue := q
    signals := c.signals ++ (r?.map Signal.complete).toList
    throttle := if c.throttle < c.options.rpcQueueLen then c.throttle + 1 else c.throttle }

/-- An error response: the status is parsed from the body, the call it answers (if still
queued) is removed and failed with it, and a fatal status is returned. -/
def readErrorResponse (callId bodyLen : Nat) : ConnM (Async Unit) := fun c =>
  if c.recvBuf.length < bodyLen then .panic .sliceIndex else
  match ErrorStatusPB.type.parseDelimited (c.recvBuf.take bodyLen) with
  | .error e => .err (.protobuf e) c
  | .ok (s, _) =>
    let error := RpcError.ofStatus s
    let (r?, q) := c.recvQueue.remove callId
    let c1 := { c with
      recvQueue := q
      signals := c.signals ++ (r?.map fun r => Signal.fail r (.rpc error)).toList }
    if error.isFatal then .err (.rpc error) c1
    else .ok (.ready ()) { c1 with recvBuf := c1.recvBuf.drop bodyLen }

/-- A success response: the body is merged into the response slot of the call it
answers, which stays queued if the merge fails; with sidecars the code panics; otherwise
the call is completed. A response for no queued call is skipped. -/
def readSuccessResponse (callId bodyLen : Nat) : ConnM (Async Unit) := fun c =>
  match c.recvQueue.get? callId with
  | none => .ok (.ready ()) { c with recvBuf := c.recvBuf.drop bodyLen }
  | some r =>
    if c.recvBuf.length < bodyLen then .panic .sliceIndex else
    let merged := mergeMessage r.response (c.recvBuf.take bodyLen)
    let c1 := { c with recvQueue := c.recvQueue.modify callId fun r => { r with response := merged.1 } }
    match merged.2 with
    | some e => .err (.protobuf e) c1
    | none =>
      if c1.responseHeader.sidecarOffsets ≠ [] then .panic .sidecars
      else (completeCall callId >>= fun () c2 =>
        .ok (.ready ()) { c2 with recvBuf := c2.recvBuf.drop bodyLen }) c1

/-- `poll_read_connected`: reads one response and completes or fails the call it
answers. -/
def pollReadConnected : ConnM (Async Unit) :=
  tryReady pollReadHeader fun bodyLen c =>
    if c.responseHeader.isError then
      readErrorResponse (usizeOfI32 c.responseHeader.callId) bodyLen c
    else readSuccessResponse (usizeOfI32 c.responseHeader.callId) bodyLen c

end KuduRpc
