import KuduRpc.Connection.Loops
import KuduRpc.Value

/-!
# The connection of the `Messenger`

`rpc.rs` holds a second client: a `Messenger` whose event loop owns a `Connection` per
server. `Connection::connect` buffers the connection header and the SASL NEGOTIATE
message and writes what the socket takes of them. `readable` reads length-prefixed
messages into `recv_buf`. `recv` reads until at least `min` bytes have come, and `flush`
writes `send_buf`. `TcpStream::connect` and the event loop's `register` are left to the
event loop: the model starts from the opened stream.

Its wire format is not the one `rpc/connection.rs` writes and reads
(`messenger_wire_format_differs`):

* `connect` writes the header and the message without their lengths, but counts the
  lengths in the prefix, which announces 15 bytes where 13 follow (`connect_sent`);
* `readable` reads the prefix little-endian, and after it consumes the header only: a
  round of its loop that reaches the parse leaves the frame's body at the front of
  `recv_buf`, and one that does not leaves the whole frame there (`readableStep_frame`).

And not all of its loops exit (`byte_loops_spin_at_eof`):

* `recv` runs the loop of `read_at_least`: at the end of the stream, where every read
  returns zero bytes, it never returns (`Connection.recv_const_zero`);
* `flush`, and the loop of `connect`, go round again on a write that takes nothing, so a
  socket that takes nothing holds them for ever (`writeLoop_const_zero`), where
  `poll_flush` returns `WriteZero`.
-/

namespace KuduRpc.Messenger

open Wire

/-- `ConnectionState`. -/
inductive ConnectionState
  | initiating
  | connected
  deriving DecidableEq, Repr

/-- A `TcpStream`, as the connection uses it: the results of its next reads and writes,
and the bytes it has taken. -/
structure TcpStream where
  reads : Stream' IoRead
  writes : Stream' IoWrite
  sent : List UInt8

/-- `Connection`, without `addr`, which only `Debug` reads. -/
structure Connection where
  state : ConnectionState
  stream : TcpStream
  recvBuf : List UInt8
  sendBuf : List UInt8

/-- What a call on a connection returns: a value and the connection after it, an
`io::Error` and the connection as the error left it, or nothing, when its loop does not
exit within the fuel. -/
inductive Run (α : Type)
  | ok (a : α) (c : Connection)
  | err (e : IoError) (c : Connection)
  | diverge

/-- The loop `while !send_buf.is_empty()` of `flush` and of `connect` over the writes
`ws`, for `fuel` rounds at most. Each write takes what the socket accepts, and a write
that takes nothing goes round again. -/
def writeLoop : Nat → List UInt8 → Stream' IoWrite → List UInt8 →
    Option (List UInt8 × Stream' IoWrite × List UInt8 × FlushEnd)
  | 0, _, _, _ => none
  | _ + 1, [], ws, sent => some ([], ws, sent, .done)
  | fuel + 1, buf@(_ :: _), ws, sent =>
    match ws.head with
    | .accept n => writeLoop fuel (buf.drop n) ws.tail (sent ++ buf.take n)
    | .wouldBlock => some (buf, ws.tail, sent, .wouldBlock)
    | .error e => some (buf, ws.tail, sent, .error e)

namespace Connection

/-- `recv(min)`: reads into `recv_buf` until `min` bytes have come, the socket would
block, or a read fails; returns the bytes that came. -/
def recv (fuel min : Nat) (c : Connection) : Run Nat :=
  match readLoopFuel min fuel 0 c.recvBuf c.stream.reads with
  | none => .diverge
  | some (buf, rs, e) =>
    let c' := { c with recvBuf := buf, stream := { c.stream with reads := rs } }
    match e with
    | .error err => .err err c'
    | _ => .ok (buf.length - c.recvBuf.length) c'

/-- `flush`: writes `send_buf` until it is empty, the socket would block, or a write
fails; returns the bytes written. -/
def flush (fuel : Nat) (c : Connection) : Run Nat :=
  match writeLoop fuel c.sendBuf c.stream.writes c.stream.sent with
  | none => .diverge
  | some (buf, ws, sent, e) =>
    let c' := { c with sendBuf := buf, stream := { c.stream with writes := ws, sent } }
    match e with
    | .error err => .err err c'
    | _ => .ok (sent.length - c.stream.sent.length) c'

/-- Each read of `readable`: when `recv_buf` holds fewer than `n` bytes, `recv` of the
bytes it lacks; `false` when fewer came. -/
def recvTo (fuel n : Nat) (c : Connection) : Run Bool :=
  if c.recvBuf.length < n then
    match c.recv fuel (n - c.recvBuf.length) with
    | .ok received c' => .ok (decide (n - c.recvBuf.length ≤ received)) c'
    | .err e c' => .err e c'
    | .diverge => .diverge
  else .ok true c

/-- One round of the loop of `readable`: `false` where the round returns for want of
bytes, `true` when it has consumed the prefix and what the header parse read. The length
is `LittleEndian::read_u32` of the prefix. The parse's error is dropped and the bytes it
read are consumed all the same; `errorPos` is how far a failed
`parse_length_delimited_from` reads, which the model's decoder does not record. -/
def readableStep (errorPos : List UInt8 → Nat) (fuel : Nat) (c : Connection) : Run Bool :=
  match c.recvTo fuel 4 with
  | .ok true c1 =>
    match c1.recvTo fuel (leValue (c1.recvBuf.take 4) + 4) with
    | .ok true c2 =>
      let buf := c2.recvBuf.drop 4
      let size :=
        match ResponseHeader.type.parseDelimited buf with
        | .ok (_, pos) => pos
        | .error _ => errorPos buf
      .ok true { c2 with recvBuf := buf.drop size }
    | r => r
  | r => r

/-- `readable`: rounds of its loop until one returns. The loop has no other exit, so the
`match self.state` after it is never reached. -/
def readable (errorPos : List UInt8 → Nat) : Nat → Connection → Run Unit
  | 0, _ => .diverge
  | fuel + 1, c =>
    match c.readableStep errorPos fuel with
    | .ok true c' => readable errorPos fuel c'
    | .ok false c' => .ok () c'
    | .err e c' => .err e c'
    | .diverge => .diverge

end Connection

/-- Which events `connect` registers the socket for, besides hang-up and error. -/
inductive Interest
  | readable
  | writable
  deriving DecidableEq, Repr

/-- The bytes `connect` buffers: the connection header `hrpc\x09\0\0`, the length it
computes, big-endian, and the SASL header with call id -33 and the NEGOTIATE message,
each as `write_to_with_cached_sizes` writes it, without its length. The length counts
each one's size and the size of a varint of that size. -/
def connectSendBuf : List UInt8 :=
  let header := encodeMessage (RequestHeader.ofCallId (-33)).toFields
  let negotiate := encodeMessage saslNegotiate.toFields
  utf8 "hrpc" ++ [9, 0, 0] ++
    be32 (header.length + lenVarint header.length + negotiate.length + lenVarint negotiate.length) ++
    header ++ negotiate

/-- `Connection::connect` on the stream `TcpStream::connect` opened: writes what the
socket takes of `connectSendBuf`, and registers for readable events when all of it went,
for writable ones otherwise. -/
def connect (fuel : Nat) (stream : TcpStream) : Run Interest :=
  match writeLoop fuel connectSendBuf stream.writes stream.sent with
  | none => .diverge
  | some (buf, ws, sent, e) =>
    let c : Connection := ⟨.initiating, { stream with writes := ws, sent }, [], buf⟩
    match e with
    | .error err => .err err c
    | _ => .ok (if buf = [] then .readable else .writable) c

/-! ## What the buffers hold -/

/-- The bytes written, then the bytes left, are the bytes the loop started with. -/
theorem writeLoop_sent : ∀ {fuel : Nat} {buf : List UInt8} {ws : Stream' IoWrite}
    {sent buf' : List UInt8} {ws' : Stream' IoWrite} {sent' : List UInt8} {e : FlushEnd},
    writeLoop fuel buf ws sent = some (buf', ws', sent', e) → sent' ++ buf' = sent ++ buf
  | 0, _, _, _, _, _, _, _, h => by cases h
  | _ + 1, [], _, _, _, _, _, _, h => by cases h; rfl
  | fuel + 1, b :: bs, ws, sent, buf', ws', sent', e, h => by
    rw [writeLoop] at h
    split at h
    · rw [writeLoop_sent h, List.append_assoc, List.take_append_drop]
    all_goals cases h; rfl

/-- Whatever `connect` has written, followed by what it has left in `send_buf`, is
`connectSendBuf`. -/
theorem connect_sent {fuel : Nat} {stream : TcpStream} {i : Interest} {c : Connection}
    (h : connect fuel stream = .ok i c) : c.stream.sent ++ c.sendBuf = stream.sent ++ connectSendBuf := by
  unfold connect at h
  rcases hw : writeLoop fuel connectSendBuf stream.writes stream.sent with _ | ⟨buf, ws, sent, e⟩ <;>
    rw [hw] at h
  · cases h
  · have := writeLoop_sent hw
    cases e <;> cases h <;> exact this

/-- `parse_length_delimited_from` reads a frame's header, whatever follows it. -/
theorem parseDelimited_frameHeader (f : ResponseFrame) (rest : List UInt8) :
    ResponseHeader.type.parseDelimited (encodeDelimited (encodeMessage f.fields) ++ rest) =
      .ok (f.header, (encodeDelimited (encodeMessage f.fields)).length) := by
  rw [MessageType.parseDelimited, f.mergeDelimited_header]
  rfl

namespace Connection

theorem recv_recvBuf {fuel min k : Nat} {c c' : Connection} (h : c.recv fuel min = .ok k c') :
    ∃ more, c'.recvBuf = c.recvBuf ++ more := by
  unfold recv at h
  rcases hr : readLoopFuel min fuel 0 c.recvBuf c.stream.reads with _ | ⟨buf, rs, e⟩ <;> rw [hr] at h
  · cases h
  · obtain ⟨more, rfl⟩ := readLoopFuel_append hr
    cases e <;> cases h <;> exact ⟨more, rfl⟩

theorem recvTo_of_le {fuel n : Nat} {c : Connection} (h : n ≤ c.recvBuf.length) :
    c.recvTo fuel n = .ok true c := by
  rw [recvTo, if_neg (Nat.not_lt.2 h)]

theorem recvTo_recvBuf {fuel n : Nat} {b : Bool} {c c' : Connection} (h : c.recvTo fuel n = .ok b c') :
    ∃ more, c'.recvBuf = c.recvBuf ++ more := by
  unfold recvTo at h
  split at h
  · rcases hr : c.recv fuel (n - c.recvBuf.length) with ⟨k, c1⟩ | ⟨e, c1⟩ | _ <;> rw [hr] at h
    · cases h; exact recv_recvBuf hr
    all_goals cases h
  · cases h; exact ⟨[], (List.append_nil _).symm⟩

/-- A round of `readable` on a `recv_buf` that starts with a frame: when it returns, the
whole frame is still at the front; when it goes on, the frame's body is. Either way the
next round does not start at the frame's end. -/
theorem readableStep_frame {errorPos : List UInt8 → Nat} {fuel : Nat} {c c' : Connection}
    {b : Bool} {f : ResponseFrame} {rest : List UInt8} (hc : c.recvBuf = f.bytes ++ rest)
    (h : c.readableStep errorPos fuel = .ok b c') :
    ∃ more, c'.recvBuf = (if b then encodeDelimited f.body else f.bytes) ++ rest ++ more := by
  have h4 : 4 ≤ c.recvBuf.length := by rw [hc, List.length_append, f.length_bytes]; omega
  rw [readableStep, recvTo_of_le h4] at h
  dsimp only at h
  rcases h2 : c.recvTo fuel (leValue (c.recvBuf.take 4) + 4) with ⟨b2, c2⟩ | ⟨e, c2⟩ | _ <;>
    rw [h2] at h
  · obtain ⟨more, hmore⟩ := recvTo_recvBuf h2
    cases b2
    · cases h
      exact ⟨more, by rw [hmore, hc, if_neg Bool.false_ne_true]⟩
    · have hbuf : c2.recvBuf.drop 4 =
          encodeDelimited (encodeMessage f.fields) ++ (encodeDelimited f.body ++ rest ++ more) := by
        rw [hmore, hc, f.bytes_eq]
        simp only [List.append_assoc, List.drop_left' (be32_length _)]
      simp only [hbuf, parseDelimited_frameHeader] at h
      cases h
      exact ⟨more, by simp⟩
  all_goals cases h

end Connection

/-! ## Loops at the end of the stream -/

/-- A socket whose writes take nothing holds the write loop for ever while bytes are
left. -/
theorem writeLoop_const_zero : ∀ (fuel : Nat) {buf : List UInt8} (sent : List UInt8),
    buf ≠ [] → writeLoop fuel buf (Stream'.const (.accept 0)) sent = none
  | 0, _, _, _ => rfl
  | fuel + 1, b :: bs, sent, _ => by
    rw [writeLoop]
    simpa using writeLoop_const_zero fuel sent (List.cons_ne_nil b bs)

/-- At the end of the stream, `recv` of at least one byte never returns. -/
theorem Connection.recv_const_zero (fuel : Nat) {min : Nat} {c : Connection} (hmin : 0 < min)
    (hr : c.stream.reads = Stream'.const (.data [])) : c.recv fuel min = .diverge := by
  rw [Connection.recv, hr, readLoopFuel_const_zero fuel _ hmin]

/-- On a socket whose writes take nothing, `flush` of a nonempty `send_buf` never
returns. -/
theorem Connection.flush_const_zero (fuel : Nat) {c : Connection} (hb : c.sendBuf ≠ [])
    (hw : c.stream.writes = Stream'.const (.accept 0)) : c.flush fuel = .diverge := by
  rw [Connection.flush, hw, writeLoop_const_zero fuel _ hb]

/-- On a socket whose writes take nothing, `connect` never returns. -/
theorem connect_const_zero (fuel : Nat) {stream : TcpStream}
    (hw : stream.writes = Stream'.const (.accept 0)) : connect fuel stream = .diverge := by
  rw [connect, hw, writeLoop_const_zero fuel _ (by simp [connectSendBuf])]

/-! ## The wire format against `rpc/connection.rs` -/

/-- A response to call 1 with an empty body, as a server writes it. -/
def pingResponse : ResponseFrame := .ofHeader ⟨1, false, []⟩ (by decide) [] (by decide)

/-- A connection whose `recv_buf` holds two whole responses, and whose socket has nothing
more to read for now. -/
def twoResponses : Connection :=
  ⟨.connected, ⟨Stream'.const .wouldBlock, Stream'.const .wouldBlock, []⟩,
    pingResponse.bytes ++ pingResponse.bytes, []⟩

/-- A socket that takes up to 64 bytes a write. -/
def acceptingStream : TcpStream := ⟨Stream'.const .wouldBlock, Stream'.const (.accept 64), []⟩

/-- The `Messenger`'s wire format is not `rpc/connection.rs`'s. Whatever `connect`
writes is a prefix of `connectSendBuf`, whose length prefix says 15 where 13 bytes
follow; `rpc/connection.rs` sends the same prefix followed by 15 bytes. For every frame
at the front of `recv_buf`, a round of `readable` leaves either the whole frame or its
body at the front, never what follows the frame. On two whole responses, `readable`
returns at once and consumes neither, since it reads their prefix little-endian. -/
theorem messenger_wire_format_differs :
    (∀ fuel stream i c, connect fuel stream = .ok i c →
      c.stream.sent ++ c.sendBuf = stream.sent ++ connectSendBuf) ∧
    readBE32 (connectSendBuf.drop 7) = 15 ∧ (connectSendBuf.drop 11).length = 13 ∧
    (utf8 "hrpc" ++ [9, 0, 0] ++ saslNegotiateFrame).take 11 = connectSendBuf.take 11 ∧
    (saslNegotiateFrame.drop 4).length = 15 ∧
    (∀ errorPos fuel (c c' : Connection) b (f : ResponseFrame) rest, c.recvBuf = f.bytes ++ rest →
      c.readableStep errorPos fuel = .ok b c' →
      ∃ more, c'.recvBuf = (if b then encodeDelimited f.body else f.bytes) ++ rest ++ more) ∧
    (∀ errorPos fuel, ∃ c, twoResponses.readable errorPos (fuel + 2) = .ok () c ∧
      c.recvBuf = twoResponses.recvBuf) :=
  ⟨fun _ _ _ _ => connect_sent, rfl, rfl, rfl, rfl,
    fun _ _ _ _ _ _ _ hc => Connection.readableStep_frame hc, fun _ _ => ⟨_, rfl, rfl⟩⟩

/-- `connect` on a socket that takes everything writes all of `connectSendBuf`, and a
round of `readable` on two responses returns with both still buffered. -/
theorem messenger_wire_format_differs_at :
    (∃ c, connect 2 acceptingStream = .ok .readable c ∧ c.stream.sent ++ c.sendBuf = connectSendBuf) ∧
    ∃ c more, twoResponses.readableStep (fun _ => 0) 1 = .ok false c ∧
      c.recvBuf = pingResponse.bytes ++ pingResponse.bytes ++ more := by
  refine ⟨⟨_, rfl, messenger_wire_format_differs.1 2 acceptingStream .readable _ rfl⟩, ?_⟩
  obtain ⟨more, h⟩ := messenger_wire_format_differs.2.2.2.2.2.1 (fun _ => 0) 1 twoResponses _ false
    pingResponse pingResponse.bytes rfl rfl
  exact ⟨_, more, rfl, h⟩

/-! ## Which socket loops exit -/

/-- The byte-pumping loops do not all exit. At the end of the stream, where every read
returns zero bytes, `read_at_least` waits for ever for missing bytes: `poll_read_header`
does not return, and the model's `forever` is the loop running out of every fuel. So does
`recv`. On a socket whose writes take nothing, `flush` and the loop of `connect` go round
for ever. `poll_flush` exits within one round per buffered byte, and one more, whatever
the writes return, and on writes that take nothing it returns `WriteZero`. -/
theorem byte_loops_spin_at_eof :
    (∀ (c : KuduRpc.Connection) (s : Socket), c.state.stream? = some s → s.closed = true →
      s.reads = [] → c.recvBuf.length < 4 → pollReadHeader c = .diverge) ∧
    (∀ min closed received buf rs, (readLoop min closed received buf rs).2.2 = .forever ↔
      ∀ fuel, readLoopFuel min fuel received buf (readStream rs closed) = none) ∧
    (∀ min fuel received buf, received < min →
      readLoopFuel min fuel received buf (Stream'.const (.data [])) = none) ∧
    (∀ fuel min (c : Connection), 0 < min → c.stream.reads = Stream'.const (.data []) →
      c.recv fuel min = .diverge) ∧
    (∀ fuel (c : Connection), c.sendBuf ≠ [] → c.stream.writes = Stream'.const (.accept 0) →
      c.flush fuel = .diverge) ∧
    (∀ fuel stream, stream.writes = Stream'.const (.accept 0) → connect fuel stream = .diverge) ∧
    (∀ fuel buf ws sent, buf.length < fuel → pollFlushLoopFuel fuel buf ws sent ≠ none) ∧
    (∀ fuel buf sent, buf ≠ [] → pollFlushLoopFuel (fuel + 1) buf (Stream'.const (.accept 0)) sent =
      some (buf, Stream'.const (.accept 0), sent, .writeZero)) :=
  ⟨fun _ _ hs hc hr hb => pollReadHeader_eof hs hc hr hb, fun _ closed received buf rs => readLoop_forever_iff closed rs received buf,
    fun _ fuel _ buf h => readLoopFuel_const_zero fuel buf h,
    fun fuel _ _ hmin hr => Connection.recv_const_zero fuel hmin hr,
    fun fuel _ hb hw => Connection.flush_const_zero fuel hb hw, fun fuel _ hw => connect_const_zero fuel hw,
    fun _ _ ws sent h => Option.isSome_iff_ne_none.1 (pollFlushLoopFuel_isSome ws sent h),
    fun fuel _ sent h => pollFlushLoopFuel_const_zero fuel sent h⟩

/-- A connection at the end of its stream, with a message half sent. -/
def eofConnection : Connection :=
  ⟨.initiating, ⟨Stream'.const (.data []), Stream'.const (.accept 0), []⟩, [], [0, 0]⟩

/-- `recv(1)` and `flush` on `eofConnection` never return, and neither does `connect`
on its stream. -/
theorem byte_loops_spin_at_eof_at :
    (∀ fuel, eofConnection.recv fuel 1 = .diverge) ∧ (∀ fuel, eofConnection.flush fuel = .diverge) ∧
      ∀ fuel, connect fuel eofConnection.stream = .diverge := by
  obtain ⟨-, -, -, hr, hf, hc, -⟩ := byte_loops_spin_at_eof
  exact ⟨fun fuel => hr fuel 1 _ Nat.one_pos rfl, fun fuel => hf fuel _ (List.cons_ne_nil _ _) rfl,
    fun fuel => hc fuel _ rfl⟩

end KuduRpc.Messenger
