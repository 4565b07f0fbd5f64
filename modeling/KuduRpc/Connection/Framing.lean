import KuduRpc.Connection.Run

/-!
# Framing

`buffer_message` writes a frame: the big-endian length of the rest, then the header and
the body, each length-delimited (`bufferMessage_frame`). `poll_read_header` reads frames
back through whatever segmentation TCP gives them:

* `Receiving c fs part`: the bytes `c` holds in `recv_buf`, followed by those its socket
  will return, are the frames `fs` and then `part`, the start of a frame still on its way.
* `Receiving.pollReadHeader_cons`: a call returns the first frame's header and body
  length, with the body at the front of `recv_buf`; once the caller consumes the body, `c`
  reads the remaining frames.
* `Receiving.pollReadHeader_nil`: with no whole frame received, a call is `NotReady` and
  has moved every byte the socket held into `recv_buf`.
* `Receiving.readFrames`: successive calls return every frame, in order.
* `Receiving.deliver`: more bytes from the peer extend the frames being read.
-/

namespace KuduRpc

open Wire

/-! ## The bytes a connection has received -/

/-- The bytes of a read. -/
def ReadResult.bytes : ReadResult → List UInt8
  | .data bs => bs
  | .error _ => []

/-- Whether a read returns data. -/
def ReadResult.isData : ReadResult → Bool
  | .data _ => true
  | .error _ => false

/-- The bytes a socket's pending reads return. -/
def Socket.incoming (s : Socket) : List UInt8 := s.reads.flatMap ReadResult.bytes

/-- The bytes the connection's socket will return. -/
def Connection.incoming (c : Connection) : List UInt8 :=
  (c.state.stream?.map Socket.incoming).getD []

/-- The bytes received: `recv_buf`, then those the socket will return. -/
def Connection.received (c : Connection) : List UInt8 := c.recvBuf ++ c.incoming

/-- The first `k` pending reads of the socket, moved into `recv_buf`. -/
def Connection.receive (k : Nat) (c : Connection) : Connection :=
  match c.state.stream? with
  | some s =>
    { c with
      recvBuf := c.recvBuf ++ (s.reads.take k).flatMap ReadResult.bytes
      state := c.state.withStream { s with reads := s.reads.drop k } }
  | none => c

/-- The peer sends `bs`: the socket returns them after its pending reads. -/
def Connection.deliver (bs : List UInt8) (c : Connection) : Connection :=
  match c.state.stream? with
  | some s => { c with state := c.state.withStream { s with reads := s.reads ++ [.data bs] } }
  | none => c

theorem State.stream?_withStream {st : State} {s : Socket} (h : st.stream? = some s)
    (s' : Socket) : (st.withStream s').stream? = some s' := by
  cases st <;> simp only [State.stream?, reduceCtorEq] at h <;> rfl

theorem State.withStream_self {st : State} {s : Socket} (h : st.stream? = some s) :
    st.withStream s = st := by
  cases st <;> simp only [State.stream?, reduceCtorEq, Option.some.injEq] at h <;>
    simp only [State.withStream, h]

theorem Connection.incoming_of_stream {c : Connection} {s : Socket}
    (h : c.state.stream? = some s) : c.incoming = s.incoming := by
  simp [Connection.incoming, h]

theorem Connection.receive_of_stream {c : Connection} {s : Socket}
    (h : c.state.stream? = some s) (k : Nat) :
    c.receive k = { c with
      recvBuf := c.recvBuf ++ (s.reads.take k).flatMap ReadResult.bytes
      state := c.state.withStream { s with reads := s.reads.drop k } } := by
  simp only [Connection.receive, h]

theorem Connection.stream?_receive {c : Connection} {s : Socket}
    (h : c.state.stream? = some s) (k : Nat) :
    (c.receive k).state.stream? = some { s with reads := s.reads.drop k } := by
  rw [c.receive_of_stream h]
  exact State.stream?_withStream h _

@[simp] theorem Connection.receive_zero (c : Connection) : c.receive 0 = c := by
  cases h : c.state.stream? with
  | none => simp [Connection.receive, h]
  | some s => simp [c.receive_of_stream h, State.withStream_self h]

theorem Connection.receive_receive {c : Connection} {s : Socket}
    (h : c.state.stream? = some s) (j k : Nat) :
    (c.receive j).receive k = c.receive (j + k) := by
  rw [(c.receive j).receive_of_stream (c.stream?_receive h j), c.receive_of_stream h,
    c.receive_of_stream h]
  simp only [List.drop_drop, List.take_add, List.flatMap_append, List.append_assoc,
    Nat.add_comm k j]
  congr 1
  cases c.state <;> simp only [State.stream?, reduceCtorEq] at h <;> rfl

@[simp] theorem Connection.recvQueue_receive (c : Connection) (k : Nat) :
    (c.receive k).recvQueue = c.recvQueue := by
  unfold Connection.receive
  split <;> rfl

@[simp] theorem Connection.sendQueue_receive (c : Connection) (k : Nat) :
    (c.receive k).sendQueue = c.sendQueue := by
  unfold Connection.receive
  split <;> rfl

@[simp] theorem Connection.kind_receive (c : Connection) (k : Nat) :
    (c.receive k).state.kind = c.state.kind := by
  unfold Connection.receive
  split
  · exact State.kind_withStream _ _
  · rfl

/-- Moving reads changes only `recv_buf` and the state's socket. -/
theorem Connection.receive_frame (c : Connection) (k : Nat) :
    ∃ buf st, c.receive k = { c with recvBuf := buf, state := st } := by
  unfold Connection.receive
  split
  · exact ⟨_, _, rfl⟩
  · exact ⟨c.recvBuf, c.state, rfl⟩

theorem Connection.received_receive {c : Connection} {s : Socket}
    (h : c.state.stream? = some s) (k : Nat) : (c.receive k).received = c.received := by
  rw [Connection.received, Connection.received, Connection.incoming_of_stream (c.stream?_receive h k),
    c.incoming_of_stream h, c.receive_of_stream h]
  simp only [Socket.incoming, List.append_assoc, ← List.flatMap_append, List.take_append_drop]

/-- Once the socket's reads are all taken, `recv_buf` holds everything received. -/
theorem Connection.recvBuf_receive_all {c : Connection} {s : Socket}
    (h : c.state.stream? = some s) {k : Nat} (hk : s.reads.length ≤ k) :
    (c.receive k).recvBuf = c.received := by
  simp [c.receive_of_stream h, Connection.received, c.incoming_of_stream h, Socket.incoming,
    List.take_of_length_le hk]

theorem Connection.incoming_deliver {c : Connection} {s : Socket}
    (h : c.state.stream? = some s) (bs : List UInt8) :
    (c.deliver bs).received = c.received ++ bs := by
  have hs : (c.deliver bs).state.stream? = some { s with reads := s.reads ++ [.data bs] } := by
    simp only [Connection.deliver, h]
    exact State.stream?_withStream h _
  rw [Connection.received, Connection.received, Connection.incoming_of_stream hs,
    c.incoming_of_stream h]
  simp [Socket.incoming, ReadResult.bytes, Connection.deliver, h]

/-- A prefix of `c ++ d` at least as long as `c` starts with `c`. -/
theorem eq_append_drop_of_append_eq {α : Type} {a b c d : List α} (h : a ++ b = c ++ d)
    (hl : c.length ≤ a.length) : a = c ++ a.drop c.length := by
  have := congrArg (List.take c.length) h
  rw [List.take_append_of_le_length hl, List.take_left] at this
  calc a = a.take c.length ++ a.drop c.length := (List.take_append_drop _ _).symm
    _ = c ++ a.drop c.length := by rw [this]

/-! ## The read loop -/

section ReadLoop

variable {min : Nat} {closed : Bool} {received : Nat} {buf : List UInt8}

theorem readLoop_of_le (rs : List ReadResult) (h : min ≤ received) :
    readLoop min closed received buf rs = (buf, rs, .done) := by
  rw [readLoop.eq_def, if_neg (by omega)]

theorem readLoop_nil (h : received < min) :
    readLoop min closed received buf [] = (buf, [], if closed then .forever else .wouldBlock) := by
  rw [readLoop, if_pos h]

theorem readLoop_data (bs : List UInt8) (rs : List ReadResult) (h : received < min) :
    readLoop min closed received buf (.data bs :: rs) =
      readLoop min closed (received + bs.length) (buf ++ bs) rs := by
  rw [readLoop, if_pos h]

/-- Over reads that all return data, the loop takes the fewest reads that bring `min`
bytes, or all of them if they bring fewer. -/
theorem readLoop_spec (min : Nat) (closed : Bool) :
    ∀ (rs : List ReadResult) (received : Nat) (buf : List UInt8),
    (∀ r ∈ rs, r.isData) →
    ∃ k, (∀ j < k, received + ((rs.take j).flatMap ReadResult.bytes).length < min) ∧
      ((min ≤ received + ((rs.take k).flatMap ReadResult.bytes).length ∧
        readLoop min closed received buf rs =
          (buf ++ (rs.take k).flatMap ReadResult.bytes, rs.drop k, .done)) ∨
      (rs.length ≤ k ∧ received + (rs.flatMap ReadResult.bytes).length < min ∧
        readLoop min closed received buf rs =
          (buf ++ rs.flatMap ReadResult.bytes, [], if closed then .forever else .wouldBlock)))
  | rs, received, buf, _ =>
    if hle : min ≤ received then
      ⟨0, fun _ hj => absurd hj (Nat.not_lt_zero _), .inl ⟨by simpa using hle,
        by simp [readLoop_of_le rs hle]⟩⟩
    else
      match rs, ‹∀ r ∈ rs, r.isData› with
      | [], _ => ⟨0, fun _ hj => absurd hj (Nat.not_lt_zero _),
          .inr ⟨le_refl _, by simpa using hle, by simp [readLoop_nil (Nat.lt_of_not_le hle)]⟩⟩
      | .error _ :: _, hd => absurd (hd _ (List.mem_cons_self _ _)) (by simp [ReadResult.isData])
      | .data bs :: rs, hd => by
        obtain ⟨k, hmin, hk⟩ := readLoop_spec min closed rs (received + bs.length) (buf ++ bs)
          fun r hr => hd r (List.mem_cons_of_mem _ hr)
        refine ⟨k + 1, fun j hj => ?_, ?_⟩
        · cases j with
          | zero => simpa using Nat.lt_of_not_le hle
          | succ j =>
            have := hmin j (by omega)
            simp only [List.take_succ_cons, List.flatMap_cons, ReadResult.bytes,
              List.length_append] at this ⊢
            omega
        · simp only [readLoop_data bs rs (Nat.lt_of_not_le hle), List.take_succ_cons,
            List.drop_succ_cons, List.flatMap_cons, ReadResult.bytes, List.length_append,
            List.length_cons, List.append_assoc, ← Nat.add_assoc] at hk ⊢
          rcases hk with ⟨h1, h2⟩ | ⟨h1, h2, h3⟩
          · exact .inl ⟨h1, h2⟩
          · exact .inr ⟨by omega, h2, h3⟩

end ReadLoop

theorem fillTo_of_le {c : Connection} {n : Nat} (h : n ≤ c.recvBuf.length) :
    fillTo n c = .ok (.ready ()) c := by
  simp [fillTo, Nat.not_lt.2 h]

/-- `fillTo n` over a socket whose reads all return data: it takes the fewest reads that
bring `recv_buf` to `n` bytes, or, when all of them bring fewer, takes them all and waits
for more (or, on a closed stream, never returns). -/
theorem fillTo_spec {c : Connection} {s : Socket} (hs : c.state.stream? = some s)
    (hd : ∀ r ∈ s.reads, r.isData) (n : Nat) :
    ∃ k, (∀ j < k, (c.receive j).recvBuf.length < n) ∧
      ((n ≤ (c.receive k).recvBuf.length ∧ fillTo n c = .ok (.ready ()) (c.receive k)) ∨
      ((c.receive k).recvBuf = c.received ∧ c.received.length < n ∧
        fillTo n c = if s.closed then .diverge else .ok .notReady (c.receive k))) := by
  by_cases hn : n ≤ c.recvBuf.length
  · exact ⟨0, fun _ hj => absurd hj (Nat.not_lt_zero _), .inl ⟨by simpa using hn, by simpa using fillTo_of_le hn⟩⟩
  obtain ⟨k, hmin, hk⟩ := readLoop_spec (n - c.recvBuf.length) s.closed s.reads 0 c.recvBuf hd
  have hrecv : ∀ j, (c.receive j).recvBuf.length =
      c.recvBuf.length + ((s.reads.take j).flatMap ReadResult.bytes).length := by
    intro j; simp [c.receive_of_stream hs]
  refine ⟨k, fun j hj => by have := hmin j hj; rw [hrecv]; omega, ?_⟩
  have hfill : fillTo n c = readAtLeast (n - c.recvBuf.length) c := by
    simp [fillTo, Nat.lt_of_not_le hn]
  rw [hfill, readAtLeast, if_pos (by omega), ConnM.bind_ok (show stream c = .ok s c by
    simp [stream, hs])]
  rcases hk with ⟨h1, h2⟩ | ⟨h1, h2, h3⟩
  · refine .inl ⟨by rw [hrecv]; omega, ?_⟩
    simp only [h2, c.receive_of_stream hs]
  · refine .inr ⟨c.recvBuf_receive_all hs h1, ?_, ?_⟩
    · simp only [Connection.received, c.incoming_of_stream hs, Socket.incoming,
        List.length_append]
      omega
    · rw [h3, c.receive_of_stream hs, List.drop_eq_nil_of_le h1, List.take_of_length_le h1]
      cases s.closed <;> rfl

/-! ## Frames -/

/-- A response frame as a server writes it: header fields that decode to `header`, a
body, and a length that fits the `u32` prefix. -/
structure ResponseFrame where
  header : ResponseHeader
  fields : Message
  body : List UInt8
  fields_valid : ∀ f ∈ fields, f.Valid
  decodes : ResponseHeader.type.ofFields fields = .ok header
  length_lt : (encodeDelimited (encodeMessage fields)).length + (encodeDelimited body).length < 2 ^ 32

namespace ResponseFrame

/-- The length the prefix carries: the bytes after it. -/
def length (f : ResponseFrame) : Nat :=
  (encodeDelimited (encodeMessage f.fields)).length + (encodeDelimited f.body).length

/-- The body length `poll_read_header` returns for the frame. -/
def bodyLen (f : ResponseFrame) : Nat := (encodeDelimited f.body).length

/-- The frame's bytes. -/
def bytes (f : ResponseFrame) : List UInt8 := frame (encodeMessage f.fields) f.body

/-- The frame of a header as a server writes it, `ResponseHeader.toFields`. -/
def ofHeader (h : ResponseHeader) (hv : h.Valid) (body : List UInt8)
    (hl : (encodeDelimited (encodeMessage h.toFields)).length + (encodeDelimited body).length < 2 ^ 32) :
    ResponseFrame :=
  ⟨h, h.toFields, body, ResponseHeader.toFields_valid hv, ResponseHeader.decode_toFields hv, hl⟩

theorem bytes_eq (f : ResponseFrame) :
    f.bytes = be32 f.length ++
      (encodeDelimited (encodeMessage f.fields) ++ encodeDelimited f.body) := by
  rw [bytes, frame_eq, List.length_append]; rfl

theorem length_bytes (f : ResponseFrame) : f.bytes.length = f.length + 4 := by
  rw [bytes_eq, List.length_append, be32_length, List.length_append, length, Nat.add_comm]

theorem ofHeader_bytes (h : ResponseHeader) (hv : h.Valid) (body : List UInt8) (hl) :
    (ofHeader h hv body hl).bytes = frame (encodeMessage h.toFields) body := rfl

/-- The header parse reads the frame's delimited header, whatever follows it. -/
theorem mergeDelimited_header (f : ResponseFrame) (rest : List UInt8) :
    ResponseHeader.type.mergeDelimited (encodeDelimited (encodeMessage f.fields) ++ rest) =
      .ok (f.header, (encodeDelimited (encodeMessage f.fields)).length) := by
  have hl : (encodeMessage f.fields).length < 2 ^ 64 := by
    have := f.length_lt; simp only [encodeDelimited, List.length_append] at this; omega
  rw [MessageType.mergeDelimited_encodeDelimited _ f.fields_valid hl, f.decodes]
  rfl

end ResponseFrame

/-- `part` is not yet a whole frame: it lacks a length prefix, or a prefix within `max`
says more bytes are to come. -/
def Incomplete (max : Nat) (part : List UInt8) : Prop :=
  part.length < 4 ∨ (readBE32 part ≤ max ∧ part.length < readBE32 part + 4)

/-- `c` reads the frames `fs` and then `part`: it holds a socket that is open and whose
pending reads return data, and the bytes in `recv_buf` followed by those of the pending
reads are the bytes of `fs`, each within `max_message_length`, and then `part`, which is
not yet a whole frame. -/
structure Receiving (c : Connection) (fs : List ResponseFrame) (part : List UInt8) : Prop where
  stream : ∃ s, c.state.stream? = some s ∧ s.closed = false ∧ ∀ r ∈ s.reads, r.isData
  received : c.received = (fs.map ResponseFrame.bytes).flatten ++ part
  fit : ∀ f ∈ fs, f.length ≤ c.options.maxMessageLength
  incomplete : Incomplete c.options.maxMessageLength part

theorem readBE32_append {a : List UInt8} (h : 4 ≤ a.length) (b : List UInt8) :
    readBE32 (a ++ b) = readBE32 a := by
  match a, h with
  | _ :: _ :: _ :: _ :: _, _ => rfl

theorem parseResponseHeader_ok {c : Connection} {msgLen pos : Nat} {h : ResponseHeader}
    (hm : ResponseHeader.type.mergeDelimited (c.recvBuf.drop 4) = .ok (h, pos))
    (hp : pos ≤ msgLen) :
    parseResponseHeader msgLen c =
      .ok (.ready (msgLen - pos)) { c with responseHeader := h, recvBuf := c.recvBuf.drop (4 + pos) } := by
  simp only [parseResponseHeader, hm, if_neg (Nat.not_lt.2 hp)]

namespace Receiving

variable {c : Connection} {f : ResponseFrame} {fs : List ResponseFrame} {part : List UInt8}

/-- A connection with nothing buffered whose socket returns one frame a read. -/
theorem of_reads {s : Socket} (hs : c.state.stream? = some s) (hc : s.closed = false)
    (hb : c.recvBuf = []) (hr : s.reads = fs.map fun f => .data f.bytes)
    (hfit : ∀ f ∈ fs, f.length ≤ c.options.maxMessageLength) : Receiving c fs [] := by
  refine ⟨⟨s, hs, hc, fun r hr' => ?_⟩, ?_, hfit, .inl (by simp)⟩
  · rw [hr, List.mem_map] at hr'
    obtain ⟨f, -, rfl⟩ := hr'
    rfl
  · simp [Connection.received, c.incoming_of_stream hs, hb, hr, Socket.incoming, ReadResult.bytes,
      List.flatMap, Function.comp_def]

/-- Moving reads into `recv_buf` changes nothing received. -/
theorem receive (h : Receiving c fs part) (k : Nat) : Receiving (c.receive k) fs part := by
  obtain ⟨s, hs, hc, hd⟩ := h.stream
  refine ⟨⟨_, c.stream?_receive hs k, hc, fun r hr => hd r (List.mem_of_mem_drop hr)⟩,
    by rw [c.received_receive hs, h.received], ?_, ?_⟩
  · rw [c.receive_of_stream hs]; exact h.fit
  · rw [c.receive_of_stream hs]; exact h.incomplete

/-- A call with a whole frame received reads its header, and leaves its body at the
front of `recv_buf`; the reads it took are the fewest that hold the frame. -/
theorem pollReadHeader_cons (h : Receiving c (f :: fs) part) :
    ∃ k, (∀ j < k, (c.receive j).recvBuf.length < f.length + 4) ∧
      f.length + 4 ≤ (c.receive k).recvBuf.length ∧
      pollReadHeader c = .ok (.ready f.bodyLen)
        { c.receive k with
          responseHeader := f.header
          recvBuf := (c.receive k).recvBuf.drop (4 + (encodeDelimited (encodeMessage f.fields)).length) } := by
  obtain ⟨s, hs, -, hd⟩ := h.stream
  have hrecv := h.received
  simp only [List.map_cons, List.flatten_cons, List.append_assoc] at hrecv
  have hlen : f.length + 4 ≤ c.received.length := by
    rw [hrecv, List.length_append, f.length_bytes]; omega
  -- the prefix
  obtain ⟨k1, hmin1, hk1⟩ := fillTo_spec hs hd 4
  rcases hk1 with ⟨hl1, hf1⟩ | ⟨-, hlt, -⟩
  swap; · omega
  have hbe : readBE32 (c.receive k1).recvBuf = f.length := by
    have hpre := eq_append_drop_of_append_eq
      (show (c.receive k1).recvBuf ++ (c.receive k1).incoming = be32 f.length ++ _ by
        rw [← Connection.received, c.received_receive hs, hrecv, f.bytes_eq, List.append_assoc])
      (by rw [be32_length]; exact hl1)
    rw [hpre, readBE32_be32 (n := f.length) f.length_lt]
  have hfit : f.length ≤ c.options.maxMessageLength := h.fit f (List.mem_cons_self _ _)
  -- the rest of the frame
  obtain ⟨k2, hmin2, hk2⟩ := fillTo_spec (c.stream?_receive hs k1)
    (fun r hr => hd r (List.mem_of_mem_drop hr)) (f.length + 4)
  rw [c.received_receive hs] at hk2
  rcases hk2 with ⟨hl2, hf2⟩ | ⟨-, hlt, -⟩
  swap; · omega
  rw [c.receive_receive hs] at hl2 hf2
  have hframe := eq_append_drop_of_append_eq
    (show (c.receive (k1 + k2)).recvBuf ++ (c.receive (k1 + k2)).incoming = f.bytes ++ _ by
      rw [← Connection.received, c.received_receive hs, hrecv])
    (by rw [f.length_bytes]; exact hl2)
  have hmerge : ResponseHeader.type.mergeDelimited ((c.receive (k1 + k2)).recvBuf.drop 4) =
      .ok (f.header, (encodeDelimited (encodeMessage f.fields)).length) := by
    rw [hframe, f.bytes_eq, List.append_assoc, List.drop_left' (be32_length _), List.append_assoc,
      f.mergeDelimited_header]
  refine ⟨k1 + k2, fun j hj => ?_, hl2, ?_⟩
  · by_cases hj1 : j < k1
    · have := hmin1 j hj1; omega
    · have := hmin2 (j - k1) (by omega)
      rwa [c.receive_receive hs, Nat.add_sub_cancel' (by omega)] at this
  · rw [pollReadHeader, tryReady_ready hf1]
    simp only [if_neg (show ¬(c.receive k1).recvBuf.length < 4 by omega), hbe,
      show (c.receive k1).options = c.options by rw [c.receive_of_stream hs],
      if_neg (Nat.not_lt.2 hfit)]
    rw [tryReady_ready hf2, parseResponseHeader_ok hmerge (by unfold ResponseFrame.length; omega),
      show f.length - (encodeDelimited (encodeMessage f.fields)).length = f.bodyLen by
        unfold ResponseFrame.length ResponseFrame.bodyLen; omega]

/-- After the frame's body is consumed, the rest of the frames are read. -/
theorem consume (h : Receiving c (f :: fs) part) {k : Nat}
    (hl : f.length + 4 ≤ (c.receive k).recvBuf.length) :
    Receiving { c.receive k with
      responseHeader := f.header
      recvBuf := ((c.receive k).recvBuf.drop (4 + (encodeDelimited (encodeMessage f.fields)).length)).drop f.bodyLen } fs part := by
  have hk := h.receive k
  refine ⟨hk.stream, ?_, fun f' hf' => hk.fit f' (List.mem_cons_of_mem _ hf'), hk.incomplete⟩
  have hrecv := hk.received
  simp only [List.map_cons, List.flatten_cons, List.append_assoc] at hrecv
  have hb : 4 + (encodeDelimited (encodeMessage f.fields)).length + f.bodyLen = f.bytes.length := by
    rw [f.length_bytes]; unfold ResponseFrame.bodyLen ResponseFrame.length; omega
  show List.drop _ (List.drop _ _) ++ (c.receive k).incoming = _
  rw [List.drop_drop, hb, ← List.drop_append_of_le_length (by rw [f.length_bytes]; exact hl),
    ← Connection.received, hrecv, List.drop_left]

/-- The body is at the front of what the call leaves in `recv_buf`. -/
theorem body_front (h : Receiving c (f :: fs) part) {k : Nat}
    (hl : f.length + 4 ≤ (c.receive k).recvBuf.length) :
    (c.receive k).recvBuf.drop (4 + (encodeDelimited (encodeMessage f.fields)).length) =
      encodeDelimited f.body ++ (c.receive k).recvBuf.drop (f.length + 4) := by
  have hrecv := (h.receive k).received
  simp only [List.map_cons, List.flatten_cons, List.append_assoc] at hrecv
  have hframe := eq_append_drop_of_append_eq hrecv (by rw [f.length_bytes]; exact hl)
  rw [f.length_bytes] at hframe
  conv_lhs => rw [hframe, f.bytes_eq]
  rw [List.append_assoc, List.append_assoc,
    show 4 + (encodeDelimited (encodeMessage f.fields)).length =
      (be32 f.length).length + (encodeDelimited (encodeMessage f.fields)).length from rfl,
    List.drop_append, List.drop_left]

/-- What the calls, the throttle and the signals are does not matter. -/
theorem congr_queues (h : Receiving c fs part) {q q' : CallMap} {t : Nat} {sig : List Signal} :
    Receiving { c with recvQueue := q, sendQueue := q', throttle := t, signals := sig } fs part :=
  ⟨h.stream, h.received, h.fit, h.incomplete⟩

/-- A call with a whole frame received returns its body length, with its header in
`response_header` and its body at the front of `recv_buf`, and leaves the queues, the
throttle and the signals as they were; once the body is consumed, the rest of the frames
are read. -/
theorem readHeader (h : Receiving c (f :: fs) part) :
    ∃ c1, pollReadHeader c = .ok (.ready f.bodyLen) c1 ∧ c1.responseHeader = f.header ∧
      c1.recvQueue = c.recvQueue ∧ c1.sendQueue = c.sendQueue ∧ c1.throttle = c.throttle ∧
      c1.signals = c.signals ∧ c1.options = c.options ∧ c1.writeBuf = c.writeBuf ∧
      f.bodyLen ≤ c1.recvBuf.length ∧
      c1.recvBuf.take f.bodyLen = encodeDelimited f.body ∧
      Receiving { c1 with recvBuf := c1.recvBuf.drop f.bodyLen } fs part := by
  obtain ⟨k, -, hl, hk⟩ := h.pollReadHeader_cons
  obtain ⟨buf, st, he⟩ := c.receive_frame k
  have hfront := h.body_front hl
  refine ⟨_, hk, rfl, by rw [he], by rw [he], by rw [he], by rw [he], by rw [he], by rw [he], ?_,
    ?_, h.consume hl⟩
  · show f.bodyLen ≤ (List.drop _ _).length
    rw [hfront]
    simp [ResponseFrame.bodyLen]
  · show (List.drop _ _).take _ = _
    rw [hfront]
    exact List.take_left' rfl

/-- With no whole frame received, a call moves every pending read into `recv_buf` and is
not ready. -/
theorem pollReadHeader_nil (h : Receiving c [] part) :
    ∃ k, pollReadHeader c = .ok .notReady (c.receive k) ∧ (c.receive k).recvBuf = part := by
  obtain ⟨s, hs, hc, hd⟩ := h.stream
  have hrecv : c.received = part := by simpa using h.received
  have hle : ∀ k, (c.receive k).recvBuf.length ≤ part.length := fun k => by
    rw [← hrecv, ← c.received_receive hs k, Connection.received, List.length_append]
    omega
  obtain ⟨k1, -, hk1⟩ := fillTo_spec hs hd 4
  rcases hk1 with ⟨hl1, hf1⟩ | ⟨hall, -, hf1⟩
  · rcases h.incomplete with hp | ⟨hmax, hp⟩
    · have := hle k1; omega
    have hbe : readBE32 (c.receive k1).recvBuf = readBE32 part := by
      rw [← hrecv, ← c.received_receive hs k1, Connection.received, readBE32_append hl1]
    obtain ⟨k2, -, hk2⟩ := fillTo_spec (c.stream?_receive hs k1)
      (fun r hr => hd r (List.mem_of_mem_drop hr)) (readBE32 part + 4)
    rw [c.received_receive hs, c.receive_receive hs, hrecv] at hk2
    rcases hk2 with ⟨hl2, -⟩ | ⟨hall2, -, hf2⟩
    · have := hle (k1 + k2); omega
    refine ⟨k1 + k2, ?_, hall2⟩
    rw [pollReadHeader, tryReady_ready hf1]
    simp only [if_neg (show ¬(c.receive k1).recvBuf.length < 4 by omega), hbe,
      show (c.receive k1).options = c.options by rw [c.receive_of_stream hs],
      if_neg (Nat.not_lt.2 hmax)]
    simp only [show s.closed = false from hc, c.stream?_receive hs k1] at hf2
    exact tryReady_notReady hf2 _
  · refine ⟨k1, ?_, hall.trans hrecv⟩
    simp only [hc] at hf1
    exact tryReady_notReady hf1 _

/-- The peer sends more bytes: with them, what has been received is the frames `fs`
and `fs'`, then `part'`. -/
theorem deliver (h : Receiving c fs part) {bs part' : List UInt8} {fs' : List ResponseFrame}
    (hbs : part ++ bs = (fs'.map ResponseFrame.bytes).flatten ++ part')
    (hfit : ∀ f ∈ fs', f.length ≤ c.options.maxMessageLength)
    (hinc : Incomplete c.options.maxMessageLength part') :
    Receiving (c.deliver bs) (fs ++ fs') part' := by
  obtain ⟨s, hs, hc, hd⟩ := h.stream
  have hopt : (c.deliver bs).options = c.options := by simp only [Connection.deliver, hs]
  refine ⟨⟨{ s with reads := s.reads ++ [.data bs] }, ?_, hc, fun r hr => ?_⟩, ?_, ?_, hopt ▸ hinc⟩
  · simp only [Connection.deliver, hs]
    exact State.stream?_withStream hs _
  · rcases List.mem_append.1 hr with hr | hr
    · exact hd r hr
    · simp only [List.mem_singleton] at hr; subst hr; rfl
  · rw [c.incoming_deliver hs, h.received, List.append_assoc, hbs]
    simp
  · intro f hf
    rw [hopt]
    rcases List.mem_append.1 hf with hf | hf
    · exact h.fit f hf
    · exact hfit f hf

end Receiving

/-! ## Successive calls -/

/-- Successive `poll_read_header` calls, the caller consuming each body, for at most `n`
frames: the header and body length of each frame, until a call is not ready. -/
def readFrames : Nat → ConnM (List (ResponseHeader × Nat))
  | 0 => pure []
  | n + 1 => pollReadHeader >>= fun
    | .notReady => pure []
    | .ready bodyLen => fun c =>
      (readFrames n >>= fun hs => pure ((c.responseHeader, bodyLen) :: hs))
        { c with recvBuf := c.recvBuf.drop bodyLen }

/-- Successive calls return the received frames' headers and body lengths, in order, and
leave the start of the next frame in `recv_buf`. -/
theorem Receiving.readFrames_eq {part : List UInt8} : ∀ {fs : List ResponseFrame} {c : Connection},
    Receiving c fs part → ∃ c', readFrames (fs.length + 1) c =
      .ok (fs.map fun f => (f.header, f.bodyLen)) c' ∧ c'.recvBuf = part
  | [], c, h => by
    obtain ⟨k, hk, hb⟩ := h.pollReadHeader_nil
    exact ⟨_, by rw [readFrames, ConnM.bind_ok hk]; rfl, hb⟩
  | f :: fs, c, h => by
    obtain ⟨k, -, hl, hk⟩ := h.pollReadHeader_cons
    obtain ⟨c', hc', hb⟩ := Receiving.readFrames_eq (h.consume hl)
    refine ⟨c', ?_, hb⟩
    rw [List.length_cons, readFrames, ConnM.bind_ok hk]
    exact ConnM.bind_ok hc' _



/-- Framing round trip. `buffer_message` appends the length of the rest and the two
length-delimited encodings; and over frames received in any segmentation, each call of
`poll_read_header` returns the next frame's header and body length with the body at the
front of `recv_buf`, after which the bytes held and pending are exactly those of the
later frames, so that successive calls return all the frames in order. -/
theorem frames_read_back :
    (∀ (header : RequestHeader) (msg : Message) (c : Connection),
      (encodeDelimited (encodeMessage header.toFields) ++
        encodeDelimited (encodeMessage msg)).length < 2 ^ 32 →
      bufferMessage header msg c = .ok () { c with writeBuf := c.writeBuf ++
        (be32 (encodeDelimited (encodeMessage header.toFields) ++
          encodeDelimited (encodeMessage msg)).length ++
        (encodeDelimited (encodeMessage header.toFields) ++ encodeDelimited (encodeMessage msg))) }) ∧
    (∀ (c : Connection) (f : ResponseFrame) (fs : List ResponseFrame) (part : List UInt8),
      Receiving c (f :: fs) part →
      ∃ c', pollReadHeader c = .ok (.ready f.bodyLen) c' ∧ c'.responseHeader = f.header ∧
        (∃ rest, c'.recvBuf = encodeDelimited f.body ++ rest) ∧
        Receiving { c' with recvBuf := c'.recvBuf.drop f.bodyLen } fs part) ∧
    (∀ (c : Connection) (fs : List ResponseFrame) (part : List UInt8), Receiving c fs part →
      ∃ c', readFrames (fs.length + 1) c = .ok (fs.map fun f => (f.header, f.bodyLen)) c' ∧
        c'.recvBuf = part) := by
  refine ⟨fun header msg c hl => ?_, fun c f fs part h => ?_, fun c fs part h => h.readFrames_eq⟩
  · rw [bufferMessage_frame header msg c hl, frame_eq]
  · obtain ⟨k, -, hl, hk⟩ := h.pollReadHeader_cons
    exact ⟨_, hk, rfl, ⟨_, h.body_front hl⟩, h.consume hl⟩

/-- A response under call id 1 with a two-byte body. -/
def oneFrame : ResponseFrame := .ofHeader ⟨1, false, []⟩ (by decide) [8, 1] (by decide)

/-- A connected connection whose socket returns `oneFrame` in two reads, split inside the
header. -/
def oneFrameSplit : Connection :=
  { Connection.new .default .pending with
    state := .connected ⟨[.data (oneFrame.bytes.take 6), .data (oneFrame.bytes.drop 6)], false, [], [], none⟩ }

theorem oneFrameSplit_receiving : Receiving oneFrameSplit [oneFrame] [] :=
  ⟨⟨_, rfl, rfl, by decide⟩, by decide, by decide, .inl (by decide)⟩

/-- The SASL NEGOTIATE request is framed, and `oneFrame`, split across two reads, is read
back. -/
theorem frames_read_back_at :
    bufferMessage (.ofCallId (-33)) saslNegotiate.toFields (Connection.new .default .pending) =
      .ok () { Connection.new .default .pending with writeBuf := [] ++
        (be32 (encodeDelimited (encodeMessage (RequestHeader.ofCallId (-33)).toFields) ++
          encodeDelimited (encodeMessage saslNegotiate.toFields)).length ++
        (encodeDelimited (encodeMessage (RequestHeader.ofCallId (-33)).toFields) ++
          encodeDelimited (encodeMessage saslNegotiate.toFields))) } ∧
    (∃ c', pollReadHeader oneFrameSplit = .ok (.ready oneFrame.bodyLen) c' ∧
      c'.responseHeader = oneFrame.header ∧
      (∃ rest, c'.recvBuf = encodeDelimited oneFrame.body ++ rest) ∧
      Receiving { c' with recvBuf := c'.recvBuf.drop oneFrame.bodyLen } [] []) ∧
    (∃ c', readFrames ([oneFrame].length + 1) oneFrameSplit =
      .ok ([oneFrame].map fun f => (f.header, f.bodyLen)) c' ∧ c'.recvBuf = []) :=
  ⟨frames_read_back.1 _ _ _ (by decide),
    frames_read_back.2.1 _ _ [] [] oneFrameSplit_receiving,
    frames_read_back.2.2 _ [oneFrame] [] oneFrameSplit_receiving⟩

end KuduRpc
