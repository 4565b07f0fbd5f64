import KuduRpc.Connection.Framing

/-!
# SASL negotiation

`poll_negotiating` flushes, reads one SASL message, and answers NEGOTIATE with INITIATE
and SUCCESS with `Ready`. `poll_read_negotiation` accepts a reply only under call id 33,
while the client sends its SASL messages under -33, the id a server's replies carry:

* `negotiation_refuses_conforming_replies`: every reply under -33 is refused and the poll
  that reads it resets the connection; a SUCCESS under 33 makes `poll_negotiating` return
  `Ready`, which `Future::poll` meets with `unreachable!()`; any other state under 33
  reaches the `unreachable!` of `poll_negotiating`.
-/

namespace KuduRpc

open Wire

/-! ## Flushing -/

theorem flushLoop_accept {buf sent : List UInt8} {n : Nat} (ws : List WriteResult)
    (hne : buf ≠ []) (hn : buf.length ≤ n) :
    flushLoop buf (.accept n :: ws) sent = ([], ws, sent ++ buf, .done) := by
  obtain ⟨b, bs, rfl⟩ := List.exists_cons_of_ne_nil hne
  have h0 : n ≠ 0 := by simp only [List.length_cons] at hn; omega
  rw [flushLoop, if_neg h0, List.drop_eq_nil_of_le hn, List.take_of_length_le hn, flushLoop]

/-- `poll_flush` gets `write_buf` out at once: it is empty, or the socket's next write
accepts all of it. -/
def Flushes (c : Connection) : Prop :=
  c.writeBuf = [] ∨
    ∃ s n ws, c.state.stream? = some s ∧ s.writes = .accept n :: ws ∧ c.writeBuf.length ≤ n

/-- A flush that gets everything out changes only `write_buf` and the socket's writes. -/
theorem pollFlush_of_flushes {c : Connection} (h : Flushes c) :
    ∃ st, pollFlush c = .ok (.ready ()) { c with writeBuf := [], state := st } ∧
      st.kind = c.state.kind ∧
      ∀ s, c.state.stream? = some s → ∃ s', st.stream? = some s' ∧ s'.reads = s.reads ∧
        s'.closed = s.closed := by
  by_cases hb : c.writeBuf = []
  · -- nothing to write
    refine ⟨c.state, ?_, rfl, fun s hs => ⟨s, hs, rfl, rfl⟩⟩
    simp only [pollFlush, if_pos hb]
    rw [← hb]
  obtain ⟨s, n, ws, hs, hw, hn⟩ := h.resolve_left hb
  refine ⟨c.state.withStream { s with writes := ws, sent := s.sent ++ c.writeBuf }, ?_,
    State.kind_withStream _ _, fun s' hs' => ⟨_, State.stream?_withStream hs _, ?_⟩⟩
  · simp only [pollFlush, if_neg hb, hs, hw, flushLoop_accept ws hb hn]
  · rw [hs] at hs'; cases hs'; exact ⟨rfl, rfl⟩

/-- Flushing leaves the bytes being received as they were. -/
theorem Receiving.flush {c : Connection} {fs : List ResponseFrame} {part : List UInt8}
    (h : Receiving c fs part) (hf : Flushes c) :
    ∃ st, pollFlush c = .ok (.ready ()) { c with writeBuf := [], state := st } ∧
      st.kind = c.state.kind ∧ Receiving { c with writeBuf := [], state := st } fs part := by
  obtain ⟨st, hp, hk, hst⟩ := pollFlush_of_flushes hf
  obtain ⟨s, hs, hc, hd⟩ := h.stream
  obtain ⟨s', hs', hr, hcl⟩ := hst s hs
  refine ⟨st, hp, hk, ⟨s', hs', hcl ▸ hc, hr ▸ hd⟩, ?_, h.fit, h.incomplete⟩
  have hi : ({ c with writeBuf := [], state := st } : Connection).incoming = c.incoming := by
    rw [Connection.incoming_of_stream (c := { c with writeBuf := [], state := st }) hs',
      c.incoming_of_stream hs, Socket.incoming, Socket.incoming, hr]
  rw [← h.received, Connection.received, Connection.received, hi]

/-! ## Reading a SASL message -/

/-- A reply under an id other than 33 is refused. -/
theorem pollReadNegotiation_illegal {c c1 : Connection} {bodyLen : Nat}
    (hh : pollReadHeader c = .ok (.ready bodyLen) c1) (hid : c1.responseHeader.callId ≠ 33) :
    pollReadNegotiation c =
      .err (.rpc (.invalidRpcHeader "negotiation RPC response header has illegal call id")) c1 := by
  rw [pollReadNegotiation, tryReady_ready hh]
  simp only [if_pos hid]

/-- A SASL message under id 33, alone in `recv_buf`, is returned and consumed. -/
theorem pollReadNegotiation_sasl {c c1 : Connection} {bodyLen : Nat} {msg : SaslMessagePB}
    (hh : pollReadHeader c = .ok (.ready bodyLen) c1) (hid : c1.responseHeader = ⟨33, false, []⟩)
    (hlen : c1.recvBuf.length = bodyLen)
    (hp : SaslMessagePB.type.parseDelimited c1.recvBuf = .ok (msg, bodyLen)) :
    pollReadNegotiation c = .ok (.ready msg) { c1 with recvBuf := c1.recvBuf.drop bodyLen } := by
  rw [pollReadNegotiation, tryReady_ready hh]
  simp only [hid, hlen, hp, ne_eq, not_true_eq_false, if_false, Bool.false_eq_true]

/-! ## The negotiation loop -/

section Loop

variable {n : Nat} {c c1 c2 : Connection} {msg : SaslMessagePB}

theorem negotiateLoop_err {e : Error} (hf : pollFlush c = .ok (.ready ()) c1)
    (hr : pollReadNegotiation c1 = .err e c2) : negotiateLoop (n + 1) c = .err e c2 := by
  rw [negotiateLoop, tryReady_ready hf, tryReady_err hr]

/-- After SUCCESS the connection is `Connected`, the backoff reset and the connection
context buffered, and the loop returns `Ready`. -/
theorem negotiateLoop_success {s : Socket} (hf : pollFlush c = .ok (.ready ()) c1)
    (hr : pollReadNegotiation c1 = .ok (.ready msg) c2) (hs : msg.getState = .success)
    (hst : c2.state = .negotiating s) :
    negotiateLoop (n + 1) c = .ok (.ready ())
      { c2 with
        state := .connected s
        resetBackoff := c2.resetBackoff.reset
        writeBuf := c2.writeBuf ++ connectionContextFrame } := by
  rw [negotiateLoop, tryReady_ready hf, tryReady_ready hr]
  simp only [hs, ConnM.bind_apply, transitionConnected, hst, ConnM.modify,
    bufferConnectionContext_eq, ConnM.pure_apply]

theorem negotiateLoop_other (hf : pollFlush c = .ok (.ready ()) c1)
    (hr : pollReadNegotiation c1 = .ok (.ready msg) c2) (hn : msg.getState ≠ .negotiate)
    (hs : msg.getState ≠ .success) :
    negotiateLoop (n + 1) c = .panic (.unreachable .saslState) := by
  rw [negotiateLoop, tryReady_ready hf, tryReady_ready hr]
  cases h : msg.getState
  case negotiate => exact absurd h hn
  case success => exact absurd h hs
  all_goals rfl

end Loop

/-! ## One round of negotiation -/

section Round

variable {c : Connection} {f : ResponseFrame} {fs : List ResponseFrame} {part : List UInt8}
  {msg : SaslMessagePB}

/-- `poll_negotiating` refuses a first reply under an id other than 33. -/
theorem Receiving.pollNegotiating_illegal (h : Receiving c (f :: fs) part) (hf : Flushes c)
    (hid : f.header.callId ≠ 33) :
    ∃ c', pollNegotiating c =
      .err (.rpc (.invalidRpcHeader "negotiation RPC response header has illegal call id")) c' := by
  obtain ⟨st, hp, -, hr⟩ := h.flush hf
  obtain ⟨k, -, -, hk⟩ := hr.pollReadHeader_cons
  exact ⟨_, negotiateLoop_err hp (pollReadNegotiation_illegal hk hid)⟩

/-- A SASL reply under id 33 that is all the connection receives is read. -/
theorem Receiving.pollReadNegotiation_only (h : Receiving c [f] [])
    (hid : f.header = ⟨33, false, []⟩)
    (hp : SaslMessagePB.type.parseDelimited (encodeDelimited f.body) = .ok (msg, f.bodyLen)) :
    ∃ c', pollReadNegotiation c = .ok (.ready msg) c' ∧ c'.state.kind = c.state.kind := by
  obtain ⟨s, hs, -, -⟩ := h.stream
  obtain ⟨k, -, hl, hk⟩ := h.pollReadHeader_cons
  have hall : ((c.receive k).recvBuf.drop (f.length + 4)) = [] := by
    apply List.drop_eq_nil_of_le
    have := congrArg List.length h.received
    rw [← c.received_receive hs k, Connection.received] at this
    simp only [List.length_append, List.map_cons, List.map_nil, List.flatten_cons,
      List.flatten_nil, List.append_nil, f.length_bytes] at this
    omega
  have hbody := h.body_front hl
  rw [hall, List.append_nil] at hbody
  refine ⟨_, pollReadNegotiation_sasl hk hid (by rw [hbody]; rfl) (by rw [hbody]; exact hp), ?_⟩
  exact c.kind_receive k

/-- SASL SUCCESS under id 33 makes `poll_negotiating` return `Ready`. -/
theorem Receiving.pollNegotiating_success (h : Receiving c [f] []) (hf : Flushes c)
    (hk : c.state.kind = .negotiating) (hid : f.header = ⟨33, false, []⟩)
    (hp : SaslMessagePB.type.parseDelimited (encodeDelimited f.body) = .ok (msg, f.bodyLen))
    (hs : msg.getState = .success) : ∃ c', pollNegotiating c = .ok (.ready ()) c' := by
  obtain ⟨st, hfl, hst, hr⟩ := h.flush hf
  obtain ⟨c2, hr2, hk2⟩ := hr.pollReadNegotiation_only hid hp
  obtain ⟨s, hs2⟩ : ∃ s, c2.state = .negotiating s := by
    rw [hst, hk] at hk2
    cases h2 : c2.state <;> simp only [h2, State.kind, reduceCtorEq] at hk2
    exact ⟨_, rfl⟩
  exact ⟨_, negotiateLoop_success hfl hr2 hs hs2⟩

/-- A SASL state other than NEGOTIATE and SUCCESS under id 33 reaches the
`unreachable!` of `poll_negotiating`. -/
theorem Receiving.pollNegotiating_other (h : Receiving c [f] []) (hf : Flushes c)
    (hid : f.header = ⟨33, false, []⟩)
    (hp : SaslMessagePB.type.parseDelimited (encodeDelimited f.body) = .ok (msg, f.bodyLen))
    (hn : msg.getState ≠ .negotiate) (hs : msg.getState ≠ .success) :
    pollNegotiating c = .panic (.unreachable .saslState) := by
  obtain ⟨st, hfl, -, hr⟩ := h.flush hf
  obtain ⟨c2, hr2, -⟩ := hr.pollReadNegotiation_only hid hp
  exact negotiateLoop_other hfl hr2 hn hs

end Round

/-- SASL negotiation. A completed connect buffers the connection header and SASL
NEGOTIATE under call id -33. Every reply under -33, the id a conforming server answers
with, is refused, and the poll that reads it resets the connection, so that no conforming
handshake reaches `Connected`. A SUCCESS under id 33 makes the poll panic at
`Future::poll`'s `unreachable!()`, and any state other than NEGOTIATE and SUCCESS under
id 33 at `poll_negotiating`'s. -/
theorem negotiation_refuses_conforming_replies :
    (∀ (c : Connection) (s : Socket), c.state = .connecting (.connected s) → s.nodelay = none →
      pollConnecting c = pollNegotiating { c with
        state := .negotiating s
        writeBuf := c.writeBuf ++ (utf8 "hrpc" ++ [9, 0, 0]) ++ saslNegotiateFrame }) ∧
    (∀ (env : Env) (c : Connection) (f : ResponseFrame) (fs : List ResponseFrame)
      (part : List UInt8), c.state.kind = .negotiating → Flushes c → Receiving c (f :: fs) part →
      f.header.callId = -33 →
      ∃ c' : Connection, c.poll env = .ok () (c'.reset (.rpc (.invalidRpcHeader
        "negotiation RPC response header has illegal call id")) env.now env.jitter)) ∧
    (∀ (env : Env) (c : Connection) (f : ResponseFrame) (msg : SaslMessagePB),
      c.state.kind = .negotiating → Flushes c → Receiving c [f] [] → f.header = ⟨33, false, []⟩ →
      SaslMessagePB.type.parseDelimited (encodeDelimited f.body) = .ok (msg, f.bodyLen) →
      msg.getState = .success → c.poll env = .panic (.unreachable .pollReady)) ∧
    (∀ (env : Env) (c : Connection) (f : ResponseFrame) (msg : SaslMessagePB),
      c.state.kind = .negotiating → Flushes c → Receiving c [f] [] → f.header = ⟨33, false, []⟩ →
      SaslMessagePB.type.parseDelimited (encodeDelimited f.body) = .ok (msg, f.bodyLen) →
      msg.getState ≠ .negotiate → msg.getState ≠ .success →
      c.poll env = .panic (.unreachable .saslState)) := by
  refine ⟨fun c s hst hn => pollConnecting_connected hst hn, ?_, ?_, ?_⟩
  · intro env c f fs part hk hf h hid
    obtain ⟨c', hc'⟩ := h.pollNegotiating_illegal hf (by rw [hid]; decide)
    exact ⟨c', Connection.poll_of_err (by rw [pollState_of_negotiating hk, hc'])⟩
  · intro env c f msg hk hf h hid hp hs
    obtain ⟨c', hc'⟩ := h.pollNegotiating_success hf hk hid hp hs
    exact Connection.poll_of_ready (by rw [pollState_of_negotiating hk, hc'])
  · intro env c f msg hk hf h hid hp hn hs
    exact Connection.poll_of_panic (by rw [pollState_of_negotiating hk, h.pollNegotiating_other hf hid hp hn hs])

/-! ## Replies -/

/-- NEGOTIATE offering `PLAIN`. -/
def negotiateReply : SaslMessagePB :=
  { SaslMessagePB.new with state := some .negotiate, auths := [⟨none, some (utf8 "PLAIN"), none⟩] }

/-- SUCCESS. -/
def successReply : SaslMessagePB := { SaslMessagePB.new with state := some .success }

/-- CHALLENGE, with an empty token. -/
def challengeReply : SaslMessagePB := { SaslMessagePB.new with state := some .challenge, token := some [] }

/-- A SASL reply framed under call id `callId`. -/
def saslReply (callId : Int) (hid : (⟨callId, false, []⟩ : ResponseHeader).Valid) (msg : SaslMessagePB)
    (hl : (encodeDelimited (encodeMessage (ResponseHeader.toFields ⟨callId, false, []⟩))).length +
      (encodeDelimited (encodeMessage msg.toFields)).length < 2 ^ 32) : ResponseFrame :=
  .ofHeader ⟨callId, false, []⟩ hid (encodeMessage msg.toFields) hl

/-- A negotiating connection with nothing buffered, whose socket returns the frame `f` and
accepts no writes. -/
def negotiatingWith (f : ResponseFrame) : Connection :=
  { Connection.new .default .pending with state := .negotiating ⟨[.data f.bytes], false, [], [], none⟩ }

theorem negotiatingWith_receiving (f : ResponseFrame) (hf : f.length ≤ 5 * 1024 * 1024) :
    Receiving (negotiatingWith f) [f] [] :=
  .of_reads rfl rfl rfl rfl (by simpa using hf)

/-- A conforming NEGOTIATE reply resets the connection; SUCCESS and CHALLENGE under 33
panic. -/
theorem negotiation_replies :
    pollConnecting { Connection.new .default (.connected ⟨[], false, [], [], none⟩) with } =
      pollNegotiating { Connection.new .default (.connected ⟨[], false, [], [], none⟩) with
        state := .negotiating ⟨[], false, [], [], none⟩
        writeBuf := [] ++ (utf8 "hrpc" ++ [9, 0, 0]) ++ saslNegotiateFrame } ∧
    (∃ c' : Connection, (negotiatingWith (saslReply (-33) (by decide) negotiateReply (by decide))).poll env0 =
      .ok () (c'.reset (.rpc (.invalidRpcHeader
        "negotiation RPC response header has illegal call id")) env0.now env0.jitter)) ∧
    (negotiatingWith (saslReply 33 (by decide) successReply (by decide))).poll env0 =
      .panic (.unreachable .pollReady) ∧
    (negotiatingWith (saslReply 33 (by decide) challengeReply (by decide))).poll env0 =
      .panic (.unreachable .saslState) :=
  ⟨negotiation_refuses_conforming_replies.1 _ _ rfl rfl,
    negotiation_refuses_conforming_replies.2.1 env0 _ _ [] [] rfl (.inl rfl)
      (negotiatingWith_receiving _ (by decide)) rfl,
    negotiation_refuses_conforming_replies.2.2.1 env0 _ _ successReply rfl (.inl rfl)
      (negotiatingWith_receiving _ (by decide)) rfl rfl rfl,
    negotiation_refuses_conforming_replies.2.2.2 env0 _ _ challengeReply rfl (.inl rfl)
      (negotiatingWith_receiving _ (by decide)) rfl rfl (by decide) (by decide)⟩

end KuduRpc
