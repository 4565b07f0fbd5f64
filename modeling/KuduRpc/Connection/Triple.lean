import KuduRpc.Connection.Run

/-!
# Triples over the connection's code

`Triple P x Q E`: run from a state that satisfies `P`, `x` returns a value and a state
that satisfy `Q`, fails in a state that satisfies `E`, never returns, or panics for a
reason other than a misuse of the state (`Panic.misuse`: `State::stream`,
`State::stream_new` or `State::timeout` in a variant that lacks it, or a failed
`transition_*` assertion). `bind`, `tryReady` and `doWhileReady` compose triples.

Every function a poll runs has its triple here:

* on the socket (`pollFlush`, `readAtLeast`, the read path up to
  `poll_read_negotiation`) and in `buffer_message`, the calls, the throttle and the
  options stay as they were (`Frame`), and so does the state's kind;
* negotiation keeps them too, until SASL SUCCESS, after which the poll panics;
* `poll_read_connected` and `poll_write_connected` keep the ids of `recv_queue` apart
  from those of `send_queue` and within `i32::MAX`, and the throttle within
  `rpc_queue_len` (`CallsInv`).
-/

namespace KuduRpc

open Wire

/-- A panic that misuses the state. -/
def Panic.misuse : Panic → Bool
  | .unreachable .stateStream | .unreachable .stateStreamNew | .unreachable .stateTimeout => true
  | .debugAssert _ => true
  | _ => false

/-- What an outcome guarantees: `Q` of the value and the state after a return, `E` of the
state after an error, and no misuse in a panic. -/
def Outcome.Sat {α : Type} (Q : α → Connection → Prop) (E : Connection → Prop) : Outcome α → Prop
  | .ok a c => Q a c
  | .err _ c => E c
  | .panic p => p.misuse = false
  | .diverge => True

/-- `x` run from a state satisfying `P` ends as `Q` and `E` say. -/
def Triple {α : Type} (P : Connection → Prop) (x : ConnM α) (Q : α → Connection → Prop)
    (E : Connection → Prop) : Prop :=
  ∀ c, P c → (x c).Sat Q E

theorem Outcome.Sat.mono {α : Type} {Q Q' : α → Connection → Prop} {E E' : Connection → Prop}
    {o : Outcome α} (h : o.Sat Q E) (hQ : ∀ a c, Q a c → Q' a c) (hE : ∀ c, E c → E' c) :
    o.Sat Q' E' := by
  cases o with
  | ok a c => exact hQ a c h
  | err e c => exact hE c h
  | panic p => exact h
  | diverge => trivial

namespace Triple

variable {α β : Type} {P P' : Connection → Prop} {E E' : Connection → Prop}

theorem mono {x : ConnM α} {Q Q' : α → Connection → Prop} (h : Triple P x Q E)
    (hP : ∀ c, P' c → P c) (hQ : ∀ a c, Q a c → Q' a c) (hE : ∀ c, E c → E' c) :
    Triple P' x Q' E' :=
  fun c hc => (h c (hP c hc)).mono hQ hE

theorem bind {x : ConnM α} {f : α → ConnM β} {R : α → Connection → Prop}
    {Q : β → Connection → Prop} (hx : Triple P x R E) (hf : ∀ a, Triple (R a) (f a) Q E) :
    Triple P (x >>= f) Q E := by
  intro c hc
  have := hx c hc
  rw [ConnM.bind_apply]
  revert this
  cases x c with
  | ok a c' => exact hf a c'
  | err e c' => exact id
  | panic p => exact id
  | diverge => exact id

theorem tryReady {γ : Type} {x : ConnM (Async α)} {k : α → ConnM (Async γ)}
    {R : Async α → Connection → Prop} {Q : Async γ → Connection → Prop}
    (hx : Triple P x R E) (hk : ∀ a, Triple (R (.ready a)) (k a) Q E)
    (hn : ∀ c, R .notReady c → Q .notReady c) : Triple P (KuduRpc.tryReady x k) Q E :=
  bind hx fun
    | .ready a => hk a
    | .notReady => fun c hc => hn c hc

theorem pure (a : α) {Q : α → Connection → Prop} (h : ∀ c, P c → Q a c) :
    Triple P (Pure.pure a : ConnM α) Q E :=
  fun c hc => h c hc

/-- A loop whose body keeps `P` keeps it. -/
theorem doWhileReady {f : ConnM (Async Unit)} (hf : Triple P f (fun _ => P) E) :
    ∀ n, Triple P (KuduRpc.doWhileReady f n) (fun _ => P) E
  | 0 => fun _ _ => trivial
  | n + 1 => bind hf fun
    | .ready () => doWhileReady hf n
    | .notReady => fun _ hc => hc

end Triple

/-! ## Frames -/

/-- `c` holds the calls, the throttle and the options of `c0`. -/
def Frame (c0 c : Connection) : Prop :=
  c.sendQueue = c0.sendQueue ∧ c.recvQueue = c0.recvQueue ∧ c.throttle = c0.throttle ∧
    c.options = c0.options

theorem Frame.refl (c : Connection) : Frame c c := ⟨rfl, rfl, rfl, rfl⟩

/-- A state with a socket: `Negotiating` or `Connected`. -/
def Streaming (c : Connection) : Prop := c.state.kind = .negotiating ∨ c.state.kind = .connected

theorem Streaming.exists_stream {c : Connection} (h : Streaming c) : ∃ s, c.state.stream? = some s := by
  unfold Streaming at h
  cases hc : c.state <;> simp only [hc, State.kind, reduceCtorEq, or_self] at h <;>
    exact ⟨_, rfl⟩

/-- The states a function on the socket keeps: those with the calls, the throttle and the
options of `c0`, in a state of its kind. -/
def Keeps (c0 c : Connection) : Prop := Frame c0 c ∧ c.state.kind = c0.state.kind

theorem Keeps.refl (c : Connection) : Keeps c c := ⟨.refl c, rfl⟩

/-- Changing the buffers, the header and the state within its kind keeps. -/
theorem Keeps.update {c0 c : Connection} (h : Keeps c0 c) {st : State} (hst : st.kind = c.state.kind)
    (w b : List UInt8) (hd : ResponseHeader) :
    Keeps c0 { c with writeBuf := w, recvBuf := b, responseHeader := hd, state := st } :=
  ⟨h.1, hst.trans h.2⟩

theorem Keeps.streaming {c0 c : Connection} (h : Keeps c0 c) (h0 : Streaming c0) : Streaming c := by
  unfold Streaming; rw [h.2]; exact h0

/-! ## On the socket -/

section Socket

variable (c0 : Connection) (h0 : Streaming c0)
include h0

theorem stream_triple : Triple (Keeps c0) stream (fun _ => Keeps c0) (Keeps c0) := by
  intro c hc
  obtain ⟨s, hs⟩ := (hc.streaming h0).exists_stream
  simp only [stream, hs, Outcome.Sat]
  exact hc

theorem pollFlush_triple : Triple (Keeps c0) pollFlush (fun _ => Keeps c0) (Keeps c0) := by
  intro c hc
  obtain ⟨s, hs⟩ := (hc.streaming h0).exists_stream
  unfold pollFlush
  split
  · exact hc
  · simp only [hs]
    split <;> exact hc.update (State.kind_withStream _ _) _ _ _

theorem readAtLeast_triple (min : Nat) :
    Triple (Keeps c0) (readAtLeast min) (fun _ => Keeps c0) (Keeps c0) := by
  unfold readAtLeast
  split
  · refine (stream_triple c0 h0).bind fun s c hc => ?_
    split
    split <;> first | trivial | exact hc.update (State.kind_withStream _ _) _ _ _
  · exact Triple.pure _ fun c hc => hc

theorem fillTo_triple (n : Nat) : Triple (Keeps c0) (fillTo n) (fun _ => Keeps c0) (Keeps c0) := by
  intro c hc
  unfold fillTo
  split
  · exact readAtLeast_triple c0 h0 _ c hc
  · exact hc

end Socket

theorem parseResponseHeader_triple (c0 : Connection) (msgLen : Nat) :
    Triple (Keeps c0) (parseResponseHeader msgLen) (fun _ => Keeps c0) (Keeps c0) := by
  intro c hc
  unfold parseResponseHeader
  split
  · exact hc
  · split
    · rfl
    · exact hc

theorem pollReadHeader_triple (c0 : Connection) (h0 : Streaming c0) :
    Triple (Keeps c0) pollReadHeader (fun _ => Keeps c0) (Keeps c0) :=
  (fillTo_triple c0 h0 4).tryReady (fun () c hc => by
    dsimp only
    split
    · rfl
    · split
      · exact hc
      · exact (fillTo_triple c0 h0 _).tryReady (fun () => parseResponseHeader_triple c0 _)
          (fun _ h => h) c hc)
    (fun _ h => h)

theorem pollReadNegotiation_triple (c0 : Connection) (h0 : Streaming c0) :
    Triple (Keeps c0) pollReadNegotiation (fun _ => Keeps c0) (Keeps c0) :=
  (pollReadHeader_triple c0 h0).tryReady (fun bodyLen c hc => by
    repeat' split
    all_goals exact hc)
    (fun _ h => h)

theorem bufferMessage_triple (c0 : Connection) (header : RequestHeader) (msg : Message) :
    Triple (Keeps c0) (bufferMessage header msg) (fun _ => Keeps c0) (Keeps c0) := by
  intro c hc
  rcases bufferMessage_cases header msg c with h | h <;> rw [h]
  · rfl
  · exact hc

/-! ## Negotiation -/

/-- Negotiation keeps the calls, the throttle and the options, and the state
`Negotiating`, until SASL SUCCESS: the `Ready` it then returns is answered with a panic. -/
theorem negotiateLoop_triple (c0 : Connection) (h0 : c0.state.kind = .negotiating) :
    ∀ fuel, Triple (Keeps c0) (negotiateLoop fuel) (fun a c => a = .notReady → Keeps c0 c) (Keeps c0)
  | 0 => fun _ _ => trivial
  | fuel + 1 =>
    (pollFlush_triple c0 (.inl h0)).tryReady (fun () =>
      (pollReadNegotiation_triple c0 (.inl h0)).tryReady (fun msg c hc => by
        generalize msg.getState = st
        cases st
        case negotiate =>
          dsimp only
          split
          · exact (bufferMessage_triple c0 _ _).bind (fun () => negotiateLoop_triple c0 h0 fuel) c hc
          · exact hc
        case success =>
          -- SASL SUCCESS, in `Negotiating`: the transition holds
          have hk : c.state.kind = .negotiating := hc.2.trans h0
          cases hst : c.state <;> simp only [hst, State.kind, reduceCtorEq] at hk
          simp only [ConnM.bind_apply, transitionConnected, hst, ConnM.modify,
            bufferConnectionContext_eq, ConnM.pure_apply, Outcome.Sat, reduceCtorEq, false_implies]
        all_goals rfl)
        (fun _ h _ => h))
      (fun _ h _ => h)

theorem pollNegotiating_sat {c0 : Connection} (h0 : c0.state.kind = .negotiating) :
    (pollNegotiating c0).Sat (fun a c => a = .notReady → Keeps c0 c) (Keeps c0) :=
  negotiateLoop_triple c0 h0 _ c0 (.refl c0)

/-- `poll_connecting`: the connect attempt stands, fails, or completes, and negotiation
starts with the calls as they were. -/
theorem pollConnecting_sat {c0 : Connection} (h0 : c0.state.kind = .connecting) :
    (pollConnecting c0).Sat
      (fun a c => a = .notReady → Frame c0 c ∧ (c.state.kind = .negotiating ∨ c = c0)) (Frame c0) := by
  cases hst : c0.state with
  | connecting sn =>
    cases sn with
    | pending => simp only [pollConnecting, hst]; exact fun _ => ⟨.refl _, .inr rfl⟩
    | failed e => simp only [pollConnecting, hst]; exact .refl _
    | connected s =>
      cases hn : s.nodelay with
      | some e => simp only [pollConnecting, hst, hn]; exact .refl _
      | none =>
        rw [pollConnecting_connected hst hn]
        exact (pollNegotiating_sat (by rfl)).mono (fun _ _ h ha => ⟨(h ha).1, .inl (h ha).2⟩) fun _ h => h.1
  | _ => simp only [hst, State.kind, reduceCtorEq] at h0

/-- `poll_reset`: the timer stands, fails, or has elapsed, and a connect attempt starts
with the calls as they were. -/
theorem pollReset_sat {c0 : Connection} (h0 : c0.state.kind = .reset) (env : Env) :
    (pollReset env c0).Sat
      (fun a c => a = .notReady → Frame c0 c ∧
        (c.state.kind = .negotiating ∨ c = c0 ∨ c = { c0 with state := .connecting env.connect }))
      (Frame c0) := by
  cases hst : c0.state with
  | reset t =>
    obtain ⟨ms, status⟩ := t
    cases status with
    | pending => simp only [pollReset, hst]; exact fun _ => ⟨.refl _, .inr (.inl rfl)⟩
    | failed e => simp only [pollReset, hst]; exact .refl _
    | elapsed =>
      simp only [pollReset, hst, ConnM.bind_apply, transitionConnecting, State.kind, if_true]
      exact (pollConnecting_sat (by rfl)).mono
        (fun _ _ h ha => ⟨(h ha).1, (h ha).2.imp_right .inr⟩) fun _ h => h
  | _ => simp only [hst, State.kind, reduceCtorEq] at h0

/-! ## Connected -/

/-- The calls of a connection: the ids of `recv_queue` apart from those of `send_queue`
and within `i32::MAX`, and the throttle within `rpc_queue_len`. -/
def CallsInv (c : Connection) : Prop :=
  (∀ k ∈ c.recvQueue.keys, k ∉ c.sendQueue.keys) ∧ (∀ k ∈ c.recvQueue.keys, k ≤ i32Max) ∧
    c.throttle ≤ c.options.rpcQueueLen

/-- Fewer calls, and a throttle still within bounds, keep the invariant. -/
theorem CallsInv.of_sub {c c' : Connection} (h : CallsInv c)
    (hr : ∀ k ∈ c'.recvQueue.keys, k ∈ c.recvQueue.keys)
    (hs : ∀ k ∈ c'.sendQueue.keys, k ∈ c.sendQueue.keys)
    (ht : c'.throttle ≤ c'.options.rpcQueueLen) : CallsInv c' :=
  ⟨fun k hk hk' => h.1 k (hr k hk) (hs k hk'), fun k hk => h.2.1 k (hr k hk), ht⟩

theorem CallsInv.of_frame {c c' : Connection} (h : CallsInv c) (hf : Frame c c') : CallsInv c' := by
  obtain ⟨hs, hr, ht, ho⟩ := hf
  exact h.of_sub (by rw [hr]; exact fun _ => id) (by rw [hs]; exact fun _ => id)
    (by rw [ht, ho]; exact h.2.2)

/-- A connected state whose calls satisfy `CallsInv`. -/
def ConnectedInv (c : Connection) : Prop := c.state.kind = .connected ∧ CallsInv c

theorem ConnectedInv.of_keeps {c c' : Connection} (h : ConnectedInv c) (hk : Keeps c c') :
    ConnectedInv c' :=
  ⟨hk.2.trans h.1, h.2.of_frame hk.1⟩

/-- Taking a call out of `recv_queue` keeps the invariant. -/
theorem CallsInv.remove {c : Connection} (h : CallsInv c) {callId : Nat} {r? : Option Rpc}
    {q : CallMap} (hrm : c.recvQueue.remove callId = (r?, q)) : CallsInv { c with recvQueue := q } :=
  h.of_sub (fun _ hk => (CallMap.mem_keys_remove.1 (by rw [hrm]; exact hk)).2) (fun _ => id) h.2.2

theorem readErrorResponse_sat {c : Connection} (h : ConnectedInv c) (callId bodyLen : Nat) :
    (readErrorResponse callId bodyLen c).Sat (fun _ => ConnectedInv) CallsInv := by
  unfold readErrorResponse
  rcases hrm : c.recvQueue.remove callId with ⟨r?, q⟩
  have hq := h.2.remove hrm
  split
  · rfl
  split
  · exact h.2
  dsimp only
  split
  · exact hq
  · exact ⟨h.1, hq⟩

theorem completeCall_eq (callId : Nat) (c : Connection) :
    completeCall callId c = .ok ()
      { c with
        recvQueue := (c.recvQueue.remove callId).2
        signals := c.signals ++ ((c.recvQueue.remove callId).1.map Signal.complete).toList
        throttle := if c.throttle < c.options.rpcQueueLen then c.throttle + 1 else c.throttle } :=
  rfl

theorem readSuccessResponse_sat {c : Connection} (h : ConnectedInv c) (callId bodyLen : Nat) :
    (readSuccessResponse callId bodyLen c).Sat (fun _ => ConnectedInv) CallsInv := by
  unfold readSuccessResponse
  split
  · exact h
  split
  · rfl
  dsimp only
  split
  · exact h.2.of_sub (by simp) (fun _ => id) h.2.2.2
  split
  · rfl
  rw [ConnM.bind_ok (completeCall_eq _ _)]
  refine ⟨h.1, h.2.of_sub (fun k hk => ?_) (fun _ => id) ?_⟩
  · exact CallMap.keys_modify c.recvQueue callId _ ▸ (CallMap.mem_keys_remove.1 hk).2
  · have := h.2.2.2
    dsimp only
    split <;> omega

theorem pollReadConnected_triple :
    Triple ConnectedInv pollReadConnected (fun _ => ConnectedInv) CallsInv := fun c hc =>
  ((pollReadHeader_triple c (.inr hc.1)).mono (fun _ h => h) (fun _ _ h => h)
      (fun _ h => hc.2.of_frame h.1)).tryReady
    (fun bodyLen c1 hc1 => by
      have h1 := hc.of_keeps hc1
      split
      · exact readErrorResponse_sat h1 _ _
      · exact readSuccessResponse_sat h1 _ _)
    (fun _ h => hc.of_keeps h) c (.refl c)

theorem flushIfFull_triple (c0 : Connection) (h0 : Streaming c0) :
    Triple (Keeps c0) flushIfFull (fun _ => Keeps c0) (Keeps c0) := by
  intro c hc
  unfold flushIfFull
  split
  · have := pollFlush_triple c0 h0 c hc
    revert this
    cases pollFlush c <;> exact id
  · exact hc

/-- Moving the call `callId` to `recv_queue`, when it is in neither queue. -/
theorem sendCall_sat {c : Connection} (h : ConnectedInv c) (now callId : Nat) (rpc : Rpc)
    (hs : callId ∉ c.sendQueue.keys) (hr : callId ∉ c.recvQueue.keys) :
    (sendCall now callId rpc c).Sat (fun _ => ConnectedInv) CallsInv := by
  unfold sendCall
  split
  · exact h
  split
  · exact h
  split
  · exact h.2
  rename_i hle
  rcases bufferMessage_cases (requestHeader callId rpc now) rpc.request c with hb | hb <;>
    rw [ConnM.bind_apply, hb]
  · rfl
  refine ⟨h.1, fun k hk => ?_, fun k hk => ?_, h.2.2.2⟩ <;>
    rcases List.mem_append.1 ((CallMap.keys_insert_of_not_mem hr rpc) ▸ hk) with hk | hk
  · exact h.2.1 k hk
  · rw [List.mem_singleton.1 hk]; exact hs
  · exact h.2.2.1 k hk
  · rw [List.mem_singleton.1 hk]; unfold i32Max at hle ⊢; omega

theorem pollWriteConnected_triple (now : Nat) :
    Triple ConnectedInv (pollWriteConnected now) (fun _ => ConnectedInv) CallsInv := fun c hc =>
  ((flushIfFull_triple c (.inr hc.1)).mono (fun _ h => h) (fun _ _ h => h)
      (fun _ h => hc.2.of_frame h.1)).bind (fun full c1 hc1 => by
      have h1 := hc.of_keeps hc1
      split
      · exact h1
      split
      · exact h1
      split
      · exact h1
      next q1 hp1 =>
      split
      · rfl
      next callId rpc q2 hp2 =>
      -- the second call popped goes to `recv_queue`; the first is dropped
      have hk1 := CallMap.keys_pop hp1
      have hk2 := CallMap.keys_pop hp2
      have hnd := c1.sendQueue.keys_nodup
      rw [hk1, hk2] at hnd
      have hsub : ∀ k ∈ q2.keys, k ∈ c1.sendQueue.keys := fun k hk => by
        rw [hk1, hk2]; exact List.mem_cons_of_mem _ (List.mem_cons_of_mem _ hk)
      have h2 : ConnectedInv { c1 with sendQueue := q2 } :=
        ⟨h1.1, h1.2.of_sub (fun _ => id) hsub h1.2.2.2⟩
      refine sendCall_sat h2 now callId rpc (List.nodup_cons.1 (List.nodup_cons.1 hnd).2).1
        fun hr => h1.2.1 callId hr ?_
      rw [hk1, hk2]
      exact List.mem_cons_of_mem _ (List.mem_cons_self _ _)) c (.refl c)

/-- `poll_connected`: reading and sending keep the invariant of the calls. -/
theorem pollConnected_triple (now : Nat) :
    Triple ConnectedInv (pollConnected now) (fun _ => ConnectedInv) CallsInv := by
  intro c hc
  unfold pollConnected
  refine (Triple.doWhileReady pollReadConnected_triple _).bind (fun () c1 hc1 => ?_) c hc
  refine (Triple.doWhileReady (pollWriteConnected_triple now) _).bind (fun () c2 hc2 => ?_) c1 hc1
  exact ((pollFlush_triple c2 (.inr hc2.1)).tryReady (fun () => Triple.pure _ fun c3 h3 => hc2.of_keeps h3)
    (fun c3 h3 => hc2.of_keeps h3) c2 (.refl c2)).mono (fun _ _ h => h) fun _ h => hc2.2.of_frame h.1

end KuduRpc
