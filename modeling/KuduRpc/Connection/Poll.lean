import KuduRpc.Connection.Write

/-!
# The state machine

`Future::poll` runs the poll function of the current state, and resets the connection
on an error. `poll_negotiating` and `poll_connected` loop until the socket would block;
in the model each loop is given as many rounds as there are bytes or calls it can
consume, so it never runs short (a round that continues consumes a frame, or a call).

`poll_negotiating` returns `Ready` after SASL SUCCESS, and `Future::poll` answers
`Ready` with `unreachable!()`.
-/

namespace KuduRpc

open Wire

/-- What the reactor supplies to one poll: `Instant::now()`, the random draw of the
backoff's jitter, and the connect attempt a `TcpStream::connect` made during the poll
starts as. -/
structure Env where
  now : Nat
  jitter : Nat
  connect : StreamNew
  deriving DecidableEq, Repr

/-- The bytes of a socket's pending reads. -/
def ReadResult.size : ReadResult → Nat
  | .data bs => bs.length
  | .error _ => 0

/-- The bytes a read loop can still consume: those buffered and those of the socket's
pending reads. -/
def Connection.available (c : Connection) : Nat :=
  c.recvBuf.length + ((c.state.stream?.map fun s => (s.reads.map ReadResult.size).sum).getD 0)

/-- `while let Async::Ready(..) = f()? { }`, for at most `fuel` rounds. -/
def doWhileReady (f : ConnM (Async Unit)) : Nat → ConnM Unit
  | 0 => ConnM.diverge
  | fuel + 1 => f >>= fun
    | .ready () => doWhileReady f fuel
    | .notReady => pure ()

/-- `Connection::throttle`. -/
def Connection.throttleDown (c : Connection) : Connection :=
  { c with throttle := min c.throttle c.options.rpcQueueLen / 2 }

/-- The loop of `reset` over the drained calls: a cancelled call is dropped, a timed-out
one failed with `TimedOut`, a fail-fast one with the error, and the others kept for a
retry, in order. Returns the signals and the retries. -/
def resetDrain (error : Error) (now : Nat) : List (Nat × Rpc) → List Signal × List (Nat × Rpc)
  | [] => ([], [])
  | (callId, rpc) :: es =>
    match resetDrain error now es with
    | (signals, retries) =>
      if rpc.cancelled then (signals, retries)
      else if rpc.timedOut now then (.fail rpc .timedOut :: signals, retries)
      else if rpc.failFast then (.fail rpc error :: signals, retries)
      else (signals, (callId, rpc) :: retries)

/-- `send_queue.insert` of each retry, in order. -/
def insertAll (q : CallMap) (es : List (Nat × Rpc)) : CallMap :=
  es.foldl (fun q e => q.insert e.1 e.2) q

/-- `Connection::reset`: arm the backoff timer, clear both buffers, drain `recv_queue`
then `send_queue`, and requeue the retries. -/
def Connection.reset (error : Error) (now jitter : Nat) (c : Connection) : Connection :=
  match c.resetBackoff.nextBackoffMs jitter, resetDrain error now (c.recvQueue.drain ++ c.sendQueue.drain) with
  | (ms, backoff), (signals, retries) =>
    { c with
      state := .reset ⟨ms, .pending⟩
      resetBackoff := backoff
      recvBuf := []
      writeBuf := []
      recvQueue := .empty
      sendQueue := insertAll .empty retries
      signals := c.signals ++ signals }

/-- Whether the auths of a NEGOTIATE reply offer `PLAIN`. -/
def offersPlain (msg : SaslMessagePB) : Bool :=
  msg.auths.any fun a => a.getMechanism == utf8 "PLAIN"

/-- The loop of `poll_negotiating`, for at most `fuel` rounds. -/
def negotiateLoop : Nat → ConnM (Async Unit)
  | 0 => ConnM.diverge
  | fuel + 1 =>
    tryReady pollFlush fun () => tryReady pollReadNegotiation fun msg =>
      match msg.getState with
      | .negotiate =>
        if offersPlain msg then bufferSaslInitiate >>= fun () => negotiateLoop fuel
        else ConnM.throw (.negotiationError "SASL PLAIN authentication not available")
      | .success =>
        transitionConnected >>= fun () =>
        ConnM.modify (fun c => { c with resetBackoff := c.resetBackoff.reset }) >>= fun () =>
        bufferConnectionContext >>= fun () => pure (.ready ())
      | _ => ConnM.panic (.unreachable .saslState)

/-- `poll_negotiating`. -/
def pollNegotiating : ConnM (Async Unit) := fun c => negotiateLoop (c.available + 1) c

/-- `poll_connecting`: once the connect attempt is done, set the socket options, buffer
the connection header and SASL NEGOTIATE, and negotiate. -/
def pollConnecting : ConnM (Async Unit) := fun c =>
  match c.state with
  | .connecting .pending => .ok .notReady c
  | .connecting (.failed e) => .err (.io e) c
  | .connecting (.connected s) =>
    match s.nodelay with
    | some e => .err (.io e) c
    | none =>
      (transitionNegotiating s >>= fun () => bufferConnectionHeader >>= fun () =>
        bufferSaslNegotiate >>= fun () => pollNegotiating) c
  | _ => .panic (.unreachable .stateStreamNew)

/-- `poll_connected`: read responses, then send calls, while each is ready; then
flush. -/
def pollConnected (now : Nat) : ConnM (Async Unit) := fun c =>
  (doWhileReady pollReadConnected (c.available + 1) >>= fun () c1 =>
    (doWhileReady (pollWriteConnected now) (c1.sendQueue.len + 1) >>= fun () =>
      tryReady pollFlush fun () => pure .notReady) c1) c

/-- `poll_reset`: once the timer has elapsed, start a new connect attempt and poll it. -/
def pollReset (env : Env) : ConnM (Async Unit) := fun c =>
  match c.state with
  | .reset ⟨_, .pending⟩ => .ok .notReady c
  | .reset ⟨_, .failed e⟩ => .err (.io e) c
  | .reset ⟨_, .elapsed⟩ => (transitionConnecting env.connect >>= fun () => pollConnecting) c
  | _ => .panic (.unreachable .stateTimeout)

/-- The poll function of the current state. -/
def pollState (env : Env) : ConnM (Async Unit) := fun c =>
  match c.state.kind with
  | .connecting => pollConnecting c
  | .negotiating => pollNegotiating c
  | .connected => pollConnected env.now c
  | .reset => pollReset env c

/-- `<Connection as Future>::poll`: `NotReady` stands, an error resets the connection,
and `Ready` is `unreachable!()`. -/
def Connection.poll (env : Env) (c : Connection) : Outcome Unit :=
  match pollState env c with
  | .ok .notReady c' => .ok () c'
  | .err e c' => .ok () (c'.reset e env.now env.jitter)
  | .ok (.ready ()) _ => .panic (.unreachable .pollReady)
  | .panic p => .panic p
  | .diverge => .diverge

/-! ## What a poll does with the state's answer -/

section Outcomes

variable {env : Env} {c c' : Connection}

theorem Connection.poll_of_notReady (h : pollState env c = .ok .notReady c') :
    c.poll env = .ok () c' := by
  simp only [Connection.poll, h]

theorem Connection.poll_of_err {e : Error} (h : pollState env c = .err e c') :
    c.poll env = .ok () (c'.reset e env.now env.jitter) := by
  simp only [Connection.poll, h]

theorem Connection.poll_of_ready (h : pollState env c = .ok (.ready ()) c') :
    c.poll env = .panic (.unreachable .pollReady) := by
  simp only [Connection.poll, h]

theorem Connection.poll_of_panic {p : Panic} (h : pollState env c = .panic p) :
    c.poll env = .panic p := by
  simp only [Connection.poll, h]

theorem pollState_of_negotiating (h : c.state.kind = .negotiating) :
    pollState env c = pollNegotiating c := by
  simp only [pollState, h]

theorem pollState_of_connecting (h : c.state.kind = .connecting) :
    pollState env c = pollConnecting c := by
  simp only [pollState, h]

end Outcomes

/-- A completed connect attempt: the socket takes its place, the connection header and
SASL NEGOTIATE are buffered, and negotiation starts. -/
theorem pollConnecting_connected {c : Connection} {s : Socket}
    (hst : c.state = .connecting (.connected s)) (hn : s.nodelay = none) :
    pollConnecting c = pollNegotiating { c with
      state := .negotiating s
      writeBuf := c.writeBuf ++ (utf8 "hrpc" ++ [9, 0, 0]) ++ saslNegotiateFrame } := by
  simp only [pollConnecting, hst, hn, ConnM.bind_apply, transitionNegotiating, State.kind,
    if_true, bufferConnectionHeader, ConnM.modify, bufferSaslNegotiate_eq]

end KuduRpc
