import KuduRpc.Connection.State

/-!
# The krpc proxy task

`ProxyTask` (`krpc/src/proxy.rs`) owns the receiving end of the channel that
`Proxy::send` feeds, and drives one connection to the server through `Quiesced`,
`Connecting`, `Negotiating` and `Connected`. The connect attempt, the negotiator and the
krpc connection are not part of the repository's source: the model takes them as
`Components`, each call given by what it returns and the state it leaves.

`ProxyTask::poll`'s outer `loop` only moves forward through the states, so it is
unfolded into one function per arm. The inner send loop of the `Connected` arm runs on
fuel:

* when it exits, the channel is empty and every request that was queued has been sent,
  in order (`sendLoop_returned`);
* when `poll_ready` never reports `NotReady`, it exits, or panics, within one iteration
  more than there are queued requests (`sendLoop_ends`, `ProxyTask.poll_ends`);
* its `Ok(Async::NotReady) => ()` arm neither leaves the loop nor changes the
  connection, so a connection that is not ready, and that `poll_ready` leaves as it is,
  keeps the task in the loop for ever (`send_loop_spins`).
-/

namespace KuduRpc.Krpc

/-- `futures::Poll<T, E>`, with the error's payload left out: the task only logs it. -/
abbrev Poll (α : Type) := Except Unit (Async α)

/-- The receiving end of a `futures::sync::mpsc` channel: the requests queued and not
yet taken, and whether a sender is still alive. -/
structure Channel (α : Type) where
  queued : List α
  senders : Bool
  deriving DecidableEq, Repr

/-- `Receiver::poll`: the next queued request, else `None` once every sender is gone,
else `NotReady`. It never fails, so the task's `Err(()) => unreachable!()` arm has no
counterpart. -/
def Channel.poll {α : Type} (rx : Channel α) : Async (Option α) × Channel α :=
  match rx.queued with
  | r :: rs => (.ready (some r), { rx with queued := rs })
  | [] => (if rx.senders then .notReady else .ready none, rx)

/-- The krpc components `ProxyTask` drives, whose source is not in the repository:
`Transport::connect` and the future it returns, `Negotiator` and `Connection`. A call
that takes `&mut self` returns the state it leaves. -/
structure Components (TransportNew Transport Negotiator Conn Request : Type) where
  /-- `Transport::connect(addr, options.clone(), handle)`. -/
  connect : TransportNew
  /-- `TransportNew::poll`. -/
  pollNew : TransportNew → Poll Transport × TransportNew
  /-- `Negotiator::negotiate`. -/
  negotiate : Transport → Negotiator
  /-- `Negotiator::poll`. -/
  pollNegotiator : Negotiator → Poll Transport × Negotiator
  /-- `Connection::new`. -/
  newConnection : Transport → Conn
  /-- `Connection::poll_ready`. -/
  pollReady : Conn → Poll Unit × Conn
  /-- `Connection::send`; `none` is an `Err`. -/
  send : Conn → Request → Option Conn
  /-- `Connection::poll`. -/
  pollConn : Conn → Poll Unit × Conn

/-- `ConnectionState`. -/
inductive ConnectionState (TransportNew Negotiator Conn : Type)
  | quiesced
  | connecting (new : TransportNew)
  | negotiating (negotiator : Negotiator)
  | connected (conn : Conn)
  deriving DecidableEq, Repr

/-- `ProxyTask`, without `addr`, `options` and `handle`, which only `connect` reads, and
the metrics. -/
structure ProxyTask (TransportNew Negotiator Conn Request : Type) where
  receiver : Channel Request
  connectionState : ConnectionState TransportNew Negotiator Conn
  deriving DecidableEq, Repr

/-- The panics of `ProxyTask::poll`. -/
inductive ProxyPanic
  /-- `unimplemented!()` after a connect error. -/
  | connectError
  /-- `unimplemented!()` after a negotiation error. -/
  | negotiationError
  /-- `unimplemented!()` once every sender is dropped. -/
  | sendersDropped
  /-- `expect("not handled")` on a failed `send`. -/
  | notHandled
  /-- `unimplemented!()` after `poll_ready` fails. -/
  | pollReadyError
  /-- `unimplemented!()` after `Connection::poll` fails. -/
  | pollError
  deriving DecidableEq, Repr

/-- How a call of the task's code ends: it returns, panics, or never returns. -/
inductive ProxyResult (α : Type)
  | returned (a : α)
  | panic (p : ProxyPanic)
  | diverge
  deriving DecidableEq, Repr

/-- Components whose connection is always ready and records the requests sent on it. -/
def recordingComponents : Components Unit Unit Unit (List Nat) Nat where
  connect := ()
  pollNew _ := (.ok (.ready ()), ())
  negotiate _ := ()
  pollNegotiator _ := (.ok (.ready ()), ())
  newConnection _ := []
  pollReady conn := (.ok (.ready ()), conn)
  send conn request := some (conn ++ [request])
  pollConn conn := (.ok .notReady, conn)

theorem recordingComponents_ready (conn : List Nat) :
    (recordingComponents.pollReady conn).1 ≠ .ok .notReady :=
  fun h => Async.noConfusion (Except.ok.inj h)

section Poll

variable {TransportNew Transport Negotiator Conn Request : Type}
  (k : Components TransportNew Transport Negotiator Conn Request)

/-- The `Connected` arm's inner `loop` ("Send all queued messages"), for at most `fuel`
iterations; it returns the connection and the channel as it leaves them. -/
def sendLoop : Nat → Conn → Channel Request → ProxyResult (Conn × Channel Request)
  | 0, _, _ => .diverge
  | fuel + 1, conn, receiver =>
    match k.pollReady conn with
    | (.ok (.ready ()), conn) =>
      match receiver.poll with
      | (.ready (some request), receiver) =>
        match k.send conn request with
        | some conn => sendLoop fuel conn receiver
        | none => .panic .notHandled
      | (.ready none, _) => .panic .sendersDropped
      | (.notReady, receiver) => .returned (conn, receiver)
    | (.ok .notReady, conn) => sendLoop fuel conn receiver
    | (.error (), _) => .panic .pollReadyError

/-- The `Connected` arm: send what is queued, drive the connection, and return
`NotReady`. -/
def pollConnected (fuel : Nat) (conn : Conn) (receiver : Channel Request) :
    ProxyResult (ProxyTask TransportNew Negotiator Conn Request) :=
  match sendLoop k fuel conn receiver with
  | .returned (conn, receiver) =>
    match k.pollConn conn with
    | (.error (), _) => .panic .pollError
    | (.ok _, conn) => .returned ⟨receiver, .connected conn⟩
  | .panic p => .panic p
  | .diverge => .diverge

/-- The `Negotiating` arm: once the negotiator is done, go on in `Connected`. -/
def pollNegotiating (fuel : Nat) (negotiator : Negotiator) (receiver : Channel Request) :
    ProxyResult (ProxyTask TransportNew Negotiator Conn Request) :=
  match k.pollNegotiator negotiator with
  | (.ok (.ready transport), _) => pollConnected k fuel (k.newConnection transport) receiver
  | (.ok .notReady, negotiator) => .returned ⟨receiver, .negotiating negotiator⟩
  | (.error (), _) => .panic .negotiationError

/-- The `Connecting` arm: once connected, go on in `Negotiating`. -/
def pollConnecting (fuel : Nat) (new : TransportNew) (receiver : Channel Request) :
    ProxyResult (ProxyTask TransportNew Negotiator Conn Request) :=
  match k.pollNew new with
  | (.ok (.ready transport), _) => pollNegotiating k fuel (k.negotiate transport) receiver
  | (.ok .notReady, new) => .returned ⟨receiver, .connecting new⟩
  | (.error (), _) => .panic .connectError

/-- `<ProxyTask as Future>::poll`, with `fuel` for the inner send loop. Whenever it
returns, it returns `Ok(Async::NotReady)`; the result is the task it leaves. -/
def ProxyTask.poll (fuel : Nat) (task : ProxyTask TransportNew Negotiator Conn Request) :
    ProxyResult (ProxyTask TransportNew Negotiator Conn Request) :=
  match task.connectionState with
  | .quiesced => pollConnecting k fuel k.connect task.receiver
  | .connecting new => pollConnecting k fuel new task.receiver
  | .negotiating negotiator => pollNegotiating k fuel negotiator task.receiver
  | .connected conn => pollConnected k fuel conn task.receiver

/-! ## The send loop -/

theorem sendLoop_notReady {fuel : Nat} {conn conn' : Conn} {receiver : Channel Request}
    (h : k.pollReady conn = (.ok .notReady, conn')) :
    sendLoop k (fuel + 1) conn receiver = sendLoop k fuel conn' receiver := by
  simp only [sendLoop, h]

/-- A connection that is not ready and that `poll_ready` leaves as it is keeps the loop
going until the fuel runs out. -/
theorem sendLoop_diverge_of_notReady {conn : Conn} (receiver : Channel Request)
    (h : k.pollReady conn = (.ok .notReady, conn)) :
    ∀ fuel, sendLoop k fuel conn receiver = .diverge
  | 0 => rfl
  | fuel + 1 => by rw [sendLoop_notReady k h, sendLoop_diverge_of_notReady receiver h fuel]

/-- When the send loop exits, the channel is empty with a sender alive, and every
request that was queued has been sent, in order, provided `poll_ready` leaves the
connection as it is. -/
theorem sendLoop_returned (hpure : ∀ conn, (k.pollReady conn).2 = conn) :
    ∀ {fuel : Nat} {conn conn' : Conn} {receiver receiver' : Channel Request},
      sendLoop k fuel conn receiver = .returned (conn', receiver') →
      receiver' = ⟨[], true⟩ ∧ receiver.senders = true ∧
        receiver.queued.foldlM k.send conn = some conn'
  | 0, _, _, _, _, h => nomatch h
  | fuel + 1, conn, conn', ⟨queued, senders⟩, receiver', h => by
    rcases hr : k.pollReady conn with ⟨r, c⟩
    obtain rfl : conn = c := by simpa [hr] using (hpure conn).symm
    match r, queued, senders with
    | .error (), _, _ => simp only [sendLoop, hr, reduceCtorEq] at h
    | .ok .notReady, queued, senders =>
      rw [sendLoop_notReady k hr] at h
      exact sendLoop_returned hpure h
    | .ok (.ready ()), [], true =>
      simp only [sendLoop, hr, Channel.poll, if_true, ProxyResult.returned.injEq,
        Prod.mk.injEq] at h
      exact ⟨h.2.symm, rfl, by rw [h.1]; rfl⟩
    | .ok (.ready ()), [], false =>
      simp only [sendLoop, hr, Channel.poll, Bool.false_eq_true, if_false, reduceCtorEq] at h
    | .ok (.ready ()), request :: rs, senders =>
      cases hs : k.send conn request with
      | none => simp only [sendLoop, hr, Channel.poll, hs, reduceCtorEq] at h
      | some c =>
        simp only [sendLoop, hr, Channel.poll, hs] at h
        obtain ⟨h1, h2, h3⟩ := sendLoop_returned hpure h
        exact ⟨h1, h2, by rw [List.foldlM_cons, hs]; exact h3⟩

/-- The two requests queued reach the connection in order. -/
theorem sendLoop_returned_recording :
    (∀ conn, (recordingComponents.pollReady conn).2 = conn) ∧
      sendLoop recordingComponents 10 [] ⟨[7, 8], true⟩ = .returned ([7, 8], ⟨[], true⟩) ∧
      [7, 8].foldlM recordingComponents.send [] = some [7, 8] :=
  have hp : ∀ conn, (recordingComponents.pollReady conn).2 = conn := fun _ => rfl
  have hs : sendLoop recordingComponents 10 [] ⟨[7, 8], true⟩ = .returned ([7, 8], ⟨[], true⟩) := rfl
  ⟨hp, hs, (sendLoop_returned recordingComponents hp hs).2.2⟩

/-- With a connection that `poll_ready` never reports `NotReady`, the send loop exits,
or panics, within one iteration more than there are queued requests. -/
theorem sendLoop_ends (hready : ∀ conn, (k.pollReady conn).1 ≠ .ok .notReady) :
    ∀ {fuel : Nat} {conn : Conn} {receiver : Channel Request},
      receiver.queued.length < fuel → sendLoop k fuel conn receiver ≠ .diverge
  | 0, _, _, hf => absurd hf (Nat.not_lt_zero _)
  | fuel + 1, conn, ⟨queued, senders⟩, hf => by
    rcases hr : k.pollReady conn with ⟨r, c⟩
    match r, queued, senders with
    | .error (), _, _ => simp only [sendLoop, hr]; exact ProxyResult.noConfusion
    | .ok .notReady, _, _ => exact absurd (congrArg Prod.fst hr) (hready conn)
    | .ok (.ready ()), [], senders =>
      cases senders <;> simp only [sendLoop, hr, Channel.poll] <;> exact ProxyResult.noConfusion
    | .ok (.ready ()), request :: rs, senders =>
      cases hs : k.send c request with
      | none => simp only [sendLoop, hr, Channel.poll, hs]; exact ProxyResult.noConfusion
      | some c' =>
        simp only [sendLoop, hr, Channel.poll, hs]
        exact sendLoop_ends hready (by simpa using hf)

/-! ## The task -/

theorem pollConnected_diverge {fuel : Nat} {conn : Conn} {receiver : Channel Request} :
    pollConnected k fuel conn receiver = .diverge ↔ sendLoop k fuel conn receiver = .diverge := by
  unfold pollConnected
  rcases sendLoop k fuel conn receiver with ⟨conn', receiver'⟩ | p | _
  · simp only [reduceCtorEq, iff_false]
    split <;> exact ProxyResult.noConfusion
  · simp only [reduceCtorEq]
  · simp only

/-- Every arm of `ProxyTask::poll` ends unless the send loop it reaches does not. -/
theorem ProxyTask.poll_ends (hready : ∀ conn, (k.pollReady conn).1 ≠ .ok .notReady)
    {fuel : Nat} {task : ProxyTask TransportNew Negotiator Conn Request}
    (hf : task.receiver.queued.length < fuel) : task.poll k fuel ≠ .diverge := by
  have hconn : ∀ conn, pollConnected k fuel conn task.receiver ≠ .diverge := fun conn h =>
    sendLoop_ends k hready hf (pollConnected_diverge k |>.1 h)
  have hneg : ∀ ng, pollNegotiating k fuel ng task.receiver ≠ .diverge := by
    intro ng
    unfold pollNegotiating
    split
    · exact hconn _
    all_goals exact ProxyResult.noConfusion
  have hnew : ∀ new, pollConnecting k fuel new task.receiver ≠ .diverge := by
    intro new
    unfold pollConnecting
    split
    · exact hneg _
    all_goals exact ProxyResult.noConfusion
  unfold ProxyTask.poll
  split
  · exact hnew _
  · exact hnew _
  · exact hneg _
  · exact hconn _

/-- A new task with two requests queued and a connection that is always ready: its first
poll returns within three rounds of the send loop. -/
theorem poll_ends_recording :
    (∀ conn, (recordingComponents.pollReady conn).1 ≠ .ok .notReady) ∧
      ProxyTask.poll recordingComponents 3 ⟨⟨[7, 8], true⟩, .quiesced⟩ ≠ .diverge :=
  ⟨recordingComponents_ready,
    ProxyTask.poll_ends recordingComponents recordingComponents_ready (by decide)⟩

/-- A connection that is not ready, and that `poll_ready` leaves as it is, keeps the
send loop in its `Ok(Async::NotReady) => ()` arm for ever: `ProxyTask::poll` in
`Connected` never returns, and neither does the first poll of a new task whose connect
attempt and negotiation complete at once and whose new connection is not ready. -/
theorem send_loop_spins :
    (∀ (conn : Conn) (receiver : Channel Request), k.pollReady conn = (.ok .notReady, conn) →
      ∀ fuel, sendLoop k fuel conn receiver = .diverge) ∧
    (∀ (conn : Conn) (receiver : Channel Request), k.pollReady conn = (.ok .notReady, conn) →
      ∀ fuel, ProxyTask.poll k fuel ⟨receiver, .connected conn⟩ = .diverge) ∧
    (∀ (transport transport' : Transport) (new : TransportNew) (negotiator : Negotiator)
      (receiver : Channel Request),
      k.pollNew k.connect = (.ok (.ready transport), new) →
      k.pollNegotiator (k.negotiate transport) = (.ok (.ready transport'), negotiator) →
      k.pollReady (k.newConnection transport') = (.ok .notReady, k.newConnection transport') →
      ∀ fuel, ProxyTask.poll k fuel ⟨receiver, .quiesced⟩ = .diverge) := by
  refine ⟨fun conn receiver h => sendLoop_diverge_of_notReady k receiver h,
    fun conn receiver h fuel => ?_, fun t t' new ng receiver h1 h2 h3 fuel => ?_⟩
  · exact (pollConnected_diverge k).2 (sendLoop_diverge_of_notReady k receiver h fuel)
  · simp only [ProxyTask.poll, pollConnecting, h1, pollNegotiating, h2]
    exact (pollConnected_diverge k).2 (sendLoop_diverge_of_notReady k receiver h3 fuel)

end Poll

/-- Components whose connection takes `limit` requests and then reports `NotReady`, as a
connection with a full queue does. -/
def boundedComponents (limit : Nat) : Components Unit Unit Unit Nat Nat where
  connect := ()
  pollNew _ := (.ok (.ready ()), ())
  negotiate _ := ()
  pollNegotiator _ := (.ok (.ready ()), ())
  newConnection _ := 0
  pollReady n := (.ok (if n < limit then .ready () else .notReady), n)
  send n _ := some (n + 1)
  pollConn n := (.ok .notReady, n)

/-- A connection full after one request spins with the second one queued; a new task
whose connection is full from the start spins on its first poll. -/
theorem send_loop_spins_at :
    sendLoop (boundedComponents 1) 10 1 ⟨[1], true⟩ = .diverge ∧
      ProxyTask.poll (boundedComponents 0) 10 ⟨⟨[0], true⟩, .quiesced⟩ = .diverge :=
  ⟨(send_loop_spins (boundedComponents 1)).1 1 ⟨[1], true⟩ rfl 10,
    (send_loop_spins (boundedComponents 0)).2.2 () () () () ⟨[0], true⟩ rfl rfl rfl 10⟩

end KuduRpc.Krpc
