import KuduRpc.Connection.Invariant
import KuduRpc.Connection.Completion

/-!
# Flow control

`recv_queue` holds the calls in flight. `poll_write_connected` sends a call only while
`recv_queue.len() < throttle`, `poll_read_connected` only takes calls out of it (and
raises the throttle by one per completed call), and the throttle stays within
`rpc_queue_len` (`Inv.throttle_le`). So:

* whenever a poll of a connected connection returns, it leaves at most as many calls in
  flight as there were before it, or as the throttle after it allows, whichever is more
  (`poll_respects_throttle`): the throttle halved by `throttle()` holds back new calls
  until the calls in flight drop below it. A poll need not return: it can panic (a second
  pop of `send_queue` on one queued call) or read a closed socket for ever;
* every step keeps at most `rpc_queue_len` calls in flight, so every run from a state
  satisfying `Inv` does (`in_flight_le_rpc_queue_len`).

`Connection::throttle` sets `throttle ← min(throttle, rpc_queue_len) / 2`, with no floor.
From the default `rpc_queue_len` of 256, nine calls reach 0 (`throttle_reaches_zero`).
With a throttle of 0 the write path's check `recv_queue.len() >= throttle` holds
whatever the queue, so no call is sent again, and with nothing in flight no completion
raises the throttle.

The triples of this file carry `InFlight L o`: at most `L` or throttle calls in flight,
and the options `o`, which no function changes.
-/

namespace KuduRpc

/-! ## The throttle -/

theorem throttleDown_throttle (c : Connection) :
    c.throttleDown.throttle = min c.throttle c.options.rpcQueueLen / 2 := rfl

/-- Nine `throttle()` calls from `Connection::new` with the default options leave a
throttle of 0. -/
theorem throttle_reaches_zero :
    ∃ c, Reachable ConnectionOptions.default c ∧ c.throttle = 0 := by
  obtain ⟨c, hc, h⟩ := reachable_of_run .default .pending (List.replicate 9 .throttle)
    (fun c => c.throttle == 0) (by decide)
  exact ⟨c, hc, by simpa using h⟩

/-! ## In flight -/

/-- At most `L` calls in flight, or as many as the throttle allows; the options `o`. -/
def InFlight (L : Nat) (o : ConnectionOptions) (c : Connection) : Prop :=
  c.recvQueue.len ≤ max L c.throttle ∧ c.options = o

namespace InFlight

variable {L : Nat} {o : ConnectionOptions} {c c' : Connection}

/-- Fewer calls in flight and a throttle no lower keep the bound. -/
theorem of_le (h : InFlight L o c) (hr : c'.recvQueue.len ≤ c.recvQueue.len)
    (ht : c.throttle ≤ c'.throttle) (ho : c'.options = c.options) : InFlight L o c' :=
  ⟨hr.trans (h.1.trans (max_le_max le_rfl ht)), ho.trans h.2⟩

theorem of_keeps (h : InFlight L o c) (hk : Keeps c c') : InFlight L o c' :=
  h.of_le (by rw [hk.1.2.1]) (by rw [hk.1.2.2.1]) hk.1.2.2.2

end InFlight

/-- Two triples of one function give their conjunction. -/
theorem Triple.and {α : Type} {P : Connection → Prop} {x : ConnM α} {Q Q' : α → Connection → Prop}
    {E E' : Connection → Prop} (h : Triple P x Q E) (h' : Triple P x Q' E') :
    Triple P x (fun a c => Q a c ∧ Q' a c) (fun c => E c ∧ E' c) := by
  intro c hc
  have h1 := h c hc
  have h2 := h' c hc
  revert h1 h2
  cases x c with
  | ok a c' => exact And.intro
  | err e c' => exact And.intro
  | panic p => exact fun h1 _ => h1
  | diverge => exact fun _ _ => trivial

section Bound

variable {L : Nat} {o : ConnectionOptions}

/-! ## The read path -/

theorem readErrorResponse_inFlight {c : Connection} (h : InFlight L o c) (callId bodyLen : Nat) :
    (readErrorResponse callId bodyLen c).Sat (fun _ => InFlight L o) fun c => c.options = o := by
  unfold readErrorResponse
  rcases hrm : c.recvQueue.remove callId with ⟨r?, q⟩
  have hq : q.len ≤ c.recvQueue.len := by
    have := CallMap.len_remove_le c.recvQueue callId
    rwa [hrm] at this
  split
  · rfl
  split
  · exact h.2
  dsimp only
  split
  · exact h.2
  · exact h.of_le hq le_rfl rfl

theorem readSuccessResponse_inFlight {c : Connection} (h : InFlight L o c) (callId bodyLen : Nat) :
    (readSuccessResponse callId bodyLen c).Sat (fun _ => InFlight L o) fun c => c.options = o := by
  unfold readSuccessResponse
  split
  · exact h
  split
  · rfl
  dsimp only
  split
  · exact h.2
  split
  · rfl
  rw [ConnM.bind_ok (completeCall_eq _ _)]
  refine h.of_le ((CallMap.len_remove_le _ _).trans (CallMap.len_modify _ _ _).le) ?_ rfl
  dsimp only
  split <;> omega

theorem pollReadConnected_inFlight :
    Triple (fun c => ConnectedInv c ∧ InFlight L o c) pollReadConnected (fun _ => InFlight L o)
      fun c => c.options = o := fun c hc =>
  ((pollReadHeader_triple c (.inr hc.1.1)).mono (fun _ h => h) (fun _ _ h => h)
      fun _ h => (hc.2.of_keeps h).2).tryReady
    (fun bodyLen c1 hc1 => by
      have h1 := hc.2.of_keeps hc1
      split
      · exact readErrorResponse_inFlight h1 _ _
      · exact readSuccessResponse_inFlight h1 _ _)
    (fun _ h => hc.2.of_keeps h) c (.refl c)

/-! ## The write path -/

/-- A call is sent only below the throttle, so one more stays within it. -/
theorem sendCall_inFlight {c : Connection} (h : InFlight L o c)
    (hlt : c.recvQueue.len < c.throttle) (now callId : Nat) (rpc : Rpc) :
    (sendCall now callId rpc c).Sat (fun _ => InFlight L o) fun c => c.options = o := by
  unfold sendCall
  split
  · exact h
  split
  · exact h
  split
  · exact h.2
  rcases bufferMessage_cases (requestHeader callId rpc now) rpc.request c with hb | hb <;>
    rw [ConnM.bind_apply, hb]
  · rfl
  · exact ⟨(CallMap.len_insert_le _ _ _).trans (le_max_of_le_right hlt), h.2⟩

theorem pollWriteConnected_inFlight (now : Nat) :
    Triple (fun c => ConnectedInv c ∧ InFlight L o c) (pollWriteConnected now)
      (fun _ => InFlight L o) fun c => c.options = o := fun c hc =>
  ((flushIfFull_triple c (.inr hc.1.1)).mono (fun _ h => h) (fun _ _ h => h)
      fun _ h => (hc.2.of_keeps h).2).bind (fun full c1 hc1 => by
      have h1 := hc.2.of_keeps hc1
      split
      · exact h1
      split
      · exact h1
      rename_i hlt
      split
      · exact h1
      split
      · rfl
      next callId rpc q2 _ =>
      exact sendCall_inFlight (c := { c1 with sendQueue := q2 }) h1 (Nat.lt_of_not_le hlt) now callId rpc)
    c (.refl c)

/-! ## A poll -/

/-- `poll_connected`: the body of each of its loops keeps the invariant of the calls and
the bound. -/
theorem pollConnected_inFlight (now : Nat) :
    Triple (fun c => ConnectedInv c ∧ InFlight L o c) (pollConnected now)
      (fun _ => InFlight L o) fun c => c.options = o := by
  intro c hc
  unfold pollConnected
  have hr := ((pollReadConnected_triple.mono (fun _ h => h.1) (fun _ _ h => h) fun _ h => h).and
    (pollReadConnected_inFlight (L := L) (o := o))).mono (fun _ h => h) (fun _ _ h => h) fun _ h => h.2
  have hw := (((pollWriteConnected_triple now).mono (fun _ h => h.1) (fun _ _ h => h) fun _ h => h).and
    (pollWriteConnected_inFlight (L := L) (o := o) now)).mono (fun _ h => h) (fun _ _ h => h)
      fun _ h => h.2
  refine (Triple.doWhileReady hr _).bind (fun () c1 hc1 => ?_) c hc
  refine (Triple.doWhileReady hw _).bind (fun () c2 hc2 => ?_) c1 hc1
  exact ((pollFlush_triple c2 (.inr hc2.1.1)).tryReady
    (fun () => Triple.pure _ (Q := fun _ => InFlight L o) fun c3 h3 => hc2.2.of_keeps h3) (fun c3 h3 => hc2.2.of_keeps h3) c2
      (.refl c2)).mono (fun _ _ h => h) fun _ h => (hc2.2.of_keeps h).2

/-- A poll of a connected connection: its poll function returns within the bound, and an
error resets the connection, emptying `recv_queue`. -/
theorem poll_inFlight {c : Connection} (hc : ConnectedInv c) (ho : c.options = o) (env : Env) :
    (c.poll env).Sat (fun _ c' => c'.recvQueue.len ≤ max c.recvQueue.len c'.throttle ∧ c'.options = o)
      fun c => c.options = o := by
  have hs := pollConnected_inFlight env.now c ⟨hc, le_max_left _ _, ho⟩
  have hp : pollState env c = pollConnected env.now c := by simp only [pollState, hc.1]
  unfold Connection.poll
  rw [hp]
  revert hs
  cases pollConnected env.now c with
  | ok a c' => cases a <;> first | exact fun h => h | exact fun _ => rfl
  | err e c' => exact fun h => ⟨Nat.zero_le _, h⟩
  | panic p => exact id
  | diverge => exact id

end Bound

/-- **The throttle is honoured.** Whenever a poll of a connected connection whose calls
satisfy `CallsInv` returns, whatever the socket, the timer and the server's bytes, it
leaves at most as many calls in flight as before it, or as its throttle allows after it,
whichever is more; and where it panics, it does not misuse the state. -/
theorem poll_respects_throttle (c : Connection) (hc : ConnectedInv c) (env : Env) :
    (∀ c', c.poll env = .ok () c' → c'.recvQueue.len ≤ max c.recvQueue.len c'.throttle) ∧
      ∀ p, c.poll env = .panic p → p.misuse = false := by
  have h := poll_inFlight hc rfl env
  refine ⟨fun c' hp => ?_, fun p hp => ?_⟩ <;> rw [hp] at h
  exacts [h.1, h]

/-- Two calls in flight and two queued, after `throttle()` has cut the throttle to one;
the socket has nothing to read. -/
def throttledConnection : Connection :=
  { Connection.new .default .pending with
    state := .connected ⟨[], false, [], [], none⟩
    sendQueue := ⟨[(2, emptyCall), (3, emptyCall)], by decide⟩
    recvQueue := ⟨[(0, emptyCall), (1, emptyCall)], by decide⟩
    throttle := 1 }

theorem throttledConnection_connectedInv : ConnectedInv throttledConnection :=
  ⟨rfl, by decide, by decide, by decide⟩

/-- The poll of `throttledConnection` returns, holding both queued calls back. -/
theorem poll_respects_throttle_throttled :
    ConnectedInv throttledConnection ∧
      ∃ c', throttledConnection.poll env0 = .ok () c' ∧
        c'.sendQueue = throttledConnection.sendQueue ∧
        c'.recvQueue.len ≤ max throttledConnection.recvQueue.len c'.throttle := by
  obtain ⟨c1, hr, -, hq, hsq, hw, ht, -⟩ := Receiving.readReplies [] (c := throttledConnection)
    (.of_reads rfl rfl rfl rfl (by simp)) (Nat.succ_pos _) (by decide) (by decide) (by simp)
  have hq1 : c1.recvQueue = throttledConnection.recvQueue := CallMap.ext (by simpa using hq)
  have hp : throttledConnection.poll env0 = .ok () c1 :=
    Connection.poll_of_read rfl hr hw (.inr (by rw [ht, hq1]; decide))
  exact ⟨throttledConnection_connectedInv, c1, hp, hsq,
    (poll_respects_throttle throttledConnection throttledConnection_connectedInv env0).1 c1 hp⟩

/-! ## Every run -/

theorem Step.in_flight_le {c c' : Connection} (h : Inv c)
    (hb : c.recvQueue.len ≤ c.options.rpcQueueLen) (hs : Step c c') :
    c'.recvQueue.len ≤ c'.options.rpcQueueLen := by
  cases hs with
  | poll env hp =>
    by_cases hk : c.state.kind = .connected
    · have hq := poll_inFlight ⟨hk, h.calls⟩ rfl env
      rw [hp] at hq
      have ht := (h.poll hp).throttle_le
      rw [hq.2] at ht ⊢
      exact hq.1.trans (max_le hb ht)
    · have hnil := (h.poll hp).recv_empty ((Step.poll env hp).not_connected hk)
      simp [hnil]
  | throttle => exact hb
  | reset e now jitter => exact Nat.zero_le _
  | enqueue callId rpc => exact hb
  | cancel callId => simpa [Connection.cancel] using hb
  | reactor st => exact hb

/-- **At most `rpc_queue_len` calls in flight.** From a state satisfying `Inv` with at
most `rpc_queue_len` calls in `recv_queue`, every run, whatever its polls, throttles,
resets, new calls, cancellations and reactor events, keeps at most `rpc_queue_len`
calls in `recv_queue`. -/
theorem in_flight_le_rpc_queue_len {c c' : Connection} (h : Inv c)
    (hb : c.recvQueue.len ≤ c.options.rpcQueueLen) (hr : Relation.ReflTransGen Step c c') :
    c'.recvQueue.len ≤ c'.options.rpcQueueLen := by
  suffices Inv c' ∧ c'.recvQueue.len ≤ c'.options.rpcQueueLen from this.2
  induction hr with
  | refl => exact ⟨h, hb⟩
  | tail _ hs ih => exact ⟨ih.1.step hs, hs.in_flight_le ih.1 ih.2⟩

/-- The bound along a run of `awaiting [replyOk]`: a poll that completes call 0, then
`throttle()`. -/
theorem in_flight_le_rpc_queue_len_answered :
    ∃ c', (awaiting [replyOk]).poll env0 = .ok () c' ∧ c'.recvQueue.len = 1 ∧
      Relation.ReflTransGen Step (awaiting [replyOk]) c'.throttleDown ∧
      c'.throttleDown.recvQueue.len ≤ c'.throttleDown.options.rpcQueueLen := by
  obtain ⟨c1, hr, -, hq, hsq, hw, -, -⟩ := Receiving.readReplies [replyOk]
    (awaiting_receiving _ (by decide))
    (show [replyOk].length < (awaiting [replyOk]).available + 1 by decide) (by decide) (by decide)
    (by decide)
  have hp : (awaiting [replyOk]).poll env0 = .ok () c1 :=
    Connection.poll_of_read rfl hr hw (.inl (by rw [hsq]; rfl))
  have hrun : Relation.ReflTransGen Step (awaiting [replyOk]) c1.throttleDown :=
    .tail (.single (.poll env0 hp)) (.throttle _)
  have hi : Inv (awaiting [replyOk]) := Inv.of_connected ⟨rfl, by decide, by decide, by decide⟩
  exact ⟨c1, hp, by simp only [CallMap.len, hq]; decide, hrun,
    in_flight_le_rpc_queue_len hi (by decide) hrun⟩

end KuduRpc
