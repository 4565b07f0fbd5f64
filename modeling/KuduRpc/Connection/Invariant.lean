import KuduRpc.Connection.Triple
import KuduRpc.Connection.Loss

/-!
# Invariants of every reachable state

`Inv` holds of `Connection::new` and every step keeps it (`Inv.step`), so it holds of
every reachable state (`reachable_inv`):

* `recv_queue` is empty unless the state is `Connected`;
* no id is in both queues, so the `recv_queue.insert` of `poll_write_connected`, whose
  id comes from `send_queue`, never replaces a call in flight;
* every id of `recv_queue` is at most `i32::MAX`;
* in `Reset` and `Connecting` both buffers are empty;
* the throttle is at most `rpc_queue_len`.

A poll from a state satisfying `Inv` never misuses the state (`Inv.poll_no_misuse`):
`State::stream`, `State::stream_new` and `State::timeout` are only called in the
variant that has them, and every `transition_*` assertion holds.

The proof does not use that `Connected` is out of reach of every run: each step of
`poll_connected` keeps the invariant on its own. That no run reaches `Connected`
(`reachable_not_connected`) is proved after it: negotiation ends in a reset or, after
SASL SUCCESS, in the panic of `Future::poll`.
-/

namespace KuduRpc

/-- The invariant of reachable states. -/
structure Inv (c : Connection) : Prop where
  recv_empty : c.state.kind ≠ .connected → c.recvQueue.keys = []
  disjoint : ∀ k ∈ c.recvQueue.keys, k ∉ c.sendQueue.keys
  recv_le : ∀ k ∈ c.recvQueue.keys, k ≤ i32Max
  buffers_empty : c.state.kind = .reset ∨ c.state.kind = .connecting →
    c.recvBuf = [] ∧ c.writeBuf = []
  throttle_le : c.throttle ≤ c.options.rpcQueueLen

namespace Inv

variable {c : Connection}

theorem calls (h : Inv c) : CallsInv c := ⟨h.disjoint, h.recv_le, h.throttle_le⟩

theorem new (options : ConnectionOptions) (streamNew : StreamNew) :
    Inv (Connection.new options streamNew) :=
  ⟨fun _ => rfl, fun _ h => (nomatch h), fun _ h => (nomatch h), fun _ => ⟨rfl, rfl⟩, le_refl _⟩

/-- A connected state whose calls satisfy the invariant satisfies it. -/
theorem of_connected {c : Connection} (h : ConnectedInv c) : Inv c :=
  ⟨fun hk => absurd h.1 hk, h.2.1, h.2.2.1,
    fun hk => (by rcases hk with hk | hk <;> simp only [h.1, reduceCtorEq] at hk), h.2.2.2⟩

/-- Negotiating, with the calls of a state that is not connected. -/
theorem of_frame {c' : Connection} (h : Inv c) (hc : c.state.kind ≠ .connected)
    (hf : Frame c c') (hk : c'.state.kind = .negotiating) : Inv c' := by
  obtain ⟨hs, hr, ht, ho⟩ := hf
  have hnil : c'.recvQueue.keys = [] := by rw [hr]; exact h.recv_empty hc
  refine ⟨fun _ => hnil, by simp [hnil], by simp [hnil], fun hk' => ?_, by rw [ht, ho]; exact h.throttle_le⟩
  rcases hk' with hk' | hk' <;> simp only [hk, reduceCtorEq] at hk'

/-- The reset empties `recv_queue` and both buffers. -/
theorem reset (h : c.throttle ≤ c.options.rpcQueueLen) (e : Error) (now jitter : Nat) :
    Inv (c.reset e now jitter) := by
  have hnil : (c.reset e now jitter).recvQueue.keys = [] := rfl
  exact ⟨fun _ => hnil, by simp [hnil], by simp [hnil], fun _ => ⟨rfl, rfl⟩, h⟩

/-! ## A poll -/

/-- The poll function of a state satisfying `Inv` ends, when not ready, in a state
satisfying `Inv`; after an error the throttle is within bounds; it never misuses the
state. -/
theorem pollState (h : Inv c) (env : Env) :
    (KuduRpc.pollState env c).Sat (fun a c' => a = .notReady → Inv c')
      (fun c' => c'.throttle ≤ c'.options.rpcQueueLen) := by
  have hthrottle : ∀ c', Frame c c' → c'.throttle ≤ c'.options.rpcQueueLen :=
    fun c' hf => (h.calls.of_frame hf).2.2
  unfold KuduRpc.pollState
  split
  · next hk =>
    refine (pollConnecting_sat hk).mono (fun _ c' hq ha => ?_) hthrottle
    obtain ⟨hf, hneg | rfl⟩ := hq ha
    · exact h.of_frame (by simp [hk]) hf hneg
    · exact h
  · next hk =>
    exact (pollNegotiating_sat hk).mono
      (fun _ _ hq ha => h.of_frame (by simp [hk]) (hq ha).1 ((hq ha).2.trans hk))
      fun c' hk' => hthrottle c' hk'.1
  · next hk =>
    exact (pollConnected_triple env.now c ⟨hk, h.calls⟩).mono (fun _ _ hq _ => of_connected hq)
      fun _ hc => hc.2.2
  · next hk =>
    refine (pollReset_sat hk env).mono (fun _ c' hq ha => ?_) hthrottle
    obtain ⟨hf, hneg | rfl | rfl⟩ := hq ha
    · exact h.of_frame (by simp [hk]) hf hneg
    · exact h
    · have hb := h.buffers_empty (.inl hk)
      exact ⟨fun _ => h.recv_empty (by simp [hk]), h.disjoint, h.recv_le, fun _ => hb, h.throttle_le⟩

/-- A poll keeps the invariant. -/
theorem poll (h : Inv c) {env : Env} {c' : Connection} (hp : c.poll env = .ok () c') : Inv c' := by
  have hs := h.pollState env
  unfold Connection.poll at hp
  revert hs
  split at hp
  all_goals first | (simp only [reduceCtorEq] at hp) | skip
  · next c1 hps =>
    rw [hps]
    cases hp
    exact fun hq => hq rfl
  · next e c1 hps =>
    rw [hps]
    cases hp
    exact fun ht => reset ht e env.now env.jitter

/-- A poll from a state satisfying `Inv` never panics for a misuse of the state. -/
theorem poll_no_misuse (h : Inv c) (env : Env) {p : Panic} (hp : c.poll env = .panic p) :
    p.misuse = false := by
  have hs := h.pollState env
  unfold Connection.poll at hp
  revert hs
  split at hp
  all_goals first | (simp only [reduceCtorEq] at hp) | skip
  · cases hp; exact fun _ => rfl
  · next p' hps =>
    rw [hps]
    cases hp
    exact id

/-! ## Every step -/

theorem step {c c' : Connection} (h : Inv c) (hs : Step c c') : Inv c' := by
  cases hs with
  | poll env hp => exact h.poll hp
  | throttle =>
    exact ⟨h.recv_empty, h.disjoint, h.recv_le, h.buffers_empty,
      (Nat.div_le_self _ _).trans (min_le_right _ _)⟩
  | reset e now jitter => exact reset h.throttle_le e now jitter
  | enqueue callId rpc hs hr =>
    refine ⟨h.recv_empty, fun k hk hk' => ?_, h.recv_le, h.buffers_empty, h.throttle_le⟩
    rcases List.mem_append.1 ((CallMap.keys_insert_of_not_mem hs rpc) ▸ hk') with hk' | hk'
    · exact h.disjoint k hk hk'
    · exact hr (List.mem_singleton.1 hk' ▸ hk)
  | cancel callId =>
    have hr : (c.cancel callId).recvQueue.keys = c.recvQueue.keys := CallMap.keys_modify _ _ _
    have hs : (c.cancel callId).sendQueue.keys = c.sendQueue.keys := CallMap.keys_modify _ _ _
    exact ⟨hr ▸ h.recv_empty, by rw [hr, hs]; exact h.disjoint, by rw [hr]; exact h.recv_le,
      h.buffers_empty, h.throttle_le⟩
  | reactor st hk =>
    exact ⟨fun hk' => h.recv_empty (hk ▸ hk'), h.disjoint, h.recv_le,
      fun hk' => h.buffers_empty (hk ▸ hk'), h.throttle_le⟩

end Inv

/-- Every reachable state satisfies `Inv`. -/
theorem reachable_inv {options : ConnectionOptions} {c : Connection} (h : Reachable options c) :
    Inv c := by
  induction h with
  | new streamNew => exact Inv.new options streamNew
  | step _ hs ih => exact ih.step hs

/-- Every state reachable from `Connection::new` satisfies the invariant: `recv_queue` is
empty unless connected, its ids are apart from those of `send_queue` and at most
`i32::MAX`, both buffers are empty in `Reset` and `Connecting`, and the throttle is
within `rpc_queue_len`; and its next poll never reaches an `unreachable!()` of `State`
nor fails a `transition_*` assertion. -/
theorem reachable_invariants :
    ∀ (options : ConnectionOptions) (c : Connection), Reachable options c →
      Inv c ∧ ∀ (env : Env) (p : Panic), c.poll env = .panic p → p.misuse = false :=
  fun _ _ h => ⟨reachable_inv h, fun env _ hp => (reachable_inv h).poll_no_misuse env hp⟩

/-- The invariant at a connection that has queued a call and whose connect attempt has
completed; its next poll panics, at `Future::poll`'s `unreachable!()`, which is no misuse
of the state. -/
theorem reachable_invariants_queued :
    Inv queuedConnection ∧ queuedConnection.poll env0 = .panic (.unreachable .pollReady) ∧
      (Panic.unreachable .pollReady).misuse = false :=
  have h := reachable_invariants _ _ reachable_queuedConnection
  ⟨h.1, queuedConnection_poll, h.2 env0 _ queuedConnection_poll⟩

/-! ## No run reaches `Connected` -/

/-- A poll from a state that is not connected does not leave it connected: negotiation
either fails, and the connection is reset, or ends in SASL SUCCESS, whose `Ready` the
poll answers with a panic. -/
theorem pollState_not_connected {c : Connection} (hc : c.state.kind ≠ .connected) (env : Env) :
    (pollState env c).Sat (fun a c' => a = .notReady → c'.state.kind ≠ .connected) fun _ => True := by
  unfold pollState
  split
  · next hk =>
    refine (pollConnecting_sat hk).mono (fun _ c' hq ha => ?_) fun _ _ => trivial
    rcases (hq ha).2 with hneg | rfl
    · simp [hneg]
    · exact hc
  · next hk =>
    exact (pollNegotiating_sat hk).mono (fun _ _ hq ha => by simp [(hq ha).2.trans hk])
      fun _ _ => trivial
  · next hk => exact absurd hk hc
  · next hk =>
    refine (pollReset_sat hk env).mono (fun _ c' hq ha => ?_) fun _ _ => trivial
    rcases (hq ha).2 with hneg | rfl | rfl
    · simp [hneg]
    · exact hc
    · simp [State.kind]

theorem Step.not_connected {c c' : Connection} (hs : Step c c') (hc : c.state.kind ≠ .connected) :
    c'.state.kind ≠ .connected := by
  cases hs with
  | poll env hp =>
    have h := pollState_not_connected hc env
    unfold Connection.poll at hp
    revert h
    split at hp
    all_goals first | (simp only [reduceCtorEq] at hp) | skip
    · next hps => rw [hps]; cases hp; exact fun hq => hq rfl
    · next hps => cases hp; exact fun _ => by simp [Connection.reset, State.kind]
  | reset e now jitter => simp [Connection.reset, State.kind]
  | reactor st hk => rwa [hk]
  | _ => exact hc

/-- No run from `Connection::new` reaches `Connected`, so `recv_queue` stays empty in every
reachable state. -/
theorem reachable_not_connected {options : ConnectionOptions} {c : Connection}
    (h : Reachable options c) : c.state.kind ≠ .connected ∧ c.recvQueue.keys = [] := by
  have hk : c.state.kind ≠ .connected := by
    induction h with
    | new streamNew => simp [Connection.new, State.kind]
    | step _ hs ih => exact hs.not_connected ih
  exact ⟨hk, (reachable_inv h).recv_empty hk⟩

/-- NEGOTIATE under -33, the id a conforming server answers with. -/
def negotiateUnderMinus33 : ResponseFrame := saslReply (-33) (by decide) negotiateReply (by decide)

/-- The socket of a completed connect whose server answers NEGOTIATE under -33, and which
accepts the client's first bytes. -/
def refusingSocket : Socket := ⟨[.data negotiateUnderMinus33.bytes], false, [.accept 4096], [], none⟩

/-- A new connection whose connect attempt has completed with `refusingSocket`. -/
def refusedConnection : Connection :=
  { Connection.new .default .pending with state := .connecting (.connected refusingSocket) }

/-- Through negotiation: the poll of `refusedConnection` refuses the reply under -33 and
resets the connection, which is then neither connected nor holding calls in flight. -/
theorem reachable_not_connected_refused :
    ∃ c', refusedConnection.poll env0 = .ok () c' ∧ c'.state.kind = .reset ∧
      Reachable .default c' ∧ c'.state.kind ≠ .connected ∧ c'.recvQueue.keys = [] := by
  have hc : pollConnecting refusedConnection = pollNegotiating { refusedConnection with
      state := .negotiating refusingSocket
      writeBuf := [] ++ (Wire.utf8 "hrpc" ++ [9, 0, 0]) ++ saslNegotiateFrame } :=
    pollConnecting_connected rfl rfl
  have hr : Receiving { refusedConnection with
      state := .negotiating refusingSocket
      writeBuf := [] ++ (Wire.utf8 "hrpc" ++ [9, 0, 0]) ++ saslNegotiateFrame } [negotiateUnderMinus33] [] :=
    .of_reads rfl rfl rfl rfl (by decide)
  obtain ⟨c1, hc1⟩ := hr.pollNegotiating_illegal (.inr ⟨_, 4096, [], rfl, rfl, by decide⟩) (by decide)
  have hp : refusedConnection.poll env0 = .ok () (c1.reset (.rpc (.invalidRpcHeader
      "negotiation RPC response header has illegal call id")) env0.now env0.jitter) :=
    Connection.poll_of_err (by rw [pollState_of_connecting (c := refusedConnection) rfl, hc, hc1])
  have h0 : Reachable .default refusedConnection := .step (.new .pending) (.reactor _ _ rfl)
  have h := h0.step (.poll env0 hp)
  exact ⟨_, hp, by simp [Connection.reset, State.kind], h, reachable_not_connected h⟩

end KuduRpc
