import KuduRpc.Connection.Poll

/-!
# Runs of a connection

A connection changes by the steps of its task and of the world around it: a poll of the
task (`Future::poll`, with whatever the socket, the connect attempt and the timer
report), `throttle()`, `reset(error)`, a new call queued under an id neither queue holds
(as the commented-out `Sink::start_send` does), a call's cancellation signal firing, and
the reactor changing what the state's socket, connect attempt or timer will report.
A poll that panics or never returns has no successor. `Reachable` is every state a run
from `Connection::new` reaches.

A step written down as data is an `Action`, and `run` replays a list of them; a replayed
run from `Connection::new` reaches every state it passes (`reachable_run`), so fixed runs
are checked by evaluation.
-/

namespace KuduRpc

/-- A new call queued under `callId`. -/
def Connection.enqueue (callId : Nat) (rpc : Rpc) (c : Connection) : Connection :=
  { c with sendQueue := c.sendQueue.insert callId rpc }

/-- The cancellation signal of the call under `callId` fires. -/
def Connection.cancel (callId : Nat) (c : Connection) : Connection :=
  { c with
    sendQueue := c.sendQueue.modify callId fun r => { r with cancel := true }
    recvQueue := c.recvQueue.modify callId fun r => { r with cancel := true } }

/-- One step of a connection. -/
inductive Step : Connection → Connection → Prop
  | poll {c c' : Connection} (env : Env) : c.poll env = .ok () c' → Step c c'
  | throttle (c : Connection) : Step c c.throttleDown
  | reset (c : Connection) (e : Error) (now jitter : Nat) : Step c (c.reset e now jitter)
  | enqueue (c : Connection) (callId : Nat) (rpc : Rpc) :
      callId ∉ c.sendQueue.keys → callId ∉ c.recvQueue.keys → Step c (c.enqueue callId rpc)
  | cancel (c : Connection) (callId : Nat) : Step c (c.cancel callId)
  | reactor (c : Connection) (st : State) : st.kind = c.state.kind → Step c { c with state := st }

/-- The states a run from `Connection::new options` reaches. -/
inductive Reachable (options : ConnectionOptions) : Connection → Prop
  | new (streamNew : StreamNew) : Reachable options (Connection.new options streamNew)
  | step {c c' : Connection} : Reachable options c → Step c c' → Reachable options c'

/-! ## Runs written down -/

/-- A step of `Step`, as data. -/
inductive Action
  | poll (env : Env)
  | throttle
  | reset (e : Error) (now jitter : Nat)
  | enqueue (callId : Nat) (rpc : Rpc)
  | cancel (callId : Nat)
  | reactor (st : State)

/-- The connection after the step, when the step is possible. -/
def Action.apply : Action → Connection → Option Connection
  | .poll env, c =>
    match c.poll env with
    | .ok () c' => some c'
    | _ => none
  | .throttle, c => some c.throttleDown
  | .reset e now jitter, c => some (c.reset e now jitter)
  | .enqueue callId rpc, c =>
    if callId ∈ c.sendQueue.keys ∨ callId ∈ c.recvQueue.keys then none
    else some (c.enqueue callId rpc)
  | .cancel callId, c => some (c.cancel callId)
  | .reactor st, c => if st.kind = c.state.kind then some { c with state := st } else none

theorem Action.step {a : Action} {c c' : Connection} (h : a.apply c = some c') : Step c c' := by
  cases a with
  | poll env =>
    simp only [Action.apply] at h
    split at h
    · rename_i c'' hp
      cases h
      exact .poll env hp
    · cases h
  | throttle => cases h; exact .throttle c
  | reset e now jitter => cases h; exact .reset c e now jitter
  | enqueue callId rpc =>
    simp only [Action.apply] at h
    split at h
    · cases h
    · rename_i hn
      cases h
      exact .enqueue c callId rpc (fun h' => hn (.inl h')) (fun h' => hn (.inr h'))
  | cancel callId => cases h; exact .cancel c callId
  | reactor st =>
    simp only [Action.apply] at h
    split at h
    · cases h; exact .reactor c st ‹_›
    · cases h

/-- Replays `as` from `c`. -/
def run : Connection → List Action → Option Connection
  | c, [] => some c
  | c, a :: as => (a.apply c).bind fun c' => run c' as

theorem reachable_run {options : ConnectionOptions} :
    ∀ {c c' : Connection} {as : List Action}, Reachable options c → run c as = some c' →
      Reachable options c'
  | c, c', [], hc, h => by cases h; exact hc
  | c, c', a :: as, hc, h => by
    simp only [run] at h
    cases ha : a.apply c with
    | none => simp [ha] at h
    | some c1 =>
      simp only [ha, Option.bind_some] at h
      exact reachable_run (hc.step (Action.step ha)) h

/-- A run from `Connection::new` that ends in a state where `p` holds. -/
theorem reachable_of_run (options : ConnectionOptions) (streamNew : StreamNew)
    (as : List Action) (p : Connection → Bool)
    (h : (run (Connection.new options streamNew) as).map p = some true) :
    ∃ c, Reachable options c ∧ p c = true := by
  cases hr : run (Connection.new options streamNew) as with
  | none => simp [hr] at h
  | some c =>
    simp only [hr, Option.map_some', Option.some.injEq] at h
    exact ⟨c, reachable_run (.new streamNew) hr, h⟩

/-- A poll at time 0, with no jitter and no connect attempt. -/
def env0 : Env := ⟨0, 0, .pending⟩

/-- Which panic an outcome is, if it is one. -/
def Outcome.panicked {α : Type} : Outcome α → Option Panic
  | .panic p => some p
  | _ => none

theorem Outcome.eq_panic {α : Type} {o : Outcome α} {p : Panic} (h : o.panicked = some p) :
    o = .panic p := by
  cases o <;> simp [Outcome.panicked] at h
  rw [h]

/-- Whether an outcome is `Ok` with a value and a state where `p` holds. -/
def Outcome.okWith {α : Type} (p : α → Connection → Bool) : Outcome α → Bool
  | .ok a c => p a c
  | _ => false

theorem Outcome.exists_of_okWith {α : Type} {o : Outcome α} {p : α → Connection → Bool}
    (h : o.okWith p = true) : ∃ a c, o = .ok a c ∧ p a c = true := by
  cases o <;> simp only [Outcome.okWith, reduceCtorEq] at h
  exact ⟨_, _, rfl, h⟩

end KuduRpc
