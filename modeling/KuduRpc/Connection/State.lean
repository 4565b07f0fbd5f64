import KuduRpc.QueueMap

/-!
# The connection and its execution model

`Connection` (`rpc/connection.rs`) owns one TCP socket, or the connect attempt or reset
timer that stands in its place, two byte buffers, the two call queues, the reset backoff
and the throttle. The socket, the connect attempt and the timer belong to the reactor:
the model holds what they will report when the connection next asks them. A `Socket`
holds the results its next reads and writes will return and the bytes it has accepted
so far; after its pending reads it reports `WouldBlock`, or, once the peer has closed
the stream, a zero-byte read forever.

A call of the connection's code runs in `ConnM`: it ends normally or with an `Err`, both
leaving the connection as the code left it, panics, or never returns (`diverge`).
Arithmetic and slicing are checked as in a debug build.
-/

namespace KuduRpc

open Wire

/-- `ConnectionOptions`. -/
structure ConnectionOptions where
  nodelay : Bool
  rpcQueueLen : Nat
  backoffInitial : Nat
  backoffMax : Nat
  maxMessageLength : Nat
  deriving DecidableEq, Repr

/-- `ConnectionOptions::default()`. -/
def ConnectionOptions.default : ConnectionOptions := ⟨true, 256, 10, 30000, 5 * 1024 * 1024⟩

/-- What one read from a socket returns. -/
inductive ReadResult
  | data (bs : List UInt8)
  | error (e : IoError)
  deriving DecidableEq, Repr

/-- What one write to a socket returns: how many bytes it accepts at most. -/
inductive WriteResult
  | accept (n : Nat)
  | error (e : IoError)
  deriving DecidableEq, Repr

/-- A connected TCP socket, as the reactor will report it. -/
structure Socket where
  /-- Results of the next reads. -/
  reads : List ReadResult
  /-- The peer has closed the stream: after `reads`, every read returns zero bytes. -/
  closed : Bool
  /-- Results of the next writes. -/
  writes : List WriteResult
  /-- The bytes the socket has accepted, in order. -/
  sent : List UInt8
  /-- What `set_nodelay` returns. -/
  nodelay : Option IoError
  deriving DecidableEq, Repr

/-- `TcpStreamNew`, a connect attempt. -/
inductive StreamNew
  | pending
  | connected (stream : Socket)
  | failed (e : IoError)
  deriving DecidableEq, Repr

/-- Where a `Timeout` stands. -/
inductive TimerStatus
  | pending
  | elapsed
  | failed (e : IoError)
  deriving DecidableEq, Repr

/-- `Timeout`: its duration in milliseconds and where it stands. -/
structure Timeout where
  ms : Nat
  status : TimerStatus
  deriving DecidableEq, Repr

/-- `State`. -/
inductive State
  | connecting (streamNew : StreamNew)
  | negotiating (stream : Socket)
  | connected (stream : Socket)
  | reset (timeout : Timeout)
  deriving DecidableEq, Repr

/-- `StateKind`. -/
inductive StateKind
  | connecting
  | negotiating
  | connected
  | reset
  deriving DecidableEq, Repr

/-- `State::kind`. -/
def State.kind : State → StateKind
  | .connecting _ => .connecting
  | .negotiating _ => .negotiating
  | .connected _ => .connected
  | .reset _ => .reset

/-- `Connection`. The completion signals fired so far are kept in `signals`, oldest
first. -/
structure Connection where
  options : ConnectionOptions
  state : State
  sendQueue : CallMap
  recvQueue : CallMap
  responseHeader : ResponseHeader
  recvBuf : List UInt8
  writeBuf : List UInt8
  resetBackoff : Backoff
  throttle : Nat
  signals : List Signal
  deriving DecidableEq

/-- `Connection::new`: connecting, with empty queues and buffers and the throttle at
`rpc_queue_len`. `streamNew` is the connect attempt `TcpStream::connect` starts. -/
def Connection.new (options : ConnectionOptions) (streamNew : StreamNew) : Connection where
  options := options
  state := .connecting streamNew
  sendQueue := .empty
  recvQueue := .empty
  responseHeader := .empty
  recvBuf := []
  writeBuf := []
  resetBackoff := .withDurationRange options.backoffInitial options.backoffMax
  throttle := options.rpcQueueLen
  signals := []

/-! ## Panics and outcomes -/

/-- The places where the connection's code can panic on purpose. -/
inductive Site
  | stateStream
  | stateStreamNew
  | stateTimeout
  | transitionNegotiating
  | transitionConnected
  | transitionConnecting
  | saslState
  | pollReady
  deriving DecidableEq, Repr

/-- A panic, by cause. -/
inductive Panic
  /-- `unreachable!()`. -/
  | unreachable (site : Site)
  /-- A failed `debug_assert_eq!`. -/
  | debugAssert (site : Site)
  /-- `Option::unwrap` on `None`. -/
  | unwrapNone
  /-- Arithmetic overflow. -/
  | overflow
  /-- A slice index out of range. -/
  | sliceIndex
  /-- `panic!("sidecar decoding not implemented")`. -/
  | sidecars
  deriving DecidableEq, Repr

/-- How a call of the connection's code ends. -/
inductive Outcome (α : Type) where
  | ok (a : α) (c : Connection)
  | err (e : Error) (c : Connection)
  | panic (p : Panic)
  | diverge

/-- The connection's code: a call on the connection's state. -/
def ConnM (α : Type) : Type := Connection → Outcome α

namespace ConnM

instance : Monad ConnM where
  pure a c := .ok a c
  bind x f c :=
    match x c with
    | .ok a c' => f a c'
    | .err e c' => .err e c'
    | .panic p => .panic p
    | .diverge => .diverge

def get : ConnM Connection := fun c => .ok c c

def set (c : Connection) : ConnM Unit := fun _ => .ok () c

def modify (f : Connection → Connection) : ConnM Unit := fun c => .ok () (f c)

/-- `return Err(e)`. -/
def throw {α : Type} (e : Error) : ConnM α := fun c => .err e c

def panic {α : Type} (p : Panic) : ConnM α := fun _ => .panic p

def diverge {α : Type} : ConnM α := fun _ => .diverge

@[simp] theorem pure_apply {α : Type} (a : α) (c : Connection) :
    (pure a : ConnM α) c = .ok a c := rfl

theorem bind_apply {α β : Type} (x : ConnM α) (f : α → ConnM β) (c : Connection) :
    (x >>= f) c =
      match x c with
      | .ok a c' => f a c'
      | .err e c' => .err e c'
      | .panic p => .panic p
      | .diverge => .diverge := rfl

theorem bind_ok {α β : Type} {x : ConnM α} {c c' : Connection} {a : α}
    (h : x c = .ok a c') (f : α → ConnM β) : (x >>= f) c = f a c' := by
  rw [bind_apply, h]

theorem bind_err {α β : Type} {x : ConnM α} {c c' : Connection} {e : Error}
    (h : x c = .err e c') (f : α → ConnM β) : (x >>= f) c = .err e c' := by
  rw [bind_apply, h]

end ConnM

/-- `Async`. -/
inductive Async (α : Type)
  | ready (a : α)
  | notReady
  deriving DecidableEq, Repr

/-- `try_ready!(x)`: return `NotReady` at once, or go on with the value. -/
def tryReady {α β : Type} (x : ConnM (Async α)) (k : α → ConnM (Async β)) :
    ConnM (Async β) :=
  x >>= fun
    | .ready a => k a
    | .notReady => pure .notReady

theorem tryReady_ready {α β : Type} {x : ConnM (Async α)} {c c' : Connection} {a : α}
    (h : x c = .ok (.ready a) c') (k : α → ConnM (Async β)) : tryReady x k c = k a c' := by
  rw [tryReady, ConnM.bind_ok h]

theorem tryReady_notReady {α β : Type} {x : ConnM (Async α)} {c c' : Connection}
    (h : x c = .ok .notReady c') (k : α → ConnM (Async β)) :
    tryReady x k c = .ok .notReady c' := by
  rw [tryReady, ConnM.bind_ok h]; rfl

theorem tryReady_err {α β : Type} {x : ConnM (Async α)} {c c' : Connection} {e : Error}
    (h : x c = .err e c') (k : α → ConnM (Async β)) : tryReady x k c = .err e c' := by
  rw [tryReady, ConnM.bind_err h]

theorem tryReady_panic {α β : Type} {x : ConnM (Async α)} {c : Connection} {p : Panic}
    (h : x c = .panic p) (k : α → ConnM (Async β)) : tryReady x k c = .panic p := by
  rw [tryReady, ConnM.bind_apply, h]

/-! ## The state's resources -/

/-- The socket of `Negotiating` or `Connected` (`State::stream`). -/
def State.stream? : State → Option Socket
  | .negotiating s | .connected s => some s
  | _ => none

/-- The same state with its socket replaced. -/
def State.withStream (st : State) (s : Socket) : State :=
  match st with
  | .negotiating _ => .negotiating s
  | .connected _ => .connected s
  | st => st

@[simp] theorem State.kind_withStream (st : State) (s : Socket) :
    (st.withStream s).kind = st.kind := by
  cases st <;> rfl

/-- `state.stream()`: the socket, which only `Negotiating` and `Connected` have. -/
def stream : ConnM Socket := fun c =>
  match c.state.stream? with
  | some s => .ok s c
  | none => .panic (.unreachable .stateStream)

/-- `State::transition_negotiating`: the socket takes the connect attempt's place; the
debug assertion requires `Connecting`. -/
def transitionNegotiating (s : Socket) : ConnM Unit := fun c =>
  if c.state.kind = .connecting then .ok () { c with state := .negotiating s }
  else .panic (.debugAssert .transitionNegotiating)

/-- `State::transition_connected`. -/
def transitionConnected : ConnM Unit := fun c =>
  match c.state with
  | .negotiating s => .ok () { c with state := .connected s }
  | _ => .panic (.debugAssert .transitionConnected)

/-- `State::transition_connecting`. -/
def transitionConnecting (streamNew : StreamNew) : ConnM Unit := fun c =>
  if c.state.kind = .reset then .ok () { c with state := .connecting streamNew }
  else .panic (.debugAssert .transitionConnecting)

end KuduRpc
