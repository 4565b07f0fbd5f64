import KuduRpc.Wire.Messages

/-!
# Calls, errors and backoff

The values the connection moves around: an `Rpc` with the fields the connection reads,
the errors it raises or delivers, the completion signals it fires, and the reset
backoff. `rpc/mod.rs`, `error.rs` and `backoff.rs` are not part of the source; their
behaviour here follows the specification (§3, §4.4, §7), and each such definition says so.

Completing or failing an `Rpc` sends on its callback. The model records these sends as
`Signal`s in the order they happen; a call's completion has been signalled when a
`Signal` carries it.
-/

namespace KuduRpc

open Wire

/-- The kinds of `io::Error` the connection distinguishes. -/
inductive IoErrorKind
  | writeZero
  | other
  deriving DecidableEq, Repr

/-- `io::Error`: a kind and its description. -/
structure IoError where
  kind : IoErrorKind
  description : String
  deriving DecidableEq, Repr

/-- `RpcError`: a failed call's error code and message. -/
structure RpcError where
  code : RpcErrorCode
  message : List UInt8
  deriving DecidableEq, Repr

/-- Modelled from the spec: `RpcError::invalid_rpc_header`, an `InvalidRpcHeader` error
(§7: "length > max, bad call ID, unexpected sidecars"), fatal to the connection. -/
def RpcError.invalidRpcHeader (message : String) : RpcError :=
  ⟨.fatalInvalidRpcHeader, utf8 message⟩

/-- Modelled from the spec: `RpcError::from(ErrorStatusPB)`, the server's code and
message; an absent code reads as the enum's first value, `FATAL_UNKNOWN`. -/
def RpcError.ofStatus (s : ErrorStatusPB) : RpcError :=
  ⟨s.code.getD .fatalUnknown, s.message.getD []⟩

/-- Modelled from the spec: `RpcError::is_fatal`, the codes of the "Rpc-fatal" row of
§7. -/
def RpcError.isFatal (e : RpcError) : Bool := e.code.isFatal

/-- The crate's `Error`, with the variants the modelled code constructs: the connection,
`SchemaBuilder::build` (`InvalidArgument`), and `str::from_utf8` in `value.rs`, whose
`Utf8Error` becomes an `Error` without its position. -/
inductive Error
  | io (e : IoError)
  | protobuf (e : PbError)
  | negotiationError (message : String)
  | rpc (e : RpcError)
  | connectionError
  | timedOut
  | cancelled
  | invalidArgument (message : String)
  | utf8
  deriving DecidableEq, Repr

/-- Modelled from the spec: `Rpc` (§3), with the fields the connection reads. `cancel`
is whether the call's cancellation signal has fired, `deadline` an instant in
milliseconds, `request` and `response` the fields of the request and of the response
slot. -/
structure Rpc where
  serviceName : String
  methodName : String
  deadline : Nat
  requiredFeatureFlags : List Nat
  request : Message
  response : Message
  failFast : Bool
  cancel : Bool
  deriving DecidableEq, Repr

/-- Modelled from the spec: `Rpc::cancelled`. -/
def Rpc.cancelled (r : Rpc) : Bool := r.cancel

/-- Modelled from the spec: `Rpc::timed_out`, "`now ≥ deadline`". -/
def Rpc.timedOut (r : Rpc) (now : Nat) : Bool := r.deadline ≤ now

/-- A send on a call's callback: `Rpc::complete` or `Rpc::fail`. -/
inductive Signal
  | complete (rpc : Rpc)
  | fail (rpc : Rpc) (error : Error)
  deriving DecidableEq, Repr

/-- The call a signal completes. -/
def Signal.rpc : Signal → Rpc
  | .complete r => r
  | .fail r _ => r

/-- Modelled from the spec: `Backoff` (§4.4), truncated exponential backoff in
milliseconds. -/
structure Backoff where
  initial : Nat
  max : Nat
  current : Nat
  deriving DecidableEq, Repr

/-- Modelled from the spec: `Backoff::with_duration_range`. -/
def Backoff.withDurationRange (initial max : Nat) : Backoff := ⟨initial, max, initial⟩

/-- Modelled from the spec: `next_backoff_ms`, the current delay plus a jitter below
half of it (`jitter` is the random draw), after which the delay doubles up to the
maximum. -/
def Backoff.nextBackoffMs (b : Backoff) (jitter : Nat) : Nat × Backoff :=
  (b.current + (if b.current / 2 = 0 then 0 else jitter % (b.current / 2)),
    { b with current := min (b.current * 2) b.max })

/-- Modelled from the spec: `Backoff::reset`. -/
def Backoff.reset (b : Backoff) : Backoff := { b with current := b.initial }

end KuduRpc
