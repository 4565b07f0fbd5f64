import KuduRpc.Wire.Fields

/-!
# The KRPC header messages

The protobuf messages of the connection protocol, as views over field lists: what the
generated `merge_from` of each type does with a field, which fields `check_initialized`
requires, and the fields the client writes. Field numbers and enum values are those of
Kudu's `rpc_header.proto`, from which the `kudu_pb` crate is generated.

A field a type does not know is kept as an unknown field, which nothing here reads; a
known field with another wire type is refused with `unexpectedWireType`, and an enum
value the type does not define with `invalidEnumValue`, as rust-protobuf does for
`proto2` files.

* `ResponseHeader.decode_toFields`: the header a server writes is read back.
* `mergeDelimited_encodeDelimited`: `merge_message` of a length-delimited message reads
  exactly its varint length and its body, whatever bytes follow.
-/

namespace KuduRpc.Wire

/-- The UTF-8 bytes of a string. -/
def utf8 (s : String) : List UInt8 := s.data.flatMap String.utf8EncodeChar

/-- An `int32` as protobuf writes it: sign-extended to 64 bits. -/
def int32Varint (v : Int) : Nat := (v % 2 ^ 64).toNat

/-- `read_int32`: the low 32 bits of the varint, as a signed number. -/
def int32OfVarint (v : Nat) : Int :=
  if v % 2 ^ 32 < 2 ^ 31 then (v % 2 ^ 32 : Nat) else (v % 2 ^ 32 : Nat) - 2 ^ 32

theorem int32Varint_lt (v : Int) : int32Varint v < 2 ^ 64 := by
  unfold int32Varint; omega

theorem int32OfVarint_int32Varint {v : Int} (h1 : -2 ^ 31 ≤ v) (h2 : v < 2 ^ 31) :
    int32OfVarint (int32Varint v) = v := by
  unfold int32OfVarint int32Varint
  split <;> omega

theorem int32OfVarint_range (v : Nat) : -2 ^ 31 ≤ int32OfVarint v ∧ int32OfVarint v < 2 ^ 31 := by
  unfold int32OfVarint
  split <;> omega

/-- What a message type's generated code provides to the codec. -/
structure MessageType (α : Type) where
  /-- `Message::new()`. -/
  new : α
  /-- One arm of the generated `merge_from`. -/
  mergeField : α → Field → Except PbError α
  /-- `is_initialized`: every required field is set. -/
  isInitialized : α → Bool

/-- `merge_message` into `M::new()`: the length-delimited message at the front of `bs`,
and `cis.pos()`, the number of bytes read. -/
def MessageType.mergeDelimited {α : Type} (t : MessageType α) (bs : List UInt8) :
    Except PbError (α × Nat) :=
  (readDelimited bs).bind fun p =>
    (mergeFields t.mergeField t.new p.1).map fun a => (a, bs.length - p.2.length)

/-- `parse_length_delimited_from`: `merge_message`, then `check_initialized`. -/
def MessageType.parseDelimited {α : Type} (t : MessageType α) (bs : List UInt8) :
    Except PbError (α × Nat) :=
  (t.mergeDelimited bs).bind fun p =>
    if t.isInitialized p.1 then .ok p else .error .messageNotInitialized

/-- The typed view of a field list, where its fields are all taken. -/
def MessageType.ofFields {α : Type} (t : MessageType α) (m : Message) : Except PbError α :=
  m.foldlM t.mergeField t.new

theorem MessageType.mergeDelimited_encodeDelimited {α : Type} (t : MessageType α)
    {m : Message} (hm : ∀ f ∈ m, f.Valid) (hlen : (encodeMessage m).length < 2 ^ 64)
    (rest : List UInt8) :
    t.mergeDelimited (encodeDelimited (encodeMessage m) ++ rest) =
      (t.ofFields m).map fun a => (a, (encodeDelimited (encodeMessage m)).length) := by
  simp [MessageType.mergeDelimited, readDelimited_encodeDelimited hlen,
    mergeFields_encodeMessage _ _ hm, Except.bind, MessageType.ofFields]

/-- What `new` satisfies and every merged field keeps holds of what a field list decodes
to. -/
theorem MessageType.ofFields_induction {α : Type} (t : MessageType α) (P : α → Prop)
    (hnew : P t.new) (hmerge : ∀ a f a', t.mergeField a f = .ok a' → P a → P a') {m : Message}
    {a : α} (h : t.ofFields m = .ok a) : P a := by
  unfold MessageType.ofFields at h
  generalize t.new = a0 at h hnew
  induction m generalizing a0 with
  | nil => cases h; exact hnew
  | cons f m ih =>
    rw [List.foldlM_cons] at h
    cases hf : t.mergeField a0 f with
    | error e => rw [hf] at h; cases h
    | ok a1 => rw [hf] at h; exact ih a1 h (hmerge _ _ _ hf hnew)

/-! ## Response headers -/

/-- `ResponseHeader`: the call id the response answers, whether it carries an error
status, and the offsets of its sidecars. -/
structure ResponseHeader where
  callId : Int
  isError : Bool
  sidecarOffsets : List Nat
  deriving DecidableEq, Repr

/-- `ResponseHeader::new()`, also what `clear()` leaves. -/
def ResponseHeader.empty : ResponseHeader := ⟨0, false, []⟩

/-- `call_id = 1` (`int32`), `is_error = 2` (`bool`), `sidecar_offsets = 3`
(`repeated uint32`, one varint a field or packed). -/
def ResponseHeader.mergeField (h : ResponseHeader) (f : Field) :
    Except PbError ResponseHeader :=
  match f.number, f.value with
  | 1, .varint v => .ok { h with callId := int32OfVarint v }
  | 2, .varint v => .ok { h with isError := v != 0 }
  | 3, .varint v => .ok { h with sidecarOffsets := h.sidecarOffsets ++ [v % 2 ^ 32] }
  | 3, .bytes bs => (readPacked bs).map fun vs => { h with sidecarOffsets := h.sidecarOffsets ++ vs }
  | 1, w | 2, w | 3, w => .error (.unexpectedWireType w.wireType)
  | _, _ => .ok h

def ResponseHeader.type : MessageType ResponseHeader :=
  ⟨.empty, ResponseHeader.mergeField, fun _ => true⟩

/-- The call id of every header a response decodes to is an `i32`. -/
theorem ResponseHeader.callId_range {m : Message} {h : ResponseHeader}
    (hd : ResponseHeader.type.ofFields m = .ok h) : -2 ^ 31 ≤ h.callId ∧ h.callId < 2 ^ 31 := by
  refine ResponseHeader.type.ofFields_induction (fun h => -2 ^ 31 ≤ h.callId ∧ h.callId < 2 ^ 31)
    (by decide) (fun h f h' (hm : h.mergeField f = .ok h') hh => ?_) hd
  unfold ResponseHeader.mergeField at hm
  split at hm
  · cases hm; exact int32OfVarint_range _
  case h_4 => cases hp : readPacked _ <;> rw [hp] at hm <;> cases hm; exact hh
  all_goals cases hm <;> exact hh

/-- The fields a server writes: `call_id`, `is_error` when set, each sidecar offset. -/
def ResponseHeader.toFields (h : ResponseHeader) : Message :=
  ⟨1, .varint (int32Varint h.callId)⟩ :: (if h.isError then [⟨2, .varint 1⟩] else []) ++
    h.sidecarOffsets.map fun o => ⟨3, .varint o⟩

/-- A header whose fields fit their types. -/
def ResponseHeader.Valid (h : ResponseHeader) : Prop :=
  -2 ^ 31 ≤ h.callId ∧ h.callId < 2 ^ 31 ∧ ∀ o ∈ h.sidecarOffsets, o < 2 ^ 32

instance (h : ResponseHeader) : Decidable h.Valid := inferInstanceAs (Decidable (_ ∧ _ ∧ _))

theorem ResponseHeader.toFields_valid {h : ResponseHeader} (hv : h.Valid) :
    ∀ f ∈ h.toFields, f.Valid := by
  intro f hf
  simp only [ResponseHeader.toFields, List.mem_cons, List.mem_append, List.mem_map] at hf
  rcases hf with (rfl | hf) | ⟨o, ho, rfl⟩
  · exact ⟨Nat.zero_lt_succ _, by simp, int32Varint_lt _⟩
  · split at hf <;> simp at hf
    subst hf
    exact ⟨Nat.zero_lt_succ _, by simp, by simp [WireValue.Valid]⟩
  · exact ⟨Nat.zero_lt_succ _, by simp, by have := hv.2.2 o ho; simp [WireValue.Valid]; omega⟩

theorem ResponseHeader.foldl_offsets (h : ResponseHeader) (os : List Nat)
    (hos : ∀ o ∈ os, o < 2 ^ 32) :
    (os.map fun o => (⟨3, .varint o⟩ : Field)).foldlM ResponseHeader.mergeField h =
      .ok { h with sidecarOffsets := h.sidecarOffsets ++ os } := by
  induction os generalizing h with
  | nil => simp [pure, Except.pure]
  | cons o os ih =>
    simp only [List.map_cons, List.foldlM_cons, ResponseHeader.mergeField,
      Nat.mod_eq_of_lt (hos o (by simp)), bind, Except.bind]
    rw [ih _ (fun o' h' => hos o' (by simp [h']))]
    simp

/-- The header a server writes is the header the client reads. -/
theorem ResponseHeader.decode_toFields {h : ResponseHeader} (hv : h.Valid) :
    ResponseHeader.type.ofFields h.toFields = .ok h := by
  obtain ⟨callId, isError, offsets⟩ := h
  obtain ⟨h1, h2, hos⟩ := hv
  have hid := int32OfVarint_int32Varint h1 h2
  cases isError <;>
  simp [MessageType.ofFields, ResponseHeader.type, ResponseHeader.toFields,
    ResponseHeader.mergeField, ResponseHeader.empty, hid, bind, Except.bind,
    ResponseHeader.foldl_offsets _ offsets hos]

/-! ## Error statuses -/

/-- `ErrorStatusPB::RpcErrorCodePB`, with the names `RpcErrorCode` gives them. -/
inductive RpcErrorCode
  | applicationError
  | noSuchMethod
  | noSuchService
  | serverTooBusy
  | invalidRequest
  | fatalUnknown
  | fatalServerShuttingDown
  | fatalInvalidRpcHeader
  | fatalDeserializingRequest
  | fatalVersionMismatch
  | fatalUnauthorized
  deriving DecidableEq, Repr

def RpcErrorCode.toPb : RpcErrorCode → Nat
  | .applicationError => 1
  | .noSuchMethod => 2
  | .noSuchService => 3
  | .serverTooBusy => 4
  | .invalidRequest => 5
  | .fatalUnknown => 10
  | .fatalServerShuttingDown => 11
  | .fatalInvalidRpcHeader => 12
  | .fatalDeserializingRequest => 13
  | .fatalVersionMismatch => 14
  | .fatalUnauthorized => 15

def RpcErrorCode.ofPb : Nat → Option RpcErrorCode
  | 1 => some .applicationError
  | 2 => some .noSuchMethod
  | 3 => some .noSuchService
  | 4 => some .serverTooBusy
  | 5 => some .invalidRequest
  | 10 => some .fatalUnknown
  | 11 => some .fatalServerShuttingDown
  | 12 => some .fatalInvalidRpcHeader
  | 13 => some .fatalDeserializingRequest
  | 14 => some .fatalVersionMismatch
  | 15 => some .fatalUnauthorized
  | _ => none

theorem RpcErrorCode.ofPb_toPb (c : RpcErrorCode) : RpcErrorCode.ofPb c.toPb = some c := by
  cases c <;> rfl

/-- The codes after which the client must shut the connection down. -/
def RpcErrorCode.isFatal : RpcErrorCode → Bool
  | .fatalUnknown | .fatalServerShuttingDown | .fatalInvalidRpcHeader
  | .fatalDeserializingRequest | .fatalVersionMismatch | .fatalUnauthorized => true
  | _ => false

/-- `ErrorStatusPB`: `message = 1` (required), `code = 2`,
`unsupported_feature_flags = 3`. -/
structure ErrorStatusPB where
  message : Option (List UInt8)
  code : Option RpcErrorCode
  unsupportedFeatureFlags : List Nat
  deriving DecidableEq, Repr

def ErrorStatusPB.mergeField (s : ErrorStatusPB) (f : Field) : Except PbError ErrorStatusPB :=
  match f.number, f.value with
  | 1, .bytes bs => .ok { s with message := some bs }
  | 2, .varint v =>
    match RpcErrorCode.ofPb (v % 2 ^ 32) with
    | some c => .ok { s with code := some c }
    | none => .error (.invalidEnumValue (v % 2 ^ 32))
  | 3, .varint v => .ok { s with unsupportedFeatureFlags := s.unsupportedFeatureFlags ++ [v % 2 ^ 32] }
  | 3, .bytes bs =>
    (readPacked bs).map fun vs => { s with unsupportedFeatureFlags := s.unsupportedFeatureFlags ++ vs }
  | 1, w | 2, w | 3, w => .error (.unexpectedWireType w.wireType)
  | _, _ => .ok s

def ErrorStatusPB.type : MessageType ErrorStatusPB :=
  ⟨⟨none, none, []⟩, ErrorStatusPB.mergeField, fun s => s.message.isSome⟩

/-- The fields of a status with a message and a code. -/
def ErrorStatusPB.toFields (message : List UInt8) (code : RpcErrorCode) : Message :=
  [⟨1, .bytes message⟩, ⟨2, .varint code.toPb⟩]

theorem ErrorStatusPB.decode_toFields (message : List UInt8) (code : RpcErrorCode) :
    ErrorStatusPB.type.ofFields (ErrorStatusPB.toFields message code) =
      .ok ⟨some message, some code, []⟩ := by
  cases code <;> rfl

/-! ## SASL messages -/

/-- `SaslMessagePB::SaslState`. -/
inductive SaslState
  | unknown
  | success
  | negotiate
  | initiate
  | challenge
  | response
  deriving DecidableEq, Repr

def SaslState.toPb : SaslState → Nat
  | .unknown => 999
  | .success => 0
  | .negotiate => 1
  | .initiate => 2
  | .challenge => 3
  | .response => 4

def SaslState.ofPb : Nat → Option SaslState
  | 999 => some .unknown
  | 0 => some .success
  | 1 => some .negotiate
  | 2 => some .initiate
  | 3 => some .challenge
  | 4 => some .response
  | _ => none

/-- `SaslMessagePB::SaslAuth`: `method = 1`, `mechanism = 2` (required),
`challenge = 5`. -/
structure SaslAuth where
  method : Option (List UInt8)
  mechanism : Option (List UInt8)
  challenge : Option (List UInt8)
  deriving DecidableEq, Repr

def SaslAuth.mergeField (a : SaslAuth) (f : Field) : Except PbError SaslAuth :=
  match f.number, f.value with
  | 1, .bytes bs => .ok { a with method := some bs }
  | 2, .bytes bs => .ok { a with mechanism := some bs }
  | 5, .bytes bs => .ok { a with challenge := some bs }
  | 1, w | 2, w | 5, w => .error (.unexpectedWireType w.wireType)
  | _, _ => .ok a

def SaslAuth.type : MessageType SaslAuth :=
  ⟨⟨none, none, none⟩, SaslAuth.mergeField, fun a => a.mechanism.isSome⟩

/-- `get_mechanism()`. -/
def SaslAuth.getMechanism (a : SaslAuth) : List UInt8 := a.mechanism.getD []

def SaslAuth.toFields (a : SaslAuth) : Message :=
  (a.method.map fun bs => (⟨1, .bytes bs⟩ : Field)).toList ++
    (a.mechanism.map fun bs => (⟨2, .bytes bs⟩ : Field)).toList ++
    (a.challenge.map fun bs => (⟨5, .bytes bs⟩ : Field)).toList

/-- `SaslMessagePB`: `version = 1`, `state = 2` (required), `token = 3`,
`auths = 4` (repeated `SaslAuth`). -/
structure SaslMessagePB where
  version : Option Nat
  state : Option SaslState
  token : Option (List UInt8)
  auths : List SaslAuth
  deriving DecidableEq, Repr

def SaslMessagePB.new : SaslMessagePB := ⟨none, none, none, []⟩

def SaslMessagePB.mergeField (m : SaslMessagePB) (f : Field) : Except PbError SaslMessagePB :=
  match f.number, f.value with
  | 1, .varint v => .ok { m with version := some (v % 2 ^ 32) }
  | 2, .varint v =>
    match SaslState.ofPb (v % 2 ^ 32) with
    | some s => .ok { m with state := some s }
    | none => .error (.invalidEnumValue (v % 2 ^ 32))
  | 3, .bytes bs => .ok { m with token := some bs }
  | 4, .bytes bs =>
    (mergeFields SaslAuth.mergeField SaslAuth.type.new bs).map fun a => { m with auths := m.auths ++ [a] }
  | 1, w | 2, w | 3, w | 4, w => .error (.unexpectedWireType w.wireType)
  | _, _ => .ok m

def SaslMessagePB.type : MessageType SaslMessagePB :=
  ⟨.new, SaslMessagePB.mergeField,
    fun m => m.state.isSome && m.auths.all fun a => SaslAuth.type.isInitialized a⟩

/-- `get_state()`; the default is only seen by a message that failed
`check_initialized`. -/
def SaslMessagePB.getState (m : SaslMessagePB) : SaslState := m.state.getD .unknown

/-- The fields rust-protobuf writes, in field-number order. -/
def SaslMessagePB.toFields (m : SaslMessagePB) : Message :=
  (m.version.map fun v => (⟨1, .varint v⟩ : Field)).toList ++
    (m.state.map fun s => (⟨2, .varint s.toPb⟩ : Field)).toList ++
    (m.token.map fun bs => (⟨3, .bytes bs⟩ : Field)).toList ++
    m.auths.map fun a => ⟨4, .bytes (encodeMessage a.toFields)⟩

/-! ## Requests -/

/-- `RemoteMethodPB`: `service_name = 1`, `method_name = 2`. -/
structure RemoteMethodPB where
  serviceName : String
  methodName : String
  deriving DecidableEq, Repr

def RemoteMethodPB.toFields (m : RemoteMethodPB) : Message :=
  [⟨1, .bytes (utf8 m.serviceName)⟩, ⟨2, .bytes (utf8 m.methodName)⟩]

/-- `RequestHeader`: `call_id = 3`, `remote_method = 6`, `timeout_millis = 10`,
`required_feature_flags = 11`. -/
structure RequestHeader where
  callId : Int
  remoteMethod : Option RemoteMethodPB
  timeoutMillis : Option Nat
  requiredFeatureFlags : List Nat
  deriving DecidableEq, Repr

/-- A cleared header with only `call_id` set. -/
def RequestHeader.ofCallId (callId : Int) : RequestHeader := ⟨callId, none, none, []⟩

def RequestHeader.toFields (h : RequestHeader) : Message :=
  ⟨3, .varint (int32Varint h.callId)⟩ ::
    (h.remoteMethod.map fun m => (⟨6, .bytes (encodeMessage m.toFields)⟩ : Field)).toList ++
    (h.timeoutMillis.map fun t => (⟨10, .varint t⟩ : Field)).toList ++
    h.requiredFeatureFlags.map fun f => ⟨11, .varint f⟩

/-- `ConnectionContextPB` with `user_info = 2` set to a `UserInformationPB` of
`effective_user = 1` and `real_user = 2`. -/
def connectionContextFields (effectiveUser realUser : String) : Message :=
  [⟨2, .bytes (encodeMessage [⟨1, .bytes (utf8 effectiveUser)⟩, ⟨2, .bytes (utf8 realUser)⟩])⟩]

end KuduRpc.Wire
