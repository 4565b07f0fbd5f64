import KuduRpc.Wire.Varint

/-!
# Protobuf fields and length-delimited messages

The message codec at the level the connection uses it. A message is the list of fields
its encoding holds, in wire order; merging a message into another appends its fields,
which is what `merge_from` does with fields a message type does not know, and for known
fields gives the protobuf merge semantics once the typed view (`Messages.lean`) reads
the list. Groups (wire types 3 and 4) are refused.

* `decodeField_encode`, `decodeFields_encodeMessage`: every well-formed field list is
  decoded back from its encoding.
* `decodeFields_append`: decoding a valid encoding followed by other bytes gives the
  fields of the encoding, then whatever the other bytes give.
* `readDelimited_encodeDelimited`: `merge_message`'s framing (a varint length, then the
  body) round-trips, leaving the bytes after the body untouched.
* `mergeMessage_error`: a merge that fails after a prefix of valid fields has merged that
  prefix into the target message.
-/

namespace KuduRpc.Wire

/-- The payload of a field, by wire type. -/
inductive WireValue
  | varint (v : Nat)
  | fixed64 (bs : List UInt8)
  | bytes (bs : List UInt8)
  | fixed32 (bs : List UInt8)
  deriving DecidableEq, Repr

/-- The wire type written in a field's tag. -/
def WireValue.wireType : WireValue → Nat
  | .varint _ => 0
  | .fixed64 _ => 1
  | .bytes _ => 2
  | .fixed32 _ => 5

/-- One field of an encoded message. -/
structure Field where
  number : Nat
  value : WireValue
  deriving DecidableEq, Repr

/-- A message, as the fields that have been merged into it, oldest first. -/
abbrev Message := List Field

/-! ## Encoding -/

def WireValue.encode : WireValue → List UInt8
  | .varint v => encodeVarint v
  | .fixed64 bs => bs
  | .bytes bs => encodeVarint bs.length ++ bs
  | .fixed32 bs => bs

/-- The tag varint, then the payload. -/
def Field.encode (f : Field) : List UInt8 :=
  encodeVarint (f.number * 8 + f.value.wireType) ++ f.value.encode

/-- `write_to`: the fields one after another. -/
def encodeMessage (m : Message) : List UInt8 := m.flatMap Field.encode

/-- `write_length_delimited_to`: the size of the encoding as a varint, then the encoding. -/
def encodeDelimited (bs : List UInt8) : List UInt8 := encodeVarint bs.length ++ bs

/-- A payload the reader takes back: a `u64` varint, eight or four fixed bytes, or a
length that fits the `u32` the reader reads it as. -/
def WireValue.Valid : WireValue → Prop
  | .varint v => v < 2 ^ 64
  | .fixed64 bs => bs.length = 8
  | .bytes bs => bs.length < 2 ^ 32
  | .fixed32 bs => bs.length = 4

instance (w : WireValue) : Decidable w.Valid :=
  match w with
  | .varint v => inferInstanceAs (Decidable (v < 2 ^ 64))
  | .fixed64 bs => inferInstanceAs (Decidable (bs.length = 8))
  | .bytes bs => inferInstanceAs (Decidable (bs.length < 2 ^ 32))
  | .fixed32 bs => inferInstanceAs (Decidable (bs.length = 4))

/-- A field number protobuf allows, and a valid payload. -/
def Field.Valid (f : Field) : Prop := 0 < f.number ∧ f.number < 2 ^ 29 ∧ f.value.Valid

instance (f : Field) : Decidable f.Valid := inferInstanceAs (Decidable (_ ∧ _ ∧ _))

theorem Field.encode_ne_nil (f : Field) : f.encode ≠ [] := by
  simp [Field.encode, encodeVarint_ne_nil]

@[simp] theorem encodeMessage_nil : encodeMessage [] = [] := rfl

@[simp] theorem encodeMessage_cons (f : Field) (m : Message) :
    encodeMessage (f :: m) = f.encode ++ encodeMessage m := rfl

theorem encodeMessage_append (m m' : Message) :
    encodeMessage (m ++ m') = encodeMessage m ++ encodeMessage m' := by
  simp [encodeMessage]

/-! ## Decoding one field -/

/-- The next `n` bytes of the input, and the bytes after them. -/
def takeBytes (n : Nat) (bs : List UInt8) : Except PbError (List UInt8 × List UInt8) :=
  if bs.length < n then .error .unexpectedEof else .ok (bs.take n, bs.drop n)

theorem takeBytes_append {bs : List UInt8} {n : Nat} (h : bs.length = n) (rest : List UInt8) :
    takeBytes n (bs ++ rest) = .ok (bs, rest) := by
  subst h
  simp [takeBytes]

theorem takeBytes_eq {n : Nat} {bs a r : List UInt8} (h : takeBytes n bs = .ok (a, r)) :
    bs = a ++ r := by
  unfold takeBytes at h
  split at h
  · cases h
  · simp only [Except.ok.injEq, Prod.mk.injEq] at h
    rw [← h.1, ← h.2, List.take_append_drop]

/-- The payload of a field of wire type `wireType`. -/
def readPayload : Nat → List UInt8 → Except PbError (WireValue × List UInt8)
  | 0, bs => (readRawVarint bs).map fun p => (.varint p.1, p.2)
  | 1, bs => (takeBytes 8 bs).map fun p => (.fixed64 p.1, p.2)
  | 2, bs => (readRawVarint bs).bind fun p =>
      (takeBytes (p.1 % 2 ^ 32) p.2).map fun q => (.bytes q.1, q.2)
  | 5, bs => (takeBytes 4 bs).map fun p => (.fixed32 p.1, p.2)
  | wireType, _ => .error (.unexpectedWireType wireType)

/-- `read_tag` and the read of the field's payload: the tag is read as a `u32`, field
number `0` and wire types 6 and 7 are refused. -/
def decodeField (bs : List UInt8) : Except PbError (Field × List UInt8) :=
  (readRawVarint bs).bind fun p =>
    let tag := p.1 % 2 ^ 32
    if tag / 8 = 0 ∨ 5 < tag % 8 then .error (.incorrectTag tag)
    else (readPayload (tag % 8) p.2).map fun q => (⟨tag / 8, q.1⟩, q.2)

theorem readPayload_append {wireType : Nat} {bs r : List UInt8} {v : WireValue}
    (h : readPayload wireType bs = .ok (v, r)) : ∃ pre, bs = pre ++ r := by
  match wireType, h with
  | 0, h =>
    cases hv : readRawVarint bs with
    | error e => simp [readPayload, hv, Except.map] at h
    | ok p =>
      simp only [readPayload, hv, Except.map, Except.ok.injEq, Prod.mk.injEq] at h
      obtain ⟨pre, hpre, -⟩ := readRawVarint_append hv
      exact ⟨pre, by rw [hpre, ← h.2]⟩
  | 1, h =>
    cases hv : takeBytes 8 bs with
    | error e => simp [readPayload, hv, Except.map] at h
    | ok p =>
      simp only [readPayload, hv, Except.map, Except.ok.injEq, Prod.mk.injEq] at h
      exact ⟨p.1, by rw [takeBytes_eq hv, ← h.2]⟩
  | 2, h =>
    cases hv : readRawVarint bs with
    | error e => simp [readPayload, hv, Except.bind] at h
    | ok p =>
      obtain ⟨pre, hpre, -⟩ := readRawVarint_append hv
      cases ht : takeBytes (p.1 % 2 ^ 32) p.2 with
      | error e => simp only [readPayload, hv, ht, Except.bind, Except.map, reduceCtorEq] at h
      | ok q =>
        simp only [readPayload, hv, ht, Except.bind, Except.map, Except.ok.injEq,
          Prod.mk.injEq] at h
        exact ⟨pre ++ q.1, by rw [hpre, takeBytes_eq ht, ← h.2, List.append_assoc]⟩
  | 5, h =>
    cases hv : takeBytes 4 bs with
    | error e => simp [readPayload, hv, Except.map] at h
    | ok p =>
      simp only [readPayload, hv, Except.map, Except.ok.injEq, Prod.mk.injEq] at h
      exact ⟨p.1, by rw [takeBytes_eq hv, ← h.2]⟩
  | 3, h | 4, h | _ + 6, h => simp [readPayload] at h

/-- What `decodeField` accepts is a nonempty prefix of its input. -/
theorem decodeField_append {bs r : List UInt8} {f : Field}
    (h : decodeField bs = .ok (f, r)) : ∃ pre, bs = pre ++ r ∧ pre ≠ [] := by
  unfold decodeField at h
  cases ht : readRawVarint bs with
  | error e => simp [ht, Except.bind] at h
  | ok p =>
    obtain ⟨pre, hpre, hne⟩ := readRawVarint_append ht
    simp only [ht, Except.bind] at h
    split at h
    · cases h
    · cases hp : readPayload (p.1 % 2 ^ 32 % 8) p.2 with
      | error e => simp only [hp, Except.map, reduceCtorEq] at h
      | ok q =>
        simp only [hp, Except.map, Except.ok.injEq, Prod.mk.injEq] at h
        obtain ⟨pre', hpre'⟩ := readPayload_append hp
        exact ⟨pre ++ pre', by rw [hpre, hpre', ← h.2, List.append_assoc], by simp [hne]⟩

theorem decodeField_length {bs r : List UInt8} {f : Field}
    (h : decodeField bs = .ok (f, r)) : r.length < bs.length := by
  obtain ⟨pre, rfl, hpre⟩ := decodeField_append h
  simp [List.length_pos.mpr hpre]

theorem WireValue.wireType_lt (w : WireValue) : w.wireType < 8 := by
  cases w <;> simp [WireValue.wireType]

theorem readPayload_encode {w : WireValue} (hw : w.Valid) (rest : List UInt8) :
    readPayload w.wireType (w.encode ++ rest) = .ok (w, rest) := by
  cases w with
  | varint v =>
    simp [readPayload, WireValue.wireType, WireValue.encode,
      readRawVarint_encodeVarint (show v < 2 ^ 64 from hw), Except.map]
  | fixed64 bs =>
    simp [readPayload, WireValue.wireType, WireValue.encode,
      takeBytes_append (show bs.length = 8 from hw), Except.map]
  | bytes bs =>
    have hl : bs.length < 2 ^ 32 := hw
    simp only [readPayload, WireValue.wireType, WireValue.encode, List.append_assoc,
      readRawVarint_encodeVarint (show bs.length < 2 ^ 64 by omega), Nat.mod_eq_of_lt hl,
      takeBytes_append rfl, Except.bind, Except.map]
  | fixed32 bs =>
    simp [readPayload, WireValue.wireType, WireValue.encode,
      takeBytes_append (show bs.length = 4 from hw), Except.map]

theorem decodeField_encode {f : Field} (hf : f.Valid) (rest : List UInt8) :
    decodeField (f.encode ++ rest) = .ok (f, rest) := by
  obtain ⟨number, value⟩ := f
  obtain ⟨h0, h29, hv⟩ : 0 < number ∧ number < 2 ^ 29 ∧ value.Valid := hf
  have hwt := value.wireType_lt
  have htag : number * 8 + value.wireType < 2 ^ 64 := by omega
  have hmod : (number * 8 + value.wireType) % 2 ^ 32 = number * 8 + value.wireType :=
    Nat.mod_eq_of_lt (by omega)
  have hdiv : (number * 8 + value.wireType) / 8 = number := by omega
  have hwt' : (number * 8 + value.wireType) % 8 = value.wireType := by omega
  have hok : ¬(number = 0 ∨ 5 < value.wireType) := by
    cases value <;> simp [WireValue.wireType] <;> omega
  simp only [Field.encode, List.append_assoc, decodeField, readRawVarint_encodeVarint htag,
    Except.bind, hmod, hdiv, hwt', if_neg hok, readPayload_encode hv, Except.map]

/-! ## Decoding a sequence of fields -/

/-- The `merge_from` loop: decode fields until the input ends; on an error, the fields
decoded before it and the error. `fuel` bounds the fields; `decodeFields` gives enough. -/
def decodeFieldsAux : Nat → List UInt8 → List Field × Option PbError
  | _, [] => ([], none)
  | 0, _ :: _ => ([], none)
  | fuel + 1, b :: bs =>
    match decodeField (b :: bs) with
    | .error e => ([], some e)
    | .ok (f, r) => ((f :: (decodeFieldsAux fuel r).1), (decodeFieldsAux fuel r).2)

def decodeFields (bs : List UInt8) : List Field × Option PbError :=
  decodeFieldsAux bs.length bs

theorem decodeFieldsAux_fuel :
    ∀ (n m : Nat) (bs : List UInt8), bs.length ≤ n → bs.length ≤ m →
      decodeFieldsAux n bs = decodeFieldsAux m bs
  | n, m, [], _, _ => by cases n <;> cases m <;> rfl
  | 0, _, _ :: _, h, _ => by simp at h
  | _ + 1, 0, _ :: _, _, h => by simp at h
  | n + 1, m + 1, b :: bs, hn, hm => by
    simp only [decodeFieldsAux]
    split
    · rfl
    · rename_i f r hd
      have := decodeField_length hd
      simp only [List.length_cons] at this hn hm
      rw [decodeFieldsAux_fuel n m r (by omega) (by omega)]

/-- One decoded field, then the rest of the input. -/
theorem decodeFields_cons {bs r : List UInt8} {f : Field} (h : decodeField bs = .ok (f, r)) :
    decodeFields bs = (f :: (decodeFields r).1, (decodeFields r).2) := by
  have hl := decodeField_length h
  match bs, hl, h with
  | b :: bs', hl, h =>
    simp only [decodeFields, List.length_cons, decodeFieldsAux, h]
    rw [decodeFieldsAux_fuel bs'.length r.length r (by simp at hl; omega) le_rfl]

theorem decodeFields_error {bs : List UInt8} {e : PbError} (hne : bs ≠ [])
    (h : decodeField bs = .error e) : decodeFields bs = ([], some e) := by
  match bs, hne, h with
  | b :: bs', _, h => simp [decodeFields, decodeFieldsAux, h]

@[simp] theorem decodeFields_nil : decodeFields [] = ([], none) := rfl

/-- Valid fields followed by other bytes: the fields, then what the other bytes give. -/
theorem decodeFields_append {m : Message} (hm : ∀ f ∈ m, f.Valid) (rest : List UInt8) :
    decodeFields (encodeMessage m ++ rest) =
      (m ++ (decodeFields rest).1, (decodeFields rest).2) := by
  induction m with
  | nil => simp
  | cons f m ih =>
    rw [encodeMessage_cons, List.append_assoc,
      decodeFields_cons (decodeField_encode (hm f (by simp)) _),
      ih (fun g hg => hm g (by simp [hg]))]
    simp

theorem decodeFields_encodeMessage {m : Message} (hm : ∀ f ∈ m, f.Valid) :
    decodeFields (encodeMessage m) = (m, none) := by
  simpa using decodeFields_append hm []

/-! ## Length-delimited messages -/

/-- `merge_message`'s framing: a varint length, then that many bytes. Returns the body
and the bytes after it. -/
def readDelimited (bs : List UInt8) : Except PbError (List UInt8 × List UInt8) :=
  (readRawVarint bs).bind fun p => takeBytes p.1 p.2

theorem readDelimited_encodeDelimited {body : List UInt8} (h : body.length < 2 ^ 64)
    (rest : List UInt8) :
    readDelimited (encodeDelimited body ++ rest) = .ok (body, rest) := by
  simp [readDelimited, encodeDelimited, readRawVarint_encodeVarint h, Except.bind,
    takeBytes_append rfl]

/-! ## Merging into a message -/

/-- `CodedInputStream::merge_message` into a message of any type: the fields decoded
before the first error are merged in whether or not an error follows. -/
def mergeMessage (target : Message) (bs : List UInt8) : Message × Option PbError :=
  match readDelimited bs with
  | .error e => (target, some e)
  | .ok (body, _) => (target ++ (decodeFields body).1, (decodeFields body).2)

/-- A message of valid fields is merged in whole. -/
theorem mergeMessage_encodeMessage (target : Message) {m : Message} (hm : ∀ f ∈ m, f.Valid)
    (hlen : (encodeMessage m).length < 2 ^ 64) (rest : List UInt8) :
    mergeMessage target (encodeDelimited (encodeMessage m) ++ rest) = (target ++ m, none) := by
  simp only [mergeMessage, readDelimited_encodeDelimited hlen, decodeFields_encodeMessage hm]

/-- A merge that fails after valid fields has merged those fields in. -/
theorem mergeMessage_error (target : Message) {m : Message} (hm : ∀ f ∈ m, f.Valid)
    {junk : List UInt8} {e : PbError} (hne : junk ≠ []) (hjunk : decodeField junk = .error e)
    (hlen : (encodeMessage m ++ junk).length < 2 ^ 64) (rest : List UInt8) :
    mergeMessage target (encodeDelimited (encodeMessage m ++ junk) ++ rest) =
      (target ++ m, some e) := by
  simp [mergeMessage, readDelimited_encodeDelimited hlen, decodeFields_append hm,
    decodeFields_error hne hjunk]

/-- `merge_from` of a typed message whose generated code takes each field with
`mergeField`: the fields are taken in order, and a decoding error after them is
reported. -/
def mergeFields {α : Type} (mergeField : α → Field → Except PbError α) (init : α)
    (bs : List UInt8) : Except PbError α := do
  let a ← (decodeFields bs).1.foldlM mergeField init
  match (decodeFields bs).2 with
  | some e => throw e
  | none => pure a

theorem mergeFields_encodeMessage {α : Type} (mergeField : α → Field → Except PbError α)
    (init : α) {m : Message} (hm : ∀ f ∈ m, f.Valid) :
    mergeFields mergeField init (encodeMessage m) = m.foldlM mergeField init := by
  simp only [mergeFields, decodeFields_encodeMessage hm]
  cases m.foldlM mergeField init <;> rfl

/-- `read_repeated_packed_uint32_into`: varints until the payload ends, each read as a
`u32`. -/
def readPackedAux : Nat → List UInt8 → Except PbError (List Nat)
  | _, [] => .ok []
  | 0, _ :: _ => .ok []
  | fuel + 1, b :: bs => do
    let (v, r) ← readRawVarint (b :: bs)
    let vs ← readPackedAux fuel r
    pure (v % 2 ^ 32 :: vs)

def readPacked (bs : List UInt8) : Except PbError (List Nat) := readPackedAux bs.length bs

end KuduRpc.Wire
