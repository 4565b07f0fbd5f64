import Mathlib

/-!
# Varints and length prefixes

The two integer encodings of the KRPC frame (`Connection::buffer_message` and
`Connection::poll_read_header`): the big-endian `u32` length prefix written by
`write_u32::<BigEndian>` and read by `BigEndian::read_u32`, and protobuf's base-128
varint, written by `write_raw_varint64` and read by `read_raw_varint64`.

The reader follows rust-protobuf: it reads at most ten bytes, ORs the seven payload bits
of each into a `u64` (so a value is taken modulo `2^64`), fails with `unexpectedEof`
when the input ends inside a varint and with `incorrectVarint` when a tenth byte still
has its continuation bit.

* `readRawVarint_encodeVarint`: the reader decodes every `u64` the writer wrote, with any
  bytes after it left untouched.
* `readBE32_be32`: the length prefix round-trips for every `u32`.
-/

namespace KuduRpc.Wire

/-- The errors of rust-protobuf's `CodedInputStream` that the model can raise. -/
inductive PbError
  | unexpectedEof
  | incorrectVarint
  | incorrectTag (tag : Nat)
  | unexpectedWireType (wireType : Nat)
  | invalidEnumValue (value : Nat)
  | messageNotInitialized
  deriving DecidableEq, Repr

/-! ## Writing -/

/-- The varint of `v` in at most `fuel + 1` bytes; `encodeVarint` gives enough fuel. -/
def varintBytes : Nat → Nat → List UInt8
  | 0, v => [v.toUInt8]
  | fuel + 1, v =>
    if v < 128 then [v.toUInt8] else (v % 128 + 128).toUInt8 :: varintBytes fuel (v / 128)

/-- `write_raw_varint64`: seven bits a byte, lowest group first, the high bit set on every
byte but the last. -/
def encodeVarint (v : Nat) : List UInt8 := varintBytes v v

/-- `len_varint`: how many bytes the varint of `v` takes. -/
def lenVarint (v : Nat) : Nat := (encodeVarint v).length

theorem varintBytes_fuel : ∀ (f g v : Nat), v ≤ f → v ≤ g → varintBytes f v = varintBytes g v
  | 0, g, v, hf, _ => by
    obtain rfl : v = 0 := by omega
    cases g <;> simp [varintBytes]
  | f + 1, 0, v, _, hg => by
    obtain rfl : v = 0 := by omega
    simp [varintBytes]
  | f + 1, g + 1, v, hf, hg => by
    simp only [varintBytes]
    split
    · rfl
    · rw [varintBytes_fuel f g (v / 128) (by omega) (by omega)]

theorem encodeVarint_eq (v : Nat) :
    encodeVarint v =
      if v < 128 then [v.toUInt8] else (v % 128 + 128).toUInt8 :: encodeVarint (v / 128) := by
  unfold encodeVarint
  rcases v with _ | v
  · rfl
  · simp only [varintBytes]
    split
    · rfl
    · rw [varintBytes_fuel v ((v + 1) / 128) ((v + 1) / 128) (by omega) le_rfl]

theorem encodeVarint_ne_nil (v : Nat) : encodeVarint v ≠ [] := by
  rw [encodeVarint_eq]; split <;> simp

theorem lenVarint_pos (v : Nat) : 0 < lenVarint v :=
  List.length_pos.mpr (encodeVarint_ne_nil v)

/-! ## Reading -/

/-- The `read_raw_varint64` loop with `fuel` bytes still allowed; the value is not yet
reduced modulo `2^64`. -/
def readVarintAux : Nat → List UInt8 → Except PbError (Nat × List UInt8)
  | 0, _ => .error .incorrectVarint
  | _ + 1, [] => .error .unexpectedEof
  | fuel + 1, b :: rest =>
    if b.toNat < 128 then .ok (b.toNat, rest)
    else (readVarintAux fuel rest).map fun (v, r) => (b.toNat - 128 + 128 * v, r)

/-- `read_raw_varint64`: the varint at the front of the input and the bytes after it. -/
def readRawVarint (bs : List UInt8) : Except PbError (Nat × List UInt8) :=
  (readVarintAux 10 bs).map fun (v, r) => (v % 2 ^ 64, r)

theorem toNat_toUInt8 (n : Nat) : n.toUInt8.toNat = n % 256 := rfl

theorem toNat_toUInt8_of_lt {n : Nat} (h : n < 256) : n.toUInt8.toNat = n := by
  rw [toNat_toUInt8, Nat.mod_eq_of_lt h]

theorem readVarintAux_encodeVarint (rest : List UInt8) :
    ∀ (k v : Nat), v < 128 ^ (k + 1) →
      readVarintAux (k + 1) (encodeVarint v ++ rest) = .ok (v, rest)
  | k, v, hv => by
    rw [encodeVarint_eq]
    split
    · rename_i hlt
      simp [readVarintAux, toNat_toUInt8_of_lt (by omega : v < 256), hlt]
    · rename_i hge
      have hb := toNat_toUInt8_of_lt (by omega : v % 128 + 128 < 256)
      rcases k with _ | k
      · omega
      · have hk : v / 128 < 128 ^ (k + 1) := by
          rw [Nat.div_lt_iff_lt_mul (by omega), ← Nat.pow_succ]; exact hv
        rw [List.cons_append, readVarintAux, hb, if_neg (by omega),
          readVarintAux_encodeVarint rest k (v / 128) hk]
        simp only [Except.map, Except.ok.injEq, Prod.mk.injEq, and_true]
        omega

/-- The reader decodes what the writer wrote, for every `u64`. -/
theorem readRawVarint_encodeVarint {v : Nat} (hv : v < 2 ^ 64) (rest : List UInt8) :
    readRawVarint (encodeVarint v ++ rest) = .ok (v, rest) := by
  rw [readRawVarint, readVarintAux_encodeVarint rest 9 v (by omega)]
  simp only [Except.map, Nat.mod_eq_of_lt hv]

/-- Whatever the reader accepts is a nonempty prefix of its input. -/
theorem readVarintAux_append :
    ∀ {fuel : Nat} {bs r : List UInt8} {v : Nat},
      readVarintAux fuel bs = .ok (v, r) → ∃ pre, bs = pre ++ r ∧ pre ≠ []
  | 0, _, _, _, h => by simp [readVarintAux] at h
  | _ + 1, [], _, _, h => by simp [readVarintAux] at h
  | fuel + 1, b :: rest, r, v, h => by
    simp only [readVarintAux] at h
    split at h
    · simp only [Except.ok.injEq, Prod.mk.injEq] at h
      exact ⟨[b], by simp [h.2], by simp⟩
    · cases hr : readVarintAux fuel rest with
      | error e => simp [hr, Except.map] at h
      | ok p =>
        simp only [hr, Except.map, Except.ok.injEq, Prod.mk.injEq] at h
        obtain ⟨pre, hpre, -⟩ := readVarintAux_append hr
        exact ⟨b :: pre, by simp [hpre, h.2], by simp⟩

theorem readRawVarint_append {bs r : List UInt8} {v : Nat}
    (h : readRawVarint bs = .ok (v, r)) : ∃ pre, bs = pre ++ r ∧ pre ≠ [] := by
  unfold readRawVarint at h
  cases hr : readVarintAux 10 bs with
  | error e => simp [hr, Except.map] at h
  | ok p =>
    simp only [hr, Except.map, Except.ok.injEq, Prod.mk.injEq] at h
    rw [← h.2]
    exact readVarintAux_append hr

/-! ## The big-endian length prefix -/

/-- `write_u32::<BigEndian>`. -/
def be32 (n : Nat) : List UInt8 :=
  [(n / 2 ^ 24).toUInt8, (n / 2 ^ 16).toUInt8, (n / 2 ^ 8).toUInt8, n.toUInt8]

/-- `BigEndian::read_u32` of the first four bytes. -/
def readBE32 (bs : List UInt8) : Nat :=
  match bs with
  | b0 :: b1 :: b2 :: b3 :: _ =>
    b0.toNat * 2 ^ 24 + b1.toNat * 2 ^ 16 + b2.toNat * 2 ^ 8 + b3.toNat
  | _ => 0

@[simp] theorem be32_length (n : Nat) : (be32 n).length = 4 := rfl

theorem readBE32_be32 {n : Nat} (hn : n < 2 ^ 32) (rest : List UInt8) :
    readBE32 (be32 n ++ rest) = n := by
  simp only [be32, List.cons_append, List.nil_append, readBE32, toNat_toUInt8]
  omega

end KuduRpc.Wire
