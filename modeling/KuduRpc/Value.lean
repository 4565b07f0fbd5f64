import KuduRpc.Rpc

/-!
# Cell values

`value.rs` gives each Rust type that can fill a cell a `Value` impl: its `DataType`, its
size in a row, how `copy_data` writes it into the row's bytes and how `from_data` reads
it back, and, for the variable-length types, the bytes `indirect_data` hands out.

The fixed-size types write themselves in their first `size()` bytes: `bool` as 0 or 1,
`i8` as its byte, the others little-endian through `byteorder`. A float is its IEEE bit
pattern, and `LittleEndian::write_f32` and `read_f32` move that pattern through
`to_bits` and `from_bits`, so a NaN keeps its payload. Writing into a slice shorter than
the value, or reading from one, panics on the slice index. The model returns `none`
there.

A `&str` or `String` is its UTF-8 bytes. `str::from_utf8` checks them against the UTF-8
syntax of RFC 3629 §4 (`validUtf8`), so a Rust string is a byte list that carries that
check.

Every value written by `copy_data`, or handed out by `indirect_data`, is read back as
itself (`values_round_trip`). The other way round, every slice that `from_data` reads is
what `copy_data` writes back for the value read, except for a `bool` byte other than 0 and
1, which reads as `true` and is written back as 1 (`values_read_back`).
-/

namespace KuduRpc

open Wire

/-- The crate's `DataType` (`lib.rs`, not part of the source): the variants `schema.rs`
and `value.rs` name. -/
inductive DataType
  | bool
  | int8
  | int16
  | int32
  | int64
  | timestamp
  | float
  | double
  | binary
  | string
  deriving DecidableEq, Repr

/-- `DataType::size`, the bytes a value of the type takes in a row: the `size()` of the
`Value` impl of that type, and 8 for a timestamp, a 64-bit count of microseconds. -/
def DataType.size : DataType → Nat
  | .bool | .int8 => 1
  | .int16 => 2
  | .int32 | .float => 4
  | .int64 | .timestamp | .double => 8
  | .binary | .string => 16

/-- The `Value` trait, for the values of `α`. `copy_data` and `from_data` return `none`
where the code panics on a slice index. The defaults are the trait's. -/
structure Value (α : Type) where
  dataType : DataType
  size : Nat
  isVarLen : Bool := false
  copyData : α → List UInt8 → Option (List UInt8) := fun _ dest => some dest
  indirectData : α → Option (List UInt8) := fun _ => none
  fromData : List UInt8 → Option (Except Error α)

/-! ## Little-endian numbers -/

/-- The `n` bytes of `x`, least significant first. -/
def leBytes : Nat → Nat → List UInt8
  | 0, _ => []
  | n + 1, x => (x % 256).toUInt8 :: leBytes n (x / 256)

/-- The number the bytes spell, least significant first. -/
def leValue : List UInt8 → Nat
  | [] => 0
  | b :: bs => b.toNat + 256 * leValue bs

/-- `LittleEndian::write_*` of an `n`-byte number into `dest`: its bytes replace the
first `n`; a shorter `dest` panics. -/
def writeLE (n : Nat) (x : Nat) (dest : List UInt8) : Option (List UInt8) :=
  if dest.length < n then none else some (leBytes n x ++ dest.drop n)

/-- `LittleEndian::read_*` of an `n`-byte number from the front of `data`; a shorter
`data` panics. -/
def readLE (n : Nat) (data : List UInt8) : Option Nat :=
  if data.length < n then none else some (leValue (data.take n))

@[simp] theorem length_leBytes (n x : Nat) : (leBytes n x).length = n := by
  induction n generalizing x with
  | zero => rfl
  | succ n ih => simp [leBytes, ih]

theorem leValue_leBytes (n x : Nat) : leValue (leBytes n x) = x % 256 ^ n := by
  induction n generalizing x with
  | zero => simp [leBytes, leValue, Nat.mod_one]
  | succ n ih =>
    rw [leBytes, leValue, ih, Wire.toNat_toUInt8, Nat.mod_mod, Nat.pow_succ, Nat.mul_comm _ 256,
      Nat.mod_mul]

theorem leValue_lt : ∀ bs : List UInt8, leValue bs < 256 ^ bs.length
  | [] => by simp [leValue]
  | b :: bs => by
    have hb : b.toNat < 256 := b.val.isLt
    have := leValue_lt bs
    rw [leValue, List.length_cons, Nat.pow_succ]
    omega

theorem toUInt8_toNat (b : UInt8) : b.toNat.toUInt8 = b :=
  UInt8.toNat.inj (by rw [toNat_toUInt8, Nat.mod_eq_of_lt (show b.toNat < 256 from b.val.isLt)])

/-- The bytes of the number some bytes spell are those bytes. -/
theorem leBytes_leValue : ∀ bs : List UInt8, leBytes bs.length (leValue bs) = bs
  | [] => rfl
  | b :: bs => by
    have hb : b.toNat < 256 := b.val.isLt
    rw [List.length_cons, leBytes, leValue, Nat.add_mul_mod_self_left, Nat.mod_eq_of_lt hb,
      Nat.add_mul_div_left _ _ (by decide), Nat.div_eq_of_lt hb, Nat.zero_add, leBytes_leValue bs,
      toUInt8_toNat]

theorem writeLE_readLE {n x : Nat} {dest : List UInt8} (h : n ≤ dest.length) :
    ∃ dest', writeLE n x dest = some dest' ∧ dest'.length = dest.length ∧
      dest'.drop n = dest.drop n ∧ readLE n (dest'.take n) = some (x % 256 ^ n) := by
  refine ⟨_, if_neg (Nat.not_lt.2 h), ?_, ?_, ?_⟩
  · simp; omega
  · simp
  · simp [readLE, List.take_of_length_le (length_leBytes n x).le, leValue_leBytes]

/-! ## The impls -/

/-- The values of a type that `copy_data` writes in full and `from_data` reads back:
into a slice of at least `size()` bytes, `copy_data` writes exactly the first `size()`
of them, and `from_data` of those bytes is the value; a shorter slice panics. -/
def Value.RoundTrips {α : Type} (V : Value α) : Prop :=
  ∀ (v : α) (dest : List UInt8),
    (V.size ≤ dest.length → ∃ dest', V.copyData v dest = some dest' ∧
      dest'.length = dest.length ∧ dest'.drop V.size = dest.drop V.size ∧
      V.fromData (dest'.take V.size) = some (.ok v)) ∧
    (dest.length < V.size → V.copyData v dest = none)

/-- The values of a variable-length type: `from_data` of the bytes `indirect_data` hands
out is the value. -/
def Value.IndirectRoundTrips {α : Type} (V : Value α) : Prop :=
  ∀ v : α, ∃ bytes, V.indirectData v = some bytes ∧ V.fromData bytes = some (.ok v)

/-- The fixed-size impls written with `byteorder`, an `n`-byte number as its bit pattern;
a float is its IEEE bits. -/
def littleEndian (n : Nat) (dataType : DataType) : Value (BitVec (8 * n)) where
  dataType := dataType
  size := n
  copyData v dest := writeLE n v.toNat dest
  fromData data := (readLE n data).map fun x => .ok (BitVec.ofNat (8 * n) x)

/-- `bool`: `dest[0] = if *self { 1 } else { 0 }`, and any byte but 0 reads as `true`. -/
def valueBool : Value Bool where
  dataType := .bool
  size := 1
  copyData b dest :=
    match dest with
    | [] => none
    | _ :: rest => some ((if b then 1 else 0) :: rest)
  fromData data :=
    match data with
    | [] => none
    | x :: _ => some (.ok (if x = 0 then false else true))

/-- `i8`, its bits: `dest[0] = *self as u8` and `data[0] as i8`. -/
def valueI8 : Value (BitVec 8) where
  dataType := .int8
  size := 1
  copyData v dest :=
    match dest with
    | [] => none
    | _ :: rest => some (v.toNat.toUInt8 :: rest)
  fromData data :=
    match data with
    | [] => none
    | x :: _ => some (.ok (BitVec.ofNat 8 x.toNat))

/-- `i16`: `LittleEndian::write_i16` and `read_i16`. -/
def valueI16 : Value (BitVec 16) := littleEndian 2 .int16

/-- `i32`: `LittleEndian::write_i32` and `read_i32`. -/
def valueI32 : Value (BitVec 32) := littleEndian 4 .int32

/-- `i64`: `LittleEndian::write_i64` and `read_i64`. -/
def valueI64 : Value (BitVec 64) := littleEndian 8 .int64

/-- `f32`, its bits: `LittleEndian::write_f32` and `read_f32`. -/
def valueF32 : Value (BitVec 32) := littleEndian 4 .float

/-- `f64`, its bits: `LittleEndian::write_f64` and `read_f64`. -/
def valueF64 : Value (BitVec 64) := littleEndian 8 .double

theorem littleEndian_roundTrips (n : Nat) (dataType : DataType) :
    (littleEndian n dataType).RoundTrips := by
  intro v dest
  refine ⟨fun h => ?_, fun h => if_pos h⟩
  obtain ⟨dest', hw, hl, hd, hr⟩ := writeLE_readLE (x := v.toNat) (show n ≤ dest.length from h)
  have hv : v.toNat < 256 ^ n := by
    rw [show (256 : Nat) = 2 ^ 8 from rfl, ← Nat.pow_mul]; exact v.isLt
  refine ⟨dest', hw, hl, hd, ?_⟩
  show (readLE n (dest'.take n)).map _ = _
  rw [hr, Nat.mod_eq_of_lt hv, Option.map_some']
  congr 2
  exact BitVec.eq_of_toNat_eq (by rw [BitVec.toNat_ofNat, Nat.mod_eq_of_lt v.isLt])

theorem valueBool_roundTrips : valueBool.RoundTrips := by
  intro b dest
  cases dest with
  | nil => exact ⟨fun h => absurd h (by decide), fun _ => rfl⟩
  | cons x rest =>
    refine ⟨fun _ => ⟨_, rfl, rfl, rfl, ?_⟩, fun h => absurd h (by simp [valueBool])⟩
    cases b <;> rfl

theorem valueI8_roundTrips : valueI8.RoundTrips := by
  intro v dest
  cases dest with
  | nil => exact ⟨fun h => absurd h (by decide), fun _ => rfl⟩
  | cons x rest =>
    refine ⟨fun _ => ⟨_, rfl, rfl, rfl, ?_⟩, fun h => absurd h (by simp [valueI8])⟩
    show (some (.ok (BitVec.ofNat 8 v.toNat.toUInt8.toNat)) : Option (Except Error (BitVec 8))) = _
    rw [Wire.toNat_toUInt8, Nat.mod_eq_of_lt v.isLt, BitVec.ofNat_toNat, BitVec.setWidth_eq]

/-! ## Byte strings and UTF-8 -/

/-- `&[u8]`: the slice itself, handed out and read back as it is. -/
def valueBytes : Value (List UInt8) where
  dataType := .binary
  size := 16
  isVarLen := true
  indirectData v := some v
  fromData data := some (.ok data)

/-- `Vec<u8>`: the same, owned. -/
def valueVecU8 : Value (List UInt8) := valueBytes

/-- The UTF-8 syntax of RFC 3629 §4, one byte at a time: `owed` continuation bytes are
still owed, and the next must lie in `lo..hi`. -/
def utf8Run : Nat → UInt8 → UInt8 → List UInt8 → Bool
  | 0, _, _, [] => true
  | _ + 1, _, _, [] => false
  | 0, _, _, b :: bs =>
    if b ≤ 0x7F then utf8Run 0 0x80 0xBF bs
    else if 0xC2 ≤ b ∧ b ≤ 0xDF then utf8Run 1 0x80 0xBF bs
    else if b = 0xE0 then utf8Run 2 0xA0 0xBF bs
    else if 0xE1 ≤ b ∧ b ≤ 0xEC then utf8Run 2 0x80 0xBF bs
    else if b = 0xED then utf8Run 2 0x80 0x9F bs
    else if 0xEE ≤ b ∧ b ≤ 0xEF then utf8Run 2 0x80 0xBF bs
    else if b = 0xF0 then utf8Run 3 0x90 0xBF bs
    else if 0xF1 ≤ b ∧ b ≤ 0xF3 then utf8Run 3 0x80 0xBF bs
    else if b = 0xF4 then utf8Run 3 0x80 0x8F bs
    else false
  | n + 1, lo, hi, b :: bs => lo ≤ b && b ≤ hi && utf8Run n 0x80 0xBF bs

/-- The check of `str::from_utf8`: the bytes are a sequence of UTF-8 characters. -/
def validUtf8 (bs : List UInt8) : Bool := utf8Run 0 0x80 0xBF bs

/-- `é`, two bytes, is UTF-8; an overlong `NUL`, a surrogate and a cut-off character are
not. -/
example : validUtf8 [0xC3, 0xA9] = true ∧ validUtf8 [0xC0, 0x80] = false ∧
    validUtf8 [0xED, 0xA0, 0x80] = false ∧ validUtf8 [0xE2, 0x82] = false := by decide

/-- A `&str` or `String`: bytes that are UTF-8. -/
structure RustStr where
  bytes : List UInt8
  valid : validUtf8 bytes = true
  deriving DecidableEq

/-- `str::from_utf8`. -/
def fromUtf8 (data : List UInt8) : Except Error RustStr :=
  if h : validUtf8 data = true then .ok ⟨data, h⟩ else .error .utf8

/-- `&str`: its bytes are handed out, and read back through `str::from_utf8`. -/
def valueStr : Value RustStr where
  dataType := .string
  size := 16
  isVarLen := true
  indirectData s := some s.bytes
  fromData data := some (fromUtf8 data)

/-- `String`: the same, owned (`into_bytes`, and `str::to_owned` of the checked slice). -/
def valueString : Value RustStr := valueStr

theorem valueBytes_roundTrips : valueBytes.IndirectRoundTrips := fun v => ⟨v, rfl, rfl⟩

theorem valueStr_roundTrips : valueStr.IndirectRoundTrips := fun s =>
  ⟨s.bytes, rfl, by simp only [valueStr, fromUtf8, dif_pos s.valid]⟩

/-- Every value of a fixed-size type that `copy_data` writes into a slice is written in
exactly the type's `size()` bytes and read back as itself by `from_data`, floats bit for
bit; and `from_data` of the bytes `indirect_data` hands out for a byte string or a string
is that value. -/
theorem values_round_trip :
    valueBool.RoundTrips ∧ valueI8.RoundTrips ∧ valueI16.RoundTrips ∧ valueI32.RoundTrips ∧
      valueI64.RoundTrips ∧ valueF32.RoundTrips ∧ valueF64.RoundTrips ∧
      valueBytes.IndirectRoundTrips ∧ valueVecU8.IndirectRoundTrips ∧
      valueStr.IndirectRoundTrips ∧ valueString.IndirectRoundTrips :=
  ⟨valueBool_roundTrips, valueI8_roundTrips, littleEndian_roundTrips _ _,
    littleEndian_roundTrips _ _, littleEndian_roundTrips _ _, littleEndian_roundTrips _ _,
    littleEndian_roundTrips _ _, valueBytes_roundTrips, valueBytes_roundTrips,
    valueStr_roundTrips, valueStr_roundTrips⟩

/-! ## Reading a slice and writing it back -/

/-- Writing back the value that `from_data` read from a slice into that slice leaves it
as it was. -/
def Value.ReadsBack {α : Type} (V : Value α) : Prop :=
  ∀ (data : List UInt8) (v : α), V.fromData data = some (.ok v) → V.copyData v data = some data

theorem littleEndian_readsBack (n : Nat) (dataType : DataType) : (littleEndian n dataType).ReadsBack := by
  intro data v h
  simp only [littleEndian, readLE] at h
  split at h
  · cases h
  rename_i hn
  simp only [Option.map_some', Option.some.injEq, Except.ok.injEq] at h
  subst h
  have hlen : (data.take n).length = n := List.length_take_of_le (by omega)
  have hlt : leValue (data.take n) < 2 ^ (8 * n) := by
    have := leValue_lt (data.take n)
    rwa [hlen, show (256 : Nat) = 2 ^ 8 from rfl, ← Nat.pow_mul] at this
  show writeLE n (BitVec.ofNat (8 * n) (leValue (data.take n))).toNat data = some data
  have hb := leBytes_leValue (data.take n)
  rw [hlen] at hb
  rw [writeLE, if_neg hn, BitVec.toNat_ofNat, Nat.mod_eq_of_lt hlt, hb, List.take_append_drop]

theorem valueI8_readsBack : valueI8.ReadsBack := by
  intro data v h
  cases data with
  | nil => cases h
  | cons x rest =>
    simp only [valueI8, Option.some.injEq, Except.ok.injEq] at h
    subst h
    simp only [valueI8, BitVec.toNat_ofNat, Nat.mod_eq_of_lt (show x.toNat < 2 ^ 8 from x.val.isLt),
      toUInt8_toNat]

/-- **Reading a slice and writing it back.** For every slice, the value that `from_data`
reads from it, written back into it by `copy_data`, leaves the slice as it was, for `i8`,
`i16`, `i32`, `i64`, `f32` and `f64`: every slice of `size()` bytes encodes exactly one
value. A `bool` is written back as it was read exactly when its byte is 0 or 1; any other
byte reads as `true` and is written back as 1. -/
theorem values_read_back :
    valueI8.ReadsBack ∧ valueI16.ReadsBack ∧ valueI32.ReadsBack ∧ valueI64.ReadsBack ∧
      valueF32.ReadsBack ∧ valueF64.ReadsBack ∧
      ∀ (data : List UInt8) (b : Bool), valueBool.fromData data = some (.ok b) →
        (valueBool.copyData b data = some data ↔ data.head? = some 0 ∨ data.head? = some 1) := by
  refine ⟨valueI8_readsBack, littleEndian_readsBack _ _, littleEndian_readsBack _ _,
    littleEndian_readsBack _ _, littleEndian_readsBack _ _, littleEndian_readsBack _ _, ?_⟩
  intro data b h
  cases data with
  | nil => cases h
  | cons x rest =>
    simp only [valueBool, Option.some.injEq, Except.ok.injEq] at h
    subst h
    by_cases hx : x = 0 <;> simp [valueBool, hx, eq_comm]

/-- The byte 2 reads as `true`, which is written back as 1. -/
theorem values_read_back_two :
    valueBool.fromData [2] = some (.ok true) ∧ valueBool.copyData true [2] ≠ some [2] :=
  ⟨rfl, fun h => absurd ((values_read_back.2.2.2.2.2.2 [2] true rfl).1 h) (by decide)⟩

end KuduRpc
