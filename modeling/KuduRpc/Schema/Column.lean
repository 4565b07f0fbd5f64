import KuduRpc.Value

/-!
# Columns

`Column` (`schema.rs`) holds a column's metadata: its name, data type, nullability,
compression, encoding and block size. It also serves as its own builder. `to_pb` and
`from_pb` convert it to and from the protobuf `ColumnSchemaPB`, with the block size cast
`u32 → i32 → u32` ("TODO: checked cast").

The enums `EncodingType` and `CompressionType`, and the conversions of the three enums to
and from their protobuf values, live in `lib.rs`, which is not part of the source. The
model takes the conversions as parameters (`EnumPb`). Where a result needs them to undo
each other, it says so with `EnumPb.Inverse`.

* `Column.fromPb_toPb`: under `EnumPb.Inverse`, `from_pb` gives back the column that
  `to_pb` converted, whatever its block size. The two casts undo each other on every
  `u32`.
-/

namespace KuduRpc

/-- The crate's `EncodingType` (`lib.rs`, not part of the source); `Prefix` is named
`prefixEncoding` here. -/
inductive EncodingType
  | auto
  | plain
  | prefixEncoding
  | groupVarint
  | runLength
  | dictionary
  | bitShuffle
  deriving DecidableEq, Repr

/-- The crate's `CompressionType` (`lib.rs`, not part of the source). -/
inductive CompressionType
  | default
  | none
  | snappy
  | lz4
  | zlib
  deriving DecidableEq, Repr

/-- The conversions of `lib.rs`'s enums to and from their protobuf enums, whose values
are the enum numbers: `DataType::to_pb` and `from_pb`, and likewise for `EncodingType`
and `CompressionType`. `from_pb` fails on a value it does not support. -/
structure EnumPb where
  dataTypeToPb : DataType → Int
  dataTypeFromPb : Int → Except Error DataType
  encodingToPb : EncodingType → Int
  encodingFromPb : Int → Except Error EncodingType
  compressionToPb : CompressionType → Int
  compressionFromPb : Int → Except Error CompressionType

/-- Each `from_pb` undoes its `to_pb`. -/
def EnumPb.Inverse (k : EnumPb) : Prop :=
  (∀ t, k.dataTypeFromPb (k.dataTypeToPb t) = .ok t) ∧
    (∀ e, k.encodingFromPb (k.encodingToPb e) = .ok e) ∧
    ∀ c, k.compressionFromPb (k.compressionToPb c) = .ok c

/-- Conversions that number each enum's variants in order. They undo each other, and are
used to evaluate examples. -/
def EnumPb.ordinal : EnumPb where
  dataTypeToPb t := ([DataType.bool, .int8, .int16, .int32, .int64, .timestamp, .float, .double,
    .binary, .string].indexOf t : Nat)
  dataTypeFromPb n :=
    match [DataType.bool, .int8, .int16, .int32, .int64, .timestamp, .float, .double, .binary,
      .string][n.toNat]? with
    | some t => .ok t
    | none => .error (.invalidArgument "unknown data type")
  encodingToPb e := ([EncodingType.auto, .plain, .prefixEncoding, .groupVarint, .runLength,
    .dictionary, .bitShuffle].indexOf e : Nat)
  encodingFromPb n :=
    match [EncodingType.auto, .plain, .prefixEncoding, .groupVarint, .runLength, .dictionary,
      .bitShuffle][n.toNat]? with
    | some e => .ok e
    | none => .error (.invalidArgument "unknown encoding type")
  compressionToPb c := ([CompressionType.default, .none, .snappy, .lz4, .zlib].indexOf c : Nat)
  compressionFromPb n :=
    match [CompressionType.default, .none, .snappy, .lz4, .zlib][n.toNat]? with
    | some c => .ok c
    | none => .error (.invalidArgument "unknown compression type")

theorem EnumPb.ordinal_inverse : EnumPb.ordinal.Inverse :=
  ⟨fun t => by cases t <;> rfl, fun e => by cases e <;> rfl, fun c => by cases c <;> rfl⟩

/-- `Column`. -/
structure Column where
  name : String
  dataType : DataType
  isNullable : Bool
  compression : CompressionType
  encoding : EncodingType
  blockSize : UInt32
  deriving DecidableEq, Repr

namespace Column

/-- `Column::builder`: nullable, default compression, automatic encoding, no block
size. -/
def builder (name : String) (dataType : DataType) : Column :=
  ⟨name, dataType, true, .default, .auto, 0⟩

/-- `set_nullable`. -/
def setNullable (c : Column) : Column := { c with isNullable := true }

/-- `set_not_null`. -/
def setNotNull (c : Column) : Column := { c with isNullable := false }

/-- `set_encoding`. -/
def setEncoding (c : Column) (encoding : EncodingType) : Column := { c with encoding }

/-- `set_compression`. -/
def setCompression (c : Column) (compression : CompressionType) : Column := { c with compression }

/-- `set_block_size`. -/
def setBlockSize (c : Column) (blockSize : UInt32) : Column := { c with blockSize }

/-- `Column::block_size`: none for 0 (`block_size <= 0` on a `u32`). -/
def blockSize? (c : Column) : Option UInt32 := if c.blockSize ≤ 0 then none else some c.blockSize

end Column

/-! ## The protobuf form -/

/-- `ColumnSchemaPB`, with the fields `to_pb` sets and `from_pb` reads;
`cfile_block_size` is an `int32`. -/
structure ColumnSchemaPB where
  name : String
  fieldType : Int
  isKey : Bool
  isNullable : Bool
  encoding : Int
  compression : Int
  cfileBlockSize : Int
  deriving DecidableEq, Repr

/-- `u32 as i32`: the same bits, read in two's complement. -/
def u32AsI32 (x : UInt32) : Int := if x.toNat < 2 ^ 31 then x.toNat else x.toNat - 2 ^ 32

/-- `i32 as u32`: the same bits, read unsigned. -/
def i32AsU32 (x : Int) : UInt32 := (x % 2 ^ 32).toNat.toUInt32

theorem i32AsU32_u32AsI32 (x : UInt32) : i32AsU32 (u32AsI32 x) = x := by
  have hx : x.toNat < 2 ^ 32 := x.val.isLt
  have h : (u32AsI32 x % 2 ^ 32).toNat = x.toNat := by
    unfold u32AsI32; split <;> omega
  apply UInt32.toNat.inj
  rw [i32AsU32, show ∀ n : Nat, n.toUInt32.toNat = n % 2 ^ 32 from fun _ => rfl, h,
    Nat.mod_eq_of_lt hx]

/-- `Column::to_pb`. -/
def Column.toPb (k : EnumPb) (c : Column) (isKey : Bool) : ColumnSchemaPB where
  name := c.name
  fieldType := k.dataTypeToPb c.dataType
  isKey := isKey
  isNullable := c.isNullable
  encoding := k.encodingToPb c.encoding
  compression := k.compressionToPb c.compression
  cfileBlockSize := u32AsI32 c.blockSize

/-- `Column::from_pb`: the fields in the order the struct literal lists them, so a bad
data type is reported before a bad compression, and that before a bad encoding. -/
def Column.fromPb (k : EnumPb) (pb : ColumnSchemaPB) : Except Error Column := do
  let dataType ← k.dataTypeFromPb pb.fieldType
  let compression ← k.compressionFromPb pb.compression
  let encoding ← k.encodingFromPb pb.encoding
  return ⟨pb.name, dataType, pb.isNullable, compression, encoding, i32AsU32 pb.cfileBlockSize⟩

theorem Column.fromPb_toPb {k : EnumPb} (hk : k.Inverse) (c : Column) (isKey : Bool) :
    Column.fromPb k (c.toPb k isKey) = .ok c := by
  simp only [Column.fromPb, Column.toPb, hk.1, hk.2.1, hk.2.2, i32AsU32_u32AsI32]
  rfl

end KuduRpc
