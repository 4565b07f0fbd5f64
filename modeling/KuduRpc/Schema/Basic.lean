import KuduRpc.Schema.Column

/-!
# Schemas

A `Schema` (`schema.rs`) is a list of columns, the first `num_primary_key_columns` of
which form the primary key. `Schema::new` is private, and three functions call it:
`SchemaBuilder::build`, `Schema::from_pb` and `primary_key_projection`. It computes, in
one pass over the columns, an index of the columns by name, each column's offset in a
row, the row's size, and whether any column is nullable.

`SchemaBuilder::build` takes each name of the primary key in turn. It finds the first
remaining column of that name (`position`) and takes it out (`Vec::remove`). Then it
puts the key columns first, followed by the rest in their order.

`from_pb` counts the columns flagged `is_key` as the key. It does not check that they
come first. Neither `from_pb` nor `build` checks that names are distinct, and the index
by name, a `HashMap` filled in column order, keeps the last column of each name.
-/

namespace KuduRpc

/-- `Schema`, the fields of its `Inner`. `columns_by_name` is the list of its insertions,
latest first, so a lookup finds the value inserted last, as the map keeps it. -/
structure Schema where
  columns : List Column
  columnsByName : List (String × Nat)
  columnOffsets : List Nat
  numPrimaryKeyColumns : Nat
  rowSize : Nat
  hasNullableColumns : Bool
  deriving DecidableEq, Repr

/-- What the loop of `Schema::new` builds up. -/
structure ColumnScan where
  columnsByName : List (String × Nat)
  columnOffsets : List Nat
  rowSize : Nat
  hasNullableColumns : Bool

/-- The loop of `Schema::new`, from the column at `idx` on. -/
def scanColumns : Nat → ColumnScan → List Column → ColumnScan
  | _, acc, [] => acc
  | idx, acc, c :: cs =>
    scanColumns (idx + 1)
      ⟨(c.name, idx) :: acc.columnsByName, acc.columnOffsets ++ [acc.rowSize],
        acc.rowSize + c.dataType.size, acc.hasNullableColumns || c.isNullable⟩ cs

/-- `Schema::new`. -/
def Schema.new (columns : List Column) (numPrimaryKeyColumns : Nat) : Schema :=
  let scan := scanColumns 0 ⟨[], [], 0, false⟩ columns
  ⟨columns, scan.columnsByName, scan.columnOffsets, numPrimaryKeyColumns, scan.rowSize,
    scan.hasNullableColumns⟩

namespace Schema

/-- `column_index`. -/
def columnIndex (s : Schema) (name : String) : Option Nat := s.columnsByName.lookup name

/-- `column`, `columns.get(index)`. -/
def column (s : Schema) (index : Nat) : Option Column := s.columns[index]?

/-- `column_by_name`, `column_index(name).map(|idx| &columns[idx])`: the outer `none` is
the panic of an index out of range. -/
def columnByName (s : Schema) (name : String) : Option (Option Column) :=
  match s.columnIndex name with
  | none => some none
  | some idx => s.columns[idx]?.map some

/-- `primary_key`, `&columns[0..num_primary_key_columns]`: `none` where the slice
panics. -/
def primaryKey (s : Schema) : Option (List Column) :=
  if s.numPrimaryKeyColumns ≤ s.columns.length then some (s.columns.take s.numPrimaryKeyColumns)
  else none

/-- `primary_key_projection`: a schema of the key columns alone. -/
def primaryKeyProjection (s : Schema) : Option Schema :=
  s.primaryKey.map fun key => Schema.new key s.numPrimaryKeyColumns

/-- `<Schema as PartialEq>::eq`. Its first test, `ref_eq`, holds only of two handles on
one `Inner`, whose fields are then equal too, so the model keeps the second. -/
def eq (s t : Schema) : Bool :=
  s.numPrimaryKeyColumns == t.numPrimaryKeyColumns && s.columns == t.columns

end Schema

/-! ## The protobuf form -/

/-- `SchemaPB`, its columns. -/
structure SchemaPB where
  columns : List ColumnSchemaPB
  deriving DecidableEq, Repr

/-- The loop of `as_pb`: the column at `idx` is a key column when `idx` is below the key
length `n`. -/
def columnsPb (k : EnumPb) (n : Nat) : Nat → List Column → List ColumnSchemaPB
  | _, [] => []
  | idx, c :: cs => c.toPb k (decide (idx < n)) :: columnsPb k n (idx + 1) cs

/-- `Schema::as_pb`. -/
def Schema.asPb (k : EnumPb) (s : Schema) : SchemaPB :=
  ⟨columnsPb k s.numPrimaryKeyColumns 0 s.columns⟩

/-- The loop of `from_pb`: counts the columns flagged `is_key` and converts each column,
stopping at the first that fails. -/
def fromPbLoop (k : EnumPb) : List ColumnSchemaPB → Nat → List Column → Except Error (List Column × Nat)
  | [], n, acc => .ok (acc, n)
  | pb :: pbs, n, acc =>
    match Column.fromPb k pb with
    | .ok c => fromPbLoop k pbs (if pb.isKey then n + 1 else n) (acc ++ [c])
    | .error e => .error e

/-- `Schema::from_pb`. -/
def Schema.fromPb (k : EnumPb) (pb : SchemaPB) : Except Error Schema :=
  (fromPbLoop k pb.columns 0 []).map fun r => Schema.new r.1 r.2

/-! ## The builder -/

/-- `SchemaBuilder`, with the fields `build` reads; it does not read
`range_partition_columns`. -/
structure SchemaBuilder where
  columns : List Column
  primaryKey : List String
  deriving DecidableEq, Repr

namespace SchemaBuilder

/-- `SchemaBuilder::new`. -/
def new : SchemaBuilder := ⟨[], []⟩

/-- `add_column`. -/
def addColumn (b : SchemaBuilder) (column : Column) : SchemaBuilder :=
  { b with columns := b.columns ++ [column] }

/-- `set_primary_key`. -/
def setPrimaryKey (b : SchemaBuilder) (columns : List String) : SchemaBuilder :=
  { b with primaryKey := columns }

end SchemaBuilder

/-- `Iterator::position` of the first element satisfying `p`, then `Vec::remove` at that
position: the element, and the list without it. -/
def removeFirst {α : Type} (p : α → Bool) : List α → Option (α × List α)
  | [] => none
  | a :: l => if p a then some (a, l) else (removeFirst p l).map fun r => (r.1, a :: r.2)

/-- `removeFirst` is `position`, then `remove` at that index. -/
theorem removeFirst_eq {α : Type} (p : α → Bool) (l : List α) :
    removeFirst p l = (l.findIdx? p).bind fun i => l[i]?.map fun a => (a, l.eraseIdx i) := by
  induction l with
  | nil => rfl
  | cons a l ih =>
    by_cases h : p a
    · simp [removeFirst, h, List.findIdx?_cons]
    · rw [removeFirst, if_neg h, ih, List.findIdx?_cons, if_neg h, List.findIdx?_succ]
      cases l.findIdx? p <;> simp [Function.comp_def]

/-- The loop of `build` over the key's names: each name takes out the first remaining
column of that name; a name with none left is an error. -/
def takeKeyColumns : List String → List Column → List Column → Except Error (List Column × List Column)
  | [], columns, key => .ok (key, columns)
  | name :: names, columns, key =>
    match removeFirst (·.name == name) columns with
    | some (c, columns') => takeKeyColumns names columns' (key ++ [c])
    | none => .error (.invalidArgument s!"primary key column '{name}' has no corresponding column")

/-- `SchemaBuilder::build`. -/
def SchemaBuilder.build (b : SchemaBuilder) : Except Error Schema :=
  if b.primaryKey.isEmpty then .error (.invalidArgument "primary key must have at least one column")
  else (takeKeyColumns b.primaryKey b.columns []).map fun r => Schema.new (r.1 ++ r.2) b.primaryKey.length

end KuduRpc
