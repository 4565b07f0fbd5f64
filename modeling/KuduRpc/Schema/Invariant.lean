import KuduRpc.Schema.Build

/-!
# What a schema's accessors rely on

`row_size`, `column_offsets`, `has_nullable_columns` and `primary_key` read what
`Schema::new` computed. `column_index` reads the index by name, and `primary_key` reads
`columns[0..num_primary_key_columns]`. The schemas the code produces are those of
`build`, of `from_pb`, and the key projections of these (`Produced`).

* `Schema.new_wellFormed`: the offsets are the running sums of the column sizes, the row
  size their total, and the nullable flag whether some column is nullable;
* `Produced.eq_new`: every schema produced is `Schema::new` of its columns with a key no
  longer than the columns, so its `primary_key()` never panics;
* `columnIndex_new`: when the names are distinct, each column's name indexes it;
* `produced_schema_invariant`: all of this. It also shows two inputs that break what
  the accessors assume. `from_pb` takes the first columns as the key whichever are
  flagged `is_key`, and with two columns of one name `column_index` gives the last.
-/

namespace KuduRpc

/-! ## The loop of `Schema::new` -/

theorem scanColumns_rowSize : ∀ (idx : Nat) (acc : ColumnScan) (cs : List Column),
    (scanColumns idx acc cs).rowSize = acc.rowSize + (cs.map (·.dataType.size)).sum
  | _, _, [] => by simp [scanColumns]
  | idx, acc, c :: cs => by
    rw [scanColumns, scanColumns_rowSize]
    simp only [List.map_cons, List.sum_cons]
    omega

theorem scanColumns_nullable : ∀ (idx : Nat) (acc : ColumnScan) (cs : List Column),
    (scanColumns idx acc cs).hasNullableColumns = (acc.hasNullableColumns || cs.any (·.isNullable))
  | _, _, [] => by simp [scanColumns]
  | idx, acc, c :: cs => by
    rw [scanColumns, scanColumns_nullable]
    simp [Bool.or_assoc]

theorem scanColumns_offsets : ∀ (idx : Nat) (acc : ColumnScan) (cs : List Column),
    (scanColumns idx acc cs).columnOffsets = acc.columnOffsets ++
      (List.range cs.length).map fun i => acc.rowSize + ((cs.take i).map (·.dataType.size)).sum
  | _, _, [] => by simp [scanColumns]
  | idx, acc, c :: cs => by
    rw [scanColumns, scanColumns_offsets]
    simp only [List.length_cons, List.range_succ_eq_map, List.map_cons, List.map_map,
      List.append_assoc, List.take_zero, List.map_nil, List.sum_nil, Nat.add_zero, List.singleton_append]
    congr 2
    refine List.map_congr_left fun i _ => ?_
    simp only [Function.comp_apply, List.take_succ_cons, List.map_cons, List.sum_cons]
    omega

theorem scanColumns_lookup_of_not_mem {name : String} :
    ∀ {idx : Nat} {acc : ColumnScan} {cs : List Column}, name ∉ cs.map (·.name) →
      (scanColumns idx acc cs).columnsByName.lookup name = acc.columnsByName.lookup name
  | _, _, [], _ => rfl
  | idx, acc, c :: cs, h => by
    rw [List.map_cons, List.mem_cons, not_or] at h
    rw [scanColumns, scanColumns_lookup_of_not_mem h.2]
    simp only [List.lookup, beq_eq_false_iff_ne.2 h.1]

theorem scanColumns_lookup_of_nodup :
    ∀ {idx : Nat} {acc : ColumnScan} {cs : List Column}, (cs.map (·.name)).Nodup →
      ∀ i (h : i < cs.length), (scanColumns idx acc cs).columnsByName.lookup cs[i].name = some (idx + i)
  | _, _, [], _, i, h => absurd h (Nat.not_lt_zero i)
  | idx, acc, c :: cs, hn, i, h => by
    rw [List.map_cons, List.nodup_cons] at hn
    rw [scanColumns]
    cases i with
    | zero => simp [scanColumns_lookup_of_not_mem hn.1, List.lookup]
    | succ j =>
      rw [List.getElem_cons_succ, scanColumns_lookup_of_nodup hn.2 j (by simpa using h)]
      congr 1
      omega

/-! ## The invariant -/

/-- What the accessors of a schema rely on: each column's offset is the sum of the sizes
of the columns before it, the row size is the sum of all, the nullable flag tells
whether some column is nullable, and the key is no longer than the columns. -/
structure Schema.WellFormed (s : Schema) : Prop where
  offsets : s.columnOffsets =
    (List.range s.columns.length).map fun i => ((s.columns.take i).map (·.dataType.size)).sum
  rowSize : s.rowSize = (s.columns.map (·.dataType.size)).sum
  nullable : s.hasNullableColumns = s.columns.any (·.isNullable)
  keyLe : s.numPrimaryKeyColumns ≤ s.columns.length

theorem Schema.new_wellFormed {cs : List Column} {n : Nat} (h : n ≤ cs.length) :
    (Schema.new cs n).WellFormed where
  offsets := by simp [Schema.new, scanColumns_offsets]
  rowSize := by simp [Schema.new, scanColumns_rowSize]
  nullable := by simp [Schema.new, scanColumns_nullable]
  keyLe := h

/-- When the names are distinct, `column_index` of each column's name is its index. -/
theorem columnIndex_new {cs : List Column} (n : Nat) (hn : (cs.map (·.name)).Nodup) (i : Nat)
    (h : i < cs.length) : (Schema.new cs n).columnIndex cs[i].name = some i := by
  have := @scanColumns_lookup_of_nodup 0 ⟨[], [], 0, false⟩ cs hn i h
  rwa [Nat.zero_add] at this

/-- The schemas the code produces: those `build` and `from_pb` return, and the key
projection of one. -/
inductive Produced (k : EnumPb) : Schema → Prop
  | build {b : SchemaBuilder} {s : Schema} : b.build = .ok s → Produced k s
  | fromPb {pb : SchemaPB} {s : Schema} : Schema.fromPb k pb = .ok s → Produced k s
  | projection {s t : Schema} : Produced k s → s.primaryKeyProjection = some t → Produced k t

/-- The loop of `from_pb` converts every column and counts at most one key per column. -/
theorem fromPbLoop_ok {k : EnumPb} :
    ∀ {pbs : List ColumnSchemaPB} {n : Nat} {acc cs : List Column} {m : Nat},
      fromPbLoop k pbs n acc = .ok (cs, m) → cs.length = acc.length + pbs.length ∧ m ≤ n + pbs.length
  | [], n, acc, cs, m, h => by cases h; simp
  | pb :: pbs, n, acc, cs, m, h => by
    simp only [fromPbLoop] at h
    split at h
    · have := fromPbLoop_ok h
      simp only [List.length_append, List.length_cons, List.length_nil] at this ⊢
      split at this <;> omega
    · cases h

/-- Every schema produced is `Schema::new` of its columns, with a key no longer than
them. -/
theorem Produced.eq_new {k : EnumPb} {s : Schema} (h : Produced k s) :
    s = Schema.new s.columns s.numPrimaryKeyColumns ∧ s.numPrimaryKeyColumns ≤ s.columns.length := by
  induction h with
  | build hb =>
    obtain ⟨-, key, rest, hm, rfl⟩ := build_eq_ok hb
    exact ⟨rfl, by simp [Schema.new, ← hm.length]⟩
  | fromPb hp =>
    unfold Schema.fromPb at hp
    rcases hl : fromPbLoop k _ 0 [] with e | ⟨cs, m⟩ <;> rw [hl] at hp
    · cases hp
    · cases hp
      have := fromPbLoop_ok hl
      exact ⟨rfl, by simp only [Schema.new]; omega⟩
  | projection _ hp ih =>
    rename_i s t
    simp only [Schema.primaryKeyProjection, Schema.primaryKey, if_pos ih.2, Option.map_some',
      Option.some.injEq] at hp
    subst hp
    exact ⟨rfl, by simp [Schema.new, ih.2]⟩

/-! ## Where the accessors go wrong -/

/-- `val`, a nullable string. -/
def valColumn : Column := Column.builder "val" .string

/-- `key`, an `int32`, not null. -/
def keyColumn : Column := (Column.builder "key" .int32).setNotNull

/-- A `SchemaPB` whose key column comes second: `val`, not a key, then `key`, a key. -/
def keyLastPb : SchemaPB := ⟨[valColumn.toPb .ordinal false, keyColumn.toPb .ordinal true]⟩

/-- Two columns both named `key`, with primary key `key`. -/
def twoKeysBuilder : SchemaBuilder :=
  ((SchemaBuilder.new.addColumn keyColumn).addColumn (Column.builder "key" .string)).setPrimaryKey ["key"]

/-- Every schema `build`, `from_pb` or `primary_key_projection` produces has the offsets,
row size and nullable flag its accessors rely on, and a key no longer than its columns,
so `primary_key()` does not panic; when its names are distinct, each column's name
indexes it; and the primary key of a built schema is its matched key columns. But
`from_pb` of a `SchemaPB` whose key column comes second makes the other column the
primary key, and a built schema with two columns named `key` indexes the name `key` at
the second. -/
theorem produced_schema_invariant :
    (∀ (k : EnumPb) (s : Schema), Produced k s →
      s.WellFormed ∧ s.primaryKey = some (s.columns.take s.numPrimaryKeyColumns) ∧
      ((s.columns.map (·.name)).Nodup →
        ∀ i (h : i < s.columns.length), s.columnIndex s.columns[i].name = some i)) ∧
    (∀ (b : SchemaBuilder) (s : Schema), b.build = .ok s →
      ∃ key rest, KeyMatch b.columns b.primaryKey key rest ∧ s.primaryKey = some key) ∧
    (∃ s, Schema.fromPb .ordinal keyLastPb = .ok s ∧ s.primaryKey = some [valColumn] ∧
      keyLastPb.columns.map (·.isKey) = [false, true]) ∧
    (∃ s, twoKeysBuilder.build = .ok s ∧ s.columns[0]? = some keyColumn ∧
      s.columnIndex keyColumn.name = some 1) := by
  refine ⟨fun k s hs => ?_, fun b s hb => ?_, ⟨_, rfl, rfl, rfl⟩, ⟨_, rfl, rfl, rfl⟩⟩
  · obtain ⟨he, hle⟩ := hs.eq_new
    refine ⟨he ▸ Schema.new_wellFormed hle, by simp [Schema.primaryKey, hle], fun hn i h => ?_⟩
    have := columnIndex_new s.numPrimaryKeyColumns hn i h
    rwa [← he] at this
  · obtain ⟨-, key, rest, hm, rfl⟩ := build_eq_ok hb
    exact ⟨key, rest, hm, by rw [← hm.length]; exact primaryKey_new key rest⟩

/-- The schema of `tests::simple_schema` keeps the invariant, and its names index its
columns. -/
theorem produced_schema_invariant_simple :
    ∃ s, simpleSchemaBuilder.build = .ok s ∧ s.WellFormed ∧
      ∀ i (h : i < s.columns.length), s.columnIndex s.columns[i].name = some i := by
  refine ⟨_, rfl, ?_⟩
  obtain ⟨hw, -, hi⟩ := produced_schema_invariant.1 .ordinal _
    (.build (show simpleSchemaBuilder.build = _ from rfl))
  exact ⟨hw, hi (by decide)⟩

end KuduRpc
