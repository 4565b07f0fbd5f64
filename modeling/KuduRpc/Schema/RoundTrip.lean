import KuduRpc.Schema.Invariant

/-!
# Through `SchemaPB` and back

`as_pb` writes each column with `is_key` set for the first `num_primary_key_columns`, and
its block size cast to `i32`. `from_pb` counts the flags, converts each column back, and
casts the block size back to `u32`.

* `fromPbLoop_columnsPb`: when `lib.rs`'s enum conversions undo each other, the loop of
  `from_pb` over what `as_pb` wrote gives back the columns, and counts the flags below
  the key length;
* `schema_pb_round_trip`: `from_pb(as_pb(s))` succeeds and gives back `s` for every
  schema `build` returns. The two schemas are equal field by field, so `Schema`'s
  `PartialEq` holds of them, whatever the block sizes are.

The other way round, from a `SchemaPB`:

* `fromPb_asPb_key_flags`: a `SchemaPB` of converted columns comes back from `from_pb`
  and `as_pb` with the same columns, in order, and the key flags moved to the first
  columns, as many as were flagged: `from_pb` counts the flags wherever they stand, and
  `as_pb` flags that many columns from the front. So it comes back unchanged exactly
  when its key columns come first.
-/

namespace KuduRpc

theorem fromPbLoop_columnsPb {k : EnumPb} (hk : k.Inverse) (n : Nat) :
    ∀ (cs : List Column) (idx m : Nat) (acc : List Column),
      fromPbLoop k (columnsPb k n idx cs) m acc = .ok (acc ++ cs, m + (min n (idx + cs.length) - idx))
  | [], idx, m, acc => by
    simp only [columnsPb, fromPbLoop, List.append_nil, List.length_nil, Nat.add_zero]
    congr
    omega
  | c :: cs, idx, m, acc => by
    simp only [columnsPb, fromPbLoop, Column.fromPb_toPb hk]
    rw [fromPbLoop_columnsPb hk n cs (idx + 1)]
    simp only [Column.toPb, decide_eq_true_eq, List.append_assoc, List.singleton_append,
      List.length_cons]
    congr 2
    split <;> omega

/-- `from_pb` of `as_pb` gives back every schema whose key is no longer than its
columns. -/
theorem fromPb_asPb {k : EnumPb} (hk : k.Inverse) (cs : List Column) {n : Nat}
    (hle : n ≤ cs.length) : Schema.fromPb k ((Schema.new cs n).asPb k) = .ok (Schema.new cs n) := by
  simp only [Schema.fromPb, Schema.asPb, fromPbLoop_columnsPb hk, Except.map, List.nil_append,
    Nat.zero_add, Nat.sub_zero]
  rw [show min (Schema.new cs n).numPrimaryKeyColumns (Schema.new cs n).columns.length = n from
    Nat.min_eq_left hle]
  rfl

/-- For every schema `build` returns, `Schema::from_pb(s.as_pb())` succeeds and gives back
a schema equal to `s` under `Schema`'s `PartialEq`, indeed equal to `s`, whatever its
block sizes, when the enums' `from_pb` undoes their `to_pb`. -/
theorem schema_pb_round_trip :
    ∀ k : EnumPb, k.Inverse → ∀ (b : SchemaBuilder) (s : Schema), b.build = .ok s →
      ∃ s', Schema.fromPb k (s.asPb k) = .ok s' ∧ s'.eq s = true ∧ s' = s := by
  intro k hk b s hb
  obtain ⟨he, hle⟩ := (Produced.build (k := k) hb).eq_new
  refine ⟨s, ?_, by simp [Schema.eq], rfl⟩
  rw [he]
  exact fromPb_asPb hk _ hle

/-! ## From a `SchemaPB` and back -/

/-- The loop of `from_pb` over converted columns gives back the columns and counts the
flags. -/
theorem fromPbLoop_map_toPb {k : EnumPb} (hk : k.Inverse) :
    ∀ (ps : List (Column × Bool)) (m : Nat) (acc : List Column),
      fromPbLoop k (ps.map fun p => p.1.toPb k p.2) m acc =
        .ok (acc ++ ps.map (·.1), m + ps.countP (·.2))
  | [], m, acc => by simp [fromPbLoop]
  | p :: ps, m, acc => by
    simp only [List.map_cons, fromPbLoop, Column.fromPb_toPb hk]
    rw [fromPbLoop_map_toPb hk ps]
    simp only [Column.toPb, List.append_assoc, List.singleton_append, List.countP_cons]
    congr 2
    split <;> omega

/-- `as_pb` writes each column with the flag of its index: below the key length or not. -/
theorem columnsPb_map_fst (k : EnumPb) (n : Nat) : ∀ (ps : List (Column × Bool)) (idx : Nat),
    columnsPb k n idx (ps.map (·.1)) =
      List.zipWith (fun p b => p.1.toPb k b) ps ((List.range' idx ps.length).map fun i => decide (i < n))
  | [], _ => rfl
  | p :: ps, idx => by
    simp only [List.map_cons, columnsPb, List.length_cons, List.range'_succ, List.zipWith_cons_cons,
      columnsPb_map_fst k n ps (idx + 1)]

/-- Converting the columns with the flags `bs` gives their conversions with their own
flags exactly when `bs` are their flags. -/
theorem zipWith_toPb_eq_map_iff (k : EnumPb) : ∀ (ps : List (Column × Bool)) (bs : List Bool),
    bs.length = ps.length →
      (List.zipWith (fun p b => p.1.toPb k b) ps bs = ps.map (fun p => p.1.toPb k p.2) ↔
        ps.map (·.2) = bs)
  | [], [], _ => by simp
  | [], _ :: _, h => absurd h (by simp)
  | _ :: _, [], h => absurd h (by simp)
  | p :: ps, b :: bs, h => by
    have hp : p.1.toPb k b = p.1.toPb k p.2 ↔ p.2 = b := by simp [Column.toPb, eq_comm]
    simp only [List.zipWith_cons_cons, List.map_cons, List.cons.injEq, hp,
      zipWith_toPb_eq_map_iff k ps bs (by simpa using h)]

/-- The flags `as_pb` writes: the first `m` columns are the key. -/
theorem map_range'_lt {m len : Nat} (h : m ≤ len) :
    ((List.range' 0 len).map fun i => decide (i < m)) =
      List.replicate m true ++ List.replicate (len - m) false := by
  have hsplit : List.range' 0 len = List.range' 0 m ++ List.range' m (len - m) := by
    have := List.range'_append 0 m (len - m) 1
    rwa [Nat.zero_add, Nat.one_mul, Nat.sub_add_cancel h, eq_comm] at this
  rw [hsplit, List.map_append]
  congr 1 <;> rw [List.eq_replicate_iff] <;> refine ⟨by simp, fun b hb => ?_⟩ <;>
    obtain ⟨i, hi, rfl⟩ := List.mem_map.1 hb <;> rw [List.mem_range'_1] at hi <;> simp <;> omega

/-- **`as_pb` after `from_pb`.** When `lib.rs`'s enum conversions undo each other, a
`SchemaPB` whose columns are `Column::to_pb` conversions, with any key flags, is read by
`from_pb` and written back by `as_pb` with the same columns, in order, the first of them,
as many as were flagged, flagged and no other; so it is written back unchanged exactly
when its key columns come first. -/
theorem fromPb_asPb_key_flags {k : EnumPb} (hk : k.Inverse) (ps : List (Column × Bool)) :
    (Schema.fromPb k ⟨ps.map fun p => p.1.toPb k p.2⟩).map (Schema.asPb k) =
        .ok ⟨List.zipWith (fun p b => p.1.toPb k b) ps
          (List.replicate (ps.countP (·.2)) true ++ List.replicate (ps.length - ps.countP (·.2)) false)⟩ ∧
      ((Schema.fromPb k ⟨ps.map fun p => p.1.toPb k p.2⟩).map (Schema.asPb k) =
          .ok ⟨ps.map fun p => p.1.toPb k p.2⟩ ↔
        ps.map (·.2) =
          List.replicate (ps.countP (·.2)) true ++ List.replicate (ps.length - ps.countP (·.2)) false) := by
  have hle := List.countP_le_length (·.2 : Column × Bool → Bool) (l := ps)
  have h : (Schema.fromPb k ⟨ps.map fun p => p.1.toPb k p.2⟩).map (Schema.asPb k) =
      .ok ⟨List.zipWith (fun p b => p.1.toPb k b) ps
        (List.replicate (ps.countP (·.2)) true ++ List.replicate (ps.length - ps.countP (·.2)) false)⟩ := by
    simp only [Schema.fromPb, fromPbLoop_map_toPb hk, List.nil_append, Nat.zero_add]
    show (Except.ok (SchemaPB.mk (columnsPb k (ps.countP (·.2)) 0 (ps.map (·.1)))) : Except Error SchemaPB) = _
    rw [columnsPb_map_fst, map_range'_lt hle]
  refine ⟨h, ?_⟩
  rw [h, Except.ok.injEq, SchemaPB.mk.injEq, zipWith_toPb_eq_map_iff k ps _ (by simp; omega)]

/-- A key column after a value column: `as_pb` flags the value column instead, so the
`SchemaPB` does not come back unchanged. -/
theorem fromPb_asPb_keyLast :
    (Schema.fromPb .ordinal ⟨[(valColumn, false), (keyColumn, true)].map fun p =>
        p.1.toPb .ordinal p.2⟩).map (Schema.asPb .ordinal) =
      .ok ⟨[valColumn.toPb .ordinal true, keyColumn.toPb .ordinal false]⟩ ∧
    (Schema.fromPb .ordinal ⟨[(valColumn, false), (keyColumn, true)].map fun p =>
        p.1.toPb .ordinal p.2⟩).map (Schema.asPb .ordinal) ≠
      .ok ⟨[(valColumn, false), (keyColumn, true)].map fun p => p.1.toPb .ordinal p.2⟩ :=
  have h := fromPb_asPb_key_flags EnumPb.ordinal_inverse [(valColumn, false), (keyColumn, true)]
  ⟨h.1.trans rfl, fun h' => absurd (h.2.1 h') (by decide)⟩

/-- `tests::simple_schema` with a block size of `2^31 + 7` on `val`, past `i32::MAX`. -/
def bigBlockBuilder : SchemaBuilder :=
  ((SchemaBuilder.new.addColumn (Column.builder "key" .string).setNotNull).addColumn
    ((Column.builder "val" .string).setNotNull.setBlockSize (2 ^ 31 + 7))).setPrimaryKey ["key"]

/-- `bigBlockBuilder`'s schema through `SchemaPB` and back: the `SchemaPB` carries the
block size as a negative `int32`, and `from_pb` gives the `u32` back. -/
theorem schema_pb_round_trip_bigBlock :
    ∃ s s', bigBlockBuilder.build = .ok s ∧ Schema.fromPb .ordinal (s.asPb .ordinal) = .ok s' ∧
      s'.eq s = true ∧ (s.asPb .ordinal).columns.map (·.cfileBlockSize) = [0, -2 ^ 31 + 7] ∧
      s'.columns.map (·.blockSize) = [0, 2 ^ 31 + 7] := by
  have hs : bigBlockBuilder.build = .ok (Schema.new [(Column.builder "key" .string).setNotNull,
      (Column.builder "val" .string).setNotNull.setBlockSize (2 ^ 31 + 7)] 1) := rfl
  obtain ⟨s', h, he, rfl⟩ := schema_pb_round_trip .ordinal EnumPb.ordinal_inverse _ _ hs
  exact ⟨_, _, hs, h, he, rfl, rfl⟩

end KuduRpc
