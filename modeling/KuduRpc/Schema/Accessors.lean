import KuduRpc.Schema.RoundTrip

/-!
# Looking columns up, and comparing schemas

`column_index` reads the index by name that `Schema::new` fills, a `HashMap` into which
each column's name is inserted in column order, so a later column of a name replaces an
earlier one. `column_by_name` indexes `columns` with what `column_index` found.

* `column_lookup_last`: for every list of columns, `column_index(name)` is the index of
  the last column of that name, or `None` when no column has it; `column_by_name` never
  panics and returns that column. Neither `build` nor `from_pb` rejects a repeated
  name, so on such a schema the earlier columns of the name cannot be looked up.

`Schema`'s `PartialEq` compares the key length and the columns only, not what
`Schema::new` derives from them.

* `eq_iff_of_produced`: on the schemas the code produces, that comparison is equality.
-/

namespace KuduRpc

/-! ## The index by name -/

/-- The loop of `Schema::new` inserts each column's name with its index, latest first. -/
theorem scanColumns_columnsByName : ∀ (idx : Nat) (acc : ColumnScan) (cs : List Column),
    (scanColumns idx acc cs).columnsByName =
      ((cs.enumFrom idx).map fun p => (p.2.name, p.1)).reverse ++ acc.columnsByName
  | _, _, [] => rfl
  | idx, acc, c :: cs => by
    rw [scanColumns, scanColumns_columnsByName]
    simp

/-- A lookup in a list of names and indices finds the first entry of the name. -/
theorem lookup_map_name (name : String) : ∀ l : List (Nat × Column),
    (l.map fun p => (p.2.name, p.1)).lookup name = (l.find? fun p => p.2.name == name).map (·.1)
  | [] => rfl
  | p :: l => by
    simp only [List.map_cons, List.lookup, List.find?_cons, lookup_map_name name l]
    by_cases h : p.2.name = name
    · subst h; simp
    · rw [beq_eq_false_iff_ne.2 h, beq_eq_false_iff_ne.2 (Ne.symm h)]

theorem columnIndex_new_eq (cs : List Column) (n : Nat) (name : String) :
    (Schema.new cs n).columnIndex name =
      (cs.enum.reverse.find? fun p => p.2.name == name).map (·.1) := by
  rw [Schema.columnIndex, Schema.new, scanColumns_columnsByName, List.append_nil,
    ← List.map_reverse, lookup_map_name, List.enum]

theorem find?_enum_reverse_snoc (cs : List Column) (c : Column) (p : Nat × Column → Bool) :
    (cs ++ [c]).enum.reverse.find? p =
      if p (cs.length, c) then some (cs.length, c) else cs.enum.reverse.find? p := by
  simp only [List.enum, List.enumFrom_append, List.reverse_append, List.enumFrom_singleton,
    List.reverse_singleton, List.singleton_append, List.find?_cons, Nat.zero_add]
  cases p (cs.length, c) <;> rfl

/-- The first match from the end is the last column of the name. -/
theorem find?_enum_reverse_name (name : String) (i : Nat) : ∀ cs : List Column,
    (cs.enum.reverse.find? fun p => p.2.name == name).map (·.1) = some i ↔
      ∃ h : i < cs.length, cs[i].name = name ∧ ∀ j (hj : j < cs.length), i < j → cs[j].name ≠ name := by
  intro cs
  induction cs using List.reverseRecOn with
  | nil => simp
  | append_singleton cs c ih =>
    rw [find?_enum_reverse_snoc]
    by_cases hc : c.name = name
    · simp only [hc, beq_self_eq_true, if_true, Option.map_some', Option.some.injEq]
      constructor
      · rintro rfl
        refine ⟨by simp, by simp [hc], fun j hj hlt => absurd hj (by simp; omega)⟩
      · rintro ⟨hi, -, hlast⟩
        by_contra hne
        exact hlast cs.length (by simp) (by simp at hi; omega) (by simp [hc])
    · rw [if_neg (by simpa using hc), ih]
      constructor
      · rintro ⟨hi, hn, hlast⟩
        refine ⟨by simp; omega, by rwa [List.getElem_append_left hi], fun j hj hlt => ?_⟩
        rcases Nat.lt_or_ge j cs.length with hj' | hj'
        · rw [List.getElem_append_left hj']; exact hlast j hj' hlt
        · have : j = cs.length := by simp at hj; omega
          subst this; simpa using hc
      · rintro ⟨hi, hn, hlast⟩
        have hi' : i < cs.length := by
          by_contra hge
          have : i = cs.length := by simp at hi; omega
          subst this; exact hc (by simpa using hn)
        refine ⟨hi', by rwa [List.getElem_append_left hi'] at hn, fun j hj hlt => ?_⟩
        have := hlast j (by simp; omega) hlt
        rwa [List.getElem_append_left hj] at this

/-- **`column_index` and `column_by_name` find the last column of a name.** For every
list of columns and key length, `column_index(name)` is the index of the last column
named `name`, or `None` when none is, and `column_by_name(name)` never panics and returns
the last column named `name`. -/
theorem column_lookup_last (cs : List Column) (n : Nat) (name : String) :
    (∀ i, (Schema.new cs n).columnIndex name = some i ↔
      ∃ h : i < cs.length, cs[i].name = name ∧ ∀ j (hj : j < cs.length), i < j → cs[j].name ≠ name) ∧
    (Schema.new cs n).columnByName name = some (cs.reverse.find? (·.name == name)) := by
  refine ⟨fun i => columnIndex_new_eq cs n name ▸ find?_enum_reverse_name name i cs, ?_⟩
  have hrev : cs.reverse = cs.enum.reverse.map (·.2) := by rw [List.map_reverse, List.enum_map_snd]
  rw [Schema.columnByName, columnIndex_new_eq, hrev, List.find?_map, Function.comp_def]
  rcases hf : cs.enum.reverse.find? (fun p => p.2.name == name) with _ | ⟨i, c⟩
  · rw [hf]; rfl
  · have hmem := List.mem_reverse.1 (List.mem_of_find?_eq_some hf)
    rw [hf]
    simp [Schema.new, List.mem_enum_iff_getElem?.1 hmem]

/-! ## Equality -/

/-- **`PartialEq` is equality on the schemas the code produces.** For every two schemas
returned by `build`, `from_pb` or `primary_key_projection`, `eq` holds exactly when they
are equal, index by name, offsets, row size and nullable flag included: these are
computed from the columns alone. -/
theorem eq_iff_of_produced {k : EnumPb} {s t : Schema} (hs : Produced k s) (ht : Produced k t) :
    s.eq t = true ↔ s = t := by
  constructor
  · intro h
    simp only [Schema.eq, Bool.and_eq_true, beq_iff_eq] at h
    rw [hs.eq_new.1, ht.eq_new.1, h.1, h.2]
  · rintro rfl
    simp [Schema.eq]

/-- `tests::simple_schema` and the schema read back from its `SchemaPB`. -/
theorem eq_iff_of_produced_simple :
    ∃ s t, simpleSchemaBuilder.build = .ok s ∧ Schema.fromPb .ordinal (s.asPb .ordinal) = .ok t ∧
      (s.eq t = true ↔ s = t) := by
  obtain ⟨s, hs⟩ : ∃ s, simpleSchemaBuilder.build = .ok s := ⟨_, rfl⟩
  obtain ⟨he, hle⟩ := (Produced.build (k := .ordinal) hs).eq_new
  obtain ⟨t, ht⟩ : ∃ t, Schema.fromPb .ordinal (s.asPb .ordinal) = .ok t :=
    ⟨s, by rw [he]; exact fromPb_asPb EnumPb.ordinal_inverse _ hle⟩
  exact ⟨s, t, hs, ht, eq_iff_of_produced (.build hs) (.fromPb ht)⟩

end KuduRpc
