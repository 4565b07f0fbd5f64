import KuduRpc.Schema.Basic

/-!
# What `SchemaBuilder::build` builds

The specification matches the primary key's names to columns left to right, each name to
the first column of that name not matched yet (`KeyMatch`). `build` follows it exactly:

* `takeKeyColumns_keyMatch` and `keyMatch_takeKeyColumns`: the key loop succeeds, with
  the key columns and the rest, exactly when the names match that way;
* `KeyMatch.map_name`, `KeyMatch.perm`, `KeyMatch.sublist`: the key columns carry the key's
  names in order, key and rest together are a permutation of the columns, and the rest
  keep their order;
* `build_matches_primary_key`: `build` fails exactly when the key is empty or some name
  has no column left, and otherwise returns the key columns followed by the rest, with
  `|pk|` key columns and the key columns as `primary_key()`.
-/

namespace KuduRpc

section RemoveFirst

variable {α : Type} {p : α → Bool}

/-- What `removeFirst` takes out is the first element satisfying `p`. -/
theorem removeFirst_eq_some {l : List α} {x : α} {l' : List α} (h : removeFirst p l = some (x, l')) :
    ∃ pre post, l = pre ++ x :: post ∧ (∀ y ∈ pre, p y = false) ∧ p x = true ∧ l' = pre ++ post := by
  induction l generalizing l' with
  | nil => cases h
  | cons a l ih =>
    simp only [removeFirst] at h
    split at h
    · next ha => cases h; exact ⟨[], l, rfl, by simp, ha, rfl⟩
    · next ha =>
      obtain ⟨⟨x', l''⟩, hr, he⟩ := Option.map_eq_some'.1 h
      cases he
      obtain ⟨pre, post, rfl, hpre, hx, rfl⟩ := ih hr
      exact ⟨a :: pre, post, rfl, by simpa [ha] using hpre, hx, rfl⟩

theorem removeFirst_split {pre post : List α} {x : α} (hpre : ∀ y ∈ pre, p y = false)
    (hx : p x = true) : removeFirst p (pre ++ x :: post) = some (x, pre ++ post) := by
  induction pre with
  | nil => simp [removeFirst, hx]
  | cons a pre ih =>
    have ha : p a = false := hpre a (.head _)
    simp [removeFirst, ha, ih fun y hy => hpre y (.tail _ hy)]

end RemoveFirst

/-- The matching of the primary key's names to columns, as the specification states it:
left to right, each name to the first column of that name not matched yet.
`KeyMatch cs names key rest`: matching `names` against the columns `cs` takes the columns
`key`, one per name in order, and leaves `rest`. -/
inductive KeyMatch : List Column → List String → List Column → List Column → Prop
  | nil (cs : List Column) : KeyMatch cs [] [] cs
  | cons {pre post key rest : List Column} {c : Column} {name : String} {names : List String} :
      (∀ x ∈ pre, x.name ≠ name) → c.name = name → KeyMatch (pre ++ post) names key rest →
      KeyMatch (pre ++ c :: post) (name :: names) (c :: key) rest

namespace KeyMatch

variable {cs key rest : List Column} {ns : List String}

theorem map_name (h : KeyMatch cs ns key rest) : key.map (·.name) = ns := by
  induction h with
  | nil => rfl
  | cons _ hc _ ih => rw [List.map_cons, hc, ih]

theorem perm (h : KeyMatch cs ns key rest) : (key ++ rest).Perm cs := by
  induction h with
  | nil => rfl
  | cons _ _ _ ih => exact (ih.cons _).trans List.perm_middle.symm

theorem sublist (h : KeyMatch cs ns key rest) : rest.Sublist cs := by
  induction h with
  | nil => exact List.Sublist.refl _
  | @cons pre post _ _ c _ _ _ _ _ ih => exact ih.trans ((List.sublist_cons_self c post).append_left pre)

theorem length (h : KeyMatch cs ns key rest) : key.length = ns.length := by
  rw [← h.map_name, List.length_map]

end KeyMatch

/-- A match is what the key loop computes. -/
theorem takeKeyColumns_keyMatch {cs key rest : List Column} {names : List String}
    (h : KeyMatch cs names key rest) (acc : List Column) :
    takeKeyColumns names cs acc = .ok (acc ++ key, rest) := by
  induction h generalizing acc with
  | nil => simp [takeKeyColumns]
  | cons hpre hc _ ih =>
    rw [takeKeyColumns, removeFirst_split (fun y hy => by simpa using hpre y hy) (by simpa using hc)]
    simp [ih]

/-- The key loop computes a match. -/
theorem keyMatch_takeKeyColumns {names : List String} :
    ∀ {cs acc key rest : List Column}, takeKeyColumns names cs acc = .ok (key, rest) →
      ∃ key', KeyMatch cs names key' rest ∧ key = acc ++ key' := by
  induction names with
  | nil =>
    intro cs acc key rest h
    cases h
    exact ⟨[], .nil _, by simp⟩
  | cons name names ih =>
    intro cs acc key rest h
    simp only [takeKeyColumns] at h
    split at h
    · next c cs' hr =>
      obtain ⟨pre, post, rfl, hpre, hc, rfl⟩ := removeFirst_eq_some hr
      obtain ⟨key', hm, rfl⟩ := ih h
      exact ⟨c :: key', .cons (fun y hy => by simpa using hpre y hy) (by simpa using hc) hm, by simp⟩
    · cases h

/-- The key loop fails exactly when the names do not match. -/
theorem takeKeyColumns_error {names : List String} {cs : List Column} :
    (∃ e, takeKeyColumns names cs [] = .error e) ↔ ¬∃ key rest, KeyMatch cs names key rest := by
  constructor
  · rintro ⟨e, he⟩ ⟨key, rest, hm⟩
    rw [takeKeyColumns_keyMatch hm] at he
    cases he
  · intro hn
    rcases ht : takeKeyColumns names cs [] with e | ⟨key, rest⟩
    · exact ⟨e, rfl⟩
    · obtain ⟨key', hm, -⟩ := keyMatch_takeKeyColumns ht
      exact absurd ⟨key', rest, hm⟩ hn

/-- The primary key of a schema whose first columns are `key`, `key.length` of them. -/
theorem primaryKey_new (key rest : List Column) :
    (Schema.new (key ++ rest) key.length).primaryKey = some key := by
  simp [Schema.primaryKey, Schema.new]

/-- `build` returns the schema of the matched columns, then the rest. -/
theorem build_eq_ok {b : SchemaBuilder} {s : Schema} (h : b.build = .ok s) :
    b.primaryKey ≠ [] ∧ ∃ key rest, KeyMatch b.columns b.primaryKey key rest ∧
      s = Schema.new (key ++ rest) b.primaryKey.length := by
  unfold SchemaBuilder.build at h
  split at h
  · cases h
  next hne =>
  rcases ht : takeKeyColumns b.primaryKey b.columns [] with e | ⟨key, rest⟩ <;> rw [ht] at h
  · cases h
  · cases h
    obtain ⟨key', hm, hk⟩ := keyMatch_takeKeyColumns ht
    rw [List.nil_append] at hk
    subst hk
    exact ⟨by simpa using hne, _, rest, hm, rfl⟩

/-- For every list of columns and every list of key names: `build` fails exactly when
the key is empty or some name has no column left to match, taking the names left to
right and each to the first column of that name not matched yet. Otherwise its schema's
columns are the matched columns, in the key's order, then the others in their order, a
permutation of the columns; it has `|pk|` key columns, and its primary key is the
matched columns. -/
theorem build_matches_primary_key :
    ∀ b : SchemaBuilder,
      ((∃ e, b.build = .error e) ↔
        b.primaryKey = [] ∨ ¬∃ key rest, KeyMatch b.columns b.primaryKey key rest) ∧
      ∀ s, b.build = .ok s → ∃ key rest, KeyMatch b.columns b.primaryKey key rest ∧
        s.columns = key ++ rest ∧ key.map (·.name) = b.primaryKey ∧
        (key ++ rest).Perm b.columns ∧ rest.Sublist b.columns ∧
        s.numPrimaryKeyColumns = b.primaryKey.length ∧ s.primaryKey = some key := by
  intro b
  refine ⟨⟨fun ⟨e, he⟩ => ?_, fun h => ?_⟩, fun s hs => ?_⟩
  · unfold SchemaBuilder.build at he
    split at he
    · exact .inl (by simpa using ‹b.primaryKey.isEmpty = true›)
    · rcases ht : takeKeyColumns b.primaryKey b.columns [] with e' | ⟨key, rest⟩ <;> rw [ht] at he
      · exact .inr (takeKeyColumns_error.1 ⟨e', ht⟩)
      · cases he
  · unfold SchemaBuilder.build
    rcases h with h | h
    · exact ⟨_, if_pos (by simp [h])⟩
    · obtain ⟨e, he⟩ := takeKeyColumns_error.2 h
      split
      · exact ⟨_, rfl⟩
      · exact ⟨e, by rw [he]; rfl⟩
  · obtain ⟨-, key, rest, hm, rfl⟩ := build_eq_ok hs
    refine ⟨key, rest, hm, rfl, hm.map_name, hm.perm, hm.sublist, rfl, ?_⟩
    rw [← hm.length]
    exact primaryKey_new key rest

/-- The builder of `tests::simple_schema`: columns `key` and `val`, strings, not null, with
primary key `key`. -/
def simpleSchemaBuilder : SchemaBuilder :=
  ((SchemaBuilder.new.addColumn (Column.builder "key" .string).setNotNull).addColumn
    (Column.builder "val" .string).setNotNull).setPrimaryKey ["key"]

/-- Columns `x`, `y` and `x` again, with primary key `x`, `x`. -/
def repeatedNamesBuilder : SchemaBuilder :=
  (((SchemaBuilder.new.addColumn (Column.builder "x" .int32)).addColumn
    (Column.builder "y" .string)).addColumn (Column.builder "x" .string)).setPrimaryKey ["x", "x"]

/-- A key naming `x` twice takes the first column `x`, then the next: the schema's columns
are both `x`, then `y`, and its primary key the two `x`. -/
theorem build_matches_primary_key_repeated :
    ∃ s key rest, repeatedNamesBuilder.build = .ok s ∧
      KeyMatch repeatedNamesBuilder.columns ["x", "x"] key rest ∧ s.columns = key ++ rest ∧
      s.primaryKey = some key ∧
      s.columns = [Column.builder "x" .int32, Column.builder "x" .string, Column.builder "y" .string] := by
  have hs : repeatedNamesBuilder.build = .ok (Schema.new
      [Column.builder "x" .int32, Column.builder "x" .string, Column.builder "y" .string] 2) := rfl
  obtain ⟨key, rest, hm, hc, -, -, -, -, hk⟩ := (build_matches_primary_key repeatedNamesBuilder).2 _ hs
  exact ⟨_, key, rest, hs, hm, hc, hk, rfl⟩

end KuduRpc
