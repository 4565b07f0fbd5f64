import KuduRpc.Rpc

/-!
# The call queues

`send_queue` is a `QueueMap<Rpc>` and `recv_queue` a `HashMap<usize, Rpc>`. Both map call
ids to calls, each id at most once. `queue_map.rs` is not part of the source: `CallMap`
follows §4.3, an insertion-ordered map with `insert`, `remove`, `pop` (oldest first),
`drain` and `len`. For `recv_queue` the order of `entries` is the order in which
`HashMap::drain` visits the entries, which `HashMap` leaves unspecified; no other
operation of the connection observes it.

The map carries its own well-formedness: a `CallMap` whose ids repeat cannot be built.
-/

namespace KuduRpc

/-- Modelled from the spec: `QueueMap` (§4.3), calls keyed by call id, in order. -/
@[ext] structure CallMap where
  entries : List (Nat × Rpc)
  nodup : (entries.map Prod.fst).Nodup

namespace CallMap

instance : DecidableEq CallMap := fun _ _ => decidable_of_iff _ CallMap.ext_iff.symm

/-- The call ids, in order. -/
def keys (q : CallMap) : List Nat := q.entries.map Prod.fst

/-- `len()`. -/
def len (q : CallMap) : Nat := q.entries.length

/-- `QueueMap::new()`, `HashMap::new()`. -/
def empty : CallMap := ⟨[], List.nodup_nil⟩

/-- `get(&id)`. -/
def get? (q : CallMap) (id : Nat) : Option Rpc := q.entries.lookup id

/-- `pop()`: the oldest entry, and the map without it. -/
def pop (q : CallMap) : Option ((Nat × Rpc) × CallMap) :=
  match q with
  | ⟨[], _⟩ => none
  | ⟨e :: es, h⟩ => some (e, ⟨es, (List.nodup_cons.mp h).2⟩)

theorem nodup_filter (q : CallMap) (p : Nat × Rpc → Bool) :
    ((q.entries.filter p).map Prod.fst).Nodup :=
  q.nodup.sublist ((List.filter_sublist _).map _)

/-- `remove(&id)`: the call under `id`, if any, and the map without it. -/
def remove (q : CallMap) (id : Nat) : Option Rpc × CallMap :=
  (q.get? id, ⟨q.entries.filter (fun e => e.1 != id), q.nodup_filter _⟩)

theorem map_fst_modify (q : CallMap) (id : Nat) (f : Rpc → Rpc) :
    (q.entries.map fun e => if e.1 = id then (e.1, f e.2) else e).map Prod.fst = q.keys := by
  simp only [List.map_map, keys]
  congr 1
  funext e
  simp only [Function.comp_apply]
  split <;> rfl

/-- The call under `id` changed in place by `f` (`get_mut`). -/
def modify (q : CallMap) (id : Nat) (f : Rpc → Rpc) : CallMap :=
  ⟨q.entries.map fun e => if e.1 = id then (e.1, f e.2) else e,
    (q.map_fst_modify id f).symm ▸ q.nodup⟩

theorem nodup_snoc (q : CallMap) {id : Nat} (h : id ∉ q.keys) (rpc : Rpc) :
    ((q.entries ++ [(id, rpc)]).map Prod.fst).Nodup := by
  rw [List.map_append, List.nodup_append]
  exact ⟨q.nodup, by simp, by simpa [keys] using h⟩

/-- `insert(id, rpc)`: a new id goes last; an id already present has its call replaced
in place. -/
def insert (q : CallMap) (id : Nat) (rpc : Rpc) : CallMap :=
  if h : id ∈ q.keys then q.modify id (fun _ => rpc) else ⟨q.entries ++ [(id, rpc)], q.nodup_snoc h rpc⟩

/-- `drain()`: the entries, in order; the map is empty afterwards. -/
def drain (q : CallMap) : List (Nat × Rpc) := q.entries

@[simp] theorem empty_entries : empty.entries = [] := rfl

@[simp] theorem empty_keys : empty.keys = [] := rfl

@[simp] theorem len_eq (q : CallMap) : q.len = q.keys.length := by simp [len, keys]

theorem keys_nodup (q : CallMap) : q.keys.Nodup := q.nodup

@[simp] theorem keys_modify (q : CallMap) (id : Nat) (f : Rpc → Rpc) :
    (q.modify id f).keys = q.keys := q.map_fst_modify id f

theorem keys_insert_of_not_mem {q : CallMap} {id : Nat} (h : id ∉ q.keys) (rpc : Rpc) :
    (q.insert id rpc).keys = q.keys ++ [id] := by
  rw [insert, dif_neg h]
  simp [keys]

theorem entries_insert_of_not_mem {q : CallMap} {id : Nat} (h : id ∉ q.keys) (rpc : Rpc) :
    (q.insert id rpc).entries = q.entries ++ [(id, rpc)] := by
  rw [insert, dif_neg h]

theorem mem_insert {q : CallMap} {id : Nat} {rpc : Rpc} {e : Nat × Rpc}
    (h : e ∈ (q.insert id rpc).entries) : e = (id, rpc) ∨ e ∈ q.entries := by
  unfold insert at h
  split at h
  · obtain ⟨e0, he0, rfl⟩ := List.mem_map.1 h
    split
    · exact .inl (by simp_all)
    · exact .inr he0
  · rcases List.mem_append.1 h with h | h
    · exact .inr h
    · exact .inl (List.mem_singleton.1 h)

theorem get?_modify (q : CallMap) (id : Nat) (f : Rpc → Rpc) :
    (q.modify id f).get? id = (q.get? id).map f := by
  simp only [get?, modify]
  generalize q.entries = es
  induction es with
  | nil => rfl
  | cons e es ih =>
    obtain ⟨k, r⟩ := e
    by_cases hk : k = id
    · subst hk; simp
    · show List.lookup id ((if k = id then (k, f r) else (k, r)) :: _) = _
      rw [if_neg hk]
      simp only [List.lookup, beq_eq_false_iff_ne.2 (Ne.symm hk), ih]

theorem mem_of_get? {q : CallMap} {id : Nat} {r : Rpc} (h : q.get? id = some r) :
    (id, r) ∈ q.entries := by
  simp only [get?] at h
  generalize q.entries = es at h ⊢
  induction es with
  | nil => cases h
  | cons e es ih =>
    obtain ⟨k, r'⟩ := e
    by_cases hk : id = k
    · subst hk
      simp only [List.lookup, beq_self_eq_true, Option.some.injEq] at h
      exact h ▸ List.mem_cons_self _ _
    · simp only [List.lookup, beq_eq_false_iff_ne.2 hk] at h
      exact List.mem_cons_of_mem _ (ih h)

theorem keys_remove (q : CallMap) (id : Nat) : (q.remove id).2.keys = q.keys.erase id := by
  rw [q.keys_nodup.erase_eq_filter]
  simp [remove, keys, List.filter_map, Function.comp_def]

theorem mem_keys_remove {q : CallMap} {id k : Nat} :
    k ∈ (q.remove id).2.keys ↔ k ≠ id ∧ k ∈ q.keys := by
  rw [keys_remove, (q.keys_nodup).mem_erase_iff]

theorem remove_fst (q : CallMap) (id : Nat) : (q.remove id).1 = q.get? id := rfl

theorem get?_eq_none {q : CallMap} {id : Nat} : q.get? id = none ↔ id ∉ q.keys := by
  simp only [get?, keys]
  generalize q.entries = es
  induction es with
  | nil => simp
  | cons e es ih =>
    obtain ⟨k, r⟩ := e
    by_cases hk : id = k
    · subst hk; simp [List.lookup]
    · simp [List.lookup, beq_eq_false_iff_ne.2 hk, ih, hk]

/-- Removing a call leaves the others where they are. -/
theorem get?_remove (q : CallMap) (id k : Nat) :
    (q.remove id).2.get? k = if k = id then none else q.get? k := by
  split
  · next hk => exact get?_eq_none.2 (by rw [mem_keys_remove]; exact fun h => h.1 hk)
  · next hk =>
    show (q.entries.filter _).lookup k = q.entries.lookup k
    generalize q.entries = es
    induction es with
    | nil => rfl
    | cons e es ih =>
      obtain ⟨j, r⟩ := e
      by_cases hj : j = id
      · subst hj
        simp only [List.filter_cons, bne_self_eq_false, Bool.false_eq_true, if_false, ih,
          List.lookup, beq_eq_false_iff_ne.2 hk]
      · simp only [List.filter_cons, bne_iff_ne.2 hj, if_true, List.lookup, ih]

theorem remove_of_not_mem {q : CallMap} {id : Nat} (h : id ∉ q.keys) : (q.remove id).2 = q := by
  apply CallMap.ext
  show q.entries.filter _ = q.entries
  rw [List.filter_eq_self]
  intro e he
  have : e.1 ≠ id := fun h' => h (h' ▸ List.mem_map_of_mem _ he)
  simpa using this

/-- Removing a call forgets what was done to it in place. -/
theorem remove_modify (q : CallMap) (id : Nat) (f : Rpc → Rpc) :
    ((q.modify id f).remove id).2 = (q.remove id).2 := by
  apply CallMap.ext
  show List.filter _ (List.map _ q.entries) = List.filter _ q.entries
  generalize q.entries = es
  induction es with
  | nil => rfl
  | cons e es ih => by_cases he : e.1 = id <;> simp [he, ih]

theorem pop_eq_some {q : CallMap} {e : Nat × Rpc} {q' : CallMap} (h : q.pop = some (e, q')) :
    q.entries = e :: q'.entries := by
  match q, h with
  | ⟨e :: es, _⟩, h =>
    simp only [pop, Option.some.injEq, Prod.mk.injEq] at h
    obtain ⟨rfl, rfl⟩ := h
    rfl

theorem pop_of_entries {q : CallMap} {e : Nat × Rpc} {es : List (Nat × Rpc)}
    (h : q.entries = e :: es) : ∃ q', q.pop = some (e, q') ∧ q'.entries = es := by
  match q, h with
  | ⟨_ :: _, _⟩, rfl => exact ⟨_, rfl, rfl⟩

theorem pop_eq_none {q : CallMap} : q.pop = none ↔ q.entries = [] := by
  match q with
  | ⟨[], _⟩ => simp [pop]
  | ⟨_ :: _, _⟩ => simp [pop]

theorem keys_pop {q : CallMap} {e : Nat × Rpc} {q' : CallMap} (h : q.pop = some (e, q')) :
    q.keys = e.1 :: q'.keys := by
  simp [keys, pop_eq_some h]

/-! ### Lengths -/

theorem len_insert_le (q : CallMap) (id : Nat) (rpc : Rpc) : (q.insert id rpc).len ≤ q.len + 1 := by
  unfold insert
  split
  · simp
  · simp [len]

theorem len_remove_le (q : CallMap) (id : Nat) : (q.remove id).2.len ≤ q.len := by
  simpa only [len_eq, keys_remove] using List.length_erase_le _ _

@[simp] theorem len_modify (q : CallMap) (id : Nat) (f : Rpc → Rpc) : (q.modify id f).len = q.len := by
  simp

end CallMap

end KuduRpc
