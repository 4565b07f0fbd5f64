import KuduRpc.Rpc

/-!
# Resolving host and port pairs

`resolve_hostports` (`dns.rs`) looks up each `(host, port)` pair, collects the addresses
of the lookups that succeed, sorts them with `sort_by(cmp_socket_addrs)` and drops
repeats with `dedup`.

`cmp_socket_addrs` puts IPv4 before IPv6 and orders each family by address, then port.
It ignores an IPv6 address's `flowinfo` and `scope_id`, which `==` compares, and `dedup`
drops only an address equal to the one kept just before it. The sort is stable, so two
copies of an IPv6 address with one between them that differs from them only in
`scope_id` keep their places, and both copies stay (`resolve_hostports_keeps_repeats`).

For every lookup the result is sorted, holds exactly the addresses the lookups
returned, and no two neighbours in it are equal. It has no repeats when no two different
addresses compare equal, as for IPv4 addresses alone.
-/

namespace KuduRpc.Dns

/-- `SocketAddrV4`: the address as the number its octets spell, big-endian, which is
the order `Ipv4Addr` compares by, and the port. -/
structure SocketAddrV4 where
  ip : UInt32
  port : UInt16
  deriving DecidableEq, Repr

/-- `SocketAddrV6`: the address as the number its segments spell, which is the order
`Ipv6Addr` compares by, the port, the flow information and the scope id. -/
structure SocketAddrV6 where
  ip : BitVec 128
  port : UInt16
  flowinfo : UInt32
  scopeId : UInt32
  deriving DecidableEq, Repr

/-- `SocketAddr`; `==` compares every field. -/
inductive SocketAddr
  | v4 (a : SocketAddrV4)
  | v6 (a : SocketAddrV6)
  deriving DecidableEq, Repr

/-- `cmp_socket_addrs`: within a family, the pairs `(ip, port)` compared
lexicographically. -/
def cmpSocketAddrs : SocketAddr → SocketAddr → Ordering
  | .v4 a, .v4 b => (compare a.ip.toNat b.ip.toNat).then (compare a.port.toNat b.port.toNat)
  | .v6 a, .v6 b => (compare a.ip.toNat b.ip.toNat).then (compare a.port.toNat b.port.toNat)
  | .v4 _, .v6 _ => .lt
  | .v6 _, .v4 _ => .gt

/-- `slice::sort_by(compare)`: a stable sort that keeps `a` before `b` unless
`compare(a, b)` is `Greater`. Core's merge sort is stable, and under a total preorder, as
here, a list has only one stable sort. -/
def sortBy {α : Type} (cmp : α → α → Ordering) (l : List α) : List α :=
  l.mergeSort fun a b => cmp a b != .gt

/-- The loop of `Vec::dedup` after the first element: an element equal to the last one
kept is dropped. -/
def dedupFrom {α : Type} [DecidableEq α] (last : α) : List α → List α
  | [] => []
  | b :: l => if b = last then dedupFrom last l else b :: dedupFrom b l

/-- `Vec::dedup`. -/
def dedup {α : Type} [DecidableEq α] : List α → List α
  | [] => []
  | a :: l => a :: dedupFrom a l

/-- The loop of `resolve_hostports`: `resolve` stands for `to_socket_addrs()` on a
`(host, port)` pair, a DNS lookup; a failed lookup is logged and skipped. -/
def resolvedAddrs (resolve : String × UInt16 → Except IoError (List SocketAddr)) :
    List (String × UInt16) → List SocketAddr → List SocketAddr
  | [], addrs => addrs
  | hp :: hps, addrs =>
    match resolve hp with
    | .ok rs => resolvedAddrs resolve hps (addrs ++ rs)
    | .error _ => resolvedAddrs resolve hps addrs

/-- `resolve_hostports`. -/
def resolveHostports (resolve : String × UInt16 → Except IoError (List SocketAddr))
    (hostports : List (String × UInt16)) : List SocketAddr :=
  dedup (sortBy cmpSocketAddrs (resolvedAddrs resolve hostports []))

/-! ## The order -/

/-- Where an address stands in the order of `cmp_socket_addrs`. -/
def SocketAddr.key : SocketAddr → Nat
  | .v4 a => a.ip.toNat * 2 ^ 16 + a.port.toNat
  | .v6 a => 2 ^ 144 + a.ip.toNat * 2 ^ 16 + a.port.toNat

/-- Comparing two pairs lexicographically is comparing the numbers whose high and low
parts they are. -/
theorem compare_then_compare {x x' y y' : Nat} (hy : y < 2 ^ 16) (hy' : y' < 2 ^ 16) :
    (compare x x').then (compare y y') = compare (x * 2 ^ 16 + y) (x' * 2 ^ 16 + y') := by
  simp only [compare, compareOfLessAndEq]
  split_ifs <;> first | rfl | omega

theorem compare_add_left_eq (k x y : Nat) : compare (k + x) (k + y) = compare x y := by
  simp only [compare, compareOfLessAndEq]
  split_ifs <;> first | rfl | omega

theorem cmpSocketAddrs_eq (a b : SocketAddr) : cmpSocketAddrs a b = compare a.key b.key := by
  have h4 (x : UInt32) : x.toNat < 2 ^ 32 := x.val.isLt
  have hp (x : UInt16) : x.toNat < 2 ^ 16 := x.val.isLt
  cases a with
  | v4 a =>
    cases b with
    | v4 b => exact compare_then_compare (hp a.port) (hp b.port)
    | v6 b =>
      have := h4 a.ip; have := hp a.port
      exact (Nat.compare_eq_lt.2 (by simp only [SocketAddr.key]; omega)).symm
  | v6 a =>
    cases b with
    | v4 b =>
      have := h4 b.ip; have := hp b.port
      exact (Nat.compare_eq_gt.2 (by simp only [SocketAddr.key]; omega)).symm
    | v6 b =>
      simp only [cmpSocketAddrs, SocketAddr.key, Nat.add_assoc, compare_add_left_eq]
      exact compare_then_compare (hp a.port) (hp b.port)

theorem cmpSocketAddrs_ne_gt {a b : SocketAddr} :
    cmpSocketAddrs a b ≠ .gt ↔ a.key ≤ b.key := by
  rw [cmpSocketAddrs_eq, Ne, Nat.compare_eq_gt, Nat.not_lt]

theorem cmpSocketAddrs_eq_eq {a b : SocketAddr} : cmpSocketAddrs a b = .eq ↔ a.key = b.key := by
  rw [cmpSocketAddrs_eq, Nat.compare_eq_eq]

/-! ## Sorting -/

theorem bne_gt_iff {o : Ordering} : (o != .gt) = true ↔ o ≠ .gt := by
  cases o <;> decide

theorem sortBy_perm {α : Type} (cmp : α → α → Ordering) (l : List α) : (sortBy cmp l).Perm l :=
  List.mergeSort_perm l _

/-- A list already sorted is left as it is. -/
theorem sortBy_of_sorted {α : Type} {cmp : α → α → Ordering} {l : List α}
    (h : l.Pairwise fun a b => cmp a b ≠ .gt) : sortBy cmp l = l :=
  List.mergeSort_of_sorted (h.imp bne_gt_iff.2)

theorem sortBy_sorted (l : List SocketAddr) :
    (sortBy cmpSocketAddrs l).Pairwise fun a b => cmpSocketAddrs a b ≠ .gt := by
  have h := @List.sorted_mergeSort _ (fun a b => cmpSocketAddrs a b != .gt)
    (fun a b c hab hbc => by
      simp only [bne_gt_iff, cmpSocketAddrs_ne_gt] at *; omega)
    (fun a b => by simp only [Bool.or_eq_true, bne_gt_iff, cmpSocketAddrs_ne_gt]; omega) l
  exact h.imp bne_gt_iff.1

/-! ## Dropping repeats -/

section Dedup

variable {α : Type}

/-- A sorted list with no two equal neighbours has no repeats, when two of its elements
each sorted before the other are equal. -/
theorem nodup_of_sorted {R : α → α → Prop} :
    ∀ {l : List α}, l.Pairwise R → l.Chain' (· ≠ ·) →
      (∀ a ∈ l, ∀ b ∈ l, R a b → R b a → a = b) → l.Nodup
  | [], _, _, _ => List.nodup_nil
  | [_], _, _, _ => List.nodup_singleton _
  | a :: c :: l, hs, hc, ha => by
    have hac : a ≠ c := (List.chain'_cons.1 hc).1
    refine List.nodup_cons.2 ⟨fun hm => ?_,
      nodup_of_sorted hs.of_cons hc.tail fun x hx y hy => ha x (.tail _ hx) y (.tail _ hy)⟩
    rcases List.mem_cons.1 hm with h | h
    · exact hac h
    · exact hac (ha a (.head _) c (.tail _ (.head _))
        (List.rel_of_pairwise_cons hs (.head _)) (List.rel_of_pairwise_cons hs.of_cons h))

variable [DecidableEq α]

theorem dedupFrom_sublist (last : α) (l : List α) : (dedupFrom last l).Sublist l := by
  induction l generalizing last with
  | nil => exact .slnil
  | cons b l ih =>
    simp only [dedupFrom]
    split
    · exact (ih last).cons b
    · exact (ih b).cons₂ b

theorem dedup_sublist (l : List α) : (dedup l).Sublist l := by
  cases l with
  | nil => exact .slnil
  | cons a l => exact (dedupFrom_sublist a l).cons₂ a

theorem mem_cons_dedupFrom (last a : α) (l : List α) :
    a ∈ last :: dedupFrom last l ↔ a ∈ last :: l := by
  induction l generalizing last with
  | nil => rfl
  | cons b l ih =>
    simp only [dedupFrom]
    split
    · next h => rw [ih, h]; simp
    · have := ih b
      simp only [List.mem_cons] at this ⊢
      rw [this]

theorem mem_dedup {a : α} {l : List α} : a ∈ dedup l ↔ a ∈ l := by
  cases l with
  | nil => rfl
  | cons b l => exact mem_cons_dedupFrom b a l

theorem chain_dedupFrom (last : α) (l : List α) : (dedupFrom last l).Chain (· ≠ ·) last := by
  induction l generalizing last with
  | nil => exact .nil
  | cons b l ih =>
    simp only [dedupFrom]
    split
    · exact ih last
    · next h => exact .cons (Ne.symm h) (ih b)

/-- No two neighbours of `dedup l` are equal. -/
theorem chain_dedup (l : List α) : (dedup l).Chain' (· ≠ ·) := by
  cases l with
  | nil => trivial
  | cons a l => exact chain_dedupFrom a l

end Dedup

/-! ## `resolve_hostports` -/

/-- The link-local address `fe80::1`, port 7051, in scope `scope`. -/
def linkLocal (scope : UInt32) : SocketAddr :=
  .v6 ⟨BitVec.ofNat 128 0xfe800000000000000000000000000001, 7051, 0, scope⟩

/-- A lookup under which `fe80::1%1` resolves to `linkLocal 1` and any other host to
`linkLocal 2`. -/
def scopedLookup (hp : String × UInt16) : Except IoError (List SocketAddr) :=
  .ok [linkLocal (if hp.1 = "fe80::1%1" then 1 else 2)]

/-- Scope 1, scope 2, scope 1 again. -/
def scopedHostports : List (String × UInt16) :=
  [("fe80::1%1", 7051), ("fe80::1%2", 7051), ("fe80::1%1", 7051)]

/-- For every lookup, `resolve_hostports` returns the addresses the lookups gave, sorted
by `cmp_socket_addrs`, with no two equal neighbours, and with no repeats when no two
different addresses compare equal. Copies of `fe80::1` in scope 1 around one in scope 2
all compare equal, so the stable sort leaves them in place and `dedup` keeps both
copies. -/
theorem resolve_hostports_keeps_repeats :
    (∀ (resolve : String × UInt16 → Except IoError (List SocketAddr))
        (hostports : List (String × UInt16)),
      (resolveHostports resolve hostports).Pairwise (fun a b => cmpSocketAddrs a b ≠ .gt) ∧
      (∀ a, a ∈ resolveHostports resolve hostports ↔ a ∈ resolvedAddrs resolve hostports []) ∧
      (resolveHostports resolve hostports).Chain' (· ≠ ·) ∧
      ((∀ a ∈ resolvedAddrs resolve hostports [], ∀ b ∈ resolvedAddrs resolve hostports [],
          cmpSocketAddrs a b = .eq → a = b) → (resolveHostports resolve hostports).Nodup)) ∧
    resolveHostports scopedLookup scopedHostports = [linkLocal 1, linkLocal 2, linkLocal 1] := by
  refine ⟨fun resolve hostports => ?_, ?_⟩
  · have hmem : ∀ a, a ∈ resolveHostports resolve hostports ↔ a ∈ resolvedAddrs resolve hostports [] :=
      fun a => mem_dedup.trans (sortBy_perm _ _).mem_iff
    have hs := (sortBy_sorted (resolvedAddrs resolve hostports [])).sublist (dedup_sublist _)
    refine ⟨hs, hmem, chain_dedup _, fun ha => nodup_of_sorted hs (chain_dedup _) ?_⟩
    intro a hma b hmb hab hba
    rw [cmpSocketAddrs_ne_gt] at hab hba
    exact ha a ((hmem a).1 hma) b ((hmem b).1 hmb) (cmpSocketAddrs_eq_eq.2 (by omega))
  · rw [resolveHostports, show resolvedAddrs scopedLookup scopedHostports [] =
      [linkLocal 1, linkLocal 2, linkLocal 1] by decide, sortBy_of_sorted (by decide)]
    decide

/-- A lookup that returns `10.0.0.1:7051` for every host. -/
def ipv4Lookup (_ : String × UInt16) : Except IoError (List SocketAddr) :=
  .ok [.v4 ⟨0x0a000001, 7051⟩]

/-- The same IPv4 address from two lookups is returned once. -/
theorem resolve_hostports_keeps_repeats_at :
    (resolveHostports ipv4Lookup [("master", 7051), ("master", 7051)]).Nodup :=
  (resolve_hostports_keeps_repeats.1 ipv4Lookup [("master", 7051), ("master", 7051)]).2.2.2
    (by decide)

end KuduRpc.Dns
