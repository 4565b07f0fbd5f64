import KuduRpc.Connection.Reset

/-!
# Calls to the master

`rpc/master.rs` defines one function per method of `kudu.master.MasterService`, all by
the `rpc!` macro: each builds an `Rpc` for the method, with no required feature flags, a
new response message, no cancellation signal, and `fail_fast: true` (`masterRpc`). The
destination address, the sidecars and the callback are fields the connection does not
read, and are left out.

Every master call is fail-fast, and stays so whatever the connection does to it (a failed
read merges fields into its response slot, its cancellation signal fires), so a reset
never keeps one for a retry:

* `reset_fails_master_calls`: when every call in a connection's queues was built by
  `master.rs`, `reset` leaves `send_queue` empty, drops the cancelled calls with no
  signal, and fails each of the others exactly once, in the order it drains them: with
  `TimedOut` if its deadline has passed, else with the error of the reset.
-/

namespace KuduRpc.Master

open Wire

/-- `SERVICE_NAME`. -/
def serviceName : String := "kudu.master.MasterService"

/-- The function `rpc!($fn_name, $rpc_name, ..)` defines, for the method `$rpc_name`:
`cancel: None` is a signal that never fires, and `$response_type::new()` a message with
no field set. -/
def masterRpc (methodName : String) (deadline : Nat) (request : Message) : Rpc where
  serviceName := serviceName
  methodName := methodName
  deadline := deadline
  requiredFeatureFlags := []
  request := request
  response := []
  failFast := true
  cancel := false

/-- `ping`. -/
def ping (deadline : Nat) (request : Message) : Rpc := masterRpc "Ping" deadline request

/-- `get_tablet_locations`. -/
def getTabletLocations (deadline : Nat) (request : Message) : Rpc :=
  masterRpc "GetTabletLocations" deadline request

/-- `create_table`. -/
def createTable (deadline : Nat) (request : Message) : Rpc := masterRpc "CreateTable" deadline request

/-- `is_create_table_done`. -/
def isCreateTableDone (deadline : Nat) (request : Message) : Rpc :=
  masterRpc "IsCreateTableDone" deadline request

/-- `delete_table`. -/
def deleteTable (deadline : Nat) (request : Message) : Rpc := masterRpc "DeleteTable" deadline request

/-- `alter_table`. -/
def alterTable (deadline : Nat) (request : Message) : Rpc := masterRpc "AlterTable" deadline request

/-- `is_alter_table_done`. -/
def isAlterTableDone (deadline : Nat) (request : Message) : Rpc :=
  masterRpc "IsAlterTableDone" deadline request

/-- `list_tables`. -/
def listTables (deadline : Nat) (request : Message) : Rpc := masterRpc "ListTables" deadline request

/-- `get_table_locations`. -/
def getTableLocations (deadline : Nat) (request : Message) : Rpc :=
  masterRpc "GetTableLocations" deadline request

/-- `get_table_schema`. -/
def getTableSchema (deadline : Nat) (request : Message) : Rpc :=
  masterRpc "GetTableSchema" deadline request

/-- `list_tablet_servers`. -/
def listTabletServers (deadline : Nat) (request : Message) : Rpc :=
  masterRpc "ListTabletServers" deadline request

/-- `list_masters`. -/
def listMasters (deadline : Nat) (request : Message) : Rpc := masterRpc "ListMasters" deadline request

/-- `get_master_registration`. -/
def getMasterRegistration (deadline : Nat) (request : Message) : Rpc :=
  masterRpc "GetMasterRegistration" deadline request

/-- A call built by one of the functions of `master.rs`, as the connection may have
changed it since: fields merged into its response slot, its cancellation signal fired. -/
def IsMasterCall (r : Rpc) : Prop :=
  ∃ methodName deadline request,
    { r with response := [], cancel := false } = masterRpc methodName deadline request

/-- Every master call is fail-fast. -/
theorem IsMasterCall.failFast {r : Rpc} (h : IsMasterCall r) : r.failFast = true := by
  obtain ⟨m, d, q, hq⟩ := h
  exact congrArg Rpc.failFast hq

/-- What `reset` does with fail-fast calls: it drops the cancelled ones and fails the
others, in order. -/
theorem filterMap_resetSignal (error : Error) (now : Nat) :
    ∀ es : List (Nat × Rpc), (∀ p ∈ es, p.2.failFast = true) →
      es.filterMap (resetSignal error now ·.2) =
        (es.filter (!·.2.cancelled)).map fun p => .fail p.2 (if p.2.timedOut now then .timedOut else error)
  | [], _ => rfl
  | (callId, rpc) :: es, h => by
    have ih := filterMap_resetSignal error now es fun p hp => h p (List.mem_cons_of_mem _ hp)
    have hf : rpc.failFast = true := h _ (List.mem_cons_self _ _)
    rw [List.filterMap_cons, List.filter_cons, ih]
    cases hc : rpc.cancelled <;> cases ht : rpc.timedOut now <;> simp [resetSignal, hf, hc, ht]

/-- **No master call survives a reset.** For every connection whose queued and in-flight
calls were all built by `master.rs`, every error and every instant, `reset` leaves
`send_queue` empty, drops the cancelled calls with no signal, and fails each of the
others exactly once, in the order it drains them: with `TimedOut` when its deadline has
passed, else with the error of the reset. -/
theorem reset_fails_master_calls (c : Connection) (error : Error) (now jitter : Nat)
    (hm : ∀ p ∈ c.drained, IsMasterCall p.2) :
    (c.reset error now jitter).sendQueue = .empty ∧
      (c.reset error now jitter).signals = c.signals ++
        (c.drained.filter (!·.2.cancelled)).map fun p =>
          .fail p.2 (if p.2.timedOut now then .timedOut else error) := by
  have hf : ∀ p ∈ c.drained, p.2.failFast = true := fun p hp => (hm p hp).failFast
  have hret : c.drained.filter (Rpc.retained now ·.2) = [] :=
    List.filter_eq_nil_iff.2 fun p hp => by simp [Rpc.retained, hf p hp]
  simp only [Connection.reset, resetDrain_eq]
  exact ⟨by rw [← Connection.drained, hret]; rfl,
    by rw [← Connection.drained, filterMap_resetSignal error now _ hf]⟩

/-- In flight, a `ListTables` call whose response slot a failed read has merged a field
into; queued, a ping and a ping whose cancellation signal has fired; all due at 10. -/
def masterQueue : Connection :=
  { Connection.new .default .pending with
    state := .connected ⟨[], false, [], [], none⟩
    recvQueue := ⟨[(0, { listTables 10 [] with response := [⟨1, .varint 5⟩] })], by decide⟩
    sendQueue := ⟨[(1, ping 10 []), (2, { ping 10 [] with cancel := true })], by decide⟩ }

/-- A reset at 5 fails the two calls not cancelled with its error, drops the cancelled
one, and keeps none. -/
theorem reset_fails_master_calls_queued :
    (∀ p ∈ masterQueue.drained, IsMasterCall p.2) ∧
      (masterQueue.reset .connectionError 5 0).sendQueue = .empty ∧
      (masterQueue.reset .connectionError 5 0).signals =
        [.fail { listTables 10 [] with response := [⟨1, .varint 5⟩] } .connectionError,
          .fail (ping 10 []) .connectionError] := by
  have hm : ∀ p ∈ masterQueue.drained, IsMasterCall p.2 := by
    intro p hp
    change p ∈ [(0, _), (1, _), (2, _)] at hp
    simp only [List.mem_cons, List.mem_singleton, List.not_mem_nil, or_false] at hp
    rcases hp with rfl | rfl | rfl <;> exact ⟨_, _, _, rfl⟩
  have h := reset_fails_master_calls masterQueue .connectionError 5 0 hm
  exact ⟨hm, h.1, h.2.trans rfl⟩

end KuduRpc.Master
