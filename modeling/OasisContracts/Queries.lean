import OasisContracts.History

/-!
# Queries

`dispatch_query` and the five query handlers of `contracts/src/lib.rs`: `contracts.Code` and
`contracts.Instance` load what the transactions stored, and `contracts.InstanceStorage`,
`contracts.PublicKey` and `contracts.Custom` are unsupported. A query runs in a context whose view
is the committed state.

* `QueryValue` stands for the `cbor::Value`s the queries decode and encode.
* `dispatchQuery_code`, `dispatchQuery_instance`: what the two supported queries answer, in the
  context they ran in.
* `Registry.Dense`: every identifier below a counter is in use. Every registry step keeps it, so
  every reachable state has it (`reachable_counters_dense`): the counters never skip an
  identifier, and the queries answer for every identifier below them.
* `upload_then_query_code`: after a committed upload, the code query for the identifier it returned
  answers the digest of the validated code, the ABI and the instantiation policy, and the code
  stored is the validated code.
* `instantiate_then_query_instance`: after a committed instantiation from a reachable state, the
  instance query for the identifier it returned answers the instance it created, with the
  transaction's signer as creator, as long as the instance counter has not wrapped, whatever the
  sub-calls the instantiation ran.
-/

namespace OasisContracts

open Exec

/-! ## The query types -/

/-- `types::CodeQuery`. -/
structure CodeQuery where
  id : CodeId
  deriving DecidableEq, Repr

/-- `types::InstanceQuery`. -/
structure InstanceQuery where
  id : InstanceId
  deriving DecidableEq, Repr

/-- `types::InstanceStorageQuery`. -/
structure InstanceStorageQuery where
  id : InstanceId
  key : Bytes
  deriving DecidableEq, Repr

/-- `types::InstanceStorageQueryResult`. -/
structure InstanceStorageQueryResult where
  value : Option Bytes
  deriving DecidableEq, Repr

/-- `types::PublicKeyKind`. -/
inductive PublicKeyKind
  | transaction
  deriving DecidableEq, Repr

/-- `types::PublicKeyQuery`. -/
structure PublicKeyQuery where
  id : InstanceId
  kind : PublicKeyKind
  deriving DecidableEq, Repr

/-- `types::PublicKeyQueryResult`. -/
structure PublicKeyQueryResult where
  key : Bytes
  checksum : Bytes
  signature : Bytes
  deriving DecidableEq, Repr

/-- `types::CustomQuery`. -/
structure CustomQuery where
  id : InstanceId
  method : String
  data : Bytes
  deriving DecidableEq, Repr

/-- `types::CustomQueryResult`. -/
structure CustomQueryResult where
  data : Bytes
  deriving DecidableEq, Repr

/-- `cbor::Value` on the query side: one constructor per type the queries decode or encode, and
`QueryValue.other` for everything else. -/
inductive QueryValue
  | codeQuery (args : CodeQuery)
  | instanceQuery (args : InstanceQuery)
  | instanceStorageQuery (args : InstanceStorageQuery)
  | publicKeyQuery (args : PublicKeyQuery)
  | customQuery (args : CustomQuery)
  | code (info : Code)
  | instanceInfo (info : Instance)
  | instanceStorageQueryResult (result : InstanceStorageQueryResult)
  | publicKeyQueryResult (result : PublicKeyQueryResult)
  | customQueryResult (result : CustomQueryResult)
  | other (bytes : Bytes)
  deriving DecidableEq, Repr

namespace QueryValue

/-- `cbor::from_value::<CodeQuery>`. -/
def toCodeQuery? : QueryValue → Option CodeQuery
  | codeQuery args => some args
  | _ => none

/-- `cbor::from_value::<InstanceQuery>`. -/
def toInstanceQuery? : QueryValue → Option InstanceQuery
  | instanceQuery args => some args
  | _ => none

/-- `cbor::from_value::<InstanceStorageQuery>`. -/
def toInstanceStorageQuery? : QueryValue → Option InstanceStorageQuery
  | instanceStorageQuery args => some args
  | _ => none

/-- `cbor::from_value::<PublicKeyQuery>`. -/
def toPublicKeyQuery? : QueryValue → Option PublicKeyQuery
  | publicKeyQuery args => some args
  | _ => none

/-- `cbor::from_value::<CustomQuery>`. -/
def toCustomQuery? : QueryValue → Option CustomQuery
  | customQuery args => some args
  | _ => none

end QueryValue

/-- `module::DispatchResult` of a query: its result or error, or the arguments back when the
method is not the module's. -/
inductive QueryDispatchResult
  | handled (result : Except Error QueryValue)
  | unhandled (args : QueryValue)

/-! ## The handlers -/

/-- `query_code`. -/
def queryCode (args : CodeQuery) : Exec Code := loadCodeInfo args.id

/-- `query_instance`. -/
def queryInstance (args : InstanceQuery) : Exec Instance := loadInstanceInfo args.id

/-- `query_instance_storage`: unsupported. -/
def queryInstanceStorage (_args : InstanceStorageQuery) : Exec InstanceStorageQueryResult :=
  throw .unsupported

/-- `query_public_key`: unsupported. -/
def queryPublicKey (_args : PublicKeyQuery) : Exec PublicKeyQueryResult := throw .unsupported

/-- `query_custom`: unsupported. -/
def queryCustom (_args : CustomQuery) : Exec CustomQueryResult := throw .unsupported

/-- One arm of `MethodHandler::dispatch_query`: decode the arguments (`InvalidArgument` when they
do not decode), run the handler and encode its result, or report its error. -/
def handleQuery {α β : Type} (args : QueryValue) (decode : QueryValue → Option α)
    (handler : α → Exec β) (encode : β → QueryValue) : Exec QueryDispatchResult := do
  let result ← catchResult do
    let some args := decode args | throw .invalidArgument
    return encode (← handler args)
  return .handled result

/-- `MethodHandler::dispatch_query`. -/
def dispatchQuery (method : String) (args : QueryValue) : Exec QueryDispatchResult :=
  match method with
  | "contracts.Code" => handleQuery args QueryValue.toCodeQuery? queryCode .code
  | "contracts.Instance" =>
    handleQuery args QueryValue.toInstanceQuery? queryInstance .instanceInfo
  | "contracts.InstanceStorage" =>
    handleQuery args QueryValue.toInstanceStorageQuery? queryInstanceStorage
      .instanceStorageQueryResult
  | "contracts.PublicKey" =>
    handleQuery args QueryValue.toPublicKeyQuery? queryPublicKey .publicKeyQueryResult
  | "contracts.Custom" =>
    handleQuery args QueryValue.toCustomQuery? queryCustom .customQueryResult
  | _ => pure (.unhandled args)

/-- The code query answers the code information stored under the identifier, or
`CodeNotFound`; the context is as it was. -/
theorem dispatchQuery_code (id : CodeId) (c : TxCtx) :
    dispatchQuery "contracts.Code" (.codeQuery ⟨id⟩) c =
      some (c, .ok (.handled (match c.view.codeInfo id with
        | some info => .ok (.code info)
        | none => .error .codeNotFound))) := by
  simp only [dispatchQuery, handleQuery, queryCode, loadCodeInfo, bind_apply, Exec.catchResult,
    QueryValue.toCodeQuery?, loadFrom_apply]
  cases c.view.codeInfo id <;> rfl

/-- The instance query answers the instance information stored under the identifier, or
`InstanceNotFound`; the context is as it was. -/
theorem dispatchQuery_instance (id : InstanceId) (c : TxCtx) :
    dispatchQuery "contracts.Instance" (.instanceQuery ⟨id⟩) c =
      some (c, .ok (.handled (match c.view.instanceInfo id with
        | some info => .ok (.instanceInfo info)
        | none => .error .instanceNotFound))) := by
  simp only [dispatchQuery, handleQuery, queryInstance, loadInstanceInfo, bind_apply,
    Exec.catchResult, QueryValue.toInstanceQuery?, loadFrom_apply]
  cases c.view.instanceInfo id <;> rfl

/-! ## The counters never skip an identifier -/

namespace Registry

/-- Every identifier below a counter is in use: a code identifier has its code information and
its code, an instance identifier its instance information. -/
structure Dense (r : Registry) : Prop where
  codes : ∀ id : CodeId, id.toU64.val < r.nextCode.toU64.val →
    (r.codeInfo id).isSome ∧ (r.code id).isSome
  instances : ∀ id : InstanceId, id.toU64.val < r.nextInstance.toU64.val →
    (r.instanceInfo id).isSome

variable {H : Host} {r r' : Registry}

theorem dense_genesis : Dense State.genesis.registry :=
  ⟨fun _ h => absurd h (Nat.not_lt_zero _), fun _ h => absurd h (Nat.not_lt_zero _)⟩

/-- Past an increment, an identifier is the old counter or below it, unless the counter wrapped,
and then nothing is below it. -/
theorem lt_or_eq_of_lt_succ_mod {i k : ℕ} (hk : k < 2 ^ 64) (h : i < (k + 1) % 2 ^ 64) :
    i < k ∨ i = k := by
  rcases Nat.lt_or_ge (k + 1) (2 ^ 64) with hlt | hge
  · rw [Nat.mod_eq_of_lt hlt] at h; omega
  · rw [show k + 1 = 2 ^ 64 by omega, Nat.mod_self] at h; omega

theorem Dense.upload (hd : Dense r) (hash : Hash) (abi : ABI) (policy : Policy) (code : Bytes) :
    Dense (r.upload hash abi policy code) := by
  refine ⟨fun id hid => ?_, hd.instances⟩
  rw [upload_nextCode, CodeId.increment_val_mod] at hid
  rw [upload_codeInfo, upload_code]
  rcases lt_or_eq_of_lt_succ_mod r.nextCode.toU64.isLt hid with hlt | heq
  · exact ⟨isSome_update (hd.codes id hlt).1, isSome_update (hd.codes id hlt).2⟩
  · obtain rfl := CodeId.eq_of_val_eq heq
    simp

theorem Dense.instantiate (hd : Dense r) (codeId : CodeId) (creator : Address) (policy : Policy) :
    Dense (r.instantiate codeId creator policy) := by
  refine ⟨hd.codes, fun id hid => ?_⟩
  rw [instantiate_nextInstance, InstanceId.increment_val_mod] at hid
  rw [instantiate_instanceInfo]
  rcases lt_or_eq_of_lt_succ_mod r.nextInstance.toU64.isLt hid with hlt | heq
  · exact isSome_update (hd.instances id hlt)
  · obtain rfl := InstanceId.eq_of_val_eq heq
    simp

theorem Step.dense (h : Step H r r') (hd : Dense r) : Dense r' := by
  cases h with
  | upload => exact hd.upload _ _ _ _
  | instantiate => exact hd.instantiate _ _ _

theorem Evolves.dense (h : Evolves H r r') (hd : Dense r) : Dense r' := by
  induction h with
  | refl => exact hd
  | tail _ h ih => exact h.dense ih

end Registry

/-- **The counters never skip an identifier.** In every reachable state, every code identifier
below the code counter has its code stored and the code query answers its code information, and
every instance identifier below the instance counter has the instance query answer its instance
information. -/
theorem reachable_counters_dense {H : Host} {s : State} (hs : H.Reachable s) {c : TxCtx}
    (hc : c.view = s) :
    (∀ id : CodeId, id.toU64.val < s.registry.nextCode.toU64.val → (s.code id).isSome ∧
      ∃ info, dispatchQuery "contracts.Code" (.codeQuery ⟨id⟩) c =
        some (c, .ok (.handled (.ok (.code info))))) ∧
    ∀ id : InstanceId, id.toU64.val < s.registry.nextInstance.toU64.val →
      ∃ info, dispatchQuery "contracts.Instance" (.instanceQuery ⟨id⟩) c =
        some (c, .ok (.handled (.ok (.instanceInfo info)))) := by
  have hd := hs.evolves.dense Registry.dense_genesis
  refine ⟨fun id hid => ?_, fun id hid => ?_⟩
  · obtain ⟨hinfo, hcode⟩ := hd.codes id hid
    obtain ⟨info, hinfo⟩ := Option.isSome_iff_exists.1 hinfo
    exact ⟨hcode, info, by rw [dispatchQuery_code, hc, show s.codeInfo id = _ from hinfo]⟩
  · obtain ⟨info, hinfo⟩ := Option.isSome_iff_exists.1 (hd.instances id hid)
    exact ⟨info, by rw [dispatchQuery_instance, hc, show s.instanceInfo id = _ from hinfo]⟩

/-- One upload of the empty code from genesis: code `0` is stored and its query answers. -/
theorem reachable_counters_dense_one_upload :
    ((State.genesis.withEmptyCode .everyone).code ⟨0⟩).isSome ∧ ∃ info,
      dispatchQuery "contracts.Code" (.codeQuery ⟨⟨0⟩⟩)
          (.top .executeTx (State.genesis.withEmptyCode .everyone) ⟨0⟩ 0 (by decide)) =
        some (.top .executeTx (State.genesis.withEmptyCode .everyone) ⟨0⟩ 0 (by decide),
          .ok (.handled (.ok (.code info)))) :=
  (reachable_counters_dense (.single (txStep_withEmptyCode .everyone _))
    (c := .top .executeTx (State.genesis.withEmptyCode .everyone) ⟨0⟩ 0 (by decide)) rfl).1 ⟨0⟩
    (by decide)

/-! ## Committed transactions, then queries -/

section Committed

variable {H : Host}

@[simp] theorem TxCtx.view_top (mode : Mode) (s : State) (caller : Address) (gas : ℕ)
    (h : gas ≤ u64Max) : (TxCtx.top mode s caller gas h).view = s := rfl

@[simp] theorem TxCtx.caller_top (mode : Mode) (s : State) (caller : Address) (gas : ℕ)
    (h : gas ≤ u64Max) : (TxCtx.top mode s caller gas h).caller = caller := rfl

/-- A transaction the host executed ran from the top-level context on the state it was given;
the state it leaves is the call's view if the call succeeded. -/
theorem executeTx_eq_some {n : ℕ} {caller : Address} {gas : U64} {call : Transaction.Call}
    {s s' : State} {result : Transaction.CallResult}
    (h : H.executeTx n caller gas call s = some (result, s')) :
    ∃ c', dispatchTxCall H n call
        (.top .executeTx s caller gas.val (Nat.le_sub_one_of_lt gas.isLt)) =
      some (c', .ok result) ∧ s' = if result.isSuccess then c'.view else s := by
  unfold Host.executeTx at h
  split at h
  · obtain ⟨rfl, rfl⟩ := Prod.mk.inj_iff.1 (Option.some.inj h)
    exact ⟨_, ‹_›, rfl⟩
  · cases h

/-- An upload call that returned an upload result is `tx_upload` returning it. -/
theorem dispatchTxCall_upload_ok {n : ℕ} {body : Upload} {k k' : TxCtx} {res : UploadResult}
    (h : dispatchTxCall H n ⟨"contracts.Upload", .upload body⟩ k =
      some (k', .ok (.ok (.uploadResult res)))) :
    txUpload H body k = some (k', .ok res) := by
  obtain _ | _ | n := n
  · cases h
  · cases h
  rcases ht : txUpload H body k with _ | ⟨k₁, e | res₁⟩ <;>
    simp only [dispatchTxCall, dispatchCall, handleCall, Value.toUpload?, Error.toCallResult,
      bind_apply, catchResult, ht, pure_apply, Option.some.injEq, Prod.mk.injEq, Except.ok.injEq,
      Transaction.CallResult.ok.injEq, Value.uploadResult.injEq, reduceCtorEq, and_false] at h
  obtain ⟨rfl, rfl⟩ := h
  rfl

/-- An instantiation call that returned an instantiation result is `tx_instantiate` returning
it, on some fuel. -/
theorem dispatchTxCall_instantiate_ok {n : ℕ} {body : Instantiate} {k k' : TxCtx}
    {res : InstantiateResult}
    (h : dispatchTxCall H n ⟨"contracts.Instantiate", .instantiate body⟩ k =
      some (k', .ok (.ok (.instantiateResult res)))) :
    ∃ m, txInstantiate H m body k = some (k', .ok res) := by
  obtain _ | _ | n := n
  · cases h
  · cases h
  rcases ht : txInstantiate H n body k with _ | ⟨k₁, e | res₁⟩ <;>
    simp only [dispatchTxCall, dispatchCall, handleCall, Value.toInstantiate?, Error.toCallResult,
      bind_apply, catchResult, ht, pure_apply, Option.some.injEq, Prod.mk.injEq, Except.ok.injEq,
      Transaction.CallResult.ok.injEq, Value.instantiateResult.injEq, reduceCtorEq, and_false] at h
  obtain ⟨rfl, rfl⟩ := h
  exact ⟨n, ht⟩

/-- **Upload, then query the code.** A committed upload returns the code counter of the state it
started from; in the state it leaves, that identifier holds the validated code, and the code query
for it answers the digest of that code, the ABI and the instantiation policy of the upload. -/
theorem upload_then_query_code {n : ℕ} {caller : Address} {gas : U64} {body : Upload}
    {id : CodeId} {s s' : State}
    (h : H.executeTx n caller gas ⟨"contracts.Upload", .upload body⟩ s =
      some (.ok (.uploadResult ⟨id⟩), s'))
    {c : TxCtx} (hc : c.view = s') :
    id = s.registry.nextCode ∧ ∃ code, H.validateAndTransform body.code body.abi = .ok code ∧
      s'.code id = some code ∧
      dispatchQuery "contracts.Code" (.codeQuery ⟨id⟩) c =
        some (c, .ok (.handled (.ok (.code ⟨id, H.digest code, body.abi, body.instantiatePolicy⟩)))) := by
  obtain ⟨c', hd, hs'⟩ := executeTx_eq_some h
  obtain rfl : s' = c'.view := hs'.trans (if_pos rfl)
  rcases txUpload_eq_some (dispatchTxCall_upload_ok hd) with ⟨-, hr⟩ |
    ⟨-, code, hv, -, hbase, hwrites, -, hres, -⟩
  · obtain ⟨e, he⟩ := hr rfl
    cases he
  obtain rfl : id = s.registry.nextCode := by injection hres with h; injection h
  have hreg := txUpload_registry hbase hwrites
  have hinfo : c'.view.codeInfo s.registry.nextCode =
      some ⟨s.registry.nextCode, H.digest code, body.abi, body.instantiatePolicy⟩ := by
    show c'.view.registry.codeInfo _ = _
    simp [hreg]
  refine ⟨rfl, code, hv, ?_, by rw [dispatchQuery_code, hc, hinfo]⟩
  show c'.view.registry.code _ = _
  simp [hreg]

/-- **Instantiate, then query the instance.** From a reachable state, a committed instantiation
returns the instance counter of the state it started from, and in the state it leaves the instance
query for that identifier answers the instance it created: its code, the transaction's signer as
creator, and its upgrade policy, whatever the instance's own calls did, as long as the instance
counter has not wrapped onto the last identifier. -/
theorem instantiate_then_query_instance {n : ℕ} {caller : Address} {gas : U64}
    {body : Instantiate} {id : InstanceId} {s s' : State} (hs : H.Reachable s)
    (h : H.executeTx n caller gas ⟨"contracts.Instantiate", .instantiate body⟩ s =
      some (.ok (.instantiateResult ⟨id⟩), s'))
    (hwrap : s'.instanceInfo InstanceId.max = none) {c : TxCtx} (hc : c.view = s') :
    id = s.registry.nextInstance ∧
      dispatchQuery "contracts.Instance" (.instanceQuery ⟨id⟩) c =
        some (c, .ok (.handled (.ok (.instanceInfo ⟨id, body.codeId, caller, body.upgradesPolicy⟩)))) := by
  obtain ⟨c', hd, hs'⟩ := executeTx_eq_some h
  obtain rfl : s' = c'.view := hs'.trans (if_pos rfl)
  obtain ⟨m, ht⟩ := dispatchTxCall_instantiate_ok hd
  obtain ⟨-, c₁, -, -, hres, hreg, hstep, hev⟩ := txInstantiate_ok (by rfl) ht
  obtain rfl : id = s.registry.nextInstance := by injection hres
  have hext := Registry.Evolves.instancesExtend (hstep.inv hs.inv) hev hwrap
  have h₁ : c₁.view.registry.instanceInfo s.registry.nextInstance =
      some ⟨s.registry.nextInstance, body.codeId, caller, body.upgradesPolicy⟩ := by
    simp [hreg]
  have hinfo : c'.view.instanceInfo s.registry.nextInstance =
      some ⟨s.registry.nextInstance, body.codeId, caller, body.upgradesPolicy⟩ :=
    hext.instanceInfo h₁
  exact ⟨rfl, by rw [dispatchQuery_instance, hc, hinfo]⟩

/-- Instance `0` of the empty code, created by address `0`, is answered under identifier `0`. -/
theorem instantiate_then_query_instance_zero :
    ∃ s', quietHost.executeTx 4 ⟨0⟩ 0
        ⟨"contracts.Instantiate", .instantiate ⟨⟨0⟩, .everyone, [], []⟩⟩
        (State.genesis.withEmptyCode .everyone) = some (.ok (.instantiateResult ⟨⟨0⟩⟩), s') ∧
      s'.instanceInfo InstanceId.max = none ∧
      dispatchQuery "contracts.Instance" (.instanceQuery ⟨⟨0⟩⟩)
          (.top .executeTx s' ⟨0⟩ 0 (by decide)) =
        some (.top .executeTx s' ⟨0⟩ 0 (by decide),
          .ok (.handled (.ok (.instanceInfo ⟨⟨0⟩, ⟨0⟩, ⟨0⟩, .everyone⟩)))) := by
  obtain ⟨s', h, hwrap⟩ : ∃ s', quietHost.executeTx 4 ⟨0⟩ 0
      ⟨"contracts.Instantiate", .instantiate ⟨⟨0⟩, .everyone, [], []⟩⟩
      (State.genesis.withEmptyCode .everyone) = some (.ok (.instantiateResult ⟨⟨0⟩⟩), s') ∧
      s'.instanceInfo InstanceId.max = none := ⟨_, rfl, rfl⟩
  exact ⟨s', h, hwrap, (instantiate_then_query_instance
    (.single (txStep_withEmptyCode .everyone _)) h hwrap
    (c := .top .executeTx s' ⟨0⟩ 0 (by decide)) rfl).2⟩

end Committed

end OasisContracts
