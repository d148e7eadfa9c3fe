import OasisContracts.Exec

/-!
# The collaborators of the module

Modelled from the spec: what the contracts module calls but is not under `src/`, as a record
`Host` of behaviours, so that every result holds for all of them.

* The guest: `wasm.rs` runs a contract's code at an entry point (`instantiate`, `call`,
  `handle_reply`). The guest is any function from the code, the entry, the caller and the state
  it can read to a `GuestRun`: the host calls and metered work it does, in order, and how it ends.
  `Host.invoke` carries the run out: each operation charges gas first (the instruction metering,
  or the storage host call's base cost), a failed charge traps with out of gas, and storage
  writes go to the instance's own store only.
* The other modules of the runtime: a method the contracts module does not handle runs as a
  `ModuleRun`, which may charge gas, write the other modules' state, and emit tags and runtime
  messages; an error inside it becomes a failed call result (`dispatchOther`).
* `Accounts::transfer`, the digest, the code validator and instrumenter, the address
  derivation of instances, and whether expensive queries are allowed.
-/

namespace OasisContracts

/-- A contract instance to run: `wasm::Contract`. -/
structure Contract where
  codeInfo : Code
  code : Bytes
  instanceInfo : Instance

/-- An entry point of a contract, with its argument. -/
inductive Entry
  | instantiate (body : Instantiate)
  | call (body : Call)
  | handleReply (reply : Sdk.Reply)

/-- Work the guest does that the host sees: metered instructions and storage host calls. -/
inductive GuestOp
  | useGas (amount : ℕ)
  | get (key : Bytes)
  | insert (key value : Bytes)
  | remove (key : Bytes)

/-- How a guest invocation that does not return an `ExecutionOk` ends. -/
inductive Trap
  | moduleLoadingFailed
  | executionFailed (cause : String)
  | resultTooLarge (size : U32)
  | contract (module : String) (code : U32) (message : String)

/-- A guest invocation: what it does, in order, and how it ends. -/
structure GuestRun where
  ops : List GuestOp
  outcome : Except Trap Sdk.ExecutionOk

/-- An effect of another module's method handler on its context. -/
inductive HostOp
  | useGas (amount : ℕ)
  | write (key : Bytes) (value : Option Bytes)
  | emitTag (tag : Tag)
  | emitMessage (message : RuntimeMessage)

/-- A run of another module's method handler. -/
structure ModuleRun where
  ops : List HostOp
  result : Transaction.CallResult

/-- The behaviours the module depends on. -/
structure Host where
  params : Parameters
  expensiveQueriesAllowed : Bool
  addressFor : InstanceId → Address
  digest : Bytes → Hash
  validateAndTransform : Bytes → ABI → Except Error Bytes
  accountsTransfer : State → Address → Address → BaseUnits → Option (List (Bytes × Option Bytes))
  guest : Contract → Entry → Address → State → GuestRun
  modules : String → Value → Address → State → ModuleRun

/-- A host with the default parameters and plain collaborators (the digest and the validator are
the identity, transfers always succeed and write nothing, instance `i` lives at address `i + 1`),
running the given guest and other modules: the hosts the results are tried on. -/
def Host.sample (guest : Contract → Entry → Address → State → GuestRun)
    (modules : String → Value → Address → State → ModuleRun) : Host where
  params := .default
  expensiveQueriesAllowed := false
  addressFor id := ⟨id.toU64.val + 1⟩
  digest code := ⟨code⟩
  validateAndTransform code _ := .ok code
  accountsTransfer _ _ _ _ := some []
  guest := guest
  modules := modules

/-- Instance 0 of code 0, created by address 0, with empty code and open policies. -/
def Contract.sample : Contract :=
  ⟨⟨⟨0⟩, ⟨[]⟩, .oasisV1, .everyone⟩, [], ⟨⟨0⟩, ⟨0⟩, ⟨0⟩, .everyone⟩⟩

/-- A top-level context on the genesis state, signed by address 0, with 1000 gas. -/
def TxCtx.sample : TxCtx := .top .executeTx .genesis ⟨0⟩ 1000 (by decide)

/-- `u16::MAX`. -/
def U16.max : U16 := ⟨2 ^ 16 - 1, by decide⟩

/-- `u32::MAX`. -/
def U32.max : U32 := ⟨2 ^ 32 - 1, by decide⟩

namespace Exec

/-- Write to the store, in order. -/
def writeAll (ws : List Write) : Exec Unit := fun c => some ({ c with writes := c.writes ++ ws }, .ok ())

end Exec

open Exec

namespace Host

variable (H : Host)

/-- The address of an instance: `Instance::address`. -/
def address (i : Instance) : Address := H.addressFor i.id

/-- The error a trap is reported as. -/
def trapError (contract : Contract) : Trap → Error
  | .moduleLoadingFailed => .moduleLoadingFailed
  | .executionFailed cause => .executionFailed cause
  | .resultTooLarge size => .resultTooLarge size H.params.maxResultSizeBytes
  | .contract module code message => .contract ⟨contract.instanceInfo.id, module, code, message⟩

/-- The guest's work, as the host carries it out for instance `id`. -/
def runGuestOps (id : InstanceId) : List GuestOp → Exec Unit
  | [] => pure ()
  | .useGas amount :: ops => do
    useTxGas amount
    runGuestOps id ops
  | .get _ :: ops => do
    useTxGas H.params.gasCosts.wasmStorageGetBase.val
    runGuestOps id ops
  | .insert key value :: ops => do
    useTxGas H.params.gasCosts.wasmStorageInsertBase.val
    write (.instanceState id key (some value))
    runGuestOps id ops
  | .remove key :: ops => do
    useTxGas H.params.gasCosts.wasmStorageRemoveBase.val
    write (.instanceState id key none)
    runGuestOps id ops

/-- Invoke an entry point of a contract. -/
def invoke (contract : Contract) (entry : Entry) : Exec Sdk.ExecutionOk := do
  let run := H.guest contract entry (← txCallerAddress) (← view)
  runGuestOps H contract.instanceInfo.id run.ops
  match run.outcome with
  | .ok result => pure result
  | .error trap => throw (H.trapError contract trap)

/-- `wasm::instantiate`. -/
def instantiate (contract : Contract) (body : Instantiate) : Exec Sdk.ExecutionOk :=
  H.invoke contract (.instantiate body)

/-- `wasm::call`. -/
def call (contract : Contract) (body : Call) : Exec Sdk.ExecutionOk :=
  H.invoke contract (.call body)

/-- `wasm::handle_reply`. -/
def handleReply (contract : Contract) (reply : Sdk.Reply) : Exec Sdk.ExecutionOk :=
  H.invoke contract (.handleReply reply)

/-- Another module's method handler's effects, carried out. -/
def runModuleOps : List HostOp → Exec Unit
  | [] => pure ()
  | .useGas amount :: ops => do
    useTxGas amount
    runModuleOps ops
  | .write key value :: ops => do
    write (.other key value)
    runModuleOps ops
  | .emitTag tag :: ops => do
    emitTags [tag]
    runModuleOps ops
  | .emitMessage message :: ops => do
    emitMessages [message]
    runModuleOps ops

/-- Dispatch a method of another module. -/
def dispatchOther (method : String) (body : Value) : Exec Transaction.CallResult := do
  let run := H.modules method body (← txCallerAddress) (← view)
  match ← catchResult (runModuleOps run.ops) with
  | .ok () => pure run.result
  | .error err => pure err.toCallResult

/-- `Accounts::transfer`, any failure reported as `InsufficientCallerBalance`. -/
def transfer (source target : Address) (amount : BaseUnits) : Exec Unit := do
  match H.accountsTransfer (← view) source target amount with
  | some ws => writeAll (ws.map fun (key, value) => .other key value)
  | none => throw .insufficientCallerBalance

/-- The loop `for tokens in &body.tokens` transferring each attached amount. -/
def transferTokens (source target : Address) : List BaseUnits → Exec Unit
  | [] => pure ()
  | tokens :: rest => do
    H.transfer source target tokens
    transferTokens source target rest

end Host

end OasisContracts
