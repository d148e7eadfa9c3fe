import OasisContracts.Host

/-!
# The contracts module

`contracts/src/lib.rs` and `contracts/src/subcalls.rs`, each function under its source name.

* The storage accessors `loadCodeInfo`, `storeCodeInfo`, `loadCode`, `storeCode`,
  `loadInstanceInfo`, `storeInstanceInfo`; the loads are one lookup with its not-found error
  (`loadFrom`).
* `txUpload` and `txUpgrade`, which do not recurse.
* One mutual block, indexed by fuel, for the functions that call each other through sub-calls:
  `processExecutionResult` and its message loop `processMessages`, the dispatcher's
  `dispatchTxCall`, the module's `dispatchCall`, `txInstantiate` and `txCall`. Every call in the
  block spends one unit of fuel, so that the recursion is structural; a run that needs more
  returns `none`.

`processExecutionResult` and `processMessages` also record, in the context's trace, what they
do: the activation, each dispatched child and its outcome, each reply delivered and the data
its processing returned, and the transfer of each child's gas to its parent. These records
change nothing else.
-/

namespace OasisContracts

open Exec

/-- `module::DispatchResult`. -/
inductive DispatchResult
  | handled (result : Transaction.CallResult)
  | unhandled (body : Value)

/-- The child's gas allowance: `max_gas`, defaulting to and capped at the remaining gas. -/
def childGas (maxGas : Option U64) (remainingGas : U64) : U64 :=
  let maxGas := maxGas.getD remainingGas
  if maxGas > remainingGas then remainingGas else maxGas

/-- The reply filter: whether a message with reply mode `reply` is answered for a child that
succeeded or failed as `success` says. -/
def Sdk.NotifyReply.delivers : Sdk.NotifyReply → Bool → Bool
  | .onError, false | .onSuccess, true | .always, _ => true
  | _, _ => false

/-- The reply filter's table: `Always` answers every child, `OnSuccess` a successful one,
`OnError` a failed one, and `Never` none. -/
theorem Sdk.NotifyReply.delivers_eq_true (reply : Sdk.NotifyReply) (success : Bool) :
    reply.delivers success = true ↔
      reply = .always ∨ reply = .onSuccess ∧ success = true ∨ reply = .onError ∧ success = false := by
  cases reply <;> cases success <;> decide

/-! ## State accessors -/

/-- A load from one of the module's stores, failing with `err` when the key is absent. -/
def loadFrom {α : Type} (get : State → Option α) (err : Error) : Exec α := do
  match get (← view) with
  | some a => pure a
  | none => throw err

/-- Loads code information for the specified code identifier. -/
def loadCodeInfo (codeId : CodeId) : Exec Code := loadFrom (·.codeInfo codeId) .codeNotFound

/-- Stores specified code information. -/
def storeCodeInfo (codeInfo : Code) : Exec Unit := write (.codeInfo codeInfo.id codeInfo)

/-- Loads code with the specified code identifier. -/
def loadCode (codeId : CodeId) : Exec Bytes := loadFrom (·.code codeId) .codeNotFound

/-- Stores code with the specified code identifier. -/
def storeCode (codeId : CodeId) (code : Bytes) : Exec Unit := write (.code codeId code)

/-- Loads specified instance information. -/
def loadInstanceInfo (instanceId : InstanceId) : Exec Instance :=
  loadFrom (·.instanceInfo instanceId) .instanceNotFound

/-- Stores specified instance information. -/
def storeInstanceInfo (instanceInfo : Instance) : Exec Unit :=
  write (.instanceInfo instanceInfo.id instanceInfo)

variable (H : Host)

/-! ## Transaction handlers that do not recurse -/

/-- `tx_upload`. -/
def txUpload (body : Upload) : Exec UploadResult := do
  let params := H.params
  -- Validate code size.
  let some codeSize := toU32? body.code.length
    | throw (.codeTooLarge U32.max params.maxCodeSize)
  if codeSize > params.maxCodeSize then
    throw (.codeTooLarge codeSize params.maxCodeSize)
  useTxGas params.gasCosts.txUpload.val
  useTxGas (saturatingMul params.gasCosts.txUploadPerByte body.code.length)
  if (← isCheckOnly) && !H.expensiveQueriesAllowed then
    -- Only fast checks are allowed.
    return default
  -- Validate and transform the code.
  let code ← MonadExcept.ofExcept (H.validateAndTransform body.code body.abi)
  let hash := H.digest code
  -- Validate code size again and account for any instrumentation.
  let some instCodeSize := toU32? code.length
    | throw (.codeTooLarge U32.max params.maxCodeSize)
  if instCodeSize > params.maxCodeSize then
    throw (.codeTooLarge instCodeSize params.maxCodeSize)
  useTxGas (saturatingMul params.gasCosts.txUploadPerByte (instCodeSize.val - codeSize.val))
  if ← isCheckOnly then
    return default
  -- Assign next identifier.
  let id := (← view).nextCodeId.getD default
  write (.nextCodeId id.increment)
  -- Store information about uploaded code.
  storeCodeInfo { id, hash, abi := body.abi, instantiatePolicy := body.instantiatePolicy }
  storeCode id code
  return { id }

/-- `tx_upgrade`: charged, and unsupported. -/
def txUpgrade (_body : Upgrade) : Exec Unit := do
  useTxGas H.params.gasCosts.txUpgrade.val
  throw .unsupported

/-- One arm of `MethodHandler::dispatch_call`: decode the arguments (`InvalidArgument` when they
do not decode), run the handler and encode its result; an error is reported as the failed call
result `err.to_call_result()`. -/
def handleCall {α β : Type} (body : Value) (decode : Value → Option α) (handler : α → Exec β)
    (encode : β → Value) : Exec DispatchResult := do
  let result ← catchResult do
    let some args := decode body | throw .invalidArgument
    return encode (← handler args)
  match result with
  | .ok value => return .handled (.ok value)
  | .error err => return .handled err.toCallResult

/-! ## Sub-calls -/

/-- Lines 29–64 of `process_execution_result`: the depth guard, the charge for the emitted
messages, and the count guard. -/
def checkMessages (currentDepth : U16) (messages : List Sdk.Message) : Exec Unit := do
  let params := H.params
  -- Ensure the call depth is not too large.
  if !messages.isEmpty && currentDepth ≥ params.maxSubcallDepth then
    throw (.callDepthExceeded (currentDepth + 1) params.maxSubcallDepth)
  -- Charge gas for each emitted message.
  useTxGas (saturatingMul params.gasCosts.subcallDispatch messages.length)
  -- Make sure the number of subcalls is within limits.
  let some messageCount := toU16? messages.length
    | throw (.tooManySubcalls U16.max params.maxSubcallCount)
  if messageCount > params.maxSubcallCount then
    throw (.tooManySubcalls messageCount params.maxSubcallCount)

/-- Lines 76–148 of `process_execution_result`: run the message's call as a child transaction
(`child`) signed by the contract, with its gas allowance and `CallDepth` one more than the
current one, where the dispatch is recorded at the child's own `CallDepth`; charge the gas it used
and forward its tags and runtime messages. -/
def callChild (contract : Contract) (currentDepth : U16) (msg : Sdk.Message)
    (child : Exec Transaction.CallResult) : Exec Transaction.CallResult := do
  let .call _ _ _ _ maxGas := msg
  -- Calculate how much gas the child message can use.
  let maxGas := childGas maxGas (← remainingGas)
  -- Execute a transaction in a child context, at the propagated call depth.
  let depth := currentDepth + 1
  let (result, gas, tags, runtimeMessages) ←
    withChild (H.address contract.instanceInfo) maxGas depth do
      record (.dispatch depth msg)
      child
  -- Use any gas that was used inside the child context.
  useTxGas (maxGas.val - gas.val)
  record (.absorb (maxGas.val - gas.val))
  -- Forward any emitted tags and runtime messages.
  emitTags tags
  emitMessages runtimeMessages
  return result

mutual

/-- `process_execution_result`: the guards and the charge, then the emitted messages in order.
Returns the call's data, which replies may overwrite. -/
def processExecutionResult : ℕ → Contract → Sdk.ExecutionOk → Exec Bytes
  | 0, _, _ => outOfFuel
  | n + 1, contract, result => nested do
    let currentDepth ← callDepth
    record (.activate currentDepth result.messages.length)
    checkMessages H currentDepth result.messages
    -- Process emitted messages recursively.
    processMessages n contract currentDepth result.data result.messages

/-- The loop of `process_execution_result` over the emitted messages, with `result_data`. -/
def processMessages : ℕ → Contract → U16 → Bytes → List Sdk.Message → Exec Bytes
  | _, _, _, resultData, [] => pure resultData
  | 0, _, _, _, _ :: _ => outOfFuel
  | n + 1, contract, currentDepth, resultData,
      msg@(.call id reply method body _) :: messages => do
    let result ← callChild H contract currentDepth msg (dispatchTxCall n ⟨method, body⟩)
    record (.result result)
    -- Process replies based on filtering criteria.
    if reply.delivers result.isSuccess then
      let reply := Sdk.Reply.call id (.ofTransaction result)
      record (.reply contract.instanceInfo.id reply)
      let replyResult ← H.handleReply contract reply
      let replyResult ← processExecutionResult n contract replyResult
      record (.replyData replyResult)
      -- If there is a non-empty reply, it overwrites the returned data.
      processMessages n contract currentDepth
        (if replyResult.isEmpty then resultData else replyResult) messages
    else
      processMessages n contract currentDepth resultData messages

/-- Modelled from the spec: `Dispatcher::dispatch_tx_call` (not under `src/`): the contracts
module's methods go to `dispatchCall`, every other method to the other modules. -/
def dispatchTxCall : ℕ → Transaction.Call → Exec Transaction.CallResult
  | 0, _ => outOfFuel
  | n + 1, call => do
    match ← dispatchCall n call.method call.body with
    | .handled result => pure result
    | .unhandled body => H.dispatchOther call.method body

/-- `MethodHandler::dispatch_call`. -/
def dispatchCall : ℕ → String → Value → Exec DispatchResult
  | 0, _, _ => outOfFuel
  | n + 1, method, body =>
    match method with
    | "contracts.Upload" => handleCall body Value.toUpload? (txUpload H) .uploadResult
    | "contracts.Instantiate" =>
      handleCall body Value.toInstantiate? (txInstantiate n) .instantiateResult
    | "contracts.Call" => handleCall body Value.toCall? (txCall n) .callResult
    | "contracts.Upgrade" => handleCall body Value.toUpgrade? (txUpgrade H) fun () => .unit
    | _ => pure (.unhandled body)

/-- `tx_instantiate`. -/
def txInstantiate : ℕ → Instantiate → Exec InstantiateResult
  | 0, _ => outOfFuel
  | n + 1, body => do
    let params := H.params
    let creator ← txCallerAddress
    useTxGas params.gasCosts.txInstantiate.val
    if (← isCheckOnly) && !H.expensiveQueriesAllowed then
      -- Only fast checks are allowed.
      return default
    -- Load code information, enforce instantiation policy and load the code.
    let codeInfo ← loadCodeInfo body.codeId
    codeInfo.instantiatePolicy.enforce
    let code ← loadCode body.codeId
    -- Assign next identifier.
    let id := (← view).nextInstanceId.getD default
    write (.nextInstanceId id.increment)
    -- Store instance information.
    let instanceInfo : Instance :=
      { id, codeId := body.codeId, creator, upgradesPolicy := body.upgradesPolicy }
    storeInstanceInfo instanceInfo
    -- Transfer any attached tokens.
    H.transferTokens creator (H.address instanceInfo) body.tokens
    -- Run instantiation function.
    let contract : Contract := { codeInfo, code, instanceInfo }
    let result ← H.instantiate contract body
    let _ ← processExecutionResult n contract result
    return { id }

/-- `tx_call`. -/
def txCall : ℕ → Call → Exec CallResult
  | 0, _ => outOfFuel
  | n + 1, body => do
    let params := H.params
    let caller ← txCallerAddress
    useTxGas params.gasCosts.txCall.val
    if (← isCheckOnly) && !H.expensiveQueriesAllowed then
      -- Only fast checks are allowed.
      return default
    -- Load instance information and code.
    let instanceInfo ← loadInstanceInfo body.id
    let codeInfo ← loadCodeInfo instanceInfo.codeId
    let code ← loadCode instanceInfo.codeId
    -- Transfer any attached tokens.
    H.transferTokens caller (H.address instanceInfo) body.tokens
    -- Run call function.
    let contract : Contract := { codeInfo, code, instanceInfo }
    let result ← H.call contract body
    let data ← processExecutionResult n contract result
    return ⟨data⟩

end

end OasisContracts
