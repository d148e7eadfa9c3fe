import OasisContracts.Types

/-!
# Errors, gas costs and parameters of the contracts module

The data of `contracts/src/lib.rs` that the module's functions read: the `Error` enum with its
wire codes and messages, `GasCosts` and `Parameters` with their defaults.

Two error types come from code that is not under `src/`: the core module's error (only its
out-of-gas error is read here) and the contract error of `wasm.rs`, which namespaces a
contract's own `{module, code}` under `contracts.<instance id>`. `Error.toCallResult` is the
`to_call_result` of the SDK's error trait: module name, code and message.
-/

namespace OasisContracts

/-- Modelled from the spec: errors of the runtime's core module (not under `src/`); the one this
module can raise is "out of gas", code 12 under module `core`. -/
inductive CoreError
  | outOfGas
  deriving DecidableEq, Repr

/-- Modelled from the spec: `wasm::ContractError` (not under `src/`), an error a contract returned,
surfaced under the module `contracts.<instance id>` (followed by `.<module>` when the contract
named one). -/
structure ContractError where
  instanceId : InstanceId
  module : String
  code : U32
  message : String
  deriving DecidableEq, Repr

/-- The module name a contract error is reported under. -/
def ContractError.moduleName (e : ContractError) : String :=
  let base := "contracts." ++ toString e.instanceId.toU64.val
  if e.module.isEmpty then base else base ++ "." ++ e.module

/-- Errors emitted by the contracts module. -/
inductive Error
  | invalidArgument
  | codeTooLarge (size max : U32)
  | codeMalformed
  | unsupportedABI
  | codeMissingRequiredExport (name : String)
  | codeDeclaresReservedExport (name : String)
  | codeDeclaresStartFunction
  | codeDeclaresTooManyMemories
  | codeNotFound
  | instanceNotFound
  | moduleLoadingFailed
  | executionFailed (cause : String)
  | forbidden
  | unsupported
  | insufficientCallerBalance
  | callDepthExceeded (depth max : U16)
  | resultTooLarge (size max : U32)
  | tooManySubcalls (count max : U16)
  | core (e : CoreError)
  | contract (e : ContractError)
  deriving DecidableEq, Repr

namespace Error

/-- The module an error is reported under; `Core` and `Contract` are transparent. -/
def moduleName : Error → String
  | core _ => "core"
  | contract e => e.moduleName
  | _ => "contracts"

/-- The wire code of an error (`#[sdk_error(code = ..)]`). -/
def code : Error → U32
  | invalidArgument => 1
  | codeTooLarge .. => 2
  | codeMalformed => 3
  | unsupportedABI => 4
  | codeMissingRequiredExport _ => 5
  | codeDeclaresReservedExport _ => 6
  | codeDeclaresStartFunction => 7
  | codeDeclaresTooManyMemories => 8
  | codeNotFound => 9
  | instanceNotFound => 10
  | moduleLoadingFailed => 11
  | executionFailed _ => 12
  | forbidden => 13
  | unsupported => 14
  | insufficientCallerBalance => 15
  | callDepthExceeded .. => 16
  | resultTooLarge .. => 17
  | tooManySubcalls .. => 18
  | core .outOfGas => 12
  | contract e => e.code

/-- The error's message (`#[error(..)]`). -/
def message : Error → String
  | invalidArgument => "invalid argument"
  | codeTooLarge size max =>
    "code too large (size: " ++ toString size ++ " max: " ++ toString max ++ ")"
  | codeMalformed => "code is malformed"
  | unsupportedABI => "specified ABI is not supported"
  | codeMissingRequiredExport name => "code is missing required ABI export: " ++ name
  | codeDeclaresReservedExport name => "code declares reserved ABI export: " ++ name
  | codeDeclaresStartFunction => "code declares start function"
  | codeDeclaresTooManyMemories => "code declares too many memories"
  | codeNotFound => "code not found"
  | instanceNotFound => "instance not found"
  | moduleLoadingFailed => "module loading failed"
  | executionFailed cause => "execution failed: " ++ cause
  | forbidden => "forbidden by policy"
  | unsupported => "function not supported"
  | insufficientCallerBalance => "insufficient balance in caller account"
  | callDepthExceeded depth max =>
    "call depth exceeded (depth: " ++ toString depth ++ " max: " ++ toString max ++ ")"
  | resultTooLarge size max =>
    "result size exceeded (size: " ++ toString size ++ " max: " ++ toString max ++ ")"
  | tooManySubcalls count max =>
    "too many subcalls (count: " ++ toString count ++ " max: " ++ toString max ++ ")"
  | core .outOfGas => "core: out of gas"
  | contract e => "contract error: " ++ e.message

/-- `to_call_result`: the failed call result reporting this error. -/
def toCallResult (e : Error) : Transaction.CallResult := .failed e.moduleName e.code e.message

@[simp] theorem isSuccess_toCallResult (e : Error) : e.toCallResult.isSuccess = false := rfl

end Error

/-- The out-of-gas failure, as a contract sees it: module `core`, code 12. -/
def outOfGasResult : Sdk.CallResult := .failed "core" 12

/-- Gas costs. -/
structure GasCosts where
  txUpload : U64
  txUploadPerByte : U64
  txInstantiate : U64
  txCall : U64
  txUpgrade : U64
  subcallDispatch : U64
  wasmStorageGetBase : U64
  wasmStorageInsertBase : U64
  wasmStorageRemoveBase : U64
  deriving DecidableEq, Repr

/-- The default gas costs. -/
def GasCosts.default : GasCosts where
  txUpload := 0
  txUploadPerByte := 0
  txInstantiate := 0
  txCall := 0
  txUpgrade := 0
  subcallDispatch := 100
  wasmStorageGetBase := 10
  wasmStorageInsertBase := 10
  wasmStorageRemoveBase := 10

/-- Parameters for the contracts module. -/
structure Parameters where
  maxCodeSize : U32
  maxStackSize : U32
  maxMemoryPages : U32
  maxSubcallDepth : U16
  maxSubcallCount : U16
  maxResultSizeBytes : U32
  gasCosts : GasCosts
  deriving DecidableEq, Repr

/-- The default parameters. -/
def Parameters.default : Parameters where
  maxCodeSize := 256 * 1024
  maxStackSize := 60 * 1024
  maxMemoryPages := 20
  maxSubcallDepth := 8
  maxSubcallCount := 16
  maxResultSizeBytes := 1024
  gasCosts := GasCosts.default

/-- `u64::saturating_mul`, of a cost by a count. -/
def saturatingMul (cost : U64) (count : ℕ) : ℕ := min (cost.val * count) u64Max

theorem saturatingMul_le (cost : U64) (count : ℕ) : saturatingMul cost count ≤ cost.val * count :=
  min_le_left _ _

theorem saturatingMul_of_le {cost : U64} {count : ℕ} (h : cost.val * count ≤ u64Max) :
    saturatingMul cost count = cost.val * count := min_eq_left h

end OasisContracts
