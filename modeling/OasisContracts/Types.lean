import Mathlib

/-!
# The data model of the contracts module

The types of `contracts/src/types.rs` and of the contract SDK's `message.rs`, with the
runtime types they are built from.

* Machine integers are `Fin (2 ^ w)`: Rust's unsigned `uN`, whose `+` wraps as a release build
  does. `CodeId` and `InstanceId` are newtypes over `U64`, as in the SDK, and `increment` adds one
  in 64 bits.
* `Policy`, `ABI`, `Code`, `Instance` and the request and result bodies of the four transaction
  methods are records of the same fields as the source.
* `Sdk.Message`, `Sdk.NotifyReply`, `Sdk.Reply`, `Sdk.CallResult` and `Sdk.ExecutionOk` are the
  contract-facing side of sub-calls; `Transaction.CallResult` is the runtime's call result and
  `Sdk.CallResult.ofTransaction` the `From` conversion between them (`isSuccess_ofTransaction`).
* `Value` stands for `cbor::Value`: one constructor per type the module decodes or encodes, and
  `Value.other` for everything else.
-/

namespace OasisContracts

/-- Rust's `u16`. -/
abbrev U16 := Fin (2 ^ 16)

/-- Rust's `u32`. -/
abbrev U32 := Fin (2 ^ 32)

/-- Rust's `u64`. -/
abbrev U64 := Fin (2 ^ 64)

/-- `u64::MAX`, as a natural number. -/
def u64Max : ℕ := 2 ^ 64 - 1

/-- A `u16` below another does not wrap when incremented. -/
theorem U16.val_add_one_of_lt {d m : U16} (h : d < m) : (d + 1).val = d.val + 1 := by
  have h1 : ((1 : U16) : ℕ) = 1 := rfl
  rw [Fin.val_add, h1, Nat.mod_eq_of_lt]
  have := m.isLt; rw [Fin.lt_def] at h; omega

theorem U16.add_one_le_of_lt {d m : U16} (h : d < m) : d + 1 ≤ m := by
  rw [Fin.le_def, U16.val_add_one_of_lt h]; exact h

/-- `usize::try_into::<u16>()`: `none` when the value does not fit. -/
def toU16? (n : ℕ) : Option U16 := if h : n < 2 ^ 16 then some ⟨n, h⟩ else none

/-- `usize::try_into::<u32>()`: `none` when the value does not fit. -/
def toU32? (n : ℕ) : Option U32 := if h : n < 2 ^ 32 then some ⟨n, h⟩ else none

theorem toU16?_eq_some {n : ℕ} {c : U16} : toU16? n = some c ↔ c.val = n := by
  unfold toU16?
  split <;> rename_i h
  · simp only [Option.some.injEq, Fin.ext_iff]; exact eq_comm
  · simp only [reduceCtorEq, false_iff]; omega

theorem toU16?_eq_none {n : ℕ} : toU16? n = none ↔ 2 ^ 16 ≤ n := by
  unfold toU16?; split <;> simp <;> omega

theorem toU32?_eq_some {n : ℕ} {c : U32} : toU32? n = some c ↔ c.val = n := by
  unfold toU32?
  split <;> rename_i h
  · simp only [Option.some.injEq, Fin.ext_iff]; exact eq_comm
  · simp only [reduceCtorEq, false_iff]; omega

/-- Byte strings. -/
abbrev Bytes := List UInt8

/-- A runtime account address. -/
structure Address where
  raw : ℕ
  deriving DecidableEq, Repr

/-- A 256-bit digest (`Hash`). -/
structure Hash where
  raw : Bytes
  deriving DecidableEq, Repr

/-- Unique stored code identifier. -/
structure CodeId where
  toU64 : U64
  deriving DecidableEq, Repr

/-- Unique deployed contract instance identifier. -/
structure InstanceId where
  toU64 : U64
  deriving DecidableEq, Repr

instance : Inhabited CodeId := ⟨⟨0⟩⟩

instance : Inhabited InstanceId := ⟨⟨0⟩⟩

theorem CodeId.eq_of_val_eq {a b : CodeId} (h : a.toU64.val = b.toU64.val) : a = b := by
  cases a; cases b; congr; exact Fin.ext h

theorem InstanceId.eq_of_val_eq {a b : InstanceId} (h : a.toU64.val = b.toU64.val) : a = b := by
  cases a; cases b; congr; exact Fin.ext h

/-- Modelled from the spec: the next code identifier in sequence, `CodeId(self.0 + 1)`. The
method belongs to the contract SDK's types, which `tx_upload` calls (`id.increment()`) and which
are not among the sources; its `u64` addition wraps as it does in a release build. -/
def CodeId.increment (id : CodeId) : CodeId := ⟨id.toU64 + 1⟩

/-- Modelled from the spec: the next instance identifier in sequence, `InstanceId(self.0 + 1)`,
from the contract SDK's types that `tx_instantiate` calls, with the same release-build wrap as
`CodeId.increment`. -/
def InstanceId.increment (id : InstanceId) : InstanceId := ⟨id.toU64 + 1⟩

/-- Below `u64::MAX` the increment is the successor. -/
theorem CodeId.increment_val {id : CodeId} (h : id.toU64.val < u64Max) :
    id.increment.toU64.val = id.toU64.val + 1 := by
  have h1 : ((1 : U64) : ℕ) = 1 := rfl
  simp only [increment, Fin.val_add, h1]
  exact Nat.mod_eq_of_lt (by unfold u64Max at h; omega)

theorem InstanceId.increment_val {id : InstanceId} (h : id.toU64.val < u64Max) :
    id.increment.toU64.val = id.toU64.val + 1 := by
  have h1 : ((1 : U64) : ℕ) = 1 := rfl
  simp only [increment, Fin.val_add, h1]
  exact Nat.mod_eq_of_lt (by unfold u64Max at h; omega)

/-- The increment adds one modulo `2^64`. -/
theorem CodeId.increment_val_mod (id : CodeId) :
    id.increment.toU64.val = (id.toU64.val + 1) % 2 ^ 64 := by
  simp only [increment, Fin.val_add]; rfl

theorem InstanceId.increment_val_mod (id : InstanceId) :
    id.increment.toU64.val = (id.toU64.val + 1) % 2 ^ 64 := by
  simp only [increment, Fin.val_add]; rfl

/-- At `u64::MAX` the increment wraps to zero. -/
theorem CodeId.increment_max : (⟨⟨u64Max, by decide⟩⟩ : CodeId).increment = ⟨0⟩ := by decide

/-- Who may perform an action guarded by a policy. -/
inductive Policy
  | nobody
  | address (a : Address)
  | everyone
  deriving DecidableEq, Repr

/-- ABI that should be exposed to the given contract. -/
inductive ABI
  | oasisV1
  deriving DecidableEq, Repr

/-- Stored code. -/
structure Code where
  id : CodeId
  hash : Hash
  abi : ABI
  instantiatePolicy : Policy
  deriving DecidableEq, Repr

/-- A deployed code instance. -/
structure Instance where
  id : InstanceId
  codeId : CodeId
  creator : Address
  upgradesPolicy : Policy
  deriving DecidableEq, Repr

/-- An amount of tokens of one denomination (`token::BaseUnits`). -/
structure BaseUnits where
  amount : ℕ
  denomination : Bytes
  deriving DecidableEq, Repr

/-- Upload call. -/
structure Upload where
  abi : ABI
  instantiatePolicy : Policy
  code : Bytes
  deriving DecidableEq, Repr

/-- Upload call result. -/
structure UploadResult where
  id : CodeId
  deriving DecidableEq, Repr, Inhabited

/-- Instantiate call. -/
structure Instantiate where
  codeId : CodeId
  upgradesPolicy : Policy
  data : Bytes
  tokens : List BaseUnits
  deriving DecidableEq, Repr

/-- Instantiate call result. -/
structure InstantiateResult where
  id : InstanceId
  deriving DecidableEq, Repr, Inhabited

/-- Contract call. -/
structure Call where
  id : InstanceId
  data : Bytes
  tokens : List BaseUnits
  deriving DecidableEq, Repr

/-- Contract call result. -/
structure CallResult where
  data : Bytes
  deriving DecidableEq, Repr, Inhabited

/-- Upgrade call. -/
structure Upgrade where
  id : InstanceId
  codeId : CodeId
  data : Bytes
  tokens : List BaseUnits
  deriving DecidableEq, Repr

/-- A CBOR value: the bodies and results the module decodes and encodes, and any other. -/
inductive Value
  | upload (body : Upload)
  | instantiate (body : Instantiate)
  | call (body : Call)
  | upgrade (body : Upgrade)
  | uploadResult (result : UploadResult)
  | instantiateResult (result : InstantiateResult)
  | callResult (result : CallResult)
  | unit
  | other (bytes : Bytes)
  deriving DecidableEq, Repr

namespace Value

/-- `cbor::from_value::<Upload>`. -/
def toUpload? : Value → Option Upload
  | upload b => some b
  | _ => none

/-- `cbor::from_value::<Instantiate>`. -/
def toInstantiate? : Value → Option Instantiate
  | instantiate b => some b
  | _ => none

/-- `cbor::from_value::<Call>`. -/
def toCall? : Value → Option Call
  | call b => some b
  | _ => none

/-- `cbor::from_value::<Upgrade>`. -/
def toUpgrade? : Value → Option Upgrade
  | upgrade b => some b
  | _ => none

end Value

namespace Transaction

/-- The runtime's result of dispatching a call (`transaction::CallResult`). -/
inductive CallResult
  | ok (value : Value)
  | failed (module : String) (code : U32) (message : String)
  deriving DecidableEq, Repr

/-- Whether the call succeeded. -/
def CallResult.isSuccess : CallResult → Bool
  | ok _ => true
  | failed .. => false

/-- A method call: the method name and its body. -/
structure Call where
  method : String
  body : Value
  deriving DecidableEq, Repr

end Transaction

namespace Sdk

/-- Specifies when the caller (smart contract) wants to be notified of a reply. -/
inductive NotifyReply
  | never
  | onError
  | onSuccess
  | always
  deriving DecidableEq, Repr

/-- Messages that contracts emit; processed after the contract execution completes. -/
inductive Message
  | call (id : U64) (reply : NotifyReply) (method : String) (body : Value) (maxGas : Option U64)
  deriving DecidableEq, Repr

/-- Call result, as seen by a contract. -/
inductive CallResult
  | ok (value : Value)
  | failed (module : String) (code : U32)
  deriving DecidableEq, Repr

/-- Check whether the call result indicates a successful operation or not. -/
def CallResult.isSuccess : CallResult → Bool
  | ok _ => true
  | failed .. => false

/-- `From<transaction::CallResult>`: the message is dropped. -/
def CallResult.ofTransaction : Transaction.CallResult → CallResult
  | .ok value => ok value
  | .failed module code _ => failed module code

@[simp] theorem isSuccess_ofTransaction (r : Transaction.CallResult) :
    (CallResult.ofTransaction r).isSuccess = r.isSuccess := by
  cases r <;> rfl

/-- Replies to delivered messages. -/
inductive Reply
  | call (id : U64) (result : CallResult)
  deriving DecidableEq, Repr

/-- What a contract returns on success: data and the messages it emitted. -/
structure ExecutionOk where
  data : Bytes
  messages : List Message
  deriving DecidableEq, Repr

end Sdk

end OasisContracts
