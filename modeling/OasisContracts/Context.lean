import OasisContracts.Params

/-!
# Transaction contexts

Modelled from the spec: the runtime's transaction context (`context.rs`, the overlay store and
the core module's gas meter are not under `src/`), as far as the contracts module reads and
writes it.

* `State` is the runtime state the module sees, split by the key prefixes of `lib.rs`'s `state`
  module: the two identifier counters, `CODE_INFO`, `CODE`, `INSTANCE_INFO`, the per-instance
  store, and everything that belongs to other modules.
* `Write` is one store write and `State.apply` applies it. A context holds the state it was opened
  on (`base`) and its own overlay of writes; `TxCtx.view` is what a read sees.
* `TxCtx` carries the fee's gas limit and the gas used so far, with `gasUsed ≤ gasLimit` and the
  limit a `u64` as fields, so that no context violates them.
* `trace` is a record of the run, kept for stating properties and never reverted: every gas
  charge, and what `process_execution_result` does (`EventKind`), each tagged with the number
  of `process_execution_result` activations open at the time (`nest`).
-/

namespace OasisContracts

/-- The runtime state. -/
structure State where
  nextCodeId : Option CodeId
  nextInstanceId : Option InstanceId
  codeInfo : CodeId → Option Code
  code : CodeId → Option Bytes
  instanceInfo : InstanceId → Option Instance
  instanceState : InstanceId → Bytes → Option Bytes
  other : Bytes → Option Bytes

/-- The empty state at genesis. -/
def State.genesis : State :=
  ⟨none, none, fun _ => none, fun _ => none, fun _ => none, fun _ _ => none, fun _ => none⟩

/-- One store write. -/
inductive Write
  | nextCodeId (id : CodeId)
  | nextInstanceId (id : InstanceId)
  | codeInfo (key : CodeId) (info : Code)
  | code (key : CodeId) (code : Bytes)
  | instanceInfo (key : InstanceId) (info : Instance)
  | instanceState (id : InstanceId) (key : Bytes) (value : Option Bytes)
  | other (key : Bytes) (value : Option Bytes)
  deriving DecidableEq, Repr

/-- Apply one write. -/
def State.apply (s : State) : Write → State
  | .nextCodeId id => { s with nextCodeId := some id }
  | .nextInstanceId id => { s with nextInstanceId := some id }
  | .codeInfo k c => { s with codeInfo := Function.update s.codeInfo k (some c) }
  | .code k b => { s with code := Function.update s.code k (some b) }
  | .instanceInfo k i => { s with instanceInfo := Function.update s.instanceInfo k (some i) }
  | .instanceState i k v =>
    { s with instanceState := Function.update s.instanceState i (Function.update (s.instanceState i) k v) }
  | .other k v => { s with other := Function.update s.other k v }

/-- Apply writes in order. -/
def State.applyAll (s : State) (ws : List Write) : State := ws.foldl State.apply s

@[simp] theorem State.applyAll_nil (s : State) : s.applyAll [] = s := rfl

@[simp] theorem State.applyAll_append (s : State) (ws ws' : List Write) :
    s.applyAll (ws ++ ws') = (s.applyAll ws).applyAll ws' := List.foldl_append _ _ _ _

@[simp] theorem State.applyAll_singleton (s : State) (w : Write) : s.applyAll [w] = s.apply w := rfl

/-- Execution mode of a context. -/
inductive Mode
  | executeTx
  | checkTx
  | simulateTx
  deriving DecidableEq, Repr

/-- An emitted event tag. -/
structure Tag where
  key : Bytes
  value : Bytes
  deriving DecidableEq, Repr

/-- A runtime message emitted to the consensus layer, with its hook. -/
structure RuntimeMessage where
  body : Bytes
  deriving DecidableEq, Repr

/-- What a run does, as recorded in the trace. -/
inductive EventKind
  /-- `use_tx_gas` charged `amount`. -/
  | charge (amount : ℕ)
  /-- The charge just recorded moved a child's consumption to its parent. -/
  | absorb (amount : ℕ)
  /-- `process_execution_result` started at `CallDepth` `depth` on `messages` messages. -/
  | activate (depth : U16) (messages : ℕ)
  /-- A child was dispatched; recorded in the child's own context, opened at `CallDepth` `depth`. -/
  | dispatch (depth : U16) (message : Sdk.Message)
  /-- The child returned `result`. -/
  | result (result : Transaction.CallResult)
  /-- `handle_reply` was invoked on the instance `contract` with `reply`. -/
  | reply (contract : InstanceId) (reply : Sdk.Reply)
  /-- The reply's execution result was processed into `data`. -/
  | replyData (data : Bytes)
  deriving DecidableEq, Repr

/-- An event, with the number of `process_execution_result` activations open when it happened. -/
structure Event where
  nest : ℕ
  kind : EventKind
  deriving DecidableEq, Repr

/-- A transaction context. -/
structure TxCtx where
  mode : Mode
  base : State
  writes : List Write
  caller : Address
  gasLimit : ℕ
  gasUsed : ℕ
  depth : U16
  tags : List Tag
  messages : List RuntimeMessage
  nest : ℕ
  trace : List Event
  gasUsed_le : gasUsed ≤ gasLimit
  gasLimit_le : gasLimit ≤ u64Max

namespace TxCtx

/-- The state a read in this context sees. -/
def view (c : TxCtx) : State := c.base.applyAll c.writes

/-- `core::Module::remaining_gas`: the fee's gas less the gas used, a `u64`. -/
def remainingGas (c : TxCtx) : U64 :=
  ⟨c.gasLimit - c.gasUsed, by have := c.gasLimit_le; unfold u64Max at this; omega⟩

/-- `is_check_only`. -/
def isCheckOnly (c : TxCtx) : Bool := c.mode != .executeTx

/-- Append an event to the trace. -/
def record (c : TxCtx) (k : EventKind) : TxCtx := { c with trace := c.trace ++ [⟨c.nest, k⟩] }

/-- Write to the context's overlay. -/
def write (c : TxCtx) (w : Write) : TxCtx := { c with writes := c.writes ++ [w] }

/-- `emit_tag`. -/
def emitTag (c : TxCtx) (t : Tag) : TxCtx := { c with tags := c.tags ++ [t] }

/-- `emit_message`. -/
def emitMessage (c : TxCtx) (m : RuntimeMessage) : TxCtx := { c with messages := c.messages ++ [m] }

/-- The context after a successful charge of `gas`: the charge is recorded. -/
def charge (c : TxCtx) (gas : ℕ) (h : c.gasUsed + gas ≤ c.gasLimit) : TxCtx :=
  { c.record (.charge gas) with gasUsed := c.gasUsed + gas, gasUsed_le := h }

/-- A top-level transaction context on state `s`, with the fee's gas `gas`. -/
def top (mode : Mode) (s : State) (caller : Address) (gas : ℕ) (h : gas ≤ u64Max) : TxCtx :=
  ⟨mode, s, [], caller, gas, 0, 0, [], [], 0, [], Nat.zero_le _, h⟩

@[simp] theorem view_write (c : TxCtx) (w : Write) : (c.write w).view = c.view.apply w := by
  simp [view, write]

@[simp] theorem record_view (c : TxCtx) (k : EventKind) : (c.record k).view = c.view := rfl

@[simp] theorem remainingGas_val (c : TxCtx) : c.remainingGas.val = c.gasLimit - c.gasUsed := rfl

end TxCtx

end OasisContracts
