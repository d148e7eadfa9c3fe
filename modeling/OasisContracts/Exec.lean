import OasisContracts.Context

/-!
# Computations in a transaction context

`Exec α` is a computation of the module: it runs in a transaction context and ends in a context
and a result, or runs out of fuel (`none`). An error does not undo what came before it in the
same context (Rust's `?` returns early, and the writes stay in the overlay until the enclosing
context is discarded); only `withChild` opens a context whose writes, tags and messages can be
discarded.

The primitives are the context methods the module calls: `useTxGas` and `remainingGas` of the core
module, `emitTags`, `emitMessages`, `write`, the reads `view`, `txCallerAddress`, `isCheckOnly`
and `callDepth`, and `Policy.enforce`. `withChild` is `with_child` followed by `with_tx` and the
commits of `process_execution_result`; `nested` counts the open activations of
`process_execution_result` for the trace; `catchResult` is the closure-and-match of
`dispatch_call`, which turns an error into a value.
-/

namespace OasisContracts

/-- A computation in a transaction context. -/
def Exec (α : Type) : Type := TxCtx → Option (TxCtx × Except Error α)

namespace Exec

variable {α β : Type}

/-- Return a value. -/
protected def pure (a : α) : Exec α := fun c => some (c, .ok a)

/-- Sequencing: an error or running out of fuel stops the computation. -/
protected def bind (x : Exec α) (f : α → Exec β) : Exec β := fun c =>
  match x c with
  | none => none
  | some (c', .error e) => some (c', .error e)
  | some (c', .ok a) => f a c'

instance : Monad Exec where
  pure := Exec.pure
  bind := Exec.bind

/-- Return early with an error. -/
protected def throw (e : Error) : Exec α := fun c => some (c, .error e)

instance : MonadExceptOf Error Exec where
  throw := Exec.throw
  tryCatch x h := fun c =>
    match x c with
    | some (c', .error e) => h e c'
    | r => r

/-- Out of fuel. -/
def outOfFuel : Exec α := fun _ => none

@[simp] theorem pure_apply (a : α) (c : TxCtx) : (pure a : Exec α) c = some (c, .ok a) := rfl

theorem bind_apply (x : Exec α) (f : α → Exec β) (c : TxCtx) :
    (x >>= f) c = match x c with
      | none => none
      | some (c', .error e) => some (c', .error e)
      | some (c', .ok a) => f a c' := rfl

@[simp] theorem throw_apply (e : Error) (c : TxCtx) :
    (throw e : Exec α) c = some (c, .error e) := rfl

@[simp] theorem outOfFuel_apply (c : TxCtx) : (outOfFuel : Exec α) c = none := rfl

/-- What a successful or failed run of `x >>= f` is made of. -/
theorem bind_eq_some {x : Exec α} {f : α → Exec β} {c c' : TxCtx} {r : Except Error β} :
    (x >>= f) c = some (c', r) ↔
      (∃ e, x c = some (c', .error e) ∧ r = .error e) ∨
        ∃ c₁ a, x c = some (c₁, .ok a) ∧ f a c₁ = some (c', r) := by
  rw [bind_apply]
  rcases x c with _ | ⟨c₁, _ | a⟩ <;> simp <;> aesop

/-! ## Primitives -/

/-- `core::Module::use_tx_gas`: charge `gas`, failing with out of gas past the fee's limit. -/
def useTxGas (gas : ℕ) : Exec Unit := fun c =>
  if h : c.gasUsed + gas ≤ c.gasLimit then some (c.charge gas h, .ok ())
  else some (c, .error (.core .outOfGas))

/-- `core::Module::remaining_gas`. -/
def remainingGas : Exec U64 := fun c => some (c, .ok c.remainingGas)

/-- Record an event in the trace. -/
def record (k : EventKind) : Exec Unit := fun c => some (c.record k, .ok ())

/-- Write to the store. -/
def write (w : Write) : Exec Unit := fun c => some (c.write w, .ok ())

/-- Emit tags, in order. -/
def emitTags (tags : List Tag) : Exec Unit := fun c => some (tags.foldl TxCtx.emitTag c, .ok ())

/-- Emit runtime messages, in order. -/
def emitMessages (messages : List RuntimeMessage) : Exec Unit := fun c =>
  some (messages.foldl TxCtx.emitMessage c, .ok ())

/-- Read the state. -/
def view : Exec State := fun c => some (c, .ok c.view)

/-- `tx_caller_address`. -/
def txCallerAddress : Exec Address := fun c => some (c, .ok c.caller)

/-- `is_check_only`. -/
def isCheckOnly : Exec Bool := fun c => some (c, .ok c.isCheckOnly)

/-- `*ctx.value(CONTEXT_KEY_DEPTH).or_default()`. -/
def callDepth : Exec U16 := fun c => some (c, .ok c.depth)

/-- Run `x` as an activation of `process_execution_result`, one level deeper in the trace. -/
def nested (x : Exec α) : Exec α := fun c =>
  match x { c with nest := c.nest + 1 } with
  | none => none
  | some (c', r) => some ({ c' with nest := c.nest }, r)

/-- The closure of `dispatch_call`: its error, if any, as a value. -/
def catchResult (x : Exec α) : Exec (Except Error α) := fun c =>
  match x c with
  | none => none
  | some (c', r) => some (c', .ok r)

end Exec

/-- The child transaction context: opened on the parent's view with an empty overlay, signed by
`caller`, with fee gas `gas` and `CallDepth` set to `depth`. -/
def TxCtx.child (c : TxCtx) (caller : Address) (gas : U64) (depth : U16) : TxCtx :=
  ⟨c.mode, c.view, [], caller, gas.val, 0, depth, [], [], c.nest, c.trace, Nat.zero_le _,
    by have := gas.isLt; unfold u64Max; omega⟩

/-- The parent after its child returned: it keeps the run's trace, and on success the child's
overlay is committed on top of its own. -/
def TxCtx.afterChild (c child : TxCtx) (success : Bool) : TxCtx :=
  { c with writes := if success then c.writes ++ child.writes else c.writes, trace := child.trace }

namespace Exec

/-- `with_child` then `with_tx`: run `body` as a child transaction and return its call result,
its remaining gas, and its tags and runtime messages when it succeeded (none otherwise); the
child's store writes are committed into this context only on success. -/
def withChild (caller : Address) (gas : U64) (depth : U16) (body : Exec Transaction.CallResult) :
    Exec (Transaction.CallResult × U64 × List Tag × List RuntimeMessage) := fun c =>
  match body (c.child caller gas depth) with
  | none => none
  | some (c', .error e) => some (c.afterChild c' false, .error e)
  | some (c', .ok r) =>
    some (c.afterChild c' r.isSuccess,
      .ok (r, c'.remainingGas, if r.isSuccess then (c'.tags, c'.messages) else ([], [])))

end Exec

/-- `Policy::enforce`: `Nobody` rejects, `Address(a)` accepts only the caller `a`, `Everyone`
accepts. -/
def Policy.enforce : Policy → Exec Unit
  | .nobody => throw .forbidden
  | .address a => do if a = (← Exec.txCallerAddress) then pure () else throw .forbidden
  | .everyone => pure ()

end OasisContracts
