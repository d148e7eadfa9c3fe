import OasisContracts.SubCall

/-!
# The message loop, child by child

`process_execution_result` runs its guards and then its loop over the emitted messages. What a
run of the loop does is said here once, by inverting it: every run is a `LoopRun`
(`processMessages_loopRun`), which names, for each message in order,

* the run of its child in the context the sub-call opens (`subCallContext`, at `CallDepth` one
  more than the activation's) and the result the sub-call returned to the loop (`SubCallRun`):
  a value, since the child's errors are failed results;
* when the reply mode asks for a reply on that result, the run of the emitting contract's
  `handle_reply` on the reply carrying the message's id and the result, and the run of
  `process_execution_result` on what it returned;
* and how the loop ended: after every message, or with the error of a reply's `handle_reply` or
  of its processing.

`ActivationRun` adds the guards before the loop (`processExecutionResult_activationRun`). The
later modules read the routing log, the depth and fan-out of the children, and where an
activation's errors come from off these runs.

* `LoopRun.mem_children`: every child runs in the context a sub-call opened from a context of the
  loop's own transaction (`SameTx`), for one of the loop's messages.
* `LoopRun.error_cases`: a loop ends in an error only through a reply: the error of a
  `handle_reply` of the emitting contract, or of the processing of what it returned, run in the
  loop's own transaction.
-/

namespace OasisContracts

open Exec

/-! ## Contexts of one transaction -/

/-- `k` is reached from `c` inside one transaction, at the same level of activations: the same
mode, base state, caller, gas limit, `CallDepth` and nesting, and at least the gas used. -/
structure SameTx (c k : TxCtx) : Prop where
  mode : k.mode = c.mode
  base : k.base = c.base
  caller : k.caller = c.caller
  gasLimit : k.gasLimit = c.gasLimit
  depth : k.depth = c.depth
  nest : k.nest = c.nest
  gasUsed_le : c.gasUsed ≤ k.gasUsed

instance : IsPreorder TxCtx SameTx where
  refl _ := ⟨rfl, rfl, rfl, rfl, rfl, rfl, le_rfl⟩
  trans _ _ _ h₁ h₂ := ⟨h₂.mode.trans h₁.mode, h₂.base.trans h₁.base, h₂.caller.trans h₁.caller,
    h₂.gasLimit.trans h₁.gasLimit, h₂.depth.trans h₁.depth, h₂.nest.trans h₁.nest,
    h₁.gasUsed_le.trans h₂.gasUsed_le⟩

theorem Runs.sameTx {m : U16} {c k : TxCtx} (h : Runs m c k) : SameTx c k :=
  ⟨h.mode, h.base, h.caller, h.gasLimit, h.depth, h.nest, h.gasUsed_le⟩

theorem SameTx.record (c : TxCtx) (k : EventKind) : SameTx c (c.record k) :=
  ⟨rfl, rfl, rfl, rfl, rfl, rfl, le_rfl⟩

theorem SameTx.record_record (c : TxCtx) (k k' : EventKind) : SameTx c ((c.record k).record k') :=
  trans_of SameTx (.record _ _) (.record _ _)

variable (H : Host) (contract : Contract) (d : U16)

/-! ## Runs of the loop -/

/-- The sub-call of `msg` from `c`, with fuel `n` for its child, returned `result` to the loop and
left the parent at `c₁`: its child ran in the context the sub-call opened and returned `result`.
-/
def SubCallRun (n : ℕ) (msg : Sdk.Message) (c c₁ : TxCtx) (result : Transaction.CallResult) :
    Prop :=
  match msg with
  | .call _ _ method body _ =>
    (∃ k', dispatchTxCall H n ⟨method, body⟩ (subCallContext H contract d msg c) =
      some (k', .ok result)) ∧
    callChild H contract d msg (dispatchTxCall H n ⟨method, body⟩) c = some (c₁, .ok result)

/-- One turn of the loop: the sub-call of the first message returns its child's result; the loop
then goes on with the rest of the messages, directly when the reply mode does not answer that
result, and otherwise after the emitting contract's `handle_reply` on the reply and the processing
of what it returned, unless one of these two fails. -/
theorem processMessages_cons_eq_some {n : ℕ} {data : Bytes} {id : U64} {reply : Sdk.NotifyReply}
    {method : String} {body : Value} {maxGas : Option U64} {messages : List Sdk.Message}
    {c c' : TxCtx} {r : Except Error Bytes}
    (h : processMessages H (n + 1) contract d data (.call id reply method body maxGas :: messages) c =
      some (c', r)) :
    ∃ c₁ result, SubCallRun H contract d n (.call id reply method body maxGas) c c₁ result ∧
      (reply.delivers result.isSuccess = false ∧
          processMessages H n contract d data messages (c₁.record (.result result)) = some (c', r) ∨
        reply.delivers result.isSuccess = true ∧
          ((∃ e, H.handleReply contract (.call id (.ofTransaction result))
              ((c₁.record (.result result)).record
                (.reply contract.instanceInfo.id (.call id (.ofTransaction result)))) =
              some (c', .error e) ∧ r = .error e) ∨
            ∃ c₂ eo, H.handleReply contract (.call id (.ofTransaction result))
              ((c₁.record (.result result)).record
                (.reply contract.instanceInfo.id (.call id (.ofTransaction result)))) =
              some (c₂, .ok eo) ∧
              ((∃ e, processExecutionResult H n contract eo c₂ = some (c', .error e) ∧ r = .error e) ∨
                ∃ c₃ D, processExecutionResult H n contract eo c₂ = some (c₃, .ok D) ∧
                  processMessages H n contract d (if D.isEmpty then data else D) messages
                    (c₃.record (.replyData D)) = some (c', r)))) := by
  simp only [processMessages] at h
  -- The sub-call returns the child's result.
  rcases bind_eq_some.1 h with ⟨e, h₁, -⟩ | ⟨c₁, result, h₁, h₂⟩
  · obtain ⟨_, _, _, hr, -⟩ :=
      callChild_eq_some H (dispatchTxCall_gasLimit H n _) (dispatchTxCall_noError H n _) h₁
    cases hr
  obtain ⟨k', result', hc, hr, -⟩ :=
    callChild_eq_some H (dispatchTxCall_gasLimit H n _) (dispatchTxCall_noError H n _) h₁
  cases hr
  refine ⟨c₁, result, ⟨⟨k', hc⟩, h₁⟩, ?_⟩
  rw [record_bind_apply] at h₂
  split at h₂
  · -- The reply is delivered, handled and processed.
    rw [record_bind_apply] at h₂
    refine .inr ⟨‹_›, ?_⟩
    rcases bind_eq_some.1 h₂ with ⟨e, h₃, rfl⟩ | ⟨c₂, eo, h₃, h₄⟩
    · exact .inl ⟨e, h₃, rfl⟩
    rcases bind_eq_some.1 h₄ with ⟨e, h₅, rfl⟩ | ⟨c₃, D, h₅, h₆⟩
    · exact .inr ⟨c₂, eo, h₃, .inl ⟨e, h₅, rfl⟩⟩
    · exact .inr ⟨c₂, eo, h₃, .inr ⟨c₃, D, h₅, h₆⟩⟩
  · exact .inl ⟨Bool.eq_false_iff.2 ‹_›, h₂⟩

/-- A run of the message loop of an activation of `contract` at `CallDepth` `d`, with fuel `n`,
over `messages` with the data `data` so far, from `c` to `c'` with the outcome `r`. `children`
are the contexts the children ran in, in order; `outcomes` are their results, each with the data
its reply's processing returned (`[]` when no reply was delivered, or when it failed). -/
inductive LoopRun : ℕ → Bytes → List Sdk.Message → TxCtx → TxCtx → Except Error Bytes →
    List TxCtx → List (Transaction.CallResult × Bytes) → Prop
  /-- No message is left: the loop returns the data it has. -/
  | nil {n data c} : LoopRun n data [] c c (.ok data) [] []
  /-- The child returned `result`, which the reply mode does not answer; the loop goes on. -/
  | skip {n data id reply method body maxGas messages c c₁ result c' r children outcomes} :
      SubCallRun H contract d n (.call id reply method body maxGas) c c₁ result →
      reply.delivers result.isSuccess = false →
      LoopRun n data messages (c₁.record (.result result)) c' r children outcomes →
      LoopRun (n + 1) data (.call id reply method body maxGas :: messages) c c' r
        (subCallContext H contract d (.call id reply method body maxGas) c :: children)
        ((result, []) :: outcomes)
  /-- The child returned `result`, which the reply mode answers: the emitting contract's
  `handle_reply` returned `eo`, whose processing returned `D`; the loop goes on, with `D` as its
  data when `D` is not empty. -/
  | deliver {n data id reply method body maxGas messages c c₁ result c₂ eo c₃ D c' r children
      outcomes} :
      SubCallRun H contract d n (.call id reply method body maxGas) c c₁ result →
      reply.delivers result.isSuccess = true →
      H.handleReply contract (.call id (.ofTransaction result))
        ((c₁.record (.result result)).record
          (.reply contract.instanceInfo.id (.call id (.ofTransaction result)))) = some (c₂, .ok eo) →
      processExecutionResult H n contract eo c₂ = some (c₃, .ok D) →
      LoopRun n (if D.isEmpty then data else D) messages (c₃.record (.replyData D)) c' r children
        outcomes →
      LoopRun (n + 1) data (.call id reply method body maxGas :: messages) c c' r
        (subCallContext H contract d (.call id reply method body maxGas) c :: children)
        ((result, D) :: outcomes)
  /-- The reply's `handle_reply` failed with `e`, which ends the loop. -/
  | replyFails {n data id reply method body maxGas messages c c₁ result c' e} :
      SubCallRun H contract d n (.call id reply method body maxGas) c c₁ result →
      reply.delivers result.isSuccess = true →
      H.handleReply contract (.call id (.ofTransaction result))
        ((c₁.record (.result result)).record
          (.reply contract.instanceInfo.id (.call id (.ofTransaction result)))) = some (c', .error e) →
      LoopRun (n + 1) data (.call id reply method body maxGas :: messages) c c' (.error e)
        [subCallContext H contract d (.call id reply method body maxGas) c] [(result, [])]
  /-- The processing of what the reply's `handle_reply` returned failed with `e`, which ends the
  loop. -/
  | processFails {n data id reply method body maxGas messages c c₁ result c₂ eo c' e} :
      SubCallRun H contract d n (.call id reply method body maxGas) c c₁ result →
      reply.delivers result.isSuccess = true →
      H.handleReply contract (.call id (.ofTransaction result))
        ((c₁.record (.result result)).record
          (.reply contract.instanceInfo.id (.call id (.ofTransaction result)))) = some (c₂, .ok eo) →
      processExecutionResult H n contract eo c₂ = some (c', .error e) →
      LoopRun (n + 1) data (.call id reply method body maxGas :: messages) c c' (.error e)
        [subCallContext H contract d (.call id reply method body maxGas) c] [(result, [])]

/-- **The loop, inverted.** Every run of the message loop is a `LoopRun`. -/
theorem processMessages_loopRun : ∀ (n : ℕ) (data : Bytes) (messages : List Sdk.Message)
    {c c' : TxCtx} {r : Except Error Bytes},
    processMessages H n contract d data messages c = some (c', r) →
    ∃ children outcomes, LoopRun H contract d n data messages c c' r children outcomes
  | n, data, [], c, c', r, h => by
    rw [processMessages_nil, pure_apply, Option.some.injEq, Prod.mk.injEq] at h
    obtain ⟨rfl, rfl⟩ := h
    exact ⟨[], [], .nil⟩
  | 0, _, _ :: _, _, _, _, h => by cases h
  | n + 1, data, .call id reply method body maxGas :: messages, c, c', r, h => by
    obtain ⟨c₁, result, hsub, ⟨hdel, h₂⟩ | ⟨hdel, ⟨e, h₃, rfl⟩ | ⟨c₂, eo, h₃, ⟨e, h₅, rfl⟩ |
      ⟨c₃, D, h₅, h₆⟩⟩⟩⟩ := processMessages_cons_eq_some H contract d h
    · obtain ⟨children, outcomes, hl⟩ := processMessages_loopRun n data messages h₂
      exact ⟨_, _, .skip hsub hdel hl⟩
    · exact ⟨_, _, .replyFails hsub hdel h₃⟩
    · exact ⟨_, _, .processFails hsub hdel h₃ h₅⟩
    · obtain ⟨children, outcomes, hl⟩ := processMessages_loopRun n _ messages h₆
      exact ⟨_, _, .deliver hsub hdel h₃ h₅ hl⟩

/-- A run of an activation of `process_execution_result` for `contract` on `result`, from `c`,
with fuel `n`, to `c'` with the outcome `r`: one level deeper, the activation is recorded and
the guards run at the context's `CallDepth`; a guard's error ends it, with no child, and past the
guards the loop runs over the messages. -/
inductive ActivationRun (result : Sdk.ExecutionOk) (c : TxCtx) :
    ℕ → TxCtx → Except Error Bytes → List TxCtx → List (Transaction.CallResult × Bytes) → Prop
  /-- A guard failed with `e`. -/
  | guard {n c₁ e} :
      checkMessages H c.depth result.messages
        ({ c with nest := c.nest + 1 }.record (.activate c.depth result.messages.length)) =
        some (c₁, .error e) →
      ActivationRun result c (n + 1) { c₁ with nest := c.nest } (.error e) [] []
  /-- The guards passed, and the loop ran. -/
  | loop {n c₁ c₂ r children outcomes} :
      checkMessages H c.depth result.messages
        ({ c with nest := c.nest + 1 }.record (.activate c.depth result.messages.length)) =
        some (c₁, .ok ()) →
      LoopRun H contract c.depth n result.data result.messages c₁ c₂ r children outcomes →
      ActivationRun result c (n + 1) { c₂ with nest := c.nest } r children outcomes

/-- **An activation, inverted.** Every run of `process_execution_result` is an `ActivationRun`. -/
theorem processExecutionResult_activationRun {n : ℕ} {result : Sdk.ExecutionOk} {c c' : TxCtx}
    {r : Except Error Bytes} (h : processExecutionResult H n contract result c = some (c', r)) :
    ∃ children outcomes, ActivationRun H contract result c n c' r children outcomes := by
  cases n with
  | zero => cases h
  | succ n =>
    obtain ⟨c₁, r₁, h₁, ⟨e, rfl, rfl, rfl⟩ | ⟨rfl, c₂, h₂, rfl⟩⟩ := processExecutionResult_eq_some h
    · exact ⟨[], [], .guard h₁⟩
    · obtain ⟨children, outcomes, hl⟩ := processMessages_loopRun H contract c.depth n _ _ h₂
      exact ⟨_, _, .loop h₁ hl⟩

/-! ## What a run of the loop says -/

variable {H contract d}

/-- A sub-call leaves its parent in the same transaction, at the same level. -/
theorem SubCallRun.sameTx {n : ℕ} {msg : Sdk.Message} {c c₁ : TxCtx}
    {result : Transaction.CallResult} (h : SubCallRun H contract d n msg c c₁ result) :
    SameTx c c₁ := by
  obtain ⟨id, reply, method, body, maxGas⟩ := msg
  obtain ⟨k', result', -, -, hmode, hbase, hcaller, hlim, hdepth, hnest, hgas, -⟩ :=
    callChild_eq_some H (dispatchTxCall_gasLimit H n _) (dispatchTxCall_noError H n _) h.2
  exact ⟨hmode, hbase, hcaller, hlim, hdepth, hnest, by omega⟩

/-- A reply delivered, handled and processed leaves the loop in the same transaction, at the same
level, where it records the reply's data. -/
theorem sameTx_of_reply {n : ℕ} {rep : Sdk.Reply} {eo : Sdk.ExecutionOk} {D : Bytes}
    {k₁ k₂ : EventKind} {c c₂ c₃ : TxCtx}
    (h₂ : H.handleReply contract rep ((c.record k₁).record k₂) = some (c₂, .ok eo))
    (h₃ : processExecutionResult H n contract eo c₂ = some (c₃, .ok D)) (k : EventKind) :
    SameTx c (c₃.record k) :=
  trans_of SameTx (trans_of SameTx (.record_record _ _ _)
    (trans_of SameTx (Holds.invokeQuiet (m := H.params.maxSubcallDepth) H _ _ h₂).toRuns.sameTx
      ((runs_of_fuel H n).1 _ _ h₃).toRuns.sameTx)) (.record _ _)

/-- One child per message, at most. -/
theorem LoopRun.length_children {n : ℕ} {data : Bytes} {messages : List Sdk.Message}
    {c c' : TxCtx} {r : Except Error Bytes} {children : List TxCtx}
    {outcomes : List (Transaction.CallResult × Bytes)}
    (h : LoopRun H contract d n data messages c c' r children outcomes) :
    children.length = outcomes.length ∧ children.length ≤ messages.length := by
  induction h with
  | nil => simp
  | skip _ _ _ ih | deliver _ _ _ _ _ ih => simp only [List.length_cons]; omega
  | replyFails | processFails => simp

/-- The child of a loop's first message, and the children of the rest of the loop run from a
later context of the same transaction. -/
private theorem children_cons {c c₁ : TxCtx} {msg : Sdk.Message} {messages : List Sdk.Message}
    {children : List TxCtx} (h₁ : SameTx c c₁)
    (ih : ∀ k ∈ children, ∃ m ∈ messages, ∃ c₀, SameTx c₁ c₀ ∧ k = subCallContext H contract d m c₀) :
    ∀ k ∈ subCallContext H contract d msg c :: children,
      ∃ m ∈ msg :: messages, ∃ c₀, SameTx c c₀ ∧ k = subCallContext H contract d m c₀ :=
  List.forall_mem_cons.2 ⟨⟨msg, List.mem_cons_self _ _, c, refl_of SameTx c, rfl⟩, fun k hk =>
    let ⟨m, hm, c₀, h₀, hk⟩ := ih k hk
    ⟨m, List.mem_cons_of_mem _ hm, c₀, trans_of SameTx h₁ h₀, hk⟩⟩

/-- Every child runs in the context a sub-call opened, for one of the loop's messages, from a
context of the loop's own transaction. -/
theorem LoopRun.mem_children {n : ℕ} {data : Bytes} {messages : List Sdk.Message} {c c' : TxCtx}
    {r : Except Error Bytes} {children : List TxCtx} {outcomes : List (Transaction.CallResult × Bytes)}
    (h : LoopRun H contract d n data messages c c' r children outcomes) :
    ∀ k ∈ children, ∃ msg ∈ messages, ∃ c₀, SameTx c c₀ ∧ k = subCallContext H contract d msg c₀ := by
  induction h with
  | nil => simp
  | skip hsub _ _ ih => exact children_cons (trans_of SameTx hsub.sameTx (.record _ _)) ih
  | deliver hsub _ h₂ h₃ _ ih =>
    exact children_cons (trans_of SameTx hsub.sameTx (sameTx_of_reply h₂ h₃ _)) ih
  | replyFails | processFails => exact children_cons (refl_of SameTx _) (by simp)

/-- **A loop ends in an error only through a reply.** The error is that of a `handle_reply` of
the emitting contract, or of the processing of what it returned, with less fuel; each runs in a
context of the loop's own transaction. -/
theorem LoopRun.error_cases {n : ℕ} {data : Bytes} {messages : List Sdk.Message} {c c' : TxCtx}
    {e : Error} {children : List TxCtx} {outcomes : List (Transaction.CallResult × Bytes)}
    (h : LoopRun H contract d n data messages c c' (.error e) children outcomes) :
    ∃ m k rep, m < n ∧ SameTx c k ∧
      (H.handleReply contract rep k = some (c', .error e) ∨
        ∃ k₂ eo, H.handleReply contract rep k = some (k₂, .ok eo) ∧
          processExecutionResult H m contract eo k₂ = some (c', .error e)) := by
  generalize hr : (Except.error e : Except Error Bytes) = r at h
  induction h with
  | nil => cases hr
  | skip hsub _ _ ih =>
    obtain ⟨m, k, rep, hm, hk, hrep⟩ := ih hr
    exact ⟨m, k, rep, by omega, trans_of SameTx (trans_of SameTx hsub.sameTx (.record _ _)) hk, hrep⟩
  | deliver hsub _ h₂ h₃ _ ih =>
    obtain ⟨m, k, rep, hm, hk, hrep⟩ := ih hr
    exact ⟨m, k, rep, by omega,
      trans_of SameTx (trans_of SameTx hsub.sameTx (sameTx_of_reply h₂ h₃ _)) hk, hrep⟩
  | replyFails hsub _ h₂ =>
    cases hr
    exact ⟨_, _, _, Nat.lt_succ_self _, trans_of SameTx hsub.sameTx (.record_record _ _ _), .inl h₂⟩
  | processFails hsub _ h₂ h₃ =>
    cases hr
    exact ⟨_, _, _, Nat.lt_succ_self _, trans_of SameTx hsub.sameTx (.record_record _ _ _),
      .inr ⟨_, _, h₂, h₃⟩⟩

end OasisContracts
