import OasisContracts.Nesting
import OasisContracts.History

/-!
# The depth guard's payload at `u16::MAX`

`process_execution_result` computes `current_depth + 1` in `u16` twice: for the child's
`CallDepth`, and in the payload of `CallDepthExceeded` when the guard fires. The first runs only
past the guard, where `current_depth < max_subcall_depth`, so it never wraps. The second runs
exactly where `current_depth ≥ max_subcall_depth`; a run from `CallDepth` 0 reaches
`CallDepth = max_subcall_depth` and no further, so the payload wraps exactly when
`max_subcall_depth = u16::MAX` and a chain of sub-calls reaches it.

* `processExecutionResult_depthExceeded`: an activation at or past the limit, with messages,
  records its start and raises `CallDepthExceeded(current_depth + 1, max_subcall_depth)`.
* `txCall_of_stored`, `dispatchTxCall_call_eq`: `tx_call` on a stored instance, once its guards
  pass, and a dispatched `contracts.Call`, whose errors become failed call results.
* `chainHost m`: `max_subcall_depth = m`, and a contract that calls itself, never asking for a
  reply. `selfCall_chain`: from `CallDepth` `m - j`, with gas for `j` charges, its run reaches
  `CallDepth` `m`, where the guard fires, and the failed result reaches the caller.
* `call_depth_payload_wraps`: from `CallDepth` 0 the run ends and reports
  `CallDepthExceeded(m + 1, m)` for the deepest call; at `m = u16::MAX` that payload is `0`.
-/

namespace OasisContracts

open Exec

/-! ## The guard, `tx_call` and the dispatcher -/

section General

variable (H : Host)

/-- **The guard's payload.** An activation with messages at or past the limit records its start
and raises `CallDepthExceeded(current_depth + 1, max_subcall_depth)`, the sum in 16 bits. -/
theorem processExecutionResult_depthExceeded {n : ℕ} {contract : Contract}
    {result : Sdk.ExecutionOk} {c : TxCtx} (hne : result.messages ≠ [])
    (hd : H.params.maxSubcallDepth ≤ c.depth) :
    processExecutionResult H (n + 1) contract result c =
      some ({ { c with nest := c.nest + 1 }.record (.activate c.depth result.messages.length) with
          nest := c.nest },
        .error (.callDepthExceeded (c.depth + 1) H.params.maxSubcallDepth)) := by
  simp only [processExecutionResult, Exec.nested, bind_apply, callDepth_apply, record_apply,
    checkMessages_apply, if_pos (And.intro hne hd)]

theorem loadFrom_bind_of_eq {α β : Type} {get : State → Option α} {err : Error}
    {g : α → Exec β} {c : TxCtx} {a : α} (h : get c.view = some a) :
    (loadFrom get err >>= g) c = g a c := by
  rw [bind_apply, loadFrom_apply, h]

/-- `tx_call` in execute mode, with gas for its charge, on an instance whose code information and
code are stored: it transfers the tokens, calls the contract and processes the result. -/
theorem txCall_of_stored {n : ℕ} {body : Call} {c : TxCtx} {inst : Instance} {info : Code}
    {code : Bytes} (hg : c.gasUsed + H.params.gasCosts.txCall.val ≤ c.gasLimit)
    (hmode : c.isCheckOnly = false) (hinst : c.view.instanceInfo body.id = some inst)
    (hinfo : c.view.codeInfo inst.codeId = some info) (hcode : c.view.code inst.codeId = some code) :
    txCall H (n + 1) body c =
      (H.transferTokens c.caller (H.address inst) body.tokens >>= fun _ =>
        H.call ⟨info, code, inst⟩ body >>= fun result =>
        processExecutionResult H n ⟨info, code, inst⟩ result >>= fun data =>
        (pure ⟨data⟩ : Exec CallResult)) (c.charge _ hg) := by
  simp only [txCall, txCallerAddress_bind_apply, useTxGas_bind_apply, dif_pos hg,
    isCheckOnly_bind_apply, TxCtx.charge_isCheckOnly, hmode, Bool.false_and, Bool.false_eq_true,
    if_false, pure_bind_apply, loadInstanceInfo, loadCodeInfo, loadCode]
  rw [loadFrom_bind_of_eq hinst, loadFrom_bind_of_eq hinfo, loadFrom_bind_of_eq hcode]

/-- A dispatched `contracts.Call` is `tx_call`, whose error, if any, becomes the failed call result
`err.to_call_result()`. -/
theorem dispatchTxCall_call_eq (n : ℕ) (body : Call) (k : TxCtx) :
    dispatchTxCall H (n + 2) ⟨"contracts.Call", .call body⟩ k =
      match txCall H n body k with
      | none => none
      | some (k', .ok result) => some (k', .ok (.ok (.callResult result)))
      | some (k', .error e) => some (k', .ok e.toCallResult) := by
  rcases h : txCall H n body k with _ | ⟨k', _ | result⟩ <;>
    simp [dispatchTxCall, dispatchCall, handleCall, bind_apply, Exec.catchResult, Value.toCall?, h]

end General

/-! ## A contract that calls itself -/

/-- The self-calling contract's message: a call of instance `0`, the contract itself, that asks
for no reply. -/
def selfCall : Sdk.Message := .call 0 .never "contracts.Call" (.call ⟨⟨0⟩, [], []⟩) none

/-- The transaction `selfCall` runs in its child context. -/
def selfCallTx : Transaction.Call := ⟨"contracts.Call", .call ⟨⟨0⟩, [], []⟩⟩

/-- What the self-calling contract's `call` returns: no data, and `selfCall`. -/
def selfCallResult : Sdk.ExecutionOk := ⟨[], [selfCall]⟩

/-- A host with `max_subcall_depth = m` and the default parameters otherwise, whose contract
answers `call` with `selfCallResult` and its other entry points with nothing. -/
def chainHost (m : U16) : Host :=
  { Host.sample (fun _ entry _ _ => match entry with
        | .call _ => ⟨[], .ok selfCallResult⟩
        | _ => ⟨[], .ok ⟨[], []⟩⟩)
      fun _ _ _ _ => ⟨[], .ok .unit⟩ with
    params := { Parameters.default with maxSubcallDepth := m } }

theorem call_chainHost (m : U16) (contract : Contract) (body : Call) (c : TxCtx) :
    (chainHost m).call contract body c = some (c, .ok selfCallResult) := rfl

/-- Below the limit, with gas for one charge, the guards pass and charge `subcall_dispatch`. -/
theorem checkMessages_selfCall {m d : U16} (c : TxCtx) (hd : d < m)
    (hg : c.gasUsed + 100 ≤ c.gasLimit) :
    checkMessages (chainHost m) d selfCallResult.messages c = some (c.charge 100 hg, .ok ()) := by
  rw [checkMessages_apply, if_neg fun h => absurd h.2 (not_le.2 hd), dif_pos (show c.gasUsed +
    saturatingMul (chainHost m).params.gasCosts.subcallDispatch selfCallResult.messages.length ≤
    c.gasLimit from hg)]
  rfl

/-- One turn of the self-calling contract's loop: the call is dispatched one level deeper, in a
child context on the same view with all the remaining gas; its result is recorded, and no reply
follows. -/
theorem processMessages_selfCall {m : U16} {n : ℕ} {contract : Contract} {d : U16} {data : Bytes}
    {c c' : TxCtx} {r : Except Error Bytes}
    (h : processMessages (chainHost m) (n + 1) contract d data [selfCall] c = some (c', r)) :
    ∃ k k' result, k.depth = d + 1 ∧ k.mode = c.mode ∧ k.view = c.view ∧ k.gasUsed = 0 ∧
      k.gasLimit = c.gasLimit - c.gasUsed ∧
      dispatchTxCall (chainHost m) n selfCallTx k = some (k', .ok result) ∧
      (∀ e ∈ k'.trace, e ∈ c'.trace) ∧ ∃ L, (⟨L, .result result⟩ : Event) ∈ c'.trace := by
  have hlim := dispatchTxCall_gasLimit (chainHost m) n selfCallTx
  simp only [selfCall, processMessages] at h
  rcases bind_eq_some.1 h with ⟨e, h₁, -⟩ | ⟨c₁, result, h₁, h₂⟩
  · obtain ⟨_, _, -, hr, -⟩ := callChild_eq_some _ hlim (dispatchTxCall_noError _ _ _) h₁
    cases hr
  obtain ⟨k', result', hc, hr, -, -, -, -, -, -, -, -, -, -, htrace⟩ :=
    callChild_eq_some _ hlim (dispatchTxCall_noError _ _ _) h₁
  cases hr
  -- No reply: the loop ends once the result is recorded.
  simp only [record_bind_apply, Sdk.NotifyReply.delivers, Bool.false_eq_true, if_false,
    processMessages_nil, pure_apply, Option.some.injEq, Prod.mk.injEq] at h₂
  obtain ⟨rfl, -⟩ := h₂
  refine ⟨_, k', result, ?_, ?_, ?_, ?_, ?_, hc, fun e he => ?_, c₁.nest, by simp⟩
  iterate 4 rfl
  · simp [childGas_val]
  · simp [htrace, he]

/-- An activation of the self-calling contract below the limit, with gas for its charge: the
guards pass, and its loop dispatches the call one level deeper. -/
theorem processExecutionResult_selfCall {m : U16} {n : ℕ} {contract : Contract} {c c' : TxCtx}
    {r : Except Error Bytes} (hd : c.depth < m) (hg : c.gasUsed + 100 ≤ c.gasLimit)
    (h : processExecutionResult (chainHost m) n contract selfCallResult c = some (c', r)) :
    ∃ n' k k' result, k.depth = c.depth + 1 ∧ k.mode = c.mode ∧ k.view = c.view ∧
      k.gasUsed = 0 ∧ k.gasLimit = c.gasLimit - (c.gasUsed + 100) ∧
      dispatchTxCall (chainHost m) n' selfCallTx k = some (k', .ok result) ∧
      (∀ e ∈ k'.trace, e ∈ c'.trace) ∧ ∃ L, (⟨L, .result result⟩ : Event) ∈ c'.trace := by
  obtain _ | n := n
  · cases h
  obtain ⟨c₁, r₁, h₁, hr⟩ := processExecutionResult_eq_some h
  rw [checkMessages_selfCall (TxCtx.record { c with nest := c.nest + 1 }
    (EventKind.activate c.depth selfCallResult.messages.length)) hd hg, Option.some.injEq,
    Prod.mk.injEq] at h₁
  obtain ⟨rfl, rfl⟩ := h₁
  rcases hr with ⟨e, he, -⟩ | ⟨-, c₂, h₂, rfl⟩
  · cases he
  obtain _ | n := n
  · cases h₂
  exact ⟨n, processMessages_selfCall h₂⟩

/-- A `contracts.Call` of instance `0`, in execute mode on a registry satisfying the invariant where
instance `0` is stored: the self-calling contract's result is processed in the context charged
for `tx_call` (which the default costs leave as it was but for the record), and an error of that
activation comes back as the failed call result. -/
theorem dispatchTxCall_selfCall {m : U16} {n : ℕ} {c c' : TxCtx}
    {r : Except Error Transaction.CallResult} (hmode : c.isCheckOnly = false)
    (hi : Registry.Inv (chainHost m) c.view.registry) (hinst : (c.view.instanceInfo ⟨0⟩).isSome)
    (h : dispatchTxCall (chainHost m) n selfCallTx c = some (c', r)) :
    ∃ n' contract c₀ r₁, c₀.depth = c.depth ∧ c₀.mode = c.mode ∧ c₀.view = c.view ∧
      c₀.gasUsed = c.gasUsed ∧ c₀.gasLimit = c.gasLimit ∧
      processExecutionResult (chainHost m) n' contract selfCallResult c₀ = some (c', r₁) ∧
      ∀ e, r₁ = .error e → r = .ok e.toCallResult := by
  obtain _ | _ | _ | n := n
  iterate 3 cases h
  -- The instance's code information and code are stored.
  obtain ⟨inst, hinst⟩ := Option.isSome_iff_exists.1 hinst
  obtain ⟨info, hinfo⟩ := Option.isSome_iff_exists.1 (hi.instance_codeInfo hinst)
  obtain ⟨code, hcode, -⟩ := hi.code_of_codeInfo hinfo
  -- `tx_call` costs nothing under the default parameters.
  have hg : c.gasUsed + (chainHost m).params.gasCosts.txCall.val ≤ c.gasLimit := c.gasUsed_le
  rw [selfCallTx, dispatchTxCall_call_eq, txCall_of_stored _ hg hmode hinst hinfo hcode] at h
  simp only [Host.transferTokens, pure_bind_apply, bind_apply, pure_apply, call_chainHost] at h
  rcases hP : processExecutionResult (chainHost m) n ⟨info, code, inst⟩ selfCallResult
    (c.charge _ hg) with _ | ⟨c₁, e | data⟩ <;> rw [hP] at h
  · cases h
  all_goals
    simp only [pure_apply, Option.some.injEq, Prod.mk.injEq] at h
    obtain ⟨rfl, rfl⟩ := h
    exact ⟨n, _, c.charge _ hg, _, rfl, rfl, rfl, Nat.add_zero _, rfl, hP, fun e' he => by
      cases he <;> rfl⟩

/-- **The chain of self-calls.** From `CallDepth` `m - j`, with gas for `j` charges of
`subcall_dispatch`, a run of the self-calling contract opens an activation at `CallDepth` `m`,
whose guard raises `CallDepthExceeded(m + 1, m)`; the failed call result is the run's own result
(`j = 0`) or is recorded by the loop that dispatched it. -/
theorem selfCall_chain {m : U16} (j : ℕ) {n : ℕ} {c c' : TxCtx}
    {r : Except Error Transaction.CallResult} (hj : c.depth.val + j = m.val)
    (hmode : c.isCheckOnly = false) (hi : Registry.Inv (chainHost m) c.view.registry)
    (hinst : (c.view.instanceInfo ⟨0⟩).isSome) (hg : c.gasUsed + 100 * j ≤ c.gasLimit)
    (h : dispatchTxCall (chainHost m) n selfCallTx c = some (c', r)) :
    (∃ L, (⟨L, .activate m 1⟩ : Event) ∈ c'.trace) ∧
      (r = .ok (Error.callDepthExceeded (m + 1) m).toCallResult ∨
        ∃ L, (⟨L, .result (Error.callDepthExceeded (m + 1) m).toCallResult⟩ : Event) ∈ c'.trace) := by
  induction j generalizing n c c' r with
  | zero =>
    -- At the limit the guard fires before any charge.
    obtain ⟨n, contract, c₀, r₁, hd, -, -, -, -, hP, hr⟩ := dispatchTxCall_selfCall hmode hi hinst h
    obtain rfl : c₀.depth = m := Fin.ext (by rw [hd]; omega)
    obtain _ | n := n
    · cases hP
    rw [processExecutionResult_depthExceeded _ (List.cons_ne_nil _ _) le_rfl, Option.some.injEq,
      Prod.mk.injEq] at hP
    obtain ⟨rfl, rfl⟩ := hP
    exact ⟨⟨_, List.mem_append_right _ (List.mem_singleton_self _)⟩, .inl (hr _ rfl)⟩
  | succ j ih =>
    -- Below the limit the call goes one level deeper, with the same view and mode.
    obtain ⟨n, contract, c₀, r₁, hd, hm, hv, hu, hl, hP, -⟩ := dispatchTxCall_selfCall hmode hi hinst h
    have hlt : c₀.depth < m := by rw [Fin.lt_def, hd]; omega
    obtain ⟨n', k, k', result, hkd, hkm, hkv, hku, hkl, hk, htr, L, hres⟩ :=
      processExecutionResult_selfCall hlt (by omega) hP
    have hkv' : k.view = c.view := hkv.trans hv
    obtain ⟨⟨L', hact⟩, hR⟩ := ih (by rw [hkd, U16.val_add_one_of_lt hlt, hd]; omega)
      (by simpa only [TxCtx.isCheckOnly, hkm, hm] using hmode) (hkv' ▸ hi) (hkv' ▸ hinst)
      (by omega) hk
    refine ⟨⟨L', htr _ hact⟩, .inr ?_⟩
    rcases hR with hR | ⟨L'', h''⟩
    · cases hR
      exact ⟨L, hres⟩
    · exact ⟨L'', htr _ h''⟩

/-- Under `chainHost m`, an upload of the empty code and its instantiation, two committed
transactions from genesis, store instance `0`. -/
theorem chainHost_instance_zero (m : U16) :
    ∃ s, (chainHost m).Reachable s ∧ (s.instanceInfo ⟨0⟩).isSome :=
  have h₁ : (chainHost m).TxStep .genesis (State.genesis.withEmptyCode .everyone) :=
    ⟨2, ⟨0⟩, 0, emptyUpload .everyone, _, rfl⟩
  ⟨_, (Relation.ReflTransGen.single h₁).tail
    ⟨4, ⟨0⟩, 0, ⟨"contracts.Instantiate", .instantiate ⟨⟨0⟩, .everyone, [], []⟩⟩, _, rfl⟩, rfl⟩

/-! ## The payload -/

/-- **The deepest guard's payload.** A transaction in execute mode from `CallDepth` 0 that calls
the self-calling instance `0` under `max_subcall_depth = m`, with gas for `m` charges of
`subcall_dispatch`, ends given the fuel of `dispatchTxCall_returns`; it reaches `CallDepth` `m`,
where the guard raises `CallDepthExceeded(m + 1, m)` with `m + 1` computed in `u16`, and the
failed call result is the transaction's result or is recorded in its trace. -/
theorem call_depth_payload_wraps (m : U16) (c : TxCtx) (h0 : c.depth = 0)
    (hmode : c.isCheckOnly = false) (hi : Registry.Inv (chainHost m) c.view.registry)
    (hinst : (c.view.instanceInfo ⟨0⟩).isSome) (hgas : c.gasUsed + 100 * m.val ≤ c.gasLimit) :
    ∃ c' r, dispatchTxCall (chainHost m) ((chainHost m).fuelFor (c.gasLimit - c.gasUsed) + 3)
        selfCallTx c = some (c', r) ∧
      (∃ L, (⟨L, .activate m 1⟩ : Event) ∈ c'.trace) ∧
      (r = .ok (Error.callDepthExceeded (m + 1) m).toCallResult ∨
        ∃ L, (⟨L, .result (Error.callDepthExceeded (m + 1) m).toCallResult⟩ : Event) ∈ c'.trace) := by
  obtain ⟨c', r, h, -⟩ := dispatchTxCall_returns (chainHost m)
    (processExecutionResult_returns _ (Nat.succ_pos _) _) _ le_rfl selfCallTx (c := c) le_rfl
  exact ⟨c', r, h, selfCall_chain m.val (by simp [h0]) hmode hi hinst hgas h⟩

/-- At `max_subcall_depth = u16::MAX`, on a reachable state, with `10^7` gas: a chain of 65535
sub-calls reaches `CallDepth` 65535, and the guard's payload `65535 + 1` wraps to
`CallDepthExceeded(0, 65535)`. -/
theorem call_depth_payload_wraps_at_max :
    ∃ s, (chainHost U16.max).Reachable s ∧ ∃ c' r,
      dispatchTxCall (chainHost U16.max) ((chainHost U16.max).fuelFor 10000000 + 3) selfCallTx
          (.top .executeTx s ⟨0⟩ 10000000 (by decide)) = some (c', r) ∧
        (∃ L, (⟨L, .activate U16.max 1⟩ : Event) ∈ c'.trace) ∧
        (r = .ok (Error.callDepthExceeded 0 U16.max).toCallResult ∨
          ∃ L, (⟨L, .result (Error.callDepthExceeded 0 U16.max).toCallResult⟩ : Event) ∈
            c'.trace) := by
  obtain ⟨s, hs, hinst⟩ := chainHost_instance_zero U16.max
  have h := call_depth_payload_wraps U16.max (.top .executeTx s ⟨0⟩ 10000000 (by decide)) rfl rfl
    hs.inv hinst (by norm_num [TxCtx.top, U16.max])
  exact ⟨s, hs, h⟩

end OasisContracts
