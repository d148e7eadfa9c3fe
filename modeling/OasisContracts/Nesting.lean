import OasisContracts.Termination

/-!
# Replies re-enter at the same `CallDepth`

`process_execution_result` processes the result of a reply's `handle_reply` by calling itself in
the same context, so at the same `CallDepth`: only a dispatched child runs one level deeper. The
depth guard bounds how deep child contexts nest (`depth_and_fanout_bounds`), but not how deep
activations nest. A contract whose `handle_reply` keeps emitting a message that asks for a reply
is re-entered, each activation inside the one before, at `CallDepth` 0, for as long as gas lasts.

* `echoHost`: its contract answers every entry point, `handle_reply` included, with one message,
  to a module method that succeeds, asking for a reply always.
* `processMessages_echo`: one turn of its loop dispatches the message one level deeper, and
  processes the reply's result in the same context, at the same `CallDepth` and nesting.
* `echo_nesting`: from `CallDepth` 0 with gas for `j` charges of `subcall_dispatch`, a run on the
  echo contract's result opens `j + 1` activations, each inside the one before, all at
  `CallDepth` 0 with one message, and all but the last dispatch it.
* `reply_recursion_same_depth`: such a run ends, given the fuel of
  `processExecutionResult_returns`; with gas for `N` charges it nests `N + 1` activations at
  `CallDepth` 0, whatever `max_subcall_depth` (here 8) says.
-/

namespace OasisContracts

open Exec

/-- A run keeps every event already recorded. -/
theorem Runs.mem_trace {m : U16} {c c' : TxCtx} (h : Runs m c c') {e : Event} (he : e ∈ c.trace) :
    e ∈ c'.trace := by
  obtain ⟨seg, hseg, -⟩ := h.trace
  rw [hseg]
  exact List.mem_append_left _ he

/-! ## The echo contract -/

/-- The echo contract's message: a call of module method `m`, answered always. -/
def echoMessage : Sdk.Message := .call 0 .always "m" .unit none

/-- What the echo contract returns from every entry point: no data, and `echoMessage`. -/
def echoResult : Sdk.ExecutionOk := ⟨[], [echoMessage]⟩

/-- A host whose contract is the echo contract, and whose module method `m` succeeds without
charging gas. -/
def echoHost : Host :=
  Host.sample (fun _ _ _ _ => ⟨[], .ok echoResult⟩) fun _ _ _ _ => ⟨[], .ok .unit⟩

theorem handleReply_echo (contract : Contract) (reply : Sdk.Reply) (c : TxCtx) :
    echoHost.handleReply contract reply c = some (c, .ok echoResult) := rfl

theorem dispatchTxCall_echo_apply (n : ℕ) (k : TxCtx) :
    dispatchTxCall echoHost (n + 2) ⟨"m", .unit⟩ k = some (k, .ok (.ok .unit)) := rfl

/-- A dispatched call of `m` ends where it started. -/
theorem dispatchTxCall_echo {n : ℕ} {k k' : TxCtx} {r : Except Error Transaction.CallResult}
    (h : dispatchTxCall echoHost n ⟨"m", .unit⟩ k = some (k', r)) : k' = k := by
  rcases n with _ | _ | n
  · cases h
  · cases h
  rw [dispatchTxCall_echo_apply, Option.some.injEq, Prod.mk.injEq] at h
  exact h.1.symm

/-- One turn of the echo contract's loop: the message is dispatched one level deeper, its child
uses no gas, and the reply's result is processed in the same context, at the same `CallDepth`
and nesting. -/
theorem processMessages_echo {n : ℕ} {contract : Contract} {d : U16} {data : Bytes}
    {c c' : TxCtx} {r : Except Error Bytes}
    (h : processMessages echoHost (n + 1) contract d data [echoMessage] c = some (c', r)) :
    ∃ c₁, c₁.depth = c.depth ∧ c₁.nest = c.nest ∧ c₁.gasUsed = c.gasUsed ∧
      c₁.gasLimit = c.gasLimit ∧ (⟨c.nest, .dispatch (d + 1) echoMessage⟩ : Event) ∈ c₁.trace ∧
      ∃ c₂ r₂, processExecutionResult echoHost n contract echoResult c₁ = some (c₂, r₂) ∧
        c₂.trace <+: c'.trace := by
  have hruns := runs_of_fuel echoHost n
  have hlim := (hruns.2.2.1 ⟨"m", .unit⟩).mono fun _ _ h => h.gasLimit
  simp only [echoMessage, processMessages] at h
  rcases bind_eq_some.1 h with ⟨e, h₁, -⟩ | ⟨c₁, result, h₁, h₂⟩
  · obtain ⟨_, _, -, hr, -⟩ := callChild_eq_some echoHost hlim (dispatchTxCall_noError _ _ _) h₁
    cases hr
  obtain ⟨k', result', hc, hr, -, -, -, hlim₁, hdepth, hnest, hgas, -, -, -, htrace⟩ :=
    callChild_eq_some echoHost hlim (dispatchTxCall_noError _ _ _) h₁
  cases hr
  obtain rfl := dispatchTxCall_echo hc
  -- The reply is delivered, and `handle_reply` returns the echo contract's result again.
  simp only [record_bind_apply, Sdk.NotifyReply.delivers, if_true, bind_apply,
    handleReply_echo, record_apply] at h₂
  refine ⟨(c₁.record (.result result)).record
    (.reply contract.instanceInfo.id (.call 0 (.ofTransaction result))), by simp [hdepth],
    by simp [hnest], by simp [hgas], by simp [hlim₁], by simp [htrace, echoMessage], ?_⟩
  rcases h₃ : processExecutionResult echoHost n contract echoResult _ with _ | ⟨c₂, _ | D⟩ <;>
    rw [h₃] at h₂
  · cases h₂
  · simp only [Option.some.injEq, Prod.mk.injEq] at h₂
    exact ⟨c₂, _, rfl, by rw [h₂.1]⟩
  · simp only [pure_apply, Option.some.injEq, Prod.mk.injEq] at h₂
    exact ⟨c₂, _, rfl, by rw [← h₂.1, TxCtx.record_trace]; exact List.prefix_append _ _⟩

/-! ## Nesting without depth -/

/-- With gas for one more charge, the echo contract's result passes the guards at `CallDepth` 0. -/
theorem checkMessages_echo {c : TxCtx} (hg : c.gasUsed + 100 ≤ c.gasLimit) :
    checkMessages echoHost 0 echoResult.messages c = some (c.charge 100 hg, .ok ()) := by
  rw [checkMessages_apply, if_neg (by decide), dif_pos (show c.gasUsed + saturatingMul
    echoHost.params.gasCosts.subcallDispatch echoResult.messages.length ≤ c.gasLimit from hg)]
  rfl

/-- An activation records its start first. -/
theorem echo_activate {n : ℕ} {contract : Contract} {c c' : TxCtx} {r : Except Error Bytes}
    (h0 : c.depth = 0) (h : processExecutionResult echoHost n contract echoResult c = some (c', r)) :
    (⟨c.nest + 1, .activate 0 1⟩ : Event) ∈ c'.trace := by
  rcases n with _ | n
  · cases h
  obtain ⟨c₁, r₁, h₁, hr⟩ := processExecutionResult_eq_some h
  have hq := Holds.checkMessages (Q := Quiet echoHost.params.maxSubcallDepth) echoHost
    Quiet.charge _ _ h₁
  have hact : (⟨c.nest + 1, .activate 0 1⟩ : Event) ∈ c₁.trace :=
    hq.toRuns.mem_trace (by simp [h0, echoResult])
  rcases hr with ⟨e, -, -, rfl⟩ | ⟨rfl, c₂, h₂, rfl⟩
  · exact hact
  · exact ((runs_of_fuel echoHost n).2.1 _ _ _ _ (checkMessages_ok h₁).1 h₂
      (by simpa using hq.depth)).mem_trace hact

/-- **Activations nest at `CallDepth` 0.** From `CallDepth` 0 with gas for `j` charges of
`subcall_dispatch`, a run on the echo contract's result opens `j + 1` activations, each inside
the one before, all at `CallDepth` 0 with one message; all but the last dispatch it. -/
theorem echo_nesting (contract : Contract) (j : ℕ) :
    ∀ {n : ℕ} {c c' : TxCtx} {r : Except Error Bytes}, c.depth = 0 →
      c.gasUsed + 100 * j ≤ c.gasLimit →
      processExecutionResult echoHost n contract echoResult c = some (c', r) →
      ∀ k ≤ j, (⟨c.nest + k + 1, .activate 0 1⟩ : Event) ∈ c'.trace ∧
        (k < j → (⟨c.nest + k + 1, .dispatch 1 echoMessage⟩ : Event) ∈ c'.trace) := by
  induction j with
  | zero =>
    intro n c c' r h0 _ h k hk
    obtain rfl : k = 0 := by omega
    exact ⟨echo_activate h0 h, fun h => absurd h (Nat.lt_irrefl 0)⟩
  | succ j ih =>
    intro n c c' r h0 hgas h k hk
    rcases n with _ | n
    · cases h
    obtain ⟨c₁, r₁, h₁, hr⟩ := processExecutionResult_eq_some h
    -- The guards pass: there is gas for the charge.
    set c₀ := { c with nest := c.nest + 1 }.record (.activate c.depth echoResult.messages.length)
    have hg : c₀.gasUsed + 100 ≤ c₀.gasLimit := by
      simp only [c₀, TxCtx.record_gasUsed, TxCtx.record_gasLimit]; omega
    rw [h0, checkMessages_echo hg, Option.some.injEq, Prod.mk.injEq] at h₁
    obtain ⟨rfl, rfl⟩ := h₁
    obtain ⟨e, he, -⟩ | ⟨-, c₂, h₂, rfl⟩ := hr
    · cases he
    rcases n with _ | n
    · cases h₂
    -- The message is dispatched, and the reply's result is processed one activation deeper.
    rw [h0] at h₂
    obtain ⟨c₃, hd₃, hn₃, hg₃, hl₃, hdisp, c₄, r₄, h₄, hpre⟩ := processMessages_echo h₂
    simp only [c₀, TxCtx.charge_depth, TxCtx.charge_nest, TxCtx.charge_gasUsed,
      TxCtx.charge_gasLimit, TxCtx.record_depth, TxCtx.record_nest, TxCtx.record_gasUsed,
      TxCtx.record_gasLimit, h0] at hd₃ hn₃ hg₃ hl₃ hdisp
    have hin : ∀ e, e ∈ c₄.trace → e ∈ c₂.trace := fun _ he => hpre.subset he
    have ih' := ih (by rw [hd₃]) (by omega) h₄
    rw [hn₃] at ih'
    cases k with
    | zero =>
      refine ⟨echo_activate h0 h, fun _ => hin _ ?_⟩
      exact ((runs_of_fuel echoHost n).1 _ _ h₄).toRuns.mem_trace hdisp
    | succ k =>
      have := ih' k (by omega)
      rw [show c.nest + 1 + k + 1 = c.nest + (k + 1) + 1 by omega] at this
      exact ⟨hin _ this.1, fun hk => hin _ (this.2 (by omega))⟩

/-- **Replies re-enter at the same `CallDepth`.** From `CallDepth` 0, a run on the echo
contract's result with gas for `N` charges of `subcall_dispatch` ends, given the fuel of
`processExecutionResult_returns`, and opens `N + 1` activations, each inside the one before, all at
`CallDepth` 0 with one message, all but the last dispatching it: how deep activations nest grows
with the gas, whatever `max_subcall_depth` is. -/
theorem reply_recursion_same_depth (contract : Contract) (N : ℕ) (c : TxCtx) (h0 : c.depth = 0)
    (hgas : c.gasUsed + 100 * N ≤ c.gasLimit) :
    ∃ c' r, processExecutionResult echoHost (echoHost.fuelFor (c.gasLimit - c.gasUsed)) contract
        echoResult c = some (c', r) ∧
      ∀ k ≤ N, (⟨c.nest + k + 1, .activate 0 1⟩ : Event) ∈ c'.trace ∧
        (k < N → (⟨c.nest + k + 1, .dispatch 1 echoMessage⟩ : Event) ∈ c'.trace) := by
  obtain ⟨c', r, h, -⟩ := processExecutionResult_returns echoHost (by decide) _ _ le_rfl contract
    echoResult (c := c) le_rfl
  exact ⟨c', r, h, echo_nesting contract N h0 hgas h⟩

/-- With the 1000 gas of `TxCtx.sample`, eleven activations nest at `CallDepth` 0, past
`max_subcall_depth = 8`. -/
theorem reply_recursion_same_depth_sample :
    TxCtx.sample.depth = 0 ∧ TxCtx.sample.gasUsed + 100 * 10 ≤ TxCtx.sample.gasLimit ∧
      ∃ c' r, processExecutionResult echoHost
          (echoHost.fuelFor (TxCtx.sample.gasLimit - TxCtx.sample.gasUsed)) .sample echoResult
          .sample = some (c', r) ∧
        ∀ k ≤ 10, (⟨TxCtx.sample.nest + k + 1, .activate 0 1⟩ : Event) ∈ c'.trace ∧
          (k < 10 → (⟨TxCtx.sample.nest + k + 1, .dispatch 1 echoMessage⟩ : Event) ∈ c'.trace) :=
  ⟨rfl, by decide, reply_recursion_same_depth .sample 10 .sample rfl (by decide)⟩

end OasisContracts
