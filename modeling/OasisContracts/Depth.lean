import OasisContracts.Routing

/-!
# Depth and fan-out of sub-calls

The guards of `process_execution_result` stop an activation that would dispatch too deep or
too many messages; past them, every child runs one `CallDepth` deeper.

* `expectedLog`'s dispatches: each is at `CallDepth` one more than the emitting activation's, and
  there are no more of them than messages (`mem_expectedLog_dispatch`,
  `countDispatch_expectedLog_le`).
* `ActivationRun.children_bounds`: the contexts an activation's children run in, those
  `callChild` opens, are each at `CallDepth` exactly one more than the activation's, within
  `max_subcall_depth`, with the contract as caller, and record the dispatch of one of its
  messages; there are no more than `max_subcall_count` of them.
* `depth_and_fanout_bounds`: an activation that violates a guard returns an error after recording
  only its start and at most a charge, so it dispatches no child and delivers no reply; every run
  of an activation is `ChildrenWithin` these bounds, for its children's contexts and for the
  dispatches its routing log records; and no run of the dispatcher from `CallDepth` 0 ever
  dispatches a child deeper than `max_subcall_depth`.
-/

namespace OasisContracts

open Exec

namespace EventKind

/-- Whether the event is a dispatch. -/
def isDispatch : EventKind → Bool
  | .dispatch .. => true
  | _ => false

end EventKind

theorem mem_expectedLog_dispatch {contract : InstanceId} {d d' : U16} {msg : Sdk.Message} :
    ∀ {messages : List Sdk.Message} {outcomes : List (Transaction.CallResult × Bytes)},
      .dispatch d' msg ∈ expectedLog contract d messages outcomes → d' = d + 1 ∧ messages ≠ []
  | [], _, h => by simp [expectedLog] at h
  | _ :: _, [], h => by simp [expectedLog] at h
  | .call .. :: messages, (result, data) :: outcomes, h => by
    simp only [expectedLog, List.mem_cons, EventKind.dispatch.injEq, List.mem_append] at h
    rcases h with ⟨rfl, -⟩ | h | h | h
    · exact ⟨rfl, List.cons_ne_nil _ _⟩
    · cases h
    · split at h <;> simp at h
    · exact ⟨(mem_expectedLog_dispatch h).1, List.cons_ne_nil _ _⟩

theorem countDispatch_expectedLog_le (contract : InstanceId) (d : U16) :
    ∀ (messages : List Sdk.Message) (outcomes : List (Transaction.CallResult × Bytes)),
      ((expectedLog contract d messages outcomes).filter EventKind.isDispatch).length ≤
        messages.length
  | [], _ => by simp [expectedLog]
  | _ :: _, [] => by simp [expectedLog]
  | .call _ reply .. :: messages, (result, data) :: outcomes => by
    have := countDispatch_expectedLog_le contract d messages outcomes
    rw [expectedLog_cons]
    split <;> simp [List.filter_cons, EventKind.isDispatch, this]

variable {H : Host} {contract : Contract}

/-- The children of an activation past its guards: each runs in a context that the sub-call of
one of its messages opened, one `CallDepth` deeper than the activation, within
`max_subcall_depth`, signed by the emitting contract, inside the activation, and whose last record
is its dispatch at that `CallDepth`; there are no more of them than `max_subcall_count`. -/
theorem ActivationRun.children_bounds {n : ℕ} {result : Sdk.ExecutionOk} {c c' : TxCtx}
    {r : Except Error Bytes} {children : List TxCtx} {outcomes : List (Transaction.CallResult × Bytes)}
    (h : ActivationRun H contract result c n c' r children outcomes) :
    (∀ k ∈ children, k.depth.val = c.depth.val + 1 ∧ k.depth ≤ H.params.maxSubcallDepth ∧
      k.caller = H.address contract.instanceInfo ∧ k.nest = c.nest + 1 ∧
      ∃ msg ∈ result.messages, k.trace.getLast? = some ⟨c.nest + 1, .dispatch k.depth msg⟩) ∧
    children.length ≤ H.params.maxSubcallCount := by
  cases h with
  | guard => simp
  | loop h₁ hl =>
    obtain ⟨hdepth, hcount, hg, hc₁⟩ := checkMessages_ok h₁
    refine ⟨fun k hk => ?_, hl.length_children.2.trans hcount⟩
    obtain ⟨msg, hmsg, c₀, h₀, rfl⟩ := hl.mem_children k hk
    obtain ⟨id, reply, method, body, maxGas⟩ := msg
    -- Past the depth guard, the child's `CallDepth` does not wrap.
    have hlt := hdepth (List.ne_nil_of_mem hmsg)
    have hnest : c₀.nest = c.nest + 1 := by rw [h₀.nest, hc₁]; rfl
    exact ⟨U16.val_add_one_of_lt hlt, U16.add_one_le_of_lt hlt, rfl, hnest, _, hmsg,
      by simp [hnest]⟩

variable (H)

/-- The children of an activation of `contract` on `result` from `c` to `c'`, ended in `r`, are
within the limits: it ran (`ActivationRun`) with children each in a context one `CallDepth` deeper
than `c`, within `max_subcall_depth`, signed by the contract, inside the activation, and whose
last record is its dispatch at that `CallDepth`; with no more than `max_subcall_count` children;
and its routing log's dispatches are at that `CallDepth`, no more than `max_subcall_count`. -/
def ChildrenWithin (n : ℕ) (contract : Contract) (result : Sdk.ExecutionOk) (c c' : TxCtx)
    (r : Except Error Bytes) : Prop :=
  ∃ seg children outcomes, c'.trace = c.trace ++ seg ∧
    ActivationRun H contract result c n c' r children outcomes ∧
    (∀ k ∈ children, k.depth.val = c.depth.val + 1 ∧ k.depth ≤ H.params.maxSubcallDepth ∧
      k.caller = H.address contract.instanceInfo ∧ k.nest = c.nest + 1 ∧
      ∃ msg ∈ result.messages, k.trace.getLast? = some ⟨c.nest + 1, .dispatch k.depth msg⟩) ∧
    children.length ≤ H.params.maxSubcallCount ∧
    (∀ d msg, .dispatch d msg ∈ routingLog (c.nest + 1) seg →
      d.val = c.depth.val + 1 ∧ d ≤ H.params.maxSubcallDepth) ∧
    ((routingLog (c.nest + 1) seg).filter EventKind.isDispatch).length ≤ H.params.maxSubcallCount

/-- **Depth and fan-out bounds on child dispatch.** An activation that violates a guard returns
an error, recording only its start and charges: it dispatches nothing. Every activation's children
run in contexts one `CallDepth` deeper than its own, within `max_subcall_depth`, and there are no
more than `max_subcall_count` of them (`ChildrenWithin`). No run of the dispatcher from
`CallDepth` 0 dispatches a child deeper than `max_subcall_depth`, at any nesting. -/
theorem depth_and_fanout_bounds :
    (∀ n contract result (c c' : TxCtx) r,
      processExecutionResult H n contract result c = some (c', r) →
      (result.messages ≠ [] ∧ H.params.maxSubcallDepth ≤ c.depth ∨
        H.params.maxSubcallCount.val < result.messages.length) →
      (∃ e, r = .error e) ∧ ∃ seg,
        c'.trace = c.trace ++ ⟨c.nest + 1, .activate c.depth result.messages.length⟩ :: seg ∧
        ∀ e ∈ seg, e.kind.isCharge) ∧
    (∀ n contract result (c c' : TxCtx) r,
      processExecutionResult H n contract result c = some (c', r) →
      ChildrenWithin H n contract result c c' r) ∧
    (∀ n call (c c' : TxCtx) r, c.depth = 0 → dispatchTxCall H n call c = some (c', r) →
      ∀ seg, c'.trace = c.trace ++ seg → ∀ e ∈ seg, ∀ d msg, e.kind = .dispatch d msg →
        d ≤ H.params.maxSubcallDepth) := by
  refine ⟨fun n contract result c c' r h hv => ?_, fun n contract result c c' r h => ?_,
    fun n call c c' r h0 h seg hseg e he d msg hd => ?_⟩
  · -- A violated guard: the error is raised before any message is processed.
    cases n with
    | zero => simp [processExecutionResult] at h
    | succ n =>
      obtain ⟨c₁, r₁, h₁, hr⟩ := processExecutionResult_eq_some h
      obtain ⟨⟨e, rfl⟩, hc₁⟩ := checkMessages_violated hv h₁
      rcases hr with ⟨e', he', rfl, rfl⟩ | ⟨he', -⟩
      · refine ⟨⟨e', rfl⟩, ?_⟩
        rcases hc₁ with rfl | ⟨hg, rfl⟩
        · exact ⟨[], by simp, by simp⟩
        · exact ⟨[⟨c.nest + 1, .charge (saturatingMul H.params.gasCosts.subcallDispatch
            result.messages.length)⟩], by simp, by simp [EventKind.isCharge]⟩
      · cases he'
  · -- Past the guards, the children are those of the loop, and its dispatches those of the
    -- expected log.
    obtain ⟨children, outcomes, ha⟩ := processExecutionResult_activationRun H contract h
    obtain ⟨seg, hseg, hpfx, -⟩ := ha.routing
    obtain ⟨hchildren, hlen⟩ := ha.children_bounds
    refine ⟨seg, children, outcomes, hseg, ha, hchildren, hlen, ?_⟩
    cases ha with
    | guard =>
      -- A guard failed: the log is empty.
      have hnil : routingLog (c.nest + 1) seg = [] := List.prefix_nil.1 (by simpa using hpfx)
      simp [hnil]
    | loop h₁ =>
      obtain ⟨hdepth, hcount, -⟩ := checkMessages_ok h₁
      refine ⟨fun d msg hd => ?_, ?_⟩
      · obtain ⟨rfl, hne⟩ := mem_expectedLog_dispatch (hpfx.subset hd)
        have hlt := hdepth hne
        exact ⟨U16.val_add_one_of_lt hlt, U16.add_one_le_of_lt hlt⟩
      · calc ((routingLog (c.nest + 1) seg).filter EventKind.isDispatch).length
            ≤ ((expectedLog contract.instanceInfo.id c.depth result.messages outcomes).filter
                EventKind.isDispatch).length := (hpfx.filter _).length_le
          _ ≤ result.messages.length := countDispatch_expectedLog_le _ _ _ _
          _ ≤ H.params.maxSubcallCount := hcount
  · -- From `CallDepth` 0, the whole run stays within the limit.
    have hr := ((runs_of_fuel H n).2.2.1 call h).toRuns
    obtain ⟨seg', hseg', -, hev⟩ := hr.trace
    rw [hseg', List.append_cancel_left_eq] at hseg
    subst hseg
    have := (hev e he).2 (by rw [h0]; exact Fin.zero_le _)
    rw [hd] at this
    exact this

/-- `replyHost`'s message sent without a reply mode that answers: one child, at `CallDepth` 1. -/
theorem depth_and_fanout_bounds_sample :
    ∃ c' r, processExecutionResult replyHost 4 .sample ⟨[1], [.call 0 .never "m" .unit none]⟩
        .sample = some (c', r) ∧
      ChildrenWithin replyHost 4 .sample ⟨[1], [.call 0 .never "m" .unit none]⟩ .sample c' r := by
  obtain ⟨⟨c', r⟩, h⟩ := Option.isSome_iff_exists.1 (by decide : (processExecutionResult replyHost 4
    .sample ⟨[1], [.call 0 .never "m" .unit none]⟩ .sample).isSome)
  exact ⟨c', r, h, (depth_and_fanout_bounds replyHost).2.1 4 .sample _ .sample c' r h⟩

end OasisContracts
