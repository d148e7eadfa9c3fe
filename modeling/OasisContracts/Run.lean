import OasisContracts.Holds
import OasisContracts.Contracts

/-!
# What a run does to its context

`Runs m c c'` says what a run of the module's computations, from context `c` to context `c'`, can
do as seen from outside. It keeps the context's mode, base state, caller, gas limit, `CallDepth`
and nesting; it only adds gas; and it extends the trace by events at this nesting or deeper, such
that

* the gas charges, less the transfers of children's consumption (`absorb`), add up to the gas the
  run used: every charge made anywhere below, in committed and reverted children alike, is
  counted once (`charged`, `absorbed`);
* when the run started at a `CallDepth` within `m`, it dispatches no child deeper than `m`.

`Quiet m` adds that the events recorded at the run's own nesting are gas charges: outside
`process_execution_result` the module only charges gas. `RunsAt m d` is `Runs m` from contexts at
`CallDepth` `d`: the relation of the message loop, which runs once the guard passed at `d`.

* `callChild_eq_some`: the exact effect of one sub-call on its parent. The child runs in the
  context `subCallContext`, opened on the parent's view with the allowance `childGas` and
  `CallDepth` one more, where the dispatch is recorded; the parent
  is charged exactly the gas the child used, and gets the child's writes, tags and runtime
  messages if and only if the child succeeded.
* `BlockSteps`: what the handlers and dispatchers keep, from what their steps outside the block
  keep, one lemma each; `BlockSteps.of_fuel`: a preorder kept by those steps, by records,
  activations and sub-calls is kept by every function of the mutual block, at every fuel.
* `runs_of_fuel`: every function of the mutual block, at every fuel, keeps these relations, by one
  induction on fuel, from one step lemma per helper (`Holds.checkMessages`, `Holds.callChild`,
  `Holds.nested`, `Holds.txUpload`, ...) and the `BlockSteps` lemmas.
* `dispatchTxCall_noError`: a dispatched child never ends in an error; every error inside it has
  become a failed call result.
-/

namespace OasisContracts

open Exec

/-! ## Events -/

namespace EventKind

/-- The gas a charge event charged. -/
def charged : EventKind → ℕ
  | .charge amount => amount
  | _ => 0

/-- The gas an absorb event moved from a child to its parent. -/
def absorbed : EventKind → ℕ
  | .absorb amount => amount
  | _ => 0

/-- A dispatch event sends its child no deeper than `maxDepth`. -/
def withinDepth (maxDepth : U16) : EventKind → Prop
  | .dispatch depth _ => depth ≤ maxDepth
  | _ => True

/-- Whether the event is a gas charge. -/
def isCharge : EventKind → Prop
  | .charge _ => True
  | _ => False

end EventKind

/-- The gas charged in a stretch of trace. -/
def charged : List Event → ℕ
  | [] => 0
  | e :: seg => e.kind.charged + charged seg

/-- The gas moved from children to their parents in a stretch of trace. -/
def absorbed : List Event → ℕ
  | [] => 0
  | e :: seg => e.kind.absorbed + absorbed seg

@[simp] theorem charged_nil : charged [] = 0 := rfl
@[simp] theorem absorbed_nil : absorbed [] = 0 := rfl

@[simp] theorem charged_cons (e : Event) (seg : List Event) :
    charged (e :: seg) = e.kind.charged + charged seg := rfl

@[simp] theorem absorbed_cons (e : Event) (seg : List Event) :
    absorbed (e :: seg) = e.kind.absorbed + absorbed seg := rfl

@[simp] theorem charged_append (s t : List Event) : charged (s ++ t) = charged s + charged t := by
  induction s with
  | nil => simp
  | cons e s ih => simp [ih, Nat.add_assoc]

@[simp] theorem absorbed_append (s t : List Event) :
    absorbed (s ++ t) = absorbed s + absorbed t := by
  induction s with
  | nil => simp
  | cons e s ih => simp [ih, Nat.add_assoc]

/-! ## The relations -/

/-- What a run from `c` to `c'` can do (see the module's documentation). -/
structure Runs (m : U16) (c c' : TxCtx) : Prop where
  mode : c'.mode = c.mode
  base : c'.base = c.base
  caller : c'.caller = c.caller
  gasLimit : c'.gasLimit = c.gasLimit
  depth : c'.depth = c.depth
  nest : c'.nest = c.nest
  gasUsed_le : c.gasUsed ≤ c'.gasUsed
  trace : ∃ seg, c'.trace = c.trace ++ seg ∧ c'.gasUsed + absorbed seg = c.gasUsed + charged seg ∧
    ∀ e ∈ seg, c.nest ≤ e.nest ∧ (c.depth ≤ m → e.kind.withinDepth m)

/-- A run that records nothing but gas charges at its own nesting. -/
structure Quiet (m : U16) (c c' : TxCtx) extends Runs m c c' : Prop where
  charges : ∀ seg, c'.trace = c.trace ++ seg → ∀ e ∈ seg, e.nest = c.nest → e.kind.isCharge

/-- A run that records everything deeper than its own nesting: an activation of
`process_execution_result`. -/
structure Deep (m : U16) (c c' : TxCtx) extends Quiet m c c' : Prop where
  deeper : ∀ seg, c'.trace = c.trace ++ seg → ∀ e ∈ seg, c.nest < e.nest

/-- A run from a context at `CallDepth` `d`. -/
def RunsAt (m d : U16) (c c' : TxCtx) : Prop := c.depth = d → Runs m c c'

variable {m : U16}

namespace Runs

theorem keep {c c' : TxCtx} (h₁ : c'.mode = c.mode) (h₂ : c'.base = c.base)
    (h₃ : c'.caller = c.caller) (h₄ : c'.gasLimit = c.gasLimit) (h₅ : c'.gasUsed = c.gasUsed)
    (h₆ : c'.depth = c.depth) (h₇ : c'.nest = c.nest) (h₈ : c'.trace = c.trace) : Runs m c c' :=
  ⟨h₁, h₂, h₃, h₄, h₆, h₇, h₅.ge, [], by simp [h₈], by simp [h₅], by simp⟩

theorem trans' {c₁ c₂ c₃ : TxCtx} (h₁ : Runs m c₁ c₂) (h₂ : Runs m c₂ c₃) : Runs m c₁ c₃ := by
  obtain ⟨s₁, e₁, g₁, v₁⟩ := h₁.trace
  obtain ⟨s₂, e₂, g₂, v₂⟩ := h₂.trace
  refine ⟨h₂.mode.trans h₁.mode, h₂.base.trans h₁.base, h₂.caller.trans h₁.caller,
    h₂.gasLimit.trans h₁.gasLimit, h₂.depth.trans h₁.depth, h₂.nest.trans h₁.nest,
    h₁.gasUsed_le.trans h₂.gasUsed_le, s₁ ++ s₂, by simp [e₁, e₂], by simp; omega, ?_⟩
  intro e he
  rcases List.mem_append.1 he with he | he
  · exact v₁ e he
  · have := v₂ e he
    rw [h₁.nest, h₁.depth] at this
    exact this

theorem charge (c : TxCtx) (g : ℕ) (h) : Runs m c (c.charge g h) :=
  ⟨rfl, rfl, rfl, rfl, rfl, rfl, by simp, [⟨c.nest, .charge g⟩], rfl,
    by simp [EventKind.charged, EventKind.absorbed], by simp [EventKind.withinDepth]⟩

theorem record (c : TxCtx) {k : EventKind} (h₁ : k.charged = 0) (h₂ : k.absorbed = 0)
    (h₃ : k.withinDepth m) : Runs m c (c.record k) :=
  ⟨rfl, rfl, rfl, rfl, rfl, rfl, le_rfl, [⟨c.nest, k⟩], rfl, by simp [h₁, h₂], by simp [h₃]⟩

end Runs

instance : IsPreorder TxCtx (Runs m) where
  refl _ := .keep rfl rfl rfl rfl rfl rfl rfl rfl
  trans _ _ _ := Runs.trans'

namespace Quiet

theorem keep {c c' : TxCtx} (h₁ : c'.mode = c.mode) (h₂ : c'.base = c.base)
    (h₃ : c'.caller = c.caller) (h₄ : c'.gasLimit = c.gasLimit) (h₅ : c'.gasUsed = c.gasUsed)
    (h₆ : c'.depth = c.depth) (h₇ : c'.nest = c.nest) (h₈ : c'.trace = c.trace) : Quiet m c c' :=
  ⟨.keep h₁ h₂ h₃ h₄ h₅ h₆ h₇ h₈, fun seg h e he => by simp_all⟩

theorem charge (c : TxCtx) (g : ℕ) (h) : Quiet m c (c.charge g h) :=
  ⟨.charge c g h, fun seg h e he _ => by
    simp only [TxCtx.charge_trace, List.append_cancel_left_eq] at h
    subst h
    simp only [List.mem_singleton] at he
    subst he
    trivial⟩

end Quiet

instance : IsPreorder TxCtx (Quiet m) where
  refl _ := .keep rfl rfl rfl rfl rfl rfl rfl rfl
  trans c₁ c₂ c₃ h₁ h₂ := by
    refine ⟨h₁.toRuns.trans' h₂.toRuns, fun seg h e he hn => ?_⟩
    obtain ⟨s₁, e₁, -⟩ := h₁.trace
    obtain ⟨s₂, e₂, -⟩ := h₂.trace
    rw [e₂, e₁, List.append_assoc, List.append_cancel_left_eq] at h
    subst h
    rcases List.mem_append.1 he with he | he
    · exact h₁.charges s₁ e₁ e he hn
    · exact h₂.charges s₂ e₂ e he (hn.trans h₁.nest.symm)

instance {d : U16} : IsPreorder TxCtx (RunsAt m d) where
  refl c _ := refl_of (Runs m) c
  trans _ _ _ h₁ h₂ hd := (h₁ hd).trans' (h₂ ((h₁ hd).depth.trans hd))

namespace Exec

theorem Holds.runsAt {d : U16} {α : Type} {x : Exec α} (hx : Holds (Runs m) x) :
    Holds (RunsAt m d) x :=
  hx.mono fun _ _ h _ => h

theorem Holds.runs {α : Type} {x : Exec α} (hx : Holds (Quiet m) x) : Holds (Runs m) x :=
  hx.mono fun _ _ h => h.toRuns

theorem Holds.quiet {α : Type} {x : Exec α} (hx : Holds (Deep m) x) : Holds (Quiet m) x :=
  hx.mono fun _ _ h => h.toQuiet

/-! ## Step lemmas -/

theorem Holds.recordRuns {k : EventKind} (h₁ : k.charged = 0) (h₂ : k.absorbed = 0)
    (h₃ : k.withinDepth m) : Holds (Runs m) (Exec.record k) :=
  .record fun c => .record c h₁ h₂ h₃

/-- An activation of `process_execution_result` records everything one level deeper. -/
theorem Holds.nested {α : Type} {x : Exec α} (hx : Holds (Runs m) x) :
    Holds (Deep m) (nested x) := by
  intro c c' r h
  obtain ⟨c₂, hc, rfl⟩ := nested_eq_some.1 h
  have hr := hx hc
  obtain ⟨seg, hseg, hgas, hev⟩ := hr.trace
  have deeper : ∀ seg', { c₂ with nest := c.nest }.trace = c.trace ++ seg' →
      ∀ e ∈ seg', c.nest < e.nest := by
    intro seg' h' e he
    simp only [hseg, List.append_cancel_left_eq] at h'
    subst h'
    exact (hev e he).1
  refine ⟨⟨⟨hr.mode, hr.base, hr.caller, hr.gasLimit, hr.depth, rfl, hr.gasUsed_le, seg, hseg,
    hgas, fun e he => ⟨Nat.le_of_succ_le (hev e he).1, (hev e he).2⟩⟩,
    fun seg' h' e he hn => absurd hn (deeper seg' h' e he).ne'⟩, deeper⟩

theorem Holds.callDepth_bind {α : Type} {f : U16 → Exec α}
    (hf : ∀ d, Holds (RunsAt m d) (f d)) : Holds (Runs m) (Exec.callDepth >>= f) :=
  fun c _ _ h => hf c.depth h rfl

section Module

variable (H : Host)

theorem Holds.chargeQuiet (g : ℕ) : Holds (Quiet m) (Exec.useTxGas g) := .useTxGas Quiet.charge g

theorem Holds.writeQuiet (w : Write) : Holds (Quiet m) (Exec.write w) :=
  .write fun _ => .keep rfl rfl rfl rfl rfl rfl rfl rfl

theorem Holds.invokeQuiet (contract : Contract) (entry : Entry) :
    Holds (Quiet m) (H.invoke contract entry) :=
  .invoke H Quiet.charge (fun _ _ _ => .keep rfl rfl rfl rfl rfl rfl rfl rfl) entry

theorem Holds.dispatchOtherQuiet (method : String) (body : Value) :
    Holds (Quiet m) (H.dispatchOther method body) :=
  .dispatchOther H Quiet.charge (fun _ _ _ => .keep rfl rfl rfl rfl rfl rfl rfl rfl)
    (fun _ _ => .keep rfl rfl rfl rfl rfl rfl rfl rfl) (fun _ _ => .keep rfl rfl rfl rfl rfl rfl rfl rfl)
    method body

theorem Holds.transferTokensQuiet (source target : Address) (tokens : List BaseUnits) :
    Holds (Quiet m) (H.transferTokens source target tokens) :=
  .transferTokens H (fun _ _ => .keep rfl rfl rfl rfl rfl rfl rfl rfl) source target tokens

end Module

end Exec

/-! ## The guards -/

section Guards

variable (H : Host)

/-- What the guards of `process_execution_result` do: the depth guard, then the charge for the
messages, then the count guard. -/
theorem checkMessages_apply (d : U16) (messages : List Sdk.Message) (c : TxCtx) :
    checkMessages H d messages c =
      if messages ≠ [] ∧ H.params.maxSubcallDepth ≤ d then
        some (c, .error (.callDepthExceeded (d + 1) H.params.maxSubcallDepth))
      else if hg : c.gasUsed + saturatingMul H.params.gasCosts.subcallDispatch messages.length ≤
          c.gasLimit then
        some (c.charge _ hg,
          match toU16? messages.length with
          | some count =>
            if count > H.params.maxSubcallCount then
              .error (.tooManySubcalls count H.params.maxSubcallCount)
            else .ok ()
          | none => .error (.tooManySubcalls U16.max H.params.maxSubcallCount))
      else some (c, .error (.core .outOfGas)) := by
  unfold checkMessages
  by_cases hd : messages ≠ [] ∧ H.params.maxSubcallDepth ≤ d
  · simp [hd, List.isEmpty_iff, bind_apply]
  · have hb : (!messages.isEmpty && decide (d ≥ H.params.maxSubcallDepth)) = false := by
      simpa [List.isEmpty_iff] using hd
    by_cases hg : c.gasUsed + saturatingMul H.params.gasCosts.subcallDispatch messages.length ≤
      c.gasLimit
    · simp only [hd, hb, hg, if_false, dif_pos, bind_apply, useTxGas_apply, Bool.false_eq_true,
        pure_apply]
      rcases toU16? messages.length with _ | count
      · rfl
      · dsimp only
        split <;> rfl
    · simp [hd, hb, hg, bind_apply, useTxGas_apply]

/-- With no messages left, the loop returns the data it has, whatever its fuel. -/
theorem processMessages_nil (n : ℕ) (contract : Contract) (d : U16) (data : Bytes) :
    processMessages H n contract d data [] = pure data := by
  cases n <;> rfl

variable {H}

/-- Past the guards, the messages are within both limits and have been paid for. -/
theorem checkMessages_ok {d : U16} {messages : List Sdk.Message} {c c' : TxCtx}
    (h : checkMessages H d messages c = some (c', .ok ())) :
    (messages ≠ [] → d < H.params.maxSubcallDepth) ∧
      messages.length ≤ H.params.maxSubcallCount ∧
      ∃ hg, c' = c.charge (saturatingMul H.params.gasCosts.subcallDispatch messages.length) hg := by
  rw [checkMessages_apply] at h
  split at h
  · simp at h
  rename_i hd
  split at h
  · rename_i hg
    simp only [Option.some.injEq, Prod.mk.injEq] at h
    obtain ⟨rfl, h⟩ := h
    refine ⟨fun hne => lt_of_not_le fun hle => hd ⟨hne, hle⟩, ?_, hg, rfl⟩
    split at h
    · rename_i count hcount
      split at h
      · cases h
      · rename_i hle
        rw [toU16?_eq_some] at hcount
        simp only [gt_iff_lt, Fin.lt_def, not_lt] at hle
        omega
    · cases h
  · simp at h

/-- A violated guard is an error, raised before any message is processed. -/
theorem checkMessages_violated {d : U16} {messages : List Sdk.Message} {c c' : TxCtx}
    {r : Except Error Unit}
    (hv : messages ≠ [] ∧ H.params.maxSubcallDepth ≤ d ∨
      H.params.maxSubcallCount.val < messages.length)
    (h : checkMessages H d messages c = some (c', r)) :
    (∃ e, r = .error e) ∧
      (c' = c ∨ ∃ hg, c' = c.charge (saturatingMul H.params.gasCosts.subcallDispatch messages.length) hg) := by
  rcases r with e | ⟨⟩
  · rw [checkMessages_apply] at h
    refine ⟨⟨e, rfl⟩, ?_⟩
    split at h
    · simp only [Option.some.injEq, Prod.mk.injEq] at h
      exact .inl h.1.symm
    split at h
    · simp only [Option.some.injEq, Prod.mk.injEq] at h
      exact .inr ⟨_, h.1.symm⟩
    · simp only [Option.some.injEq, Prod.mk.injEq] at h
      exact .inl h.1.symm
  · obtain ⟨h₁, h₂, -⟩ := checkMessages_ok h
    rcases hv with ⟨hne, hle⟩ | hlt
    · exact absurd (h₁ hne) (not_lt.2 hle)
    · omega

/-- What an activation of `process_execution_result` does: one level deeper, it records its
start, runs the guards, and, past them, the message loop. -/
theorem processExecutionResult_eq_some {n : ℕ} {contract : Contract} {result : Sdk.ExecutionOk}
    {c c' : TxCtx} {r : Except Error Bytes}
    (h : processExecutionResult H (n + 1) contract result c = some (c', r)) :
    ∃ c₁ r₁, checkMessages H c.depth result.messages
        ({ c with nest := c.nest + 1 }.record (.activate c.depth result.messages.length)) =
        some (c₁, r₁) ∧
      ((∃ e, r₁ = .error e ∧ r = .error e ∧ c' = { c₁ with nest := c.nest }) ∨
        (r₁ = .ok () ∧ ∃ c₂, processMessages H n contract c.depth result.data result.messages c₁ =
          some (c₂, r) ∧ c' = { c₂ with nest := c.nest })) := by
  obtain ⟨c₂, h', rfl⟩ := nested_eq_some.1 h
  rw [callDepth_bind_apply, record_bind_apply] at h'
  rcases bind_eq_some.1 h' with ⟨e, h₁, rfl⟩ | ⟨c₁, ⟨⟩, h₁, h₂⟩
  · exact ⟨_, _, h₁, .inl ⟨e, rfl, rfl, rfl⟩⟩
  · exact ⟨_, _, h₁, .inr ⟨rfl, _, h₂, rfl⟩⟩

end Guards

/-! ## One sub-call -/

section SubCall

variable (H : Host)

theorem childGas_le (maxGas : Option U64) (remaining : U64) :
    (childGas maxGas remaining).val ≤ remaining.val := by
  simp only [childGas]
  split <;> rename_i h <;> simp only [gt_iff_lt, Fin.lt_def, not_lt] at h <;> omega

/-- The context in which a sub-call's child runs, from its parent's context `c`: the context
`with_child` and `with_tx` open for the message (a transaction on the parent's view, signed by the
emitting contract, with the allowance `childGas` and `CallDepth` `d + 1`), in which the dispatch
has been recorded at that `CallDepth`. -/
def subCallContext (contract : Contract) (d : U16) : Sdk.Message → TxCtx → TxCtx
  | msg@(.call _ _ _ _ maxGas), c =>
    (c.child (H.address contract.instanceInfo) (childGas maxGas c.remainingGas) (d + 1)).record
      (.dispatch (d + 1) msg)

section SubCallContext

variable (contract : Contract) (d : U16) (id : U64) (reply : Sdk.NotifyReply) (method : String)
  (body : Value) (maxGas : Option U64) (c : TxCtx)

@[simp] theorem subCallContext_mode :
    (subCallContext H contract d (.call id reply method body maxGas) c).mode = c.mode := rfl
@[simp] theorem subCallContext_base :
    (subCallContext H contract d (.call id reply method body maxGas) c).base = c.view := rfl
@[simp] theorem subCallContext_writes :
    (subCallContext H contract d (.call id reply method body maxGas) c).writes = [] := rfl
@[simp] theorem subCallContext_caller :
    (subCallContext H contract d (.call id reply method body maxGas) c).caller =
      H.address contract.instanceInfo := rfl
@[simp] theorem subCallContext_gasLimit :
    (subCallContext H contract d (.call id reply method body maxGas) c).gasLimit =
      (childGas maxGas c.remainingGas).val := rfl
@[simp] theorem subCallContext_gasUsed :
    (subCallContext H contract d (.call id reply method body maxGas) c).gasUsed = 0 := rfl
@[simp] theorem subCallContext_depth :
    (subCallContext H contract d (.call id reply method body maxGas) c).depth = d + 1 := rfl
@[simp] theorem subCallContext_tags :
    (subCallContext H contract d (.call id reply method body maxGas) c).tags = [] := rfl
@[simp] theorem subCallContext_messages :
    (subCallContext H contract d (.call id reply method body maxGas) c).messages = [] := rfl
@[simp] theorem subCallContext_nest :
    (subCallContext H contract d (.call id reply method body maxGas) c).nest = c.nest := rfl
@[simp] theorem subCallContext_trace :
    (subCallContext H contract d (.call id reply method body maxGas) c).trace =
      c.trace ++ [⟨c.nest, .dispatch (d + 1) (.call id reply method body maxGas)⟩] := rfl

/-- The child's context sees the parent's view. -/
@[simp] theorem subCallContext_view :
    (subCallContext H contract d (.call id reply method body maxGas) c).view = c.view := rfl

end SubCallContext

/-- The exact effect of one sub-call on its parent, for a child that keeps its gas limit and
never ends in an error. -/
theorem callChild_eq_some {contract : Contract} {d : U16} {id : U64} {reply : Sdk.NotifyReply}
    {method : String} {body : Value} {maxGas : Option U64} {child : Exec Transaction.CallResult}
    (hlim : Holds (fun k k' => k'.gasLimit = k.gasLimit) child) (hok : NoError child)
    {c c' : TxCtx} {r : Except Error Transaction.CallResult}
    (h : callChild H contract d (.call id reply method body maxGas) child c = some (c', r)) :
    ∃ k' result,
      child (subCallContext H contract d (.call id reply method body maxGas) c) = some (k', .ok result) ∧
      r = .ok result ∧
      c'.mode = c.mode ∧ c'.base = c.base ∧ c'.caller = c.caller ∧ c'.gasLimit = c.gasLimit ∧
      c'.depth = c.depth ∧ c'.nest = c.nest ∧ c'.gasUsed = c.gasUsed + k'.gasUsed ∧
      c'.writes = (if result.isSuccess then c.writes ++ k'.writes else c.writes) ∧
      c'.tags = (if result.isSuccess then c.tags ++ k'.tags else c.tags) ∧
      c'.messages = (if result.isSuccess then c.messages ++ k'.messages else c.messages) ∧
      c'.trace = k'.trace ++ [⟨c.nest, .charge k'.gasUsed⟩, ⟨c.nest, .absorb k'.gasUsed⟩] := by
  simp only [callChild, bind_apply, remainingGas_apply, record_apply, withChild] at h
  -- The child runs in the context the sub-call opened.
  set k := subCallContext H contract d (.call id reply method body maxGas) c
  rw [show (c.child (H.address contract.instanceInfo) (childGas maxGas c.remainingGas) (d + 1)).record
    (.dispatch (d + 1) (.call id reply method body maxGas)) = k from rfl] at h
  obtain ⟨k', result, hc⟩ : ∃ k' result, child k = some (k', .ok result) := by
    match hc : child k with
    | none => simp [hc] at h
    | some (k', .error e) => exact absurd hc (hok ·)
    | some (k', .ok result) => exact ⟨k', result, rfl⟩
  have hg := childGas_le maxGas c.remainingGas
  have hk' : k'.gasLimit = (childGas maxGas c.remainingGas).val := hlim hc
  -- The child's remaining gas tells the parent exactly what the child used.
  have hX : (childGas maxGas c.remainingGas).val - k'.remainingGas.val = k'.gasUsed := by
    have := k'.gasUsed_le; simp only [TxCtx.remainingGas_val]; omega
  -- So the parent's charge for it cannot fail.
  have hle : (c.afterChild k' result.isSuccess).gasUsed + k'.gasUsed ≤
      (c.afterChild k' result.isSuccess).gasLimit := by
    have := k'.gasUsed_le; have := c.gasUsed_le
    simp only [TxCtx.afterChild_gasUsed, TxCtx.afterChild_gasLimit]
    simp only [TxCtx.remainingGas_val] at hg; omega
  simp only [hc, hX, useTxGas_apply, dif_pos hle,
    emitTags_apply, emitMessages_apply, record_apply, pure_apply, Option.some.injEq,
    Prod.mk.injEq] at h
  obtain ⟨rfl, rfl⟩ := h
  refine ⟨k', result, hc, rfl, ?_⟩
  cases result.isSuccess <;> simp [TxCtx.charge, TxCtx.record]

variable {H}

/-- A sub-call, past the guard at `CallDepth` `d`, is one `Runs` step of its parent, whatever the
child does. -/
theorem Exec.Holds.callChild {m d : U16} (hd : d < m) {child : Exec Transaction.CallResult}
    (hx : Holds (Runs m) child) (hok : NoError child) (contract : Contract) (msg : Sdk.Message) :
    Holds (RunsAt m d) (callChild H contract d msg child) := by
  intro c c' r h hdepth
  obtain ⟨id, reply, method, body, maxGas⟩ := msg
  obtain ⟨k', result, hc, -, hmode, hbase, hcaller, hlim, hdep, hnest, hgas, -, -, -, htrace⟩ :=
    callChild_eq_some H (hx.mono fun _ _ h => h.gasLimit) hok h
  have hk := hx hc
  obtain ⟨seg, hseg, hcons, hev⟩ := hk.trace
  have hd1 : d + 1 ≤ m := U16.add_one_le_of_lt hd
  refine ⟨hmode, hbase, hcaller, hlim, hdep, hnest, by omega,
    ⟨c.nest, .dispatch (d + 1) (.call id reply method body maxGas)⟩ :: seg ++
      [⟨c.nest, .charge k'.gasUsed⟩, ⟨c.nest, .absorb k'.gasUsed⟩], ?_, ?_, ?_⟩
  · simp [htrace, hseg]
  · simp only [subCallContext_gasUsed, Nat.zero_add] at hcons
    simp [hgas, EventKind.charged, EventKind.absorbed]
    omega
  · intro e he
    simp only [List.cons_append, List.mem_cons, List.mem_append, List.mem_singleton,
      List.not_mem_nil, or_false] at he
    rcases he with rfl | he | rfl | rfl
    · exact ⟨le_rfl, fun _ => hd1⟩
    · have := hev e he
      simp only [subCallContext_nest, subCallContext_depth] at this
      exact ⟨this.1, fun _ => this.2 hd1⟩
    · exact ⟨le_rfl, fun _ => trivial⟩
    · exact ⟨le_rfl, fun _ => trivial⟩

end SubCall

/-! ## Whole runs -/

section Fuel

variable (H : Host)

theorem dispatchCall_noError (n : ℕ) (method : String) (body : Value) :
    NoError (dispatchCall H n method body) := by
  cases n with
  | zero => exact .outOfFuel
  | succ n =>
    simp only [dispatchCall]
    split <;> first | exact .handleCall .. | exact .pure _

/-- A dispatched child never ends in an error: every error inside it has become a failed call
result. -/
theorem dispatchTxCall_noError (n : ℕ) (call : Transaction.Call) :
    NoError (dispatchTxCall H n call) := by
  cases n with
  | zero => exact .outOfFuel
  | succ n =>
    refine .bind (dispatchCall_noError H n _ _) fun r => ?_
    split
    · exact .pure _
    · exact .dispatchOther H _ _

/-! ### The transaction handlers and the dispatchers, step by step

The handlers and the dispatchers call nothing of the block but each other and the activation, so
one lemma each says what they keep from what their steps keep; the inductions over the block below
cite them. -/

/-- The steps of the handlers and the dispatchers outside the block, each keeping `Q`: a gas
charge, a guest's invocation, a transfer of tokens, another module's method and an upload. -/
structure BlockSteps (Q : TxCtx → TxCtx → Prop) : Prop where
  charge : ∀ c g h, Q c (c.charge g h)
  invoke : ∀ contract entry, Holds Q (H.invoke contract entry)
  transferTokens : ∀ source target tokens, Holds Q (H.transferTokens source target tokens)
  dispatchOther : ∀ method body, Holds Q (H.dispatchOther method body)
  txUpload : ∀ body, Holds Q (txUpload H body)

namespace BlockSteps

variable {H} {Q : TxCtx → TxCtx → Prop} [IsPreorder TxCtx Q] (S : BlockSteps H Q) {n : ℕ}
include S

/-- `tx_call` keeps `Q` when its activation does. -/
theorem txCall (hPER : ∀ contract result, Holds Q (processExecutionResult H n contract result))
    (body : Call) : Holds Q (OasisContracts.txCall H (n + 1) body) :=
  .bind .txCallerAddress fun _ => .bind (.useTxGas S.charge _) fun _ =>
    .bind .isCheckOnly fun _ => .earlyReturn (.bind (.loadFrom _ _) fun _ =>
    .bind (.loadFrom _ _) fun _ => .bind (.loadFrom _ _) fun _ =>
    .bind (S.transferTokens _ _ _) fun _ => .bind (S.invoke _ _) fun _ =>
    .bind (hPER _ _) fun _ => .pure _)

/-- `tx_instantiate` keeps `Q` when its two writes and its activation do. -/
theorem txInstantiate (hnext : ∀ c id, Q c (c.write (.nextInstanceId id)))
    (hinfo : ∀ c id i, Q c (c.write (.instanceInfo id i)))
    (hPER : ∀ contract result, Holds Q (processExecutionResult H n contract result))
    (body : Instantiate) : Holds Q (OasisContracts.txInstantiate H (n + 1) body) :=
  .bind .txCallerAddress fun _ => .bind (.useTxGas S.charge _) fun _ =>
    .bind .isCheckOnly fun _ => .earlyReturn (.bind (.loadFrom _ _) fun _ =>
    .bind (.enforce _) fun _ => .bind (.loadFrom _ _) fun _ => .bind .view fun _ =>
    .bind (.write (hnext · _)) fun _ => .bind (.write (hinfo · _ _)) fun _ =>
    .bind (S.transferTokens _ _ _) fun _ => .bind (S.invoke _ _) fun _ =>
    .bind (hPER _ _) fun _ => .pure _)

/-- `dispatch_call` keeps `Q` when the handlers it calls do. -/
theorem dispatchCall (hTI : ∀ body, Holds Q (OasisContracts.txInstantiate H n body))
    (hTC : ∀ body, Holds Q (OasisContracts.txCall H n body)) (method : String) (body : Value) :
    Holds Q (OasisContracts.dispatchCall H (n + 1) method body) := by
  simp only [OasisContracts.dispatchCall]
  split
  · exact .handleCall S.txUpload _
  · exact .handleCall hTI _
  · exact .handleCall hTC _
  · exact .handleCall (.txUpgrade H S.charge) _
  · exact .pure _

/-- `dispatch_tx_call` keeps `Q` when `dispatch_call` does. -/
theorem dispatchTxCall (hDC : ∀ method body, Holds Q (OasisContracts.dispatchCall H n method body))
    (call : Transaction.Call) : Holds Q (OasisContracts.dispatchTxCall H (n + 1) call) := by
  refine .bind (hDC _ _) fun r => ?_
  split
  · exact .pure _
  · exact S.dispatchOther _ _

end BlockSteps

/-- The steps outside the block record nothing but gas charges at their own level. -/
theorem blockSteps_quiet (m : U16) : BlockSteps H (Quiet m) :=
  ⟨Quiet.charge, Holds.invokeQuiet H, Holds.transferTokensQuiet H, Holds.dispatchOtherQuiet H,
    .txUpload H Quiet.charge fun _ _ => .keep rfl rfl rfl rfl rfl rfl rfl rfl⟩

/-- **Every run keeps `Runs`.** By induction on fuel, over the whole mutual block: an activation
of `process_execution_result` records everything one level deeper; its message loop, past the
guard at `CallDepth` `d`, is a `Runs` step from `d`; the dispatcher and the transaction handlers
record nothing but gas charges at their own level. -/
theorem runs_of_fuel (n : ℕ) :
    (∀ contract result,
      Holds (Deep H.params.maxSubcallDepth) (processExecutionResult H n contract result)) ∧
    (∀ contract d data messages, (messages ≠ [] → d < H.params.maxSubcallDepth) →
      Holds (RunsAt H.params.maxSubcallDepth d) (processMessages H n contract d data messages)) ∧
    (∀ call, Holds (Quiet H.params.maxSubcallDepth) (dispatchTxCall H n call)) ∧
    (∀ method body, Holds (Quiet H.params.maxSubcallDepth) (dispatchCall H n method body)) ∧
    (∀ body, Holds (Quiet H.params.maxSubcallDepth) (txInstantiate H n body)) ∧
    (∀ body, Holds (Quiet H.params.maxSubcallDepth) (txCall H n body)) := by
  induction n with
  | zero =>
    refine ⟨fun _ _ => .outOfFuel, fun _ _ _ messages _ => ?_, fun _ => .outOfFuel,
      fun _ _ => .outOfFuel, fun _ => .outOfFuel, fun _ => .outOfFuel⟩
    cases messages
    · exact .pure _
    · exact .outOfFuel
  | succ n ih =>
    obtain ⟨hPER, hPM, hDTC, hDC, hTI, hTC⟩ := ih
    have hRecord : ∀ {d} k, k.charged = 0 → k.absorbed = 0 → k.withinDepth H.params.maxSubcallDepth →
        Holds (RunsAt H.params.maxSubcallDepth d) (Exec.record k) :=
      fun _ h₁ h₂ h₃ => (Holds.recordRuns h₁ h₂ h₃).runsAt
    refine ⟨fun contract result => ?_, fun contract d data messages hguard => ?_, fun call => ?_,
      fun method body => ?_, fun body => ?_, fun body => ?_⟩
    case refine_1 =>
      refine .nested (.callDepth_bind fun d => .bind (hRecord _ rfl rfl trivial) fun _ =>
        .bind_ok (Holds.checkMessages H Quiet.charge _ _).runs.runsAt fun _ hok => hPM _ _ _ _ ?_)
      obtain ⟨c, c₁, h⟩ := hok
      exact (checkMessages_ok h).1
    case refine_2 =>
      cases messages with
      | nil => exact .pure _
      | cons msg messages =>
        obtain ⟨id, reply, method, body, maxGas⟩ := msg
        have hd := hguard (List.cons_ne_nil _ _)
        simp only [processMessages]
        refine .bind (.callChild hd (hDTC _).runs (dispatchTxCall_noError H n _) _ _) fun result =>
          .bind (hRecord _ rfl rfl trivial) fun _ => ?_
        split
        · exact .bind (hRecord _ rfl rfl trivial) fun _ => .bind (Holds.invokeQuiet H _ _).runs.runsAt
            fun _ => .bind (hPER _ _).quiet.runs.runsAt fun _ => .bind (hRecord _ rfl rfl trivial)
            fun _ => hPM _ _ _ _ fun _ => hd
        · exact hPM _ _ _ _ fun _ => hd
    case refine_3 => exact (blockSteps_quiet H _).dispatchTxCall hDC call
    case refine_4 => exact (blockSteps_quiet H _).dispatchCall hTI hTC method body
    case refine_5 =>
      exact (blockSteps_quiet H _).txInstantiate (fun _ _ => .keep rfl rfl rfl rfl rfl rfl rfl rfl)
        (fun _ _ _ => .keep rfl rfl rfl rfl rfl rfl rfl rfl) (fun _ _ => (hPER _ _).quiet) body
    case refine_6 => exact (blockSteps_quiet H _).txCall (fun _ _ => (hPER _ _).quiet) body

/-- **A relation kept by each step is kept by the whole block.** A preorder on contexts kept by
the steps outside the block (`BlockSteps`), by records, by activations (`nested`), by the
sub-calls of children that keep it, and by `tx_instantiate` once its activation does, is kept by
every function of the mutual block, at every fuel. -/
theorem BlockSteps.of_fuel {Q : TxCtx → TxCtx → Prop} [IsPreorder TxCtx Q] (S : BlockSteps H Q)
    (hrecord : ∀ c k, Q c (c.record k))
    (hnested : ∀ {α : Type} {x : Exec α}, Holds Q x → Holds Q (Exec.nested x))
    (hchild : ∀ {child : Exec Transaction.CallResult} contract d msg,
      Holds (Quiet H.params.maxSubcallDepth) child → NoError child → Holds Q child →
      Holds Q (callChild H contract d msg child))
    (hinst : ∀ n, (∀ contract result, Holds Q (processExecutionResult H n contract result)) →
      ∀ body, Holds Q (OasisContracts.txInstantiate H (n + 1) body)) (n : ℕ) :
    (∀ contract result, Holds Q (processExecutionResult H n contract result)) ∧
    (∀ contract d data messages, Holds Q (processMessages H n contract d data messages)) ∧
    (∀ call, Holds Q (OasisContracts.dispatchTxCall H n call)) ∧
    (∀ method body, Holds Q (OasisContracts.dispatchCall H n method body)) ∧
    (∀ body, Holds Q (OasisContracts.txInstantiate H n body)) ∧
    (∀ body, Holds Q (OasisContracts.txCall H n body)) := by
  induction n with
  | zero =>
    refine ⟨fun _ _ => .outOfFuel, fun _ _ _ messages => ?_, fun _ => .outOfFuel,
      fun _ _ => .outOfFuel, fun _ => .outOfFuel, fun _ => .outOfFuel⟩
    cases messages
    · exact .pure _
    · exact .outOfFuel
  | succ n ih =>
    obtain ⟨hPER, hPM, hDTC, hDC, hTI, hTC⟩ := ih
    have hRecord : ∀ k, Holds Q (Exec.record k) := fun _ => .record (hrecord · _)
    refine ⟨fun contract result => hnested (.bind .callDepth fun _ => .bind (hRecord _) fun _ =>
      .bind (.checkMessages H S.charge _ _) fun _ => hPM _ _ _ _), fun contract d data messages => ?_,
      S.dispatchTxCall hDC, S.dispatchCall hTI hTC, hinst n hPER, S.txCall hPER⟩
    cases messages with
    | nil => exact .pure _
    | cons msg messages =>
      obtain ⟨id, reply, method, body, maxGas⟩ := msg
      simp only [processMessages]
      refine .bind (hchild _ _ _ ((runs_of_fuel H n).2.2.1 _) (dispatchTxCall_noError H n _)
        (hDTC _)) fun result => .bind (hRecord _) fun _ => ?_
      split
      · exact .bind (hRecord _) fun _ => .bind (S.invoke _ _) fun _ =>
          .bind (hPER _ _) fun _ => .bind (hRecord _) fun _ => hPM _ _ _ _
      · exact hPM _ _ _ _

end Fuel

end OasisContracts
