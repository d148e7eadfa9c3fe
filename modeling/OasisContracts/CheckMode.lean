import OasisContracts.History

/-!
# Transactions that are only checked

`tx_upload`, `tx_instantiate` and `tx_call` return early when the context is check-only
(`CheckTx`, `SimulateTx`): all three right after their first charges unless expensive queries are
allowed, and `tx_upload` once more after validating the code, whatever expensive queries allow.
A sub-call's child runs in its parent's mode (`ctx.with_child(ctx.mode(), ..)`).

* `CheckKeeps keep`: a run keeps its mode and, when it only checks, the part `keep` of the state
  it sees. It is a preorder, kept by charges and records.
* `checkKeeps_of_fuel`: every function of the mutual block keeps `CheckKeeps` of the code registry
  (the code counter, `CODE_INFO`, `CODE`), by `BlockSteps.of_fuel`: the upload stores nothing when
  checked, and nothing else writes there.
* `check_mode_keeps_codes`: a checked transaction, with every sub-call it runs at any depth,
  leaves the code registry as it was, whether or not expensive queries are allowed.
* `txInstantiate_checkOnly`, `txCall_checkOnly`: without expensive queries, a checked
  instantiation or call only charges its gas and returns the default result.
* `check_mode_without_expensive_queries`: without expensive queries, a checked transaction leaves
  the module's stores as they were, and its outcome is the same whatever the contracts' code
  does: no contract runs.
-/

namespace OasisContracts

open Exec

/-- The code registry: the code counter, `CODE_INFO` and `CODE`. -/
def State.codes (s : State) : Option CodeId × (CodeId → Option Code) × (CodeId → Option Bytes) :=
  (s.nextCodeId, s.codeInfo, s.code)

/-- The module's stores: its registry and every instance's storage. -/
def State.stores (s : State) : Registry × (InstanceId → Bytes → Option Bytes) :=
  (s.registry, s.instanceState)

/-- Whether a write goes to the code registry. -/
def Write.isCode : Write → Bool
  | .nextCodeId _ | .codeInfo .. | .code .. => true
  | _ => false

/-- Whether a write goes to another module's state. -/
def Write.isOther : Write → Bool
  | .other .. => true
  | _ => false

theorem codes_apply {w : Write} (hw : w.isCode = false) (s : State) :
    (s.apply w).codes = s.codes := by
  cases w <;> first | rfl | cases hw

theorem stores_apply {w : Write} (hw : w.isOther = true) (s : State) :
    (s.apply w).stores = s.stores := by
  cases w <;> first | rfl | cases hw

/-! ## What a run keeps -/

section Keeps

variable {β : Type} (keep : State → β)

/-- A run from `c` to `c'` keeps the mode and, when it only checks, the part `keep` of the state
it sees. -/
structure CheckKeeps (c c' : TxCtx) : Prop where
  mode : c'.mode = c.mode
  kept : c.isCheckOnly = true → keep c'.view = keep c.view

variable {keep}

namespace CheckKeeps

theorem isCheckOnly {c c' : TxCtx} (h : CheckKeeps keep c c') : c'.isCheckOnly = c.isCheckOnly := by
  simp only [TxCtx.isCheckOnly, h.mode]

theorem of_view {c c' : TxCtx} (hm : c'.mode = c.mode) (hv : c'.view = c.view) :
    CheckKeeps keep c c' :=
  ⟨hm, fun _ => by rw [hv]⟩

theorem charge (c : TxCtx) (g : ℕ) (h) : CheckKeeps keep c (c.charge g h) := .of_view rfl rfl

theorem tags (c : TxCtx) (tags : List Tag) : CheckKeeps keep c { c with tags := c.tags ++ tags } :=
  .of_view rfl rfl

theorem messages (c : TxCtx) (messages : List RuntimeMessage) :
    CheckKeeps keep c { c with messages := c.messages ++ messages } :=
  .of_view rfl rfl

end CheckKeeps

instance : IsPreorder TxCtx (CheckKeeps keep) where
  refl _ := .of_view rfl rfl
  trans _ _ _ h₁ h₂ :=
    ⟨h₂.mode.trans h₁.mode, fun hc => (h₂.kept (h₁.isCheckOnly.trans hc)).trans (h₁.kept hc)⟩

theorem Exec.Holds.nestedCheck {α : Type} {x : Exec α} (hx : Holds (CheckKeeps keep) x) :
    Holds (CheckKeeps keep) (Exec.nested x) := by
  intro c c' r h
  obtain ⟨c₂, hc, rfl⟩ := nested_eq_some.1 h
  have h₂ := trans_of (CheckKeeps keep) (.of_view rfl rfl) (hx hc)
  exact ⟨h₂.mode, h₂.kept⟩

/-- A sub-call keeps `CheckKeeps` when its child does: the child runs in the parent's mode on the
parent's view, and its writes reach the parent only when it succeeded. -/
theorem Exec.Holds.callChildCheck (H : Host) {contract : Contract} {d : U16} {msg : Sdk.Message}
    {child : Exec Transaction.CallResult} (hruns : Holds (Quiet H.params.maxSubcallDepth) child)
    (hok : NoError child) (hx : Holds (CheckKeeps keep) child) :
    Holds (CheckKeeps keep) (OasisContracts.callChild H contract d msg child) := by
  intro c c' r h
  obtain ⟨id, reply, method, body, maxGas⟩ := msg
  obtain ⟨k', result, hc, -, hmode, hbase, -, -, -, -, -, hw, -⟩ :=
    callChild_eq_some H (hruns.mono fun _ _ h => h.gasLimit) hok h
  refine ⟨hmode, fun hcheck => ?_⟩
  cases hs : result.isSuccess
  · simp only [TxCtx.view, hbase, hw, hs, Bool.false_eq_true, if_false]
  · have hview : c'.view = k'.view := by
      rw [TxCtx.view, hbase, hw, hs, if_pos rfl, State.applyAll_append, TxCtx.view, (hruns hc).base]
      rfl
    rw [hview]
    exact (hx hc).kept hcheck

/-- A checked upload stores nothing. -/
theorem Exec.Holds.txUploadCheck (H : Host) (body : Upload) :
    Holds (CheckKeeps keep) (OasisContracts.txUpload H body) := by
  intro c c' r h
  rcases txUpload_eq_some h with ⟨f, -⟩ | ⟨hc, -, -, -, -, -, hmode, -⟩
  · exact .of_view f.mode f.view
  · exact ⟨hmode, fun hc' => absurd (hc.symm.trans hc') Bool.false_ne_true⟩

end Keeps

/-! ## The code registry -/

/-- A write elsewhere than the code registry keeps it. -/
theorem CheckKeeps.write (c : TxCtx) {w : Write} (hw : w.isCode = false) :
    CheckKeeps State.codes c (c.write w) :=
  ⟨rfl, fun _ => by rw [TxCtx.view_write, codes_apply hw]⟩

namespace Exec

section Codes

variable (H : Host)

theorem Holds.invokeCheck (contract : Contract) (entry : Entry) :
    Holds (CheckKeeps State.codes) (H.invoke contract entry) :=
  .invoke H CheckKeeps.charge (fun c _ _ => CheckKeeps.write c rfl) entry

theorem Holds.transferTokensCheck (source target : Address) (tokens : List BaseUnits) :
    Holds (CheckKeeps State.codes) (H.transferTokens source target tokens) :=
  .transferTokens H (fun _ kvs => ⟨rfl, fun _ => by
    simp only [TxCtx.view, State.applyAll_append]
    exact congrArg (fun r : Registry => (r.nextCodeId, r.codeInfo, r.code))
      (registry_applyAll_other _ kvs)⟩) source target tokens

theorem Holds.dispatchOtherCheck (method : String) (body : Value) :
    Holds (CheckKeeps State.codes) (H.dispatchOther method body) :=
  .dispatchOther H CheckKeeps.charge (fun c _ _ => CheckKeeps.write c rfl) CheckKeeps.tags
    CheckKeeps.messages method body

end Codes

end Exec

variable (H : Host)

/-- The steps outside the block keep the code registry when they check: the upload returns
before storing, and nothing else writes there. -/
theorem blockSteps_check : BlockSteps H (CheckKeeps State.codes) :=
  ⟨CheckKeeps.charge, Holds.invokeCheck H, Holds.transferTokensCheck H,
    Holds.dispatchOtherCheck H, Holds.txUploadCheck H⟩

/-- **Checked runs keep the code registry.** Every function of the mutual block, at every fuel,
keeps its mode and, in check mode, the code registry its context sees. -/
theorem checkKeeps_of_fuel (n : ℕ) :
    (∀ contract result,
      Holds (CheckKeeps State.codes) (processExecutionResult H n contract result)) ∧
    (∀ contract d data messages,
      Holds (CheckKeeps State.codes) (processMessages H n contract d data messages)) ∧
    (∀ call, Holds (CheckKeeps State.codes) (dispatchTxCall H n call)) ∧
    (∀ method body, Holds (CheckKeeps State.codes) (dispatchCall H n method body)) ∧
    (∀ body, Holds (CheckKeeps State.codes) (txInstantiate H n body)) ∧
    (∀ body, Holds (CheckKeeps State.codes) (txCall H n body)) :=
  (blockSteps_check H).of_fuel H (fun _ _ => .of_view rfl rfl) Holds.nestedCheck
    (fun _ _ _ => .callChildCheck H)
    (fun _ hPER => (blockSteps_check H).txInstantiate (fun c _ => CheckKeeps.write c rfl)
      (fun c _ _ => CheckKeeps.write c rfl) hPER) n

/-- **A checked transaction never changes the code registry.** In check mode, a dispatched
transaction, whatever its method and with every sub-call it runs at any depth, leaves the code
counter, `CODE_INFO` and `CODE` it sees as they were, whether or not expensive queries are
allowed. -/
theorem check_mode_keeps_codes (n : ℕ) (call : Transaction.Call) {c c' : TxCtx}
    {r : Except Error Transaction.CallResult} (hc : c.isCheckOnly = true)
    (h : dispatchTxCall H n call c = some (c', r)) :
    c'.view.nextCodeId = c.view.nextCodeId ∧ c'.view.codeInfo = c.view.codeInfo ∧
      c'.view.code = c.view.code := by
  simpa only [State.codes, Prod.mk.injEq] using ((checkKeeps_of_fuel H n).2.2.1 call h).kept hc

/-- A checked upload of the empty code with expensive queries allowed: the code is validated, and
nothing is stored. -/
theorem check_mode_keeps_codes_upload :
    ∃ c' r, dispatchTxCall { quietHost with expensiveQueriesAllowed := true } 2
        (emptyUpload .everyone) (.top .checkTx .genesis ⟨0⟩ 1000 (by decide)) = some (c', r) ∧
      c'.view.nextCodeId = State.genesis.nextCodeId ∧ c'.view.codeInfo = State.genesis.codeInfo ∧
      c'.view.code = State.genesis.code :=
  ⟨_, _, rfl, check_mode_keeps_codes { quietHost with expensiveQueriesAllowed := true } 2
    (emptyUpload .everyone) (c := .top .checkTx .genesis ⟨0⟩ 1000 (by decide)) rfl rfl⟩

/-! ## Without expensive queries -/

/-- An arm of `dispatch_call` depends on its handler only through the handler's run on the
arm's own context. -/
theorem handleCall_congr {α β : Type} {body : Value} {decode : Value → Option α}
    {handler handler' : α → Exec β} {encode : β → Value} {c : TxCtx}
    (h : ∀ a, handler a c = handler' a c) :
    handleCall body decode handler encode c = handleCall body decode handler' encode c := by
  cases hd : decode body <;> simp [handleCall, bind_apply, Exec.catchResult, hd, h]

section Fast

variable {H} (hq : H.expensiveQueriesAllowed = false)
include hq

/-- A checked `tx_instantiate` without expensive queries charges its gas and returns the default
result. -/
theorem txInstantiate_checkOnly {n : ℕ} {body : Instantiate} {c : TxCtx}
    (hc : c.isCheckOnly = true) :
    txInstantiate H (n + 1) body c =
      if h : c.gasUsed + H.params.gasCosts.txInstantiate.val ≤ c.gasLimit then
        some (c.charge _ h, .ok default)
      else some (c, .error (.core .outOfGas)) := by
  simp only [txInstantiate, txCallerAddress_bind_apply, useTxGas_bind_apply]
  split
  · simp only [isCheckOnly_bind_apply, TxCtx.charge_isCheckOnly, hc, hq, Bool.not_false,
      Bool.and_self, if_true, pure_apply]
  · rfl

/-- A checked `tx_call` without expensive queries charges its gas and returns the default
result. -/
theorem txCall_checkOnly {n : ℕ} {body : Call} {c : TxCtx} (hc : c.isCheckOnly = true) :
    txCall H (n + 1) body c =
      if h : c.gasUsed + H.params.gasCosts.txCall.val ≤ c.gasLimit then
        some (c.charge _ h, .ok default)
      else some (c, .error (.core .outOfGas)) := by
  simp only [txCall, txCallerAddress_bind_apply, useTxGas_bind_apply]
  split
  · simp only [isCheckOnly_bind_apply, TxCtx.charge_isCheckOnly, hc, hq, Bool.not_false,
      Bool.and_self, if_true, pure_apply]
  · rfl

theorem txInstantiate_checkOnly_keeps {n : ℕ} (body : Instantiate) :
    Holds (CheckKeeps State.stores) (txInstantiate H n body) := by
  intro c c' r h
  refine ⟨((runs_of_fuel H n).2.2.2.2.1 body h).mode, fun hc => ?_⟩
  obtain _ | n := n
  · cases h
  rw [txInstantiate_checkOnly hq hc] at h
  split at h <;> cases h <;> rfl

theorem txCall_checkOnly_keeps {n : ℕ} (body : Call) :
    Holds (CheckKeeps State.stores) (txCall H n body) := by
  intro c c' r h
  refine ⟨((runs_of_fuel H n).2.2.2.2.2 body h).mode, fun hc => ?_⟩
  obtain _ | n := n
  · cases h
  rw [txCall_checkOnly hq hc] at h
  split at h <;> cases h <;> rfl

/-- Without expensive queries, every dispatched transaction keeps the module's stores when it
only checks: other modules' methods write their own state only. -/
theorem dispatchTxCall_checkOnly_keeps (n : ℕ) (call : Transaction.Call) :
    Holds (CheckKeeps State.stores) (dispatchTxCall H n call) := by
  have hother : ∀ c k v, CheckKeeps State.stores c (c.write (.other k v)) :=
    fun c k v => ⟨rfl, fun _ => by rw [TxCtx.view_write, stores_apply (w := .other k v) rfl]⟩
  obtain _ | _ | n := n
  · exact .outOfFuel
  · intro c c' r h
    cases h
  refine .bind ?_ fun r => ?_
  · simp only [dispatchCall]
    split
    · exact .handleCall (.txUploadCheck H) _
    · exact .handleCall (txInstantiate_checkOnly_keeps hq) _
    · exact .handleCall (txCall_checkOnly_keeps hq) _
    · exact .handleCall (.txUpgrade H CheckKeeps.charge) _
    · exact .pure _
  split
  · exact .pure _
  · exact .dispatchOther H CheckKeeps.charge hother CheckKeeps.tags CheckKeeps.messages _ _

/-- Without expensive queries, a checked dispatch runs no contract: its outcome is the same
whatever the contracts' code does. -/
theorem dispatchCall_guest (g : Contract → Entry → Address → State → GuestRun) :
    ∀ (n : ℕ) (method : String) (body : Value) {c : TxCtx}, c.isCheckOnly = true →
      dispatchCall { H with guest := g } n method body c = dispatchCall H n method body c
  | 0, _, _, _, _ => rfl
  | n + 1, method, body, c, hc => by
    simp only [dispatchCall]
    split
    · rfl
    · refine handleCall_congr fun a => ?_
      cases n
      · rfl
      · rw [txInstantiate_checkOnly hq hc, txInstantiate_checkOnly (H := { H with guest := g }) hq hc]
    · refine handleCall_congr fun a => ?_
      cases n
      · rfl
      · rw [txCall_checkOnly hq hc, txCall_checkOnly (H := { H with guest := g }) hq hc]
    · rfl
    · rfl

theorem dispatchTxCall_guest (g : Contract → Entry → Address → State → GuestRun) (n : ℕ)
    (call : Transaction.Call) {c : TxCtx} (hc : c.isCheckOnly = true) :
    dispatchTxCall { H with guest := g } n call c = dispatchTxCall H n call c := by
  cases n with
  | zero => rfl
  | succ n =>
    rw [dispatchTxCall, dispatchTxCall, bind_apply, bind_apply, dispatchCall_guest hq g n _ _ hc]
    rfl

/-- **Without expensive queries, checking runs no contract.** A checked transaction, whatever its
method, leaves the module's registry and every instance's storage as they were, and ends the same
whatever the contracts' code does. -/
theorem check_mode_without_expensive_queries (g : Contract → Entry → Address → State → GuestRun)
    (n : ℕ) (call : Transaction.Call) {c c' : TxCtx} {r : Except Error Transaction.CallResult}
    (hc : c.isCheckOnly = true) (h : dispatchTxCall H n call c = some (c', r)) :
    c'.view.registry = c.view.registry ∧ c'.view.instanceState = c.view.instanceState ∧
      dispatchTxCall { H with guest := g } n call c = some (c', r) := by
  have hk := (dispatchTxCall_checkOnly_keeps hq n call h).kept hc
  simp only [State.stores, Prod.mk.injEq] at hk
  exact ⟨hk.1, hk.2, (dispatchTxCall_guest hq g n call hc).trans h⟩

end Fast

end OasisContracts
