import OasisContracts.Depth

/-!
# Termination, measured by gas

`process_execution_result` recurses through the children it dispatches and through the results
of the replies it delivers, and nothing but gas bounds that recursion. An activation that
dispatches pays `subcall_dispatch` for each of its messages before the first is dispatched; its
children run on at most the gas left, and a reply's result is processed on the same gas. So
when `subcall_dispatch` is at least 1, the gas left bounds both how deep the recursion goes and
how many messages are dispatched.

* `Exec.Returns R x`: from every context with at most `R` gas left, `x` ends (the model does not
  run out of fuel) and leaves no more gas than it found. It is closed under the monad's
  operations and holds of every helper of the module.
* `Host.fuelFor`: the fuel a run needs, as a function of the gas left.
* `processExecutionResult_returns`: with `subcall_dispatch ≥ 1`, `process_execution_result` given
  `fuelFor` of the gas left ends, and so does the dispatcher given three more (by strong
  induction on the gas left, with one lemma for the message loop).
* `dispatches`: the messages dispatched in a stretch of trace, at every depth. `Pays sd k` says
  that a run paid `sd` gas for each message it dispatched, but `k` paid for beforehand;
  `pays_of_fuel` proves it of every run, when no activation's charge saturates.
* `dispatch_count_saturates`: with `subcall_dispatch = 2^63` and all of `u64::MAX` gas left, one
  activation dispatches two messages, more than the gas left divided by `subcall_dispatch`: the
  charge for the messages saturated at `u64::MAX`.
* `terminates_and_dispatches_le`: when `subcall_dispatch ≥ 1` and `subcall_dispatch` times
  `max_subcall_count` fits in a `u64`, every run with enough fuel ends, and it dispatches at most
  the gas left divided by `subcall_dispatch` messages, at all depths together.
-/

namespace OasisContracts

open Exec

namespace Exec

variable {α β : Type} {R : ℕ}

/-- From every context with at most `R` gas left, `x` ends, and leaves no more gas than it
found. -/
def Returns (R : ℕ) (x : Exec α) : Prop :=
  ∀ ⦃c : TxCtx⦄, c.gasLimit - c.gasUsed ≤ R →
    ∃ c' r, x c = some (c', r) ∧ c'.gasLimit - c'.gasUsed ≤ c.gasLimit - c.gasUsed

/-- A step that always ends and uses no gas. -/
theorem Returns.of_apply {x : Exec α}
    (hx : ∀ c, ∃ c' r, x c = some (c', r) ∧ c'.gasLimit = c.gasLimit ∧ c'.gasUsed = c.gasUsed) :
    Returns R x := by
  intro c _
  obtain ⟨c', r, h, h₁, h₂⟩ := hx c
  exact ⟨c', r, h, by rw [h₁, h₂]⟩

theorem Returns.pure (a : α) : Returns R (pure a) := .of_apply fun _ => ⟨_, _, rfl, rfl, rfl⟩

theorem Returns.throw (e : Error) : Returns R (throw e : Exec α) :=
  .of_apply fun _ => ⟨_, _, rfl, rfl, rfl⟩

theorem Returns.view : Returns R view := .of_apply fun _ => ⟨_, _, rfl, rfl, rfl⟩

theorem Returns.txCallerAddress : Returns R txCallerAddress :=
  .of_apply fun _ => ⟨_, _, rfl, rfl, rfl⟩

theorem Returns.isCheckOnly : Returns R isCheckOnly := .of_apply fun _ => ⟨_, _, rfl, rfl, rfl⟩

theorem Returns.callDepth : Returns R callDepth := .of_apply fun _ => ⟨_, _, rfl, rfl, rfl⟩

theorem Returns.record (k : EventKind) : Returns R (record k) :=
  .of_apply fun _ => ⟨_, _, rfl, rfl, rfl⟩

theorem Returns.write (w : Write) : Returns R (write w) := .of_apply fun _ => ⟨_, _, rfl, rfl, rfl⟩

theorem Returns.emitTags (tags : List Tag) : Returns R (emitTags tags) :=
  .of_apply fun _ => ⟨_, _, emitTags_apply _ _, rfl, rfl⟩

theorem Returns.emitMessages (messages : List RuntimeMessage) : Returns R (emitMessages messages) :=
  .of_apply fun _ => ⟨_, _, emitMessages_apply _ _, rfl, rfl⟩

theorem Returns.useTxGas (g : ℕ) : Returns R (useTxGas g) := by
  intro c _
  rw [useTxGas_apply]
  split
  · exact ⟨_, _, rfl, by simp only [TxCtx.charge_gasLimit, TxCtx.charge_gasUsed]; omega⟩
  · exact ⟨_, _, rfl, le_rfl⟩

/-- Sequencing, where the rest need only end from where `x` succeeded. -/
theorem Returns.bind_of {x : Exec α} {f : α → Exec β} (hx : Returns R x)
    (hf : ∀ ⦃c c₁ a⦄, c.gasLimit - c.gasUsed ≤ R → x c = some (c₁, .ok a) →
      ∃ c' r, f a c₁ = some (c', r) ∧ c'.gasLimit - c'.gasUsed ≤ c₁.gasLimit - c₁.gasUsed) :
    Returns R (x >>= f) := by
  intro c hc
  obtain ⟨c₁, r, h₁, hs₁⟩ := hx hc
  rcases r with e | a
  · exact ⟨c₁, .error e, by rw [bind_apply, h₁], hs₁⟩
  · obtain ⟨c', r', h₂, hs₂⟩ := hf hc h₁
    exact ⟨c', r', by rw [bind_apply, h₁]; exact h₂, hs₂.trans hs₁⟩

theorem Returns.bind {x : Exec α} {f : α → Exec β} (hx : Returns R x)
    (hf : ∀ a, Returns R (f a)) : Returns R (x >>= f) := by
  refine hx.bind_of fun c c₁ a hc h₁ => hf a ?_
  obtain ⟨c', r, h, hs⟩ := hx hc
  rw [h₁, Option.some.injEq, Prod.mk.injEq] at h
  rw [h.1]
  exact hs.trans hc

/-- A guard `if p then throw e` followed by the rest `f`. -/
theorem Returns.guard {p : Prop} [Decidable p] {e : Error} {f : PUnit → Exec β}
    (hf : Returns R (f ())) :
    Returns R (if p then MonadExcept.throw e >>= f else Pure.pure PUnit.unit >>= f) := by
  split
  · exact .of_apply fun _ => ⟨_, _, rfl, rfl, rfl⟩
  · exact hf

/-- An early `return a` when `p`, followed by the rest `f`. -/
theorem Returns.earlyReturn {p : Prop} [Decidable p] {a : β} {f : PUnit → Exec β}
    (hf : Returns R (f ())) : Returns R (if p then Pure.pure a else Pure.pure PUnit.unit >>= f) := by
  split
  · exact .pure _
  · exact hf

theorem Returns.ofExcept (e : Except Error α) : Returns R (MonadExcept.ofExcept e : Exec α) := by
  cases e <;> first | exact .pure _ | exact .throw _

theorem Returns.nested {x : Exec α} (hx : Returns R x) : Returns R (nested x) := by
  intro c hc
  obtain ⟨c', r, h, hs⟩ := hx (c := { c with nest := c.nest + 1 }) hc
  exact ⟨{ c' with nest := c.nest }, r, by simp only [Exec.nested, h], hs⟩

theorem Returns.catchResult {x : Exec α} (hx : Returns R x) : Returns R (catchResult x) := by
  intro c hc
  obtain ⟨c', r, h, hs⟩ := hx hc
  exact ⟨c', .ok r, by simp only [Exec.catchResult, h], hs⟩

/-! ## The helpers end -/

section Helpers

variable (H : Host)

theorem Returns.runGuestOps (id : InstanceId) (ops : List GuestOp) :
    Returns R (H.runGuestOps id ops) := by
  induction ops with
  | nil => exact .pure _
  | cons op ops ih =>
    cases op <;>
      exact .bind (.useTxGas _) fun _ => by first | exact ih | exact .bind (.write _) fun _ => ih

theorem Returns.invoke (contract : Contract) (entry : Entry) : Returns R (H.invoke contract entry) :=
  .bind .txCallerAddress fun _ => .bind .view fun _ =>
    .bind (.runGuestOps H _ _) fun _ => by split <;> first | exact .pure _ | exact .throw _

theorem Returns.dispatchOther (method : String) (body : Value) :
    Returns R (H.dispatchOther method body) := by
  have hops : ∀ ops, Returns R (Host.runModuleOps ops) := by
    intro ops
    induction ops with
    | nil => exact .pure _
    | cons op ops ih =>
      cases op with
      | useGas g => exact .bind (.useTxGas _) fun _ => ih
      | write k v => exact .bind (.write _) fun _ => ih
      | emitTag t => exact .bind (.emitTags _) fun _ => ih
      | emitMessage m => exact .bind (.emitMessages _) fun _ => ih
  exact .bind .txCallerAddress fun _ => .bind .view fun _ =>
    .bind (.catchResult (hops _)) fun r => by split <;> exact .pure _

theorem Returns.transferTokens (source target : Address) (tokens : List BaseUnits) :
    Returns R (H.transferTokens source target tokens) := by
  induction tokens with
  | nil => exact .pure _
  | cons t tokens ih =>
    refine .bind (.bind .view fun _ => ?_) fun _ => ih
    split
    · exact .of_apply fun _ => ⟨_, _, rfl, rfl, rfl⟩
    · exact .throw _

theorem Returns.loadFrom (get : State → Option α) (err : Error) : Returns R (loadFrom get err) :=
  .bind .view fun _ => by split <;> first | exact .pure _ | exact .throw _

theorem Returns.enforce (p : Policy) : Returns R p.enforce := by
  cases p with
  | nobody => exact .throw _
  | address a =>
    exact .bind .txCallerAddress fun _ => by split <;> first | exact .pure _ | exact .throw _
  | everyone => exact .pure _

theorem Returns.handleCall {body : Value} {decode : Value → Option α} {handler : α → Exec β}
    (hh : ∀ a, Returns R (handler a)) (encode : β → Value) :
    Returns R (handleCall body decode handler encode) := by
  refine .bind (.catchResult ?_) fun r => by split <;> exact .pure _
  split
  · exact .bind (hh _) fun _ => .pure _
  · exact .throw _

theorem Returns.checkMessages (d : U16) (messages : List Sdk.Message) :
    Returns R (checkMessages H d messages) := by
  refine .guard (.bind (.useTxGas _) fun _ => ?_)
  split
  · split <;> first | exact .pure _ | exact .throw _
  · exact .throw _

theorem Returns.txUpgrade (body : Upgrade) : Returns R (txUpgrade H body) :=
  .bind (.useTxGas _) fun _ => .throw _

theorem Returns.txUpload (body : Upload) : Returns R (txUpload H body) := by
  unfold OasisContracts.txUpload
  split
  · refine .guard (.bind (.useTxGas _) fun _ => .bind (.useTxGas _) fun _ =>
      .bind .isCheckOnly fun _ => .earlyReturn (.bind (.ofExcept _) fun code => ?_))
    split
    · exact .guard (.bind (.useTxGas _) fun _ => .bind .isCheckOnly fun _ =>
        .earlyReturn (.bind .view fun _ => .bind (.write _) fun _ => .bind (.write _) fun _ =>
        .bind (.write _) fun _ => .pure _))
    · exact .throw _
  · exact .throw _

/-- A sub-call ends when its child does: the child starts with its allowance, which is at most
the gas left. -/
theorem Returns.callChild {contract : Contract} {d : U16} {msg : Sdk.Message}
    {child : Exec Transaction.CallResult} (hchild : Returns R child) :
    Returns R (callChild H contract d msg child) := by
  intro c hc
  obtain ⟨id, reply, method, body, maxGas⟩ := msg
  have hg := childGas_le maxGas c.remainingGas
  simp only [TxCtx.remainingGas_val] at hg
  simp only [OasisContracts.callChild, bind_apply, remainingGas_apply, record_apply, withChild]
  set k := subCallContext H contract d (.call id reply method body maxGas) c
  rw [show (c.child (H.address contract.instanceInfo) (childGas maxGas c.remainingGas) (d + 1)).record
    (.dispatch (d + 1) (.call id reply method body maxGas)) = k from rfl]
  have hk₀ : k.gasLimit - k.gasUsed ≤ R := by
    simp only [k, subCallContext_gasLimit, subCallContext_gasUsed]; omega
  obtain ⟨k', r, hk, -⟩ := hchild hk₀
  rcases r with e | result
  · exact ⟨_, _, by rw [hk], by simp⟩
  -- The parent's charge for the child's gas ends, in a charge or an error.
  obtain ⟨c₂, r₂, hu, hs₂⟩ := Returns.useTxGas (R := c.gasLimit - c.gasUsed)
    (c := c.afterChild k' result.isSuccess)
    ((childGas maxGas c.remainingGas).val - k'.remainingGas.val) (by simp)
  simp only [TxCtx.afterChild_gasLimit, TxCtx.afterChild_gasUsed] at hs₂
  rw [hk]
  dsimp only
  rw [hu]
  rcases r₂ with e | ⟨⟩
  · exact ⟨_, _, rfl, hs₂⟩
  · exact ⟨_, _, rfl, by simpa [TxCtx.foldl_emitTag, TxCtx.foldl_emitMessage] using hs₂⟩

end Helpers

end Exec

/-! ## The fuel a run needs -/

/-- The fuel a run of `process_execution_result` needs with at most `R` gas left: each level of
nesting costs `subcall_dispatch` gas, and takes at most `2^16 - 1` turns of the message loop
and the three calls down to the child's activation. -/
def Host.fuelFor (H : Host) (R : ℕ) : ℕ := R / H.params.gasCosts.subcallDispatch.val * 65539 + 1

/-- A charge for at least one message costs at least `subcall_dispatch`. -/
theorem le_saturatingMul (cost : U64) {count : ℕ} (h : 0 < count) :
    cost.val ≤ saturatingMul cost count :=
  le_min (Nat.le_mul_of_pos_right _ h) (by have := cost.isLt; unfold u64Max; omega)

variable (H : Host)

/-- The message loop ends when the activations and the dispatcher it calls do: one turn of fuel
per message, on top of what the dispatcher needs. -/
theorem processMessages_returns {R : ℕ}
    (hper : ∀ n, H.fuelFor R ≤ n → ∀ contract result,
      Returns R (processExecutionResult H n contract result))
    (hdtc : ∀ n, H.fuelFor R + 3 ≤ n → ∀ call, Returns R (dispatchTxCall H n call))
    (contract : Contract) (d : U16) :
    ∀ (messages : List Sdk.Message) (data : Bytes) (n : ℕ),
      messages.length + H.fuelFor R + 3 ≤ n → Returns R (processMessages H n contract d data messages)
  | [], data, n, _ => by cases n <;> exact .pure _
  | _ :: _, _, 0, hn => by simp at hn
  | .call id reply method body maxGas :: messages, data, n + 1, hn => by
    simp only [List.length_cons] at hn
    have ih := processMessages_returns hper hdtc contract d messages
    simp only [processMessages]
    refine .bind (.callChild H (hdtc n (by omega) _)) fun result => .bind (.record _) fun _ => ?_
    split
    · exact .bind (.record _) fun _ => .bind (.invoke H _ _) fun _ =>
        .bind (hper n (by omega) _ _) fun _ => .bind (.record _) fun _ => ih _ n (by omega)
    · exact ih _ n (by omega)

/-- The dispatcher ends when the activations do, with three more turns of fuel: one each for
`dispatch_tx_call`, `dispatch_call` and the transaction handler. -/
theorem dispatchTxCall_returns {R : ℕ}
    (hper : ∀ n, H.fuelFor R ≤ n → ∀ contract result,
      Returns R (processExecutionResult H n contract result)) :
    ∀ n, H.fuelFor R + 3 ≤ n → ∀ call, Returns R (dispatchTxCall H n call) := by
  have htx : ∀ n, H.fuelFor R + 1 ≤ n →
      (∀ body, Returns R (txInstantiate H n body)) ∧ ∀ body, Returns R (txCall H n body) := by
    rintro (_ | n) hn
    · omega
    refine ⟨fun body => ?_, fun body => ?_⟩
    · exact .bind .txCallerAddress fun _ => .bind (.useTxGas _) fun _ => .bind .isCheckOnly fun _ =>
        .earlyReturn (.bind (.loadFrom _ _) fun _ => .bind (.enforce _) fun _ =>
        .bind (.loadFrom _ _) fun _ => .bind .view fun _ => .bind (.write _) fun _ =>
        .bind (.write _) fun _ => .bind (.transferTokens H _ _ _) fun _ =>
        .bind (.invoke H _ _) fun _ => .bind (hper n (by omega) _ _) fun _ => .pure _)
    · exact .bind .txCallerAddress fun _ => .bind (.useTxGas _) fun _ => .bind .isCheckOnly fun _ =>
        .earlyReturn (.bind (.loadFrom _ _) fun _ => .bind (.loadFrom _ _) fun _ =>
        .bind (.loadFrom _ _) fun _ => .bind (.transferTokens H _ _ _) fun _ =>
        .bind (.invoke H _ _) fun _ => .bind (hper n (by omega) _ _) fun _ => .pure _)
  have hdc : ∀ n, H.fuelFor R + 2 ≤ n → ∀ method body, Returns R (dispatchCall H n method body) := by
    rintro (_ | n) hn method body
    · omega
    simp only [dispatchCall]
    split
    · exact .handleCall (fun _ => .txUpload H _) _
    · exact .handleCall (fun _ => (htx n (by omega)).1 _) _
    · exact .handleCall (fun _ => (htx n (by omega)).2 _) _
    · exact .handleCall (fun _ => .txUpgrade H _) _
    · exact .pure _
  rintro (_ | n) hn call
  · omega
  refine .bind (hdc n (by omega) _ _) fun r => ?_
  split
  · exact .pure _
  · exact .dispatchOther H _ _

/-- **Termination.** With `subcall_dispatch ≥ 1`, a run of `process_execution_result` with at most
`R` gas left ends given `fuelFor R`: the charge for the messages leaves at most
`R - subcall_dispatch` for everything the loop runs. -/
theorem processExecutionResult_returns (hsd : 0 < H.params.gasCosts.subcallDispatch.val) (R : ℕ) :
    ∀ n, H.fuelFor R ≤ n → ∀ contract result,
      Returns R (processExecutionResult H n contract result) := by
  induction R using Nat.strong_induction_on with
  | _ R ih =>
  rintro (_ | n) hn contract ⟨data, messages⟩
  · simp [Host.fuelFor] at hn
  refine .nested (.bind .callDepth fun d => .bind (.record _) fun _ =>
    (Returns.checkMessages H d _).bind_of fun c c₁ _ hc h₁ => ?_)
  obtain ⟨-, hcount, hg, rfl⟩ := checkMessages_ok h₁
  cases messages with
  | nil => exact ⟨_, _, by cases n <;> rfl, le_rfl⟩
  | cons msg messages =>
    -- The charge is at least `subcall_dispatch`, so the loop runs on less gas.
    dsimp only at hg hcount ⊢
    have hcharge := le_saturatingMul H.params.gasCosts.subcallDispatch
      (List.length_pos.2 (List.cons_ne_nil msg messages))
    simp only [TxCtx.record_gasLimit, TxCtx.record_gasUsed] at hg hc
    have hR : H.params.gasCosts.subcallDispatch.val ≤ R := by omega
    have hdiv := Nat.div_eq_sub_div hsd hR
    have hmax := H.params.maxSubcallCount.isLt
    have hloop := processMessages_returns H (ih _ (Nat.sub_lt_self hsd hR))
      (dispatchTxCall_returns H (ih _ (Nat.sub_lt_self hsd hR))) contract d (msg :: messages) data n
      (by simp only [Host.fuelFor, hdiv, List.length_cons] at hn hcount ⊢; omega)
    exact hloop (by simp only [TxCtx.charge_gasLimit, TxCtx.charge_gasUsed]; omega)


/-! ## Dispatches are paid for -/

/-- The number of messages dispatched in a stretch of trace, at every depth. -/
def dispatches : List Event → ℕ
  | [] => 0
  | e :: seg => (if e.kind.isDispatch then 1 else 0) + dispatches seg

@[simp] theorem dispatches_nil : dispatches [] = 0 := rfl

@[simp] theorem dispatches_cons (e : Event) (seg : List Event) :
    dispatches (e :: seg) = (if e.kind.isDispatch then 1 else 0) + dispatches seg := rfl

@[simp] theorem dispatches_append (s t : List Event) :
    dispatches (s ++ t) = dispatches s + dispatches t := by
  induction s with
  | nil => simp
  | cons e s ih => simp [ih, Nat.add_assoc]

/-- A run from `c` to `c'` that paid `sd` gas for each message it dispatched, at every depth,
but for `k` of them, paid for before it started. -/
structure Pays (sd k : ℕ) (c c' : TxCtx) : Prop where
  gasUsed_le : c.gasUsed ≤ c'.gasUsed
  trace : ∃ seg, c'.trace = c.trace ++ seg ∧ sd * dispatches seg ≤ c'.gasUsed - c.gasUsed + sd * k

namespace Pays

variable {sd : ℕ}

theorem keep {c c' : TxCtx} (h₁ : c'.gasUsed = c.gasUsed) (h₂ : c'.trace = c.trace) :
    Pays sd 0 c c' :=
  ⟨h₁.ge, [], by simp [h₂], by simp⟩

theorem charge (c : TxCtx) (g : ℕ) (h) : Pays sd 0 c (c.charge g h) :=
  ⟨by simp, [⟨c.nest, .charge g⟩], rfl, by simp [EventKind.isDispatch]⟩

theorem record (c : TxCtx) {k : EventKind} (hk : k.isDispatch = false) : Pays sd 0 c (c.record k) :=
  ⟨le_rfl, [⟨c.nest, k⟩], rfl, by simp [hk]⟩

theorem mono {i j : ℕ} {c c' : TxCtx} (h : Pays sd i c c') (hij : i ≤ j) : Pays sd j c c' := by
  obtain ⟨seg, h₁, h₂⟩ := h.trace
  exact ⟨h.gasUsed_le, seg, h₁, h₂.trans (Nat.add_le_add_left (Nat.mul_le_mul_left _ hij) _)⟩

/-- Runs in sequence pay for what each of them left unpaid. -/
theorem trans' {i j : ℕ} {c₁ c₂ c₃ : TxCtx} (h₁ : Pays sd i c₁ c₂) (h₂ : Pays sd j c₂ c₃) :
    Pays sd (i + j) c₁ c₃ := by
  obtain ⟨s₁, e₁, g₁⟩ := h₁.trace
  obtain ⟨s₂, e₂, g₂⟩ := h₂.trace
  have := h₁.gasUsed_le
  have := h₂.gasUsed_le
  refine ⟨by omega, s₁ ++ s₂, by simp [e₁, e₂], ?_⟩
  simp only [dispatches_append, Nat.mul_add]
  omega

end Pays

instance {sd : ℕ} : IsPreorder TxCtx (Pays sd 0) where
  refl _ := .keep rfl rfl
  trans _ _ _ := Pays.trans'

namespace Exec

variable {α β : Type} {sd i j : ℕ}

/-- Sequencing adds up what each part leaves unpaid. -/
theorem Holds.bind_pays {x : Exec α} {f : α → Exec β} (hx : Holds (Pays sd i) x)
    (hf : ∀ a, Holds (Pays sd j) (f a)) : Holds (Pays sd (i + j)) (x >>= f) := by
  intro c c' r h
  rcases bind_eq_some.1 h with ⟨e, h, -⟩ | ⟨c₁, a, h₁, h₂⟩
  · exact (hx h).mono (Nat.le_add_right _ _)
  · exact (hx h₁).trans' (hf a h₂)

theorem Holds.nestedPays {x : Exec α} (hx : Holds (Pays sd i) x) :
    Holds (Pays sd i) (Exec.nested x) := by
  intro c c' r h
  obtain ⟨c₂, hc, rfl⟩ := nested_eq_some.1 h
  exact ⟨(hx hc).gasUsed_le, (hx hc).trace⟩

variable (H : Host)

/-- A sub-call leaves its own dispatch unpaid, and its child pays for everything below: the
parent is charged what the child used. -/
theorem Holds.callChildPays {child : Exec Transaction.CallResult} (hx : Holds (Pays sd 0) child)
    (hlim : Holds (fun k k' => k'.gasLimit = k.gasLimit) child) (hok : NoError child)
    (contract : Contract) (d : U16) (msg : Sdk.Message) :
    Holds (Pays sd 1) (OasisContracts.callChild H contract d msg child) := by
  intro c c' r h
  obtain ⟨id, reply, method, body, maxGas⟩ := msg
  obtain ⟨k', result, hc, -, -, -, -, -, -, -, hgas, -, -, -, htrace⟩ := callChild_eq_some H hlim hok h
  obtain ⟨seg, hseg, hpaid⟩ := (hx hc).trace
  simp only [subCallContext_gasUsed, Nat.sub_zero, subCallContext_trace] at hseg hpaid
  refine ⟨by omega, ⟨c.nest, .dispatch (d + 1) (.call id reply method body maxGas)⟩ :: seg ++
    [⟨c.nest, .charge k'.gasUsed⟩, ⟨c.nest, .absorb k'.gasUsed⟩], by simp [htrace, hseg], ?_⟩
  simp only [List.cons_append, dispatches_cons, dispatches_append, EventKind.isDispatch, if_true,
    dispatches_nil, if_false, hgas, Bool.false_eq_true, Nat.add_zero, Nat.mul_add, Nat.mul_one]
  omega

/-- Past the guards, the charge pays for every message the loop dispatches, when it does not
saturate. -/
theorem Holds.checkMessagesPays
    (hsat : H.params.gasCosts.subcallDispatch.val * H.params.maxSubcallCount.val ≤ u64Max)
    {d : U16} {messages : List Sdk.Message} {loop : Exec Bytes}
    (hloop : Holds (Pays H.params.gasCosts.subcallDispatch.val messages.length) loop) :
    Holds (Pays H.params.gasCosts.subcallDispatch.val 0)
      (OasisContracts.checkMessages H d messages >>= fun _ => loop) := by
  intro c c' r h
  rcases bind_eq_some.1 h with ⟨e, h₁, -⟩ | ⟨c₁, ⟨⟩, h₁, h₂⟩
  · exact Holds.checkMessages H Pays.charge _ _ h₁
  obtain ⟨-, hcount, hg, rfl⟩ := checkMessages_ok h₁
  have hs := saturatingMul_of_le (hsat.trans' (Nat.mul_le_mul_left _ hcount))
  have hp := hloop h₂
  obtain ⟨seg, hseg, hpaid⟩ := hp.trace
  have := hp.gasUsed_le
  simp only [TxCtx.charge_gasUsed, TxCtx.charge_trace, hs] at hseg hpaid this
  refine ⟨by omega, ⟨c.nest, .charge (H.params.gasCosts.subcallDispatch.val * messages.length)⟩ ::
    seg, by simp [hseg], ?_⟩
  simp only [dispatches_cons, EventKind.isDispatch, Bool.false_eq_true, if_false, Nat.zero_add]
  omega

end Exec

variable (H : Host)

/-- The steps outside the block dispatch nothing. -/
theorem blockSteps_pays {sd : ℕ} : BlockSteps H (Pays sd 0) :=
  ⟨Pays.charge, fun _ => .invoke H Pays.charge fun _ _ _ => .keep rfl rfl,
    .transferTokens H fun _ _ => .keep rfl rfl,
    .dispatchOther H Pays.charge (fun _ _ _ => .keep rfl rfl) (fun _ _ => .keep rfl rfl)
      (fun _ _ => .keep rfl rfl),
    .txUpload H Pays.charge fun _ _ => .keep rfl rfl⟩

/-- **Every run pays for its dispatches.** When no activation's charge for its messages can
saturate, every run of the mutual block paid `subcall_dispatch` for each message dispatched, at
every depth; the message loop, for all but its own messages, which its activation paid for. By
induction on fuel. -/
theorem pays_of_fuel
    (hsat : H.params.gasCosts.subcallDispatch.val * H.params.maxSubcallCount.val ≤ u64Max)
    (n : ℕ) :
    (∀ contract result, Holds (Pays H.params.gasCosts.subcallDispatch.val 0)
      (processExecutionResult H n contract result)) ∧
    (∀ contract d data messages, Holds (Pays H.params.gasCosts.subcallDispatch.val messages.length)
      (processMessages H n contract d data messages)) ∧
    (∀ call, Holds (Pays H.params.gasCosts.subcallDispatch.val 0) (dispatchTxCall H n call)) ∧
    (∀ method body, Holds (Pays H.params.gasCosts.subcallDispatch.val 0)
      (dispatchCall H n method body)) ∧
    (∀ body, Holds (Pays H.params.gasCosts.subcallDispatch.val 0) (txInstantiate H n body)) ∧
    (∀ body, Holds (Pays H.params.gasCosts.subcallDispatch.val 0) (txCall H n body)) := by
  induction n with
  | zero =>
    refine ⟨fun _ _ => .outOfFuel, fun _ _ _ messages => ?_, fun _ => .outOfFuel,
      fun _ _ => .outOfFuel, fun _ => .outOfFuel, fun _ => .outOfFuel⟩
    cases messages
    · exact Holds.pure (Q := Pays _ 0) _
    · exact .outOfFuel
  | succ n ih =>
    obtain ⟨hPER, hPM, hDTC, hDC, hTI, hTC⟩ := ih
    have hRecord : ∀ k, k.isDispatch = false →
        Holds (Pays H.params.gasCosts.subcallDispatch.val 0) (Exec.record k) :=
      fun _ hk => .record fun c => .record c hk
    refine ⟨fun contract result => ?_, fun contract d data messages => ?_, fun call => ?_,
      fun method body => ?_, fun body => ?_, fun body => ?_⟩
    case refine_1 =>
      exact .nestedPays (.bind .callDepth fun d => .bind (hRecord _ (by rfl)) fun _ =>
        .checkMessagesPays H hsat (hPM _ _ _ _))
    case refine_2 =>
      cases messages with
      | nil => exact Holds.pure (Q := Pays _ 0) _
      | cons msg messages =>
        obtain ⟨id, reply, method, body, maxGas⟩ := msg
        simp only [processMessages]
        refine Holds.mono (Holds.bind_pays (.callChildPays H (hDTC _)
          ((runs_of_fuel H n).2.2.1 _ |>.mono fun _ _ h => h.gasLimit)
          (dispatchTxCall_noError H n _) _ _ _) fun result => Holds.bind_pays (hRecord _ (by rfl))
          fun _ => (?_ : Holds (Pays _ messages.length) _)) fun _ _ h => h.mono (by simp; omega)
        split
        · refine Holds.mono (Holds.bind_pays (hRecord _ (by rfl)) fun _ => Holds.bind_pays
            (.invoke H Pays.charge (fun _ _ _ => .keep rfl rfl) _) fun _ => Holds.bind_pays
            (hPER _ _) fun _ => Holds.bind_pays (hRecord _ (by rfl)) fun _ => hPM _ _ _ _)
            fun _ _ h => h.mono (by simp)
        · exact hPM _ _ _ _
    case refine_3 => exact (blockSteps_pays H).dispatchTxCall hDC call
    case refine_4 => exact (blockSteps_pays H).dispatchCall hTI hTC method body
    case refine_5 =>
      exact (blockSteps_pays H).txInstantiate (fun _ _ => .keep rfl rfl) (fun _ _ _ => .keep rfl rfl)
        hPER body
    case refine_6 => exact (blockSteps_pays H).txCall hPER body

/-! ## The count of dispatches -/

/-- A host whose `subcall_dispatch` is `2^63`, and whose module method `m` succeeds without
charging gas. -/
def saturatingHost : Host :=
  { Host.sample (fun _ _ _ _ => ⟨[], .ok ⟨[], []⟩⟩) (fun _ _ _ _ => ⟨[], .ok .unit⟩) with
    params := { Parameters.default with
      gasCosts := { GasCosts.default with subcallDispatch := ⟨2 ^ 63, by decide⟩ } } }

/-- With `subcall_dispatch = 2^63` and `u64::MAX` gas, an activation that emits two messages is
charged `u64::MAX`, the saturated product, and dispatches both: more than the gas left divided
by `subcall_dispatch`, which is 1. -/
theorem dispatch_count_saturates :
    ¬ ∀ (H : Host) (n : ℕ) (contract : Contract) (result : Sdk.ExecutionOk) (c c' : TxCtx)
      (r : Except Error Bytes), 0 < H.params.gasCosts.subcallDispatch.val →
      processExecutionResult H n contract result c = some (c', r) →
      ∀ seg, c'.trace = c.trace ++ seg →
        dispatches seg ≤ (c.gasLimit - c.gasUsed) / H.params.gasCosts.subcallDispatch.val := by
  intro h
  have := h saturatingHost 5 .sample
    ⟨[], [.call 0 .never "m" .unit none, .call 0 .never "m" .unit none]⟩
    (.top .executeTx .genesis ⟨0⟩ u64Max le_rfl) _ _ (by decide) rfl _ rfl
  exact absurd this (by decide)

/-- **Termination, and the dispatches bounded by gas.** When `subcall_dispatch ≥ 1` and the
charge for `max_subcall_count` messages fits in a `u64`, a run of `process_execution_result`
given `fuelFor` of the gas left ends, and dispatches, at all depths together, at most the gas
left divided by `subcall_dispatch` messages. -/
theorem terminates_and_dispatches_le (hsd : 0 < H.params.gasCosts.subcallDispatch.val)
    (hsat : H.params.gasCosts.subcallDispatch.val * H.params.maxSubcallCount.val ≤ u64Max)
    (contract : Contract) (result : Sdk.ExecutionOk) (c : TxCtx) (n : ℕ)
    (hn : H.fuelFor (c.gasLimit - c.gasUsed) ≤ n) :
    ∃ c' r, processExecutionResult H n contract result c = some (c', r) ∧
      ∃ seg, c'.trace = c.trace ++ seg ∧
        dispatches seg ≤ (c.gasLimit - c.gasUsed) / H.params.gasCosts.subcallDispatch.val := by
  obtain ⟨c', r, h, -⟩ := processExecutionResult_returns H hsd _ n hn contract result le_rfl
  obtain ⟨seg, hseg, hpaid⟩ := ((pays_of_fuel H hsat n).1 contract result h).trace
  have hlim := ((runs_of_fuel H n).1 contract result h).gasLimit
  have := c'.gasUsed_le
  refine ⟨c', r, h, seg, hseg, (Nat.le_div_iff_mul_le hsd).2 ?_⟩
  rw [Nat.mul_comm]
  omega

theorem terminates_and_dispatches_le_sample :
    0 < replyHost.params.gasCosts.subcallDispatch.val ∧
      replyHost.params.gasCosts.subcallDispatch.val * replyHost.params.maxSubcallCount.val ≤
        u64Max ∧
      replyHost.fuelFor (TxCtx.sample.gasLimit - TxCtx.sample.gasUsed) ≤ 655391 ∧
      ∃ c' r, processExecutionResult replyHost 655391 .sample
          ⟨[1], [.call 0 .always "m" .unit none]⟩ .sample = some (c', r) ∧
        ∃ seg, c'.trace = TxCtx.sample.trace ++ seg ∧ dispatches seg ≤
          (TxCtx.sample.gasLimit - TxCtx.sample.gasUsed) /
            replyHost.params.gasCosts.subcallDispatch.val :=
  ⟨by decide, by decide, by decide,
    terminates_and_dispatches_le replyHost (by decide) (by decide) _ _ _ _ (by decide)⟩

end OasisContracts
