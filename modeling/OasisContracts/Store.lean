import OasisContracts.Run
import OasisContracts.Registry

/-!
# What a run does to the registry

Every run of the module changes the registry a context sees, `c.view.registry`, only by the
registry's own steps (`ViewEvolves`): the faithful model refines the abstract one of `Registry`.

* `txUpload_eq_some`: a run of `tx_upload` either stores nothing (and, in execute mode, fails), or
  stores the validated code, within `max_code_size`, under the next code identifier, moves the
  counter on, and returns that identifier.
* `txInstantiate_eq_some`: a run of `tx_instantiate` either stores nothing (and, in execute mode,
  fails), or loaded a stored code with its bytes, whose policy admits the caller, stored the
  instance under the next instance identifier with the caller as creator, and went on from there.
* `evolves_of_fuel`: every function of the mutual block keeps `ViewEvolves`, by induction on fuel:
  the upload and the instantiation are one registry step each, a sub-call's writes reach its
  parent only when it succeeded, and everything else writes other stores.
* `txUpload_ok`, `txInstantiate_ok`: a successful upload or instantiation in execute mode, as the
  registry sees it: the step it made, and the identifier it returned.

`Frame` is what a gas charge keeps; the inversions step over charges with it, so that their terms
stay small.
-/

namespace OasisContracts

open Exec

/-! ## Primitives in bind position -/

namespace Exec

variable {α β : Type}

theorem useTxGas_bind_apply (g : ℕ) (f : Unit → Exec β) (c : TxCtx) :
    (useTxGas g >>= f) c = if h : c.gasUsed + g ≤ c.gasLimit then f () (c.charge g h)
      else some (c, .error (.core .outOfGas)) := by
  by_cases hg : c.gasUsed + g ≤ c.gasLimit <;> simp [bind_apply, useTxGas_apply, hg]

theorem isCheckOnly_bind_apply (f : Bool → Exec β) (c : TxCtx) :
    (isCheckOnly >>= f) c = f c.isCheckOnly c := rfl

theorem txCallerAddress_bind_apply (f : Address → Exec β) (c : TxCtx) :
    (txCallerAddress >>= f) c = f c.caller c := rfl

theorem view_bind_apply (f : State → Exec β) (c : TxCtx) : (view >>= f) c = f c.view c := rfl

theorem write_bind_apply (w : Write) (f : Unit → Exec β) (c : TxCtx) :
    (write w >>= f) c = f () (c.write w) := rfl

theorem throw_bind_apply (e : Error) (f : α → Exec β) (c : TxCtx) :
    (throw e >>= f) c = some (c, .error e) := rfl

theorem pure_bind_apply (a : α) (f : α → Exec β) (c : TxCtx) : (pure a >>= f) c = f a c := rfl

theorem ofExcept_ok_bind_apply (a : α) (f : α → Exec β) (c : TxCtx) :
    (MonadExcept.ofExcept (.ok a : Except Error α) >>= f) c = f a c := rfl

theorem ofExcept_error_bind_apply (e : Error) (f : α → Exec β) (c : TxCtx) :
    (MonadExcept.ofExcept (.error e : Except Error α) >>= f) c = some (c, .error e) := rfl

end Exec

theorem loadFrom_apply {α : Type} (get : State → Option α) (err : Error) (c : TxCtx) :
    loadFrom get err c = some (c, match get c.view with
      | some a => .ok a
      | none => .error err) := by
  simp only [loadFrom, bind_apply, view_apply]
  cases get c.view <;> rfl

/-- `Policy::enforce` accepts exactly the callers the policy admits. -/
theorem enforce_apply (p : Policy) (c : TxCtx) :
    p.enforce c = some (c, if p.admits c.caller then .ok () else .error .forbidden) := by
  cases p with
  | nobody => rfl
  | address a =>
    simp only [Policy.enforce, Policy.admits, bind_apply, txCallerAddress_apply, decide_eq_true_eq]
    split <;> rfl
  | everyone => rfl

/-! ## Frames -/

/-- What a gas charge keeps: the state, the overlay, the mode and the caller. -/
structure Frame (c c' : TxCtx) : Prop where
  base : c'.base = c.base
  writes : c'.writes = c.writes
  mode : c'.mode = c.mode
  caller : c'.caller = c.caller

theorem Frame.refl (c : TxCtx) : Frame c c := ⟨rfl, rfl, rfl, rfl⟩

theorem Frame.trans {c₁ c₂ c₃ : TxCtx} (h₁ : Frame c₁ c₂) (h₂ : Frame c₂ c₃) : Frame c₁ c₃ :=
  ⟨h₂.base.trans h₁.base, h₂.writes.trans h₁.writes, h₂.mode.trans h₁.mode,
    h₂.caller.trans h₁.caller⟩

theorem Frame.view {c c' : TxCtx} (h : Frame c c') : c'.view = c.view := by
  simp only [TxCtx.view, h.base, h.writes]

theorem Frame.isCheckOnly {c c' : TxCtx} (h : Frame c c') : c'.isCheckOnly = c.isCheckOnly := by
  simp only [TxCtx.isCheckOnly, h.mode]

section Steps

variable {β : Type} {f : Unit → Exec β} {c c' : TxCtx} {r : Except Error β}

/-- A charge followed by `f`: `f` ran in the charged context, or the charge failed. -/
theorem useTxGas_bind_eq_some {g : ℕ} (h : (useTxGas g >>= f) c = some (c', r)) :
    (∃ c₁, Frame c c₁ ∧ c₁.gasUsed = c.gasUsed + g ∧ f () c₁ = some (c', r)) ∨
      (c' = c ∧ r = .error (.core .outOfGas)) := by
  rw [useTxGas_bind_apply] at h
  split at h
  · exact .inl ⟨c.charge g ‹_›, ⟨rfl, rfl, rfl, rfl⟩, rfl, h⟩
  · cases h; exact .inr ⟨rfl, rfl⟩

/-- A policy check followed by `f`. -/
theorem enforce_bind_eq_some {p : Policy} (h : (p.enforce >>= f) c = some (c', r)) :
    (p.admits c.caller ∧ f () c = some (c', r)) ∨ (c' = c ∧ r = .error .forbidden) := by
  rw [bind_apply, enforce_apply] at h
  by_cases ha : p.admits c.caller
  · simp only [ha, if_true] at h; exact .inl ⟨ha, h⟩
  · simp only [ha, Bool.false_eq_true, if_false] at h; cases h; exact .inr ⟨rfl, rfl⟩

/-- A load followed by `g`. -/
theorem loadFrom_bind_eq_some {α : Type} {get : State → Option α} {err : Error}
    {g : α → Exec β} (h : (loadFrom get err >>= g) c = some (c', r)) :
    (∃ a, get c.view = some a ∧ g a c = some (c', r)) ∨
      (get c.view = none ∧ c' = c ∧ r = .error err) := by
  rw [bind_apply, loadFrom_apply] at h
  rcases e : get c.view with _ | a <;> simp only [e] at h
  · cases h; exact .inr ⟨rfl, rfl, rfl⟩
  · exact .inl ⟨a, rfl, h⟩

end Steps

/-! ## The registry a context sees -/

@[simp] theorem TxCtx.charge_isCheckOnly (c : TxCtx) (g h) :
    (c.charge g h).isCheckOnly = c.isCheckOnly := rfl

/-- The registry seen from `c'` evolved from the one seen from `c` by registry steps. -/
def ViewEvolves (H : Host) (c c' : TxCtx) : Prop :=
  Registry.Evolves H c.view.registry c'.view.registry

variable {H : Host}

instance : IsPreorder TxCtx (ViewEvolves H) where
  refl _ := .refl
  trans _ _ _ := Relation.ReflTransGen.trans

theorem ViewEvolves.of_registry {c c' : TxCtx} (h : c'.view.registry = c.view.registry) :
    ViewEvolves H c c' := by
  rw [ViewEvolves, h]; exact .refl

theorem ViewEvolves.of_frame {c c' : TxCtx} (h : Frame c c') : ViewEvolves H c c' :=
  .of_registry (by rw [h.view])

/-- Writes to other stores leave the registry as it is. -/
theorem registry_applyAll_other (s : State) (kvs : List (Bytes × Option Bytes)) :
    (s.applyAll (kvs.map fun (k, v) => .other k v)).registry = s.registry := by
  induction kvs generalizing s with
  | nil => rfl
  | cons kv kvs ih => exact ih _

/-- The three writes of `tx_upload` are one upload. -/
theorem registry_upload (s : State) (hash : Hash) (abi : ABI) (policy : Policy) (code : Bytes) :
    (((s.apply (.nextCodeId s.registry.nextCode.increment)).apply
      (.codeInfo s.registry.nextCode ⟨s.registry.nextCode, hash, abi, policy⟩)).apply
      (.code s.registry.nextCode code)).registry = s.registry.upload hash abi policy code := rfl

/-- The two writes of `tx_instantiate` are one instantiation. -/
theorem registry_instantiate (s : State) (codeId : CodeId) (creator : Address) (policy : Policy) :
    ((s.apply (.nextInstanceId s.registry.nextInstance.increment)).apply
      (.instanceInfo s.registry.nextInstance ⟨s.registry.nextInstance, codeId, creator, policy⟩)).registry =
      s.registry.instantiate codeId creator policy := rfl

namespace Exec

/-- A charge keeps the view. -/
theorem ViewEvolves.charge (c : TxCtx) (g : ℕ) (h) : ViewEvolves H c (c.charge g h) :=
  .of_registry rfl

theorem Holds.invokeEvolves (contract : Contract) (entry : Entry) :
    Holds (ViewEvolves H) (H.invoke contract entry) :=
  .invoke H ViewEvolves.charge (fun _ _ _ => .of_registry (by simp only [TxCtx.view_write]; rfl)) entry

theorem Holds.transferTokensEvolves (source target : Address) (tokens : List BaseUnits) :
    Holds (ViewEvolves H) (H.transferTokens source target tokens) :=
  .transferTokens H (fun _ _ => .of_registry (by
    simp only [TxCtx.view, State.applyAll_append, registry_applyAll_other])) source target tokens

theorem Holds.dispatchOtherEvolves (method : String) (body : Value) :
    Holds (ViewEvolves H) (H.dispatchOther method body) :=
  .dispatchOther H ViewEvolves.charge (fun _ _ _ => .of_registry (by simp only [TxCtx.view_write]; rfl))
    (fun _ _ => .of_registry rfl) (fun _ _ => .of_registry rfl) method body

theorem Holds.nestedEvolves {α : Type} {x : Exec α} (hx : Holds (ViewEvolves H) x) :
    Holds (ViewEvolves H) (Exec.nested x) := by
  intro c c' r h
  obtain ⟨c₂, hc, rfl⟩ := nested_eq_some.1 h
  have hk := hx hc
  exact hk

end Exec

/-! ## `tx_upload` -/

/-- **What `tx_upload` does.** It stores nothing, and then in execute mode it failed; or, past
every check, it stores the validated code under the next code identifier, whose digest is the
stored hash and whose length is within `max_code_size`, moves the counter on, and returns the
identifier, having charged the base cost and the per-byte cost of the submitted bytes and of the
bytes the transformation added. -/
theorem txUpload_eq_some {body : Upload} {c c' : TxCtx} {r : Except Error UploadResult}
    (h : txUpload H body c = some (c', r)) :
    (Frame c c' ∧ (c.isCheckOnly = false → ∃ e, r = .error e)) ∨
    (c.isCheckOnly = false ∧ ∃ code, H.validateAndTransform body.code body.abi = .ok code ∧
      code.length ≤ H.params.maxCodeSize.val ∧ c'.base = c.base ∧
      c'.writes = c.writes ++ [.nextCodeId c.view.registry.nextCode.increment,
        .codeInfo c.view.registry.nextCode
          ⟨c.view.registry.nextCode, H.digest code, body.abi, body.instantiatePolicy⟩,
        .code c.view.registry.nextCode code] ∧
      c'.mode = c.mode ∧ r = .ok ⟨c.view.registry.nextCode⟩ ∧
      c'.gasUsed = c.gasUsed + H.params.gasCosts.txUpload.val +
        saturatingMul H.params.gasCosts.txUploadPerByte body.code.length +
        saturatingMul H.params.gasCosts.txUploadPerByte (code.length - body.code.length)) := by
  have done : ∀ {c₁ : TxCtx} {e}, Frame c c₁ → some (c₁, .error e) = some (c', r) →
      Frame c c' ∧ (c.isCheckOnly = false → ∃ e, r = .error e) := by
    intro c₁ e f h; cases h; exact ⟨f, fun _ => ⟨_, rfl⟩⟩
  unfold txUpload at h
  -- Validate code size.
  rcases hs : toU32? body.code.length with _ | codeSize
  · simp only [hs, throw_apply] at h; exact .inl (done (.refl _) h)
  simp only [hs] at h
  by_cases hmax : codeSize > H.params.maxCodeSize
  · rw [if_pos hmax, throw_bind_apply] at h; exact .inl (done (.refl _) h)
  rw [if_neg hmax, pure_bind_apply] at h
  rcases useTxGas_bind_eq_some h with ⟨c₁, f₁, g₁, h⟩ | ⟨rfl, rfl⟩
  swap; · exact .inl ⟨.refl _, fun _ => ⟨_, rfl⟩⟩
  rcases useTxGas_bind_eq_some h with ⟨c₂, f₂, g₂, h⟩ | ⟨rfl, rfl⟩
  swap; · exact .inl ⟨f₁, fun _ => ⟨_, rfl⟩⟩
  replace f₂ := f₁.trans f₂
  rw [isCheckOnly_bind_apply, f₂.isCheckOnly] at h
  by_cases hq : (c.isCheckOnly && !H.expensiveQueriesAllowed) = true
  · rw [if_pos hq, pure_apply] at h; cases h
    exact .inl ⟨f₂, fun hc => by simp [hc] at hq⟩
  rw [if_neg hq, pure_bind_apply] at h
  -- Validate and transform the code.
  rcases hv : H.validateAndTransform body.code body.abi with e | code
  · rw [hv, ofExcept_error_bind_apply] at h; exact .inl (done f₂ h)
  rw [hv, ofExcept_ok_bind_apply] at h
  -- Validate code size again.
  rcases hs' : toU32? code.length with _ | inst
  · simp only [hs', throw_apply] at h; exact .inl (done f₂ h)
  simp only [hs'] at h
  by_cases hmax' : inst > H.params.maxCodeSize
  · rw [if_pos hmax', throw_bind_apply] at h; exact .inl (done f₂ h)
  rw [if_neg hmax', pure_bind_apply] at h
  rcases useTxGas_bind_eq_some h with ⟨c₃, f₃, g₃, h⟩ | ⟨rfl, rfl⟩
  swap; · exact .inl ⟨f₂, fun _ => ⟨_, rfl⟩⟩
  replace f₃ := f₂.trans f₃
  rw [isCheckOnly_bind_apply, f₃.isCheckOnly] at h
  by_cases hq' : c.isCheckOnly = true
  · rw [if_pos hq', pure_apply] at h; cases h
    exact .inl ⟨f₃, fun hc => by simp [hc] at hq'⟩
  -- Assign the next identifier and store the code.
  rw [if_neg hq', pure_bind_apply, view_bind_apply, write_bind_apply, storeCodeInfo, write_bind_apply,
    storeCode, write_bind_apply, pure_apply, f₃.view] at h
  obtain ⟨rfl, rfl⟩ := Prod.mk.inj_iff.1 (Option.some.inj h)
  refine .inr ⟨by simpa using hq', code, rfl, by rw [← toU32?_eq_some.1 hs']; exact not_lt.1 hmax',
    f₃.base, by simp [TxCtx.write, f₃.writes, Registry.nextCode, State.registry], f₃.mode, rfl, ?_⟩
  show c₃.gasUsed = _
  rw [g₃, g₂, g₁, toU32?_eq_some.1 hs, toU32?_eq_some.1 hs']

/-- A context whose overlay grew by `ws` sees its old view with `ws` applied. -/
theorem TxCtx.view_of_writes {c c' : TxCtx} {ws : List Write} (hbase : c'.base = c.base)
    (hwrites : c'.writes = c.writes ++ ws) : c'.view = c.view.applyAll ws := by
  rw [TxCtx.view, hbase, hwrites, State.applyAll_append]; rfl

/-- A run of `tx_upload` that stored something is one upload of the registry. -/
theorem txUpload_registry {body : Upload} {c c' : TxCtx} {code : Bytes}
    (hbase : c'.base = c.base) (hwrites : c'.writes = c.writes ++
      [.nextCodeId c.view.registry.nextCode.increment, .codeInfo c.view.registry.nextCode
        ⟨c.view.registry.nextCode, H.digest code, body.abi, body.instantiatePolicy⟩,
        .code c.view.registry.nextCode code]) :
    c'.view.registry =
      c.view.registry.upload (H.digest code) body.abi body.instantiatePolicy code := by
  rw [TxCtx.view_of_writes hbase hwrites, ← registry_upload]; rfl

/-- A successful `tx_upload` in execute mode is one upload of the registry, and returns its
identifier. -/
theorem txUpload_ok {body : Upload} {c c' : TxCtx} {res : UploadResult}
    (hmode : c.isCheckOnly = false) (h : txUpload H body c = some (c', .ok res)) :
    ∃ code, code.length ≤ H.params.maxCodeSize.val ∧ res = ⟨c.view.registry.nextCode⟩ ∧
      c'.view.registry =
        c.view.registry.upload (H.digest code) body.abi body.instantiatePolicy code := by
  rcases txUpload_eq_some h with ⟨-, hr⟩ | ⟨-, code, -, hsize, hbase, hwrites, -, hres, -⟩
  · obtain ⟨e, he⟩ := hr hmode; cases he
  · exact ⟨code, hsize, by injection hres, txUpload_registry hbase hwrites⟩

theorem Exec.Holds.txUploadEvolves (body : Upload) :
    Holds (ViewEvolves H) (OasisContracts.txUpload H body) := by
  intro c c' r h
  rcases txUpload_eq_some h with ⟨f, -⟩ | ⟨-, code, -, hsize, hbase, hwrites, -⟩
  · exact ViewEvolves.of_frame f
  · rw [ViewEvolves, txUpload_registry hbase hwrites]
    exact .single (.upload _ _ _ _ hsize)

/-! ## `tx_instantiate` -/

/-- **What `tx_instantiate` does.** It stores nothing, and then in execute mode it failed; or it
loaded the code information and the bytes of `body.codeId`, whose policy admits the caller, and,
from the context charged so far, stores the instance, created by the caller, under the next
instance identifier, moves the counter on, and runs the rest of the handler from there. -/
theorem txInstantiate_eq_some {n : ℕ} {body : Instantiate} {c c' : TxCtx}
    {r : Except Error InstantiateResult} (h : txInstantiate H (n + 1) body c = some (c', r)) :
    (Frame c c' ∧ (c.isCheckOnly = false → ∃ e, r = .error e)) ∨
    ∃ info code c₁, c.view.codeInfo body.codeId = some info ∧
      info.instantiatePolicy.admits c.caller ∧ c.view.code body.codeId = some code ∧ Frame c c₁ ∧
      (H.transferTokens c.caller
          (H.address ⟨c.view.registry.nextInstance, body.codeId, c.caller, body.upgradesPolicy⟩)
          body.tokens >>= fun _ =>
        H.instantiate ⟨info, code, ⟨c.view.registry.nextInstance, body.codeId, c.caller,
          body.upgradesPolicy⟩⟩ body >>= fun result =>
        processExecutionResult H n ⟨info, code, ⟨c.view.registry.nextInstance, body.codeId,
          c.caller, body.upgradesPolicy⟩⟩ result >>= fun _ =>
        pure ⟨c.view.registry.nextInstance⟩)
        ((c₁.write (.nextInstanceId c.view.registry.nextInstance.increment)).write
          (.instanceInfo c.view.registry.nextInstance
            ⟨c.view.registry.nextInstance, body.codeId, c.caller, body.upgradesPolicy⟩)) =
        some (c', r) := by
  simp only [txInstantiate, txCallerAddress_bind_apply] at h
  rcases useTxGas_bind_eq_some h with ⟨c₁, f₁, -, h⟩ | ⟨rfl, rfl⟩
  swap; · exact .inl ⟨.refl _, fun _ => ⟨_, rfl⟩⟩
  rw [isCheckOnly_bind_apply, f₁.isCheckOnly] at h
  by_cases hq : (c.isCheckOnly && !H.expensiveQueriesAllowed) = true
  · rw [if_pos hq, pure_apply] at h; cases h
    exact .inl ⟨f₁, fun hc => by simp [hc] at hq⟩
  rw [if_neg hq, pure_bind_apply, loadCodeInfo] at h
  -- Load code information, enforce the instantiation policy and load the code.
  rcases loadFrom_bind_eq_some h with ⟨info, hinfo, h⟩ | ⟨-, rfl, rfl⟩
  swap; · exact .inl ⟨f₁, fun _ => ⟨_, rfl⟩⟩
  rcases enforce_bind_eq_some h with ⟨hadmits, h⟩ | ⟨rfl, rfl⟩
  swap; · exact .inl ⟨f₁, fun _ => ⟨_, rfl⟩⟩
  rw [loadCode] at h
  rcases loadFrom_bind_eq_some h with ⟨code, hcode, h⟩ | ⟨-, rfl, rfl⟩
  swap; · exact .inl ⟨f₁, fun _ => ⟨_, rfl⟩⟩
  -- Assign the next identifier and store the instance.
  rw [view_bind_apply, write_bind_apply, storeInstanceInfo, write_bind_apply, f₁.view] at h
  rw [f₁.view] at hinfo hcode
  rw [f₁.caller] at hadmits
  exact .inr ⟨info, code, c₁, hinfo, hadmits, hcode, f₁, h⟩



theorem Exec.Holds.txInstantiateEvolves {n : ℕ}
    (hPER : ∀ contract result, Holds (ViewEvolves H) (processExecutionResult H n contract result))
    (body : Instantiate) : Holds (ViewEvolves H) (OasisContracts.txInstantiate H (n + 1) body) := by
  intro c c' r h
  rcases txInstantiate_eq_some h with ⟨f, -⟩ | ⟨info, code, c₁, hinfo, hadmits, hcode, f, h⟩
  · exact ViewEvolves.of_frame f
  · refine trans_of (ViewEvolves H) ?_ ((Holds.bind (.transferTokensEvolves _ _ _) fun _ =>
      .bind (.invokeEvolves _ _) fun _ => .bind (hPER _ _) fun _ => .pure _) h)
    rw [ViewEvolves, TxCtx.view_write, TxCtx.view_write, f.view, registry_instantiate]
    exact .single (.instantiate _ _ _ hinfo (by simp [State.registry, hcode]) hadmits)

/-! ## Sub-calls and whole runs -/

/-- A sub-call commits its child's writes only when the child succeeded: the parent's registry
then is the child's, and otherwise it is as it was. -/
theorem Exec.Holds.callChildEvolves {contract : Contract} {d : U16} {msg : Sdk.Message}
    {child : Exec Transaction.CallResult} (hruns : Holds (Quiet H.params.maxSubcallDepth) child)
    (hok : NoError child) (hx : Holds (ViewEvolves H) child) :
    Holds (ViewEvolves H) (OasisContracts.callChild H contract d msg child) := by
  intro c c' r h
  obtain ⟨id, reply, method, body, maxGas⟩ := msg
  obtain ⟨k', result, hc, -, -, hbase, -, -, -, -, -, hw, -⟩ :=
    callChild_eq_some H (hruns.mono fun _ _ h => h.gasLimit) hok h
  have hk := hx hc
  have hkb := (hruns hc).base
  cases hs : result.isSuccess
  · exact .of_registry (by simp only [TxCtx.view, hbase, hw, hs, Bool.false_eq_true, if_false])
  · have hview : c'.view = k'.view := by
      rw [TxCtx.view, hbase, hw, hs, if_pos rfl, State.applyAll_append, TxCtx.view, hkb]; rfl
    rw [ViewEvolves, hview]
    exact hk

/-- The steps outside the block change the registry only by an upload. -/
theorem blockSteps_evolves : BlockSteps H (ViewEvolves H) :=
  ⟨ViewEvolves.charge, Holds.invokeEvolves, Holds.transferTokensEvolves, Holds.dispatchOtherEvolves,
    Holds.txUploadEvolves⟩

/-- **Every run refines the registry.** Every function of the mutual block, at every fuel,
changes the registry its context sees only by registry steps. -/
theorem evolves_of_fuel (n : ℕ) :
    (∀ contract result, Holds (ViewEvolves H) (processExecutionResult H n contract result)) ∧
    (∀ contract d data messages,
      Holds (ViewEvolves H) (processMessages H n contract d data messages)) ∧
    (∀ call, Holds (ViewEvolves H) (dispatchTxCall H n call)) ∧
    (∀ method body, Holds (ViewEvolves H) (dispatchCall H n method body)) ∧
    (∀ body, Holds (ViewEvolves H) (txInstantiate H n body)) ∧
    (∀ body, Holds (ViewEvolves H) (txCall H n body)) :=
  blockSteps_evolves.of_fuel H (fun _ _ => .of_registry rfl) Holds.nestedEvolves
    (fun _ _ _ => .callChildEvolves) (fun _ hPER => .txInstantiateEvolves hPER) n

/-- A successful `tx_instantiate` in execute mode is one instantiation of the registry, by its
caller and of a code whose policy admits it, followed by the registry steps of the rest of the
run; it returns the new instance's identifier. -/
theorem txInstantiate_ok {n : ℕ} {body : Instantiate} {c c' : TxCtx} {res : InstantiateResult}
    (hmode : c.isCheckOnly = false) (h : txInstantiate H n body c = some (c', .ok res)) :
    ∃ info c₁, c.view.codeInfo body.codeId = some info ∧ info.instantiatePolicy.admits c.caller ∧
      res = ⟨c.view.registry.nextInstance⟩ ∧
      c₁.view.registry = c.view.registry.instantiate body.codeId c.caller body.upgradesPolicy ∧
      Registry.Step H c.view.registry c₁.view.registry ∧ ViewEvolves H c₁ c' := by
  rcases n with _ | n
  · cases h
  rcases txInstantiate_eq_some h with ⟨-, hr⟩ | ⟨info, code, c₁, hinfo, hadmits, hcode, f, h⟩
  · obtain ⟨e, he⟩ := hr hmode; cases he
  have hc₁ : ((c₁.write (.nextInstanceId c.view.registry.nextInstance.increment)).write
      (.instanceInfo c.view.registry.nextInstance ⟨c.view.registry.nextInstance, body.codeId,
        c.caller, body.upgradesPolicy⟩)).view.registry =
      c.view.registry.instantiate body.codeId c.caller body.upgradesPolicy := by
    rw [TxCtx.view_write, TxCtx.view_write, f.view, registry_instantiate]
  refine ⟨info, _, hinfo, hadmits, ?_, hc₁,
    hc₁ ▸ .instantiate _ _ _ hinfo (Option.isSome_iff_exists.2 ⟨code, hcode⟩) hadmits,
    (Holds.bind (.transferTokensEvolves _ _ _) fun _ => .bind (.invokeEvolves _ _) fun _ =>
      .bind ((evolves_of_fuel n).1 _ _) fun _ => .pure _) h⟩
  -- The rest of the handler returns the identifier.
  rcases bind_eq_some.1 h with ⟨e, -, he⟩ | ⟨c₂, a, -, h⟩
  · cases he
  rcases bind_eq_some.1 h with ⟨e, -, he⟩ | ⟨c₃, b, -, h⟩
  · cases he
  rcases bind_eq_some.1 h with ⟨e, -, he⟩ | ⟨c₄, d, -, h⟩
  · cases he
  cases h; rfl

end OasisContracts
