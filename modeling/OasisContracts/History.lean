import OasisContracts.Store
import OasisContracts.Loop

/-!
# Committed transactions and the reachable states

Modelled from the spec: the runtime's dispatcher, which is not under `src/`, runs each
transaction of a block in a fresh context on the committed state and commits the context's
writes only when the call succeeded. `Host.executeTx` is one such transaction, `Host.TxStep`
one committed step, and `Host.Reachable` the states reachable from genesis.

* `Host.TxStep.evolves`, `Host.Reachable.inv`: a committed transaction changes the registry by
  registry steps (`evolves_of_fuel`), so every reachable state's registry satisfies
  `Registry.Inv`.
* `txCall_ne_codeNotFound`: `tx_call` on a stored instance never fails with `CodeNotFound`: the
  instance's code is stored (`Registry.Inv`), and nothing after the loads raises that error
  (`raises_of_fuel`: `process_execution_result` raises only its guards' errors, out of gas and a
  trap of the contract).
* `reaches_withEmptyCode`, `nextCode_withEmptyCode_iterate`: uploads of the empty code, one
  transaction each, are committed one after the other; after `m` of them the code counter has
  moved on by `m` in 64-bit arithmetic, so that `2^64` uploads bring it back to where it was.
-/

namespace OasisContracts

open Exec

/-! ## Top-level transactions -/

/-- Modelled from the spec: a transaction at the top level. Its call runs in a fresh context on
the committed state `s`, in execute mode, signed by `caller` with the fee's `gas`; the state it
leaves is the context's view when the call succeeded, and `s` otherwise. `none` when the run
needs more than `n` fuel. -/
def Host.executeTx (H : Host) (n : ℕ) (caller : Address) (gas : U64) (call : Transaction.Call)
    (s : State) : Option (Transaction.CallResult × State) :=
  match dispatchTxCall H n call (.top .executeTx s caller gas.val (Nat.le_sub_one_of_lt gas.isLt)) with
  | some (c', .ok result) => some (result, if result.isSuccess then c'.view else s)
  | _ => none

/-- One committed top-level transaction, from `s` to `s'`. -/
def Host.TxStep (H : Host) (s s' : State) : Prop :=
  ∃ n caller gas call result, H.executeTx n caller gas call s = some (result, s')

/-- The states reachable from genesis by committed top-level transactions. -/
def Host.Reachable (H : Host) (s : State) : Prop := Relation.ReflTransGen H.TxStep .genesis s

variable {H : Host}

/-- A committed transaction changes the registry by registry steps. -/
theorem Host.TxStep.evolves {s s' : State} (h : H.TxStep s s') :
    Registry.Evolves H s.registry s'.registry := by
  obtain ⟨n, caller, gas, call, result, h⟩ := h
  unfold Host.executeTx at h
  split at h
  · rename_i c' result' hc
    obtain ⟨rfl, rfl⟩ := Prod.mk.inj_iff.1 (Option.some.inj h)
    split
    · exact (evolves_of_fuel n).2.2.1 call hc
    · exact .refl
  · cases h

theorem evolves_of_reaches {s s' : State} (h : Relation.ReflTransGen H.TxStep s s') :
    Registry.Evolves H s.registry s'.registry :=
  h.lift' State.registry fun _ _ h => h.evolves

theorem Host.Reachable.evolves {s : State} (h : H.Reachable s) :
    Registry.Evolves H State.genesis.registry s.registry :=
  evolves_of_reaches h

/-- Every reachable state's registry satisfies the invariant. -/
theorem Host.Reachable.inv {s : State} (h : H.Reachable s) : Registry.Inv H s.registry :=
  Registry.Evolves.inv Registry.inv_genesis h.evolves

/-! ## The errors of a run -/

namespace Exec

variable {α β : Type} {E : Error → Prop}

/-- Every error a run of `x` ends in satisfies `E`. -/
def Raises (E : Error → Prop) (x : Exec α) : Prop :=
  ∀ ⦃c c' e⦄, x c = some (c', .error e) → E e

theorem NoError.raises {x : Exec α} (hx : NoError x) : Raises E x :=
  fun _ _ _ h => absurd h (hx ·)

theorem Raises.of_apply {x : Exec α} (hx : ∀ c, ∃ c' a, x c = some (c', .ok a)) : Raises E x :=
  (NoError.of_apply hx).raises

theorem Raises.throw {e : Error} (he : E e) : Raises E (throw e : Exec α) := by
  intro c c' e' h
  cases h
  exact he

theorem Raises.bind {x : Exec α} {f : α → Exec β} (hx : Raises E x) (hf : ∀ a, Raises E (f a)) :
    Raises E (x >>= f) := by
  intro c c' e h
  rcases bind_eq_some.1 h with ⟨e', h, he⟩ | ⟨c₁, a, -, h₂⟩
  · cases he; exact hx h
  · exact hf a h₂

theorem Raises.useTxGas (hgas : E (.core .outOfGas)) (g : ℕ) : Raises E (useTxGas g) := by
  intro c c' e h
  rw [useTxGas_apply] at h
  split at h <;> cases h
  exact hgas

theorem Raises.write (w : Write) : Raises E (write w) := .of_apply fun _ => ⟨_, _, rfl⟩

theorem Raises.record (k : EventKind) : Raises E (record k) := .of_apply fun _ => ⟨_, _, rfl⟩

theorem Raises.nested {x : Exec α} (hx : Raises E x) : Raises E (nested x) := by
  intro c c' e h
  obtain ⟨c₂, hc, -⟩ := nested_eq_some.1 h
  exact hx hc

section Host

variable (H : Host) (hgas : E (.core .outOfGas))
include hgas

theorem Raises.runGuestOps (id : InstanceId) (ops : List GuestOp) :
    Raises E (H.runGuestOps id ops) := by
  induction ops with
  | nil => exact (NoError.pure _).raises
  | cons op ops ih =>
    cases op <;> exact .bind (.useTxGas hgas _) fun _ => by
      first | exact ih | exact .bind (.write _) fun _ => ih

theorem Raises.invoke {contract : Contract} (htrap : ∀ t, E (H.trapError contract t))
    (entry : Entry) : Raises E (H.invoke contract entry) := by
  refine .bind (.of_apply fun _ => ⟨_, _, rfl⟩) fun _ => .bind (.of_apply fun _ => ⟨_, _, rfl⟩)
    fun _ => .bind (.runGuestOps H hgas _ _) fun _ => ?_
  split
  · exact (NoError.pure _).raises
  · exact .throw (htrap _)

end Host

theorem Raises.transferTokens (H : Host) (hbal : E .insufficientCallerBalance)
    (source target : Address) (tokens : List BaseUnits) :
    Raises E (H.transferTokens source target tokens) := by
  induction tokens with
  | nil => exact (NoError.pure _).raises
  | cons t tokens ih =>
    refine .bind (.bind (.of_apply fun _ => ⟨_, _, rfl⟩) fun _ => ?_) fun _ => ih
    split
    · exact .of_apply fun _ => ⟨_, _, rfl⟩
    · exact .throw hbal

end Exec

section Activation

/-! The errors `process_execution_result` can end in: those of its guards, out of gas, and a trap
of the contract's own `handle_reply`. -/

variable (H) {E : Error → Prop} (hdepth : ∀ d m, E (.callDepthExceeded d m))
  (hgas : E (.core .outOfGas)) (hcount : ∀ k m, E (.tooManySubcalls k m))
  (htrap : ∀ contract t, E (H.trapError contract t))
include hdepth hgas hcount htrap

/-- **The errors of an activation.** Every error that `process_execution_result` and its loop end
in satisfies `E`, for any `E` that holds of the guards' errors, out of gas and the traps. -/
theorem raises_of_fuel (n : ℕ) :
    (∀ contract result, Raises E (processExecutionResult H n contract result)) ∧
    (∀ contract d data messages, Raises E (processMessages H n contract d data messages)) := by
  induction n with
  | zero =>
    refine ⟨fun _ _ => NoError.outOfFuel.raises, fun _ _ _ messages => ?_⟩
    cases messages
    · exact (NoError.pure _).raises
    · exact NoError.outOfFuel.raises
  | succ n ih =>
    obtain ⟨hPER, hPM⟩ := ih
    refine ⟨fun contract result => .nested (.bind (.of_apply fun _ => ⟨_, _, rfl⟩) fun d =>
      .bind (.record _) fun _ => .bind ?_ fun _ => hPM _ _ _ _), fun contract d data messages => ?_⟩
    · intro c c' e h
      rw [checkMessages_apply] at h
      split at h
      · cases h; exact hdepth _ _
      split at h
      · simp only [Option.some.injEq, Prod.mk.injEq] at h
        obtain ⟨-, h⟩ := h
        split at h
        · split at h
          · cases h; exact hcount _ _
          · cases h
        · cases h; exact hcount _ _
      · cases h; exact hgas
    cases messages with
    | nil => exact (NoError.pure _).raises
    | cons msg messages =>
      obtain ⟨id, reply, method, body, maxGas⟩ := msg
      -- The sub-call ends in no error: the child's errors are call results. What follows ends
      -- in the errors of a reply or of the rest of the loop.
      intro c c' e h
      obtain ⟨c₁, result, -, ⟨-, h₂⟩ | ⟨-, ⟨e', h₃, he⟩ | ⟨c₂, eo, -, ⟨e', h₅, he⟩ | ⟨c₃, D, -, h₆⟩⟩⟩⟩ :=
        processMessages_cons_eq_some H contract d h
      · exact hPM _ _ _ _ h₂
      · cases he; exact Raises.invoke H hgas (htrap _) _ h₃
      · cases he; exact hPER _ _ h₅
      · exact hPM _ _ _ _ h₆

end Activation

/-- **`tx_call` never fails with `CodeNotFound`**, in any context whose registry satisfies the
invariant: a stored instance's code information and code are stored, an instance that is not
stored fails with `InstanceNotFound`, and nothing else in the handler raises that error. -/
theorem txCall_ne_codeNotFound {n : ℕ} {body : Call} {c c' : TxCtx}
    (hi : Registry.Inv H c.view.registry) :
    txCall H n body c ≠ some (c', .error .codeNotFound) := by
  intro h
  rcases n with _ | n
  · cases h
  simp only [txCall, txCallerAddress_bind_apply] at h
  rcases useTxGas_bind_eq_some h with ⟨c₁, f₁, -, h⟩ | ⟨-, he⟩
  swap; · cases he
  rw [isCheckOnly_bind_apply] at h
  split at h
  · cases h
  rw [pure_bind_apply, loadInstanceInfo] at h
  rcases loadFrom_bind_eq_some h with ⟨inst, hinst, h⟩ | ⟨-, -, he⟩
  swap; · cases he
  rw [f₁.view] at hinst
  -- The instance's code information and code are stored.
  have hinfo := hi.instance_codeInfo hinst
  obtain ⟨code, hcode, -⟩ := hi.code_of_codeInfo (Option.some_get hinfo).symm
  rw [loadCodeInfo] at h
  rcases loadFrom_bind_eq_some h with ⟨info, -, h⟩ | ⟨habs, -⟩
  swap; · rw [f₁.view] at habs; simp [State.registry, habs] at hinfo
  rw [loadCode] at h
  rcases loadFrom_bind_eq_some h with ⟨bytes, -, h⟩ | ⟨habs, -⟩
  swap; · rw [f₁.view] at habs; simp [State.registry, habs] at hcode
  -- Nothing after the loads raises `CodeNotFound`.
  have htrap : ∀ contract t, H.trapError contract t ≠ .codeNotFound := by
    intro contract t; cases t <;> simp [Host.trapError]
  exact Exec.Raises.bind (E := (· ≠ Error.codeNotFound)) (.transferTokens H nofun _ _ _)
    (fun _ => .bind (.invoke H nofun (htrap _) _) fun _ =>
      .bind ((raises_of_fuel H (fun _ _ => nofun) nofun (fun _ _ => nofun) htrap n).1 _ _)
      fun _ => (NoError.pure _).raises) h rfl

/-! ## Uploads up to the counter's wrap -/

/-- A host whose contracts emit nothing and return empty data, and whose other modules succeed
without effects. -/
def quietHost : Host :=
  Host.sample (fun _ _ _ _ => ⟨[], .ok ⟨[], []⟩⟩) fun _ _ _ _ => ⟨[], .ok .unit⟩

/-- An upload of the empty code, with instantiation policy `policy`. -/
def emptyUpload (policy : Policy) : Transaction.Call :=
  ⟨"contracts.Upload", .upload ⟨.oasisV1, policy, []⟩⟩

/-- The state an upload of the empty code leaves: the counter moved on, and the code and its
information stored under the old counter. -/
def State.withEmptyCode (s : State) (policy : Policy) : State :=
  ((s.apply (.nextCodeId s.registry.nextCode.increment)).apply
    (.codeInfo s.registry.nextCode ⟨s.registry.nextCode, ⟨[]⟩, .oasisV1, policy⟩)).apply
    (.code s.registry.nextCode [])

@[simp] theorem State.nextCode_withEmptyCode (s : State) (policy : Policy) :
    (s.withEmptyCode policy).registry.nextCode = s.registry.nextCode.increment := rfl

@[simp] theorem State.codeInfo_withEmptyCode (s : State) (policy : Policy) :
    (s.withEmptyCode policy).codeInfo = Function.update s.codeInfo s.registry.nextCode
      (some ⟨s.registry.nextCode, ⟨[]⟩, .oasisV1, policy⟩) := rfl

@[simp] theorem State.instanceInfo_withEmptyCode (s : State) (policy : Policy) :
    (s.withEmptyCode policy).instanceInfo = s.instanceInfo := rfl

/-- An upload of the empty code is one committed transaction, which returns the counter. -/
theorem executeTx_emptyUpload (policy : Policy) (s : State) :
    quietHost.executeTx 2 ⟨0⟩ 0 (emptyUpload policy) s =
      some (.ok (.uploadResult ⟨s.registry.nextCode⟩), s.withEmptyCode policy) := rfl

theorem txStep_withEmptyCode (policy : Policy) (s : State) :
    quietHost.TxStep s (s.withEmptyCode policy) :=
  ⟨2, ⟨0⟩, 0, emptyUpload policy, _, executeTx_emptyUpload policy s⟩

/-- `m` uploads of the empty code, one transaction each, are committed one after the other. -/
theorem reaches_withEmptyCode (policy : Policy) :
    ∀ m (s : State), Relation.ReflTransGen quietHost.TxStep s ((·.withEmptyCode policy)^[m] s)
  | 0, _ => .refl
  | m + 1, s => by
    rw [Function.iterate_succ_apply']
    exact (reaches_withEmptyCode policy m s).tail (txStep_withEmptyCode policy _)

/-- After `m` uploads the code counter has moved on by `m`, in 64-bit arithmetic. -/
theorem nextCode_withEmptyCode_iterate (policy : Policy) :
    ∀ m (s : State), ((·.withEmptyCode policy)^[m] s).registry.nextCode.toU64.val =
      (s.registry.nextCode.toU64.val + m) % 2 ^ 64
  | 0, s => (Nat.mod_eq_of_lt s.registry.nextCode.toU64.isLt).symm
  | m + 1, s => by
    rw [Function.iterate_succ_apply', State.nextCode_withEmptyCode, CodeId.increment_val_mod,
      nextCode_withEmptyCode_iterate policy m s, Nat.mod_add_mod, Nat.add_assoc]

/-- `m` uploads keep the code information under every identifier that is none of the `m`
counters they store under. -/
theorem codeInfo_withEmptyCode_iterate (policy : Policy) :
    ∀ m (s : State) (id : CodeId),
      (∀ j < m, id.toU64.val ≠ (s.registry.nextCode.toU64.val + j) % 2 ^ 64) →
      ((·.withEmptyCode policy)^[m] s).codeInfo id = s.codeInfo id
  | 0, _, _, _ => rfl
  | m + 1, s, id, h => by
    have hne : id ≠ ((·.withEmptyCode policy)^[m] s).registry.nextCode := fun e =>
      h m (Nat.lt_succ_self m) (by rw [e, nextCode_withEmptyCode_iterate])
    rw [Function.iterate_succ_apply', State.codeInfo_withEmptyCode, Function.update_noteq hne,
      codeInfo_withEmptyCode_iterate policy m s id fun j hj => h j (Nat.lt_succ_of_lt hj)]

/-- Uploads leave the instances as they were. -/
theorem instanceInfo_withEmptyCode_iterate (policy : Policy) :
    ∀ m (s : State), ((·.withEmptyCode policy)^[m] s).instanceInfo = s.instanceInfo
  | 0, _ => rfl
  | m + 1, s => by
    rw [Function.iterate_succ_apply', State.instanceInfo_withEmptyCode,
      instanceInfo_withEmptyCode_iterate policy m s]

/-- `2^64 - 1` uploads after a state whose counter is `k` bring it to `k - 1`, in 64 bits: the
next upload stores its code under `k - 1`. -/
theorem nextCode_withEmptyCode_wrap (policy : Policy) (s : State) (k : CodeId)
    (hk : s.registry.nextCode.toU64.val = k.toU64.val + 1) :
    ((·.withEmptyCode policy)^[u64Max] s).registry.nextCode = k := by
  have h := nextCode_withEmptyCode_iterate policy u64Max s
  rw [hk, show k.toU64.val + 1 + u64Max = k.toU64.val + 2 ^ 64 by unfold u64Max; omega,
    Nat.add_mod_right, Nat.mod_eq_of_lt k.toU64.isLt] at h
  exact CodeId.eq_of_val_eq h

end OasisContracts
