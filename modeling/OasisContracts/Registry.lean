import OasisContracts.Host

/-!
# The registry of codes and instances

What the module's stores are for, as an abstract model. `Registry` is the part of the runtime
state the module owns (`lib.rs`'s `state` module: the two identifier counters, `CODE_INFO`,
`CODE` and `INSTANCE_INFO`), read off a state by `State.registry`, and `Registry.Step` is one of
its two operations: an upload stores a code under the next code identifier, an instantiation
stores an instance of a stored code, whose policy admits the creator, under the next instance
identifier. `Store` proves that every run of the module changes the registry by these steps
alone.

* `Registry.Inv`: every code is stored under its own identifier, with its bytes, whose digest is
  its hash and whose length is within `max_code_size`; every instance is stored under its own
  identifier and names a stored code. Until `u64::MAX` has been assigned, each counter is above
  every identifier in use, and every instance's creator is admitted by its code's instantiation
  policy. `Inv.upload` and `Inv.instantiate` keep it, one lemma per operation, so `Step.inv`
  does, and `Evolves.inv` over any number of steps.
* `Evolves.covers`: entries are only ever added.
* `Evolves.codesExtend`: until a code has been stored under `u64::MAX`, the code counter never
  goes down and no code entry changes; `Evolves.instancesExtend` is the same for instances.
-/

namespace OasisContracts

/-- `CodeId(u64::MAX)`, the last code identifier before the counter wraps. -/
def CodeId.max : CodeId := ⟨⟨u64Max, by decide⟩⟩

/-- `InstanceId(u64::MAX)`, the last instance identifier before the counter wraps. -/
def InstanceId.max : InstanceId := ⟨⟨u64Max, by decide⟩⟩

theorem CodeId.val_lt_of_ne_max {id : CodeId} (h : id ≠ .max) : id.toU64.val < u64Max := by
  obtain ⟨⟨v, hv⟩⟩ := id
  have : v ≠ u64Max := fun e => h (by subst e; rfl)
  show v < u64Max
  unfold u64Max at *; omega

theorem InstanceId.val_lt_of_ne_max {id : InstanceId} (h : id ≠ .max) : id.toU64.val < u64Max := by
  obtain ⟨⟨v, hv⟩⟩ := id
  have : v ≠ u64Max := fun e => h (by subst e; rfl)
  show v < u64Max
  unfold u64Max at *; omega

/-- Whether `Policy::enforce` accepts a transaction signed by `caller`. -/
def Policy.admits : Policy → Address → Bool
  | .nobody, _ => false
  | .address a, caller => a = caller
  | .everyone, _ => true

/-- A policy that admits someone is not `Nobody`, and an `Address(a)` policy admits only `a`. -/
theorem Policy.admits_spec {p : Policy} {caller : Address} (h : p.admits caller) :
    p ≠ .nobody ∧ ∀ a, p = .address a → caller = a := by
  cases p <;> simp_all [Policy.admits]

/-- The module's registries: the two identifier counters, `CODE_INFO`, `CODE` and
`INSTANCE_INFO`. -/
structure Registry where
  nextCodeId : Option CodeId
  nextInstanceId : Option InstanceId
  codeInfo : CodeId → Option Code
  code : CodeId → Option Bytes
  instanceInfo : InstanceId → Option Instance

/-- The registries of a runtime state. -/
def State.registry (s : State) : Registry :=
  ⟨s.nextCodeId, s.nextInstanceId, s.codeInfo, s.code, s.instanceInfo⟩

namespace Registry

/-- The identifier the next upload assigns: the stored counter, the default `0` before the
first. -/
def nextCode (r : Registry) : CodeId := r.nextCodeId.getD default

/-- The identifier the next instantiation assigns. -/
def nextInstance (r : Registry) : InstanceId := r.nextInstanceId.getD default

/-- Store `code`, with its hash, ABI and instantiation policy, under the next code identifier, and
move the counter on. -/
def upload (r : Registry) (hash : Hash) (abi : ABI) (policy : Policy) (code : Bytes) : Registry :=
  { r with
    nextCodeId := some r.nextCode.increment
    codeInfo := Function.update r.codeInfo r.nextCode (some ⟨r.nextCode, hash, abi, policy⟩)
    code := Function.update r.code r.nextCode (some code) }

/-- Store an instance of code `codeId` created by `creator` under the next instance identifier,
and move the counter on. -/
def instantiate (r : Registry) (codeId : CodeId) (creator : Address) (policy : Policy) :
    Registry :=
  { r with
    nextInstanceId := some r.nextInstance.increment
    instanceInfo := Function.update r.instanceInfo r.nextInstance
      (some ⟨r.nextInstance, codeId, creator, policy⟩) }

/-- One operation on the registry, with what it requires: an upload of code within
`max_code_size`, stored with its digest; an instantiation of a stored code, with its bytes, whose
instantiation policy admits the creator. -/
inductive Step (H : Host) : Registry → Registry → Prop
  | upload (r : Registry) (abi : ABI) (policy : Policy) (code : Bytes)
      (hsize : code.length ≤ H.params.maxCodeSize.val) :
      Step H r (r.upload (H.digest code) abi policy code)
  | instantiate (r : Registry) {codeId : CodeId} {info : Code} (creator : Address)
      (policy : Policy) (hinfo : r.codeInfo codeId = some info) (hcode : (r.code codeId).isSome)
      (hadmits : info.instantiatePolicy.admits creator) :
      Step H r (r.instantiate codeId creator policy)

/-- Any number of steps. -/
def Evolves (H : Host) : Registry → Registry → Prop := Relation.ReflTransGen (Step H)

/-- The registry's invariant (see the module's documentation). -/
structure Inv (H : Host) (r : Registry) : Prop where
  codeInfo_id : ∀ {id info}, r.codeInfo id = some info → info.id = id
  code_of_codeInfo : ∀ {id info}, r.codeInfo id = some info →
    ∃ code, r.code id = some code ∧ info.hash = H.digest code ∧
      code.length ≤ H.params.maxCodeSize.val
  instanceInfo_id : ∀ {id i}, r.instanceInfo id = some i → i.id = id
  instance_codeInfo : ∀ {id i}, r.instanceInfo id = some i → (r.codeInfo i.codeId).isSome
  code_lt : r.codeInfo CodeId.max = none → ∀ {id}, (r.codeInfo id).isSome ∨ (r.code id).isSome →
    id.toU64.val < r.nextCode.toU64.val
  instance_lt : r.instanceInfo InstanceId.max = none → ∀ {id}, (r.instanceInfo id).isSome →
    id.toU64.val < r.nextInstance.toU64.val
  admits : r.codeInfo CodeId.max = none → ∀ {id i info}, r.instanceInfo id = some i →
    r.codeInfo i.codeId = some info → info.instantiatePolicy.admits i.creator

/-- `r'` has an entry wherever `r` has one. -/
structure Covers (r r' : Registry) : Prop where
  codeInfo : ∀ {id}, (r.codeInfo id).isSome → (r'.codeInfo id).isSome
  code : ∀ {id}, (r.code id).isSome → (r'.code id).isSome
  instanceInfo : ∀ {id}, (r.instanceInfo id).isSome → (r'.instanceInfo id).isSome

/-- The code registry of `r'` extends that of `r`: its counter is not lower and every entry is
kept as it was. -/
structure CodesExtend (r r' : Registry) : Prop where
  nextCode_le : r.nextCode.toU64.val ≤ r'.nextCode.toU64.val
  codeInfo : ∀ {id info}, r.codeInfo id = some info → r'.codeInfo id = some info
  code : ∀ {id code}, r.code id = some code → r'.code id = some code

/-- The instance registry of `r'` extends that of `r`. -/
structure InstancesExtend (r r' : Registry) : Prop where
  nextInstance_le : r.nextInstance.toU64.val ≤ r'.nextInstance.toU64.val
  instanceInfo : ∀ {id i}, r.instanceInfo id = some i → r'.instanceInfo id = some i

instance : IsPreorder Registry Covers where
  refl _ := ⟨id, id, id⟩
  trans _ _ _ h₁ h₂ := ⟨fun h => h₂.codeInfo (h₁.codeInfo h), fun h => h₂.code (h₁.code h),
    fun h => h₂.instanceInfo (h₁.instanceInfo h)⟩

instance : IsPreorder Registry CodesExtend where
  refl _ := ⟨le_rfl, id, id⟩
  trans _ _ _ h₁ h₂ := ⟨h₁.nextCode_le.trans h₂.nextCode_le, fun h => h₂.codeInfo (h₁.codeInfo h),
    fun h => h₂.code (h₁.code h)⟩

instance : IsPreorder Registry InstancesExtend where
  refl _ := ⟨le_rfl, id⟩
  trans _ _ _ h₁ h₂ := ⟨h₁.nextInstance_le.trans h₂.nextInstance_le,
    fun h => h₂.instanceInfo (h₁.instanceInfo h)⟩

/-! ## The two operations, field by field -/

section Fields

variable (r : Registry) (hash : Hash) (abi : ABI) (policy : Policy) (code : Bytes)

@[simp] theorem upload_nextCode : (r.upload hash abi policy code).nextCode = r.nextCode.increment :=
  rfl

@[simp] theorem upload_codeInfo : (r.upload hash abi policy code).codeInfo =
    Function.update r.codeInfo r.nextCode (some ⟨r.nextCode, hash, abi, policy⟩) := rfl

@[simp] theorem upload_code :
    (r.upload hash abi policy code).code = Function.update r.code r.nextCode (some code) := rfl

@[simp] theorem upload_nextInstance : (r.upload hash abi policy code).nextInstance = r.nextInstance :=
  rfl

@[simp] theorem upload_instanceInfo :
    (r.upload hash abi policy code).instanceInfo = r.instanceInfo := rfl

variable (codeId : CodeId) (creator : Address)

@[simp] theorem instantiate_nextCode : (r.instantiate codeId creator policy).nextCode = r.nextCode :=
  rfl

@[simp] theorem instantiate_codeInfo :
    (r.instantiate codeId creator policy).codeInfo = r.codeInfo := rfl

@[simp] theorem instantiate_code : (r.instantiate codeId creator policy).code = r.code := rfl

@[simp] theorem instantiate_nextInstance :
    (r.instantiate codeId creator policy).nextInstance = r.nextInstance.increment := rfl

@[simp] theorem instantiate_instanceInfo : (r.instantiate codeId creator policy).instanceInfo =
    Function.update r.instanceInfo r.nextInstance
      (some ⟨r.nextInstance, codeId, creator, policy⟩) := rfl

end Fields

theorem isSome_update {α β : Type} [DecidableEq α] {f : α → Option β} {a x : α} {b : β}
    (h : (f x).isSome) : (Function.update f a (some b) x).isSome := by
  rw [Function.update_apply]; split <;> simp [h]

/-! ## One step -/

variable {H : Host} {r r' : Registry}

theorem Step.covers (h : Step H r r') : Covers r r' := by
  cases h with
  | upload => exact ⟨isSome_update, isSome_update, id⟩
  | instantiate => exact ⟨id, id, isSome_update⟩

theorem Covers.eq_none_codeInfo (hc : Covers r r') {id : CodeId} (h : r'.codeInfo id = none) :
    r.codeInfo id = none :=
  Option.not_isSome_iff_eq_none.1 fun h' => absurd (hc.codeInfo h') (by simp [h])

theorem Covers.eq_none_instanceInfo (hc : Covers r r') {id : InstanceId}
    (h : r'.instanceInfo id = none) : r.instanceInfo id = none :=
  Option.not_isSome_iff_eq_none.1 fun h' => absurd (hc.instanceInfo h') (by simp [h])

/-- Before `u64::MAX` is stored, the upload's identifier is below it, so the counter does not
wrap. -/
theorem nextCode_ne_max_of_upload {hash abi policy code}
    (hg : (r.upload hash abi policy code).codeInfo CodeId.max = none) : r.nextCode ≠ CodeId.max :=
  fun h => by simp [Function.update_apply, h] at hg

theorem nextInstance_ne_max_of_instantiate {codeId creator policy}
    (hg : (r.instantiate codeId creator policy).instanceInfo InstanceId.max = none) :
    r.nextInstance ≠ InstanceId.max :=
  fun h => by simp [Function.update_apply, h] at hg

/-- An upload of code within the size limit keeps the invariant. -/
theorem Inv.upload (hi : Inv H r) {abi : ABI} {policy : Policy} {code : Bytes}
    (hsize : code.length ≤ H.params.maxCodeSize.val) :
    Inv H (r.upload (H.digest code) abi policy code) := by
  -- Entries other than the new identifier's are as they were.
  have keep : ∀ {β : Type} (f : CodeId → Option β) {id} (b : β), id ≠ r.nextCode →
      Function.update f r.nextCode (some b) id = f id := fun _ _ _ h => Function.update_noteq h _ _
  -- Until the counter reaches `u64::MAX`, the new identifier is above every one in use.
  have fresh : (r.upload (H.digest code) abi policy code).codeInfo CodeId.max = none →
      r.codeInfo CodeId.max = none ∧ (r.nextCode.increment).toU64.val = r.nextCode.toU64.val + 1 :=
    fun hg => ⟨(Step.upload r abi policy code hsize).covers.eq_none_codeInfo hg,
      CodeId.increment_val (CodeId.val_lt_of_ne_max (nextCode_ne_max_of_upload hg))⟩
  refine ⟨fun {id info} h => ?_, fun {id info} h => ?_, hi.instanceInfo_id,
    fun h => isSome_update (hi.instance_codeInfo h), fun hg {id} h => ?_, hi.instance_lt,
    fun hg {id i info} h h' => ?_⟩
  · by_cases e : id = r.nextCode
    · subst e; simp only [upload_codeInfo, Function.update_same, Option.some.injEq] at h; rw [← h]
    · exact hi.codeInfo_id (by rwa [upload_codeInfo, keep _ _ e] at h)
  · by_cases e : id = r.nextCode
    · subst e; simp only [upload_codeInfo, Function.update_same, Option.some.injEq] at h
      exact ⟨code, by simp, by rw [← h], hsize⟩
    · rw [upload_codeInfo, keep _ _ e] at h
      simpa only [upload_code, keep _ _ e] using hi.code_of_codeInfo h
  · obtain ⟨hg', hinc⟩ := fresh hg
    rw [upload_nextCode, hinc]
    by_cases e : id = r.nextCode
    · rw [e]; omega
    · rw [upload_codeInfo, upload_code, keep _ _ e, keep _ _ e] at h
      have := hi.code_lt hg' h; omega
  · obtain ⟨hg', -⟩ := fresh hg
    -- The instance's code was stored before, so it is not the new identifier.
    have hne : i.codeId ≠ r.nextCode := fun e => by
      have := hi.code_lt hg' (.inl (hi.instance_codeInfo h)); rw [e] at this; omega
    exact hi.admits hg' h (by rwa [upload_codeInfo, keep _ _ hne] at h')

/-- An instantiation of a stored code, by a creator its policy admits, keeps the invariant. -/
theorem Inv.instantiate (hi : Inv H r) {codeId : CodeId} {info : Code} {creator : Address}
    {policy : Policy} (hinfo : r.codeInfo codeId = some info) (hcode : (r.code codeId).isSome)
    (hadmits : info.instantiatePolicy.admits creator) :
    Inv H (r.instantiate codeId creator policy) := by
  have keep : ∀ {id} (i : Instance), id ≠ r.nextInstance →
      Function.update r.instanceInfo r.nextInstance (some i) id = r.instanceInfo id :=
    fun _ h => Function.update_noteq h _ _
  refine ⟨hi.codeInfo_id, hi.code_of_codeInfo, fun {id i} h => ?_, fun {id i} h => ?_, hi.code_lt,
    fun hg {id} h => ?_, fun hg {id i info} h h' => ?_⟩
  · by_cases e : id = r.nextInstance
    · subst e; simp only [instantiate_instanceInfo, Function.update_same, Option.some.injEq] at h
      rw [← h]
    · exact hi.instanceInfo_id (by rwa [instantiate_instanceInfo, keep _ e] at h)
  · by_cases e : id = r.nextInstance
    · subst e; simp only [instantiate_instanceInfo, Function.update_same, Option.some.injEq] at h
      simp [← h, hinfo]
    · exact hi.instance_codeInfo (by rwa [instantiate_instanceInfo, keep _ e] at h)
  · have hne := nextInstance_ne_max_of_instantiate hg
    have hg' := (Step.instantiate r creator policy hinfo hcode hadmits (H := H)).covers.eq_none_instanceInfo hg
    rw [instantiate_nextInstance, InstanceId.increment_val (InstanceId.val_lt_of_ne_max hne)]
    by_cases e : id = r.nextInstance
    · rw [e]; omega
    · rw [instantiate_instanceInfo, keep _ e] at h
      have := hi.instance_lt hg' h; omega
  · by_cases e : id = r.nextInstance
    · subst e; simp only [instantiate_instanceInfo, Function.update_same, Option.some.injEq] at h
      subst h
      rw [instantiate_codeInfo, hinfo, Option.some.injEq] at h'
      rwa [← h']
    · exact hi.admits hg (by rwa [instantiate_instanceInfo, keep _ e] at h) h'

/-- **Every step keeps the invariant.** -/
theorem Step.inv (hi : Inv H r) (h : Step H r r') : Inv H r' := by
  cases h with
  | upload _ _ _ hsize => exact hi.upload hsize
  | instantiate _ _ hinfo hcode hadmits => exact hi.instantiate hinfo hcode hadmits

/-- Until a code is stored under `u64::MAX`, a step keeps every code entry and does not lower the
code counter. -/
theorem Step.codesExtend (hi : Inv H r) (h : Step H r r') (hg : r'.codeInfo CodeId.max = none) :
    CodesExtend r r' := by
  cases h with
  | upload abi policy code hsize =>
    have hg' := (Step.upload r abi policy code hsize).covers.eq_none_codeInfo hg
    have hne := nextCode_ne_max_of_upload hg
    -- An identifier in use is below the counter, so the upload does not touch it.
    have hlt : ∀ id, (r.codeInfo id).isSome ∨ (r.code id).isSome → id ≠ r.nextCode :=
      fun _ h e => by have := hi.code_lt hg' h; rw [e] at this; omega
    refine ⟨?_, fun {id info} h => ?_, fun {id code} h => ?_⟩
    · rw [upload_nextCode, CodeId.increment_val (CodeId.val_lt_of_ne_max hne)]; omega
    · rwa [upload_codeInfo, Function.update_noteq (hlt id (.inl (by simp [h])))]
    · rwa [upload_code, Function.update_noteq (hlt id (.inr (by simp [h])))]
  | instantiate => exact ⟨le_rfl, id, id⟩

/-- Until an instance is stored under `u64::MAX`, a step keeps every instance entry and does not
lower the instance counter. -/
theorem Step.instancesExtend (hi : Inv H r) (h : Step H r r')
    (hg : r'.instanceInfo InstanceId.max = none) : InstancesExtend r r' := by
  cases h with
  | upload => exact ⟨le_rfl, id⟩
  | instantiate creator policy hinfo hcode hadmits =>
    have hg' := (Step.instantiate r creator policy hinfo hcode hadmits (H := H)).covers.eq_none_instanceInfo hg
    have hne := nextInstance_ne_max_of_instantiate hg
    refine ⟨?_, fun {id i} h => ?_⟩
    · rw [instantiate_nextInstance, InstanceId.increment_val (InstanceId.val_lt_of_ne_max hne)]; omega
    · have e : id ≠ r.nextInstance := fun e => by
        have := hi.instance_lt hg' (by simp [h] : (r.instanceInfo id).isSome); rw [e] at this; omega
      rwa [instantiate_instanceInfo, Function.update_noteq e]

/-! ## Any number of steps -/

theorem Evolves.covers (h : Evolves H r r') : Covers r r' := by
  induction h with
  | refl => exact refl_of Covers _
  | tail _ h ih => exact trans_of Covers ih h.covers

theorem Evolves.inv (hi : Inv H r) (h : Evolves H r r') : Inv H r' := by
  induction h with
  | refl => exact hi
  | tail _ h ih => exact Step.inv ih h

theorem Evolves.codesExtend (hi : Inv H r) (h : Evolves H r r') (hg : r'.codeInfo CodeId.max = none) :
    CodesExtend r r' := by
  induction h with
  | refl => exact refl_of CodesExtend _
  | tail h₁ h₂ ih =>
    exact trans_of CodesExtend (ih (h₂.covers.eq_none_codeInfo hg)) (Step.codesExtend (Evolves.inv hi h₁) h₂ hg)

theorem Evolves.instancesExtend (hi : Inv H r) (h : Evolves H r r')
    (hg : r'.instanceInfo InstanceId.max = none) : InstancesExtend r r' := by
  induction h with
  | refl => exact refl_of InstancesExtend _
  | tail h₁ h₂ ih =>
    exact trans_of InstancesExtend (ih (h₂.covers.eq_none_instanceInfo hg))
      (Step.instancesExtend (Evolves.inv hi h₁) h₂ hg)

/-! ## Consequences of the invariant -/

/-- Until code `u64::MAX` is stored, the code counter names no stored code. -/
theorem Inv.nextCode_fresh (hi : Inv H r) (hg : r.codeInfo CodeId.max = none) :
    r.codeInfo r.nextCode = none ∧ r.code r.nextCode = none := by
  refine ⟨Option.not_isSome_iff_eq_none.1 fun h => ?_, Option.not_isSome_iff_eq_none.1 fun h => ?_⟩
  · have := hi.code_lt hg (.inl h); omega
  · have := hi.code_lt hg (.inr h); omega

/-- Until instance `u64::MAX` is stored, the instance counter names no stored instance. -/
theorem Inv.nextInstance_fresh (hi : Inv H r) (hg : r.instanceInfo InstanceId.max = none) :
    r.instanceInfo r.nextInstance = none :=
  Option.not_isSome_iff_eq_none.1 fun h => by have := hi.instance_lt hg h; omega

/-- The empty registry at genesis satisfies the invariant. -/
theorem inv_genesis : Inv H State.genesis.registry :=
  ⟨nofun, nofun, nofun, nofun, fun _ _ h => by simp [State.genesis, State.registry] at h,
    fun _ _ h => by simp [State.genesis, State.registry] at h, fun _ _ _ _ h => nomatch h⟩

end Registry

end OasisContracts
