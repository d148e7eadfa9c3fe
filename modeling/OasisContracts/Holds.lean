import OasisContracts.Contracts

/-!
# Relations that every run of a computation keeps

`Holds Q x` says that every run of `x` that ends, with a value or an error, relates the context it
started in to the context it ended in by `Q`. When `Q` is a preorder, `Holds Q` is closed under the
operations of `Exec` (`Holds.pure`, `Holds.bind`, `Holds.nested`, ...), so that a property of
whole runs is proved once for each primitive and then follows the program's own structure.
`NoError x` says that no run of `x` ends in an error.

The primitives come with their equations (`useTxGas_apply`, `emitTags_apply`, ...), and the
context operations with one `rfl` lemma per field they keep, so that later proofs never unfold
them.
-/

namespace OasisContracts

/-! ## Context operations, field by field -/

namespace TxCtx

variable (c : TxCtx)

@[simp] theorem charge_mode (g h) : (c.charge g h).mode = c.mode := rfl
@[simp] theorem charge_base (g h) : (c.charge g h).base = c.base := rfl
@[simp] theorem charge_writes (g h) : (c.charge g h).writes = c.writes := rfl
@[simp] theorem charge_caller (g h) : (c.charge g h).caller = c.caller := rfl
@[simp] theorem charge_gasLimit (g h) : (c.charge g h).gasLimit = c.gasLimit := rfl
@[simp] theorem charge_gasUsed (g h) : (c.charge g h).gasUsed = c.gasUsed + g := rfl
@[simp] theorem charge_depth (g h) : (c.charge g h).depth = c.depth := rfl
@[simp] theorem charge_tags (g h) : (c.charge g h).tags = c.tags := rfl
@[simp] theorem charge_messages (g h) : (c.charge g h).messages = c.messages := rfl
@[simp] theorem charge_nest (g h) : (c.charge g h).nest = c.nest := rfl
@[simp] theorem charge_trace (g h) : (c.charge g h).trace = c.trace ++ [⟨c.nest, .charge g⟩] := rfl

@[simp] theorem record_mode (k) : (c.record k).mode = c.mode := rfl
@[simp] theorem record_base (k) : (c.record k).base = c.base := rfl
@[simp] theorem record_writes (k) : (c.record k).writes = c.writes := rfl
@[simp] theorem record_caller (k) : (c.record k).caller = c.caller := rfl
@[simp] theorem record_gasLimit (k) : (c.record k).gasLimit = c.gasLimit := rfl
@[simp] theorem record_gasUsed (k) : (c.record k).gasUsed = c.gasUsed := rfl
@[simp] theorem record_depth (k) : (c.record k).depth = c.depth := rfl
@[simp] theorem record_tags (k) : (c.record k).tags = c.tags := rfl
@[simp] theorem record_messages (k) : (c.record k).messages = c.messages := rfl
@[simp] theorem record_nest (k) : (c.record k).nest = c.nest := rfl
@[simp] theorem record_trace (k) : (c.record k).trace = c.trace ++ [⟨c.nest, k⟩] := rfl

@[simp] theorem child_mode (a g d) : (c.child a g d).mode = c.mode := rfl
@[simp] theorem child_base (a g d) : (c.child a g d).base = c.view := rfl
@[simp] theorem child_writes (a g d) : (c.child a g d).writes = [] := rfl
@[simp] theorem child_caller (a g d) : (c.child a g d).caller = a := rfl
@[simp] theorem child_gasLimit (a g d) : (c.child a g d).gasLimit = g.val := rfl
@[simp] theorem child_gasUsed (a g d) : (c.child a g d).gasUsed = 0 := rfl
@[simp] theorem child_depth (a g d) : (c.child a g d).depth = d := rfl
@[simp] theorem child_tags (a g d) : (c.child a g d).tags = [] := rfl
@[simp] theorem child_messages (a g d) : (c.child a g d).messages = [] := rfl
@[simp] theorem child_nest (a g d) : (c.child a g d).nest = c.nest := rfl
@[simp] theorem child_trace (a g d) : (c.child a g d).trace = c.trace := rfl

variable (k : TxCtx) (b : Bool)

@[simp] theorem afterChild_mode : (c.afterChild k b).mode = c.mode := rfl
@[simp] theorem afterChild_base : (c.afterChild k b).base = c.base := rfl
@[simp] theorem afterChild_writes :
    (c.afterChild k b).writes = if b then c.writes ++ k.writes else c.writes := rfl
@[simp] theorem afterChild_caller : (c.afterChild k b).caller = c.caller := rfl
@[simp] theorem afterChild_gasLimit : (c.afterChild k b).gasLimit = c.gasLimit := rfl
@[simp] theorem afterChild_gasUsed : (c.afterChild k b).gasUsed = c.gasUsed := rfl
@[simp] theorem afterChild_depth : (c.afterChild k b).depth = c.depth := rfl
@[simp] theorem afterChild_tags : (c.afterChild k b).tags = c.tags := rfl
@[simp] theorem afterChild_messages : (c.afterChild k b).messages = c.messages := rfl
@[simp] theorem afterChild_nest : (c.afterChild k b).nest = c.nest := rfl
@[simp] theorem afterChild_trace : (c.afterChild k b).trace = k.trace := rfl

theorem foldl_emitTag (tags : List Tag) :
    tags.foldl emitTag c = { c with tags := c.tags ++ tags } := by
  induction tags generalizing c with
  | nil => simp
  | cons t tags ih => simp [ih, emitTag]

theorem foldl_emitMessage (messages : List RuntimeMessage) :
    messages.foldl emitMessage c = { c with messages := c.messages ++ messages } := by
  induction messages generalizing c with
  | nil => simp
  | cons m messages ih => simp [ih, emitMessage]

end TxCtx

namespace Exec

variable {α β : Type}

/-! ## The primitives' equations -/

theorem useTxGas_apply (g : ℕ) (c : TxCtx) :
    useTxGas g c = if h : c.gasUsed + g ≤ c.gasLimit then some (c.charge g h, .ok ())
      else some (c, .error (.core .outOfGas)) := rfl

@[simp] theorem record_apply (k : EventKind) (c : TxCtx) : record k c = some (c.record k, .ok ()) :=
  rfl

theorem record_bind_apply {β : Type} (k : EventKind) (f : Unit → Exec β) (c : TxCtx) :
    (record k >>= f) c = f () (c.record k) := rfl

@[simp] theorem write_apply (w : Write) (c : TxCtx) : write w c = some (c.write w, .ok ()) := rfl

@[simp] theorem emitTags_apply (tags : List Tag) (c : TxCtx) :
    emitTags tags c = some ({ c with tags := c.tags ++ tags }, .ok ()) := by
  simp [emitTags, TxCtx.foldl_emitTag]

@[simp] theorem emitMessages_apply (messages : List RuntimeMessage) (c : TxCtx) :
    emitMessages messages c = some ({ c with messages := c.messages ++ messages }, .ok ()) := by
  simp [emitMessages, TxCtx.foldl_emitMessage]

@[simp] theorem view_apply (c : TxCtx) : view c = some (c, .ok c.view) := rfl

@[simp] theorem txCallerAddress_apply (c : TxCtx) : txCallerAddress c = some (c, .ok c.caller) :=
  rfl

@[simp] theorem isCheckOnly_apply (c : TxCtx) : isCheckOnly c = some (c, .ok c.isCheckOnly) := rfl

@[simp] theorem callDepth_apply (c : TxCtx) : callDepth c = some (c, .ok c.depth) := rfl

@[simp] theorem remainingGas_apply (c : TxCtx) : remainingGas c = some (c, .ok c.remainingGas) :=
  rfl

theorem nested_eq_some {x : Exec α} {c c' : TxCtx} {r : Except Error α} :
    nested x c = some (c', r) ↔
      ∃ c₂, x { c with nest := c.nest + 1 } = some (c₂, r) ∧ c' = { c₂ with nest := c.nest } := by
  simp only [Exec.nested]
  split <;> rename_i h
  · simp [h]
  · simp only [Option.some.injEq, Prod.mk.injEq, h]
    constructor
    · rintro ⟨rfl, rfl⟩; exact ⟨_, ⟨rfl, rfl⟩, rfl⟩
    · rintro ⟨_, ⟨rfl, rfl⟩, rfl⟩; exact ⟨rfl, rfl⟩

theorem callDepth_bind_apply {β : Type} (f : U16 → Exec β) (c : TxCtx) :
    (callDepth >>= f) c = f c.depth c := rfl

/-! ## `Holds` -/

/-- Every run of `x` that ends relates its start and end contexts by `Q`. -/
def Holds (Q : TxCtx → TxCtx → Prop) (x : Exec α) : Prop :=
  ∀ ⦃c c' r⦄, x c = some (c', r) → Q c c'

/-- No run of `x` ends in an error. -/
def NoError (x : Exec α) : Prop :=
  ∀ ⦃c c' e⦄, x c ≠ some (c', .error e)

variable {Q : TxCtx → TxCtx → Prop}

theorem Holds.of_apply [IsRefl TxCtx Q] {x : Exec α} (hx : ∀ c, ∃ r, x c = some (c, r)) :
    Holds Q x := by
  intro c c' r h
  obtain ⟨r', h'⟩ := hx c
  obtain ⟨rfl, -⟩ : c = c' ∧ r' = r := by simpa [h'] using h
  exact refl_of Q c

theorem Holds.pure [IsRefl TxCtx Q] (a : α) : Holds Q (pure a) :=
  .of_apply fun _ => ⟨_, rfl⟩

theorem Holds.throw [IsRefl TxCtx Q] (e : Error) : Holds Q (throw e : Exec α) :=
  .of_apply fun _ => ⟨_, rfl⟩

theorem Holds.outOfFuel : Holds Q (outOfFuel : Exec α) := by
  intro c c' r h
  cases h

theorem Holds.bind [IsTrans TxCtx Q] {x : Exec α} {f : α → Exec β} (hx : Holds Q x)
    (hf : ∀ a, Holds Q (f a)) : Holds Q (x >>= f) := by
  intro c c' r h
  rcases bind_eq_some.1 h with ⟨e, h, -⟩ | ⟨c₁, a, h₁, h₂⟩
  · exact hx h
  · exact trans_of Q (hx h₁) (hf a h₂)

/-- Sequencing, where the rest may use that `x` succeeded with `a`. -/
theorem Holds.bind_ok [IsTrans TxCtx Q] {x : Exec α} {f : α → Exec β} (hx : Holds Q x)
    (hf : ∀ a, (∃ c c₁, x c = some (c₁, .ok a)) → Holds Q (f a)) : Holds Q (x >>= f) := by
  intro c c' r h
  rcases bind_eq_some.1 h with ⟨e, h, -⟩ | ⟨c₁, a, h₁, h₂⟩
  · exact hx h
  · exact trans_of Q (hx h₁) (hf a ⟨c, c₁, h₁⟩ h₂)

theorem Holds.throw_bind [IsRefl TxCtx Q] {f : α → Exec β} (e : Error) :
    Holds Q (MonadExcept.throw e >>= f) :=
  .of_apply fun _ => ⟨_, rfl⟩

theorem Holds.pure_bind {f : α → Exec β} {a : α} (h : Holds Q (f a)) :
    Holds Q (Pure.pure a >>= f) := h

/-- A guard `if p then throw e` followed by the rest `f`. -/
theorem Holds.guard [IsRefl TxCtx Q] {p : Prop} [Decidable p] {e : Error} {f : PUnit → Exec β}
    (hf : Holds Q (f ())) :
    Holds Q (if p then MonadExcept.throw e >>= f else Pure.pure PUnit.unit >>= f) := by
  split
  · exact .throw_bind _
  · exact hf

/-- An early `return a` when `p`, followed by the rest `f`. -/
theorem Holds.earlyReturn [IsRefl TxCtx Q] {p : Prop} [Decidable p] {a : β} {f : PUnit → Exec β}
    (hf : Holds Q (f ())) : Holds Q (if p then Pure.pure a else Pure.pure PUnit.unit >>= f) := by
  split
  · exact .pure _
  · exact hf

theorem Holds.ofExcept [IsRefl TxCtx Q] (e : Except Error α) :
    Holds Q (MonadExcept.ofExcept e : Exec α) := by
  cases e <;> first | exact .pure _ | exact .throw _

theorem Holds.view [IsRefl TxCtx Q] : Holds Q view := .of_apply fun _ => ⟨_, rfl⟩

theorem Holds.txCallerAddress [IsRefl TxCtx Q] : Holds Q txCallerAddress :=
  .of_apply fun _ => ⟨_, rfl⟩

theorem Holds.isCheckOnly [IsRefl TxCtx Q] : Holds Q isCheckOnly := .of_apply fun _ => ⟨_, rfl⟩

theorem Holds.callDepth [IsRefl TxCtx Q] : Holds Q callDepth := .of_apply fun _ => ⟨_, rfl⟩

theorem Holds.remainingGas [IsRefl TxCtx Q] : Holds Q remainingGas :=
  .of_apply fun _ => ⟨_, rfl⟩

theorem Holds.useTxGas [IsRefl TxCtx Q] (hQ : ∀ c g h, Q c (c.charge g h)) (g : ℕ) :
    Holds Q (useTxGas g) := by
  intro c c' r h
  rw [useTxGas_apply] at h
  split at h <;> cases h
  · exact hQ _ _ _
  · exact refl_of Q c

theorem Holds.record {k : EventKind} (hQ : ∀ c, Q c (c.record k)) : Holds Q (record k) := by
  intro c c' r h
  cases h
  exact hQ c

theorem Holds.write {w : Write} (hQ : ∀ c, Q c (c.write w)) : Holds Q (write w) := by
  intro c c' r h
  cases h
  exact hQ c

theorem Holds.catchResult {x : Exec α} (hx : Holds Q x) : Holds Q (catchResult x) := by
  intro c c' r h
  simp only [Exec.catchResult] at h
  split at h
  · cases h
  · cases h
    exact hx ‹_›

theorem Holds.mono {Q' : TxCtx → TxCtx → Prop} {x : Exec α} (hx : Holds Q x)
    (hQ : ∀ c c', Q c c' → Q' c c') : Holds Q' x :=
  fun _ _ _ h => hQ _ _ (hx h)

theorem Holds.and {Q' : TxCtx → TxCtx → Prop} {x : Exec α} (hx : Holds Q x) (hx' : Holds Q' x) :
    Holds (fun c c' => Q c c' ∧ Q' c c') x :=
  fun _ _ _ h => ⟨hx h, hx' h⟩

/-! ## `NoError` -/

theorem NoError.of_apply {x : Exec α} (hx : ∀ c, ∃ c' a, x c = some (c', .ok a)) : NoError x := by
  intro c c' e h
  obtain ⟨c'', a, h'⟩ := hx c
  simp [h'] at h

theorem NoError.catchResult (x : Exec α) : NoError (catchResult x) := by
  intro c c' e h
  simp only [Exec.catchResult] at h
  split at h <;> simp_all

theorem NoError.bind {x : Exec α} {f : α → Exec β} (hx : NoError x) (hf : ∀ a, NoError (f a)) :
    NoError (x >>= f) := by
  intro c c' e h
  rcases bind_eq_some.1 h with ⟨e, h, -⟩ | ⟨c₁, a, -, h₂⟩
  · exact hx h
  · exact hf a h₂

theorem NoError.pure (a : α) : NoError (pure a) := by
  intro c c' e h
  simp at h

theorem NoError.outOfFuel : NoError (outOfFuel : Exec α) := by
  intro c c' e h
  simp at h

/-- `dispatch_call`'s arm never ends in an error: an error of the handler is a failed call
result. -/
theorem NoError.handleCall (body : Value) (decode : Value → Option α) (handler : α → Exec β)
    (encode : β → Value) : NoError (handleCall body decode handler encode) :=
  .bind (.catchResult _) fun _ => by split <;> exact .pure _

/-- Another module's method never ends in an error: its error is a failed call result. -/
theorem NoError.dispatchOther (H : Host) (method : String) (body : Value) :
    NoError (H.dispatchOther method body) :=
  .bind (.of_apply fun _ => ⟨_, _, rfl⟩) fun _ => .bind (.of_apply fun _ => ⟨_, _, rfl⟩) fun _ =>
    .bind (.catchResult _) fun _ => by split <;> exact .pure _

/-! ## The host's computations

Each holds for a preorder that gas charges and the host's own kind of write keep. -/

section Host

variable (H : Host) [IsRefl TxCtx Q] [IsTrans TxCtx Q] (hCharge : ∀ c g h, Q c (c.charge g h))
include hCharge

theorem Holds.runGuestOps {id : InstanceId} (hw : ∀ c k v, Q c (c.write (.instanceState id k v)))
    (ops : List GuestOp) : Holds Q (H.runGuestOps id ops) := by
  induction ops with
  | nil => exact .pure _
  | cons op ops ih =>
    cases op <;>
      exact .bind (.useTxGas hCharge _) fun _ => by
        first | exact ih | exact .bind (.write (hw · _ _)) fun _ => ih

theorem Holds.invoke {contract : Contract}
    (hw : ∀ c k v, Q c (c.write (.instanceState contract.instanceInfo.id k v))) (entry : Entry) :
    Holds Q (H.invoke contract entry) :=
  .bind .txCallerAddress fun _ => .bind .view fun _ =>
    .bind (.runGuestOps H hCharge hw _) fun _ => by split <;> first | exact .pure _ | exact .throw _

theorem Holds.dispatchOther (hw : ∀ c k v, Q c (c.write (.other k v)))
    (ht : ∀ c tags, Q c { c with tags := c.tags ++ tags })
    (hm : ∀ c messages, Q c { c with messages := c.messages ++ messages })
    (method : String) (body : Value) : Holds Q (H.dispatchOther method body) := by
  have hops : ∀ ops, Holds Q (Host.runModuleOps ops) := by
    intro ops
    induction ops with
    | nil => exact .pure _
    | cons op ops ih =>
      cases op with
      | useGas g => exact .bind (.useTxGas hCharge _) fun _ => ih
      | write k v => exact .bind (.write (hw · k v)) fun _ => ih
      | emitTag t =>
        exact .bind (fun c c' r h => by cases h; exact ht c [t]) fun _ => ih
      | emitMessage m =>
        exact .bind (fun c c' r h => by cases h; exact hm c [m]) fun _ => ih
  exact .bind .txCallerAddress fun _ => .bind .view fun _ =>
    .bind (.catchResult (hops _)) fun r => by split <;> exact .pure _

omit hCharge in
theorem Holds.transferTokens
    (hw : ∀ c (kvs : List (Bytes × Option Bytes)),
      Q c { c with writes := c.writes ++ kvs.map fun (k, v) => Write.other k v })
    (source target : Address) (tokens : List BaseUnits) :
    Holds Q (H.transferTokens source target tokens) := by
  induction tokens with
  | nil => exact .pure _
  | cons t tokens ih =>
    refine .bind (.bind .view fun _ => ?_) fun _ => ih
    split
    · exact fun c c' r h => by cases h; exact hw c _
    · exact .throw _

end Host

/-! ## The module's helpers -/

section Module

variable (H : Host) [IsRefl TxCtx Q] [IsTrans TxCtx Q]

theorem Holds.loadFrom (get : State → Option α) (err : Error) : Holds Q (loadFrom get err) :=
  .bind .view fun _ => by split <;> first | exact .pure _ | exact .throw _

theorem Holds.enforce (p : Policy) : Holds Q p.enforce := by
  cases p with
  | nobody => exact .throw _
  | address a =>
    exact .bind .txCallerAddress fun _ => by split <;> first | exact .pure _ | exact .throw _
  | everyone => exact .pure _

theorem Holds.handleCall {body : Value} {decode : Value → Option α} {handler : α → Exec β}
    (hh : ∀ a, Holds Q (handler a)) (encode : β → Value) :
    Holds Q (handleCall body decode handler encode) := by
  refine .bind (.catchResult ?_) fun r => by split <;> exact .pure _
  split
  · exact .bind (hh _) fun _ => .pure _
  · exact .throw _

variable (hCharge : ∀ c g h, Q c (c.charge g h))
include hCharge

theorem Holds.checkMessages (d : U16) (messages : List Sdk.Message) :
    Holds Q (checkMessages H d messages) := by
  refine .guard (.bind (.useTxGas hCharge _) fun _ => ?_)
  split
  · split <;> first | exact .pure _ | exact .throw _
  · exact .throw _

theorem Holds.txUpgrade (body : Upgrade) : Holds Q (txUpgrade H body) :=
  .bind (.useTxGas hCharge _) fun _ => .throw _

/-- `txUpload` keeps every preorder that charges and writes keep. -/
theorem Holds.txUpload (hWrite : ∀ c w, Q c (c.write w)) (body : Upload) :
    Holds Q (txUpload H body) := by
  unfold OasisContracts.txUpload
  split
  · refine .guard (.bind (.useTxGas hCharge _) fun _ => .bind (.useTxGas hCharge _) fun _ =>
      .bind .isCheckOnly fun _ => .earlyReturn (.bind (.ofExcept _) fun code => ?_))
    split
    · refine .guard (.bind (.useTxGas hCharge _) fun _ => .bind .isCheckOnly fun _ =>
        .earlyReturn (.bind .view fun s => ?_))
      exact .bind (.write (hWrite · _)) fun _ => .bind (.write (hWrite · _)) fun _ =>
        .bind (.write (hWrite · _)) fun _ => .pure _
    · exact .throw _
  · exact .throw _

end Module

end Exec

end OasisContracts
