import OasisContracts.History

/-!
# What an upload costs, and what its check predicts

`tx_upload` charges for the code in two parts: the submitted bytes before the transformation,
and the bytes the instrumentation added after it, each a saturating product with
`tx_upload_per_byte`. The source's comment gives the reason: no incentive to submit code that
instrumentation inflates.

* `upload_charges_larger_size`: a committed upload is charged exactly the base cost and the
  per-byte cost of the larger of the submitted and the stored code, saturated at `u64::MAX`. The
  two saturating parts never add up to more or less than that, because a context's gas limit is
  itself a `u64`.
* `upload_check_matches_execute`: with expensive queries allowed, an upload in a check-only mode
  is the run in execute mode without its writes. It fails with the same error, or succeeds with
  the default result, and it charges the same gas.
-/

namespace OasisContracts

open Exec

variable {H : Host}

/-- Two saturating per-byte charges that fit in a `u64` add up to one saturating charge for the
larger of the two sizes. -/
theorem saturatingMul_add_sub {cost : U64} {len inst used : ℕ}
    (h : used + saturatingMul cost len + saturatingMul cost (inst - len) ≤ u64Max) :
    saturatingMul cost len + saturatingMul cost (inst - len) = saturatingMul cost (max len inst) := by
  have hmax : max len inst = len + (inst - len) := by omega
  unfold saturatingMul at h ⊢
  rw [hmax, Nat.mul_add]
  omega

/-- **A committed upload pays for the larger of its two sizes.** A successful `tx_upload` in
execute mode stores a code under the identifier it returns, and charges exactly `tx_upload` and
`tx_upload_per_byte` times the larger of the submitted code's length and the stored code's length,
saturated at `u64::MAX`. -/
theorem upload_charges_larger_size {body : Upload} {c c' : TxCtx} {res : UploadResult}
    (hmode : c.isCheckOnly = false) (h : txUpload H body c = some (c', .ok res)) :
    ∃ code, c'.view.code res.id = some code ∧
      c'.gasUsed = c.gasUsed + H.params.gasCosts.txUpload.val +
        saturatingMul H.params.gasCosts.txUploadPerByte (max body.code.length code.length) := by
  rcases txUpload_eq_some h with ⟨-, hr⟩ | ⟨-, code, -, -, hbase, hwrites, -, hres, hgas⟩
  · obtain ⟨e, he⟩ := hr hmode
    cases he
  obtain rfl : res = ⟨c.view.registry.nextCode⟩ := by injection hres
  have hcode : c'.view.code c.view.registry.nextCode = some code := by
    show c'.view.registry.code _ = _
    simp [txUpload_registry hbase hwrites]
  -- The gas used stays within the gas limit, a `u64`.
  have hfit : c.gasUsed + H.params.gasCosts.txUpload.val +
      saturatingMul H.params.gasCosts.txUploadPerByte body.code.length +
      saturatingMul H.params.gasCosts.txUploadPerByte (code.length - body.code.length) ≤ u64Max :=
    hgas ▸ c'.gasUsed_le.trans c'.gasLimit_le
  refine ⟨code, hcode, ?_⟩
  rw [hgas, Nat.add_assoc _ (saturatingMul _ _), saturatingMul_add_sub hfit]

/-- A host that charges `5` for an upload and `2` per byte, allows expensive queries, and whose
transformation doubles the code. -/
def inflatingHost : Host :=
  { quietHost with
    params := { Parameters.default with
      gasCosts := { GasCosts.default with txUpload := 5, txUploadPerByte := 2 } }
    expensiveQueriesAllowed := true
    validateAndTransform := fun code _ => .ok (code ++ code) }

/-- A charge in a context whose mode was changed is the charge in the context, with the mode
changed. -/
theorem useTxGas_bind_withMode {β : Type} (g : ℕ) (f : Unit → Exec β) (c : TxCtx) (m : Mode) :
    (useTxGas g >>= f) { c with mode := m } =
      if h : c.gasUsed + g ≤ c.gasLimit then f () { c.charge g h with mode := m }
      else some ({ c with mode := m }, .error (.core .outOfGas)) := by
  rw [useTxGas_bind_apply]; rfl

/-- **The check of an upload predicts its execution.** With expensive queries allowed, `tx_upload`
run from a context in a check-only mode `m` ends as the run from the same context in execute
mode, with the mode `m` and without the writes, and returns the same error or the default
result. -/
theorem upload_check_matches_execute (hq : H.expensiveQueriesAllowed = true) (body : Upload)
    (c : TxCtx) (hc : c.isCheckOnly = false) (m : Mode) (hm : m ≠ .executeTx) :
    txUpload H body { c with mode := m } =
      (txUpload H body c).map fun p => ({ p.1 with mode := m, writes := c.writes },
        p.2.map fun _ => default) := by
  have hm' : ∀ k : TxCtx, ({ k with mode := m } : TxCtx).isCheckOnly = true := fun _ => by
    simpa [TxCtx.isCheckOnly] using hm
  unfold txUpload
  -- Validate code size.
  rcases hs : toU32? body.code.length with _ | codeSize
  · rfl
  simp only [hs]
  by_cases hmax : codeSize > H.params.maxCodeSize
  · rw [if_pos hmax, throw_bind_apply, throw_bind_apply]; rfl
  rw [if_neg hmax, pure_bind_apply, pure_bind_apply, useTxGas_bind_withMode, useTxGas_bind_apply]
  by_cases g₁ : c.gasUsed + H.params.gasCosts.txUpload.val ≤ c.gasLimit
  swap; · rw [dif_neg g₁, dif_neg g₁]; rfl
  rw [dif_pos g₁, dif_pos g₁, useTxGas_bind_withMode, useTxGas_bind_apply]
  by_cases g₂ : (c.charge _ g₁).gasUsed +
    saturatingMul H.params.gasCosts.txUploadPerByte body.code.length ≤ (c.charge _ g₁).gasLimit
  swap; · rw [dif_neg g₂, dif_neg g₂]; rfl
  -- Expensive queries are allowed: no early return.
  rw [dif_pos g₂, dif_pos g₂, isCheckOnly_bind_apply, isCheckOnly_bind_apply]
  simp only [hq, Bool.not_true, Bool.and_false, Bool.false_eq_true, if_false, pure_bind_apply]
  -- Validate and transform the code, and validate its size again.
  rcases hv : H.validateAndTransform body.code body.abi with e | code
  · rw [ofExcept_error_bind_apply, ofExcept_error_bind_apply]; rfl
  rw [ofExcept_ok_bind_apply, ofExcept_ok_bind_apply]
  rcases hs' : toU32? code.length with _ | inst
  · rfl
  simp only [hs']
  by_cases hmax' : inst > H.params.maxCodeSize
  · rw [if_pos hmax', throw_bind_apply, throw_bind_apply]; rfl
  rw [if_neg hmax', pure_bind_apply, pure_bind_apply, useTxGas_bind_withMode, useTxGas_bind_apply]
  by_cases g₃ : ((c.charge _ g₁).charge _ g₂).gasUsed +
    saturatingMul H.params.gasCosts.txUploadPerByte (inst.val - codeSize.val) ≤
      ((c.charge _ g₁).charge _ g₂).gasLimit
  swap; · rw [dif_neg g₃, dif_neg g₃]; rfl
  -- The check returns here; the execution stores the code.
  rw [dif_pos g₃, dif_pos g₃, isCheckOnly_bind_apply, isCheckOnly_bind_apply, hm',
    TxCtx.charge_isCheckOnly, TxCtx.charge_isCheckOnly, TxCtx.charge_isCheckOnly, hc]
  simp only [TxCtx.charge_writes]
  rfl

/-- The doubling host's upload of one byte, checked and executed. -/
theorem upload_check_matches_execute_doubled :
    txUpload inflatingHost ⟨.oasisV1, .everyone, [7]⟩ { TxCtx.sample with mode := .checkTx } =
      (txUpload inflatingHost ⟨.oasisV1, .everyone, [7]⟩ TxCtx.sample).map fun p =>
        ({ p.1 with mode := .checkTx, writes := TxCtx.sample.writes }, p.2.map fun _ => default) :=
  upload_check_matches_execute (H := inflatingHost) rfl _ TxCtx.sample rfl _ (by decide)

end OasisContracts
