import OasisContracts.Loop

/-!
# Reply routing

The routing log of an activation of `process_execution_result` is the list of its dispatches,
its children's results, the replies it delivers and the data their processing returned, as
recorded at the activation's own nesting (`routingLog`). What the children and the replies'
processing record is either a gas charge at that nesting or deeper (`Quiet`, `Deep`), so the log
of an activation is its own.

* `expectedLog`: the log the rules of the spec give for a list of messages and the outcomes of
  their children and of the replies' processing. In emission order, each message is dispatched
  and its child's result comes back; then a reply carrying the message's id and the child's
  result is delivered to the emitting contract exactly when the reply mode asks for it, before
  the next message is dispatched.
* `lastNonempty`: the data the spec says the activation returns: the last non-empty data of the
  delivered replies, else the result's own data.
* `LoopRun.routing`, `ActivationRun.routing`: the log of a run, read off its `LoopRun`, by
  induction over the run: the outcomes are the results of the children it ran and the data of
  the replies' processing it ran.
* `processExecutionResult_routing`: every run is `RoutesReplies`: its log is a prefix of the
  expected log for the outcomes of its actual children and replies (`ActivationRun`); a run that
  returns `Ok data` has the whole expected log, with one outcome per message, and returns
  `lastNonempty` of its replies' data.
-/

namespace OasisContracts

open Exec

/-! ## Routing logs -/

namespace EventKind

/-- The events of the routing log. -/
def isRouting : EventKind → Bool
  | .dispatch .. | .result _ | .reply .. | .replyData _ => true
  | _ => false

end EventKind

/-- The routing events recorded at nesting `L`. -/
def routingLog (L : ℕ) (seg : List Event) : List EventKind :=
  (seg.filter fun e => e.nest == L && e.kind.isRouting).map (·.kind)

@[simp] theorem routingLog_nil (L : ℕ) : routingLog L [] = [] := rfl

@[simp] theorem routingLog_append (L : ℕ) (s t : List Event) :
    routingLog L (s ++ t) = routingLog L s ++ routingLog L t := by
  simp [routingLog]

@[simp] theorem routingLog_cons (L : ℕ) (e : Event) (seg : List Event) :
    routingLog L (e :: seg) =
      (if e.nest = L ∧ e.kind.isRouting then [e.kind] else []) ++ routingLog L seg := by
  by_cases h : e.nest = L ∧ e.kind.isRouting <;> simp_all [routingLog, List.filter_cons]

/-- A charge is no routing event. -/
theorem EventKind.isRouting_of_isCharge {k : EventKind} (h : k.isCharge) : k.isRouting = false := by
  cases k <;> first | rfl | exact h.elim

/-- A stretch that records nothing but charges at nesting `L` has an empty log there. -/
theorem routingLog_eq_nil {L : ℕ} {seg : List Event}
    (h : ∀ e ∈ seg, e.nest = L → e.kind.isCharge) : routingLog L seg = [] := by
  induction seg with
  | nil => rfl
  | cons e seg ih =>
    rw [routingLog_cons, ih fun e he => h e (List.mem_cons_of_mem _ he), if_neg fun ⟨hn, hr⟩ => by
      rw [EventKind.isRouting_of_isCharge (h e (List.mem_cons_self _ _) hn)] at hr; cases hr]
    rfl

theorem Quiet.routingLog_eq_nil {m : U16} {c c' : TxCtx} (h : Quiet m c c') {seg : List Event}
    (hseg : c'.trace = c.trace ++ seg) : routingLog c.nest seg = [] :=
  OasisContracts.routingLog_eq_nil (h.charges seg hseg)

theorem Deep.routingLog_eq_nil {m : U16} {c c' : TxCtx} (h : Deep m c c') {seg : List Event}
    (hseg : c'.trace = c.trace ++ seg) : routingLog c.nest seg = [] :=
  OasisContracts.routingLog_eq_nil fun e he hn => absurd hn (h.deeper seg hseg e he).ne'

/-! ## What the spec asks for -/

/-- The routing log the spec's rules give for `messages` emitted by instance `contract` at
`CallDepth` `d`, when the children return and the replies process to `outcomes`. -/
def expectedLog (contract : InstanceId) (d : U16) :
    List Sdk.Message → List (Transaction.CallResult × Bytes) → List EventKind
  | msg@(.call id reply _ _ _) :: messages, (result, data) :: outcomes =>
    .dispatch (d + 1) msg :: .result result ::
      ((if reply.delivers result.isSuccess then
          [.reply contract (.call id (.ofTransaction result)), .replyData data]
        else []) ++ expectedLog contract d messages outcomes)
  | _, _ => []

@[simp] theorem expectedLog_nil (contract : InstanceId) (d : U16)
    (outcomes : List (Transaction.CallResult × Bytes)) : expectedLog contract d [] outcomes = [] := rfl

@[simp] theorem expectedLog_cons (contract : InstanceId) (d : U16) (id : U64)
    (reply : Sdk.NotifyReply) (method : String) (body : Value) (maxGas : Option U64)
    (messages : List Sdk.Message) (result : Transaction.CallResult) (data : Bytes)
    (outcomes : List (Transaction.CallResult × Bytes)) :
    expectedLog contract d (.call id reply method body maxGas :: messages) ((result, data) :: outcomes) =
      .dispatch (d + 1) (.call id reply method body maxGas) :: .result result ::
        ((if reply.delivers result.isSuccess then
            [.reply contract (.call id (.ofTransaction result)), .replyData data]
          else []) ++ expectedLog contract d messages outcomes) := rfl

@[simp] theorem expectedLog_nil_right (contract : InstanceId) (d : U16)
    (messages : List Sdk.Message) : expectedLog contract d messages [] = [] := by
  cases messages <;> rfl

/-- The data of the delivered replies, in order. -/
def replyData : List EventKind → List Bytes
  | [] => []
  | .replyData data :: log => data :: replyData log
  | _ :: log => replyData log

@[simp] theorem replyData_nil : replyData [] = [] := rfl

@[simp] theorem replyData_append (s t : List EventKind) :
    replyData (s ++ t) = replyData s ++ replyData t := by
  induction s with
  | nil => rfl
  | cons k s ih => cases k <;> simp [replyData, ih]

/-- The last non-empty reply data, or `data` when there is none. -/
def lastNonempty (data : Bytes) (replies : List Bytes) : Bytes :=
  ((replies.filter fun r => !r.isEmpty).getLast?).getD data

@[simp] theorem lastNonempty_nil (data : Bytes) : lastNonempty data [] = data := rfl

/-- A reply's data replaces the data so far exactly when it is non-empty. -/
theorem lastNonempty_cons (data r : Bytes) (rs : List Bytes) :
    lastNonempty data (r :: rs) = lastNonempty (if r.isEmpty then data else r) rs := by
  unfold lastNonempty
  cases hr : r.isEmpty
  · simp only [List.filter_cons, hr, Bool.not_false, if_true, List.getLast?_cons, Option.getD_some,
      Bool.false_eq_true, if_false]
  · simp [List.filter_cons, hr]

example : lastNonempty [1] [[], [2], [], [3], []] = [3] ∧ lastNonempty [1] [[], []] = [1] := by
  decide

/-! ## The loop -/

variable {H : Host} {contract : Contract} {d : U16}

/-- A sub-call records, at its parent's nesting, its dispatch and then, once the loop records it,
its child's result: everything the child records in between is deeper or a charge. -/
theorem SubCallRun.routing {n : ℕ} {id : U64} {reply : Sdk.NotifyReply} {method : String}
    {body : Value} {maxGas : Option U64} {c c₁ : TxCtx} {result : Transaction.CallResult}
    (h : SubCallRun H contract d n (.call id reply method body maxGas) c c₁ result) :
    c₁.nest = c.nest ∧ ∃ pre, (c₁.record (.result result)).trace = c.trace ++ pre ∧
      routingLog c.nest pre = [.dispatch (d + 1) (.call id reply method body maxGas), .result result] := by
  obtain ⟨k', result', hc, hr, -, -, -, -, -, hn₁, -, -, -, -, ht₁⟩ :=
    callChild_eq_some H (dispatchTxCall_gasLimit H n _) (dispatchTxCall_noError H n _) h.2
  cases hr
  have hk := (runs_of_fuel H n).2.2.1 _ hc
  obtain ⟨childSeg, hchild, -⟩ := hk.trace
  have hlog : routingLog c.nest childSeg = [] := by simpa using hk.routingLog_eq_nil hchild
  simp only [subCallContext_trace] at hchild
  refine ⟨hn₁, ⟨c.nest, .dispatch (d + 1) (.call id reply method body maxGas)⟩ :: childSeg ++
    [⟨c.nest, .charge k'.gasUsed⟩, ⟨c.nest, .absorb k'.gasUsed⟩, ⟨c.nest, .result result⟩],
    by simp [ht₁, hchild, hn₁], by simp [hlog, EventKind.isRouting]⟩

/-- A reply's `handle_reply` records nothing on the routing log at its own nesting. -/
theorem handleReply_routingLog {rep : Sdk.Reply} {c c' : TxCtx} {r : Except Error Sdk.ExecutionOk}
    (h : H.handleReply contract rep c = some (c', r)) :
    c'.nest = c.nest ∧ ∃ seg, c'.trace = c.trace ++ seg ∧ routingLog c.nest seg = [] := by
  have hq := Holds.invokeQuiet (m := H.params.maxSubcallDepth) H _ _ h
  obtain ⟨seg, hseg, -⟩ := hq.trace
  exact ⟨hq.nest, seg, hseg, hq.routingLog_eq_nil hseg⟩

/-- An activation records nothing on the routing log at the nesting it is called from. -/
theorem processExecutionResult_routingLog {n : ℕ} {eo : Sdk.ExecutionOk} {c c' : TxCtx}
    {r : Except Error Bytes} (h : processExecutionResult H n contract eo c = some (c', r)) :
    c'.nest = c.nest ∧ ∃ seg, c'.trace = c.trace ++ seg ∧ routingLog c.nest seg = [] := by
  have hp := (runs_of_fuel H n).1 _ _ h
  obtain ⟨seg, hseg, -⟩ := hp.trace
  exact ⟨hp.nest, seg, hseg, hp.routingLog_eq_nil hseg⟩

/-- A delivered reply: up to the end of its `handle_reply`, the routing log records the
sub-call's dispatch and result, then the reply. -/
theorem SubCallRun.routing_reply {n : ℕ} {id : U64} {reply : Sdk.NotifyReply} {method : String}
    {body : Value} {maxGas : Option U64} {c c₁ c₂ : TxCtx} {result : Transaction.CallResult}
    {r₂ : Except Error Sdk.ExecutionOk}
    (h : SubCallRun H contract d n (.call id reply method body maxGas) c c₁ result)
    (h₂ : H.handleReply contract (.call id (.ofTransaction result))
      ((c₁.record (.result result)).record
        (.reply contract.instanceInfo.id (.call id (.ofTransaction result)))) = some (c₂, r₂)) :
    c₂.nest = c.nest ∧ ∃ pre, c₂.trace = c.trace ++ pre ∧
      routingLog c.nest pre = [.dispatch (d + 1) (.call id reply method body maxGas), .result result,
        .reply contract.instanceInfo.id (.call id (.ofTransaction result))] := by
  obtain ⟨hn₁, pre, hpre, hlogpre⟩ := h.routing
  obtain ⟨hn₂, inv, hinv, hloginv⟩ := handleReply_routingLog h₂
  simp only [TxCtx.record_nest, hn₁] at hn₂ hloginv
  refine ⟨hn₂, pre ++ ⟨c.nest, .reply contract.instanceInfo.id (.call id (.ofTransaction result))⟩ ::
    inv, by rw [hinv, TxCtx.record_trace, hpre]; simp [hn₁], ?_⟩
  simp [hlogpre, hloginv, EventKind.isRouting]

/-- The expected log of a message whose reply is delivered. -/
theorem expectedLog_delivered {contract : InstanceId} {id : U64} {reply : Sdk.NotifyReply}
    {method : String} {body : Value} {maxGas : Option U64} {messages : List Sdk.Message}
    {result : Transaction.CallResult} (hdel : reply.delivers result.isSuccess = true) (D : Bytes)
    (outcomes : List (Transaction.CallResult × Bytes)) :
    expectedLog contract d (.call id reply method body maxGas :: messages) ((result, D) :: outcomes) =
      [.dispatch (d + 1) (.call id reply method body maxGas), .result result,
        .reply contract (.call id (.ofTransaction result)), .replyData D] ++
        expectedLog contract d messages outcomes := by
  rw [expectedLog_cons, if_pos hdel]; rfl

/-- **The loop routes replies as the spec says.** The routing log of a run of the loop is a
prefix of the expected log of its outcomes, and all of it, with one outcome per message, when
the loop returned `Ok data`, with `data` the last non-empty data of the delivered replies. -/
theorem LoopRun.routing {n : ℕ} {data : Bytes} {messages : List Sdk.Message} {c c' : TxCtx}
    {r : Except Error Bytes} {children : List TxCtx} {outcomes : List (Transaction.CallResult × Bytes)}
    (h : LoopRun H contract d n data messages c c' r children outcomes) :
    ∃ seg, c'.trace = c.trace ++ seg ∧
      routingLog c.nest seg <+: expectedLog contract.instanceInfo.id d messages outcomes ∧
      ∀ data', r = .ok data' →
        routingLog c.nest seg = expectedLog contract.instanceInfo.id d messages outcomes ∧
        outcomes.length = messages.length ∧
        data' = lastNonempty data (replyData (expectedLog contract.instanceInfo.id d messages outcomes)) := by
  induction h with
  | nil => exact ⟨[], by simp, by simp, fun _ h => by cases h; simp⟩
  | skip hsub hdel _ ih =>
    obtain ⟨hn₁, pre, hpre, hlogpre⟩ := hsub.routing
    obtain ⟨seg, hseg, hpfx, hok⟩ := ih
    simp only [TxCtx.record_nest, hn₁] at hpfx hok
    refine ⟨pre ++ seg, by rw [hseg, hpre, List.append_assoc], ?_, fun data' hr => ?_⟩
    · simpa [hlogpre, hdel] using hpfx
    · obtain ⟨h₁, h₂, h₃⟩ := hok data' hr
      simp [hlogpre, hdel, h₁, h₂, h₃, replyData]
  | @deliver n data id reply method body maxGas messages c c₁ result c₂ eo c₃ D c' r children
      outcomes hsub hdel h₂ h₃ _ ih =>
    -- The reply is recorded, handled and processed at the loop's nesting: no routing event of
    -- theirs but the reply and its data.
    obtain ⟨hn₂, pre, hpre, hlogpre⟩ := hsub.routing_reply h₂
    obtain ⟨hn₃, per, hper, hlogper⟩ := processExecutionResult_routingLog h₃
    rw [hn₂] at hn₃ hlogper
    obtain ⟨seg, hseg, hpfx, hok⟩ := ih
    simp only [TxCtx.record_nest, hn₃] at hpfx hok
    refine ⟨pre ++ (per ++ (⟨c.nest, .replyData D⟩ :: seg)), ?_, ?_, fun data' hr => ?_⟩
    · rw [hseg, TxCtx.record_trace, hper, hpre, hn₃]
      simp
    · simpa [expectedLog_delivered hdel, hlogpre, hlogper, EventKind.isRouting] using hpfx
    · obtain ⟨h₁, h₂, h₃⟩ := hok data' hr
      refine ⟨by simp [expectedLog_delivered hdel, hlogpre, hlogper, EventKind.isRouting, h₁],
        by simp [h₂], ?_⟩
      rw [h₃, expectedLog_delivered hdel]
      simp [replyData, lastNonempty_cons]
  | replyFails hsub hdel h₂ =>
    obtain ⟨-, pre, hpre, hlogpre⟩ := hsub.routing_reply h₂
    exact ⟨pre, hpre, by simp [expectedLog_delivered hdel, hlogpre], fun _ h => by cases h⟩
  | processFails hsub hdel h₂ h₃ =>
    obtain ⟨hn₂, pre, hpre, hlogpre⟩ := hsub.routing_reply h₂
    obtain ⟨-, per, hper, hlogper⟩ := processExecutionResult_routingLog h₃
    rw [hn₂] at hlogper
    exact ⟨pre ++ per, by rw [hper, hpre, List.append_assoc],
      by simp [expectedLog_delivered hdel, hlogpre, hlogper], fun _ h => by cases h⟩

/-- The routing log of an activation's run: a prefix of the expected log of its outcomes, and all
of it, with one outcome per message, when it returned `Ok data`, with `data` the last non-empty
data of the delivered replies, or the result's own data. -/
theorem ActivationRun.routing {n : ℕ} {result : Sdk.ExecutionOk} {c c' : TxCtx}
    {r : Except Error Bytes} {children : List TxCtx} {outcomes : List (Transaction.CallResult × Bytes)}
    (h : ActivationRun H contract result c n c' r children outcomes) :
    ∃ seg, c'.trace = c.trace ++ seg ∧
      routingLog (c.nest + 1) seg <+: expectedLog contract.instanceInfo.id c.depth result.messages outcomes ∧
      ∀ data, r = .ok data →
        routingLog (c.nest + 1) seg = expectedLog contract.instanceInfo.id c.depth result.messages outcomes ∧
        outcomes.length = result.messages.length ∧
        data = lastNonempty result.data
          (replyData (expectedLog contract.instanceInfo.id c.depth result.messages outcomes)) := by
  -- The guards record only charges, at the activation's nesting.
  have hguard : ∀ {c₁ : TxCtx} {r₁ : Except Error Unit}, checkMessages H c.depth result.messages
      ({ c with nest := c.nest + 1 }.record (.activate c.depth result.messages.length)) =
        some (c₁, r₁) → c₁.nest = c.nest + 1 ∧ ∃ chk,
        c₁.trace = c.trace ++ ⟨c.nest + 1, .activate c.depth result.messages.length⟩ :: chk ∧
        routingLog (c.nest + 1) chk = [] := by
    intro c₁ r₁ h₁
    have hq := Holds.checkMessages (Q := Quiet H.params.maxSubcallDepth) H Quiet.charge _ _ h₁
    obtain ⟨chk, hchk, -⟩ := hq.trace
    exact ⟨by simpa using hq.nest, chk, by simp [hchk], by simpa using hq.routingLog_eq_nil hchk⟩
  cases h with
  | guard h₁ =>
    obtain ⟨-, chk, hchk, hlog⟩ := hguard h₁
    exact ⟨_, hchk, by simp [hlog, EventKind.isRouting], fun _ h => by cases h⟩
  | loop h₁ hl =>
    obtain ⟨hn, chk, hchk, hlog⟩ := hguard h₁
    obtain ⟨seg, hseg, hpfx, hok⟩ := hl.routing
    rw [hn] at hpfx hok
    refine ⟨⟨c.nest + 1, .activate c.depth result.messages.length⟩ :: chk ++ seg,
      by simp [hseg, hchk], by simpa [hlog, EventKind.isRouting] using hpfx, fun data hr => ?_⟩
    simpa [hlog, EventKind.isRouting] using hok data hr

variable (H)

/-- An activation from `c` to `c'` that ended in `r` routed the replies to `result`'s messages,
emitted by `contract`, as the spec says. It ran (`ActivationRun`) with `outcomes`: each child's
result, with the data that the processing of `handle_reply`'s result on its reply returned. Its
routing log is a prefix of the expected log for those outcomes, and all of it, with one outcome
per message, when it returned `Ok data`, with `data` the last non-empty data of the delivered
replies, or the result's own data. -/
def RoutesReplies (n : ℕ) (contract : Contract) (result : Sdk.ExecutionOk) (c c' : TxCtx)
    (r : Except Error Bytes) : Prop :=
  ∃ seg children outcomes, c'.trace = c.trace ++ seg ∧
    ActivationRun H contract result c n c' r children outcomes ∧
    routingLog (c.nest + 1) seg <+: expectedLog contract.instanceInfo.id c.depth result.messages outcomes ∧
    ∀ data, r = .ok data →
      routingLog (c.nest + 1) seg = expectedLog contract.instanceInfo.id c.depth result.messages outcomes ∧
      outcomes.length = result.messages.length ∧
      data = lastNonempty result.data
        (replyData (expectedLog contract.instanceInfo.id c.depth result.messages outcomes))

end OasisContracts
