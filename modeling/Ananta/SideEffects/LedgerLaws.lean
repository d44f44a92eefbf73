import Ananta.SideEffects.AuthorizationLaws
import Ananta.SideEffects.Ledger

/-! What each call on the side-effect ledger can do, stated once for all later arguments. -/

namespace Ananta

open List Call

section

variable (intent : AuthorizationIntent) (ledger : Ledger)

/-- What an authorization found and computed before it was committed. -/
def AuthorizationMade (record : SideEffectRecord) (receipt : AuthorizationReceipt) : Prop :=
  ∃ observation, observeTransitionAuthorization intent ledger = .ok observation ∧
    observation.receipt = none ∧
    transitionAuthorizationCommitValues intent observation.ledgerRecord
      observation.operationReceipts = .ok (record, receipt)

inductive AuthorizeEffect : Except Fault AuthorizationReceipt → Ledger → Prop where
  /-- Nothing is written, whether a stored receipt is returned or the call is refused. -/
  | kept {outcome : Except Fault AuthorizationReceipt} : AuthorizeEffect outcome ledger
  /-- The record and its receipt are written together. -/
  | committed {record : SideEffectRecord} {receipt : AuthorizationReceipt}
      (made : AuthorizationMade intent ledger record receipt) :
      AuthorizeEffect (.ok receipt) (ledger.authorized intent record receipt)

/-- An authorization commits everything or nothing. -/
lemma authorizeTransitionEffect_cases (digest : Str) :
    Ensures (authorizeTransitionEffect intent digest) ledger (AuthorizeEffect intent ledger) := by
  -- Every computation before the write leaves the ledger alone when it raises.
  refine ensures_evaluate (fun _ _ => .kept) fun expected _ => ?_
  refine ensures_evaluate (fun _ _ => .kept) fun observation observed => ?_
  cases found : observation.receipt with
  | some receipt => exact .kept
  | none =>
    refine ensures_guard (fun _ => .kept) fun _ => ?_
    refine ensures_evaluate (fun _ _ => .kept) fun values valued => ?_
    exact .committed ⟨observation, observed, found, valued⟩

end

section

variable {record : SideEffectRecord} {receipt : AuthorizationReceipt}
  {receipts : List AuthorizationReceipt}

/-- A new record is planned and pristine, under the identifier derived from its texts. -/
lemma newRecord_spec {tenantId workflowId runId stepId declaredOperation sideEffectClass : Str}
    {timestamp : Float64}
    (made : newRecord tenantId workflowId runId stepId declaredOperation sideEffectClass timestamp =
      .ok record) :
    ∃ kind, SideEffectClass.named (strip sideEffectClass) = some kind ∧
      operationIdFor tenantId runId stepId declaredOperation = .ok record.operationId ∧
      record.PristinePlanned ∧
      record.binding = (strip tenantId, strip workflowId, strip runId, strip stepId,
        strip declaredOperation, kind) := by
  -- The last branch is the only one that returns.
  simp only [newRecord, ok_iff] at made
  obtain ⟨operationId, derived, _, _, made⟩ := made
  split at made
  · cases made
  · rename_i kind named
    simp only [ok_iff] at made
    obtain ⟨_, _, rfl⟩ := made
    exact ⟨kind, named, derived, ⟨rfl, rfl, rfl, rfl, rfl, rfl, rfl⟩, rfl⟩

variable {intent : AuthorizationIntent} {ledger : Ledger}

/-- A receipt is about the same operation as an intent, in every field that describes it. -/
@[mk_iff] structure SameOperation (intent : AuthorizationIntent)
    (receipt : AuthorizationReceipt) : Prop where
  operationId : receipt.operationId = intent.operationId
  operationIntentDigest : receipt.operationIntentDigest = intent.operationIntentDigest
  operationPayloadDigest : receipt.operationPayloadDigest = intent.operationPayloadDigest
  tenantId : receipt.tenantId = intent.tenantId
  workflowId : receipt.workflowId = intent.workflowId
  runId : receipt.runId = intent.runId
  stepId : receipt.stepId = intent.stepId
  declaredOperation : receipt.declaredOperation = intent.declaredOperation
  sideEffectClass : receipt.sideEffectClass = intent.sideEffectClass

/-- The history check accepts exactly the receipts of the same operation. -/
lemma assertOperationHistory_eq_ok :
    assertOperationHistory intent receipt = .ok () ↔ SameOperation intent receipt := by
  -- Each disjunct of the guard is one field of the structure.
  simp only [assertOperationHistory, raiseIf_eq_ok, not_or, not_not, sameOperation_iff]

/-- The binding check accepts exactly the records of the intent's operation. -/
lemma assertLedgerBinding_eq_ok :
    assertLedgerBinding intent record = .ok () ↔ BoundTo intent.toAuthorizationTerms record := by
  -- Each disjunct of the guard is one field of the structure.
  simp only [assertLedgerBinding, raiseIf_eq_ok, not_or, not_not, boundTo_iff]

lemma mem_operationReceipts :
    receipt ∈ operationReceiptsOf intent (transitionAuthorizationRelevantReceipts intent receipts) ↔
      receipt ∈ receipts ∧ receipt.operationId = intent.operationId := by
  -- Sorting keeps the members, and every receipt of the operation is relevant.
  simp only [operationReceiptsOf, transitionAuthorizationRelevantReceipts,
    (perm_insertionSort _ _).mem_iff, mem_filter, decide_eq_true_eq]
  exact ⟨fun ⟨⟨member, _⟩, same⟩ => ⟨member, same⟩, fun ⟨member, same⟩ =>
    ⟨⟨member, .inl same⟩, same⟩⟩

/-- In a chain of authorizations, every receipt comes before the last one. -/
lemma authorizedBefore_last {latest : AuthorizationReceipt}
    (chain : receipts.IsChain AuthorizedBefore) (last : receipts.getLast? = some latest) :
    ∀ receipt ∈ receipts, receipt = latest ∨ AuthorizedBefore receipt latest := by
  -- The order is transitive, so the chain relates every pair.
  have : IsTrans AuthorizationReceipt AuthorizedBefore :=
    ⟨fun _ _ _ first second => ⟨first.1.trans second.1, first.2.trans second.2⟩⟩
  obtain ⟨earlier, rfl⟩ := getLast?_eq_some_iff.mp last
  have pairs := (pairwise_append.mp (isChain_iff_pairwise.mp chain)).2.2
  intro receipt member
  rcases mem_append.mp member with before | same
  · exact .inr (pairs receipt before latest (by simp))
  · exact .inl (mem_singleton.mp same)

/-- What has to hold of the ledger for an authorization to be committed on it. -/
inductive Authorizable (intent : AuthorizationIntent) (ledger : Ledger) : SideEffectRecord →
    Prop where
  /-- Nothing is known of the operation, and a planned record is made for it. -/
  | absent {planned : SideEffectRecord} (missing : ledger.records.get? intent.operationId = none)
      (unissued : ∀ receipt ∈ ledger.transitionAuthorizationReceipts.values,
        receipt.operationId ≠ intent.operationId)
      (made : newRecord intent.tenantId intent.workflowId intent.runId intent.stepId
        intent.declaredOperation intent.sideEffectClass.name intent.plannedAt = .ok planned) :
      Authorizable intent ledger planned
  /-- The operation was planned and nothing else. -/
  | planned {current : SideEffectRecord}
      (found : ledger.records.get? intent.operationId = some current)
      (bound : BoundTo intent.toAuthorizationTerms current) (pristine : current.PristinePlanned)
      (unissued : ∀ receipt ∈ ledger.transitionAuthorizationReceipts.values,
        receipt.operationId ≠ intent.operationId) :
      Authorizable intent ledger current
  /-- The attempt authorized last has failed, and the new fence is higher than its own. -/
  | failed {current : SideEffectRecord} {latest : AuthorizationReceipt}
      (found : ledger.records.get? intent.operationId = some current)
      (bound : BoundTo intent.toAuthorizationTerms current) (failed : current.status = .failed)
      (issued : latest ∈ ledger.transitionAuthorizationReceipts.values)
      (same : latest.operationId = intent.operationId)
      (last : ∀ receipt ∈ ledger.transitionAuthorizationReceipts.values,
        receipt.operationId = intent.operationId → receipt = latest ∨
          AuthorizedBefore receipt latest)
      (fence : current.fencingToken = latest.ownershipFencingToken)
      (later : latest.authorizedLedgerRevision < current.revision)
      (higher : latest.ownershipFencingToken < intent.ownershipFencingToken) :
      Authorizable intent ledger current

/-- An issued receipt has the terms of its intent and the record it was issued for. -/
lemma newTransitionAuthorizationReceipt_spec {prior : Option SideEffectRecord}
    {authorized : SideEffectRecord}
    (issued : newTransitionAuthorizationReceipt intent prior authorized = .ok receipt) :
    receipt.toAuthorizationTerms = intent.toAuthorizationTerms ∧
      receipt.authorizedRecord = authorized ∧
      receipt.authorizedLedgerRevision = authorized.revision := by
  -- Construction checks the fields and keeps them.
  simp only [newTransitionAuthorizationReceipt, AuthorizationReceipt.construct, ok_iff,
    checked_eq_ok] at issued
  grind

lemma candidateReceipt_none (absent : candidateReceipt intent receipts = .ok none) :
    ∀ receipt ∈ receipts, ¬ AuthorizationAlias intent receipt := by
  -- A nonempty list of aliases yields its first member.
  unfold candidateReceipt at absent
  split at absent
  · simp_all
  · simp only [ok_iff, reduceCtorEq, and_false, exists_false] at absent

/-- What a committed authorization found, and what it committed. -/
structure AuthorizationCommits (intent : AuthorizationIntent) (ledger : Ledger)
    (record : SideEffectRecord) (receipt : AuthorizationReceipt) : Prop where
  unaliased : ∀ other ∈ ledger.transitionAuthorizationReceipts.values,
    ¬ AuthorizationAlias intent other
  history : ∀ other ∈ ledger.transitionAuthorizationReceipts.values,
    other.operationId = intent.operationId → SameOperation intent other
  authorizable : ∃ planned, Authorizable intent ledger planned ∧
    record = planned.authorizedBy intent
  terms : receipt.toAuthorizationTerms = intent.toAuthorizationTerms
  authorizedRecord : receipt.authorizedRecord = record
  revision : receipt.authorizedLedgerRevision = record.revision

/-- The state check lets through exactly the ledgers that an intent can be authorized on. -/
lemma authorizable_of_checks {planned : SideEffectRecord}
    (bound : ∀ current ∈ ledger.records.get? intent.operationId,
      BoundTo intent.toAuthorizationTerms current)
    (chain : (operationReceiptsOf intent (transitionAuthorizationRelevantReceipts intent
      ledger.transitionAuthorizationReceipts.values)).IsChain AuthorizedBefore)
    (state : assertAuthorizable intent (ledger.records.get? intent.operationId)
      (operationReceiptsOf intent (transitionAuthorizationRelevantReceipts intent
        ledger.transitionAuthorizationReceipts.values)) = .ok ())
    (started : plannedRecord intent (ledger.records.get? intent.operationId) = .ok planned) :
    Authorizable intent ledger planned := by
  -- An empty list of the operation's receipts means that none of them is on file.
  have unissued : operationReceiptsOf intent (transitionAuthorizationRelevantReceipts intent
      ledger.transitionAuthorizationReceipts.values) = [] →
      ∀ receipt ∈ ledger.transitionAuthorizationReceipts.values,
        receipt.operationId ≠ intent.operationId := by
    intro none receipt member same
    have listed := mem_operationReceipts.mpr ⟨member, same⟩
    rw [none] at listed
    cases listed
  cases found : ledger.records.get? intent.operationId with
  | none =>
    rw [found] at state started
    simp only [assertAuthorizable, raiseIf_eq_ok, not_not] at state
    exact .absent found (unissued state) started
  | some current =>
    rw [found] at state started
    rw [plannedRecord, pure_eq_ok] at started
    subst started
    unfold assertAuthorizable at state
    dsimp only at state
    -- Only the planned and the failed status let an authorization through.
    split at state
    · simp only [raiseIf_eq_ok, not_or, not_not] at state
      exact .planned found (bound _ found) state.2 (unissued state.1)
    · unfold assertFailedReauthorization at state
      split at state
      · cases state
      · rename_i latest last
        simp only [raiseIf_eq_ok, not_or, not_not, not_le] at state
        obtain ⟨failed, fence, _, _, later, _, higher⟩ := state
        obtain ⟨issued, same⟩ := mem_operationReceipts.mp (mem_of_getLast? last)
        refine .failed found (bound _ found) failed issued same ?_ fence later higher
        intro receipt member sameOperation
        exact authorizedBefore_last chain last receipt
          (mem_operationReceipts.mpr ⟨member, sameOperation⟩)
    · cases state

/-- Every committed authorization found the ledger ready for it. -/
lemma AuthorizationMade.commits (made : AuthorizationMade intent ledger record receipt) :
    AuthorizationCommits intent ledger record receipt := by
  -- The observation found no receipt, so it ran the checks for a new authorization.
  obtain ⟨observation, observed, unreceipted, valued⟩ := made
  simp only [observeTransitionAuthorization, transitionAuthorizationObservation, ok_iff, forM_eq_ok,
    not_not] at observed
  obtain ⟨_, _, candidate, found, _, history, _, chain, _, bound, _, state, _, _, rfl⟩ := observed
  subst unreceipted
  have unaliased := candidateReceipt_none found
  -- The values were computed from what was observed.
  simp only [transitionAuthorizationCommitValues, ok_iff, Prod.mk.injEq] at valued
  obtain ⟨planned, started, _, _, _, _, issued, spec, rfl, rfl⟩ := valued
  obtain ⟨terms, authorizedRecord, revision⟩ := newTransitionAuthorizationReceipt_spec spec
  refine ⟨?_, ?_, ⟨planned, ?_, rfl⟩, terms, authorizedRecord, revision⟩
  · intro other member named
    refine unaliased other (mem_filter.mpr ⟨member, ?_⟩) named
    simp [named]
  · intro other member same
    exact assertOperationHistory_eq_ok.mp (history other (mem_operationReceipts.mpr ⟨member, same⟩))
  · refine authorizable_of_checks ?_ chain state started
    intro current stored
    exact assertLedgerBinding_eq_ok.mp (bound current (by simpa using stored))

end

section

/-- A call that carried the record of an operation on by one transition. -/
structure Carried (ledger : Ledger) (operationId : Str) (request : TransitionRequest)
    (clock : Instant) (current updated : SideEffectRecord) : Prop where
  found : ledger.records.get? operationId = some current
  moved : current.transition request clock = .ok updated

variable (ledger : Ledger) (operationId : Str) (request : TransitionRequest) (clock : Instant)

lemma requiredRecord_eq_ok {record : SideEffectRecord} :
    requiredRecord ledger operationId = .ok record ↔
      ledger.records.get? operationId = some record := by
  -- The two branches of the lookup raise and return.
  unfold requiredRecord
  cases ledger.records.get? operationId with
  | none => simp [throw, throwThe, MonadExceptOf.throw]
  | some found => rw [pure_eq_ok, Option.some.injEq, eq_comm]

def CarryEffect (demanded : SideEffectRecord → Prop) (outcome : Except Fault SideEffectRecord)
    (after : Ledger) : Prop :=
  ((∃ fault, outcome = .error fault) ∧ after = ledger) ∨
    ∃ current updated, Carried ledger operationId request clock current updated ∧ demanded current ∧
      outcome = .ok updated ∧ after = ledger.recorded operationId updated

/-- A mutation is refused or carries the record on. -/
lemma mutate_cases : Ensures (mutate operationId request clock) ledger
      (CarryEffect ledger operationId request clock fun _ => True) := by
  -- The record is looked up and moved before anything is written.
  refine ensures_evaluate (fun fault _ => .inl ⟨⟨fault, rfl⟩, rfl⟩) fun current found => ?_
  refine ensures_evaluate (fun fault _ => .inl ⟨⟨fault, rfl⟩, rfl⟩) fun updated moved => ?_
  rw [requiredRecord_eq_ok] at found
  exact .inr ⟨current, updated, ⟨found, moved⟩, trivial, rfl, rfl⟩

/-- Finishing is refused or carries on the record of the attempt that it names. -/
lemma finish_cases : Ensures (finish operationId request clock) ledger
      (CarryEffect ledger operationId request clock fun current =>
        current.attemptId = request.attemptId) := by
  -- The attempt is compared before the transition is tried.
  refine ensures_evaluate (fun fault _ => .inl ⟨⟨fault, rfl⟩, rfl⟩) fun current found => ?_
  refine ensures_guard (fun _ => .inl ⟨⟨_, rfl⟩, rfl⟩) fun attempt => ?_
  refine ensures_evaluate (fun fault _ => .inl ⟨⟨fault, rfl⟩, rfl⟩) fun updated moved => ?_
  rw [requiredRecord_eq_ok] at found
  exact .inr ⟨current, updated, ⟨found, moved⟩, not_not.mp attempt, rfl, rfl⟩

end

variable (ledger : Ledger) (request : OperationRequest) (attemptId : Str) (clock : Instant)

/-- The transition that a claim asks for. -/
def OperationRequest.starting : TransitionRequest :=
  { request.moving .started with attemptId, requireExactFence := true }

/-- A claim acquires nothing and changes nothing, or carries the record on to its start. -/
lemma claimOperation_cases :
    Ensures (claimOperation request attemptId clock) ledger fun outcome after =>
      ((∀ claim, outcome = .ok claim → claim.acquired = false) ∧ after = ledger) ∨
      ∃ current updated,
        Carried ledger request.operationId (request.starting attemptId) clock current updated ∧
        outcome = .ok ⟨updated, true, .acquired⟩ ∧
          after = ledger.recorded request.operationId updated := by
  -- The two early answers report a claim that was not acquired.
  refine ensures_guard (fun _ => .inl ⟨by simp, rfl⟩) fun _ => ?_
  apply ensures_read
  refine ensures_evaluate (fun _ _ => .inl ⟨by simp, rfl⟩) fun current found => ?_
  rw [requiredRecord_eq_ok] at found
  split
  · exact .inl ⟨by rintro claim same; cases same; rfl, rfl⟩
  split
  · exact .inl ⟨by rintro claim same; cases same; rfl, rfl⟩
  refine ensures_evaluate (fun _ _ => .inl ⟨by simp, rfl⟩) fun updated moved => ?_
  exact .inr ⟨current, updated, ⟨found, moved⟩, rfl, rfl⟩

/-- Planning is refused, finds the operation on file, or files a pristine record. -/
lemma plan_cases (tenantId workflowId runId stepId declaredOperation sideEffectClass : Str)
    (clock : Instant) (ledger : Ledger) :
    Ensures (plan tenantId workflowId runId stepId declaredOperation sideEffectClass clock) ledger
      fun outcome after => after = ledger ∨
        ∃ record, newRecord tenantId workflowId runId stepId declaredOperation sideEffectClass
          clock.val = .ok record ∧ ledger.records.get? record.operationId = none ∧
          outcome = .ok record ∧ after = ledger.recorded record.operationId record := by
  -- The record is made before it is looked for.
  refine ensures_evaluate (fun _ _ => .inl rfl) fun record made => ?_
  apply ensures_read
  cases found : ledger.records.get? record.operationId with
  | some existing => exact ensures_guard (fun _ => .inl rfl) fun _ => .inl rfl
  | none => exact .inr ⟨record, made, found, rfl, rfl⟩

/-- The transition that a call asks for, and the operation it asks it of. -/
def LedgerCall.carries : LedgerCall → Option (Str × TransitionRequest × Instant)
  | .plan .. => none
  | .authorize request authorizationEnvelopeId clock =>
    some (request.operationId, { request.moving .authorized with authorizationEnvelopeId }, clock)
  | .claim request attemptId clock => some (request.operationId, request.starting attemptId, clock)
  | .complete request attemptId resultRef clock =>
    some (request.operationId, request.finishing .completed attemptId resultRef [], clock)
  | .fail request attemptId failureCode clock =>
    some (request.operationId,
      request.finishing .failed attemptId [] (orElse failureCode "operation_failed"), clock)
  | .markUncertain request attemptId failureCode clock =>
    some (request.operationId, request.finishing .uncertain attemptId [] failureCode, clock)
  | .reconcileUncertain request failureCode clock =>
    some (request.operationId, { request.moving .uncertain with failureCode }, clock)
  | .compensate request resultRef clock =>
    some (request.operationId, { request.moving .compensated with resultRef }, clock)
  | .authorizeTransitionEffect .. => none

def LedgerAnswer.acquires : LedgerAnswer → Bool
  | .claim granted => granted.acquired
  | _ => false

def LedgerCall.finishes : LedgerCall → Option (OperationRequest × Str)
  | .complete request attemptId _ _ => some (request, attemptId)
  | .fail request attemptId _ _ => some (request, attemptId)
  | .markUncertain request attemptId _ _ => some (request, attemptId)
  | _ => none

inductive LedgerEffect (ledger : Ledger) : LedgerCall → Except Fault LedgerAnswer → Ledger →
    Prop where
  | kept {call : LedgerCall} {outcome : Except Fault LedgerAnswer}
      (unacquired : ∀ answer, outcome = .ok answer → answer.acquires = false) :
      LedgerEffect ledger call outcome ledger
  | planned {tenantId workflowId runId stepId declaredOperation sideEffectClass : Str}
      {clock : Instant} {record : SideEffectRecord}
      (made : newRecord tenantId workflowId runId stepId declaredOperation sideEffectClass
        clock.val = .ok record)
      (absent : ledger.records.get? record.operationId = none) :
      LedgerEffect ledger
        (.plan tenantId workflowId runId stepId declaredOperation sideEffectClass clock)
        (.ok (.record record)) (ledger.recorded record.operationId record)
  | carried {call : LedgerCall} {operationId : Str} {request : TransitionRequest} {clock : Instant}
      {current updated : SideEffectRecord} {answer : LedgerAnswer}
      (asks : call.carries = some (operationId, request, clock))
      (carried : Carried ledger operationId request clock current updated)
      (demanded : ∀ finishing ∈ call.finishes, current.attemptId = finishing.2)
      (starts : answer.acquires → request.toStatus = .started) :
      LedgerEffect ledger call (.ok answer) (ledger.recorded operationId updated)
  | authorized {intent : AuthorizationIntent} {digest : Str} {record : SideEffectRecord}
      {receipt : AuthorizationReceipt} (made : AuthorizationMade intent ledger record receipt) :
      LedgerEffect ledger (.authorizeTransitionEffect intent digest) (.ok (.receipt receipt))
        (ledger.authorized intent record receipt)

/-- Answering with a record or a receipt acquires nothing. -/
lemma unacquired_map {α : Type} (outcome : Except Fault α) (answer : α → LedgerAnswer)
    (plain : ∀ value, (answer value).acquires = false) :
    ∀ result, outcome.map answer = .ok result → result.acquires = false := by
  -- An answer is translated from what the operation returned.
  intro result same
  cases outcome with
  | error => cases same
  | ok value =>
    cases same
    exact plain value

/-- A call that only carries a record on has the effect of a carrying call. -/
lemma CarryEffect.effect {ledger : Ledger} {operationId : Str} {request : TransitionRequest}
    {clock : Instant} {call : LedgerCall} {demanded : SideEffectRecord → Prop}
    {outcome : Except Fault SideEffectRecord} {after : Ledger}
    (effect : CarryEffect ledger operationId request clock demanded outcome after)
    (asks : call.carries = some (operationId, request, clock))
    (demands : ∀ current, demanded current → ∀ finishing ∈ call.finishes,
      current.attemptId = finishing.2) :
    LedgerEffect ledger call (outcome.map .record) after := by
  -- A record that is answered is never an acquired claim.
  rcases effect with ⟨⟨fault, rfl⟩, rfl⟩ | ⟨current, updated, carried, holds, rfl, rfl⟩
  · exact .kept (unacquired_map _ _ fun _ => rfl)
  · exact .carried asks carried (demands current holds) (by simp [LedgerAnswer.acquires])

/-- What an operation does is what its call does. -/
lemma effect_of_run {α : Type} {ledger : Ledger} {call : LedgerCall} (operation : LedgerM α)
    (answer : α → LedgerAnswer)
    (effect : LedgerEffect ledger call ((operation ledger).1.map answer) (operation ledger).2)
    (runs : call.run = operation >>= fun value => pure (answer value)) :
    LedgerEffect ledger call (ledgerMachine.step ledger call).1
      (ledgerMachine.step ledger call).2 := by
  -- The machine only translates what the operation returns.
  have stepped : ledgerMachine.step ledger call =
      ((operation ledger).1.map answer, (operation ledger).2) :=
    (congrFun runs ledger).trans (bind_pure_run operation answer ledger)
  rwa [stepped]

/-- Every call does one of the four things. -/
lemma ledger_effect (call : LedgerCall) :
    LedgerEffect ledger call (ledgerMachine.step ledger call).1
      (ledgerMachine.step ledger call).2 := by
  -- Mutations and finishes are one family, and the other three calls have cases of their own.
  cases call with
  | plan tenantId workflowId runId stepId declaredOperation sideEffectClass clock =>
    refine effect_of_run (plan _ _ _ _ _ _ clock) .record ?_ rfl
    rcases plan_cases tenantId workflowId runId stepId declaredOperation sideEffectClass clock
      ledger with
      same | ⟨record, made, absent, answered, same⟩
    · rw [same]
      exact .kept (unacquired_map _ _ fun _ => rfl)
    · rw [same, answered]
      exact .planned made absent
  | authorize request authorizationEnvelopeId clock =>
    refine effect_of_run (authorizeOperation _ _ clock) .record ?_ rfl
    -- An empty envelope is refused before the record is looked up.
    have cases : Ensures (authorizeOperation request authorizationEnvelopeId clock) ledger
        (CarryEffect ledger request.operationId
          { request.moving .authorized with authorizationEnvelopeId } clock fun _ => True) :=
      ensures_guard (fun _ => .inl ⟨⟨_, rfl⟩, rfl⟩) fun _ => mutate_cases ledger _ _ clock
    exact CarryEffect.effect cases rfl (by simp [LedgerCall.finishes])
  | claim request attemptId clock =>
    refine effect_of_run (claimOperation _ _ clock) .claim ?_ rfl
    rcases claimOperation_cases ledger request attemptId clock with
      ⟨unacquired, same⟩ | ⟨current, updated, carried, answered, same⟩
    · rw [same]
      refine .kept fun answer translated => ?_
      cases outcome : (claimOperation request attemptId clock ledger).1 with
      | error fault =>
        rw [outcome] at translated
        cases translated
      | ok claim =>
        rw [outcome] at translated
        cases translated
        exact unacquired claim outcome
    · rw [same, answered]
      exact .carried rfl carried (by simp [LedgerCall.finishes]) fun _ => rfl
  | complete request attemptId resultRef clock =>
    refine effect_of_run (completeOperation _ _ _ clock) .record ?_ rfl
    exact CarryEffect.effect (finish_cases ledger _ _ clock) rfl (by rintro _ same _ ⟨⟩; exact same)
  | fail request attemptId failureCode clock =>
    refine effect_of_run (failOperation _ _ _ clock) .record ?_ rfl
    exact CarryEffect.effect (finish_cases ledger _ _ clock) rfl (by rintro _ same _ ⟨⟩; exact same)
  | markUncertain request attemptId failureCode clock =>
    refine effect_of_run (markUncertain _ _ _ clock) .record ?_ rfl
    exact CarryEffect.effect (finish_cases ledger _ _ clock) rfl (by rintro _ same _ ⟨⟩; exact same)
  | reconcileUncertain request failureCode clock =>
    refine effect_of_run (reconcileUncertain _ _ clock) .record ?_ rfl
    exact CarryEffect.effect (mutate_cases ledger _ _ clock) rfl (by simp [LedgerCall.finishes])
  | compensate request resultRef clock =>
    refine effect_of_run (compensate _ _ clock) .record ?_ rfl
    exact CarryEffect.effect (mutate_cases ledger _ _ clock) rfl (by simp [LedgerCall.finishes])
  | authorizeTransitionEffect intent digest =>
    refine effect_of_run (authorizeTransitionEffect intent digest) .receipt ?_ rfl
    have effect := authorizeTransitionEffect_cases intent ledger digest
    rw [Ensures] at effect
    generalize authorizeTransitionEffect intent digest ledger = run at effect
    obtain ⟨outcome, after⟩ := run
    cases effect with
    | kept => exact .kept (unacquired_map _ _ fun _ => rfl)
    | committed made => exact .authorized made

end Ananta
