import Ananta.Library.Dict
import Ananta.Library.Machine
import Ananta.SideEffects.Authorization

/-! The in-memory side-effect ledger: planning, claiming, finishing, and authorizing transition
effects. -/

namespace Ananta

open Call

/-- `_MAX_OPERATION_RECEIPTS`. -/
def maxOperationReceipts : Nat := 1000

/-- The state of an `InMemorySideEffectLedger`. -/
structure Ledger where
  records : Dict Str SideEffectRecord
  transitionAuthorizationReceipts : Dict Str AuthorizationReceipt

namespace Ledger

/-- A ledger before any call. -/
def empty : Ledger := ⟨Dict.empty, Dict.empty⟩

def recorded (ledger : Ledger) (operationId : Str) (record : SideEffectRecord) : Ledger :=
  { ledger with records := ledger.records.set operationId record }

end Ledger

variable (intent : AuthorizationIntent)

variable (receipt : AuthorizationReceipt) (receipts : List AuthorizationReceipt)

/-- A receipt shares an identifier that names the intent's effect. -/
def AuthorizationAlias : Prop :=
  receipt.receiptId = intent.receiptId ∨ receipt.effectId = intent.effectId ∨
    receipt.operationFenceId = intent.operationFenceId
  deriving Decidable

/-- `_transition_authorization_relevant_receipts`. -/
def transitionAuthorizationRelevantReceipts : List AuthorizationReceipt :=
  receipts.filter fun receipt =>
    receipt.operationId = intent.operationId ∨ AuthorizationAlias intent receipt

/-- `_assert_transition_authorization_receipt_matches_intent`. -/
def assertReceiptMatchesIntent : Except Fault Unit := do
  -- The schema and the generation are left out of the comparison.
  raiseIf (receipt.toAuthorizationTerms ≠
      { intent.toAuthorizationTerms with creatorClaimGeneration := receipt.creatorClaimGeneration })
    (authorizationConflict "receipt_conflict")
  raiseIf (intent.creatorClaimGeneration < receipt.creatorClaimGeneration)
    (authorizationConflict "generation_conflict")

/-- `_assert_transition_authorization_operation_history`. -/
def assertOperationHistory : Except Fault Unit :=
  raiseIf (receipt.operationId ≠ intent.operationId ∨
      receipt.operationIntentDigest ≠ intent.operationIntentDigest ∨
      receipt.operationPayloadDigest ≠ intent.operationPayloadDigest ∨
      receipt.tenantId ≠ intent.tenantId ∨ receipt.workflowId ≠ intent.workflowId ∨
      receipt.runId ≠ intent.runId ∨ receipt.stepId ≠ intent.stepId ∨
      receipt.declaredOperation ≠ intent.declaredOperation ∨
      receipt.sideEffectClass ≠ intent.sideEffectClass)
    (authorizationConflict "operation_conflict")

/-- `_assert_transition_authorization_ledger_binding`. -/
def assertLedgerBinding (record : SideEffectRecord) : Except Fault Unit :=
  raiseIf (record.operationId ≠ intent.operationId ∨ record.tenantId ≠ intent.tenantId ∨
      record.workflowId ≠ intent.workflowId ∨ record.runId ≠ intent.runId ∨
      record.stepId ≠ intent.stepId ∨ record.declaredOperation ≠ intent.declaredOperation ∨
      record.sideEffectClass ≠ intent.sideEffectClass)
    (authorizationConflict "ledger_binding_conflict")

/-- `_assert_failed_reauthorization`. -/
def assertFailedReauthorization (record : SideEffectRecord)
    (priorReceipts : List AuthorizationReceipt) : Except Fault Unit :=
  match priorReceipts.getLast? with
  | none => throw (authorizationConflict "prior_receipt_missing")
  | some latest =>
    raiseIf (record.status ≠ .failed ∨ record.fencingToken ≠ latest.ownershipFencingToken ∨
        record.authorizationEnvelopeId ≠ latest.authorizationEnvelopeId ∨ record.attemptId = [] ∨
        record.revision ≤ latest.authorizedLedgerRevision ∨ record.failureCode = [] ∨
        intent.ownershipFencingToken ≤ latest.ownershipFencingToken)
      (authorizationConflict "reauthorization_conflict")

omit intent in
/-- `_assert_transition_authorization_current_ledger`. -/
def assertCurrentLedger (record : Option SideEffectRecord) (receipts : List AuthorizationReceipt) :
    Except Fault Unit :=
  match record with
  | none => return ()
  | some record =>
    match receipts.getLast? with
    | none => throw ⟨.indexError, "tuple index out of range"⟩
    | some latest => do
      raiseIf (record.revision < latest.authorizedLedgerRevision)
        (authorizationConflict "ledger_revision_regressed")
      raiseIf (record.revision = latest.authorizedLedgerRevision ∧ record ≠ latest.authorizedRecord)
        (authorizationConflict "ledger_snapshot_conflict")

/-- `_pristine_planned_record`. -/
def SideEffectRecord.PristinePlanned (record : SideEffectRecord) : Prop :=
  record.status = .planned ∧ record.revision = 1 ∧ record.fencingToken = 0 ∧ record.attemptId = [] ∧
    record.authorizationEnvelopeId = [] ∧ record.resultRef = [] ∧ record.failureCode = []
  deriving Decidable

/-- The order of receipts by authorized revision, then by identifier. -/
def AuthorizedAtMost (left right : AuthorizationReceipt) : Prop :=
  left.authorizedLedgerRevision < right.authorizedLedgerRevision ∨
    (left.authorizedLedgerRevision = right.authorizedLedgerRevision ∧
      left.receiptId ≤ right.receiptId)
  deriving Decidable

/-- One receipt was authorized after another, under a higher fence. -/
def AuthorizedBefore (previous current : AuthorizationReceipt) : Prop :=
  previous.authorizedLedgerRevision < current.authorizedLedgerRevision ∧
    previous.ownershipFencingToken < current.ownershipFencingToken
  deriving Decidable

def operationReceiptsOf : List AuthorizationReceipt :=
  (receipts.filter (·.operationId = intent.operationId)).insertionSort AuthorizedAtMost

def candidateReceipt : Except Fault (Option AuthorizationReceipt) :=
  match receipts.filter (AuthorizationAlias intent ·) with
  | [] => return none
  | candidate :: others => do
    raiseIf (∃ other ∈ others, other ≠ candidate) (authorizationConflict "alias_conflict")
    assertReceiptMatchesIntent intent candidate
    return some candidate

/-- What the record of an operation has to be for a new authorization. -/
def assertAuthorizable (ledgerRecord : Option SideEffectRecord)
    (operationReceipts : List AuthorizationReceipt) : Except Fault Unit :=
  match ledgerRecord with
  | none => raiseIf (operationReceipts ≠ []) (authorizationConflict "ledger_missing")
  | some record =>
    match record.status with
    | .planned =>
      raiseIf (operationReceipts ≠ [] ∨ ¬ record.PristinePlanned)
        (authorizationConflict "planned_conflict")
    | .failed => assertFailedReauthorization intent record operationReceipts
    | _ => throw (authorizationConflict "receipt_missing")

/-- What the ledger has to be for an intent, depending on whether its receipt was already issued. -/
def assertLedgerState (candidate : Option AuthorizationReceipt)
    (ledgerRecord : Option SideEffectRecord) (operationReceipts : List AuthorizationReceipt) :
    Except Fault Unit :=
  match candidate with
  | some _ => assertCurrentLedger ledgerRecord operationReceipts
  | none => assertAuthorizable intent ledgerRecord operationReceipts

/-- `WorkflowTransitionSideEffectAuthorizationObservation`. -/
structure AuthorizationObservation where
  receipt : Option AuthorizationReceipt
  operationReceipts : List AuthorizationReceipt
  ledgerRecord : Option SideEffectRecord
  observationDigest : Str

def authorizationObservationDigest (candidate : Option AuthorizationReceipt)
    (operationReceipts : List AuthorizationReceipt) (ledgerRecord : Option SideEffectRecord) :
    Except Fault Str :=
  namespacedDigest "workflow-transition-side-effect-authorization-observation.v1"
    (.dict
      [("intent", intent.toDict), ("receipt", (candidate.map (·.toDict)).getD .none),
        ("operation_receipts", .list (operationReceipts.map (·.toDict))),
        ("ledger_record", (ledgerRecord.map (·.toDict)).getD .none)])

/-- `_transition_authorization_observation`. -/
def transitionAuthorizationObservation (ledgerRecord : Option SideEffectRecord)
    (receipts : List AuthorizationReceipt) : Except Fault AuthorizationObservation := do
  raiseIf (maxOperationReceipts < receipts.length) (authorizationConflict "history_limit")
  let candidate ← candidateReceipt intent receipts
  let operationReceipts := operationReceiptsOf intent receipts
  operationReceipts.forM (assertOperationHistory intent)
  raiseIf (¬ operationReceipts.IsChain AuthorizedBefore) (authorizationConflict "history_conflict")
  ledgerRecord.toList.forM (assertLedgerBinding intent)
  assertLedgerState intent candidate ledgerRecord operationReceipts
  let digest ← authorizationObservationDigest intent candidate operationReceipts ledgerRecord
  return ⟨candidate, operationReceipts, ledgerRecord, digest⟩

/-- `observe_transition_authorization`. -/
def observeTransitionAuthorization (ledger : Ledger) : Except Fault AuthorizationObservation :=
  transitionAuthorizationObservation intent (ledger.records.get? intent.operationId)
    (transitionAuthorizationRelevantReceipts intent ledger.transitionAuthorizationReceipts.values)

def plannedRecord (current : Option SideEffectRecord) : Except Fault SideEffectRecord :=
  match current with
  | some record => return record
  | none => newRecord intent.tenantId intent.workflowId intent.runId intent.stepId
      intent.declaredOperation intent.sideEffectClass.name intent.plannedAt

/-- The checks of `_transition_authorization_commit_values` on the record it starts from. -/
def assertPlanned (priorReceipts : List AuthorizationReceipt)
    (planned : SideEffectRecord) : Except Fault Unit := do
  raiseIf (planned.status ≠ .planned ∧ planned.status ≠ .failed)
    (Fault.mk .invalidTransitionError
      "workflow_transition_side_effect_authorization_state_conflict")
  raiseIf (planned.status = .planned ∧ ¬ planned.PristinePlanned)
    (Fault.mk .invalidTransitionError
      "workflow_transition_side_effect_authorization_planned_conflict")
  if planned.status = .failed then assertFailedReauthorization intent planned priorReceipts

def SideEffectRecord.authorizedBy (planned : SideEffectRecord) (intent : AuthorizationIntent) :
    SideEffectRecord :=
  { planned with
    status := .authorized
    revision := planned.revision + 1
    fencingToken := intent.ownershipFencingToken
    attemptId := []
    authorizationEnvelopeId := intent.authorizationEnvelopeId
    resultRef := []
    failureCode := []
    updatedAt := intent.plannedAt }

/-- `_transition_authorization_commit_values`: the authorized record and its receipt. -/
def transitionAuthorizationCommitValues
    (current : Option SideEffectRecord) (priorReceipts : List AuthorizationReceipt) :
    Except Fault (SideEffectRecord × AuthorizationReceipt) := do
  let planned ← plannedRecord intent current
  assertPlanned intent priorReceipts planned
  let authorized := planned.authorizedBy intent
  authorized.assertValid
  let receipt ← newTransitionAuthorizationReceipt intent current authorized
  return (authorized, receipt)

/-- The ledger after an authorization, in which both copied dictionaries replaced the old ones. -/
def Ledger.authorized (ledger : Ledger) (intent : AuthorizationIntent) (record : SideEffectRecord)
    (receipt : AuthorizationReceipt) : Ledger :=
  { records := ledger.records.set intent.operationId record
    transitionAuthorizationReceipts :=
      ledger.transitionAuthorizationReceipts.set receipt.receiptId receipt }

abbrev LedgerM (α : Type) : Type := Call Fault Ledger α

/-- `_required`. -/
def requiredRecord (ledger : Ledger) (operationId : Str) : Except Fault SideEffectRecord :=
  match ledger.records.get? operationId with
  | none => throw ⟨.keyError, "side_effect_operation_not_found"⟩
  | some record => return record

inductive SideEffectClaimReason where
  | alreadyCompleted
  | alreadyClaimed
  | acquired
  deriving DecidableEq

/-- `SideEffectClaim`. -/
structure SideEffectClaim where
  record : SideEffectRecord
  acquired : Bool
  reason : SideEffectClaimReason
  deriving DecidableEq

structure OperationRequest where
  operationId : Str
  expectedRevision : Int
  fencingToken : Int

variable (request : OperationRequest)

/-- The transition that a request asks for, to be completed by what each call adds to it. -/
def OperationRequest.moving (toStatus : SideEffectStatus) : TransitionRequest :=
  { expectedRevision := request.expectedRevision, fencingToken := request.fencingToken, toStatus }

/-- `plan`. -/
def plan (tenantId workflowId runId stepId declaredOperation sideEffectClass : Str)
    (clock : Instant) : LedgerM SideEffectRecord := do
  let record ← newRecord tenantId workflowId runId stepId declaredOperation
    sideEffectClass clock.val
  let ledger ← read
  match ledger.records.get? record.operationId with
  | some existing =>
    raiseIf (existing.binding ≠ record.binding)
      (Fault.mk .optimisticConcurrencyError "operation_id_binding_conflict")
    return existing
  | none =>
    write fun ledger => ledger.recorded record.operationId record
    return record

/-- `_mutate`. -/
def mutate (operationId : Str) (request : TransitionRequest) (clock : Instant) :
    LedgerM SideEffectRecord := do
  let current ← requiredRecord (← read) operationId
  let updated ← current.transition request clock
  write fun ledger => ledger.recorded operationId updated
  return updated

/-- `_finish`, which demands the stored attempt before the exact fence. -/
def finish (operationId : Str) (request : TransitionRequest) (clock : Instant) :
    LedgerM SideEffectRecord := do
  let current ← requiredRecord (← read) operationId
  raiseIf (current.attemptId ≠ request.attemptId)
    (Fault.mk .fencingTokenError "side_effect_attempt_mismatch")
  let updated ← current.transition request clock
  write fun ledger => ledger.recorded operationId updated
  return updated

/-- The transition that `_finish` makes, always under the exact fence. -/
def OperationRequest.finishing (toStatus : SideEffectStatus)
    (attemptId resultRef failureCode : Str) : TransitionRequest :=
  { request.moving toStatus with attemptId, resultRef, failureCode, requireExactFence := true }

/-- `authorize`. -/
def authorizeOperation (authorizationEnvelopeId : Str) (clock : Instant) :
    LedgerM SideEffectRecord := do
  raiseIf (authorizationEnvelopeId = []) (Fault.mk .valueError "authorization_envelope_id_required")
  mutate request.operationId { request.moving .authorized with authorizationEnvelopeId } clock

/-- `claim`. -/
def claimOperation (attemptId : Str) (clock : Instant) :
    LedgerM SideEffectClaim := do
  raiseIf (attemptId = []) (Fault.mk .valueError "attempt_id_required")
  let current ← requiredRecord (← read) request.operationId
  if current.status = .completed then
    return ⟨current, false, .alreadyCompleted⟩
  else if current.status = .started ∧ current.fencingToken = request.fencingToken ∧
      current.attemptId = attemptId then
    return ⟨current, false, .alreadyClaimed⟩
  else
    let updated ← current.transition
      { request.moving .started with attemptId, requireExactFence := true } clock
    write fun ledger => ledger.recorded request.operationId updated
    return ⟨updated, true, .acquired⟩

/-- `complete`. -/
def completeOperation (attemptId resultRef : Str) (clock : Instant) : LedgerM SideEffectRecord :=
  finish request.operationId (request.finishing .completed attemptId resultRef []) clock

/-- `fail`. -/
def failOperation (attemptId failureCode : Str) (clock : Instant) : LedgerM SideEffectRecord :=
  finish request.operationId
    (request.finishing .failed attemptId [] (orElse failureCode "operation_failed")) clock

/-- `mark_uncertain`. -/
def markUncertain (attemptId failureCode : Str) (clock : Instant) : LedgerM SideEffectRecord :=
  finish request.operationId (request.finishing .uncertain attemptId [] failureCode) clock

/-- `reconcile_uncertain`. -/
def reconcileUncertain (failureCode : Str) (clock : Instant) : LedgerM SideEffectRecord :=
  mutate request.operationId { request.moving .uncertain with failureCode } clock

/-- `compensate`. -/
def compensate (resultRef : Str) (clock : Instant) : LedgerM SideEffectRecord :=
  mutate request.operationId { request.moving .compensated with resultRef } clock

/-- `authorize_transition_effect`. -/
def authorizeTransitionEffect (expectedObservationDigest : Str) :
    LedgerM AuthorizationReceipt := do
  let expectedDigest ← authorizationSha256 expectedObservationDigest "expected_observation_digest"
  let ledger ← read
  let observation ← observeTransitionAuthorization intent ledger
  match observation.receipt with
  | some receipt => return receipt
  | none =>
    raiseIf (observation.observationDigest ≠ expectedDigest)
      (authorizationConflict "observation_conflict")
    let (record, receipt) ← transitionAuthorizationCommitValues intent observation.ledgerRecord
      observation.operationReceipts
    write fun ledger => ledger.authorized intent record receipt
    return receipt

/-- One call on the ledger, with the clock reading it would take. -/
inductive LedgerCall where
  | plan (tenantId workflowId runId stepId declaredOperation sideEffectClass : Str)
      (clock : Instant)
  | authorize (request : OperationRequest) (authorizationEnvelopeId : Str) (clock : Instant)
  | claim (request : OperationRequest) (attemptId : Str) (clock : Instant)
  | complete (request : OperationRequest) (attemptId resultRef : Str) (clock : Instant)
  | fail (request : OperationRequest) (attemptId failureCode : Str) (clock : Instant)
  | markUncertain (request : OperationRequest) (attemptId failureCode : Str) (clock : Instant)
  | reconcileUncertain (request : OperationRequest) (failureCode : Str) (clock : Instant)
  | compensate (request : OperationRequest) (resultRef : Str) (clock : Instant)
  | authorizeTransitionEffect (intent : AuthorizationIntent) (expectedObservationDigest : Str)

/-- What a call returns. -/
inductive LedgerAnswer where
  | record (record : SideEffectRecord)
  | claim (claim : SideEffectClaim)
  | receipt (receipt : AuthorizationReceipt)
  deriving DecidableEq

def LedgerCall.run : LedgerCall → LedgerM LedgerAnswer
  | .plan tenantId workflowId runId stepId declaredOperation sideEffectClass clock =>
    return .record (← Ananta.plan tenantId workflowId runId stepId declaredOperation
      sideEffectClass clock)
  | .authorize request authorizationEnvelopeId clock =>
    return .record (← authorizeOperation request authorizationEnvelopeId clock)
  | .claim request attemptId clock => return .claim (← claimOperation request attemptId clock)
  | .complete request attemptId resultRef clock =>
    return .record (← completeOperation request attemptId resultRef clock)
  | .fail request attemptId failureCode clock =>
    return .record (← failOperation request attemptId failureCode clock)
  | .markUncertain request attemptId failureCode clock =>
    return .record (← Ananta.markUncertain request attemptId failureCode clock)
  | .reconcileUncertain request failureCode clock =>
    return .record (← Ananta.reconcileUncertain request failureCode clock)
  | .compensate request resultRef clock =>
      return .record (← Ananta.compensate request resultRef clock)
  | .authorizeTransitionEffect intent digest =>
    return .receipt (← Ananta.authorizeTransitionEffect intent digest)

def ledgerMachine : Machine Ledger LedgerCall (Except Fault LedgerAnswer) where
  initial := .empty
  step ledger call := call.run ledger

end Ananta
