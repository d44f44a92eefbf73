import Ananta.Ownership.Record

/-! Reservation intents and receipts, whose identifiers are derived from their contents. -/

namespace Ananta

/-- `_OWNERSHIP_MAX_RETRIES`. -/
def ownershipMaxRetries : Int := 2147483647

/-- `_OWNERSHIP_RETRY_CATEGORY`. -/
def ownershipRetryCategory : Str := "hub_task"

def reservationIntentSchema : Str :=
  "ananta.workflow_transition_ownership_reservation_intent.v1"

def reservationReceiptSchema : Str :=
  "ananta.workflow_transition_ownership_reservation_receipt.v1"

/-- `_ownership_retry_maximum`. -/
def ownershipRetryMaximum (value : Int) : Except Fault Int := do
  let maximum ← ownershipNonNegativeInteger value "maximum_retries"
  ownershipField (· ≤ ownershipMaxRetries) maximum "maximum_retries"

/-- `_ownership_namespaced_digest`. -/
def ownershipNamespacedDigest (value : Value) (space : String) : Except Fault Str := do
  let payload ← canonicalJson value
  sha256Text (text space ++ "\n" ++ payload)

/-- `_ownership_opaque_id`. -/
def ownershipOpaqueId (lead : String) (parts : List Str) : Except Fault Str := do
  let payload ← canonicalJson (.dict
    [("namespace", .str (text lead)), ("parts", .list (parts.map .str))])
  let digest ← sha256Text payload
  return text lead ++ "-" ++ digest

/-- `workflow_transition_ownership_intent_digest`. -/
def workflowTransitionOwnershipIntentDigest
    (transitionId runtimeId tenantId workflowId runId stepId : Str) (effectOrdinal : Int)
    (leaseSeconds : Float64) (maximumRetries : Int) : Except Fault Str := do
  let values : Value := .dict
    [("transition_id", .str (← ownershipIdentity transitionId "transition_id")),
      ("runtime_id", .str (← ownershipIdentity runtimeId "runtime_id")),
      ("tenant_id", .str (← ownershipIdentity tenantId "tenant_id")),
      ("workflow_id", .str (← ownershipIdentity workflowId "workflow_id")),
      ("run_id", .str (← ownershipIdentity runId "run_id")),
      ("step_id", .str (← ownershipIdentity stepId "step_id")),
      ("effect_ordinal", .int (← ownershipPositiveInteger effectOrdinal "effect_ordinal")),
      ("lease_seconds", .float (← ownershipTimestamp leaseSeconds "lease_seconds")),
      ("maximum_retries", .int (← ownershipRetryMaximum maximumRetries))]
  ownershipNamespacedDigest values "workflow-transition-ownership-reservation-intent"

/-- `workflow_transition_ownership_owner_id`. -/
def workflowTransitionOwnershipOwnerId (ownershipIntentDigest : Str) : Except Fault Str := do
  ownershipOpaqueId "wfto" [← ownershipSha256 ownershipIntentDigest "ownership_intent_digest"]

/-- `workflow_transition_ownership_operation_fence_id`. -/
def workflowTransitionOwnershipOperationFenceId (ownershipIntentDigest ownerId : Str) :
    Except Fault Str := do
  ownershipOpaqueId "wftof"
    [← ownershipSha256 ownershipIntentDigest "ownership_intent_digest",
      ← ownershipIdentity ownerId "owner_id"]

/-- `workflow_transition_ownership_attempt_id`. -/
def workflowTransitionOwnershipAttemptId (effectId operationFenceId : Str) : Except Fault Str := do
  ownershipOpaqueId "wfta"
    [← ownershipIdentity effectId "effect_id",
      ← ownershipIdentity operationFenceId "operation_fence_id"]

/-- `workflow_transition_ownership_receipt_id`. -/
def workflowTransitionOwnershipReceiptId (transitionId effectId : Str) : Except Fault Str := do
  ownershipOpaqueId "wftor"
    [← ownershipIdentity transitionId "transition_id", ← ownershipIdentity effectId "effect_id"]

/-- `workflow_transition_ownership_record_digest`. -/
def workflowTransitionOwnershipRecordDigest (record : Option ExecutionOwnership) :
    Except Fault Str :=
  let content := match record with
    | some record => record.toDict
    | none => .dict [("absent", .bool true)]
  ownershipNamespacedDigest content "workflow-transition-ownership-record"

/-- `WorkflowTransitionOwnershipRetryConsumption`: a consumed retry, as recorded in a receipt. -/
structure RetryConsumption where
  (tenantId runId retryId : Str)
  category : Str := ownershipRetryCategory
  deriving DecidableEq

namespace RetryConsumption

variable (consumption : RetryConsumption)

/-- `__post_init__`. -/
def postInit : Except Fault Unit := do
  discard <| ownershipIdentity consumption.tenantId "retry_tenant_id"
  discard <| ownershipIdentity consumption.runId "retry_run_id"
  discard <| ownershipIdentity consumption.retryId "retry_id"
  raiseIf (consumption.category ≠ ownershipRetryCategory)
    (reservationConflict "retry_category_invalid")

/-- Construct a consumption, raising when it is malformed. -/
def build : Except Fault RetryConsumption := do
  consumption.postInit
  return consumption

/-- `to_dict`. -/
def toDict : Value :=
  .dict
    [("tenant_id", .str consumption.tenantId), ("run_id", .str consumption.runId),
      ("retry_id", .str consumption.retryId), ("category", .str consumption.category)]

end RetryConsumption

/-- The fields of a `WorkflowTransitionOwnershipReservationIntent`. -/
structure IntentFields where
  (receiptId transitionId effectId runtimeId tenantId workflowId runId stepId : Str)
  effectOrdinal : Int
  (ownershipIntentDigest ownerId operationFenceId attemptId retryId transitionRequestFingerprint :
    Str)
  (effectPayloadDigest idempotencyKey : Str)
  leaseSeconds : Float64
  maximumRetries : Int
  plannedAt : Float64
  schema : Str := reservationIntentSchema
  deriving DecidableEq

namespace IntentFields

variable (intent : IntentFields)

/-- The first half of `__post_init__`: the shape of each field. -/
def assertShape : Except Fault Unit := do
  discard <| ownershipIdentity intent.receiptId "receipt_id"
  discard <| ownershipIdentity intent.transitionId "transition_id"
  discard <| ownershipIdentity intent.effectId "effect_id"
  discard <| ownershipIdentity intent.runtimeId "runtime_id"
  discard <| ownershipIdentity intent.tenantId "tenant_id"
  discard <| ownershipIdentity intent.workflowId "workflow_id"
  discard <| ownershipIdentity intent.runId "run_id"
  discard <| ownershipIdentity intent.stepId "step_id"
  discard <| ownershipIdentity intent.ownerId "owner_id"
  discard <| ownershipIdentity intent.operationFenceId "operation_fence_id"
  discard <| ownershipIdentity intent.attemptId "attempt_id"
  discard <| ownershipIdentity intent.retryId "retry_id"
  discard <| ownershipPositiveInteger intent.effectOrdinal "effect_ordinal"
  discard <| ownershipSha256 intent.ownershipIntentDigest "ownership_intent_digest"
  discard <| ownershipSha256 intent.transitionRequestFingerprint "transition_request_fingerprint"
  discard <| ownershipSha256 intent.effectPayloadDigest "effect_payload_digest"
  raiseIf (intent.idempotencyKey ≠ intent.operationFenceId ∨
    intent.retryId ≠ intent.operationFenceId) (reservationConflict "idempotency_binding_invalid")
  let lease ← ownershipTimestamp intent.leaseSeconds "lease_seconds"
  discard <| ownershipRetryMaximum intent.maximumRetries
  let planned ← ownershipTimestamp intent.plannedAt "planned_at"
  let leaseExpiry := planned + lease
  raiseIf (¬ leaseExpiry.IsFinite ∨ leaseExpiry ≤ planned)
    (reservationConflict "lease_expiry_invalid")
  raiseIf (intent.schema ≠ reservationIntentSchema)
    (reservationConflict "intent_schema_unsupported")

/-- The second half of `__post_init__`: every identifier is the derived one. -/
def assertBinding : Except Fault Unit := do
  let expectedDigest ← workflowTransitionOwnershipIntentDigest intent.transitionId intent.runtimeId
    intent.tenantId intent.workflowId intent.runId intent.stepId intent.effectOrdinal
      intent.leaseSeconds
    intent.maximumRetries
  let expectedOwner ← workflowTransitionOwnershipOwnerId expectedDigest
  let expectedFence ← workflowTransitionOwnershipOperationFenceId expectedDigest expectedOwner
  let expectedAttempt ← workflowTransitionOwnershipAttemptId intent.effectId expectedFence
  let expectedReceipt ← workflowTransitionOwnershipReceiptId intent.transitionId intent.effectId
  raiseIf (intent.ownershipIntentDigest ≠ expectedDigest ∨ intent.ownerId ≠ expectedOwner ∨
      intent.operationFenceId ≠ expectedFence ∨ intent.attemptId ≠ expectedAttempt ∨
      intent.retryId ≠ expectedFence ∨ intent.receiptId ≠ expectedReceipt)
    (reservationConflict "intent_binding_invalid")

/-- `__post_init__`. -/
def postInit : Except Fault Unit := do
  intent.assertShape
  intent.assertBinding

/-- `to_dict`. -/
def toDict : Value :=
  .dict
    [("schema", .str intent.schema), ("receipt_id", .str intent.receiptId),
      ("transition_id", .str intent.transitionId), ("effect_id", .str intent.effectId),
      ("runtime_id", .str intent.runtimeId), ("tenant_id", .str intent.tenantId),
      ("workflow_id", .str intent.workflowId), ("run_id", .str intent.runId),
      ("step_id", .str intent.stepId), ("effect_ordinal", .int intent.effectOrdinal),
      ("ownership_intent_digest", .str intent.ownershipIntentDigest),
      ("owner_id", .str intent.ownerId), ("operation_fence_id", .str intent.operationFenceId),
      ("attempt_id", .str intent.attemptId), ("retry_id", .str intent.retryId),
      ("transition_request_fingerprint", .str intent.transitionRequestFingerprint),
      ("effect_payload_digest", .str intent.effectPayloadDigest),
      ("idempotency_key", .str intent.idempotencyKey),
      ("lease_seconds", .float intent.leaseSeconds),
      ("maximum_retries", .int intent.maximumRetries), ("planned_at", .float intent.plannedAt)]

end IntentFields

/-- A reservation intent, which cannot exist without passing its own check. -/
structure ReservationIntent extends IntentFields where
  valid : toIntentFields.postInit = .ok ()
  deriving DecidableEq

/-- The fields of a `WorkflowTransitionOwnershipReservationReceipt`. -/
structure ReceiptFields where
  intent : ReservationIntent
  creatorClaimGeneration : Int
  priorOwnership : Option ExecutionOwnership
  priorRecordDigest : Str
  acquiredOwnership : ExecutionOwnership
  acquiredRecordDigest : Str
  retryConsumption : Option RetryConsumption
  retryBudgetUsedBefore : Int
  retryBudgetUsedAfter : Int
  reservedAt : Float64
  receiptDigest : Str
  schema : Str := reservationReceiptSchema
  deriving DecidableEq

namespace ReceiptFields

variable (receipt : ReceiptFields)

/-- `to_dict` without the receipt's own digest. -/
def content : Fields :=
  [("schema", .str receipt.schema), ("intent", receipt.intent.toDict),
    ("creator_claim_generation", .int receipt.creatorClaimGeneration),
    ("prior_ownership", (receipt.priorOwnership.map (·.toDict)).getD .none),
    ("prior_record_digest", .str receipt.priorRecordDigest),
    ("acquired_ownership", receipt.acquiredOwnership.toDict),
    ("acquired_record_digest", .str receipt.acquiredRecordDigest),
    ("retry_consumption", (receipt.retryConsumption.map (·.toDict)).getD .none),
    ("retry_budget_used_before", .int receipt.retryBudgetUsedBefore),
    ("retry_budget_used_after", .int receipt.retryBudgetUsedAfter),
    ("reserved_at", .float receipt.reservedAt)]

/-- `to_dict`. -/
def toDict : Value :=
  .dict (receipt.content ++ [(text "receipt_digest", .str receipt.receiptDigest)])

/-- `workflow_transition_ownership_receipt_digest`. -/
def workflowTransitionOwnershipReceiptDigest : Except Fault Str :=
  ownershipNamespacedDigest (.dict receipt.content)
    "workflow-transition-ownership-reservation-receipt"

/-- The counters, digests and schema that `__post_init__` checks first. -/
def assertShape : Except Fault Unit := do
  discard <| ownershipPositiveInteger receipt.creatorClaimGeneration "creator_claim_generation"
  discard <| exactOptionalOwnership receipt.priorOwnership
  discard receipt.acquiredOwnership.fromExactMapping
  let before ← ownershipNonNegativeInteger receipt.retryBudgetUsedBefore "retry_budget_used_before"
  let after ← ownershipNonNegativeInteger receipt.retryBudgetUsedAfter "retry_budget_used_after"
  raiseIf (after < before ∨ receipt.intent.maximumRetries < after)
    (reservationConflict "receipt_retry_budget_invalid")
  discard <| ownershipTimestamp receipt.reservedAt "reserved_at"
  discard <| ownershipSha256 receipt.priorRecordDigest "prior_record_digest"
  discard <| ownershipSha256 receipt.acquiredRecordDigest "acquired_record_digest"
  discard <| ownershipSha256 receipt.receiptDigest "receipt_digest"
  raiseIf (receipt.schema ≠ reservationReceiptSchema)
    (reservationConflict "receipt_schema_unsupported")
  let priorDigest ← workflowTransitionOwnershipRecordDigest receipt.priorOwnership
  raiseIf (receipt.priorRecordDigest ≠ priorDigest) (reservationConflict "prior_digest_mismatch")
  let acquiredDigest ← workflowTransitionOwnershipRecordDigest (some receipt.acquiredOwnership)
  raiseIf (receipt.acquiredRecordDigest ≠ acquiredDigest)
    (reservationConflict "acquired_digest_mismatch")

def PriorMisbound (prior : ExecutionOwnership) : Prop :=
  prior.tenantId ≠ receipt.intent.tenantId ∨ prior.workflowId ≠ receipt.intent.workflowId ∨
    prior.runId ≠ receipt.intent.runId ∨ prior.stepId ≠ receipt.intent.stepId

def PriorHeld (prior : ExecutionOwnership) : Prop :=
  prior.status = .completed ∨ (prior.status = .active ∧ receipt.reservedAt < prior.leaseExpiresAt)

/-- Whether the acquired record is not the one that the intent asks for after the prior record. -/
def AcquisitionMismatch : Prop :=
  let acquired := receipt.acquiredOwnership
  let intent := receipt.intent
  acquired.tenantId ≠ intent.tenantId ∨ acquired.workflowId ≠ intent.workflowId ∨
    acquired.runId ≠ intent.runId ∨ acquired.stepId ≠ intent.stepId ∨
    acquired.attemptId ≠ intent.attemptId ∨ acquired.ownerId ≠ intent.ownerId ∨
    acquired.status ≠ .active ∨
    acquired.revision ≠ ((receipt.priorOwnership.map (·.revision)).getD 0) + 1 ∨
    acquired.fencingToken ≠ ((receipt.priorOwnership.map (·.fencingToken)).getD 0) + 1 ∨
    acquired.lastHeartbeatAt ≠ receipt.reservedAt ∨
    acquired.leaseExpiresAt ≠ receipt.reservedAt + intent.leaseSeconds ∨
    acquired.leaseExpiresAt ≤ receipt.reservedAt ∨
    acquired.resultAckKey ≠ [] ∨ acquired.failureCode ≠ [] ∨ receipt.reservedAt < intent.plannedAt
  deriving Decidable

def RecoveryRetryMismatch : Prop :=
  receipt.retryConsumption ≠ some
      { tenantId := receipt.intent.tenantId, runId := receipt.intent.runId,
        retryId := receipt.intent.retryId } ∨
    receipt.retryBudgetUsedAfter ≠ receipt.retryBudgetUsedBefore + 1 ∨
    receipt.intent.maximumRetries < receipt.retryBudgetUsedAfter
  deriving Decidable

instance (prior : ExecutionOwnership) :
    Decidable (receipt.PriorMisbound prior) := inferInstanceAs (Decidable (_ ∨ _))

instance (prior : ExecutionOwnership) :
    Decidable (receipt.PriorHeld prior) := inferInstanceAs (Decidable (_ ∨ _))

/-- The prior record is the intent's own step, and nobody held it. -/
def assertPrior : Except Fault Unit :=
  match receipt.priorOwnership with
  | none => return ()
  | some prior => do
    raiseIf (receipt.PriorMisbound prior) (reservationConflict "prior_binding_invalid")
    raiseIf (receipt.PriorHeld prior) (reservationConflict "prior_takeover_invalid")

/-- A first acquisition consumes no retry, and a recovery consumes exactly one. -/
def assertRetry : Except Fault Unit :=
  match receipt.priorOwnership with
  | none =>
    raiseIf (receipt.retryConsumption ≠ none ∨
      receipt.retryBudgetUsedBefore ≠ receipt.retryBudgetUsedAfter)
      (reservationConflict "initial_retry_invalid")
  | some _ => raiseIf receipt.RecoveryRetryMismatch (reservationConflict "recovery_retry_invalid")

/-- The relations between the fields that `__post_init__` checks last. -/
def assertBinding : Except Fault Unit := do
  receipt.assertPrior
  raiseIf receipt.AcquisitionMismatch (reservationConflict "acquisition_invalid")
  receipt.assertRetry
  let digest ← receipt.workflowTransitionOwnershipReceiptDigest
  raiseIf (digest ≠ receipt.receiptDigest) (reservationConflict "receipt_digest_mismatch")

/-- `__post_init__`. -/
def postInit : Except Fault Unit := do
  receipt.assertShape
  receipt.assertBinding

end ReceiptFields

/-- A reservation receipt, which cannot exist without passing its own check. -/
structure ReservationReceipt extends ReceiptFields where
  valid : toReceiptFields.postInit = .ok ()
  deriving DecidableEq

def ReservationReceipt.construct (fields : ReceiptFields) : Except Fault ReservationReceipt := do
  let ⟨fields, valid⟩ ← checked ReceiptFields.postInit fields
  return ⟨fields, valid⟩

/-- `build`: digest the two records and the receipt itself, then construct. -/
def ReservationReceipt.build (intent : ReservationIntent) (creatorClaimGeneration : Int)
    (priorOwnership : Option ExecutionOwnership) (acquiredOwnership : ExecutionOwnership)
    (retryConsumption : Option RetryConsumption) (retryBudgetUsedBefore retryBudgetUsedAfter : Int)
    (reservedAt : Float64) : Except Fault ReservationReceipt := do
  let priorRecordDigest ← workflowTransitionOwnershipRecordDigest priorOwnership
  let acquiredRecordDigest ← workflowTransitionOwnershipRecordDigest (some acquiredOwnership)
  let undigested : ReceiptFields :=
    { intent, creatorClaimGeneration, priorOwnership, priorRecordDigest, acquiredOwnership,
      acquiredRecordDigest, retryConsumption, retryBudgetUsedBefore, retryBudgetUsedAfter,
        reservedAt,
      receiptDigest := [] }
  let receiptDigest ← undigested.workflowTransitionOwnershipReceiptDigest
  ReservationReceipt.construct { undigested with receiptDigest }

end Ananta
