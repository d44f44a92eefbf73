import Ananta.Runtime.Identity

/-! Intents to reserve one slot of the task queue, and the receipts that prove it was reserved. -/

namespace Ananta

open Value

/-- `QUEUE_RESERVATION_RECEIPT_SCHEMA`. -/
def queueReservationReceiptSchema : Str := "ananta.workflow_transition_queue_reservation_receipt.v1"

/-- `_MAX_COUNTER`. -/
def queueMaxCounter : Int := 2147483647

/-- A `WorkflowTransitionQueueReservationError`. -/
def queueReservationError (reason : String) : Fault :=
  ⟨.transitionQueueReservationError, "workflow_transition_queue_reservation_" ++ reason⟩

/-- A `WorkflowTransitionQueueReservationConflict`. -/
def queueReservationConflict (reason : String) : Fault :=
  ⟨.transitionQueueReservationConflict, "workflow_transition_queue_reservation_" ++ reason⟩

def queueField {α : Type} (accepted : α → Prop) [DecidablePred accepted] (value : α)
    (reason : String) : Except Fault Unit :=
  raiseIf (¬ accepted value) (queueReservationError (reason ++ "_invalid"))

@[simp] lemma queueField_eq_ok {α : Type} {accepted : α → Prop} [DecidablePred accepted] {value : α}
    {reason : String} {result : Unit} : queueField accepted value reason = .ok result ↔
      accepted value := by
  simp [queueField]

/-- `_identity`. -/
def queueIdentity (value : Str) (reason : String) : Except Fault Unit :=
  queueField IsIdentity value reason

/-- `_sha256`. -/
def queueSha256 (value : Str) (reason : String) : Except Fault Unit :=
  queueField IsSha256 value reason

/-- `_positive_integer`. -/
def queuePositiveInteger (value : Int) (reason : String) : Except Fault Unit :=
  queueField (fun value => 0 < value ∧ value ≤ queueMaxCounter) value reason

/-- `_retry_maximum`. -/
def queueRetryMaximum (value : Int) : Except Fault Unit :=
  queueField (fun value => 0 ≤ value ∧ value ≤ queueMaxCounter) value "maximum_retries"

/-- `_positive_float`. -/
def queuePositiveFloat (value : Float64) (reason : String) : Except Fault Unit :=
  queueField IsTimestamp value reason

/-- `_namespaced_digest`. -/
def queueNamespacedDigest (values : Fields) (space : String) : Except Fault Str :=
  sha256Json (.dict [("namespace", .str (text space)), ("values", .dict values)])

/-- A namespaced digest of plain values exists. -/
lemma queueNamespacedDigest_ok {values : Fields} (plain : (dict values).Plain)
    (space : String) :
    ∃ digest, queueNamespacedDigest values space = .ok digest ∧ IsSha256 digest := by
  have framed : (dict [("namespace", .str (text space)), ("values", .dict values)]).Plain := by
    simp only [Plain, PlainFields, encodable_text, true_and, and_true]
    exact plain
  obtain ⟨rendered, written, encodable⟩ := canonicalJson_plain framed
  obtain ⟨digest, hashed, shape⟩ := sha256Text_ok encodable
  exact ⟨digest, (bind_of_ok written _).trans hashed, shape⟩

/-- `workflow_transition_queue_record_digest` of the task and revision that a slot is reserved
for. -/
def workflowTransitionQueueRecordDigest (taskId : Str) (revision : Int) : Except Fault Str :=
  queueNamespacedDigest [("task_id", .str taskId), ("revision", .int revision)]
    "workflow-transition-queue-record"

/-- The fields of a `WorkflowTransitionQueueReservationIntent`. -/
structure QueueIntentFields where
  (transitionId effectId runtimeId tenantId workflowId runId stepId taskId : Str)
  effectOrdinal : Int
  (queueIntentDigest operationFenceId attemptId receiptId : Str)
  maximumRetries : Int
  plannedAt : Float64
  deriving DecidableEq

/-- `WorkflowTransitionQueueReservationIntent.__post_init__`. -/
def QueueIntentFields.postInit (intent : QueueIntentFields) : Except Fault Unit := do
  [(intent.transitionId, "transition_id"), (intent.effectId, "effect_id"),
    (intent.runtimeId, "runtime_id"),
    (intent.tenantId, "tenant_id"), (intent.workflowId, "workflow_id"), (intent.runId, "run_id"),
    (intent.stepId, "step_id"), (intent.taskId, "task_id"),
    (intent.operationFenceId, "operation_fence_id"), (intent.attemptId, "attempt_id"),
    (intent.receiptId, "receipt_id")].forM fun (value, name) => queueIdentity value name
  queueSha256 intent.queueIntentDigest "queue_intent_digest"
  queuePositiveInteger intent.effectOrdinal "effect_ordinal"
  queueRetryMaximum intent.maximumRetries
  queuePositiveFloat intent.plannedAt "planned_at"

/-- An intent, which cannot exist without passing its own check. -/
structure QueueReservationIntent extends QueueIntentFields where
  valid : toQueueIntentFields.postInit = .ok ()
  deriving DecidableEq

structure QueueIntentFields.WellFormed (intent : QueueIntentFields) : Prop where
  transitionId : IsIdentity intent.transitionId
  effectId : IsIdentity intent.effectId
  runtimeId : IsIdentity intent.runtimeId
  tenantId : IsIdentity intent.tenantId
  workflowId : IsIdentity intent.workflowId
  runId : IsIdentity intent.runId
  stepId : IsIdentity intent.stepId
  taskId : IsIdentity intent.taskId
  operationFenceId : IsIdentity intent.operationFenceId
  attemptId : IsIdentity intent.attemptId
  receiptId : IsIdentity intent.receiptId
  queueIntentDigest : IsSha256 intent.queueIntentDigest
  maximumRetries : 0 ≤ intent.maximumRetries ∧ intent.maximumRetries ≤ queueMaxCounter
  plannedAt : IsTimestamp intent.plannedAt

/-- The check of an intent makes it well formed. -/
lemma QueueReservationIntent.wellFormed (intent : QueueReservationIntent) : intent.WellFormed := by
  have valid := intent.valid
  simp only [QueueIntentFields.postInit, bind_eq_ok, forM_eq_ok, List.forall_mem_cons,
    queueIdentity, queueSha256, queuePositiveInteger, queueRetryMaximum, queuePositiveFloat,
      queueField_eq_ok] at valid
  obtain ⟨_, ⟨transition, effect, runtime, tenant, workflow, run, step, task, fence, attempt,
    receipt, _⟩, _, intentDigest, _, _, _, retries, planned⟩ := valid
  exact ⟨transition, effect, runtime, tenant, workflow, run, step, task, fence, attempt, receipt,
    intentDigest, retries, planned⟩

/-- The fields of a `WorkflowTransitionQueueReservationReceipt`. -/
structure QueueReceiptFields where
  (schema receiptId transitionId effectId operationFenceId attemptId taskId tenantId workflowId
    runId runtimeId : Str)
  (stepId queueIntentDigest reservationRecordDigest : Str)
  (creatorClaimGeneration reservedRevision maximumRetries : Int)
  retryConsumed : Bool
  plannedAt : Float64
  reservedAt : Float64
  receiptDigest : Str := []
  deriving DecidableEq

namespace QueueReceiptFields

/-- `WorkflowTransitionQueueReservationReceipt.__post_init__`. -/
def postInit (receipt : QueueReceiptFields) : Except Fault Unit := do
  raiseIf (receipt.schema ≠ queueReservationReceiptSchema) (queueReservationError "schema_invalid")
  [(receipt.receiptId, "receipt_id"), (receipt.transitionId, "transition_id"),
    (receipt.effectId, "effect_id"), (receipt.operationFenceId, "operation_fence_id"),
    (receipt.attemptId, "attempt_id"), (receipt.taskId, "task_id"), (receipt.tenantId, "tenant_id"),
    (receipt.workflowId, "workflow_id"), (receipt.runId, "run_id"),
      (receipt.runtimeId, "runtime_id"),
    (receipt.stepId, "step_id")].forM fun (value, name) => queueIdentity value name
  queueSha256 receipt.queueIntentDigest "queue_intent_digest"
  queueSha256 receipt.reservationRecordDigest "reservation_record_digest"
  queuePositiveInteger receipt.creatorClaimGeneration "creator_claim_generation"
  queuePositiveInteger receipt.reservedRevision "reserved_revision"
  queueRetryMaximum receipt.maximumRetries
  queuePositiveFloat receipt.plannedAt "planned_at"
  queuePositiveFloat receipt.reservedAt "reserved_at"
  raiseIf (receipt.reservedAt < receipt.plannedAt) (queueReservationError "clock_invalid")
  -- A receipt that was not digested yet carries an empty text.
  queueField (fun digest => digest = [] ∨ IsSha256 digest) receipt.receiptDigest "receipt_digest"

/-- `to_dict` without the receipt's own digest. -/
def content (receipt : QueueReceiptFields) : Fields :=
  [("attempt_id", .str receipt.attemptId),
    ("creator_claim_generation", .int receipt.creatorClaimGeneration),
    ("effect_id", .str receipt.effectId), ("maximum_retries", .int receipt.maximumRetries),
    ("operation_fence_id", .str receipt.operationFenceId), ("planned_at", .float receipt.plannedAt),
    ("queue_intent_digest", .str receipt.queueIntentDigest), ("receipt_id", .str receipt.receiptId),
    ("reservation_record_digest", .str receipt.reservationRecordDigest),
    ("reserved_at", .float receipt.reservedAt),
    ("reserved_revision", .int receipt.reservedRevision),
    ("retry_consumed", .bool receipt.retryConsumed), ("run_id", .str receipt.runId),
    ("runtime_id", .str receipt.runtimeId), ("schema", .str receipt.schema),
    ("step_id", .str receipt.stepId), ("task_id", .str receipt.taskId),
    ("tenant_id", .str receipt.tenantId), ("transition_id", .str receipt.transitionId),
    ("workflow_id", .str receipt.workflowId)]

end QueueReceiptFields

/-- A receipt, which cannot exist without passing its own check. -/
structure QueueReservationReceipt extends QueueReceiptFields where
  valid : toQueueReceiptFields.postInit = .ok ()
  deriving DecidableEq

namespace QueueReservationReceipt

/-- Construct a receipt, raising when its fields do not pass the check. -/
def construct (fields : QueueReceiptFields) : Except Fault QueueReservationReceipt := do
  let passed ← checked QueueReceiptFields.postInit fields
  return { passed.val with valid := passed.property }

/-- `with_digest`. -/
def withDigest (receipt : QueueReservationReceipt) : Except Fault QueueReservationReceipt := do
  let digest ← queueNamespacedDigest receipt.content "workflow-transition-queue-reservation-receipt"
  construct { receipt.toQueueReceiptFields with receiptDigest := digest }

lemma construct_fields {fields : QueueReceiptFields} {receipt : QueueReservationReceipt}
    (built : construct fields = .ok receipt) : receipt.toQueueReceiptFields = fields := by
  simp only [construct, ok_iff, checked_eq_ok] at built
  obtain ⟨passed, rfl, rfl⟩ := built
  rfl

lemma construct_ok {fields : QueueReceiptFields} (valid : fields.postInit = .ok ()) :
    construct fields = .ok { fields with valid } := by
  simp only [construct, ok_iff, checked_eq_ok]
  exact ⟨⟨fields, valid⟩, rfl, rfl⟩

end QueueReservationReceipt

namespace QueueReservationIntent

def receiptFields (intent : QueueReservationIntent) (recordDigest : Str) (revision generation : Int)
    (moment : Float64) : QueueReceiptFields where
  schema := queueReservationReceiptSchema
  receiptId := intent.receiptId
  transitionId := intent.transitionId
  effectId := intent.effectId
  operationFenceId := intent.operationFenceId
  attemptId := intent.attemptId
  taskId := intent.taskId
  tenantId := intent.tenantId
  workflowId := intent.workflowId
  runId := intent.runId
  runtimeId := intent.runtimeId
  stepId := intent.stepId
  queueIntentDigest := intent.queueIntentDigest
  reservationRecordDigest := recordDigest
  creatorClaimGeneration := generation
  reservedRevision := revision
  maximumRetries := intent.maximumRetries
  retryConsumed := false
  plannedAt := intent.plannedAt
  reservedAt := moment

/-- The receipt that `reserve_transition_queue_slot` makes for a new reservation. -/
def receipt (intent : QueueReservationIntent) (revision generation : Int) (moment : Float64) :
    Except Fault QueueReservationReceipt := do
  let recordDigest ← workflowTransitionQueueRecordDigest intent.taskId revision
  let undigested ← QueueReservationReceipt.construct
    (intent.receiptFields recordDigest revision generation moment)
  undigested.withDigest

variable {intent : QueueReservationIntent} {revision generation : Int} {moment : Float64}

lemma receipt_spec {made : QueueReservationReceipt}
    (built : intent.receipt revision generation moment = .ok made) :
    ∃ recordDigest digest, made.toQueueReceiptFields =
      { intent.receiptFields recordDigest revision generation moment
        with receiptDigest := digest } := by
  simp only [receipt, QueueReservationReceipt.withDigest, bind_eq_ok] at built
  obtain ⟨recordDigest, _, undigested, first, digest, _, second⟩ := built
  rw [QueueReservationReceipt.construct_fields first] at second
  exact ⟨recordDigest, digest, QueueReservationReceipt.construct_fields second⟩

variable (intent) in
/-- The fields of a receipt pass their check unless the clock or the counter went wrong. -/
lemma receiptFields_valid {recordDigest digest : Str} (recorded : IsSha256 recordDigest)
    (digested : digest = [] ∨ IsSha256 digest) (counted : 0 < revision ∧ revision ≤ queueMaxCounter)
    (generated : 0 < generation ∧ generation ≤ queueMaxCounter) (timed : IsTimestamp moment)
    (ordered : ¬ moment < intent.plannedAt) :
    ({ intent.receiptFields recordDigest revision generation moment with
      receiptDigest := digest } : QueueReceiptFields).postInit = .ok () := by
  have fine := intent.wellFormed
  simp only [QueueReceiptFields.postInit, ok_iff, forM_eq_ok, List.forall_mem_cons, queueIdentity,
    queueSha256, queuePositiveInteger, queueRetryMaximum, queuePositiveFloat, queueField_eq_ok,
      not_not]
  exact ⟨(), rfl, (), ⟨fine.receiptId, fine.transitionId, fine.effectId, fine.operationFenceId,
    fine.attemptId, fine.taskId, fine.tenantId, fine.workflowId, fine.runId, fine.runtimeId,
      fine.stepId,
    List.forall_mem_nil _⟩, (), fine.queueIntentDigest, (), recorded, (), generated, (),
    counted, (), fine.maximumRetries, (), fine.plannedAt, (), timed, (), ordered, digested⟩

/-- A receipt can be made unless the clock or the counter went wrong. -/
lemma receipt_ok (counted : 0 < revision ∧ revision ≤ queueMaxCounter)
    (generated : 0 < generation ∧ generation ≤ queueMaxCounter) (timed : IsTimestamp moment)
    (ordered : ¬ moment < intent.plannedAt) :
    ∃ made, intent.receipt revision generation moment = .ok made := by
  have fine := intent.wellFormed
  obtain ⟨recordDigest, recorded, shape⟩ : ∃ digest,
      workflowTransitionQueueRecordDigest intent.taskId revision = .ok digest ∧
        IsSha256 digest := by
    refine queueNamespacedDigest_ok ?_ _
    simp only [Plain, PlainFields, encodable_text, true_and, and_true]
    exact fine.taskId.encodable
  -- The digest covers identities, digests and finite times only.
  obtain ⟨digest, hashed, digestShape⟩ : ∃ digest, queueNamespacedDigest
      (intent.receiptFields recordDigest revision generation moment).content
      "workflow-transition-queue-reservation-receipt" = .ok digest ∧ IsSha256 digest := by
    refine queueNamespacedDigest_ok ?_ _
    simp only [Plain, PlainFields, QueueReceiptFields.content, receiptFields, encodable_text,
      true_and, and_true, queueReservationReceiptSchema]
    exact ⟨fine.attemptId.encodable, fine.effectId.encodable, fine.operationFenceId.encodable,
      fine.plannedAt.1, fine.queueIntentDigest.encodable, fine.receiptId.encodable, shape.encodable,
        timed.1,
      fine.runId.encodable, fine.runtimeId.encodable, fine.stepId.encodable, fine.taskId.encodable,
      fine.tenantId.encodable, fine.transitionId.encodable, fine.workflowId.encodable⟩
  have undigested :
    (intent.receiptFields recordDigest revision generation moment).postInit = .ok () :=
    intent.receiptFields_valid shape (.inl rfl) counted generated timed ordered
  have digested := intent.receiptFields_valid shape (.inr digestShape)
    counted generated timed ordered
  rw [receipt, bind_of_ok recorded, bind_of_ok (QueueReservationReceipt.construct_ok undigested)]
  exact ⟨_, (bind_of_ok hashed _).trans (QueueReservationReceipt.construct_ok digested)⟩

end QueueReservationIntent

end Ananta
