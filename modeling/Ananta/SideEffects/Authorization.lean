import Ananta.SideEffects.Record

/-! Authorizations of transition effects: intents, receipts, and what both derive from their
contents. -/

namespace Ananta

/-- `_MAX_COUNTER`. -/
def maxCounter : Int := 2 ^ 63 - 1

def authorizationIntentSchema : Str :=
  "ananta.workflow_transition_side_effect_authorization_intent.v1"

def authorizationReceiptSchema : Str :=
  "ananta.workflow_transition_side_effect_authorization_receipt.v1"

def authorizationInvalid (reason : String) : Fault :=
  ⟨.valueError, "workflow_transition_side_effect_authorization_" ++ reason⟩

def authorizationConflict (reason : String) : Fault :=
  ⟨.optimisticConcurrencyError, "workflow_transition_side_effect_authorization_" ++ reason⟩

def authorizationField {α : Type} (accepted : α → Prop) [DecidablePred accepted] (value : α)
    (reason : String) : Except Fault α := do
  raiseIf (¬ accepted value) (authorizationInvalid (reason ++ "_invalid"))
  return value

@[simp] lemma authorizationField_eq_ok {α : Type} {accepted : α → Prop} [DecidablePred accepted]
    {value result : α} {reason : String} :
    authorizationField accepted value reason = .ok result ↔ accepted value ∧ result = value := by
  -- The only guard is the test itself.
  simp only [authorizationField, ok_iff, not_not, exists_const]

/-- `_identity`. -/
def authorizationIdentity (value : Str) (reason : String) : Except Fault Str :=
  authorizationField IsIdentity value reason

/-- `_runtime_identity`, which bounds the length of an identity a second time. -/
def runtimeIdentity (value : Str) : Except Fault Str := do
  let runtimeId ← authorizationIdentity value "runtime_id"
  authorizationField (·.length ≤ 64) runtimeId "runtime_id"

def IsBoundedText (maximum : Nat) (value : Str) : Prop :=
  value ≠ [] ∧ value = strip value ∧ value.length ≤ maximum ∧ (0 : CodePoint) ∉ value ∧
    Encodable value
  deriving Decidable

/-- `_bounded_text`. -/
def boundedText (value : Str) (maximum : Nat) (reason : String) : Except Fault Str :=
  authorizationField (IsBoundedText maximum) value reason

/-- `_sha256`. -/
def authorizationSha256 (value : Str) (reason : String) : Except Fault Str :=
  authorizationField IsSha256 value reason

/-- `_positive_integer`. -/
def positiveInteger (value : Int) (reason : String) : Except Fault Int :=
  authorizationField (fun value => 1 ≤ value ∧ value ≤ maxCounter) value reason

/-- `_nonnegative_integer`. -/
def nonnegativeInteger (value : Int) (reason : String) : Except Fault Int :=
  authorizationField (fun value => 0 ≤ value ∧ value ≤ maxCounter) value reason

/-- `_positive_timestamp`. -/
def positiveTimestamp (value : Float64) (reason : String) : Except Fault Float64 :=
  authorizationField IsTimestamp value reason

/-- `_namespaced_digest`. -/
def namespacedDigest (space : String) (payload : Value) : Except Fault Str := do
  let rendered ← canonicalJson payload
  sha256Text (text space ++ "\x00" ++ rendered)

/-- `workflow_transition_side_effect_operation_intent_digest`. -/
def operationIntentDigest (operationId tenantId workflowId runId stepId declaredOperation : Str)
    (sideEffectClass : SideEffectClass) (operationPayloadDigest : Str) : Except Fault Str :=
  namespacedDigest "workflow-transition-side-effect-operation-intent.v1"
    (.dict
      [("operation_id", .str operationId), ("tenant_id", .str tenantId),
        ("workflow_id", .str workflowId), ("run_id", .str runId), ("step_id", .str stepId),
        ("declared_operation", .str declaredOperation),
        ("side_effect_class", .str sideEffectClass.name),
        ("operation_payload_digest", .str operationPayloadDigest)])

/-- `workflow_transition_side_effect_operation_fence_id`. -/
def operationFenceIdOf (operationId operationIntentDigest ownershipAttemptId : Str)
    (ownershipFencingToken : Int) (authorizationEnvelopeId authorizationEnvelopeDigest : Str) :
    Except Fault Str := do
  let digest ← namespacedDigest "workflow-transition-side-effect-operation-fence.v1"
    (.dict
      [("operation_id", .str operationId), ("operation_intent_digest", .str operationIntentDigest),
        ("ownership_attempt_id", .str ownershipAttemptId),
        ("ownership_fencing_token", .int ownershipFencingToken),
        ("authorization_envelope_id", .str authorizationEnvelopeId),
        ("authorization_envelope_digest", .str authorizationEnvelopeDigest)])
  return "wftsf-" ++ digest

/-- `workflow_transition_side_effect_authorization_receipt_id`. -/
def authorizationReceiptIdOf (transitionId effectId : Str) : Except Fault Str := do
  let digest ← namespacedDigest "workflow-transition-side-effect-authorization-receipt.v1"
    (.dict [("transition_id", .str transitionId), ("effect_id", .str effectId)])
  return "wftsar-" ++ digest

/-- `_side_effect_record_digest`. -/
def sideEffectRecordDigest (record : Option SideEffectRecord) : Except Fault Str :=
  let content := match record with
    | some record => record.toDict
    | none => .dict [("state", .str "absent")]
  namespacedDigest "workflow-transition-side-effect-ledger-record.v1" content

/-- The fields that an intent and the receipt issued for it have in common. -/
structure AuthorizationTerms where
  (receiptId transitionId effectId runtimeId tenantId workflowId runId stepId : Str)
  effectOrdinal : Int
  declaredOperation : Str
  sideEffectClass : SideEffectClass
  (operationId operationPayloadDigest operationIntentDigest operationFenceId
    authorizationEnvelopeId : Str)
  (authorizationEnvelopeDigest ownershipAttemptId : Str)
  ownershipFencingToken : Int
  creatorClaimGeneration : Int
  (transitionRequestFingerprint effectPayloadDigest idempotencyKey : Str)
  plannedAt : Float64
  deriving DecidableEq

namespace AuthorizationTerms

/-- The shape that `_assert_transition_authorization_intent` requires of each field. -/
def assertShape (terms : AuthorizationTerms) : Except Fault Unit := do
  discard <| authorizationIdentity terms.receiptId "receipt_id"
  discard <| authorizationIdentity terms.transitionId "transition_id"
  discard <| authorizationIdentity terms.effectId "effect_id"
  discard <| authorizationIdentity terms.tenantId "tenant_id"
  discard <| authorizationIdentity terms.workflowId "workflow_id"
  discard <| authorizationIdentity terms.runId "run_id"
  discard <| authorizationIdentity terms.stepId "step_id"
  discard <| authorizationIdentity terms.operationId "operation_id"
  discard <| authorizationIdentity terms.operationFenceId "operation_fence_id"
  discard <| authorizationIdentity terms.authorizationEnvelopeId "authorization_envelope_id"
  discard <| authorizationIdentity terms.ownershipAttemptId "ownership_attempt_id"
  discard <| runtimeIdentity terms.runtimeId
  discard <| boundedText terms.declaredOperation 512 "declared_operation"
  -- Reads are never authorized as transition effects.
  raiseIf (terms.sideEffectClass = .read) (authorizationInvalid "class_invalid")
  discard <| positiveInteger terms.effectOrdinal "effect_ordinal"
  discard <| positiveInteger terms.ownershipFencingToken "ownership_fencing_token"
  discard <| positiveInteger terms.creatorClaimGeneration "creator_claim_generation"
  discard <| positiveTimestamp terms.plannedAt "planned_at"
  discard <| authorizationSha256 terms.operationPayloadDigest "operation_payload_digest"
  discard <| authorizationSha256 terms.operationIntentDigest "operation_intent_digest"
  discard <| authorizationSha256 terms.authorizationEnvelopeDigest "authorization_envelope_digest"
  discard <| authorizationSha256 terms.transitionRequestFingerprint "transition_request_fingerprint"
  discard <| authorizationSha256 terms.effectPayloadDigest "effect_payload_digest"

/-- The derivations that `_assert_transition_authorization_intent` repeats. -/
def assertBinding (terms : AuthorizationTerms) : Except Fault Unit := do
  let expectedOperation ← operationIdFor terms.tenantId terms.runId terms.stepId
    terms.declaredOperation
  let expectedDigest ← Ananta.operationIntentDigest terms.operationId terms.tenantId
    terms.workflowId
    terms.runId terms.stepId terms.declaredOperation terms.sideEffectClass
      terms.operationPayloadDigest
  let expectedFence ← operationFenceIdOf terms.operationId terms.operationIntentDigest
    terms.ownershipAttemptId terms.ownershipFencingToken terms.authorizationEnvelopeId
    terms.authorizationEnvelopeDigest
  let expectedReceipt ← authorizationReceiptIdOf terms.transitionId terms.effectId
  raiseIf (terms.operationId ≠ expectedOperation ∨ terms.operationIntentDigest ≠ expectedDigest ∨
      terms.operationFenceId ≠ expectedFence ∨ terms.idempotencyKey ≠ terms.operationFenceId ∨
      terms.receiptId ≠ expectedReceipt)
    (authorizationInvalid "intent_binding_invalid")

/-- The entries of `to_dict` that stand for these fields. -/
def content (terms : AuthorizationTerms) : Fields :=
  [("receipt_id", .str terms.receiptId), ("transition_id", .str terms.transitionId),
    ("effect_id", .str terms.effectId), ("runtime_id", .str terms.runtimeId),
    ("tenant_id", .str terms.tenantId), ("workflow_id", .str terms.workflowId),
    ("run_id", .str terms.runId), ("step_id", .str terms.stepId),
    ("effect_ordinal", .int terms.effectOrdinal),
    ("declared_operation", .str terms.declaredOperation),
    ("side_effect_class", .str terms.sideEffectClass.name),
    ("operation_id", .str terms.operationId),
    ("operation_payload_digest", .str terms.operationPayloadDigest),
    ("operation_intent_digest", .str terms.operationIntentDigest),
    ("operation_fence_id", .str terms.operationFenceId),
    ("authorization_envelope_id", .str terms.authorizationEnvelopeId),
    ("authorization_envelope_digest", .str terms.authorizationEnvelopeDigest),
    ("ownership_attempt_id", .str terms.ownershipAttemptId),
    ("ownership_fencing_token", .int terms.ownershipFencingToken),
    ("creator_claim_generation", .int terms.creatorClaimGeneration),
    ("transition_request_fingerprint", .str terms.transitionRequestFingerprint),
    ("effect_payload_digest", .str terms.effectPayloadDigest),
    ("idempotency_key", .str terms.idempotencyKey), ("planned_at", .float terms.plannedAt)]

end AuthorizationTerms

/-- The fields of a `WorkflowTransitionSideEffectAuthorizationIntent`. -/
structure AuthorizationIntentFields extends AuthorizationTerms where
  schema : Str := authorizationIntentSchema
  deriving DecidableEq

/-- `_assert_transition_authorization_intent`. -/
def AuthorizationIntentFields.postInit (intent : AuthorizationIntentFields) :
    Except Fault Unit := do
  raiseIf (intent.schema ≠ authorizationIntentSchema)
    (authorizationInvalid "intent_schema_unsupported")
  intent.toAuthorizationTerms.assertShape
  intent.toAuthorizationTerms.assertBinding

/-- An authorization intent, which cannot exist without passing its own check. -/
structure AuthorizationIntent extends AuthorizationIntentFields where
  valid : toAuthorizationIntentFields.postInit = .ok ()
  deriving DecidableEq

/-- `to_dict` of an intent. -/
def AuthorizationIntent.toDict (intent : AuthorizationIntent) : Value :=
  .dict (("schema", .str intent.schema) :: intent.toAuthorizationTerms.content)

def IsRecordText (value : Str) : Prop := (0 : CodePoint) ∉ value ∧ Encodable value
  deriving Decidable

/-- `_strict_side_effect_record_mapping` and `SideEffectRecord.from_exact_mapping`. -/
def SideEffectRecord.fromExactMapping (raw : SideEffectRecord) : Except Fault SideEffectRecord := do
  let texts := [raw.schema, raw.operationId, raw.tenantId, raw.workflowId, raw.runId, raw.stepId,
    raw.declaredOperation, raw.attemptId, raw.authorizationEnvelopeId, raw.resultRef,
      raw.failureCode]
  raiseIf (∃ value ∈ texts, ¬ IsRecordText value)
    ⟨.valueError, "workflow_transition_side_effect_ledger_record_invalid"⟩
  discard <| positiveInteger raw.revision "record_revision"
  discard <| nonnegativeInteger raw.fencingToken "record_fencing_token"
  discard <| positiveTimestamp raw.updatedAt "record_updated_at"
  raw.assertValid
  return raw

/-- The fields of a `WorkflowTransitionSideEffectAuthorizationReceipt`, where no prior status is
`absent`. -/
structure AuthorizationReceiptFields extends AuthorizationTerms where
  priorStatus : Option SideEffectStatus
  priorRevision : Int
  priorRecordDigest : Str
  authorizedLedgerRevision : Int
  authorizedRecordDigest : Str
  authorizedRecord : SideEffectRecord
  authorizedAt : Float64
  receiptDigest : Str
  schema : Str := authorizationReceiptSchema
  deriving DecidableEq

namespace AuthorizationReceiptFields

variable (receipt : AuthorizationReceiptFields)

/-- `to_dict` without the receipt's own digest. -/
def content : Fields :=
  (text "schema", .str receipt.schema) :: receipt.toAuthorizationTerms.content ++
    [(text "prior_status", .str (text ((receipt.priorStatus.map (·.label)).getD "absent"))),
      (text "prior_revision", .int receipt.priorRevision),
      (text "prior_record_digest", .str receipt.priorRecordDigest),
      ("authorized_ledger_revision", .int receipt.authorizedLedgerRevision),
      ("authorized_record_digest", .str receipt.authorizedRecordDigest),
      ("authorized_record", receipt.authorizedRecord.toDict),
      ("authorized_at", .float receipt.authorizedAt)]

/-- `to_dict`. -/
def toDict : Value :=
  .dict (receipt.content ++ [(text "receipt_digest", .str receipt.receiptDigest)])

/-- `_transition_authorization_receipt_digest`. -/
def transitionAuthorizationReceiptDigest : Except Fault Str :=
  namespacedDigest "workflow-transition-side-effect-authorization-receipt-digest.v1"
    (.dict receipt.content)

/-- Whether the authorized record is not the one that the receipt describes. -/
def RecordMismatch : Prop :=
  let record := receipt.authorizedRecord
  record.operationId ≠ receipt.operationId ∨ record.tenantId ≠ receipt.tenantId ∨
    record.workflowId ≠ receipt.workflowId ∨ record.runId ≠ receipt.runId ∨
    record.stepId ≠ receipt.stepId ∨ record.declaredOperation ≠ receipt.declaredOperation ∨
    record.sideEffectClass ≠ receipt.sideEffectClass ∨ record.status ≠ .authorized ∨
    record.revision ≠ receipt.authorizedLedgerRevision ∨
    record.fencingToken ≠ receipt.ownershipFencingToken ∨
    record.authorizationEnvelopeId ≠ receipt.authorizationEnvelopeId ∨ record.attemptId ≠ [] ∨
    record.resultRef ≠ [] ∨ record.failureCode ≠ [] ∨ record.updatedAt ≠ receipt.authorizedAt
  deriving Decidable

/-- The relation between the revision before and after an authorization. -/
def assertRevisions : Except Fault Unit := do
  -- A missing record counts as revision zero, and creating it takes two revisions.
  raiseIf (if receipt.priorStatus = none then receipt.priorRevision ≠ 0
    else receipt.priorRevision < 1) (authorizationInvalid "prior_state_invalid")
  raiseIf (receipt.authorizedLedgerRevision ≠
      if receipt.priorStatus = none then 2 else receipt.priorRevision + 1)
    (authorizationInvalid "revision_invalid")

/-- `__post_init__`, which re-hydrates the record and then runs
`_assert_transition_authorization_receipt`. -/
def postInit : Except Fault Unit := do
  discard receipt.authorizedRecord.fromExactMapping
  -- The receipt's own fields have to make up a valid intent.
  receipt.toAuthorizationTerms.assertShape
  receipt.toAuthorizationTerms.assertBinding
  raiseIf (receipt.schema ≠ authorizationReceiptSchema)
    (authorizationInvalid "receipt_schema_unsupported")
  raiseIf (receipt.priorStatus ∉ [none, some .planned, some .failed])
    (authorizationInvalid "prior_state_invalid")
  discard <| nonnegativeInteger receipt.priorRevision "prior_revision"
  discard <| authorizationSha256 receipt.priorRecordDigest "prior_record_digest"
  discard <| positiveInteger receipt.authorizedLedgerRevision "authorized_ledger_revision"
  discard <| authorizationSha256 receipt.authorizedRecordDigest "authorized_record_digest"
  discard <| authorizationSha256 receipt.receiptDigest "receipt_digest"
  discard <| positiveTimestamp receipt.authorizedAt "authorized_at"
  raiseIf (receipt.authorizedAt ≠ receipt.plannedAt) (authorizationInvalid "timestamp_invalid")
  receipt.assertRevisions
  raiseIf receipt.RecordMismatch (authorizationInvalid "record_invalid")
  let recordDigest ← sideEffectRecordDigest (some receipt.authorizedRecord)
  raiseIf (recordDigest ≠ receipt.authorizedRecordDigest)
    (authorizationInvalid "record_digest_mismatch")
  let digest ← receipt.transitionAuthorizationReceiptDigest
  raiseIf (digest ≠ receipt.receiptDigest) (authorizationInvalid "receipt_digest_mismatch")

end AuthorizationReceiptFields

/-- An authorization receipt, which cannot exist without passing its own check. -/
structure AuthorizationReceipt extends AuthorizationReceiptFields where
  valid : toAuthorizationReceiptFields.postInit = .ok ()
  deriving DecidableEq

def AuthorizationReceipt.construct (fields : AuthorizationReceiptFields) :
    Except Fault AuthorizationReceipt := do
  let ⟨fields, valid⟩ ← checked AuthorizationReceiptFields.postInit fields
  return ⟨fields, valid⟩

/-- `_new_transition_authorization_receipt`. -/
def newTransitionAuthorizationReceipt (intent : AuthorizationIntent)
    (prior : Option SideEffectRecord) (authorized : SideEffectRecord) :
    Except Fault AuthorizationReceipt := do
  let priorRecordDigest ← sideEffectRecordDigest prior
  let authorizedRecordDigest ← sideEffectRecordDigest (some authorized)
  let undigested : AuthorizationReceiptFields :=
    { toAuthorizationTerms := intent.toAuthorizationTerms, priorStatus := prior.map (·.status),
      priorRevision := (prior.map (·.revision)).getD 0, priorRecordDigest,
      authorizedLedgerRevision := authorized.revision, authorizedRecordDigest,
      authorizedRecord := authorized, authorizedAt := intent.plannedAt, receiptDigest := [] }
  let receiptDigest ← undigested.transitionAuthorizationReceiptDigest
  AuthorizationReceipt.construct { undigested with receiptDigest }

end Ananta
