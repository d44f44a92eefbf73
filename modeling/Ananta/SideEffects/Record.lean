import Ananta.Runtime.Identity

/-! The ledger record of one external operation, and the table of its transitions. -/

namespace Ananta

/-- `SIDE_EFFECT_LEDGER_SCHEMA`. -/
def sideEffectLedgerSchema : Str := "ananta.side_effect_ledger.v1"

/-- `SIDE_EFFECT_CLASSES`. -/
inductive SideEffectClass where
  | read
  | idempotentWrite
  | nonIdempotentWrite
  deriving DecidableEq

namespace SideEffectClass

def name : SideEffectClass → Str
  | .read => "read"
  | .idempotentWrite => "idempotent_write"
  | .nonIdempotentWrite => "non_idempotent_write"

def named (value : Str) : Option SideEffectClass :=
  [read, idempotentWrite, nonIdempotentWrite].find? (·.name = value)

@[simp] lemma named_name (kind : SideEffectClass) : named kind.name = some kind := by
  -- The three names are distinct, so the search stops at the right one.
  cases kind <;> decide

end SideEffectClass

/-- `SIDE_EFFECT_STATUSES`. -/
inductive SideEffectStatus where
  | planned
  | authorized
  | started
  | completed
  | failed
  | uncertain
  | compensated
  deriving DecidableEq

namespace SideEffectStatus

/-- The name a status is stored under. -/
def label : SideEffectStatus → String
  | .planned => "planned"
  | .authorized => "authorized"
  | .started => "started"
  | .completed => "completed"
  | .failed => "failed"
  | .uncertain => "uncertain"
  | .compensated => "compensated"

/-- `_TRANSITIONS`: the statuses that may follow each status. -/
def transitions : SideEffectStatus → List SideEffectStatus
  | .planned => [.authorized, .failed]
  | .authorized => [.started, .failed]
  | .started => [.completed, .failed, .uncertain]
  | .failed => [.authorized, .compensated]
  | .uncertain => [.completed, .failed, .compensated]
  | .completed => [.compensated]
  | .compensated => []

end SideEffectStatus

/-- A reading of `time.time()`, which is always finite. -/
abbrev Instant := { time : Float64 // time.IsFinite }

/-- `operation_id_for`: the stable identifier of an operation of a step. -/
def operationIdFor (tenantId runId stepId declaredOperation : Str) : Except Fault Str := do
  let values := [strip tenantId, strip runId, strip stepId, strip declaredOperation]
  raiseIf ([] ∈ values) ⟨.valueError, "operation_binding_required"⟩
  -- The four texts are framed as a JSON array before they are hashed.
  let rendered ← canonicalJson (.list (values.map .str))
  let digest ← sha256Text rendered
  return "op-" ++ digest.take 32

structure SideEffectRecord where
  (operationId tenantId workflowId runId stepId declaredOperation : Str)
  sideEffectClass : SideEffectClass
  status : SideEffectStatus := .planned
  revision : Int := 1
  fencingToken : Int := 0
  attemptId : Str := []
  authorizationEnvelopeId : Str := []
  resultRef : Str := []
  failureCode : Str := []
  updatedAt : Float64
  schema : Str := sideEffectLedgerSchema
  deriving DecidableEq

namespace SideEffectRecord

/-- `assert_valid`. -/
def assertValid (record : SideEffectRecord) : Except Fault Unit := do
  -- The types of the class and the status hold the admitted names only.
  raiseIf (record.operationId = [] ∨ record.tenantId = [] ∨ record.workflowId = [] ∨
    record.runId = [] ∨
    record.stepId = [] ∨ record.declaredOperation = [])
      ⟨.valueError, "side_effect_binding_required"⟩
  let expectedId ← operationIdFor record.tenantId record.runId record.stepId
    record.declaredOperation
  raiseIf (record.operationId ≠ expectedId) ⟨.valueError, "side_effect_operation_id_invalid"⟩
  raiseIf (record.revision < 1 ∨ record.fencingToken < 0) ⟨.valueError, "side_effect_state_invalid"⟩
  raiseIf (record.schema ≠ sideEffectLedgerSchema) ⟨.valueError, "side_effect_schema_unsupported"⟩

/-- `to_dict`. -/
def toDict (record : SideEffectRecord) : Value :=
  .dict
    [("schema", .str record.schema), ("operation_id", .str record.operationId),
      ("tenant_id", .str record.tenantId), ("workflow_id", .str record.workflowId),
      ("run_id", .str record.runId), ("step_id", .str record.stepId),
      ("declared_operation", .str record.declaredOperation),
      ("side_effect_class", .str record.sideEffectClass.name),
      ("status", .str (text record.status.label)), ("revision", .int record.revision),
      ("fencing_token", .int record.fencingToken), ("attempt_id", .str record.attemptId),
      ("authorization_envelope_id", .str record.authorizationEnvelopeId),
      ("result_ref", .str record.resultRef), ("failure_code", .str record.failureCode),
      ("updated_at", .float record.updatedAt)]

/-- `_binding`: what a record says of its operation, whatever its progress. -/
def binding (record : SideEffectRecord) : Str × Str × Str × Str × Str × SideEffectClass :=
  (record.tenantId, record.workflowId, record.runId, record.stepId, record.declaredOperation,
    record.sideEffectClass)

end SideEffectRecord

/-- `_new_record`: the planned record of an operation. -/
def newRecord (tenantId workflowId runId stepId declaredOperation sideEffectClass : Str)
    (timestamp : Float64) : Except Fault SideEffectRecord := do
  let operationId ← operationIdFor tenantId runId stepId declaredOperation
  -- The operation identifier already required the other four texts.
  raiseIf (strip workflowId = [] ∨ strip sideEffectClass = [])
    ⟨.valueError, "side_effect_binding_required"⟩
  match SideEffectClass.named (strip sideEffectClass) with
  | none => throw ⟨.valueError, "side_effect_class_invalid"⟩
  | some kind =>
    let record : SideEffectRecord :=
      { operationId, tenantId := strip tenantId, workflowId := strip workflowId,
        runId := strip runId,
        stepId := strip stepId, declaredOperation := strip declaredOperation,
        sideEffectClass := kind,
        updatedAt := timestamp }
    record.assertValid
    return record

/-- The keyword arguments of `_transition`, where an empty text keeps what the record holds. -/
structure TransitionRequest where
  expectedRevision : Int
  fencingToken : Int
  toStatus : SideEffectStatus
  attemptId : Str := []
  authorizationEnvelopeId : Str := []
  resultRef : Str := []
  failureCode : Str := []
  requireExactFence : Bool := false

namespace SideEffectRecord

/-- The record a transition leads to. -/
def advanced (current : SideEffectRecord) (request : TransitionRequest) (clock : Instant) :
    SideEffectRecord :=
  { current with
    status := request.toStatus
    revision := current.revision + 1
    fencingToken := request.fencingToken
    attemptId := orElse request.attemptId current.attemptId
    authorizationEnvelopeId :=
      orElse request.authorizationEnvelopeId current.authorizationEnvelopeId
    resultRef := orElse request.resultRef current.resultRef
    -- Unlike the other texts, an omitted failure code clears the old one.
    failureCode := request.failureCode
    updatedAt := clock.val }

/-- `_transition`. -/
def transition (current : SideEffectRecord) (request : TransitionRequest) (clock : Instant) :
    Except Fault SideEffectRecord := do
  raiseIf (current.revision ≠ request.expectedRevision)
    ⟨.optimisticConcurrencyError, "side_effect_revision_conflict:expected=" ++
      toString request.expectedRevision ++ ":actual=" ++ toString current.revision⟩
  raiseIf (request.fencingToken < current.fencingToken ∨
    (request.requireExactFence ∧ request.fencingToken ≠ current.fencingToken))
    ⟨.fencingTokenError, "side_effect_fencing_token_stale"⟩
  raiseIf (request.toStatus ∉ current.status.transitions)
    ⟨.invalidTransitionError, "side_effect_transition_invalid:" ++ current.status.label ++ ":" ++
      request.toStatus.label⟩
  let updated := current.advanced request clock
  updated.assertValid
  return updated

/-- What a transition requires, and what it leads to. -/
lemma transition_eq_ok {current updated : SideEffectRecord} {request : TransitionRequest}
    {clock : Instant} : current.transition request clock = .ok updated ↔
      current.revision = request.expectedRevision ∧ current.fencingToken ≤ request.fencingToken ∧
        (request.requireExactFence → request.fencingToken = current.fencingToken) ∧
        request.toStatus ∈ current.status.transitions ∧
        (current.advanced request clock).assertValid = .ok () ∧
        updated = current.advanced request clock := by
  -- Each guard contributes its negation, and the value returned is the advanced record.
  simp only [transition, ok_iff, not_or, not_not, not_and, not_lt]
  grind

end SideEffectRecord

end Ananta
