import Ananta.Runtime.Identity

/-! The record of one lease revision and its strict re-hydration. -/

namespace Ananta

def executionOwnershipSchema : Str := "ananta.execution_ownership.v1"

/-- `_OWNERSHIP_MAX_COUNTER`. -/
def ownershipMaxCounter : Int := 2 ^ 63 - 1

/-- `_OWNERSHIP_MAX_LEGACY_REVISION`. -/
def ownershipMaxLegacyRevision : Int := 2147483647

/-- `OWNERSHIP_STATUSES`. -/
inductive OwnershipStatus where
  | active
  | completed
  | failed
  | orphaned
  | deadLetter
  deriving DecidableEq

def OwnershipStatus.name : OwnershipStatus → Str
  | .active => "active"
  | .completed => "completed"
  | .failed => "failed"
  | .orphaned => "orphaned"
  | .deadLetter => "dead_letter"

/-- One revision of the lease on a step. -/
structure ExecutionOwnership where
  (tenantId workflowId runId stepId attemptId ownerId : Str)
  fencingToken : Int
  revision : Int
  status : OwnershipStatus
  leaseExpiresAt : Float64
  lastHeartbeatAt : Float64
  resultAckKey : Str := []
  failureCode : Str := []
  schema : Str := executionOwnershipSchema
  deriving DecidableEq

def reservationConflict (reason : String) : Fault :=
  ⟨.transitionOwnershipReservationConflict, "workflow_transition_ownership_" ++ reason⟩

def ownershipField {α : Type} (accepted : α → Prop) [DecidablePred accepted] (value : α)
    (reason : String) : Except Fault α := do
  raiseIf (¬ accepted value) (reservationConflict (reason ++ "_invalid"))
  return value

@[simp] lemma ownershipField_eq_ok {α : Type} {accepted : α → Prop} [DecidablePred accepted]
    {value result : α} {reason : String} :
    ownershipField accepted value reason = .ok result ↔ accepted value ∧ result = value := by
  simp only [ownershipField, ok_iff, not_not, exists_const]

/-- `_ownership_identity`. -/
def ownershipIdentity (value : Str) (reason : String) : Except Fault Str :=
  ownershipField IsIdentity value reason

/-- `_ownership_legacy_text`. -/
def ownershipLegacyText (value : Str) (reason : String) (empty : Bool) : Except Fault Str :=
  ownershipField (fun value => (empty ∨ value ≠ []) ∧ Encodable value) value reason

/-- `_ownership_sha256`. -/
def ownershipSha256 (value : Str) (reason : String) : Except Fault Str :=
  ownershipField IsSha256 value reason

/-- `_ownership_positive_integer`. -/
def ownershipPositiveInteger (value : Int) (reason : String) : Except Fault Int :=
  ownershipField (fun value => 1 ≤ value ∧ value ≤ ownershipMaxCounter) value reason

/-- `_ownership_positive_legacy_counter`, which bounds the same field a second time. -/
def ownershipPositiveLegacyCounter (value : Int) (reason : String) : Except Fault Int := do
  let result ← ownershipPositiveInteger value reason
  ownershipField (· ≤ ownershipMaxLegacyRevision) result reason

/-- `_ownership_non_negative_integer`. -/
def ownershipNonNegativeInteger (value : Int) (reason : String) : Except Fault Int :=
  ownershipField (fun value => 0 ≤ value ∧ value ≤ ownershipMaxCounter) value reason

/-- `_ownership_exact_positive_float`, `_ownership_exact_timestamp` and
`_ownership_finite_timestamp`. -/
def ownershipTimestamp (value : Float64) (reason : String) : Except Fault Float64 :=
  ownershipField IsTimestamp value reason

/-- The second bound subsumes the first one's upper end. -/
@[simp] lemma ownershipPositiveLegacyCounter_eq_ok {value result : Int} {reason : String} :
    ownershipPositiveLegacyCounter value reason = .ok result ↔
      (1 ≤ value ∧ value ≤ ownershipMaxLegacyRevision) ∧ result = value := by
  have narrower : ownershipMaxLegacyRevision ≤ ownershipMaxCounter := by decide
  simp only [ownershipPositiveLegacyCounter, ownershipPositiveInteger, bind_eq_ok,
    ownershipField_eq_ok]
  constructor
  · rintro ⟨_, ⟨⟨positive, _⟩, rfl⟩, bounded, rfl⟩
    exact ⟨⟨positive, bounded⟩, rfl⟩
  · rintro ⟨⟨positive, bounded⟩, rfl⟩
    exact ⟨result, ⟨⟨positive, bounded.trans narrower⟩, rfl⟩, bounded, rfl⟩

namespace ExecutionOwnership

variable (record : ExecutionOwnership)

/-- `assert_valid`: the bindings are present and both counters are positive. -/
def assertValid : Except Fault Unit := do
  raiseIf (record.tenantId = [] ∨ record.workflowId = [] ∨ record.runId = [] ∨ record.stepId = [] ∨
    record.attemptId = [] ∨ record.ownerId = [])
      ⟨.valueError, "execution_ownership_binding_required"⟩
  -- The status type holds the admitted statuses only, so its check never fires.
  raiseIf (record.fencingToken < 1 ∨ record.revision < 1)
    ⟨.valueError, "execution_ownership_fencing_invalid"⟩
  raiseIf (record.schema ≠ executionOwnershipSchema)
    ⟨.valueError, "execution_ownership_schema_unsupported"⟩

/-- What `assert_valid` requires of a record. -/
@[mk_iff] structure Valid : Prop where
  tenant : record.tenantId ≠ []
  workflow : record.workflowId ≠ []
  run : record.runId ≠ []
  step : record.stepId ≠ []
  attempt : record.attemptId ≠ []
  owner : record.ownerId ≠ []
  fence : 1 ≤ record.fencingToken
  revision : 1 ≤ record.revision
  schema : record.schema = executionOwnershipSchema

/-- The check accepts exactly the valid records. -/
lemma assertValid_eq_ok {record : ExecutionOwnership} : record.assertValid = .ok () ↔
    record.Valid := by
  simp only [assertValid, ok_iff, exists_and_left, not_or, not_lt, ne_eq, not_not, exists_const,
    valid_iff, and_assoc]

/-- `to_dict`. -/
def toDict : Value :=
  .dict
    [("schema", .str record.schema), ("tenant_id", .str record.tenantId),
      ("workflow_id", .str record.workflowId), ("run_id", .str record.runId),
      ("step_id", .str record.stepId), ("attempt_id", .str record.attemptId),
      ("owner_id", .str record.ownerId), ("fencing_token", .int record.fencingToken),
      ("revision", .int record.revision), ("status", .str record.status.name),
      ("lease_expires_at", .float record.leaseExpiresAt),
      ("last_heartbeat_at", .float record.lastHeartbeatAt),
      ("result_ack_key", .str record.resultAckKey), ("failure_code", .str record.failureCode)]

/-- `from_exact_mapping(raw.to_dict())`, where the mapping has exactly the record's fields. -/
def fromExactMapping (raw : ExecutionOwnership) : Except Fault ExecutionOwnership := do
  let tenantId ← ownershipLegacyText raw.tenantId "tenant_id" false
  let workflowId ← ownershipLegacyText raw.workflowId "workflow_id" false
  let runId ← ownershipLegacyText raw.runId "run_id" false
  let stepId ← ownershipLegacyText raw.stepId "step_id" false
  let attemptId ← ownershipLegacyText raw.attemptId "attempt_id" false
  let ownerId ← ownershipLegacyText raw.ownerId "owner_id" false
  let fencingToken ← ownershipPositiveLegacyCounter raw.fencingToken "fencing_token"
  let revision ← ownershipPositiveLegacyCounter raw.revision "revision"
  let leaseExpiresAt ← ownershipTimestamp raw.leaseExpiresAt "lease_expires_at"
  let lastHeartbeatAt ← ownershipTimestamp raw.lastHeartbeatAt "last_heartbeat_at"
  let resultAckKey ← ownershipLegacyText raw.resultAckKey "result_ack_key" true
  let failureCode ← ownershipLegacyText raw.failureCode "failure_code" true
  raiseIf (raw.schema ≠ executionOwnershipSchema) (reservationConflict "schema_unsupported")
  let value : ExecutionOwnership :=
    { tenantId, workflowId, runId, stepId, attemptId, ownerId, fencingToken, revision,
      status := raw.status, leaseExpiresAt, lastHeartbeatAt, resultAckKey, failureCode,
      schema := raw.schema }
  raiseIf (value.status = .active ∧ (value.resultAckKey ≠ [] ∨ value.failureCode ≠ []))
    ⟨.valueError, "execution_ownership_active_terminal_fields_invalid"⟩
  raiseIf (value.status = .completed ∧ (value.resultAckKey = [] ∨ value.failureCode ≠ []))
    ⟨.valueError, "execution_ownership_completion_fields_invalid"⟩
  raiseIf (value.status ∈ [.failed, .orphaned, .deadLetter] ∧
    (value.failureCode = [] ∨ value.resultAckKey ≠ []))
    ⟨.valueError, "execution_ownership_failure_fields_invalid"⟩
  return value

def TerminalFields : Prop :=
  match record.status with
  | .active => record.resultAckKey = [] ∧ record.failureCode = []
  | .completed => record.resultAckKey ≠ [] ∧ record.failureCode = []
  | .failed | .orphaned | .deadLetter => record.failureCode ≠ [] ∧ record.resultAckKey = []

/-- What strict re-hydration requires of a record. -/
structure Exact : Prop where
  tenant : record.tenantId ≠ [] ∧ Encodable record.tenantId
  workflow : record.workflowId ≠ [] ∧ Encodable record.workflowId
  run : record.runId ≠ [] ∧ Encodable record.runId
  step : record.stepId ≠ [] ∧ Encodable record.stepId
  attempt : record.attemptId ≠ [] ∧ Encodable record.attemptId
  owner : record.ownerId ≠ [] ∧ Encodable record.ownerId
  fence : 1 ≤ record.fencingToken ∧ record.fencingToken ≤ ownershipMaxLegacyRevision
  revision : 1 ≤ record.revision ∧ record.revision ≤ ownershipMaxLegacyRevision
  lease : IsTimestamp record.leaseExpiresAt
  heartbeat : IsTimestamp record.lastHeartbeatAt
  resultAckKey : Encodable record.resultAckKey
  failureCode : Encodable record.failureCode
  schema : record.schema = executionOwnershipSchema
  terminal : record.TerminalFields

private lemma terminalFields_iff : record.TerminalFields ↔
      ¬ (record.status = .active ∧ (record.resultAckKey ≠ [] ∨ record.failureCode ≠ [])) ∧
      ¬ (record.status = .completed ∧ (record.resultAckKey = [] ∨ record.failureCode ≠ [])) ∧
      ¬ (record.status ∈ [OwnershipStatus.failed, .orphaned, .deadLetter] ∧
        (record.failureCode = [] ∨ record.resultAckKey ≠ [])) := by
  cases status : record.status <;> simp [TerminalFields, status]

/-- Strict re-hydration returns exactly the exact records, unchanged. -/
lemma fromExactMapping_eq_ok {raw value : ExecutionOwnership} :
    raw.fromExactMapping = .ok value ↔ raw.Exact ∧ value = raw := by
  simp only [fromExactMapping, ownershipLegacyText, ownershipTimestamp, ok_iff,
    ownershipField_eq_ok, ownershipPositiveLegacyCounter_eq_ok]
  constructor
  · rintro ⟨_, ⟨tenant, rfl⟩, _, ⟨workflow, rfl⟩, _, ⟨run, rfl⟩, _, ⟨step, rfl⟩, _, ⟨attempt, rfl⟩,
      _, ⟨owner, rfl⟩, _, ⟨fence, rfl⟩, _, ⟨revision, rfl⟩, _, ⟨lease, rfl⟩, _, ⟨heartbeat, rfl⟩, _,
      ⟨ack, rfl⟩, _, ⟨failure, rfl⟩, _, schema, _, active, _, completed, _, failed, same⟩
    cases same
    simp only [Bool.false_eq_true, false_or] at tenant workflow run step attempt owner
    exact ⟨⟨tenant, workflow, run, step, attempt, owner, fence, revision, lease, heartbeat, ack.2,
      failure.2, not_not.mp schema, (terminalFields_iff raw).mpr ⟨active, completed, failed⟩⟩, rfl⟩
  · rintro ⟨exact, rfl⟩
    obtain ⟨active, completed, failed⟩ := (terminalFields_iff value).mp exact.terminal
    exact ⟨_, ⟨⟨.inr exact.tenant.1, exact.tenant.2⟩, rfl⟩,
      _, ⟨⟨.inr exact.workflow.1, exact.workflow.2⟩, rfl⟩, _,
        ⟨⟨.inr exact.run.1, exact.run.2⟩, rfl⟩,
      _, ⟨⟨.inr exact.step.1, exact.step.2⟩, rfl⟩, _,
        ⟨⟨.inr exact.attempt.1, exact.attempt.2⟩, rfl⟩,
      _, ⟨⟨.inr exact.owner.1, exact.owner.2⟩, rfl⟩, _, ⟨exact.fence, rfl⟩, _,
        ⟨exact.revision, rfl⟩,
      _, ⟨exact.lease, rfl⟩, _, ⟨exact.heartbeat, rfl⟩, _,
        ⟨⟨.inl trivial, exact.resultAckKey⟩, rfl⟩,
      _, ⟨⟨.inl trivial, exact.failureCode⟩, rfl⟩, (), not_not.mpr exact.schema, (), active, (),
        completed,
      (), failed, rfl⟩

end ExecutionOwnership

/-- `_exact_optional_ownership`. -/
def exactOptionalOwnership : Option ExecutionOwnership → Except Fault (Option ExecutionOwnership)
  | none => return none
  | some record => do
    let hydrated ← record.fromExactMapping
    return some hydrated

/-- Strict re-hydration of an optional record. -/
lemma exactOptionalOwnership_eq_ok {record hydrated : Option ExecutionOwnership} :
    exactOptionalOwnership record = .ok hydrated ↔
      (∀ value ∈ record, value.Exact) ∧ hydrated = record := by
  cases record with
  | none => simp [exactOptionalOwnership, pure_eq_ok]
  | some value =>
    simp only [exactOptionalOwnership, ok_iff, ExecutionOwnership.fromExactMapping_eq_ok,
      Option.mem_some_iff, forall_eq']
    simp_all

end Ananta
