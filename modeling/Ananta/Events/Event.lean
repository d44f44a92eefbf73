import Ananta.Runtime.Redaction
import Ananta.Runtime.Serialization

/-! Canonical workflow events: their check, their content hash, and how they are re-parsed. -/

namespace Ananta

/-- `CANONICAL_WORKFLOW_EVENT_SCHEMA`. -/
def canonicalWorkflowEventSchema : Str := "ananta.workflow_event.v1"

/-- `DEFAULT_IDENTITY_MAX_LENGTH`. -/
def defaultIdentityMaxLength : Nat := 160

/-- An exception that names the field whose identity it rejects. -/
def identityFault (fieldName reason : String) : Fault :=
  ⟨.identityValidationError fieldName, fieldName ++ reason⟩

/-- `require_canonical_identity` of a required identity of the default length. -/
def requireCanonicalIdentity (value : Str) (fieldName : String) : Except Fault Str := do
  raiseIf (value = []) (identityFault fieldName "_required")
  raiseIf (value ≠ strip value) (identityFault fieldName "_not_canonical")
  raiseIf (defaultIdentityMaxLength < value.length) (identityFault fieldName "_too_long")
  raiseIf (value.any fun point => point.val < 32 || point.val == 127)
    (identityFault fieldName "_not_canonical")
  return value

/-- `CanonicalWorkflowEvent`. -/
structure CanonicalWorkflowEvent where
  (tenantId workflowId runId eventType correlationId causationId dedupeKey : Str)
  sequence : Int := 0
  stepId : Str := []
  attempt : Int := 0
  actor : Str := "system"
  occurredAt : Float64
  payload : Fields := []
  eventId : Str
  schema : Str := canonicalWorkflowEventSchema

namespace CanonicalWorkflowEvent

/-- The issue that `validate` reports for one identity, if any. -/
def identityIssues (fieldName : String) (value : Str) : List ContractIssue :=
  match requireCanonicalIdentity value fieldName with
  | .ok _ => []
  | .error fault => [{ code := fault.message, path := fieldName }]

/-- The issue that `validate` reports for one required text, if any. -/
def requiredIssues (fieldName : String) (value : Str) : List ContractIssue :=
  if value = [] then [{ code := fieldName ++ "_required", path := fieldName }] else []

variable (event : CanonicalWorkflowEvent)

/-- `validate`, where an unsequenced event may have the sequence number zero. -/
def validate (allowUnsequenced : Bool) : List ContractIssue :=
  identityIssues "tenant_id" event.tenantId ++ identityIssues "workflow_id" event.workflowId ++
    identityIssues "run_id" event.runId ++
  requiredIssues "event_type" event.eventType ++
    requiredIssues "correlation_id" event.correlationId ++
    requiredIssues "causation_id" event.causationId ++
      requiredIssues "dedupe_key" event.dedupeKey ++
    requiredIssues "event_id" event.eventId ++
  (if event.schema ≠ canonicalWorkflowEventSchema
    then [{ code := "workflow_event_schema_unsupported", path := "schema" }]
    else []) ++
  (if event.sequence < (if allowUnsequenced then 0 else 1)
    then [{ code := "sequence_invalid", path := "sequence" }]
    else []) ++
  (if event.attempt < 0 then [{ code := "attempt_invalid", path := "attempt" }] else []) ++
  (if event.occurredAt ≤ 0 then [{ code := "occurred_at_invalid", path := "occurred_at" }] else [])

/-- `ContractValidationError` with the issues found. -/
def contractFault (issues : List ContractIssue) : Fault :=
  ⟨.contractValidationError issues, ", ".intercalate (issues.map (·.code))⟩

/-- `assert_valid`. -/
def assertValid (allowUnsequenced : Bool) : Except Fault Unit :=
  raiseIf (event.validate allowUnsequenced ≠ []) (contractFault (event.validate allowUnsequenced))

/-- `with_sequence`. -/
def withSequence (sequence : Int) :
    Except Fault CanonicalWorkflowEvent := do
  let result := { event with sequence }
  result.assertValid false
  return result

/-- `to_dict`. -/
def toDict : Fields :=
  [("schema", .str event.schema), ("event_id", .str event.eventId),
    ("tenant_id", .str event.tenantId), ("workflow_id", .str event.workflowId),
    ("run_id", .str event.runId), ("step_id", .str event.stepId), ("attempt", .int event.attempt),
    ("event_type", .str event.eventType), ("actor", .str event.actor),
    ("correlation_id", .str event.correlationId), ("causation_id", .str event.causationId),
    ("sequence", .int event.sequence), ("dedupe_key", .str event.dedupeKey),
    ("occurred_at", .float event.occurredAt), ("payload", .dict event.payload)]

/-- The entries of `to_dict` that are left when the content hash drops two of them. -/
def content : Fields :=
  [("schema", .str event.schema), ("tenant_id", .str event.tenantId),
    ("workflow_id", .str event.workflowId), ("run_id", .str event.runId),
    ("step_id", .str event.stepId), ("attempt", .int event.attempt),
    ("event_type", .str event.eventType), ("actor", .str event.actor),
    ("correlation_id", .str event.correlationId), ("causation_id", .str event.causationId),
    ("dedupe_key", .str event.dedupeKey), ("occurred_at", .float event.occurredAt),
    ("payload", .dict event.payload)]

/-- `content_hash`, which leaves out the sequence number and the event identifier. -/
def contentHash : Except Fault Str :=
  sha256Json (.dict event.content)

/-- What `from_mapping` makes of the fields of a valid event before it checks them. -/
def parsed (raw : CanonicalWorkflowEvent) : CanonicalWorkflowEvent :=
  { tenantId := raw.tenantId
    workflowId := raw.workflowId
    runId := raw.runId
    eventType := strip raw.eventType
    correlationId := strip raw.correlationId
    causationId := strip raw.causationId
    -- A missing dedupe key is replaced by the event identifier.
    dedupeKey := strip (orElse raw.dedupeKey raw.eventId)
    sequence := raw.sequence
    stepId := strip raw.stepId
    attempt := raw.attempt
    actor := orElse (strip (orElse raw.actor "system")) "system"
    -- The time of a valid event is not zero, so neither default of the source applies.
    occurredAt := raw.occurredAt
    payload := redactFields raw.payload
    eventId := strip raw.eventId
    schema := orElse raw.schema canonicalWorkflowEventSchema }

/-- `from_mapping` of the dictionary of an event under the current schema, which needs no upcast. -/
def fromMapping (raw : CanonicalWorkflowEvent) : Except Fault CanonicalWorkflowEvent := do
  raw.parsed.assertValid false
  return raw.parsed

/-- `_clone_event`. -/
def clone : Except Fault CanonicalWorkflowEvent :=
  event.fromMapping

end CanonicalWorkflowEvent

end Ananta
