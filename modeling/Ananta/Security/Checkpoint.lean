import Ananta.Security.Mapping

/-! Workflow states and the signed checkpoints that carry them. -/

namespace Ananta

/-- `WORKFLOW_STATE_SCHEMA`. -/
def workflowStateSchema : Str := "ananta.workflow_state.v1"

/-- `SIGNED_CHECKPOINT_SCHEMA`. -/
def signedCheckpointSchema : Str := "ananta.workflow_checkpoint.v1"

/-- `WorkflowState`. -/
structure WorkflowState where
  businessData : Fields := []
  runtimeMetadata : Fields := []
  secretRefs : List Str := []
  artifactRefs : List Str := []
  openGates : List Str := []
  schema : Str := workflowStateSchema

namespace WorkflowState

/-- `assert_safe`. -/
def assertSafe (state : WorkflowState) : Except Fault Unit := do
  raiseIf (state.schema ≠ workflowStateSchema) (contractError "workflow_state_schema_unsupported")
  raiseIf (containsSensitiveKeys (.dict state.businessData) ∨
    containsSensitiveKeys (.dict state.runtimeMetadata))
    (contractError "workflow_state_embedded_secret_denied")
  raiseIf (∃ reference ∈ state.secretRefs ++ state.artifactRefs ++ state.openGates,
    strip reference = []) (contractError "workflow_state_empty_reference")
  raiseIf (∃ reference ∈ state.secretRefs, ¬ "://" <:+: reference)
    (contractError "workflow_state_secret_reference_invalid")

/-- `from_mapping`. -/
def fromMapping (upcaster : Upcaster) (mapping : Fields) : Except Fault WorkflowState := do
  let raw ← upcastForLoading upcaster "state" workflowStateSchema mapping
  let businessData ← fieldsAt raw "business_data"
  let runtimeMetadata ← fieldsAt raw "runtime_metadata"
  let secretRefs ← textsAt raw "secret_refs"
  let artifactRefs ← textsAt raw "artifact_refs"
  let openGates ← textsAt raw "open_gates"
  let state : WorkflowState :=
    { businessData, runtimeMetadata, secretRefs := cleanTuple secretRefs,
      artifactRefs := cleanTuple artifactRefs,
      openGates := cleanTuple openGates,
      schema := orElse (textAt raw "schema") workflowStateSchema }
  state.assertSafe
  return state

/-- The mapping of a state that is safe. -/
def fields (state : WorkflowState) : Fields :=
  [("schema", .str state.schema), ("business_data", .dict (redactFields state.businessData)),
    ("runtime_metadata", .dict (redactFields state.runtimeMetadata)),
    ("secret_refs", .list (state.secretRefs.map .str)),
    ("artifact_refs", .list (state.artifactRefs.map .str)),
    ("open_gates", .list (state.openGates.map .str))]

/-- `to_dict`. -/
def toDict (state : WorkflowState) : Except Fault Fields := do
  state.assertSafe
  return state.fields

end WorkflowState

/-- `SignedCheckpoint`. -/
structure SignedCheckpoint where
  (checkpointId tenantId workflowId runId taskId planHash policyVersion runtimeId runtimeVersion :
    Str)
  state : WorkflowState
  revision : Int
  fencingToken : Int
  createdAt : Float64
  keyId : Str
  signature : Str
  schema : Str := signedCheckpointSchema

structure CheckpointBindings where
  (tenantId workflowId runId taskId planHash policyVersion : Str)

/-- The arguments of `SignedCheckpoint.issue`, with the identifier that it falls back to and its
clock. -/
structure CheckpointRequest where
  (tenantId workflowId runId taskId planHash policyVersion runtimeId runtimeVersion : Str)
  state : WorkflowState
  revision : Int
  fencingToken : Int
  now : Float64
  checkpointId : Str
  generatedId : Str

namespace SignedCheckpoint

variable (checkpoint : SignedCheckpoint)

/-- `_assert_structure`. -/
def assertStructure : Except Fault Unit := do
  raiseIf (checkpoint.schema ≠ signedCheckpointSchema)
    (contractError "checkpoint_schema_unsupported")
  raiseIf ([] ∈ [checkpoint.checkpointId, checkpoint.tenantId, checkpoint.workflowId,
    checkpoint.runId,
      checkpoint.taskId, checkpoint.planHash, checkpoint.policyVersion, checkpoint.runtimeId,
      checkpoint.runtimeVersion, checkpoint.keyId])
    (contractError "checkpoint_binding_required")
  raiseIf (checkpoint.revision < 1 ∨ checkpoint.fencingToken < 1 ∨ checkpoint.createdAt ≤ 0)
    (contractError "checkpoint_revision_or_fencing_invalid")
  checkpoint.state.assertSafe

/-- The mapping of a checkpoint without its signature, around the mapping of its state. -/
def unsignedFields (state : Fields) : Fields :=
  [("schema", .str checkpoint.schema), ("checkpoint_id", .str checkpoint.checkpointId),
    ("tenant_id", .str checkpoint.tenantId), ("workflow_id", .str checkpoint.workflowId),
    ("run_id", .str checkpoint.runId), ("task_id", .str checkpoint.taskId),
    ("plan_hash", .str checkpoint.planHash), ("policy_version", .str checkpoint.policyVersion),
    ("runtime_id", .str checkpoint.runtimeId), ("runtime_version", .str checkpoint.runtimeVersion),
    ("state", .dict state), ("revision", .int checkpoint.revision),
    ("fencing_token", .int checkpoint.fencingToken), ("created_at", .float checkpoint.createdAt),
    ("key_id", .str checkpoint.keyId)]

/-- `_signing_payload`, which is `to_dict` without the signature. -/
def signingPayload : Except Fault Fields := do
  let state ← checkpoint.state.toDict
  return checkpoint.unsignedFields state

/-- `to_dict`. -/
def toDict : Except Fault Fields := do
  let payload ← checkpoint.signingPayload
  return payload ++ [(text "signature", .str checkpoint.signature)]

/-- `issue`. -/
def issue (keyRing : SigningKeyRing) (request : CheckpointRequest) :
    Except Fault SignedCheckpoint := do
  request.state.assertSafe
  let unsigned : SignedCheckpoint :=
    { checkpointId := orElse request.checkpointId request.generatedId,
      tenantId := strip request.tenantId,
      workflowId := strip request.workflowId, runId := strip request.runId,
      taskId := strip request.taskId,
      planHash := strip request.planHash, policyVersion := strip request.policyVersion,
      runtimeId := strip request.runtimeId, runtimeVersion := strip request.runtimeVersion,
      state := request.state, revision := request.revision, fencingToken := request.fencingToken,
      createdAt := request.now, keyId := keyRing.activeKeyId, signature := [] }
  unsigned.assertStructure
  let payload ← unsigned.signingPayload
  let (keyId, signature) ← keyRing.sign signedCheckpointSchema payload unsigned.keyId
  return { unsigned with keyId, signature }

/-- `from_mapping`. -/
def fromMapping (upcaster : Upcaster) (mapping : Fields) : Except Fault SignedCheckpoint := do
  let raw ← upcastForLoading upcaster "checkpoint" signedCheckpointSchema mapping
  let stateFields ← fieldsAt raw "state"
  let state ← WorkflowState.fromMapping upcaster stateFields
  let revision ← intAt raw "revision"
  let fencingToken ← intAt raw "fencing_token"
  let createdAt ← floatAt raw "created_at"
  return {
    checkpointId := textAt raw "checkpoint_id", tenantId := textAt raw "tenant_id",
    workflowId := textAt raw "workflow_id", runId := textAt raw "run_id",
    taskId := textAt raw "task_id",
    planHash := textAt raw "plan_hash", policyVersion := textAt raw "policy_version",
    runtimeId := textAt raw "runtime_id", runtimeVersion := textAt raw "runtime_version",
    state, revision, fencingToken, createdAt, keyId := textAt raw "key_id",
    signature := textAt raw "signature",
    schema := orElse (textAt raw "schema") signedCheckpointSchema }

/-- `verify`. -/
def verify (keyRing : VerificationKeyRing) (bindings : CheckpointBindings) (minFencingToken : Int)
    (checkpoint : SignedCheckpoint) : Except Fault Unit := do
  checkpoint.assertStructure
  assertBindings "checkpoint" [("tenant_id", checkpoint.tenantId, bindings.tenantId),
    ("workflow_id", checkpoint.workflowId, bindings.workflowId),
    ("run_id", checkpoint.runId, bindings.runId), ("task_id", checkpoint.taskId, bindings.taskId),
    ("plan_hash", checkpoint.planHash, bindings.planHash),
    ("policy_version", checkpoint.policyVersion, bindings.policyVersion)]
  raiseIf (checkpoint.fencingToken < minFencingToken)
    (signatureError "checkpoint_fencing_token_stale")
  let payload ← checkpoint.signingPayload
  keyRing.verify signedCheckpointSchema payload checkpoint.keyId checkpoint.signature
    checkpoint.checkpointId

/-- `_clone_checkpoint`. -/
def clone (upcaster : Upcaster) (checkpoint : SignedCheckpoint) :
    Except Fault SignedCheckpoint := do
  let mapping ← checkpoint.toDict
  fromMapping upcaster mapping

end SignedCheckpoint

end Ananta
