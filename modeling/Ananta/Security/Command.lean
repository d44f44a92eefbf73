import Ananta.Python.Values
import Ananta.Runtime.Redaction
import Ananta.Runtime.Serialization
import Ananta.Security.Envelope

/-! Signed workflow commands: their structure, and the checks that accept them. -/

namespace Ananta

/-- `WorkflowCommandType`. -/
inductive WorkflowCommandType where
  | approve
  | reject
  | edit
  | requestChanges
  | pause
  | resume
  | cancel
  | retry
  | parameterUpdate
  deriving DecidableEq

namespace WorkflowCommandType

/-- The value of a member. -/
def name : WorkflowCommandType → Str
  | approve => "approve"
  | reject => "reject"
  | edit => "edit"
  | requestChanges => "request_changes"
  | pause => "pause"
  | resume => "resume"
  | cancel => "cancel"
  | retry => "retry"
  | parameterUpdate => "parameter_update"

/-- All members. -/
def all : List WorkflowCommandType :=
  [approve, reject, edit, requestChanges, pause, resume, cancel, retry, parameterUpdate]

end WorkflowCommandType

/-- `LEGACY_COMMAND_SCHEMA`. -/
def legacyCommandSchema : Str := "ananta.workflow_command.v2"

/-- `WORKFLOW_COMMAND_SCHEMA`. -/
def workflowCommandSchema : Str := "ananta.workflow_command.v3"

/-- `_COMMAND_MAX_SAFE_INTEGER`. -/
def commandMaxSafeInteger : Int := 9007199254740991

/-- `contains_sensitive_keys`. -/
def containsSensitiveKeys (value : Value) : Bool := redactJson value ≠ value

/-- `SignedWorkflowCommand`. -/
structure SignedWorkflowCommand where
  (commandId commandType tenantId workflowId runId stepId checkpointId : Str)
  expectedRevision : Int
  (planHash policyVersion actorId : Str)
  actorRoles : List Str
  payload : Fields
  issuedAt : Float64
  expiresAt : Float64
  (nonce keyId signature : Str)
  signatureAlgorithm : Str := []
  payloadDigest : Str := []
  schema : Str := workflowCommandSchema

structure CommandBindings where
  (tenantId workflowId runId stepId checkpointId : Str)
  expectedRevision : Int
  planHash : Str
  policyVersion : Str

/-- `_valid_hmac_signature`. -/
def validHmacSignature (value : Str) : Bool :=
  value.length == 64 && (lower value).all isLowerHex && value.all (·.val < 128)

def isBase64Point (point : CodePoint) : Bool := isAlphanumeric point || (text "+/").contains point

/-- `_valid_ed25519_signature`: the padded base64 text of sixty-four bytes. -/
def validEd25519Signature (value : Str) : Bool :=
  value.length == 88 && (value.take 86).all isBase64Point && value.drop 86 == "=="

/-- `payload.get(key)`. -/
def payloadGet (payload : Fields) (key : String) : Value :=
  ((payload.find? (·.1 = text key)).map (·.2)).getD .none

/-- `str(...)` of a payload entry, as far as it can be a hexadecimal text. -/
def digitsOf : Value → Str
  | .str value => value
  | .int value => decimal value
  | _ => []

namespace SignedWorkflowCommand

variable (command : SignedWorkflowCommand)

/-- `_workflow_command_semantic_payload` of a command. -/
def semanticPayload : Fields :=
  [("schema", .str "ananta.workflow-command-semantic-payload.v1"),
    ("command_id", .str command.commandId), ("command_type", .str command.commandType),
    ("tenant_id", .str command.tenantId), ("workflow_id", .str command.workflowId),
    ("run_id", .str command.runId), ("step_id", .str command.stepId),
    ("checkpoint_id", .str command.checkpointId),
    ("expected_revision", .int command.expectedRevision), ("plan_hash", .str command.planHash),
    ("policy_version", .str command.policyVersion), ("actor_id", .str command.actorId),
    ("actor_roles", .list (command.actorRoles.map .str)), ("payload", .dict command.payload)]

/-- `computed_payload_digest`. -/
def computedPayloadDigest : Except Fault Str := do
  raiseIf (¬ (0 ≤ command.expectedRevision ∧ command.expectedRevision ≤ commandMaxSafeInteger))
    (Fault.mk .temporalContractError "invalid_command_revision")
  match sha256Json (.dict command.semanticPayload) with
  | .ok digest => return "sha256:" ++ digest
  | .error _ => .error ⟨.temporalContractError, "invalid_command_payload_digest"⟩

/-- `signing_payload`, which is `to_dict` without the signature. -/
def signingPayload : Fields :=
  ([("schema", .str command.schema), ("command_id", .str command.commandId),
    ("command_type", .str command.commandType), ("tenant_id", .str command.tenantId),
    ("workflow_id", .str command.workflowId), ("run_id", .str command.runId),
    ("step_id", .str command.stepId), ("checkpoint_id", .str command.checkpointId),
    ("expected_revision", .int command.expectedRevision), ("plan_hash", .str command.planHash),
    ("policy_version", .str command.policyVersion), ("actor_id", .str command.actorId),
    ("actor_roles", .list (command.actorRoles.map .str)), ("payload", .dict command.payload),
    ("issued_at", .float command.issuedAt), ("expires_at", .float command.expiresAt),
    ("nonce", .str command.nonce), ("key_id", .str command.keyId)] : Fields) ++
  if command.schema = workflowCommandSchema then
    [(text "signature_algorithm", .str command.signatureAlgorithm),
      (text "payload_digest", .str command.payloadDigest)]
  else []

def assertEdit : Except Fault Unit := do
  raiseIf ((payloadGet command.payload "plan_ref").truthy = false ∧
      (payloadGet command.payload "replacement_plan").truthy = false)
    (contractError "workflow_command_plan_edit_required")
  raiseIf (validHmacSignature (digitsOf (payloadGet command.payload "replacement_plan_hash")) =
    false) (contractError "workflow_command_replacement_plan_hash_required")

/-- What the schema of a command says of its algorithm and its digest. -/
def assertAuthority : Except Fault Unit :=
  if command.schema = legacyCommandSchema then
    raiseIf (command.signatureAlgorithm ≠ [] ∨ command.payloadDigest ≠ [])
      (contractError "legacy_command_authority_fields_forbidden")
  else do
    raiseIf (command.signatureAlgorithm ∉ [text "ed25519", text "hmac-sha256"])
      (contractError "unsupported_command_signature_algorithm")
    let computed ← command.computedPayloadDigest
    raiseIf (∃ point ∈ command.payloadDigest, 128 ≤ point.val)
      (Fault.mk .typeError "comparing strings with non-ASCII characters is not supported")
    raiseIf (command.payloadDigest ≠ computed) (contractError "invalid_command_payload_digest")

/-- Whether the signature has the form that the algorithm asks for. -/
def validSignature : Bool :=
  if command.signatureAlgorithm = "ed25519" ∨
      command.schema = legacyCommandSchema ∧ validHmacSignature command.signature = false then
    validEd25519Signature command.signature
  else validHmacSignature command.signature

/-- `_assert_structure`. -/
def assertStructure : Except Fault Unit := do
  raiseIf (command.schema ∉ [legacyCommandSchema, workflowCommandSchema])
    (contractError "workflow_command_schema_unsupported")
  raiseIf ([] ∈ [command.commandId, command.commandType, command.tenantId, command.workflowId,
      command.runId, command.stepId, command.checkpointId, command.planHash, command.policyVersion,
      command.actorId, command.nonce, command.keyId])
    (contractError "workflow_command_binding_required")
  raiseIf (command.commandType ∉ WorkflowCommandType.all.map (·.name))
    (contractError "workflow_command_type_unsupported")
  raiseIf (command.expectedRevision < 0) (contractError "workflow_command_revision_invalid")
  raiseIf (command.expiresAt ≤ command.issuedAt) (contractError "workflow_command_expiry_invalid")
  raiseIf (containsSensitiveKeys (.dict command.payload))
    (contractError "workflow_command_embedded_secret_denied")
  let rendered ← canonicalJson (.dict command.payload)
  raiseIf (¬ Encodable rendered) (Fault.mk .unicodeEncodeError "surrogates not allowed")
  raiseIf (65536 < (rendered.flatMap utf8Bytes).length)
    (contractError "workflow_command_payload_too_large")
  if command.commandType ∈ [text "edit", text "request_changes"] then command.assertEdit
  command.assertAuthority
  raiseIf (command.validSignature = false) (contractError "workflow_command_signature_invalid")

/-- `verify` at a reading of the clock. -/
def verify (keyRing : VerificationKeyRing) (bindings : CommandBindings) (now : Float64)
    (command : SignedWorkflowCommand) : Except Fault Unit := do
  assertBindings "workflow_command" [("tenant_id", command.tenantId, bindings.tenantId),
    ("workflow_id", command.workflowId, bindings.workflowId),
    ("run_id", command.runId, bindings.runId), ("step_id", command.stepId, bindings.stepId),
    ("checkpoint_id", command.checkpointId, bindings.checkpointId),
    ("expected_revision", decimal command.expectedRevision, decimal bindings.expectedRevision),
    ("plan_hash", command.planHash, bindings.planHash),
    ("policy_version", command.policyVersion, bindings.policyVersion)]
  raiseIf (now < command.issuedAt) (signatureError "workflow_command_not_yet_valid")
  raiseIf (command.expiresAt ≤ now) (signatureError "workflow_command_expired")
  raiseIf (command.signatureAlgorithm ≠ [] ∧
    command.signatureAlgorithm ≠ keyRing.signatureAlgorithm)
    (signatureError "workflow_command_signature_algorithm_mismatch")
  keyRing.verify command.schema command.signingPayload command.keyId command.signature
    command.commandId
  command.assertStructure

end SignedWorkflowCommand

end Ananta
