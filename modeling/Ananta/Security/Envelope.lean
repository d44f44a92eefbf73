import Ananta.Library.Dict
import Ananta.Python.Values
import Ananta.Security.Provider

/-! Signed authorization envelopes, the key rings behind them and the checks that accept them. -/

namespace Ananta

inductive Number where
  | int (value : Int)
  | float (value : Float64)
  deriving DecidableEq

namespace Number

/-- The comparison `<`, which Python makes without rounding. -/
def Below : Number → Number → Prop
  | .int left, .int right => left < right
  | .float left, .float right => left < right
  | .int left, .float (.finite units _) => left * Float64.unitsPerOne < units
  | .int _, .float (.infinity negative) => negative = false
  | .int left, .float .negativeZero => left < 0
  | .float .negativeZero, .int right => 0 < right
  | .float (.finite units _), .int right => units < right * Float64.unitsPerOne
  | .float (.infinity negative), .int _ => negative = true
  | .int _, .float .nan => False
  | .float .nan, .int _ => False

instance : (left right : Number) → Decidable (left.Below right)
  | .int left, .int right => inferInstanceAs (Decidable (left < right))
  | .float left, .float right => inferInstanceAs (Decidable (left < right))
  | .int left, .float (.finite units _) =>
    inferInstanceAs (Decidable (left * Float64.unitsPerOne < units))
  | .int _, .float (.infinity negative) => inferInstanceAs (Decidable (negative = false))
  | .int left, .float .negativeZero => inferInstanceAs (Decidable (left < 0))
  | .float .negativeZero, .int right => inferInstanceAs (Decidable (0 < right))
  | .float (.finite units _), .int right =>
    inferInstanceAs (Decidable (units < right * Float64.unitsPerOne))
  | .float (.infinity negative), .int _ => inferInstanceAs (Decidable (negative = true))
  | .int _, .float .nan => .isFalse id
  | .float .nan, .int _ => .isFalse id

/-- `int(...)`, which truncates a finite float and raises for any other. -/
def truncated : Number → Except Fault Int
  | .int value => .ok value
  | .float value => Value.floatInt value

def toValue : Number → Value
  | .int value => .int value
  | .float value => .float value

end Number

/-- `_clean_tuple`. -/
def cleanTuple (values : List Str) : List Str :=
  ((values.map strip).filter (· ≠ [])).dedup.insertionSort (· ≤ ·)

/-- `_normalize_budgets`. -/
def normalizeBudgets (values : Fields) : Except Fault (List (Str × Number)) := do
  let normalized ← values.foldlM (fun (normalized : Dict Str Number) (field : Str × Value) =>
    let name := strip field.1
    match field.2 with
    | .int value => do
      raiseIf (name = []) (contractError "authorization_budget_invalid")
      return normalized.set name (.int value)
    | .float value => do
      raiseIf (name = []) (contractError "authorization_budget_invalid")
      return normalized.set name (.float value)
    | _ => .error (contractError "authorization_budget_invalid")) Dict.empty
  return Value.sortFields normalized.entries

def budgetFields (budgets : List (Str × Number)) : Fields :=
  budgets.map fun field => (field.1, field.2.toValue)

/-- `SignatureVerificationKeyRingPort`, whose crypto errors are signature errors to its callers. -/
structure VerificationKeyRing where
  signatureAlgorithm : Str
  verify : (space : Str) → (payload : Fields) → (keyId signature contractId : Str) →
    Except Fault Unit

/-- `SignatureSigningKeyRingPort`. -/
structure SigningKeyRing extends VerificationKeyRing where
  activeKeyId : Str
  sign : (space : Str) → (payload : Fields) → (keyId : Str) → Except Fault (Str × Str)

/-- `AUTHORIZATION_ENVELOPE_SCHEMA`. -/
def authorizationEnvelopeSchema : Str := "ananta.runtime_authorization.v1"

/-- `RuntimeAuthorizationEnvelope`. -/
structure RuntimeAuthorizationEnvelope where
  (envelopeId tenantId workflowId runId stepId planHash policyVersion : Str)
  allowedTools : List Str
  allowedArtifacts : List Str
  budgets : List (Str × Number)
  issuedAt : Float64
  expiresAt : Float64
  (nonce keyId signature : Str)
  allowedProviderBindings : List ProviderBindingAuthorization := []
  providerAttemptPlan : List ProviderProfileAttemptPlanEntry := []
  schema : Str := authorizationEnvelopeSchema

/-- What a contract is checked to be bound to. -/
structure EnvelopeBindings where
  (tenantId workflowId runId stepId planHash policyVersion : Str)

/-- Raise for the first field that differs from what is expected of it. -/
def assertBindings (contract : String) (fields : List (String × Str × Str)) : Except Fault Unit :=
  fields.forM fun field => raiseIf (field.2.1 ≠ field.2.2)
    (signatureError (contract ++ "_" ++ field.1 ++ "_mismatch"))

namespace RuntimeAuthorizationEnvelope

/-- The last entry of a plan or a list of bindings with a binding identifier, as a dictionary keeps
it. -/
def lastBinding (bindings : List ProviderBindingAuthorization) (bindingId : Str) :
    Option ProviderBindingAuthorization :=
  bindings.reverse.find? (·.bindingId = bindingId)

variable (envelope : RuntimeAuthorizationEnvelope)

/-- An attempt plan that covers other bindings than the allowed ones. -/
def PlanMismatch : Prop :=
  let planned := envelope.providerAttemptPlan.map (·.bindingAuthorization)
  envelope.allowedProviderBindings = [] ∨
  (∃ entry ∈ planned, lastBinding planned entry.bindingId ≠
    lastBinding envelope.allowedProviderBindings entry.bindingId) ∨
  ∃ binding ∈ envelope.allowedProviderBindings, binding.bindingId ∉ planned.map (·.bindingId)
  deriving Decidable

/-- The check of an attempt plan against the allowed bindings and the budget. -/
def assertPlan : Except Fault Unit := do
  raiseIf envelope.PlanMismatch
    (contractError "authorization_provider_attempt_plan_binding_mismatch")
  match (envelope.budgets.find? (·.1 = text "provider_attempts")).map (·.2) with
  | none => .error (contractError "authorization_provider_attempt_plan_budget_mismatch")
  | some maximum => do
    let attempts ← maximum.truncated
    raiseIf (attempts ≠ (envelope.providerAttemptPlan.map (·.maximumAttempts)).sum)
      (contractError "authorization_provider_attempt_plan_budget_mismatch")

/-- `_assert_structure`. -/
def assertStructure (policy : EndpointPolicy) (envelope : RuntimeAuthorizationEnvelope) :
    Except Fault Unit := do
  raiseIf ([] ∈ [envelope.envelopeId, envelope.tenantId, envelope.workflowId, envelope.runId,
      envelope.stepId, envelope.planHash, envelope.policyVersion, envelope.nonce])
    (contractError "authorization_binding_required")
  raiseIf (envelope.schema ≠ authorizationEnvelopeSchema)
    (contractError "authorization_schema_unsupported")
  raiseIf (envelope.expiresAt ≤ envelope.issuedAt) (contractError "authorization_expiry_invalid")
  raiseIf (∃ field ∈ envelope.budgets, field.2.Below (.int 0))
    (contractError "authorization_budget_invalid")
  raiseIf (8 < envelope.allowedProviderBindings.length)
    (contractError "authorization_provider_binding_limit_exceeded")
  raiseIf (8 < envelope.providerAttemptPlan.length)
    (contractError "authorization_provider_attempt_plan_limit_exceeded")
  let invalid := contractError "authorization_provider_binding_invalid"
  envelope.allowedProviderBindings.forM fun binding =>
    (binding.validate policy).mapError fun _ => invalid
  envelope.providerAttemptPlan.forM fun entry => (entry.validate policy).mapError fun _ => invalid
  if envelope.providerAttemptPlan = [] then return else envelope.assertPlan

/-- `_signing_payload`, which is `to_dict` without the signature. -/
def signingPayload : Fields :=
  ([("schema", .str envelope.schema), ("envelope_id", .str envelope.envelopeId),
    ("tenant_id", .str envelope.tenantId), ("workflow_id", .str envelope.workflowId),
    ("run_id", .str envelope.runId), ("step_id", .str envelope.stepId),
    ("plan_hash", .str envelope.planHash), ("policy_version", .str envelope.policyVersion),
    ("allowed_tools", .list (envelope.allowedTools.map .str)),
    ("allowed_artifacts", .list (envelope.allowedArtifacts.map .str)),
    ("budgets", .dict (budgetFields envelope.budgets)), ("issued_at", .float envelope.issuedAt),
    ("expires_at", .float envelope.expiresAt), ("nonce", .str envelope.nonce),
    ("key_id", .str envelope.keyId)] : Fields) ++
  (if envelope.allowedProviderBindings = [] then [] else
    [(text "allowed_provider_bindings",
      .list (envelope.allowedProviderBindings.map fun binding => .dict binding.toDict))]) ++
  (if envelope.providerAttemptPlan = [] then [] else
    [(text "provider_attempt_plan",
      .list (envelope.providerAttemptPlan.map fun entry => .dict entry.toDict))])

/-- `verify` at a reading of the clock. -/
def verify (policy : EndpointPolicy) (keyRing : VerificationKeyRing) (bindings : EnvelopeBindings)
    (now : Float64) (envelope : RuntimeAuthorizationEnvelope) : Except Fault Unit := do
  envelope.assertStructure policy
  assertBindings "authorization" [("tenant_id", envelope.tenantId, bindings.tenantId),
    ("workflow_id", envelope.workflowId, bindings.workflowId),
    ("run_id", envelope.runId, bindings.runId), ("step_id", envelope.stepId, bindings.stepId),
    ("plan_hash", envelope.planHash, bindings.planHash),
    ("policy_version", envelope.policyVersion, bindings.policyVersion)]
  raiseIf (now < envelope.issuedAt) (signatureError "authorization_not_yet_valid")
  raiseIf (envelope.expiresAt ≤ now) (signatureError "authorization_expired")
  keyRing.verify authorizationEnvelopeSchema envelope.signingPayload envelope.keyId
    envelope.signature envelope.envelopeId

end RuntimeAuthorizationEnvelope

end Ananta
