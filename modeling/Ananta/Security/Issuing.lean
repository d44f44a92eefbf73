import Ananta.Security.Endpoint
import Ananta.Security.Mapping

/-! Issuing authorization envelopes, and reading them back from their mappings. -/

namespace Ananta

variable (policy : EndpointPolicy)

/-- `ProviderBindingAuthorization.from_mapping`, with the errors that its callers raise. -/
def ProviderBindingAuthorization.fromMapping :
    Value → Except Fault ProviderBindingAuthorization
  | .dict raw => do
    let value := ProviderBindingAuthorization.parsed
      ⟨textAt raw "binding_id", textAt raw "provider_id", textAt raw "model_id",
        textAt raw "endpoint_identity"⟩
    asContractError (value.validate policy)
    return value
  | _ => .error (contractError "provider_authorization_binding_required")

/-- `ProviderProfileAttemptPlanEntry.from_mapping`, with the errors that its callers raise. -/
def ProviderProfileAttemptPlanEntry.fromMapping :
    Value → Except Fault ProviderProfileAttemptPlanEntry
  | .dict raw => do
    let maximumAttempts ← (payloadGet raw "maximum_attempts").toInt.mapError fun fault =>
      -- An infinite number of attempts raises an error that is not handled.
      if fault.kind = .overflowError then fault
        else contractError "provider_attempt_plan_entry_invalid"
    let value := ProviderProfileAttemptPlanEntry.parsed
      ⟨textAt raw "profile_id", textAt raw "binding_id", textAt raw "provider_id",
        textAt raw "model_id", maximumAttempts, textAt raw "endpoint_identity"⟩
    asContractError (value.validate policy)
    return value
  | _ => .error (contractError "provider_attempt_plan_entry_required")

/-- A value that is given itself or as its mapping. -/
def resolve {α : Type} (fromMapping : Value → Except Fault α) : α ⊕ Value → Except Fault α
  | .inl value => .ok value
  | .inr mapping => fromMapping mapping

/-- Take one more value, which has to be valid and must not clash with an earlier one. -/
def collectStep {α : Type} (fromMapping : Value → Except Fault α)
    (validate : α → Except String Unit) (clashes : α → α → Bool) (duplicate : String)
    (seen : List α) (item : α ⊕ Value) : Except Fault (List α) := do
  let value ← resolve fromMapping item
  asContractError (validate value)
  raiseIf (seen.any (clashes value)) (contractError duplicate)
  return seen ++ [value]

def collectDistinct {α : Type} (fromMapping : Value → Except Fault α)
    (validate : α → Except String Unit) (clashes : α → α → Bool) (duplicate : String)
    (raw : List (α ⊕ Value)) : Except Fault (List α) :=
  raw.foldlM (collectStep fromMapping validate clashes duplicate) []

/-- `_normalize_provider_bindings`. -/
def normalizeProviderBindings (raw : List (ProviderBindingAuthorization ⊕ Value)) :
    Except Fault (List ProviderBindingAuthorization) := do
  let values ← collectDistinct (ProviderBindingAuthorization.fromMapping policy) (·.validate policy)
    (fun value other => value.bindingId = other.bindingId)
      "authorization_provider_binding_duplicate" raw
  return values.insertionSort (·.sortKey ≤ ·.sortKey)

/-- `_normalize_provider_attempt_plan`. -/
def normalizeProviderAttemptPlan (raw : List (ProviderProfileAttemptPlanEntry ⊕ Value)) :
    Except Fault (List ProviderProfileAttemptPlanEntry) :=
  collectDistinct (ProviderProfileAttemptPlanEntry.fromMapping policy) (·.validate policy)
    (fun value other => value.profileId = other.profileId ∨ value.bindingId = other.bindingId)
    "authorization_provider_attempt_plan_duplicate" raw

/-- The items of `raw.get(key) or ()`, which have to stand in a list. -/
def itemsAt (raw : Fields) (key : String) (invalid : String) : Except Fault (List Value) :=
  match payloadGet raw key with
  | .list items | .tuple items => .ok items
  | value => if value.truthy then .error (contractError invalid) else .ok []

/-- The arguments of `RuntimeAuthorizationEnvelope.issue`, with the identifiers that it falls back
to. -/
structure EnvelopeRequest where
  (tenantId workflowId runId stepId planHash policyVersion : Str)
  allowedTools : List Str := []
  allowedArtifacts : List Str := []
  allowedProviderBindings : List (ProviderBindingAuthorization ⊕ Value) := []
  providerAttemptPlan : List (ProviderProfileAttemptPlanEntry ⊕ Value) := []
  budgets : Fields := []
  ttlSeconds : Float64 := 300
  now : Float64
  (envelopeId generatedId nonce generatedNonce : Str)

namespace RuntimeAuthorizationEnvelope

/-- `issue`. -/
def issue (keyRing : SigningKeyRing) (request : EnvelopeRequest) :
    Except Fault RuntimeAuthorizationEnvelope := do
  raiseIf (request.ttlSeconds ≤ 0) (contractError "authorization_ttl_invalid")
  let budgets ← normalizeBudgets request.budgets
  let allowedProviderBindings ← normalizeProviderBindings policy request.allowedProviderBindings
  let providerAttemptPlan ← normalizeProviderAttemptPlan policy request.providerAttemptPlan
  let unsigned : RuntimeAuthorizationEnvelope :=
    { envelopeId := orElse request.envelopeId request.generatedId,
      tenantId := strip request.tenantId,
      workflowId := strip request.workflowId, runId := strip request.runId,
      stepId := strip request.stepId,
      planHash := strip request.planHash, policyVersion := strip request.policyVersion,
      allowedTools := cleanTuple request.allowedTools,
      allowedArtifacts := cleanTuple request.allowedArtifacts,
      budgets, issuedAt := request.now, expiresAt := request.now + request.ttlSeconds,
      nonce := orElse request.nonce request.generatedNonce, keyId := [], signature := [],
      allowedProviderBindings, providerAttemptPlan }
  unsigned.assertStructure policy
  let payload := { unsigned with keyId := keyRing.activeKeyId }.signingPayload
  let (keyId, signature) ← keyRing.sign authorizationEnvelopeSchema payload keyRing.activeKeyId
  return { unsigned with keyId, signature }

/-- `to_dict` of an envelope whose bindings are valid. -/
def toDict (envelope : RuntimeAuthorizationEnvelope) : Fields :=
  envelope.signingPayload ++ [(text "signature", .str envelope.signature)]

/-- `from_mapping`. -/
def fromMapping (upcaster : Upcaster) (mapping : Fields) :
    Except Fault RuntimeAuthorizationEnvelope := do
  let raw ← upcastForLoading upcaster "authorization" authorizationEnvelopeSchema mapping
  let allowedTools ← textsAt raw "allowed_tools"
  let allowedArtifacts ← textsAt raw "allowed_artifacts"
  let rawBudgets ← fieldsAt raw "budgets"
  let budgets ← normalizeBudgets rawBudgets
  let issuedAt ← floatAt raw "issued_at"
  let expiresAt ← floatAt raw "expires_at"
  let bindings ← itemsAt raw "allowed_provider_bindings" "authorization_provider_bindings_invalid"
  let allowedProviderBindings ← normalizeProviderBindings policy (bindings.map .inr)
  let entries ← itemsAt raw "provider_attempt_plan" "authorization_provider_attempt_plan_invalid"
  let providerAttemptPlan ← normalizeProviderAttemptPlan policy (entries.map .inr)
  return {
    envelopeId := textAt raw "envelope_id", tenantId := textAt raw "tenant_id",
    workflowId := textAt raw "workflow_id", runId := textAt raw "run_id",
    stepId := textAt raw "step_id",
    planHash := textAt raw "plan_hash", policyVersion := textAt raw "policy_version",
    allowedTools := cleanTuple allowedTools,
    allowedArtifacts := cleanTuple allowedArtifacts, budgets, issuedAt,
    expiresAt, nonce := textAt raw "nonce", keyId := textAt raw "key_id",
    signature := textAt raw "signature",
    allowedProviderBindings, providerAttemptPlan,
    schema := orElse (textAt raw "schema") authorizationEnvelopeSchema }

end RuntimeAuthorizationEnvelope

end Ananta
