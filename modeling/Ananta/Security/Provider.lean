import Ananta.Python.Json
import Ananta.Library.Call
import Ananta.Runtime.Fault

/-! Provider identities and attempt plans that an authorization is bound to. -/

namespace Ananta

/-- A `ContractValidationError` with one reason. -/
def contractError (reason : String) : Fault :=
  ⟨.contractValidationError [{ code := reason, path := "" }], reason⟩

/-- A `SignatureValidationError`. -/
def signatureError (reason : String) : Fault := ⟨.signatureValidationError, reason⟩

def isIdentifierPoint (point : CodePoint) : Bool :=
  isAlphanumeric point || (text "_.:/@+-").contains point

/-- A full match of `_IDENTIFIER`. -/
def isIdentifier : Str → Bool
  | [] => false
  | first :: rest => isAlphanumeric first && rest.length ≤ 255 && rest.all isIdentifierPoint

/-- A full match of `_BINDING_ID`. -/
def isBindingId (value : Str) : Bool :=
  (text "provider-binding:").isPrefixOf value && value.length == 81 &&
    (value.drop 17).all isLowerHex

/--
`normalize_provider_endpoint_identity`, which rests on the URL and address parsers of the standard
library and returns nothing where it raises.
-/
abbrev EndpointPolicy := (providerId endpointUrl : Str) → Option Str

/-- `ProviderBindingAuthorization`. -/
structure ProviderBindingAuthorization where
  (bindingId providerId modelId : Str)
  endpointIdentity : Str := []
  deriving DecidableEq

namespace ProviderBindingAuthorization

/-- The reason for which `validate` raises `ProviderExecutionBindingError`, if any. -/
def validate (policy : EndpointPolicy) (value : ProviderBindingAuthorization) :
    Except String Unit := do
  raiseIf (isBindingId value.bindingId = false) "provider_authorization_binding_id_invalid"
  raiseIf (isIdentifier value.providerId = false ∨ isIdentifier value.modelId = false)
    "provider_authorization_binding_invalid"
  raiseIf (value.providerId ≠ lower value.providerId)
    "provider_authorization_provider_not_canonical"
  raiseIf (value.endpointIdentity ≠ [] ∧ policy value.providerId value.endpointIdentity = none)
    "provider_authorization_endpoint_invalid"
  raiseIf (value.endpointIdentity ≠ [] ∧
      policy value.providerId value.endpointIdentity ≠ some value.endpointIdentity)
    "provider_authorization_endpoint_not_canonical"

/-- The fields that `from_mapping` reads before it validates them. -/
def parsed (raw : ProviderBindingAuthorization) : ProviderBindingAuthorization :=
  ⟨strip raw.bindingId, strip raw.providerId, strip raw.modelId, strip raw.endpointIdentity⟩

/-- `to_dict` of a valid binding. -/
def toDict (value : ProviderBindingAuthorization) : Fields :=
  ([("binding_id", .str value.bindingId), ("provider_id", .str value.providerId),
    ("model_id", .str value.modelId)] : Fields) ++
  if value.endpointIdentity = [] then []
    else [(text "endpoint_identity", .str value.endpointIdentity)]

def sortKey (value : ProviderBindingAuthorization) : List Str :=
  [value.bindingId, value.providerId, value.modelId]

end ProviderBindingAuthorization

/-- `ProviderProfileAttemptPlanEntry`. -/
structure ProviderProfileAttemptPlanEntry where
  (profileId bindingId providerId modelId : Str)
  maximumAttempts : Int
  endpointIdentity : Str := []
  deriving DecidableEq

namespace ProviderProfileAttemptPlanEntry

/-- `binding_authorization`. -/
def bindingAuthorization (value : ProviderProfileAttemptPlanEntry) : ProviderBindingAuthorization :=
  ⟨value.bindingId, value.providerId, value.modelId, value.endpointIdentity⟩

/-- The reason for which `validate` raises `ProviderExecutionBindingError`, if any. -/
def validate (policy : EndpointPolicy) (value : ProviderProfileAttemptPlanEntry) :
    Except String Unit := do
  raiseIf (isIdentifier value.profileId = false) "provider_attempt_plan_profile_invalid"
  value.bindingAuthorization.validate policy
  raiseIf (¬ (1 ≤ value.maximumAttempts ∧ value.maximumAttempts ≤ 33))
    "provider_attempt_plan_limit_invalid"

/-- The fields that `from_mapping` reads before it validates them. -/
def parsed (raw : ProviderProfileAttemptPlanEntry) : ProviderProfileAttemptPlanEntry :=
  ⟨strip raw.profileId, strip raw.bindingId, strip raw.providerId, strip raw.modelId,
    raw.maximumAttempts, strip raw.endpointIdentity⟩

/-- `to_dict` of a valid entry. -/
def toDict (value : ProviderProfileAttemptPlanEntry) : Fields :=
  ([("profile_id", .str value.profileId), ("binding_id", .str value.bindingId),
    ("provider_id", .str value.providerId), ("model_id", .str value.modelId),
    ("maximum_attempts", .int value.maximumAttempts)] : Fields) ++
  if value.endpointIdentity = [] then []
    else [(text "endpoint_identity", .str value.endpointIdentity)]

end ProviderProfileAttemptPlanEntry

/-- Raise `ContractValidationError` with the reason of a `ProviderExecutionBindingError`. -/
def asContractError {α : Type} (outcome : Except String α) : Except Fault α :=
  outcome.mapError contractError

end Ananta
