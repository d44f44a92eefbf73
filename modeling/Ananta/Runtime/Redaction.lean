import Ananta.Python.Json

/-! Redaction of credential-like keys in structured values. -/

namespace Ananta

/-- `_SENSITIVE_PARTS`. -/
def sensitiveParts : List String :=
  ["api_key", "authorization", "credential", "password", "private_key", "secret", "token"]

/-- `_SAFE_TOKEN_KEYS`. -/
def safeTokenKeys : List String :=
  ["cached_tokens", "fencing_token", "input_tokens", "max_tokens", "output_tokens",
    "reasoning_tokens", "token_count", "token_usage"]

/-- A key that `redact_json` takes for the name of a credential. -/
def isSensitive (key : Str) : Bool :=
  let lowered := lower key
  lowered ∉ safeTokenKeys.map text &&
    sensitiveParts.any fun part =>
      lowered == text part || (text ("_" ++ part)).isSuffixOf lowered ||
        (text (part ++ "_")).isPrefixOf lowered

def redacted : Value := .str "[REDACTED]"

mutual

/-- `redact_json`, which also turns tuples into lists. -/
def redactJson : Value → Value
  | .dict fields => .dict (redactFields fields)
  | .list items => .list (redactItems items)
  | .tuple items => .list (redactItems items)
  | .none => .none
  | .bool value => .bool value
  | .int value => .int value
  | .float value => .float value
  | .str value => .str value
  | .object identity => .object identity

def redactItems : List Value → List Value
  | [] => []
  | item :: rest => redactJson item :: redactItems rest

def redactFields : Fields → Fields
  | [] => []
  | (key, value) :: rest =>
    (key, if isSensitive key then redacted else redactJson value) :: redactFields rest

end

mutual

lemma redactJson_redactJson : ∀ value, redactJson (redactJson value) = redactJson value
  | .dict fields => by simp only [redactJson, redactFields_redactFields fields]
  | .list items => by simp only [redactJson, redactItems_redactItems items]
  | .tuple items => by simp only [redactJson, redactItems_redactItems items]
  | .none | .bool _ | .int _ | .float _ | .str _ | .object _ => by simp only [redactJson]

lemma redactItems_redactItems : ∀ items, redactItems (redactItems items) = redactItems items
  | [] => rfl
  | item :: rest => by
    simp only [redactItems, redactJson_redactJson item, redactItems_redactItems rest]

/-- Redacting redacted fields changes nothing. -/
lemma redactFields_redactFields : ∀ fields, redactFields (redactFields fields) = redactFields fields
  | [] => rfl
  | (key, value) :: rest => by
    simp only [redactFields, redactFields_redactFields rest]
    -- A sensitive key stays sensitive, and the value under any other key is redacted already.
    split
    · rfl
    · rw [redactJson_redactJson value]

end

end Ananta
