import Ananta.Checkpoints.Copy
import Ananta.Security.Issuing

/-! Issued envelopes are read back from their mappings as they were issued. -/

namespace Ananta

open Prod List

section

variable {α : Type} {fromMapping : Value → Except Fault α} {validate : α → Except String Unit}
  {clashes : α → α → Bool} {duplicate : String}

variable {value : α} {seen values : List α} {raw : List (α ⊕ Value)}

lemma asContractError_eq_ok {outcome : Except String α} :
    asContractError outcome = .ok value ↔ outcome = .ok value := by
  cases outcome <;> simp [asContractError, Except.mapError]

/-- What is collected is valid, and no value clashes with an earlier one. -/
structure Collected (validate : α → Except String Unit) (clashes : α → α → Bool)
    (values : List α) : Prop where
  valid : ∀ value ∈ values, validate value = .ok ()
  apart : values.Pairwise fun earlier later => clashes later earlier = false

lemma Collected.nil : Collected validate clashes [] := ⟨by simp, .nil⟩

/-- One more value is collected when it is valid and clashes with none of the others. -/
lemma collected_concat : Collected validate clashes (seen ++ [value]) ↔
      Collected validate clashes seen ∧ validate value = .ok () ∧
        seen.any (clashes value) = false := by
  constructor
  · rintro ⟨valid, apart⟩
    rw [pairwise_append] at apart
    refine ⟨⟨fun other member => valid other (by simp [member]), apart.1⟩, valid value (by simp),
      ?_⟩
    simp_all
  · rintro ⟨⟨valid, apart⟩, fine, free⟩
    rw [any_eq_false] at free
    refine ⟨?_, pairwise_append.mpr ⟨apart, pairwise_singleton _ _, ?_⟩⟩
    · grind
    simp_all

/-- The result of collecting behind some values. -/
lemma collect_from (before : Collected validate clashes seen)
    (run : raw.foldlM (collectStep fromMapping validate clashes duplicate) seen = .ok values) :
    Collected validate clashes values := by
  induction raw generalizing seen with
  | nil =>
    rw [foldlM_nil, pure_eq_ok] at run
    rwa [run]
  | cons item rest ih =>
    rw [foldlM_cons, bind_eq_ok] at run
    obtain ⟨next, step, later⟩ := run
    simp only [collectStep, ok_iff, asContractError_eq_ok, Bool.not_eq_true] at step
    obtain ⟨value, _, _, valid, _, free, rfl⟩ := step
    exact ih (collected_concat.mpr ⟨before, valid, free⟩) later

lemma collectDistinct_collected
    (run : collectDistinct fromMapping validate clashes duplicate raw = .ok values) :
    Collected validate clashes values := collect_from Collected.nil run

/-- Values that were collected are collected again from their mappings. -/
lemma collect_again (duplicate : String) {toMapping : α → Value} (seen : List α)
    (back : ∀ value, validate value = .ok () → fromMapping (toMapping value) = .ok value)
    (collected : Collected validate clashes (seen ++ values)) :
    ((values.map toMapping).map Sum.inr).foldlM (collectStep fromMapping validate clashes duplicate)
      seen = .ok (seen ++ values) := by
  induction values generalizing seen with
  | nil => rw [append_nil]; rfl
  | cons value rest ih =>
    have split : seen ++ value :: rest = (seen ++ [value]) ++ rest := by simp
    rw [split] at collected
    have front : Collected validate clashes (seen ++ [value]) :=
      ⟨fun other member => collected.valid other (mem_append_left _ member),
        (pairwise_append.mp collected.apart).1⟩
    obtain ⟨_, valid, free⟩ := collected_concat.mp front
    rw [map_cons, map_cons, foldlM_cons]
    refine bind_eq_ok.mpr ⟨seen ++ [value], ?_, split ▸ ih (seen ++ [value]) collected⟩
    simp only [collectStep, ok_iff, asContractError_eq_ok, Bool.not_eq_true]
    exact ⟨value, back value valid, (), valid, (), free, rfl⟩

end

variable {parser : EndpointParser}

variable {point : CodePoint} {value : Str}

lemma isSpace_printable (above : 0x20 < point.val) (below : point.val < 0x7F) :
    isSpace point = false := by
  simp only [isSpace, Bool.or_eq_false_iff, beq_eq_false_iff_ne, decide_eq_false_iff_not]
  omega

lemma isSpace_alphanumeric (inside : isAlphanumeric point = true) : isSpace point = false := by
  simp only [isAlphanumeric, Bool.or_eq_true, decide_eq_true_eq] at inside
  exact isSpace_printable (by omega) (by omega)

lemma isSpace_identifierPoint (inside : isIdentifierPoint point = true) :
    isSpace point = false := by
  rw [isIdentifierPoint, Bool.or_eq_true, contains_iff_mem] at inside
  rcases inside with letter | mark
  · exact isSpace_alphanumeric letter
  · have marks : (text "_.:/@+-").all (fun point => !isSpace point) = true := by decide
    simpa using all_eq_true.mp marks point mark

/-- Identifiers are trimmed. -/
lemma strip_identifier (identifier : isIdentifier value = true) : strip value = value := by
  apply strip_eq_self
  cases value with
  | nil => simp
  | cons first rest =>
    simp only [isIdentifier, Bool.and_eq_true, all_eq_true] at identifier
    obtain ⟨⟨letter, _⟩, others⟩ := identifier
    exact forall_mem_cons.mpr ⟨isSpace_alphanumeric letter, fun point member =>
      isSpace_identifierPoint (others point member)⟩

/-- Binding identifiers are trimmed. -/
lemma strip_bindingId (identifier : isBindingId value = true) : strip value = value := by
  simp only [isBindingId, Bool.and_eq_true, all_eq_true, isPrefixOf_iff_prefix] at identifier
  obtain ⟨⟨⟨rest, rfl⟩, _⟩, digits⟩ := identifier
  apply strip_eq_self
  intro point member
  rcases mem_append.mp member with front | later
  · have letters : (text "provider-binding:").all (fun point => !isSpace point) = true := by decide
    simpa using all_eq_true.mp letters point front
  · have drop : ("provider-binding:" ++ rest).drop 17 = rest := drop_left' rfl
    rw [drop] at digits
    have digit := digits point later
    simp only [isLowerHex, Bool.or_eq_true, decide_eq_true_eq] at digit
    exact isSpace_printable (by omega) (by omega)

/-- What the validation of a binding establishes: its fields are trimmed. -/
lemma ProviderBindingAuthorization.parsed_of_valid {value : ProviderBindingAuthorization}
    (valid : value.validate (normalizeProviderEndpointIdentity parser) = .ok ()) :
    value.parsed = value := by
  simp only [validate, ok_iff, Bool.not_eq_false, not_or, not_and, not_not] at valid
  obtain ⟨_, binding, _, ⟨provider, model⟩, _, _, _, _, canonical⟩ := valid
  have endpoint : strip value.endpointIdentity = value.endpointIdentity := by
    by_cases none : value.endpointIdentity = []
    · rw [none]
      rfl
    · exact strip_normalized (canonical none)
  rw [parsed, strip_bindingId binding, strip_identifier provider, strip_identifier model, endpoint]

/-- A valid binding is read back from its mapping. -/
lemma ProviderBindingAuthorization.fromMapping_toDict {value : ProviderBindingAuthorization}
    (valid : value.validate (normalizeProviderEndpointIdentity parser) = .ok ()) :
    fromMapping (normalizeProviderEndpointIdentity parser) (.dict value.toDict) = .ok value := by
  have endpoint : textAt value.toDict "endpoint_identity" = value.endpointIdentity := by
    unfold toDict
    split
    · rename_i none
      exact none ▸ rfl
    · exact textAt_of_str rfl
  have texts : textAt value.toDict "binding_id" = value.bindingId ∧
      textAt value.toDict "provider_id" = value.providerId ∧
        textAt value.toDict "model_id" = value.modelId := by
    unfold toDict
    split <;> exact ⟨textAt_of_str rfl, textAt_of_str rfl, textAt_of_str rfl⟩
  rw [fromMapping, texts.1, texts.2.1, texts.2.2, endpoint, parsed_of_valid valid]
  exact bind_eq_ok.mpr ⟨(), asContractError_eq_ok.mpr valid, rfl⟩

/-- A valid entry of an attempt plan is read back from its mapping. -/
lemma ProviderProfileAttemptPlanEntry.fromMapping_toDict {value : ProviderProfileAttemptPlanEntry}
    (valid : value.validate (normalizeProviderEndpointIdentity parser) = .ok ()) :
    fromMapping (normalizeProviderEndpointIdentity parser) (.dict value.toDict) = .ok value := by
  have endpoint : textAt value.toDict "endpoint_identity" = value.endpointIdentity := by
    unfold toDict
    split
    · rename_i none
      exact none ▸ rfl
    · exact textAt_of_str rfl
  have texts : payloadGet value.toDict "maximum_attempts" = .int value.maximumAttempts ∧
      textAt value.toDict "profile_id" = value.profileId ∧
        textAt value.toDict "binding_id" = value.bindingId ∧
      textAt value.toDict "provider_id" = value.providerId ∧
        textAt value.toDict "model_id" = value.modelId := by
    unfold toDict
    split <;> exact ⟨rfl, textAt_of_str rfl, textAt_of_str rfl, textAt_of_str rfl,
      textAt_of_str rfl⟩
  have same : value.parsed = value := by
    have fine := valid
    simp only [validate, ok_iff, Bool.not_eq_false] at fine
    obtain ⟨_, profile, _, binding, _⟩ := fine
    have fields := ProviderBindingAuthorization.parsed_of_valid binding
    simp only [ProviderBindingAuthorization.parsed, bindingAuthorization,
      ProviderBindingAuthorization.mk.injEq] at fields
    rw [parsed, strip_identifier profile, fields.1, fields.2.1, fields.2.2.1, fields.2.2.2]
  obtain ⟨attempts, profile, binding, provider, chosen⟩ := texts
  rw [fromMapping, attempts, profile, binding, provider, chosen, endpoint]
  refine bind_eq_ok.mpr ⟨value.maximumAttempts, rfl, ?_⟩
  dsimp only
  rw [same]
  exact bind_eq_ok.mpr ⟨(), asContractError_eq_ok.mpr valid, rfl⟩

/-- Normalized bindings are normalized again from their mappings. -/
lemma normalizeProviderBindings_again {raw : List (ProviderBindingAuthorization ⊕ Value)}
    {values : List ProviderBindingAuthorization}
    (normalized : normalizeProviderBindings (normalizeProviderEndpointIdentity parser) raw =
      .ok values) :
    normalizeProviderBindings (normalizeProviderEndpointIdentity parser)
      ((values.map fun value => Value.dict value.toDict).map .inr) = .ok values := by
  simp only [normalizeProviderBindings, ok_iff] at normalized
  obtain ⟨collected, run, rfl⟩ := normalized
  have sorted : Collected (·.validate (normalizeProviderEndpointIdentity parser))
      (fun value other : ProviderBindingAuthorization => decide (value.bindingId = other.bindingId))
      (collected.insertionSort (·.sortKey ≤ ·.sortKey)) := by
    obtain ⟨valid, apart⟩ := collectDistinct_collected run
    refine ⟨fun value member => valid value ((mem_insertionSort _).mp member), ?_⟩
    refine (Perm.pairwise_iff ?_ (perm_insertionSort _ _)).mpr apart
    intro left right differ
    rw [decide_eq_false_iff_not] at differ ⊢
    exact Ne.symm differ
  have again := collect_again "authorization_provider_binding_duplicate" []
    (fun _ => ProviderBindingAuthorization.fromMapping_toDict) sorted
  refine bind_eq_ok.mpr ⟨_, again, ?_⟩
  rw [nil_append, pure_eq_ok]
  have : Std.Total fun left right : ProviderBindingAuthorization => left.sortKey ≤ right.sortKey :=
    ⟨fun left right => le_total left.sortKey right.sortKey⟩
  have : IsTrans ProviderBindingAuthorization fun left right => left.sortKey ≤ right.sortKey :=
    ⟨fun _ _ _ => le_trans⟩
  exact (Pairwise.insertionSort_eq (pairwise_insertionSort _ collected)).symm

lemma normalizeProviderAttemptPlan_again {raw : List (ProviderProfileAttemptPlanEntry ⊕ Value)}
    {values : List ProviderProfileAttemptPlanEntry}
    (normalized : normalizeProviderAttemptPlan (normalizeProviderEndpointIdentity parser) raw =
      .ok values) :
    normalizeProviderAttemptPlan (normalizeProviderEndpointIdentity parser)
      ((values.map fun value => Value.dict value.toDict).map .inr) = .ok values :=
  collect_again _ [] (fun _ => ProviderProfileAttemptPlanEntry.fromMapping_toDict)
    (collectDistinct_collected normalized)

def BudgetName (name : Str) : Prop := name ≠ [] ∧ strip name = name

/-- The step of `_normalize_budgets`. -/
def budgetStep (normalized : Dict Str Number) (field : Str × Value) :
    Except Fault (Dict Str Number) :=
  let name := strip field.1
  match field.2 with
  | .int value => do
    raiseIf (name = []) (contractError "authorization_budget_invalid")
    return normalized.set name (.int value)
  | .float value => do
    raiseIf (name = []) (contractError "authorization_budget_invalid")
    return normalized.set name (.float value)
  | _ => .error (contractError "authorization_budget_invalid")

variable {normalized result : Dict Str Number}

/-- A step records one number under a trimmed name. -/
lemma budgetStep_eq_ok {field : Str × Value} (stepped : budgetStep normalized field = .ok result) :
    ∃ name number, BudgetName name ∧ result = normalized.set name number := by
  unfold budgetStep at stepped
  dsimp only at stepped
  split at stepped
  all_goals first
    | (simp only [ok_iff] at stepped
       obtain ⟨_, given, rfl⟩ := stepped
       exact ⟨_, _, ⟨given, strip_strip _⟩, rfl⟩)
    | cases stepped

/-- Trimmed names stay trimmed. -/
lemma budgetNames_of_fold {fields : Fields}
    (before : ∀ name ∈ normalized.keys, BudgetName name)
    (run : fields.foldlM budgetStep normalized = .ok result) :
    ∀ name ∈ result.keys, BudgetName name := by
  induction fields generalizing normalized with
  | nil =>
    rw [foldlM_nil, pure_eq_ok] at run
    rwa [run]
  | cons field rest ih =>
    rw [foldlM_cons] at run
    obtain ⟨next, stepped, later⟩ := bind_eq_ok.mp run
    obtain ⟨name, number, kept, rfl⟩ := budgetStep_eq_ok stepped
    refine ih (fun other member => ?_) later
    rw [Dict.mem_keys, get?_set] at member
    split at member
    · rename_i same
      rwa [same]
    · exact before other (Dict.mem_keys.mpr member)

/-- Numbers under new trimmed names are added as they are. -/
lemma fold_budgetFields (normalized : Dict Str Number) {fields : List (Str × Number)}
    (names : ∀ field ∈ fields, BudgetName field.1) (distinct : (fields.map fst).Nodup)
    (fresh : ∀ field ∈ fields, normalized.get? field.1 = none) :
    ∃ result, (budgetFields fields).foldlM budgetStep normalized = .ok result ∧
      result.entries = normalized.entries ++ fields := by
  induction fields generalizing normalized with
  | nil => exact ⟨normalized, rfl, (append_nil _).symm⟩
  | cons field rest ih =>
    obtain ⟨⟨given, trimmed⟩, others⟩ := forall_mem_cons.mp names
    obtain ⟨new, later⟩ := forall_mem_cons.mp fresh
    rw [map_cons, nodup_cons] at distinct
    have stepped : budgetStep normalized (field.1, field.2.toValue) =
        .ok (normalized.set field.1 field.2) := by
      unfold budgetStep
      cases field.2 <;>
        (dsimp only [Number.toValue]; rw [trimmed, bind_of_passed given]; rfl)
    have unused : ∀ other ∈ rest, (normalized.set field.1 field.2).get? other.1 = none := by
      intro other member
      rw [get?_set_ne]
      · exact later other member
      · intro same
        exact distinct.1 (same ▸ mem_map_of_mem member)
    obtain ⟨result, run, entries⟩ := ih (normalized.set field.1 field.2) others distinct.2 unused
    refine ⟨result, bind_eq_ok.mpr ⟨_, stepped, run⟩, ?_⟩
    have put :
      (normalized.set field.1 field.2).entries = normalized.entries ++ [(field.1, field.2)] :=
      Dict.put_new new
    rw [entries, put, append_assoc]
    rfl

/-- Normalized budgets are normalized again as they are. -/
lemma normalizeBudgets_again {raw : Fields} {budgets : List (Str × Number)}
    (normalized : normalizeBudgets raw = .ok budgets) :
    normalizeBudgets (budgetFields budgets) = .ok budgets := by
  obtain ⟨dict, run, made⟩ := bind_eq_ok.mp normalized
  rw [pure_eq_ok] at made
  have names := budgetNames_of_fold (by simp [Dict.keys, Dict.empty]) run
  have order : budgets.Perm dict.entries := by
    rw [made]
    exact perm_insertionSort _ _
  obtain ⟨result, again, entries⟩ := fold_budgetFields Dict.empty
    (fun field member => names field.1 (mem_map_of_mem (order.mem_iff.mp member)))
    ((order.map _).nodup_iff.mpr dict.distinct) (fun _ _ => rfl)
  refine bind_eq_ok.mpr ⟨result, again, ?_⟩
  rw [pure_eq_ok, entries]
  show budgets = Value.sortFields ([] ++ budgets)
  rw [nil_append, made, Value.sortFields_sortFields]

namespace RuntimeAuthorizationEnvelope

variable {envelope : RuntimeAuthorizationEnvelope}

/-- What issuing establishes of an envelope: its fields are read back as they are. -/
structure Normalized (policy : EndpointPolicy)
    (envelope : RuntimeAuthorizationEnvelope) : Prop where
  schema : envelope.schema = authorizationEnvelopeSchema
  allowedTools : cleanTuple envelope.allowedTools = envelope.allowedTools
  allowedArtifacts : cleanTuple envelope.allowedArtifacts = envelope.allowedArtifacts
  budgets : normalizeBudgets (budgetFields envelope.budgets) = .ok envelope.budgets
  bindings : normalizeProviderBindings policy
    ((envelope.allowedProviderBindings.map fun value => Value.dict value.toDict).map .inr) =
      .ok envelope.allowedProviderBindings
  plan : normalizeProviderAttemptPlan policy
    ((envelope.providerAttemptPlan.map fun value => Value.dict value.toDict).map .inr) =
      .ok envelope.providerAttemptPlan

lemma normalized_of_issue {keyRing : SigningKeyRing} {request : EnvelopeRequest}
    (issued : issue (normalizeProviderEndpointIdentity parser) keyRing request = .ok envelope) :
    envelope.Normalized (normalizeProviderEndpointIdentity parser) := by
  simp only [issue, ok_iff] at issued
  obtain ⟨_, _, budgets, budgetsRun, bindings, bindingsRun, plan, planRun, _, _, _, _, rfl⟩ :=
    issued
  exact ⟨rfl, cleanTuple_cleanTuple _, cleanTuple_cleanTuple _, normalizeBudgets_again budgetsRun,
    normalizeProviderBindings_again bindingsRun, normalizeProviderAttemptPlan_again planRun⟩

/-- The end of an envelope lies behind its beginning, so that it is not the negative zero. -/
lemma dates_of_issue {policy : EndpointPolicy} {keyRing : SigningKeyRing}
    {request : EnvelopeRequest} (issued : issue policy keyRing request = .ok envelope) :
    envelope.issuedAt = request.now ∧ envelope.expiresAt ≠ .negativeZero := by
  simp only [issue, ok_iff] at issued
  obtain ⟨_, lasting, _, _, _, _, _, _, _, _, _, _, rfl⟩ := issued
  exact ⟨rfl, Float64.add_ne_negativeZero lasting⟩

lemma toDict_distinct : (envelope.toDict.map fst).Nodup := by
  unfold toDict signingPayload
  split <;> split <;> simp only [map_append, map_cons, map_nil] <;> decide +kernel

/-- The items under a key that is left out when there are none. -/
lemma itemsAt_optional {α : Type} {raw : Fields} {key invalid : String} {values : List α}
    {toMapping : α → Value} (distinct : (raw.map fst).Nodup)
    (absent : values = [] → text key ∉ raw.map fst)
    (present : values ≠ [] → (text key, Value.list (values.map toMapping)) ∈ raw) :
    itemsAt raw key invalid = .ok (values.map toMapping) := by
  by_cases none : values = []
  · rw [itemsAt, payloadGet_absent (absent none), none]
    rfl
  · rw [itemsAt, payloadGet_of_mem distinct (present none)]

/-- A normalized envelope is read back from its mapping, apart from the sign of a zero. -/
lemma fromMapping_toDict {policy : EndpointPolicy} (upcaster : Upcaster)
    (normalized : envelope.Normalized policy) : fromMapping policy upcaster envelope.toDict =
      .ok { envelope with
        issuedAt := envelope.issuedAt.orZero, expiresAt := envelope.expiresAt.orZero } := by
  have found : ∀ {key : String} {value : Value}, (text key, value) ∈ envelope.toDict →
      payloadGet envelope.toDict key = value := payloadGet_of_mem toDict_distinct
  have texts : ∀ {key : String} {value : Str}, (text key, Value.str value) ∈ envelope.toDict →
      textAt envelope.toDict key = value := fun listed => textAt_of_str (found listed)
  have schema : textAt envelope.toDict "schema" = authorizationEnvelopeSchema :=
    normalized.schema ▸ texts (by simp [toDict, signingPayload])
  have tools : textsAt envelope.toDict "allowed_tools" = .ok envelope.allowedTools :=
    textsAt_of_list (found (by simp [toDict, signingPayload]))
  have artifacts : textsAt envelope.toDict "allowed_artifacts" = .ok envelope.allowedArtifacts :=
    textsAt_of_list (found (by simp [toDict, signingPayload]))
  have budgets : fieldsAt envelope.toDict "budgets" = .ok (budgetFields envelope.budgets) :=
    fieldsAt_of_dict (found (by simp [toDict, signingPayload]))
  have issuedAt : floatAt envelope.toDict "issued_at" = .ok envelope.issuedAt.orZero :=
    floatAt_of_float (found (by simp [toDict, signingPayload]))
  have expiresAt : floatAt envelope.toDict "expires_at" = .ok envelope.expiresAt.orZero :=
    floatAt_of_float (found (by simp [toDict, signingPayload]))
  have bindings : itemsAt envelope.toDict "allowed_provider_bindings"
      "authorization_provider_bindings_invalid" =
      .ok (envelope.allowedProviderBindings.map fun value => Value.dict value.toDict) := by
    -- An empty list is left out of the mapping.
    refine itemsAt_optional toDict_distinct (fun none => ?_) (fun some => ?_)
    · rw [toDict, signingPayload, if_pos none]
      split <;> simp only [map_append, map_cons, map_nil] <;> decide +kernel
    · simp [toDict, signingPayload, some]
  have plan : itemsAt envelope.toDict "provider_attempt_plan"
      "authorization_provider_attempt_plan_invalid" =
      .ok (envelope.providerAttemptPlan.map fun value => Value.dict value.toDict) := by
    refine itemsAt_optional toDict_distinct (fun none => ?_) (fun some => ?_)
    · rw [toDict, signingPayload, if_pos none]
      split <;> simp only [map_append, map_cons, map_nil] <;> decide +kernel
    · simp [toDict, signingPayload, some]
  rw [fromMapping, bind_of_ok (upcastForLoading_current schema), bind_of_ok tools,
    bind_of_ok artifacts, bind_of_ok budgets, bind_of_ok normalized.budgets, bind_of_ok issuedAt,
      bind_of_ok expiresAt,
    bind_of_ok bindings, bind_of_ok normalized.bindings, bind_of_ok plan,
      bind_of_ok normalized.plan,
    normalized.allowedTools, normalized.allowedArtifacts, schema, orElse, if_neg (by decide),
      pure_eq_ok,
    RuntimeAuthorizationEnvelope.mk.injEq]
  refine ⟨?_, ?_, ?_, ?_, ?_, ?_, ?_, rfl, rfl, rfl, rfl, rfl, ?_, ?_, ?_, rfl, rfl,
    normalized.schema⟩
  all_goals exact (texts (by simp [toDict, signingPayload])).symm

end RuntimeAuthorizationEnvelope

end Ananta
