import Ananta.Ownership.EvidenceLaws

/-! Reservation identifiers can always be derived, and a first reservation always goes through. -/

namespace Ananta

open ReceiptFields

/-- A plain value has a namespaced digest. -/
lemma ownershipNamespacedDigest_ok {value : Value} (plain : value.Plain) (space : String) :
    ∃ digest, ownershipNamespacedDigest value space = .ok digest ∧ IsSha256 digest := by
  obtain ⟨payload, written, encodable⟩ := canonicalJson_plain plain
  have framed : Encodable (text space ++ "\n" ++ payload) := by simp [encodable]
  obtain ⟨digest, hashed, shape⟩ := sha256Text_ok framed
  refine ⟨digest, ?_, shape⟩
  rwa [ownershipNamespacedDigest, written]

variable {parts : List Str}

lemma ownershipOpaqueId_spec {lead : String} {identifier : Str}
    (derived : ownershipOpaqueId lead parts = .ok identifier) :
    ∃ digest, IsSha256 digest ∧ identifier = text lead ++ "-" ++ digest := by
  simp only [ownershipOpaqueId, ok_iff] at derived
  obtain ⟨_, _, digest, hashed, rfl⟩ := derived
  exact ⟨digest, isSha256_of_sha256Text hashed, rfl⟩

lemma plainItems_strings (encodable : ∀ part ∈ parts, Encodable part) :
    Value.PlainItems (parts.map .str) := by
  induction parts with
  | nil => trivial
  | cons part rest ih =>
    exact ⟨encodable part (by simp), ih fun other member => encodable other (by simp [member])⟩

/-- An opaque identifier can be derived from encodable parts. -/
lemma ownershipOpaqueId_ok (lead : String) (parts : List Str)
    (encodable : ∀ part ∈ parts, Encodable part) :
    ∃ identifier, ownershipOpaqueId lead parts = .ok identifier := by
  have plain : (Value.dict [("namespace", .str (text lead)),
      ("parts", .list (parts.map .str))]).Plain := by
    simp only [Value.Plain, Value.PlainFields, encodable_text, plainItems_strings encodable,
      and_self]
  obtain ⟨payload, written, encodablePayload⟩ := canonicalJson_plain plain
  obtain ⟨digest, hashed, _⟩ := sha256Text_ok encodablePayload
  refine ⟨text lead ++ "-" ++ digest, ?_⟩
  rw [ownershipOpaqueId, written]
  simp only [Bind.bind, Except.bind, hashed]
  rfl

section

lemma ownershipRetryMaximum_eq_ok {value result : Int} : ownershipRetryMaximum value = .ok result ↔
      (0 ≤ value ∧ value ≤ ownershipMaxRetries) ∧ result = value := by
  have narrower : ownershipMaxRetries ≤ ownershipMaxCounter := by decide
  simp only [ownershipRetryMaximum, ownershipNonNegativeInteger, bind_eq_ok, ownershipField_eq_ok]
  grind

/-- The shape that `__post_init__` requires of an intent. -/
@[mk_iff] structure IntentFields.Shaped (intent : IntentFields) : Prop where
  receiptId : IsIdentity intent.receiptId
  transitionId : IsIdentity intent.transitionId
  effectId : IsIdentity intent.effectId
  runtimeId : IsIdentity intent.runtimeId
  tenantId : IsIdentity intent.tenantId
  workflowId : IsIdentity intent.workflowId
  runId : IsIdentity intent.runId
  stepId : IsIdentity intent.stepId
  ownerId : IsIdentity intent.ownerId
  operationFenceId : IsIdentity intent.operationFenceId
  attemptId : IsIdentity intent.attemptId
  retryId : IsIdentity intent.retryId
  effectOrdinal : 1 ≤ intent.effectOrdinal ∧ intent.effectOrdinal ≤ ownershipMaxCounter
  ownershipIntentDigest : IsSha256 intent.ownershipIntentDigest
  transitionRequestFingerprint : IsSha256 intent.transitionRequestFingerprint
  effectPayloadDigest : IsSha256 intent.effectPayloadDigest
  idempotencyKey : intent.idempotencyKey = intent.operationFenceId
  retryFence : intent.retryId = intent.operationFenceId
  leaseSeconds : IsTimestamp intent.leaseSeconds
  maximumRetries : 0 ≤ intent.maximumRetries ∧ intent.maximumRetries ≤ ownershipMaxRetries
  plannedAt : IsTimestamp intent.plannedAt
  leaseFinite : (intent.plannedAt + intent.leaseSeconds).IsFinite
  leaseLater : ¬ intent.plannedAt + intent.leaseSeconds ≤ intent.plannedAt
  schema : intent.schema = reservationIntentSchema

variable {intent contents : IntentFields}

/-- The shape checks accept exactly the shaped intents. -/
lemma IntentFields.assertShape_eq_ok : intent.assertShape = .ok () ↔ intent.Shaped := by
  simp only [assertShape, ownershipIdentity, ownershipSha256, ownershipPositiveInteger,
    ownershipTimestamp, ok_iff, discard_eq_ok, ownershipField_eq_ok, ownershipRetryMaximum_eq_ok,
      exists_and_left, exists_eq, and_true,
    exists_const, exists_eq_left, not_or, not_not, shaped_iff, and_assoc]

structure IntentFields.Derived (intent : IntentFields) : Prop where
  digest : workflowTransitionOwnershipIntentDigest intent.transitionId intent.runtimeId
    intent.tenantId
    intent.workflowId intent.runId intent.stepId intent.effectOrdinal intent.leaseSeconds
    intent.maximumRetries = .ok intent.ownershipIntentDigest
  owner : workflowTransitionOwnershipOwnerId intent.ownershipIntentDigest = .ok intent.ownerId
  fence : workflowTransitionOwnershipOperationFenceId intent.ownershipIntentDigest intent.ownerId =
    .ok intent.operationFenceId
  attempt : workflowTransitionOwnershipAttemptId intent.effectId intent.operationFenceId =
    .ok intent.attemptId
  retry : intent.retryId = intent.operationFenceId
  receipt : workflowTransitionOwnershipReceiptId intent.transitionId intent.effectId =
    .ok intent.receiptId

/-- The binding checks accept exactly the derived intents. -/
lemma IntentFields.assertBinding_eq_ok : intent.assertBinding = .ok () ↔ intent.Derived := by
  simp only [assertBinding, ok_iff, not_or, not_not]
  constructor
  · rintro ⟨_, digest, _, owner, _, fence, _, attempt, _, receipt, rfl, rfl, rfl, rfl, retry, rfl⟩
    exact ⟨digest, owner, fence, attempt, retry, receipt⟩
  · rintro ⟨digest, owner, fence, attempt, retry, receipt⟩
    exact ⟨_, digest, _, owner, _, fence, _, attempt, _, receipt, rfl, rfl, rfl, rfl, retry, rfl⟩

/-- The checks of an intent are its shape and its derivation. -/
lemma IntentFields.postInit_eq_ok : intent.postInit = .ok () ↔ intent.Shaped ∧ intent.Derived := by
  simp only [postInit, bind_eq_ok, assertBinding_eq_ok]
  constructor
  · rintro ⟨_, shaped, derived⟩
    exact ⟨assertShape_eq_ok.mp shaped, derived⟩
  · rintro ⟨shaped, derived⟩
    exact ⟨(), assertShape_eq_ok.mpr shaped, derived⟩

lemma ReservationIntent.shaped (intent : ReservationIntent) : intent.Shaped :=
  (IntentFields.postInit_eq_ok.mp intent.valid).1

lemma ReservationIntent.derived (intent : ReservationIntent) : intent.Derived :=
  (IntentFields.postInit_eq_ok.mp intent.valid).2

/-- The attempt of a reservation is never the attempt of a claim. -/
lemma ReservationIntent.attemptId_ne (intent : ReservationIntent) (uuid : Str) :
    intent.attemptId ≠ attemptIdOf uuid := by
  -- The two kinds of attempt identifiers differ in their first letter.
  have derived := intent.derived.attempt
  simp only [workflowTransitionOwnershipAttemptId, bind_eq_ok] at derived
  obtain ⟨_, _, _, _, derived⟩ := derived
  obtain ⟨digest, _, shape⟩ := ownershipOpaqueId_spec derived
  rw [shape]
  simp [attemptIdOf, text, codePoint]

/-- The shape of the contents that an intent's identifiers are derived from. -/
structure IntentFields.Plannable (contents : IntentFields) : Prop where
  transitionId : IsIdentity contents.transitionId
  effectId : IsIdentity contents.effectId
  runtimeId : IsIdentity contents.runtimeId
  tenantId : IsIdentity contents.tenantId
  workflowId : IsIdentity contents.workflowId
  runId : IsIdentity contents.runId
  stepId : IsIdentity contents.stepId
  effectOrdinal : 1 ≤ contents.effectOrdinal ∧ contents.effectOrdinal ≤ ownershipMaxCounter
  transitionRequestFingerprint : IsSha256 contents.transitionRequestFingerprint
  effectPayloadDigest : IsSha256 contents.effectPayloadDigest
  leaseSeconds : IsTimestamp contents.leaseSeconds
  maximumRetries : 0 ≤ contents.maximumRetries ∧ contents.maximumRetries ≤ ownershipMaxRetries
  plannedAt : IsTimestamp contents.plannedAt
  leaseFinite : (contents.plannedAt + contents.leaseSeconds).IsFinite
  leaseLater : ¬ contents.plannedAt + contents.leaseSeconds ≤ contents.plannedAt
  schema : contents.schema = reservationIntentSchema

/-- The contents of an intent have a digest. -/
lemma intentDigest_ok (plannable : contents.Plannable) :
    ∃ digest, workflowTransitionOwnershipIntentDigest contents.transitionId contents.runtimeId
      contents.tenantId contents.workflowId contents.runId contents.stepId contents.effectOrdinal
      contents.leaseSeconds contents.maximumRetries = .ok digest ∧ IsSha256 digest := by
  have plain : (Value.dict
      [("transition_id", .str contents.transitionId), ("runtime_id", .str contents.runtimeId),
        ("tenant_id", .str contents.tenantId), ("workflow_id", .str contents.workflowId),
        ("run_id", .str contents.runId), ("step_id", .str contents.stepId),
        ("effect_ordinal", .int contents.effectOrdinal),
        ("lease_seconds", .float contents.leaseSeconds),
        ("maximum_retries", .int contents.maximumRetries)]).Plain := by
    simp only [Value.Plain, Value.PlainFields, encodable_text, plannable.transitionId.encodable,
      plannable.runtimeId.encodable, plannable.tenantId.encodable, plannable.workflowId.encodable,
      plannable.runId.encodable, plannable.stepId.encodable, plannable.leaseSeconds.1, and_self]
  obtain ⟨digest, hashed, shape⟩ :=
    ownershipNamespacedDigest_ok plain "workflow-transition-ownership-reservation-intent"
  refine ⟨digest, ?_, shape⟩
  simp only [workflowTransitionOwnershipIntentDigest, bind_eq_ok, ownershipIdentity,
    ownershipPositiveInteger, ownershipTimestamp, ownershipField_eq_ok, ownershipRetryMaximum_eq_ok]
  exact ⟨_, ⟨plannable.transitionId, rfl⟩, _, ⟨plannable.runtimeId, rfl⟩, _,
    ⟨plannable.tenantId, rfl⟩, _, ⟨plannable.workflowId, rfl⟩, _, ⟨plannable.runId, rfl⟩, _,
      ⟨plannable.stepId, rfl⟩,
    _, ⟨plannable.effectOrdinal, rfl⟩, _, ⟨plannable.leaseSeconds, rfl⟩,
    _, ⟨plannable.maximumRetries, rfl⟩, hashed⟩

lemma isIdentity_of_opaque {lead : String} {identifier : Str}
    (known : lead ∈ ["wfto", "wftof", "wfta", "wftor"])
    (derived : ownershipOpaqueId lead parts = .ok identifier) : IsIdentity identifier := by
  obtain ⟨digest, hashed, rfl⟩ := ownershipOpaqueId_spec derived
  simp only [List.mem_cons, List.not_mem_nil, or_false] at known
  rcases known with rfl | rfl | rfl | rfl
  all_goals exact isIdentity_digest (by decide) (by decide) (by decide) (le_of_eq hashed.1) hashed.2

/-- Well-shaped contents can be given their derived identifiers. -/
lemma exists_intent (plannable : contents.Plannable) : ∃ intent : ReservationIntent,
    intent.toIntentFields = { contents with
        receiptId := intent.receiptId
        ownershipIntentDigest := intent.ownershipIntentDigest
        ownerId := intent.ownerId
        operationFenceId := intent.operationFenceId
        attemptId := intent.attemptId
        retryId := intent.retryId
        idempotencyKey := intent.idempotencyKey } := by
  -- Each identifier is derived from the contents and from the identifiers before it.
  obtain ⟨digest, hashed, shape⟩ := intentDigest_ok plannable
  obtain ⟨owner, ownerDerived⟩ := ownershipOpaqueId_ok "wfto" [digest]
    (by simpa using shape.encodable)
  have ownerShape := isIdentity_of_opaque (by decide) ownerDerived
  obtain ⟨fence, fenceDerived⟩ := ownershipOpaqueId_ok "wftof" [digest, owner]
    (by simpa using ⟨shape.encodable, ownerShape.encodable⟩)
  have fenceShape := isIdentity_of_opaque (by decide) fenceDerived
  obtain ⟨attempt, attemptDerived⟩ := ownershipOpaqueId_ok "wfta" [contents.effectId, fence]
    (by simpa using ⟨plannable.effectId.encodable, fenceShape.encodable⟩)
  have attemptShape := isIdentity_of_opaque (by decide) attemptDerived
  obtain ⟨receipt, receiptDerived⟩ :=
    ownershipOpaqueId_ok "wftor" [contents.transitionId, contents.effectId]
      (by simpa using ⟨plannable.transitionId.encodable, plannable.effectId.encodable⟩)
  have receiptShape := isIdentity_of_opaque (by decide) receiptDerived
  let fields : IntentFields :=
    { contents with
      receiptId := receipt
      ownershipIntentDigest := digest
      ownerId := owner
      operationFenceId := fence
      attemptId := attempt
      retryId := fence
      idempotencyKey := fence }
  have shaped : fields.Shaped :=
    { plannable with
      receiptId := receiptShape, ownerId := ownerShape, operationFenceId := fenceShape,
      attemptId := attemptShape, retryId := fenceShape, ownershipIntentDigest := shape,
      idempotencyKey := rfl, retryFence := rfl }
  have derived : fields.Derived := by
    refine ⟨hashed, ?_, ?_, ?_, rfl, ?_⟩
    · simp only [workflowTransitionOwnershipOwnerId, ownershipSha256, bind_eq_ok,
        ownershipField_eq_ok]
      exact ⟨_, ⟨shape, rfl⟩, ownerDerived⟩
    · simp only [workflowTransitionOwnershipOperationFenceId, ownershipSha256, ownershipIdentity,
        bind_eq_ok, ownershipField_eq_ok]
      exact ⟨_, ⟨shape, rfl⟩, _, ⟨ownerShape, rfl⟩, fenceDerived⟩
    · simp only [workflowTransitionOwnershipAttemptId, ownershipIdentity, bind_eq_ok,
        ownershipField_eq_ok]
      exact ⟨_, ⟨plannable.effectId, rfl⟩, _, ⟨fenceShape, rfl⟩, attemptDerived⟩
    · simp only [workflowTransitionOwnershipReceiptId, ownershipIdentity, bind_eq_ok,
        ownershipField_eq_ok]
      exact ⟨_, ⟨plannable.transitionId, rfl⟩, _, ⟨plannable.effectId, rfl⟩, receiptDerived⟩
  exact ⟨⟨fields, IntentFields.postInit_eq_ok.mpr ⟨shaped, derived⟩⟩, rfl⟩

end

/-- An exact record serializes to a plain value. -/
lemma ExecutionOwnership.Exact.plain {record : ExecutionOwnership} (exact : record.Exact) :
    record.toDict.Plain := by
  have status : Encodable record.status.name := by
    cases record.status <;> exact encodable_text _
  have schema : Encodable record.schema := by
    rw [exact.schema]
    exact encodable_text _
  simp only [toDict, Value.Plain, Value.PlainFields, encodable_text, schema, exact.tenant.2,
    exact.workflow.2, exact.run.2, exact.step.2, exact.attempt.2, exact.owner.2, status,
      exact.lease.1,
    exact.heartbeat.1, exact.resultAckKey, exact.failureCode, and_self]

/-- An intent serializes to a plain value. -/
lemma ReservationIntent.plain (intent : ReservationIntent) : intent.toDict.Plain := by
  have shaped := intent.shaped
  have schema : Encodable intent.schema := by
    rw [shaped.schema]
    exact encodable_text _
  have key : Encodable intent.idempotencyKey := by
    rw [shaped.idempotencyKey]
    exact shaped.operationFenceId.encodable
  simp only [IntentFields.toDict, Value.Plain, Value.PlainFields, encodable_text, schema, key,
    shaped.receiptId.encodable, shaped.transitionId.encodable, shaped.effectId.encodable,
    shaped.runtimeId.encodable, shaped.tenantId.encodable, shaped.workflowId.encodable,
    shaped.runId.encodable, shaped.stepId.encodable, shaped.ownershipIntentDigest.encodable,
    shaped.ownerId.encodable, shaped.operationFenceId.encodable, shaped.attemptId.encodable,
    shaped.retryId.encodable, shaped.transitionRequestFingerprint.encodable,
    shaped.effectPayloadDigest.encodable, shaped.leaseSeconds.1, shaped.plannedAt.1, and_self]

section

variable (intent : ReservationIntent) {generation : Int}
  (counted : 1 ≤ generation ∧ generation ≤ ownershipMaxCounter)

/-- The record of a first reservation made at the planned time is exact. -/
lemma firstAcquisition_exact : (acquisition intent none intent.plannedAt).Exact := by
  have shaped := intent.shaped
  exact
    { tenant := ⟨shaped.tenantId.ne_nil, shaped.tenantId.encodable⟩
      workflow := ⟨shaped.workflowId.ne_nil, shaped.workflowId.encodable⟩
      run := ⟨shaped.runId.ne_nil, shaped.runId.encodable⟩
      step := ⟨shaped.stepId.ne_nil, shaped.stepId.encodable⟩
      attempt := ⟨shaped.attemptId.ne_nil, shaped.attemptId.encodable⟩
      owner := ⟨shaped.ownerId.ne_nil, shaped.ownerId.encodable⟩
      fence := show (1 : Int) ≤ 0 + 1 ∧ (0 : Int) + 1 ≤ ownershipMaxLegacyRevision by decide
      revision := show (1 : Int) ≤ 0 + 1 ∧ (0 : Int) + 1 ≤ ownershipMaxLegacyRevision by decide
      lease := shaped.plannedAt.add shaped.leaseSeconds shaped.leaseFinite
      heartbeat := shaped.plannedAt
      resultAckKey := encodable_nil
      failureCode := encodable_nil
      schema := rfl
      terminal := ⟨rfl, rfl⟩ }

lemma readHistory_empty : ∃ evidence, readTransitionReservationHistory .empty intent =
    .ok evidence ∧ evidence.receipt = none :=
  ⟨⟨intent, none, none, none, none, []⟩, rfl, rfl⟩

def firstBudget : RetryBudgetSnapshot :=
  { tenantId := intent.tenantId, runId := intent.runId, used := 0,
    maximum := intent.maximumRetries }

lemma firstBudget_matches : ¬ BudgetMismatch intent (firstBudget intent) := by
  have maximum := intent.shaped.maximumRetries
  simp only [BudgetMismatch, firstBudget, ne_eq, not_true_eq_false, false_or, not_or, not_lt]
  omega

include counted

/-- The first observation of an intent has a digest and nothing else to report. -/
lemma observe_empty : ∃ digest, IsSha256 digest ∧
    observeTransitionReservation .empty intent generation =
      .ok ⟨intent, generation, none, none, none, none, firstBudget intent, none, [], digest⟩ := by
  -- The digest covers everything but itself.
  have hashable : ∃ hashed, IsSha256 hashed ∧ ∀ digest, ownershipObservationDigest
      ⟨intent, generation, none, none, none, none, firstBudget intent, none, [], digest⟩ =
        .ok hashed := by
    have plain : (Value.dict
        [("intent", intent.toDict), ("claim_generation", .int generation), ("current", .none),
          ("current_history", .none), ("acquired_history", .none), ("retry_consumption", .none),
          ("retry_budget", .dict
            [("tenant_id", .str intent.tenantId), ("run_id", .str intent.runId),
              ("used", .int 0), ("maximum", .int intent.maximumRetries)]),
          ("receipt", .none), ("receipt_alias_digests", .list [])]).Plain := by
      simp only [Value.Plain, Value.PlainFields, Value.PlainItems, encodable_text, intent.plain,
        intent.shaped.tenantId.encodable, intent.shaped.runId.encodable, and_self]
    obtain ⟨hashed, digested, shape⟩ :=
      ownershipNamespacedDigest_ok plain "workflow-transition-ownership-reservation-observation"
    exact ⟨hashed, shape, fun _ => digested⟩
  obtain ⟨digest, shape, hashed⟩ := hashable
  refine ⟨digest, shape, ?_⟩
  have positive : ownershipPositiveInteger generation "claim_generation" = .ok generation :=
    ownershipField_eq_ok.mpr ⟨counted, rfl⟩
  have belongs := firstBudget_matches intent
  have passes : ReservationObservation.postInit
      ⟨intent, generation, none, none, none, none, firstBudget intent, none, [], digest⟩ =
        .ok () := by
    simp only [ReservationObservation.postInit, ok_iff, discard_eq_ok]
    refine ⟨generation, positive, none, rfl, none, rfl, (), ⟨none, rfl⟩, (), ?_, (), rfl,
      (), by simp, (),
      rfl, (), by simp [sortedDigests], (), rfl, (), rfl, (), ⟨digest, ?_⟩, digest,
        hashed digest, by simp⟩
    · simpa [firstBudget] using belongs
    · exact ownershipField_eq_ok.mpr ⟨shape, rfl⟩
  simp only [observeTransitionReservation, bind_eq_ok]
  refine ⟨[], rfl, none, rfl, ?_⟩
  simp only [transitionOwnershipObservation, ok_iff]
  exact ⟨generation, positive, none, rfl, [], rfl, none, rfl, none, rfl, (), belongs, digest,
    hashed [], (), passes, rfl⟩

/-- A first reservation at the planned time gets a receipt. -/
lemma build_first :
    ∃ receipt, ReservationReceipt.build intent generation none
      (acquisition intent none intent.plannedAt) none 0 0 intent.plannedAt = .ok receipt := by
  have exact := firstAcquisition_exact intent
  have shaped := intent.shaped
  have absent : (Value.dict [("absent", .bool true)]).Plain := by
    simp only [Value.Plain, Value.PlainFields, encodable_text, and_self]
  obtain ⟨priorDigest, priorHashed, priorShape⟩ :=
    ownershipNamespacedDigest_ok absent "workflow-transition-ownership-record"
  obtain ⟨acquiredDigest, acquiredHashed, acquiredShape⟩ :=
    ownershipNamespacedDigest_ok exact.plain "workflow-transition-ownership-record"
  let fields (digest : Str) : ReceiptFields :=
    { intent, creatorClaimGeneration := generation, priorOwnership := none,
      priorRecordDigest := priorDigest,
      acquiredOwnership := acquisition intent none intent.plannedAt,
      acquiredRecordDigest := acquiredDigest, retryConsumption := none, retryBudgetUsedBefore := 0,
      retryBudgetUsedAfter := 0, reservedAt := intent.plannedAt, receiptDigest := digest }
  -- The digest of a receipt covers everything but itself.
  have plain : (Value.dict (fields []).content).Plain := by
    have schema : Encodable reservationReceiptSchema := encodable_text _
    simp only [content, fields, Value.Plain, Value.PlainFields, encodable_text, schema,
      intent.plain, priorShape.encodable, acquiredShape.encodable, exact.plain, shaped.plannedAt.1,
      Option.map_none, Option.getD_none, and_self]
  obtain ⟨digest, hashed, shape⟩ :=
    ownershipNamespacedDigest_ok plain "workflow-transition-ownership-reservation-receipt"
  have passes : (fields digest).postInit = .ok () := by
    have fits : ¬ intent.maximumRetries < 0 := by have := shaped.maximumRetries.1; omega
    simp only [postInit, assertShape, assertBinding, ok_iff, discard_eq_ok,
      ownershipPositiveInteger, ownershipNonNegativeInteger, ownershipTimestamp, ownershipSha256,
        ownershipField_eq_ok,
      exactOptionalOwnership_eq_ok, ExecutionOwnership.fromExactMapping_eq_ok]
    refine ⟨(), ⟨(), ⟨_, counted, rfl⟩, (), ⟨none, by simp [fields], rfl⟩, (), ⟨_, exact, rfl⟩,
      0, ⟨by simp [fields, ownershipMaxCounter], rfl⟩, 0,
        ⟨by simp [fields, ownershipMaxCounter], rfl⟩,
      (), by simpa [fields] using fits, (), ⟨_, shaped.plannedAt, rfl⟩, (), ⟨_, priorShape, rfl⟩,
      (), ⟨_, acquiredShape, rfl⟩, (), ⟨_, shape, rfl⟩, (), by simp [fields], priorDigest,
        priorHashed,
      (), by simp [fields], acquiredDigest, acquiredHashed, by simp [fields]⟩, (), rfl, (), ?_, (),
        ?_,
      digest, hashed, by simp [fields]⟩
    · simp [fields, AcquisitionMismatch, acquisition, shaped.leaseLater,
        Float64.not_lt_self]
    · simp [fields, assertRetry, raiseIf]
  refine ⟨⟨fields digest, passes⟩, ?_⟩
  simp only [ReservationReceipt.build, bind_eq_ok, construct_eq_ok]
  exact ⟨priorDigest, priorHashed, acquiredDigest, acquiredHashed, digest, hashed, rfl⟩

/-- A first reservation at the planned time finds everything in place. -/
lemma first_made : ∃ digest values,
    ReservationMade intent generation digest intent.plannedAt .empty values := by
  obtain ⟨digest, shape, observed⟩ := observe_empty intent counted
  obtain ⟨receipt, built⟩ := build_first intent counted
  obtain ⟨evidence, read, unrecorded⟩ := readHistory_empty intent
  let values : ReservationValues :=
    ⟨acquisition intent none intent.plannedAt, none, firstBudget intent, receipt⟩
  have shaped := intent.shaped
  have valued : transitionOwnershipReservationValues
      ⟨intent, generation, none, none, none, none, firstBudget intent, none, [], digest⟩
        generation digest
      intent.plannedAt = .ok values := by
    simp only [transitionOwnershipReservationValues, ok_iff, ownershipPositiveInteger,
      ownershipSha256, ownershipTimestamp, ownershipField_eq_ok,
        ExecutionOwnership.fromExactMapping_eq_ok]
    exact ⟨generation, ⟨counted, rfl⟩, digest, ⟨shape, rfl⟩, intent.plannedAt,
      ⟨shaped.plannedAt, rfl⟩, (), by simp, (), by simp, (), Float64.not_lt_self _, (), rfl, none,
        rfl, (), shaped.leaseLater,
      _, ⟨firstAcquisition_exact intent, rfl⟩, receipt, built, rfl⟩
  exact ⟨digest, values, ⟨evidence, read, unrecorded⟩, ⟨_, observed, rfl, valued⟩, by simp [values]⟩

end

end Ananta
