import Ananta.SideEffects.Authorization

/-! The shape of authorizations, which is what makes them serializable. -/

namespace Ananta

open List AuthorizationTerms AuthorizationReceiptFields

/-- The shape that every intent and every receipt has passed the check of. -/
@[mk_iff] structure AuthorizationTerms.Shaped (terms : AuthorizationTerms) : Prop where
  receiptId : IsIdentity terms.receiptId
  transitionId : IsIdentity terms.transitionId
  effectId : IsIdentity terms.effectId
  tenantId : IsIdentity terms.tenantId
  workflowId : IsIdentity terms.workflowId
  runId : IsIdentity terms.runId
  stepId : IsIdentity terms.stepId
  operationId : IsIdentity terms.operationId
  operationFenceId : IsIdentity terms.operationFenceId
  authorizationEnvelopeId : IsIdentity terms.authorizationEnvelopeId
  ownershipAttemptId : IsIdentity terms.ownershipAttemptId
  runtimeId : IsIdentity terms.runtimeId ∧ terms.runtimeId.length ≤ 64
  declaredOperation : IsBoundedText 512 terms.declaredOperation
  sideEffectClass : terms.sideEffectClass ≠ .read
  effectOrdinal : 1 ≤ terms.effectOrdinal ∧ terms.effectOrdinal ≤ maxCounter
  ownershipFencingToken : 1 ≤ terms.ownershipFencingToken ∧ terms.ownershipFencingToken ≤ maxCounter
  creatorClaimGeneration : 1 ≤ terms.creatorClaimGeneration ∧
    terms.creatorClaimGeneration ≤ maxCounter
  plannedAt : IsTimestamp terms.plannedAt
  operationPayloadDigest : IsSha256 terms.operationPayloadDigest
  operationIntentDigest : IsSha256 terms.operationIntentDigest
  authorizationEnvelopeDigest : IsSha256 terms.authorizationEnvelopeDigest
  transitionRequestFingerprint : IsSha256 terms.transitionRequestFingerprint
  effectPayloadDigest : IsSha256 terms.effectPayloadDigest

/-- The derivations that every intent and every receipt has passed the check of. -/
structure AuthorizationTerms.Derived (terms : AuthorizationTerms) : Prop where
  operation : operationIdFor terms.tenantId terms.runId terms.stepId terms.declaredOperation =
    .ok terms.operationId
  digest : Ananta.operationIntentDigest terms.operationId terms.tenantId terms.workflowId
    terms.runId
    terms.stepId terms.declaredOperation terms.sideEffectClass terms.operationPayloadDigest =
    .ok terms.operationIntentDigest
  fence : operationFenceIdOf terms.operationId terms.operationIntentDigest terms.ownershipAttemptId
    terms.ownershipFencingToken terms.authorizationEnvelopeId terms.authorizationEnvelopeDigest =
    .ok terms.operationFenceId
  idempotencyKey : terms.idempotencyKey = terms.operationFenceId
  receipt : authorizationReceiptIdOf terms.transitionId terms.effectId = .ok terms.receiptId

lemma runtimeIdentity_eq_ok {value result : Str} :
    runtimeIdentity value = .ok result ↔ (IsIdentity value ∧ value.length ≤ 64) ∧
      result = value := by
  -- The first check hands the value to the second one.
  simp only [runtimeIdentity, authorizationIdentity, bind_eq_ok, authorizationField_eq_ok]
  grind

namespace AuthorizationTerms

variable {terms : AuthorizationTerms}

/-- The shape checks accept exactly the shaped terms. -/
lemma assertShape_eq_ok : terms.assertShape = .ok () ↔ terms.Shaped := by
  -- Every field check hands its field on, so only the conditions remain.
  simp only [assertShape, authorizationIdentity, runtimeIdentity_eq_ok, boundedText,
    positiveInteger, positiveTimestamp, authorizationSha256, ok_iff, discard_eq_ok,
      authorizationField_eq_ok, exists_and_left,
    exists_eq, and_true, exists_const, shaped_iff]

/-- The binding checks accept exactly the derived terms. -/
lemma assertBinding_eq_ok : terms.assertBinding = .ok () ↔ terms.Derived := by
  -- Each expected value is computed before any of them is compared.
  simp only [assertBinding, ok_iff, not_or, not_not]
  constructor
  · rintro ⟨_, operation, _, digest, _, fence, _, receipt, rfl, rfl, rfl, key, rfl⟩
    exact ⟨operation, digest, fence, key, receipt⟩
  · rintro ⟨operation, digest, fence, key, receipt⟩
    exact ⟨_, operation, _, digest, _, fence, _, receipt, rfl, rfl, rfl, key, rfl⟩

/-- The entries of shaped terms are plain. -/
lemma Shaped.plain (shaped : terms.Shaped) (key : terms.idempotencyKey = terms.operationFenceId)
    {rest : Fields} (others : Value.PlainFields rest) :
    Value.PlainFields (terms.content ++ rest) := by
  -- Identities, digests and the bounded text can be encoded, and the time is finite.
  have kind : Encodable terms.sideEffectClass.name := by
    cases terms.sideEffectClass <;> exact encodable_text _
  have idempotency : Encodable terms.idempotencyKey := by
    rw [key]
    exact shaped.operationFenceId.encodable
  simp only [content, cons_append, nil_append, Value.Plain, Value.PlainFields, encodable_text,
    kind, idempotency, shaped.receiptId.encodable, shaped.transitionId.encodable,
    shaped.effectId.encodable, shaped.tenantId.encodable, shaped.workflowId.encodable,
    shaped.runId.encodable, shaped.stepId.encodable, shaped.operationId.encodable,
    shaped.operationFenceId.encodable, shaped.authorizationEnvelopeId.encodable,
    shaped.ownershipAttemptId.encodable, shaped.runtimeId.1.encodable,
    shaped.declaredOperation.2.2.2.2, shaped.plannedAt.1, shaped.operationPayloadDigest.encodable,
    shaped.operationIntentDigest.encodable, shaped.authorizationEnvelopeDigest.encodable,
    shaped.transitionRequestFingerprint.encodable, shaped.effectPayloadDigest.encodable, others,
      and_self]

end AuthorizationTerms

/-- The checks of an intent are its schema, its shape and its derivation. -/
lemma AuthorizationIntentFields.postInit_eq_ok {intent : AuthorizationIntentFields} :
    intent.postInit = .ok () ↔ intent.schema = authorizationIntentSchema ∧
      intent.toAuthorizationTerms.Shaped ∧ intent.toAuthorizationTerms.Derived := by
  -- The three checks run one after another.
  simp only [postInit, ok_iff, not_not, assertBinding_eq_ok]
  constructor
  · rintro ⟨_, schema, _, shaped, derived⟩
    exact ⟨schema, assertShape_eq_ok.mp shaped, derived⟩
  · rintro ⟨schema, shaped, derived⟩
    exact ⟨(), schema, (), assertShape_eq_ok.mpr shaped, derived⟩

namespace AuthorizationIntent

variable (intent : AuthorizationIntent)

lemma shaped : intent.toAuthorizationTerms.Shaped :=
  (AuthorizationIntentFields.postInit_eq_ok.mp intent.valid).2.1

lemma derived : intent.toAuthorizationTerms.Derived :=
  (AuthorizationIntentFields.postInit_eq_ok.mp intent.valid).2.2

/-- An intent serializes to a plain value. -/
lemma plain : intent.toDict.Plain := by
  -- Besides its terms, an intent only has a fixed schema.
  have schema : Encodable intent.schema := by
    rw [(AuthorizationIntentFields.postInit_eq_ok.mp intent.valid).1]
    exact encodable_text _
  have terms : Value.PlainFields (intent.toAuthorizationTerms.content ++ []) :=
    intent.shaped.plain intent.derived.idempotencyKey trivial
  exact ⟨encodable_text _, schema, terms⟩

end AuthorizationIntent

/-- A record is about the operation of some terms. -/
@[mk_iff] structure BoundTo (terms : AuthorizationTerms) (record : SideEffectRecord) : Prop where
  operationId : record.operationId = terms.operationId
  tenantId : record.tenantId = terms.tenantId
  workflowId : record.workflowId = terms.workflowId
  runId : record.runId = terms.runId
  stepId : record.stepId = terms.stepId
  declaredOperation : record.declaredOperation = terms.declaredOperation
  sideEffectClass : record.sideEffectClass = terms.sideEffectClass

/-- The record that some terms authorize under a given revision. -/
structure AuthorizedFor (terms : AuthorizationTerms) (revision : Int)
    (record : SideEffectRecord) : Prop
    extends BoundTo terms record where
  status : record.status = .authorized
  revision : record.revision = revision
  fencingToken : record.fencingToken = terms.ownershipFencingToken
  authorizationEnvelopeId : record.authorizationEnvelopeId = terms.authorizationEnvelopeId
  attemptId : record.attemptId = []
  resultRef : record.resultRef = []
  failureCode : record.failureCode = []
  updatedAt : record.updatedAt = terms.plannedAt
  schema : record.schema = sideEffectLedgerSchema

/-- The relations between the fields of a receipt that its own check guarantees. -/
structure AuthorizationReceiptFields.Sound (receipt : AuthorizationReceiptFields) : Prop where
  shaped : receipt.toAuthorizationTerms.Shaped
  derived : receipt.toAuthorizationTerms.Derived
  schema : receipt.schema = authorizationReceiptSchema
  record : AuthorizedFor receipt.toAuthorizationTerms receipt.authorizedLedgerRevision
    receipt.authorizedRecord
  revision : 1 ≤ receipt.authorizedLedgerRevision
  priorRecordDigest : IsSha256 receipt.priorRecordDigest
  authorizedRecordDigest : IsSha256 receipt.authorizedRecordDigest
  receiptDigest : IsSha256 receipt.receiptDigest
  authorizedAt : receipt.authorizedAt = receipt.plannedAt

variable {record : SideEffectRecord} {terms : AuthorizationTerms} {payload : Value}

lemma SideEffectRecord.schema_of_assertValid
    (valid : record.assertValid = .ok ()) : record.schema = sideEffectLedgerSchema := by
  -- The schema is the last thing that is checked.
  simp only [assertValid, ok_iff, not_not] at valid
  obtain ⟨_, _, _, _, _, _, _, _, schema⟩ := valid
  exact schema

lemma SideEffectRecord.assertValid_of_fromExactMapping {raw : SideEffectRecord}
    (hydrated : raw.fromExactMapping = .ok record) : raw.assertValid = .ok () := by
  -- The checks before it are about single fields.
  simp only [fromExactMapping, bind_eq_ok] at hydrated
  obtain ⟨_, _, _, _, _, _, _, _, _, valid, _⟩ := hydrated
  exact valid

/-- Every receipt is sound. -/
lemma AuthorizationReceipt.sound (receipt : AuthorizationReceipt) : receipt.Sound := by
  -- The checks of a receipt are read off one after another.
  have valid := receipt.valid
  simp only [postInit, ok_iff, discard_eq_ok, authorizationSha256, positiveInteger,
    authorizationField_eq_ok, not_not] at valid
  obtain ⟨_, ⟨_, hydrated⟩, _, shaped, _, derived, _, schema, _, _, _, _, _, ⟨_, priorDigest, _⟩, _,
    ⟨_, counted, _⟩, _, ⟨_, recordDigest, _⟩, _, ⟨_, receiptDigest, _⟩, _, _, _, sameTime, _, _, _,
      matching, _⟩ := valid
  simp only [RecordMismatch, not_or, not_not] at matching
  obtain ⟨operation, tenant, workflow, run, step, declared, kind, status, revision, fence, envelope,
    attempt, result, failure, updated⟩ := matching
  exact
    { shaped := assertShape_eq_ok.mp shaped
      derived := assertBinding_eq_ok.mp derived
      schema := schema
      record := ⟨⟨operation, tenant, workflow, run, step, declared, kind⟩, status, revision, fence,
        envelope,
        attempt, result, failure, updated.trans sameTime,
        SideEffectRecord.schema_of_assertValid
          (SideEffectRecord.assertValid_of_fromExactMapping hydrated)⟩
      revision := counted.1
      priorRecordDigest := priorDigest
      authorizedRecordDigest := recordDigest
      receiptDigest := receiptDigest
      authorizedAt := sameTime }

def SideEffectRecord.TextsEncodable (record : SideEffectRecord) : Prop :=
  Encodable record.attemptId ∧ Encodable record.authorizationEnvelopeId ∧
    Encodable record.resultRef ∧ Encodable record.failureCode

/-- A record bound to shaped terms serializes to a plain value if the texts that callers chose
do. -/
lemma BoundTo.plain (bound : BoundTo terms record)
    (shaped : terms.Shaped) (schema : record.schema = sideEffectLedgerSchema)
    (finite : record.updatedAt.IsFinite) (texts : record.TextsEncodable) : record.toDict.Plain := by
  -- The texts that describe the operation are those of the terms.
  have kind : Encodable record.sideEffectClass.name := by
    cases record.sideEffectClass <;> exact encodable_text _
  have ledger : Encodable record.schema := by
    rw [schema]
    exact encodable_text _
  obtain ⟨attempt, envelope, result, failure⟩ := texts
  simp only [SideEffectRecord.toDict, Value.Plain, Value.PlainFields, encodable_text, ledger, kind,
    attempt, envelope, result, failure, finite, bound.operationId, bound.tenantId, bound.workflowId,
      bound.runId,
    bound.stepId, bound.declaredOperation, shaped.operationId.encodable, shaped.tenantId.encodable,
    shaped.workflowId.encodable, shaped.runId.encodable, shaped.stepId.encodable,
    shaped.declaredOperation.2.2.2.2, and_self]

/-- The record that shaped terms authorize serializes to a plain value. -/
lemma AuthorizedFor.plain {revision : Int}
    (authorized : AuthorizedFor terms revision record) (shaped : terms.Shaped) :
    record.toDict.Plain := by
  -- The envelope is an identity, and the other texts are empty.
  refine authorized.toBoundTo.plain shaped authorized.schema ?_ ⟨?_, ?_, ?_, ?_⟩
  · rw [authorized.updatedAt]
    exact shaped.plannedAt.1
  · rw [authorized.attemptId]
    exact encodable_nil
  · rw [authorized.authorizationEnvelopeId]
    exact shaped.authorizationEnvelopeId.encodable
  · rw [authorized.resultRef]
    exact encodable_nil
  · rw [authorized.failureCode]
    exact encodable_nil

/-- The contents that a receipt is hashed from serialize to a plain value. -/
lemma AuthorizationReceiptFields.content_plain {receipt : AuthorizationReceiptFields}
    (shaped : receipt.toAuthorizationTerms.Shaped) (derived : receipt.toAuthorizationTerms.Derived)
    (schema : receipt.schema = authorizationReceiptSchema)
    (record : receipt.authorizedRecord.toDict.Plain) (prior : IsSha256 receipt.priorRecordDigest)
    (authorized : IsSha256 receipt.authorizedRecordDigest)
    (sameTime : receipt.authorizedAt = receipt.plannedAt) {rest : Fields}
    (others : Value.PlainFields rest) : Value.PlainFields (receipt.content ++ rest) := by
  -- Besides its terms, a receipt has digests, counters, a record and a time that is the planned
  -- one.
  have issued : Encodable receipt.schema := by
    rw [schema]
    exact encodable_text _
  simp only [content, cons_append, append_assoc]
  refine ⟨encodable_text _, issued, shaped.plain derived.idempotencyKey ?_⟩
  simp only [nil_append, Value.Plain, Value.PlainFields, encodable_text, record, prior.encodable,
    authorized.encodable, sameTime, shaped.plannedAt.1, others, and_self]

lemma AuthorizationReceipt.plain (receipt : AuthorizationReceipt) : receipt.toDict.Plain := by
  have sound := receipt.sound
  exact content_plain sound.shaped sound.derived sound.schema
    (sound.record.plain sound.shaped) sound.priorRecordDigest sound.authorizedRecordDigest
    sound.authorizedAt ⟨encodable_text _, sound.receiptDigest.encodable, trivial⟩

/-- The digest of a plain payload exists. -/
lemma namespacedDigest_ok (plain : payload.Plain) (space : String) :
    ∃ digest, namespacedDigest space payload = .ok digest ∧ IsSha256 digest := by
  -- The payload is rendered, framed by its name space and hashed.
  obtain ⟨rendered, written, encodable⟩ := canonicalJson_plain plain
  have framed : Encodable (text space ++ "\x00" ++ rendered) := by simp [encodable]
  obtain ⟨digest, hashed, shape⟩ := sha256Text_ok framed
  refine ⟨digest, ?_, shape⟩
  simp only [namespacedDigest, bind_eq_ok]
  exact ⟨rendered, written, hashed⟩

/-- Only a plain payload has a digest. -/
lemma plain_of_namespacedDigest {space : String} {digest : Str}
    (hashed : namespacedDigest space payload = .ok digest) : payload.Plain := by
  -- The text that is hashed holds the rendered payload.
  simp only [namespacedDigest, bind_eq_ok] at hashed
  obtain ⟨rendered, written, hashed⟩ := hashed
  have encodable := (sha256Text_eq_ok.mp hashed).1
  rw [encodable_append] at encodable
  exact plain_of_canonicalJson written encodable.2

end Ananta
