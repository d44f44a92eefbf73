import Ananta.SideEffects.Receipts

/-! Which authorizations go through: intents can be derived, and a ready ledger issues their
receipts. -/

namespace Ananta

open List AuthorizationReceiptFields Call

/-- The shape that the contents of an intent need for its identifiers to be derived. -/
structure AuthorizationTerms.Plannable (contents : AuthorizationTerms) : Prop where
  transitionId : IsIdentity contents.transitionId
  effectId : IsIdentity contents.effectId
  tenantId : IsIdentity contents.tenantId
  workflowId : IsIdentity contents.workflowId
  runId : IsIdentity contents.runId
  stepId : IsIdentity contents.stepId
  authorizationEnvelopeId : IsIdentity contents.authorizationEnvelopeId
  ownershipAttemptId : IsIdentity contents.ownershipAttemptId
  runtimeId : IsIdentity contents.runtimeId ∧ contents.runtimeId.length ≤ 64
  declaredOperation : IsBoundedText 512 contents.declaredOperation
  sideEffectClass : contents.sideEffectClass ≠ .read
  effectOrdinal : 1 ≤ contents.effectOrdinal ∧ contents.effectOrdinal ≤ maxCounter
  ownershipFencingToken : 1 ≤ contents.ownershipFencingToken ∧
    contents.ownershipFencingToken ≤ maxCounter
  creatorClaimGeneration :
    1 ≤ contents.creatorClaimGeneration ∧ contents.creatorClaimGeneration ≤ maxCounter
  plannedAt : IsTimestamp contents.plannedAt
  operationPayloadDigest : IsSha256 contents.operationPayloadDigest
  authorizationEnvelopeDigest : IsSha256 contents.authorizationEnvelopeDigest
  transitionRequestFingerprint : IsSha256 contents.transitionRequestFingerprint
  effectPayloadDigest : IsSha256 contents.effectPayloadDigest

/-- An operation identifier can be derived from trimmed, encodable texts, and it is an identity. -/
lemma operationIdFor_ok {tenantId runId stepId declaredOperation : Str}
    (tenant : IsIdentity tenantId) (run : IsIdentity runId) (step : IsIdentity stepId)
    (declared : IsBoundedText 512 declaredOperation) :
    ∃ operationId, operationIdFor tenantId runId stepId declaredOperation = .ok operationId ∧
      IsIdentity operationId := by
  have plain : (Value.list ([tenantId, runId, stepId, declaredOperation].map .str)).Plain :=
    ⟨tenant.encodable, run.encodable, step.encodable, declared.2.2.2.2, trivial⟩
  obtain ⟨rendered, written, encodable⟩ := canonicalJson_plain plain
  obtain ⟨digest, hashed, shape⟩ := sha256Text_ok encodable
  refine ⟨"op-" ++ digest.take 32, ?_, ?_⟩
  · simp only [operationIdFor, tenant.strip_eq, run.strip_eq, step.strip_eq, ← declared.2.1, ok_iff]
    refine ⟨(), ?_, rendered, written, digest, hashed, rfl⟩
    simp [tenant.ne_nil.symm, run.ne_nil.symm, step.ne_nil.symm, declared.1.symm]
  · -- Half a digest stands after the lead.
    have short : (digest.take 32).length ≤ 64 := by
      rw [length_take]
      omega
    have digits : (digest.take 32).all isLowerHex :=
      all_eq_true.mpr fun point member =>
        all_eq_true.mp shape.2 point (mem_of_mem_take member)
    have lead : "op-" = codePoint 'o' :: [codePoint 'p'] ++ "-" := by decide
    rw [lead]
    exact isIdentity_digest (by decide) (by decide) (by decide) short digits

lemma isIdentity_authorization {digest : Str} (hashed : IsSha256 digest) :
    IsIdentity ("wftsf-" ++ digest) ∧ IsIdentity ("wftsar-" ++ digest) := by
  have fence : "wftsf-" = codePoint 'w' :: "ftsf" ++ "-" := by decide
  have receipt : "wftsar-" = codePoint 'w' :: "ftsar" ++ "-" := by decide
  rw [fence, receipt]
  constructor
  all_goals exact isIdentity_digest (by decide) (by decide) (by decide) (le_of_eq hashed.1) hashed.2

/-- Well-shaped contents can be given their derived identifiers. -/
lemma exists_authorizationIntent {contents : AuthorizationTerms} (plannable : contents.Plannable) :
    ∃ intent : AuthorizationIntent, intent.toAuthorizationTerms =
      { contents with
        receiptId := intent.receiptId
        operationId := intent.operationId
        operationIntentDigest := intent.operationIntentDigest
        operationFenceId := intent.operationFenceId
        idempotencyKey := intent.idempotencyKey } := by
  have kind : Encodable contents.sideEffectClass.name := by
    cases contents.sideEffectClass <;> exact encodable_text _
  -- Each identifier is derived from the contents and from the identifiers before it.
  obtain ⟨operation, operationDerived, operationShape⟩ := operationIdFor_ok plannable.tenantId
    plannable.runId plannable.stepId plannable.declaredOperation
  obtain ⟨digest, digestDerived, digestShape⟩ : ∃ digest, operationIntentDigest operation
      contents.tenantId contents.workflowId contents.runId contents.stepId
        contents.declaredOperation
      contents.sideEffectClass contents.operationPayloadDigest = .ok digest ∧ IsSha256 digest := by
    refine namespacedDigest_ok ?_ _
    simp only [Value.Plain, Value.PlainFields, encodable_text, operationShape.encodable,
      plannable.tenantId.encodable, plannable.workflowId.encodable, plannable.runId.encodable,
      plannable.stepId.encodable, plannable.declaredOperation.2.2.2.2, kind,
      plannable.operationPayloadDigest.encodable, and_self]
  obtain ⟨fence, fenceDerived, fenceShape⟩ : ∃ fence, operationFenceIdOf operation digest
      contents.ownershipAttemptId contents.ownershipFencingToken contents.authorizationEnvelopeId
      contents.authorizationEnvelopeDigest = .ok fence ∧ IsIdentity fence := by
    have plain : Value.Plain (.dict
        [("operation_id", .str operation), ("operation_intent_digest", .str digest),
          ("ownership_attempt_id", .str contents.ownershipAttemptId),
          ("ownership_fencing_token", .int contents.ownershipFencingToken),
          ("authorization_envelope_id", .str contents.authorizationEnvelopeId),
          ("authorization_envelope_digest", .str contents.authorizationEnvelopeDigest)]) := by
      simp only [Value.Plain, Value.PlainFields, encodable_text, operationShape.encodable,
        digestShape.encodable, plannable.ownershipAttemptId.encodable,
        plannable.authorizationEnvelopeId.encodable,
          plannable.authorizationEnvelopeDigest.encodable,
        and_self]
    obtain ⟨hash, hashed, shape⟩ := namespacedDigest_ok plain
      "workflow-transition-side-effect-operation-fence.v1"
    refine ⟨"wftsf-" ++ hash, ?_, (isIdentity_authorization shape).1⟩
    simp only [operationFenceIdOf, ok_iff]
    exact ⟨hash, hashed, rfl⟩
  obtain ⟨receipt, receiptDerived, receiptShape⟩ : ∃ receipt, authorizationReceiptIdOf
      contents.transitionId contents.effectId = .ok receipt ∧ IsIdentity receipt := by
    have plain : Value.Plain (.dict [("transition_id", .str contents.transitionId),
        ("effect_id", .str contents.effectId)]) := by
      simp only [Value.Plain, Value.PlainFields, encodable_text, plannable.transitionId.encodable,
        plannable.effectId.encodable, and_self]
    obtain ⟨hash, hashed, shape⟩ := namespacedDigest_ok plain
      "workflow-transition-side-effect-authorization-receipt.v1"
    refine ⟨"wftsar-" ++ hash, ?_, (isIdentity_authorization shape).2⟩
    simp only [authorizationReceiptIdOf, ok_iff]
    exact ⟨hash, hashed, rfl⟩
  let terms : AuthorizationTerms :=
    { contents with
      receiptId := receipt
      operationId := operation
      operationIntentDigest := digest
      operationFenceId := fence
      idempotencyKey := fence }
  have shaped : terms.Shaped :=
    { plannable with
      receiptId := receiptShape
      operationId := operationShape
      operationFenceId := fenceShape
      operationIntentDigest := digestShape }
  have derived : terms.Derived :=
    ⟨operationDerived, digestDerived, fenceDerived, rfl, receiptDerived⟩
  exact ⟨⟨⟨terms, authorizationIntentSchema⟩,
    AuthorizationIntentFields.postInit_eq_ok.mpr ⟨rfl, shaped, derived⟩⟩, rfl⟩

section

variable {record : SideEffectRecord} {prior : Option SideEffectRecord} {revision : Int}

/-- A record of a derived operation is valid under a positive revision and a fence that is not
negative. -/
lemma BoundTo.assertValid {terms : AuthorizationTerms}
    (bound : BoundTo terms record) (shaped : terms.Shaped) (derived : terms.Derived)
    (revision : 1 ≤ record.revision) (fence : 0 ≤ record.fencingToken)
    (schema : record.schema = sideEffectLedgerSchema) : record.assertValid = .ok () := by
  simp only [SideEffectRecord.assertValid, bound.operationId, bound.tenantId, bound.workflowId,
    bound.runId, bound.stepId, bound.declaredOperation, ok_iff, not_or, not_not, not_lt]
  exact ⟨(), ⟨shaped.operationId.ne_nil, shaped.tenantId.ne_nil, shaped.workflowId.ne_nil,
    shaped.runId.ne_nil, shaped.stepId.ne_nil, shaped.declaredOperation.1⟩, _, derived.operation,
      (), rfl,
    (), ⟨revision, fence⟩, schema⟩

namespace AuthorizedFor

variable {terms : AuthorizationTerms} {revision : Int} {record : SideEffectRecord}
  (authorized : AuthorizedFor terms revision record) (shaped : terms.Shaped)
  (derived : terms.Derived)
  (counted : 1 ≤ revision ∧ revision ≤ maxCounter)
include authorized shaped derived counted

lemma assertValid : record.assertValid = .ok () := by
  refine authorized.toBoundTo.assertValid shaped derived ?_ ?_ authorized.schema
  · rw [authorized.revision]
    exact counted.1
  · rw [authorized.fencingToken]
    exact le_trans (by decide) shaped.ownershipFencingToken.1

/-- An authorized record survives strict re-hydration. -/
lemma fromExactMapping : record.fromExactMapping = .ok record := by
  have identity : ∀ {value}, IsIdentity value → IsRecordText value :=
    fun identity => ⟨identity.zero_not_mem, identity.encodable⟩
  have empty : IsRecordText [] := ⟨by simp, encodable_nil⟩
  have texts : ∀ value ∈ [record.schema, record.operationId, record.tenantId, record.workflowId,
      record.runId, record.stepId, record.declaredOperation, record.attemptId,
      record.authorizationEnvelopeId, record.resultRef, record.failureCode],
        IsRecordText value := by
    simp only [forall_mem_cons, authorized.schema, authorized.operationId, authorized.tenantId,
      authorized.workflowId, authorized.runId, authorized.stepId, authorized.declaredOperation,
      authorized.attemptId, authorized.authorizationEnvelopeId, authorized.resultRef,
      authorized.failureCode]
    exact ⟨⟨by decide, encodable_text _⟩, identity shaped.operationId, identity shaped.tenantId,
      identity shaped.workflowId, identity shaped.runId, identity shaped.stepId,
      ⟨shaped.declaredOperation.2.2.2.1, shaped.declaredOperation.2.2.2.2⟩, empty,
      identity shaped.authorizationEnvelopeId, empty, empty, by simp⟩
  have valid := authorized.assertValid shaped derived counted
  have fence := shaped.ownershipFencingToken
  simp only [SideEffectRecord.fromExactMapping, positiveInteger, nonnegativeInteger,
    positiveTimestamp, authorized.revision, authorized.fencingToken, authorized.updatedAt, ok_iff,
      discard_eq_ok,
    authorizationField_eq_ok, not_exists, not_and, not_not]
  exact ⟨(), texts, (), ⟨_, counted, rfl⟩, (), ⟨_, ⟨by omega, fence.2⟩, rfl⟩, (),
    ⟨_, shaped.plannedAt, rfl⟩, (), valid, trivial⟩

end AuthorizedFor

lemma sideEffectRecordDigest_ok {record : Option SideEffectRecord}
    (plain : ∀ found ∈ record, found.toDict.Plain) :
    ∃ digest, sideEffectRecordDigest record = .ok digest ∧ IsSha256 digest := by
  refine namespacedDigest_ok ?_ _
  cases record with
  | none => exact ⟨encodable_text _, encodable_text _, trivial⟩
  | some found => exact plain found rfl

/-- What an authorization may follow, and the revision it then authorizes. -/
structure Precedes (prior : Option SideEffectRecord) (revision : Int) : Prop where
  plain : ∀ record ∈ prior, record.toDict.Plain
  status : ∀ record ∈ prior, record.status = .planned ∨ record.status = .failed
  positive : ∀ record ∈ prior, 1 ≤ record.revision
  counted : revision = (prior.map fun record => record.revision + 1).getD 2
  bounded : revision ≤ maxCounter

/-- The authorized revision is a counter. -/
lemma Precedes.counter (precedes : Precedes prior revision) : 1 ≤ revision ∧
    revision ≤ maxCounter := by
  refine ⟨?_, precedes.bounded⟩
  rw [precedes.counted]
  cases prior with
  | none => decide
  | some held =>
    have := precedes.positive held rfl
    show 1 ≤ held.revision + 1
    omega

/-- The revision checks of a receipt hold for what an authorization may follow. -/
lemma Precedes.revisions (precedes : Precedes prior revision) (receipt : AuthorizationReceiptFields)
    (status : receipt.priorStatus = prior.map (·.status))
    (before : receipt.priorRevision = (prior.map (·.revision)).getD 0)
    (after : receipt.authorizedLedgerRevision = revision) :
    receipt.priorStatus ∈ [none, some .planned, some .failed] ∧
      (0 ≤ receipt.priorRevision ∧ receipt.priorRevision ≤ maxCounter) ∧
      receipt.assertRevisions = .ok () := by
  have counted := precedes.counted
  have bounded := precedes.bounded
  simp only [assertRevisions, ok_iff, status, before, after]
  cases prior with
  | none => exact ⟨by simp, by decide, (), by simp, by simpa using counted⟩
  | some held =>
    have positive := precedes.positive held rfl
    change revision = held.revision + 1 at counted
    refine ⟨?_, ⟨?_, ?_⟩, (), ?_, ?_⟩
    · rcases precedes.status held rfl with planned | failed
      · simp [planned]
      · simp [failed]
    · show 0 ≤ held.revision
      omega
    · show held.revision ≤ maxCounter
      omega
    · simpa using positive
    · simpa using counted

/-- A receipt can be issued for every authorized record. -/
lemma newTransitionAuthorizationReceipt_ok {intent : AuthorizationIntent}
    (authorized : AuthorizedFor intent.toAuthorizationTerms revision record)
    (precedes : Precedes prior revision) :
    ∃ receipt, newTransitionAuthorizationReceipt intent prior record = .ok receipt := by
  have shaped := intent.shaped
  have derived := intent.derived
  have plain := authorized.plain shaped
  have counted := precedes.counter
  obtain ⟨priorDigest, priorHashed, priorShape⟩ := sideEffectRecordDigest_ok precedes.plain
  have held : ∀ found ∈ some record, found.toDict.Plain := by
    rintro found ⟨⟩
    exact plain
  obtain ⟨recordDigest, recordHashed, recordShape⟩ := sideEffectRecordDigest_ok held
  -- The receipt's own digest is not among the contents that are hashed.
  let undigested : AuthorizationReceiptFields :=
    { toAuthorizationTerms := intent.toAuthorizationTerms, priorStatus := prior.map (·.status),
      priorRevision := (prior.map (·.revision)).getD 0, priorRecordDigest := priorDigest,
      authorizedLedgerRevision := record.revision, authorizedRecordDigest := recordDigest,
      authorizedRecord := record, authorizedAt := intent.plannedAt, receiptDigest := [] }
  have contents : Value.PlainFields (undigested.content ++ []) :=
    content_plain shaped derived rfl plain priorShape recordShape rfl trivial
  obtain ⟨digest, hashed, shape⟩ := namespacedDigest_ok
    (show Value.Plain (.dict undigested.content) from contents)
    "workflow-transition-side-effect-authorization-receipt-digest.v1"
  have passes : { undigested with receiptDigest := digest }.postInit = .ok () := by
    have mismatch : ¬ { undigested with receiptDigest := digest }.RecordMismatch := by
      simp only [RecordMismatch, undigested, not_or, not_not]
      exact ⟨authorized.operationId, authorized.tenantId, authorized.workflowId, authorized.runId,
        authorized.stepId, authorized.declaredOperation, authorized.sideEffectClass,
          authorized.status,
        trivial, authorized.fencingToken, authorized.authorizationEnvelopeId, authorized.attemptId,
        authorized.resultRef, authorized.failureCode, authorized.updatedAt⟩
    obtain ⟨known, natural, revisions⟩ := precedes.revisions
      { undigested with receiptDigest := digest } rfl rfl authorized.revision
    simp only [postInit, undigested, ok_iff, discard_eq_ok, nonnegativeInteger, positiveInteger,
      authorizationSha256, positiveTimestamp, authorizationField_eq_ok, not_not]
    exact ⟨(), ⟨_, authorized.fromExactMapping shaped derived counted⟩, (),
      AuthorizationTerms.assertShape_eq_ok.mpr shaped, (),
        AuthorizationTerms.assertBinding_eq_ok.mpr derived,
      (), trivial, (), known, (), ⟨_, natural, rfl⟩, (), ⟨_, priorShape, rfl⟩, (),
      ⟨_, authorized.revision ▸ counted, rfl⟩, (), ⟨_, recordShape, rfl⟩, (), ⟨_, shape, rfl⟩, (),
      ⟨_, shaped.plannedAt, rfl⟩, (), trivial, (), revisions, (), mismatch, _, recordHashed, (),
        rfl, _, hashed, rfl⟩
  refine ⟨⟨{ undigested with receiptDigest := digest }, passes⟩, ?_⟩
  simp only [newTransitionAuthorizationReceipt, AuthorizationReceipt.construct, ok_iff,
    checked_eq_ok]
  exact ⟨priorDigest, priorHashed, recordDigest, recordHashed, digest, hashed, ⟨_, passes⟩, rfl,
    rfl⟩

/-- The record that is planned for an intent whose operation is not on file. -/
lemma newRecord_ok (intent : AuthorizationIntent) :
    ∃ planned, newRecord intent.tenantId intent.workflowId intent.runId intent.stepId
        intent.declaredOperation intent.sideEffectClass.name intent.plannedAt = .ok planned ∧
      planned.PristinePlanned ∧ BoundTo intent.toAuthorizationTerms planned ∧
      planned.schema = sideEffectLedgerSchema := by
  have shaped := intent.shaped
  have derived := intent.derived
  -- Identities and class names are trimmed already.
  have kind : strip intent.sideEffectClass.name = intent.sideEffectClass.name ∧
      intent.sideEffectClass.name ≠ [] := by
    cases intent.sideEffectClass <;> decide
  let planned : SideEffectRecord :=
    { operationId := intent.operationId, tenantId := intent.tenantId,
      workflowId := intent.workflowId,
      runId := intent.runId, stepId := intent.stepId, declaredOperation := intent.declaredOperation,
      sideEffectClass := intent.sideEffectClass, updatedAt := intent.plannedAt }
  have bound : BoundTo intent.toAuthorizationTerms planned := ⟨rfl, rfl, rfl, rfl, rfl, rfl, rfl⟩
  have valid := bound.assertValid shaped derived (le_refl 1) (le_refl 0) rfl
  refine ⟨planned, ?_, ⟨rfl, rfl, rfl, rfl, rfl, rfl, rfl⟩, bound, rfl⟩
  simp only [newRecord, shaped.tenantId.strip_eq, shaped.workflowId.strip_eq, shaped.runId.strip_eq,
    shaped.stepId.strip_eq, ← shaped.declaredOperation.2.1, kind.1, SideEffectClass.named_name,
      ok_iff]
  exact ⟨_, derived.operation, (), by simp [kind.2, shaped.workflowId.ne_nil], (), valid, rfl⟩

lemma BoundTo.authorizedBy {intent : AuthorizationIntent} {planned : SideEffectRecord}
    (bound : BoundTo intent.toAuthorizationTerms planned)
    (schema : planned.schema = sideEffectLedgerSchema) :
    AuthorizedFor intent.toAuthorizationTerms (planned.revision + 1)
      (planned.authorizedBy intent) :=
  ⟨{ bound with }, rfl, rfl, rfl, rfl, rfl, rfl, rfl, rfl, schema⟩

/-- No receipt on file stands in the way of an intent. -/
structure Unopposed (intent : AuthorizationIntent) (ledger : Ledger) : Prop where
  unaliased : ∀ other ∈ ledger.transitionAuthorizationReceipts.values,
    ¬ AuthorizationAlias intent other
  history : ∀ other ∈ ledger.transitionAuthorizationReceipts.values,
    other.operationId = intent.operationId → SameOperation intent other
  few : (ledger.receiptsOf intent.operationId).length ≤ maxOperationReceipts

/-- The states of an operation from which an intent can be authorized. -/
inductive Ready (intent : AuthorizationIntent) (ledger : Ledger) : Option SideEffectRecord →
    Prop where
  | absent (missing : ledger.records.get? intent.operationId = none) : Ready intent ledger none
  | failed {current : SideEffectRecord}
      (found : ledger.records.get? intent.operationId = some current)
      (failed : current.status = .failed)
      (passes : assertFailedReauthorization intent current (ledger.receiptsOf intent.operationId) =
        .ok ())
      (texts : current.TextsEncodable) (bounded : current.revision < maxCounter) :
      Ready intent ledger (some current)

variable {intent : AuthorizationIntent} {ledger : Ledger} {current : Option SideEffectRecord}

lemma step_authorize (ledger : Ledger) (intent : AuthorizationIntent) (digest : Str) :
    ledgerMachine.step ledger (.authorizeTransitionEffect intent digest) =
      ((authorizeTransitionEffect intent digest ledger).1.map .receipt,
        (authorizeTransitionEffect intent digest ledger).2) :=
  bind_pure_run _ _ _

lemma Ready.found (ready : Ready intent ledger current) :
    ledger.records.get? intent.operationId = current := by
  cases ready <;> assumption

variable (receipts : Receipts ledger) (unopposed : Unopposed intent ledger)
include receipts unopposed

/-- A failed operation that can be authorized again is covered by its last receipt. -/
lemma Ready.failed_record (found : ledger.records.get? intent.operationId = some record)
    (passes : assertFailedReauthorization intent record (ledger.receiptsOf intent.operationId) =
      .ok ()) :
    BoundTo intent.toAuthorizationTerms record ∧ record.schema = sideEffectLedgerSchema ∧
      record.updatedAt.IsFinite ∧ 1 ≤ record.revision := by
  unfold assertFailedReauthorization at passes
  split at passes
  · cases passes
  rename_i latest last
  simp only [raiseIf_eq_ok, not_or, not_le] at passes
  obtain ⟨issued, named⟩ := mem_receiptsOf.mp (mem_of_getLast? last)
  obtain ⟨held, stored, covers⟩ := receipts.covered latest issued
  rw [named, found, Option.mem_some_iff] at stored
  subst stored
  have same := unopposed.history latest issued named
  have positive := latest.sound.revision
  refine ⟨⟨covers.operationId.trans same.operationId, covers.tenantId.trans same.tenantId,
    covers.workflowId.trans same.workflowId, covers.runId.trans same.runId,
      covers.stepId.trans same.stepId,
    covers.declaredOperation.trans same.declaredOperation,
    covers.sideEffectClass.trans same.sideEffectClass⟩, covers.schema, covers.finite, ?_⟩
  omega

variable (ready : Ready intent ledger current)
include ready

/-- An intent that nothing opposes is observed to have no receipt yet. -/
lemma Ready.observed : ∃ digest, IsSha256 digest ∧ observeTransitionAuthorization intent ledger =
      .ok ⟨none, ledger.receiptsOf intent.operationId, current, digest⟩ := by
  have named : ∀ other ∈ ledger.transitionAuthorizationReceipts.values,
      AuthorizationAlias intent other → other.operationId = intent.operationId :=
    fun other stored named => absurd named (unopposed.unaliased other stored)
  have candidate : candidateReceipt intent (transitionAuthorizationRelevantReceipts intent
      ledger.transitionAuthorizationReceipts.values) = .ok none := by
    have nothing : (transitionAuthorizationRelevantReceipts intent
        ledger.transitionAuthorizationReceipts.values).filter (AuthorizationAlias intent ·) = [] :=
      filter_eq_nil_iff.mpr fun other stored => by
        simpa using unopposed.unaliased other (mem_of_mem_filter stored)
    rw [candidateReceipt, nothing]
    rfl
  -- The record is absent, or bound to the intent by the receipts that cover it.
  have state : (∀ record ∈ current, BoundTo intent.toAuthorizationTerms record ∧
      record.toDict.Plain) ∧
      assertAuthorizable intent current (ledger.receiptsOf intent.operationId) = .ok () := by
    cases ready with
    | absent missing =>
      refine ⟨by simp, raiseIf_eq_ok.mpr (not_not.mpr (eq_nil_iff_forall_not_mem.mpr ?_))⟩
      intro other listed
      obtain ⟨issued, same⟩ := mem_receiptsOf.mp listed
      obtain ⟨record, found, _⟩ := receipts.covered other issued
      rw [same, missing] at found
      cases found
    | failed found failed passes texts =>
      obtain ⟨bound, schema, finite, _⟩ := Ready.failed_record receipts unopposed found passes
      refine ⟨?_, ?_⟩
      · rintro record ⟨⟩
        exact ⟨bound, bound.plain intent.shaped schema finite texts⟩
      · simp only [assertAuthorizable, failed]
        exact passes
  obtain ⟨digest, hashed, shape⟩ := authorizationObservationDigest_ok intent none
    (ledger.receiptsOf intent.operationId) fun record found => (state.1 record found).2
  refine ⟨digest, shape, ?_⟩
  simp only [observeTransitionAuthorization, transitionAuthorizationObservation, ready.found,
    candidate, operationReceipts_eq named, ok_iff, forM_eq_ok, not_not, not_lt]
  refine ⟨(), ?_, none, rfl, (), ?_, (), ?_, (), ?_, (), state.2, digest, hashed, rfl⟩
  · have few := unopposed.few
    rw [Ledger.receiptsOf, length_insertionSort] at few
    rwa [relevantReceipts_eq named]
  · intro other listed
    obtain ⟨issued, same⟩ := mem_receiptsOf.mp listed
    exact assertOperationHistory_eq_ok.mpr (unopposed.history other issued same)
  · exact (receipts.receiptsOf_chain intent.operationId).isChain
  · intro record listed
    exact assertLedgerBinding_eq_ok.mpr (state.1 record (Option.mem_toList.mp listed)).1

/-- The record that an authorization writes over the current one, or over a newly planned one. -/
lemma Ready.values : ∃ record receipt, transitionAuthorizationCommitValues intent current
      (ledger.receiptsOf intent.operationId) = .ok (record, receipt) := by
  have shaped := intent.shaped
  have derived := intent.derived
  -- Both kinds of planned record are bound to the intent and pass the checks on them.
  obtain ⟨planned, started, passes, bound, schema, precedes⟩ : ∃ planned,
      plannedRecord intent current = .ok planned ∧
      assertPlanned intent (ledger.receiptsOf intent.operationId) planned = .ok () ∧
      BoundTo intent.toAuthorizationTerms planned ∧ planned.schema = sideEffectLedgerSchema ∧
      Precedes current (planned.revision + 1) := by
    cases ready with
    | absent missing =>
      obtain ⟨planned, made, pristine, bound, schema⟩ := newRecord_ok intent
      have first : planned.revision + 1 = 2 := by
        rw [pristine.2.1]
        rfl
      refine ⟨planned, made, ?_, bound, schema, by simp, by simp, by simp, first, ?_⟩
      · simp only [assertPlanned, ok_iff, pristine.1]
        exact ⟨(), by simp, (), by simp [pristine], rfl⟩
      · rw [first]
        decide
    | @failed record found failed passes texts bounded =>
      obtain ⟨bound, schema, finite, positive⟩ :=
        Ready.failed_record receipts unopposed found passes
      refine ⟨record, rfl, ?_, bound, schema, ?_, ?_, ?_, rfl, by omega⟩
      · simp only [assertPlanned, ok_iff, failed]
        exact ⟨(), by simp, (), by simp, passes⟩
      all_goals rintro held ⟨⟩
      · exact bound.plain shaped schema finite texts
      · exact .inr failed
      · exact positive
  have authorized := bound.authorizedBy schema
  obtain ⟨receipt, issued⟩ := newTransitionAuthorizationReceipt_ok authorized precedes
  refine ⟨planned.authorizedBy intent, receipt, ?_⟩
  simp only [transitionAuthorizationCommitValues, ok_iff]
  exact ⟨planned, started, (), passes, (),
    authorized.assertValid shaped derived precedes.counter, receipt, issued, rfl⟩

/-- A ready ledger issues a receipt for an intent that nothing opposes. -/
lemma Ready.authorizes : ∃ digest record receipt, AuthorizationMade intent ledger record receipt ∧
      ledgerMachine.step ledger (.authorizeTransitionEffect intent digest) =
        (.ok (.receipt receipt), ledger.authorized intent record receipt) := by
  obtain ⟨digest, shape, observed⟩ := ready.observed receipts unopposed
  obtain ⟨record, receipt, valued⟩ := ready.values receipts unopposed
  refine ⟨digest, record, receipt, ⟨_, observed, rfl, valued⟩, ?_⟩
  -- The digest of the observation is the one that the authorization expects.
  have accepted : authorizationSha256 digest "expected_observation_digest" = .ok digest :=
    authorizationField_eq_ok.mpr ⟨shape, rfl⟩
  have committed : authorizeTransitionEffect intent digest ledger =
      (.ok receipt, ledger.authorized intent record receipt) := by
    refine (run_evaluate accepted _ ledger).trans ?_
    refine (run_evaluate observed _ ledger).trans ?_
    refine (run_guard (not_not.mpr rfl) _ ledger).trans ?_
    exact run_evaluate valued _ ledger
  rw [step_authorize, committed]
  rfl

end

variable {ledger : Ledger} {request : OperationRequest} {attemptId : Str} {clock : Instant}
  {current updated : SideEffectRecord}

/-- An authorized operation is granted to the attempt that claims it. -/
lemma claim_run (named : attemptId ≠ []) (authorized : current.status = .authorized)
    (carried : Carried ledger request.operationId (request.starting attemptId)
      clock current updated) :
    ledgerMachine.step ledger (.claim request attemptId clock) =
      (.ok (.claim ⟨updated, true, .acquired⟩), ledger.recorded request.operationId updated) := by
  have claimed : claimOperation request attemptId clock ledger =
      (.ok ⟨updated, true, .acquired⟩, ledger.recorded request.operationId updated) := by
    refine (run_guard named _ ledger).trans ?_
    refine (run_evaluate ((requiredRecord_eq_ok ..).mpr carried.found) _ ledger).trans ?_
    -- An authorized operation is neither completed nor claimed already.
    rw [if_neg (by simp [authorized]), if_neg (by simp [authorized])]
    exact run_evaluate carried.moved _ ledger
  refine (bind_pure_run _ _ _).trans ?_
  rw [claimed]
  rfl

/-- The attempt that an operation was granted to may report its failure. -/
lemma fail_run {failureCode : Str} (attempt : current.attemptId = attemptId)
    (carried : Carried ledger request.operationId
      (request.finishing .failed attemptId [] (orElse failureCode "operation_failed")) clock current
      updated) :
    ledgerMachine.step ledger (.fail request attemptId failureCode clock) =
      (.ok (.record updated), ledger.recorded request.operationId updated) := by
  have failed : failOperation request attemptId failureCode clock ledger =
      (.ok updated, ledger.recorded request.operationId updated) := by
    refine (run_evaluate ((requiredRecord_eq_ok ..).mpr carried.found) _ ledger).trans ?_
    refine (run_guard (not_not.mpr attempt) _ ledger).trans ?_
    exact run_evaluate carried.moved _ ledger
  refine (bind_pure_run _ _ _).trans ?_
  rw [failed]
  rfl

end Ananta
