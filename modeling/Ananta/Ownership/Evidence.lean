import Ananta.Library.Dict
import Ananta.Ownership.Reservation

/-! What a reservation reads: the live observation, the historical evidence, and the values to
commit. -/

namespace Ananta

/-- `RetryBudgetSnapshot`. -/
structure RetryBudgetSnapshot where
  tenantId : Str
  runId : Str
  used : Int
  maximum : Int
  schema : Str := "ananta.retry_budget.v1"
  deriving DecidableEq

variable (intent : ReservationIntent) (receipt : ReservationReceipt)

/-- A receipt shares one of the identifiers that name an intent's effect. -/
def CandidateAlias : Prop :=
  receipt.intent.receiptId = intent.receiptId ∨ receipt.intent.effectId = intent.effectId ∨
    receipt.intent.operationFenceId = intent.operationFenceId ∨
    receipt.intent.attemptId = intent.attemptId
  deriving Decidable

/-- A receipt names the attempt, or a counter, of a record. -/
def CurrentAlias (current : ExecutionOwnership) : Prop :=
  receipt.intent.attemptId = current.attemptId ∨
    (receipt.intent.tenantId = current.tenantId ∧ receipt.intent.runId = current.runId ∧
      receipt.intent.stepId = current.stepId ∧
      (receipt.acquiredOwnership.revision = current.revision ∨
        receipt.acquiredOwnership.fencingToken = current.fencingToken))
  deriving Decidable

/-- A receipt of the intent's step already reaches the counters a new reservation would take. -/
def ProspectiveAlias (current : Option ExecutionOwnership) : Prop :=
  (receipt.intent.tenantId = intent.tenantId ∧ receipt.intent.runId = intent.runId ∧
    receipt.intent.stepId = intent.stepId) ∧
  match current with
  | none => True
  | some current =>
    (current.revision < ownershipMaxLegacyRevision ∧
      current.fencingToken < ownershipMaxLegacyRevision) ∧
      (current.revision + 1 ≤ receipt.acquiredOwnership.revision ∨
        current.fencingToken + 1 ≤ receipt.acquiredOwnership.fencingToken)

instance (current : Option ExecutionOwnership) :
    Decidable (ProspectiveAlias intent receipt current) :=
  match current with
  | none => inferInstanceAs (Decidable (_ ∧ True))
  | some _ => inferInstanceAs (Decidable (_ ∧ (_ ∧ _)))

def RelevantReceipt (current : Option ExecutionOwnership) (includeProspective : Bool) : Prop :=
  CandidateAlias intent receipt ∨ (∃ record ∈ current, CurrentAlias receipt record) ∨
    (includeProspective ∧ ProspectiveAlias intent receipt current)

instance (current : Option ExecutionOwnership) (includeProspective : Bool) :
    Decidable (RelevantReceipt intent receipt current includeProspective) :=
  inferInstanceAs (Decidable (_ ∨ (∃ record ∈ current, CurrentAlias receipt record) ∨ _))

def ReceiptAtMost (left right : ReservationReceipt) : Prop :=
  left.intent.receiptId < right.intent.receiptId ∨
    (left.intent.receiptId = right.intent.receiptId ∧ left.receiptDigest ≤ right.receiptDigest)
  deriving Decidable

/-- `_transition_ownership_relevant_receipts`. -/
def transitionOwnershipRelevantReceipts
    (current : Option ExecutionOwnership) (receipts : List ReservationReceipt)
    (includeProspective : Bool) : Except Fault (List ReservationReceipt) := do
  let relevant := receipts.filter fun receipt =>
    RelevantReceipt intent receipt current includeProspective
  raiseIf (16 < relevant.length) (reservationConflict "receipt_alias_limit")
  return relevant.insertionSort ReceiptAtMost

def receiptsByDigest (receipts : List ReservationReceipt) : Dict Str ReservationReceipt :=
  Dict.collect (·.receiptDigest) receipts

/-- `sorted(set(digests))`. -/
def sortedDigests (digests : List Str) : List Str := digests.dedup.insertionSort (· ≤ ·)

def receiptRevisions (receipts : List ReservationReceipt) : List Int :=
  (receipts.flatMap fun receipt =>
    [receipt.acquiredOwnership.revision, (receipt.priorOwnership.map (·.revision)).getD 0]).filter
    (0 < ·)

/-- The fields of a `WorkflowTransitionOwnershipReservationObservation`. -/
structure ReservationObservation where
  intent : ReservationIntent
  claimGeneration : Int
  (current currentHistory acquiredHistory : Option ExecutionOwnership)
  retryConsumption : Option RetryConsumption
  retryBudget : RetryBudgetSnapshot
  receipt : Option ReservationReceipt
  receiptAliasDigests : List Str
  observationDigest : Str

/-- `_ownership_observation_digest`. -/
def ownershipObservationDigest (observation : ReservationObservation) : Except Fault Str :=
  let stableRecord (record : Option ExecutionOwnership) : Value :=
    (record.map (·.toDict)).getD .none
  let budget := observation.retryBudget
  ownershipNamespacedDigest
    (.dict
      [("intent", observation.intent.toDict),
        ("claim_generation", .int observation.claimGeneration),
        ("current", stableRecord observation.current),
        ("current_history", stableRecord observation.currentHistory),
        ("acquired_history", stableRecord observation.acquiredHistory),
        ("retry_consumption", (observation.retryConsumption.map (·.toDict)).getD .none),
        ("retry_budget", .dict
          [("tenant_id", .str budget.tenantId), ("run_id", .str budget.runId),
            ("used", .int budget.used), ("maximum", .int budget.maximum)]),
        ("receipt", (observation.receipt.map (·.toDict)).getD .none),
        ("receipt_alias_digests", .list (observation.receiptAliasDigests.map .str))])
    "workflow-transition-ownership-reservation-observation"

/-- Whether a budget snapshot does not belong to an intent or is overspent. -/
def BudgetMismatch (budget : RetryBudgetSnapshot) : Prop :=
  budget.tenantId ≠ intent.tenantId ∨ budget.runId ≠ intent.runId ∨
    budget.maximum ≠ intent.maximumRetries ∨ budget.used < 0 ∨ budget.maximum < budget.used

instance (budget : RetryBudgetSnapshot) :
    Decidable (BudgetMismatch intent budget) := inferInstanceAs (Decidable (_ ∨ _))

namespace ReservationObservation

variable (observation : ReservationObservation)

/-- An observed receipt is for the observed intent, and not from a later claim. -/
def assertReceipt (generation : Int) : Except Fault Unit :=
  match observation.receipt with
  | none => return ()
  | some receipt =>
    raiseIf (receipt.intent ≠ observation.intent ∨ generation < receipt.creatorClaimGeneration)
      (reservationConflict "observation_receipt_invalid")

/-- The acquired record and the consumption are those of the receipt, or absent with it. -/
def assertEvidence : Except Fault Unit :=
  match observation.receipt with
  | none =>
    raiseIf (observation.acquiredHistory ≠ none ∨ observation.retryConsumption ≠ none)
      (reservationConflict "observation_partial")
  | some receipt =>
    raiseIf (observation.acquiredHistory ≠ some receipt.acquiredOwnership ∨
      observation.retryConsumption ≠ receipt.retryConsumption)
      (reservationConflict "observation_evidence_invalid")

def assertAliases : Except Fault Unit :=
  match observation.receipt with
  | none =>
    raiseIf (observation.receiptAliasDigests ≠ []) (reservationConflict "observation_alias_invalid")
  | some receipt =>
    raiseIf (receipt.receiptDigest ∉ observation.receiptAliasDigests)
      (reservationConflict "observation_alias_invalid")

/-- `WorkflowTransitionOwnershipReservationObservation.__post_init__`. -/
def postInit : Except Fault Unit := do
  let generation ← ownershipPositiveInteger observation.claimGeneration "claim_generation"
  let current ← exactOptionalOwnership observation.current
  let currentHistory ← exactOptionalOwnership observation.currentHistory
  discard <| exactOptionalOwnership observation.acquiredHistory
  let budget := observation.retryBudget
  raiseIf (budget.schema ≠ "ananta.retry_budget.v1" ∨ BudgetMismatch observation.intent budget)
    (reservationConflict "observation_budget_invalid")
  observation.assertReceipt generation
  raiseIf (current ≠ currentHistory) (reservationConflict "observation_current_history_invalid")
  observation.assertEvidence
  raiseIf (observation.receiptAliasDigests ≠ sortedDigests observation.receiptAliasDigests)
    (reservationConflict "observation_alias_invalid")
  observation.receiptAliasDigests.forM fun digest => do
    discard <| ownershipSha256 digest "receipt_alias_digest"
  observation.assertAliases
  discard <| ownershipSha256 observation.observationDigest "observation_digest"
  let expectedDigest ← ownershipObservationDigest observation
  raiseIf (expectedDigest ≠ observation.observationDigest)
    (reservationConflict "observation_digest_mismatch")

end ReservationObservation

/-- Whether a record belongs to another step or workflow than an intent. -/
def RecordMisbound (record : ExecutionOwnership) : Prop :=
  record.tenantId ≠ intent.tenantId ∨ record.workflowId ≠ intent.workflowId ∨
    record.runId ≠ intent.runId ∨ record.stepId ≠ intent.stepId

instance (record : ExecutionOwnership) :
    Decidable (RecordMisbound intent record) := inferInstanceAs (Decidable (_ ∨ _))

/-- The current record is bound to the intent's step, and the history agrees with it. -/
def assertCurrentHistory (history : List ExecutionOwnership) :
    Option ExecutionOwnership → Except Fault Unit
  | none => raiseIf (history ≠ []) (reservationConflict "orphan_history_conflict")
  | some record => do
    raiseIf (RecordMisbound intent record) (reservationConflict "current_binding_conflict")
    -- One history entry has the revision of the current record, and it is that record.
    raiseIf (history.filter (·.revision = record.revision) ≠ [record])
      (reservationConflict "current_history_conflict")

/-- The first part of `_transition_ownership_observation`: the record a history confirms as
current. -/
def observedCurrent (current : Option ExecutionOwnership)
    (history : List ExecutionOwnership) : Except Fault (Option ExecutionOwnership) := do
  let currentCopy ← exactOptionalOwnership current
  let historyCopy ← history.mapM (·.fromExactMapping)
  raiseIf (1000 < historyCopy.length) (reservationConflict "history_limit")
  historyCopy.forM fun value =>
    raiseIf (RecordMisbound intent value) (reservationConflict "history_binding_conflict")
  assertCurrentHistory intent historyCopy currentCopy
  return currentCopy

/-- The second part of `_transition_ownership_observation`: the receipt already issued for an
intent. -/
def observedReceipt (generation : Int)
    (current : Option ExecutionOwnership) (relevant : List ReservationReceipt) :
    Except Fault (Option ReservationReceipt) := do
  let candidates := relevant.filter (CandidateAlias intent ·)
  raiseIf (∃ receipt ∈ candidates, receipt.intent ≠ intent)
    (reservationConflict "receipt_alias_conflict")
  let distinct := receiptsByDigest candidates
  raiseIf (1 < distinct.entries.length) (reservationConflict "receipt_alias_conflict")
  let receipt := distinct.values.head?
  raiseIf (∃ candidate ∈ relevant, candidate ∉ candidates)
    (reservationConflict "prospective_receipt_conflict")
  match receipt with
  | some receipt =>
    raiseIf (generation < receipt.creatorClaimGeneration)
      (reservationConflict "receipt_generation_conflict")
    return some receipt
  | none =>
    let currentReceipts := relevant.filter fun candidate =>
      match current with
      | some record => CurrentAlias candidate record
      | none => false
    raiseIf (currentReceipts ≠ []) (reservationConflict "current_receipt_conflict")
    return none

/-- The third part of `_transition_ownership_observation`: what the history holds for a receipt. -/
def observedAcquisition (current : Option ExecutionOwnership)
    (history : List ExecutionOwnership) (retryConsumption : Option RetryConsumption) :
    Option ReservationReceipt → Except Fault (Option ExecutionOwnership)
  | some receipt => do
    raiseIf (history.filter (·.revision = receipt.acquiredOwnership.revision) ≠
      [receipt.acquiredOwnership]) (reservationConflict "acquired_history_conflict")
    match receipt.retryConsumption with
    | some consumption =>
      raiseIf (retryConsumption ≠ some consumption)
        (reservationConflict "retry_consumption_conflict")
    | none =>
      raiseIf (retryConsumption ≠ none) (reservationConflict "retry_consumption_unexpected")
    return some receipt.acquiredOwnership
  | none => do
    raiseIf (retryConsumption ≠ none) (reservationConflict "retry_without_receipt")
    raiseIf (∃ record ∈ current,
      record.attemptId = intent.attemptId ∨ record.ownerId = intent.ownerId)
      (reservationConflict "current_without_receipt")
    raiseIf (∃ record ∈ history,
      record.attemptId = intent.attemptId ∨ record.ownerId = intent.ownerId)
      (reservationConflict "history_without_receipt")
    return none

/-- `_transition_ownership_observation`. -/
def transitionOwnershipObservation (claimGeneration : Int)
    (current : Option ExecutionOwnership) (history : List ExecutionOwnership)
    (retryConsumption : Option RetryConsumption) (retryBudget : RetryBudgetSnapshot)
    (receipts : List ReservationReceipt) : Except Fault ReservationObservation := do
  let generation ← ownershipPositiveInteger claimGeneration "claim_generation"
  let currentCopy ← observedCurrent intent current history
  let relevant ← transitionOwnershipRelevantReceipts intent currentCopy receipts true
  let receipt ← observedReceipt intent generation currentCopy relevant
  let acquiredHistory ← observedAcquisition intent currentCopy history retryConsumption receipt
  raiseIf (BudgetMismatch intent retryBudget) (reservationConflict "retry_budget_conflict")
  let undigested : ReservationObservation :=
    { intent, claimGeneration := generation, current := currentCopy, currentHistory := currentCopy,
      acquiredHistory, retryConsumption, retryBudget, receipt,
      receiptAliasDigests := sortedDigests (relevant.map (·.receiptDigest)), 
      observationDigest := [] }
  let observation := { undigested with
    observationDigest := ← ownershipObservationDigest undigested }
  observation.postInit
  return observation

/-- The fields of a `WorkflowTransitionOwnershipReservationEvidence`. -/
structure ReservationEvidence where
  intent : ReservationIntent
  receipt : Option ReservationReceipt
  priorHistory : Option ExecutionOwnership
  acquiredHistory : Option ExecutionOwnership
  retryConsumption : Option RetryConsumption
  receiptAliasDigests : List Str

/-- `WorkflowTransitionOwnershipReservationEvidence.__post_init__`. -/
def ReservationEvidence.postInit (evidence : ReservationEvidence) : Except Fault Unit := do
  let prior ← exactOptionalOwnership evidence.priorHistory
  let acquired ← exactOptionalOwnership evidence.acquiredHistory
  raiseIf (evidence.receiptAliasDigests ≠ sortedDigests evidence.receiptAliasDigests)
    (reservationConflict "evidence_alias_conflict")
  evidence.receiptAliasDigests.forM fun digest => do
    discard <| ownershipSha256 digest "receipt_alias_digest"
  match evidence.receipt with
  | none =>
    raiseIf (prior ≠ none ∨ acquired ≠ none ∨ evidence.retryConsumption ≠ none ∨
      evidence.receiptAliasDigests ≠ []) (reservationConflict "evidence_partial")
  | some receipt =>
    raiseIf (receipt.intent ≠ evidence.intent) (reservationConflict "evidence_intent_conflict")
    raiseIf (acquired ≠ some receipt.acquiredOwnership)
      (reservationConflict "evidence_history_conflict")
    raiseIf (evidence.retryConsumption ≠ receipt.retryConsumption)
      (reservationConflict "evidence_retry_conflict")
    raiseIf (prior ≠ receipt.priorOwnership) (reservationConflict "evidence_prior_conflict")
    raiseIf (evidence.receiptAliasDigests ≠ [receipt.receiptDigest])
      (reservationConflict "evidence_alias_conflict")

/-- The history entry of the record that a receipt succeeded. -/
def evidencedPrior (history : List ExecutionOwnership) : Except Fault (Option ExecutionOwnership) :=
  match receipt.priorOwnership with
  | none => return none
  | some prior => do
    let matching := history.filter fun value =>
      value.revision = prior.revision ∧ value.attemptId = prior.attemptId
    raiseIf (matching ≠ [prior]) (reservationConflict "evidence_prior_conflict")
    return some prior

/-- `_transition_ownership_evidence`. -/
def transitionOwnershipEvidence (history : List ExecutionOwnership)
    (retryConsumption : Option RetryConsumption) (receipts : List ReservationReceipt) :
    Except Fault ReservationEvidence := do
  let candidates := receipts.filter (CandidateAlias intent ·)
  match (receiptsByDigest candidates).values with
  | [] =>
    raiseIf ((∃ value ∈ history, value.attemptId = intent.attemptId) ∨ retryConsumption ≠ none)
      (reservationConflict "evidence_partial")
    let evidence : ReservationEvidence := ⟨intent, none, none, none, none, []⟩
    evidence.postInit
    return evidence
  | [receipt] =>
    raiseIf (receipt.intent ≠ intent) (reservationConflict "evidence_receipt_conflict")
    let exactHistory ← history.mapM (·.fromExactMapping)
    let acquired := exactHistory.filter fun value =>
      value.revision = receipt.acquiredOwnership.revision ∧
        value.attemptId = receipt.intent.attemptId
    raiseIf (acquired ≠ [receipt.acquiredOwnership])
      (reservationConflict "evidence_history_conflict")
    let priorHistory ← evidencedPrior receipt exactHistory
    let evidence : ReservationEvidence :=
      { intent, receipt := some receipt, priorHistory,
        acquiredHistory := some receipt.acquiredOwnership, retryConsumption,
        receiptAliasDigests := [receipt.receiptDigest] }
    evidence.postInit
    return evidence
  | _ => throw (reservationConflict "evidence_receipt_conflict")

structure ReservationValues where
  acquired : ExecutionOwnership
  consumption : Option RetryConsumption
  budget : RetryBudgetSnapshot
  receipt : ReservationReceipt

def acquisition (current : Option ExecutionOwnership) (timestamp : Float64) : ExecutionOwnership :=
  { tenantId := intent.tenantId
    workflowId := intent.workflowId
    runId := intent.runId
    stepId := intent.stepId
    attemptId := intent.attemptId
    ownerId := intent.ownerId
    fencingToken := ((current.map (·.fencingToken)).getD 0) + 1
    revision := ((current.map (·.revision)).getD 0) + 1
    status := .active
    leaseExpiresAt := timestamp + intent.leaseSeconds
    lastHeartbeatAt := timestamp }

/-- The checks a current record has to pass before it is taken over. -/
def assertTakeover (observation : ReservationObservation) (timestamp : Float64) :
    Option ExecutionOwnership → Except Fault Unit
  | none => return ()
  | some current => do
    raiseIf (current.status = .completed) (reservationConflict "completed_conflict")
    raiseIf (current.status = .active ∧ timestamp < current.leaseExpiresAt)
      ⟨.transitionOwnershipReservationHeld, "workflow_transition_ownership_lease_held"⟩
    -- The remaining statuses all admit a takeover.
    raiseIf (observation.currentHistory ≠ some current)
      (reservationConflict "current_history_conflict")
    raiseIf (ownershipMaxLegacyRevision ≤ current.revision ∨
      ownershipMaxLegacyRevision ≤ current.fencingToken) (reservationConflict "counter_exhausted")

def recoveryConsumption (current : Option ExecutionOwnership)
    (before : Int) : Except Fault (Option RetryConsumption) :=
  match current with
  | none => return none
  | some _ => do
    raiseIf (intent.maximumRetries ≤ before) (reservationConflict "retry_budget_exhausted")
    let consumption ← RetryConsumption.build
      { tenantId := intent.tenantId, runId := intent.runId, retryId := intent.retryId }
    return some consumption

/-- `_transition_ownership_reservation_values`. -/
def transitionOwnershipReservationValues (observation : ReservationObservation)
    (creatorClaimGeneration : Int) (expectedObservationDigest : Str) (reservedAt : Float64) :
    Except Fault ReservationValues := do
  let generation ← ownershipPositiveInteger creatorClaimGeneration "creator_claim_generation"
  let expected ← ownershipSha256 expectedObservationDigest "expected_observation_digest"
  let timestamp ← ownershipTimestamp reservedAt "reserved_at"
  raiseIf (observation.claimGeneration ≠ generation) (reservationConflict "observation_conflict")
  match observation.receipt with
  | some receipt =>
    raiseIf (generation < receipt.creatorClaimGeneration)
      (reservationConflict "receipt_generation_conflict")
    return ⟨receipt.acquiredOwnership, receipt.retryConsumption, observation.retryBudget, receipt⟩
  | none =>
    raiseIf (observation.observationDigest ≠ expected)
      ⟨.transitionOwnershipReservationStale, "workflow_transition_ownership_observation_stale"⟩
    let intent := observation.intent
    let current := observation.current
    raiseIf (timestamp < intent.plannedAt) (reservationConflict "reserved_at_invalid")
    assertTakeover observation timestamp current
    let before := observation.retryBudget.used
    let consumption ← recoveryConsumption intent current before
    let after := if current.isSome then before + 1 else before
    let acquired := acquisition intent current timestamp
    raiseIf (acquired.leaseExpiresAt ≤ timestamp) (reservationConflict "lease_expiry_invalid")
    let acquired ← acquired.fromExactMapping
    let receipt ← ReservationReceipt.build intent generation current acquired consumption
      before after timestamp
    let budget : RetryBudgetSnapshot :=
      { tenantId := intent.tenantId, runId := intent.runId, used := after,
        maximum := intent.maximumRetries }
    return ⟨acquired, consumption, budget, receipt⟩

end Ananta
