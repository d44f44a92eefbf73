import Ananta.Ownership.StoreLaws

/-! What has to hold of a store for a reservation to be committed on it. -/

namespace Ananta

open ReservationReceipt

variable {intent : ReservationIntent}

variable {current : Option ExecutionOwnership} {receipts : List ReservationReceipt}
    {history : List ExecutionOwnership} {consumption : Option RetryConsumption} {generation : Int}

lemma mem_relevantReceipts {relevant : List ReservationReceipt} {includeProspective : Bool}
    (found : transitionOwnershipRelevantReceipts intent current receipts includeProspective =
      .ok relevant) (receipt : ReservationReceipt) :
    receipt ∈ relevant ↔ receipt ∈ receipts ∧
      RelevantReceipt intent receipt current includeProspective := by
  simp only [transitionOwnershipRelevantReceipts, ok_iff] at found
  simp_all

/-- Evidence without a receipt means that no receipt names the intent and nothing else does. -/
lemma evidence_unrecorded {evidence : ReservationEvidence}
    (read : transitionOwnershipEvidence intent history consumption receipts = .ok evidence)
    (unrecorded : evidence.receipt = none) :
    (∀ receipt ∈ receipts, ¬ CandidateAlias intent receipt) ∧
      (∀ record ∈ history, record.attemptId ≠ intent.attemptId) ∧ consumption = none := by
  unfold transitionOwnershipEvidence at read
  dsimp only at read
  split at read
  · -- No receipt was filed, so none passed the filter.
    rename_i nothing
    rw [receiptsByDigest, Dict.values_collect_eq_nil, List.filter_eq_nil_iff] at nothing
    simp only [ok_iff, not_or, not_exists, not_and, not_not] at read
    simp_all
  · -- With one receipt filed, the evidence carries it.
    simp only [ok_iff] at read
    obtain ⟨_, _, _, _, _, _, _, _, _, _, rfl⟩ := read
    cases unrecorded
  · cases read

variable {store : OwnershipStore} {observation : ReservationObservation}
  {receipt : ReservationReceipt} {before : Int} {reservedAt : Float64}

lemma recordedConsumption_none (absent : recordedConsumption store intent = .ok none) :
    store.retryIds.get? (intent.tenantId, intent.runId, intent.retryId) = none := by
  unfold recordedConsumption at absent
  split at absent
  · assumption
  · simp only [ok_iff, reduceCtorEq, and_false, exists_false] at absent

/-- A history that confirms the current record confirms an exact record of the intent's step. -/
lemma observedCurrent_spec {copy : Option ExecutionOwnership}
    (observed : observedCurrent intent current history = .ok copy) :
    copy = current ∧ ∀ record ∈ current, record.Exact ∧ ¬ RecordMisbound intent record := by
  simp only [observedCurrent, ok_iff, exactOptionalOwnership_eq_ok] at observed
  obtain ⟨_, ⟨exact, rfl⟩, _, _, _, _, _, _, _, bound, rfl⟩ := observed
  refine ⟨rfl, fun record member => ⟨exact record member, ?_⟩⟩
  rw [Option.mem_def.mp member, assertCurrentHistory] at bound
  simp only [ok_iff] at bound
  exact bound.choose_spec.1

/-- What an observation reports is what it was made of. -/
lemma observation_spec {budget : RetryBudgetSnapshot}
    (observed : transitionOwnershipObservation intent generation current history consumption budget
      receipts = .ok observation) :
    observation.intent = intent ∧ observation.current = current ∧ observation.retryBudget = budget ∧
      (∀ record ∈ current, record.Exact ∧ ¬ RecordMisbound intent record) ∧
      ¬ BudgetMismatch intent budget := by
  simp only [transitionOwnershipObservation, ok_iff] at observed
  obtain ⟨_, _, copy, confirmed, _, _, _, _, _, _, _, budgeted, _, _, _, _, rfl⟩ := observed
  obtain ⟨rfl, exact⟩ := observedCurrent_spec confirmed
  exact ⟨rfl, rfl, rfl, exact, budgeted⟩

/-- A constructed receipt has the fields it was given. -/
lemma construct_eq_ok {fields : ReceiptFields} :
    construct fields = .ok receipt ↔ receipt.toReceiptFields = fields := by
  simp only [construct, ok_iff, checked_eq_ok]
  constructor
  · rintro ⟨passed, same, rfl⟩
    exact same
  · rintro rfl
    exact ⟨⟨_, receipt.valid⟩, rfl, rfl⟩

/-- A built receipt records what it was built from. -/
lemma build_spec {after : Int} {acquired : ExecutionOwnership}
    (built : build intent generation current acquired consumption before after
      reservedAt = .ok receipt) :
    receipt.intent = intent ∧ receipt.creatorClaimGeneration = generation ∧
      receipt.priorOwnership = current ∧ receipt.acquiredOwnership = acquired ∧
      receipt.retryConsumption = consumption := by
  simp only [build, bind_eq_ok, construct_eq_ok] at built
  obtain ⟨_, _, _, _, _, _, same⟩ := built
  simp only [same, and_self]

/-- What has to hold for a reservation to be committed, and what it then commits. -/
structure ReservationCommits (store : OwnershipStore) (intent : ReservationIntent)
    (generation : Int) (reservedAt : Float64) (values : ReservationValues) : Prop where
  acquired : values.acquired = acquisition intent (store.current.get? intent.key) reservedAt
  exact : values.acquired.Exact
  priorExact : ∀ current ∈ store.current.get? intent.key, current.Exact
  priorBound : ∀ current ∈ store.current.get? intent.key, ¬ RecordMisbound intent current
  priorOpen : ∀ current ∈ store.current.get? intent.key, current.status ≠ .completed
  consumption : values.consumption = (store.current.get? intent.key).map fun _ =>
    { tenantId := intent.tenantId, runId := intent.runId, retryId := intent.retryId }
  unspent : store.retryIds.get? (intent.tenantId, intent.runId, intent.retryId) = none
  agrees : ∀ configured ∈ store.retryMaximum.get? intent.run, configured = intent.maximumRetries
  room : (store.current.get? intent.key).isSome → store.used intent.run < intent.maximumRetries
  used : values.budget.used = store.used intent.run +
    if (store.current.get? intent.key).isSome then 1 else 0
  maximum : values.budget.maximum = intent.maximumRetries
  receiptIntent : values.receipt.intent = intent
  receiptGeneration : values.receipt.creatorClaimGeneration = generation
  receiptPrior : values.receipt.priorOwnership = store.current.get? intent.key
  receiptAcquired : values.receipt.acquiredOwnership = values.acquired
  receiptConsumption : values.receipt.retryConsumption = values.consumption
  unaliased : ∀ receipt ∈ store.transitionReservationReceipts.values,
    ¬ CandidateAlias intent receipt
  unattempted : ∀ record ∈ store.entries intent.key, record.attemptId ≠ intent.attemptId

lemma assertTakeover_open {timestamp : Float64}
    (passed : assertTakeover observation timestamp current = .ok ()) :
    ∀ record ∈ current, record.status ≠ .completed := by
  intro record member
  rw [Option.mem_def.mp member] at passed
  simp only [assertTakeover, ok_iff] at passed
  exact passed.choose_spec.1

/-- A recovery costs one retry, for which the budget has room. -/
lemma recoveryConsumption_spec
    (consumed : recoveryConsumption intent current before = .ok consumption) :
    (consumption = current.map fun _ =>
      { tenantId := intent.tenantId, runId := intent.runId, retryId := intent.retryId }) ∧
      (current.isSome → before < intent.maximumRetries) := by
  cases current with
  | none =>
    rw [recoveryConsumption, pure_eq_ok] at consumed
    exact ⟨consumed, by simp⟩
  | some record =>
    simp only [recoveryConsumption, RetryConsumption.build, ok_iff]
      at consumed
    simp_all

/-- Every committed reservation found the store ready for it. -/
lemma ReservationMade.commits {digest : Str} {values : ReservationValues}
    (made : ReservationMade intent generation digest reservedAt store values) :
    ReservationCommits store intent generation reservedAt values := by
  -- Reading the history found no trace of the intent.
  obtain ⟨evidence, read, unrecorded⟩ := made.unrecorded
  simp only [readTransitionReservationHistory, bind_eq_ok] at read
  obtain ⟨consumption, recorded, receipts, relevant, evidenced⟩ := read
  obtain ⟨unaliased, unattempted, rfl⟩ := evidence_unrecorded evidenced unrecorded
  -- The observation agreed with the current record and the budget.
  obtain ⟨observation, observed, unreceipted, valued⟩ := made.observed
  simp only [observeTransitionReservation, bind_eq_ok] at observed
  obtain ⟨_, _, _, _, observed⟩ := observed
  obtain ⟨sameIntent, sameCurrent, sameBudget, exact, budgeted⟩ := observation_spec observed
  simp only [BudgetMismatch, not_or, not_not, not_lt] at budgeted
  obtain ⟨_, _, agrees, _, _⟩ := budgeted
  -- The values were computed from that observation.
  simp only [transitionOwnershipReservationValues, unreceipted, ok_iff, ownershipPositiveInteger,
    ownershipSha256, ownershipTimestamp, ownershipField_eq_ok] at valued
  obtain ⟨_, ⟨_, rfl⟩, _, _, _, ⟨_, rfl⟩, _, _, _, _, _, _, _, takeover, spent, consumed, _, _,
    acquired, hydrated, receipt, built, rfl⟩ := valued
  rw [sameIntent, sameCurrent] at consumed built hydrated
  rw [sameCurrent] at takeover
  rw [sameBudget] at consumed built
  obtain ⟨acquiredExact, rfl⟩ := ExecutionOwnership.fromExactMapping_eq_ok.mp hydrated
  obtain ⟨rfl, room⟩ := recoveryConsumption_spec consumed
  obtain ⟨receiptIntent, receiptGeneration, receiptPrior, receiptAcquired, receiptConsumption⟩ :=
    build_spec built
  exact
    { acquired := rfl
      exact := acquiredExact
      priorExact := fun current member => (exact current member).1
      priorBound := fun current member => (exact current member).2
      priorOpen := assertTakeover_open takeover
      consumption := rfl
      unspent := recordedConsumption_none recorded
      agrees := fun configured member => by
        rwa [Option.mem_def.mp member] at agrees
      room := room
      used := by
        simp only [sameCurrent, sameBudget]
        split <;> simp
      maximum := by rw [sameIntent]
      receiptIntent := receiptIntent
      receiptGeneration := receiptGeneration
      receiptPrior := receiptPrior
      receiptAcquired := receiptAcquired
      receiptConsumption := receiptConsumption
      unaliased := fun receipt member named =>
        unaliased receipt ((mem_relevantReceipts relevant receipt).mpr ⟨member, .inl named⟩) named
      unattempted := fun record member same =>
        unattempted record (List.mem_filter.mpr ⟨member, by simp [same]⟩) same }

end Ananta
