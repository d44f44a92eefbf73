import Ananta.Library.Journal
import Ananta.Library.Machine
import Ananta.Ownership.Evidence

/-! The in-memory ownership store: leases, fencing, acknowledgements, and the shared retry
budget. -/

namespace Ananta

open Fault Call

abbrev StepKey := Str × Str × Str

abbrev RunKey := Str × Str

abbrev RetryKey := Str × Str × Str

/-- `RETRY_CATEGORIES`. -/
def retryCategories : List Str :=
  ["temporal_activity", "hub_task", "worker", "tool", "provider"]

/-- The state of an `InMemoryExecutionOwnershipStore`. -/
structure OwnershipStore extends Journal StepKey ExecutionOwnership where
  retryUsed : Dict RunKey Int
  retryMaximum : Dict RunKey Int
  retryIds : Dict RetryKey Str
  transitionReservationReceipts : Dict Str ReservationReceipt

inductive ClaimReason where
  | alreadyCompleted
  | alreadyOwned
  | leaseHeld
  | acquired
  | recovered
  deriving DecidableEq

/-- `OwnershipClaim`. -/
structure OwnershipClaim where
  ownership : ExecutionOwnership
  acquired : Bool
  reason : ClaimReason
  deriving DecidableEq

/-- The arguments of `claim`. -/
structure ClaimRequest where
  (tenantId workflowId runId stepId ownerId : Str)
  leaseSeconds : Float64
  maximumRetries : Int
  now : Option Float64

/-- The arguments by which an owner names the attempt it acts for. -/
structure OwnerRequest where
  (tenantId runId stepId attemptId ownerId : Str)
  fencingToken : Int
  expectedRevision : Int
  now : Option Float64

def ClaimRequest.key (request : ClaimRequest) : StepKey :=
  (request.tenantId, request.runId, request.stepId)

variable (request : OwnerRequest)

def OwnerRequest.key : StepKey :=
  (request.tenantId, request.runId, request.stepId)

namespace OwnershipStore

/-- A store before any call. -/
def empty : OwnershipStore := ⟨Journal.empty, Dict.empty, Dict.empty, Dict.empty, Dict.empty⟩

/-- The store with one more ownership record. -/
def saved (store : OwnershipStore) (key : StepKey) (record : ExecutionOwnership) : OwnershipStore :=
  { store with toJournal := store.toJournal.save key record }

/-- The store with one more consumed retry. -/
def charged (store : OwnershipStore) (key : RunKey) (retryId category : Str) (used maximum : Int) :
    OwnershipStore :=
  { store with
    retryMaximum := store.retryMaximum.set key maximum
    retryIds := store.retryIds.set (key.1, key.2, retryId) category
    retryUsed := store.retryUsed.set key used }

/-- The retries a run has consumed so far. -/
def used (store : OwnershipStore) (key : RunKey) : Int := (store.retryUsed.get? key).getD 0

end OwnershipStore

/-- A call on the store. -/
abbrev OwnershipM (α : Type) : Type := Call Fault OwnershipStore α

/-- `_timestamp`: the given time, or the clock. -/
def timestampOf (now : Option Float64) (clock : Float64) : Float64 := now.getD clock

/-- `_validate_lease`. -/
def validateLease (leaseSeconds : Float64) (now : Option Float64) (clock : Float64) :
    Except Fault Float64 := do
  raiseIf (leaseSeconds ≤ 0) (mk .valueError "lease_seconds_invalid")
  return timestampOf now clock

/-- `_save`. -/
def saveOwnership (key : StepKey) (record : ExecutionOwnership) : OwnershipM Unit := do
  record.assertValid
  write fun store => store.saved key record

/-- `consume_retry`. -/
def consumeRetry (tenantId runId retryId category : Str) (maximum : Int) :
    OwnershipM RetryBudgetSnapshot := do
  raiseIf (maximum < 0 ∨ retryId = [] ∨ category ∉ retryCategories)
    (mk .valueError "retry_budget_input_invalid")
  let key : RunKey := (tenantId, runId)
  let store ← read
  let current := store.used key
  raiseIf (∃ configured ∈ store.retryMaximum.get? key, configured ≠ maximum)
    (mk .invalidTransitionError "retry_budget_maximum_mismatch")
  match store.retryIds.get? (tenantId, runId, retryId) with
  | some existing =>
    raiseIf (existing ≠ category)
      (mk .invalidTransitionError "retry_budget_retry_id_binding_mismatch")
    return { tenantId, runId, used := current, maximum }
  | none =>
    raiseIf (maximum ≤ current) (mk .invalidTransitionError "retry_budget_exhausted")
    write fun store => store.charged key retryId category (current + 1) maximum
    return { tenantId, runId, used := current + 1, maximum }

def attemptIdOf (uuid : Str) : Str := "att-" ++ uuid

/-- The record that a granted claim writes after the current one. -/
def claimedOwnership (request : ClaimRequest) (timestamp : Float64) (uuid : Str)
    (current : Option ExecutionOwnership) : ExecutionOwnership :=
  { tenantId := request.tenantId
    workflowId := request.workflowId
    runId := request.runId
    stepId := request.stepId
    attemptId := attemptIdOf uuid
    ownerId := request.ownerId
    fencingToken := ((current.map (·.fencingToken)).getD 0) + 1
    revision := ((current.map (·.revision)).getD 0) + 1
    status := .active
    leaseExpiresAt := timestamp + request.leaseSeconds
    lastHeartbeatAt := timestamp }

/-- `claim`. -/
def claim (request : ClaimRequest) (clock : Float64) (uuid : Str) : OwnershipM OwnershipClaim := do
  let timestamp ← validateLease request.leaseSeconds request.now clock
  let store ← read
  match store.current.get? request.key with
  | some current =>
    raiseIf (current.workflowId ≠ request.workflowId)
      (mk .optimisticConcurrencyError "execution_ownership_workflow_binding_conflict")
    if current.status = .completed then
      return ⟨current, false, .alreadyCompleted⟩
    else if current.status = .active ∧ timestamp < current.leaseExpiresAt then
      return ⟨current, false, if current.ownerId = request.ownerId then .alreadyOwned
        else .leaseHeld⟩
    else
      -- The shared budget is charged before the new record is checked.
      let _ ← consumeRetry request.tenantId request.runId (attemptIdOf uuid) "hub_task"
        request.maximumRetries
      let ownership := claimedOwnership request timestamp uuid (some current)
      ownership.assertValid
      saveOwnership request.key ownership
      return ⟨ownership, true, .recovered⟩
  | none =>
    let ownership := claimedOwnership request timestamp uuid none
    ownership.assertValid
    saveOwnership request.key ownership
    return ⟨ownership, true, .acquired⟩

/-- `_owned`: the current record, when the request names its attempt. -/
def owned (store : OwnershipStore) (request : OwnerRequest) : Except Fault ExecutionOwnership :=
  match store.current.get? request.key with
  | none => throw (mk .keyError "execution_ownership_not_found")
  | some current => do
    -- This is `_assert_owner`.
    raiseIf (current.attemptId ≠ request.attemptId ∨ current.ownerId ≠ request.ownerId ∨
      current.fencingToken ≠ request.fencingToken) (mk .fencingTokenError "execution_owner_stale")
    return current

/-- `_assert_expected_revision`. -/
def assertExpectedRevision (current : ExecutionOwnership) (expected : Int) : Except Fault Unit :=
  raiseIf (current.revision ≠ expected)
    (mk .optimisticConcurrencyError ("execution_ownership_revision_conflict:expected=" ++
      toString expected ++ ":actual=" ++ toString current.revision))

namespace ExecutionOwnership

variable (current : ExecutionOwnership) (timestamp : Float64)

/-- The record after a heartbeat. -/
def renewed (leaseSeconds : Float64) : ExecutionOwnership :=
  { current with
    revision := current.revision + 1
    lastHeartbeatAt := timestamp
    leaseExpiresAt := timestamp + leaseSeconds }

def acknowledged (resultAckKey : Str) : ExecutionOwnership :=
  { current with
    revision := current.revision + 1
    status := .completed
    resultAckKey := resultAckKey
    leaseExpiresAt := timestamp }

/-- The record after a failed attempt. -/
def abandoned (failureCode : Str) (deadLetter : Bool) : ExecutionOwnership :=
  { current with
    revision := current.revision + 1
    status := if deadLetter then .deadLetter else .failed
    failureCode := if failureCode = [] then "execution_failed" else failureCode
    leaseExpiresAt := timestamp }

/-- The record of a lapsed attempt. -/
def orphaned : ExecutionOwnership :=
  { current with
    revision := current.revision + 1
    status := .orphaned
    failureCode := "lease_expired" }

end ExecutionOwnership

/-- `heartbeat`. -/
def heartbeat (leaseSeconds clock : Float64) :
    OwnershipM ExecutionOwnership := do
  let timestamp ← validateLease leaseSeconds request.now clock
  let current ← owned (← read) request
  assertExpectedRevision current request.expectedRevision
  raiseIf (current.status ≠ .active) (mk .fencingTokenError "heartbeat_owner_no_longer_active")
  raiseIf (current.leaseExpiresAt ≤ timestamp) (mk .fencingTokenError "ownership_lease_expired")
  let updated := current.renewed timestamp leaseSeconds
  saveOwnership request.key updated
  return updated

/-- `acknowledge_result`. -/
def acknowledgeResult (resultAckKey : Str) (clock : Float64) :
    OwnershipM ExecutionOwnership := do
  raiseIf (resultAckKey = []) (mk .valueError "result_ack_key_required")
  let timestamp := timestampOf request.now clock
  let current ← owned (← read) request
  if current.status = .completed ∧ current.resultAckKey = resultAckKey then
    return current
  else
    assertExpectedRevision current request.expectedRevision
    raiseIf (current.status ≠ .active ∨ current.leaseExpiresAt ≤ timestamp)
      (mk .fencingTokenError "result_owner_not_active")
    let updated := current.acknowledged timestamp resultAckKey
    saveOwnership request.key updated
    return updated

/-- `fail_attempt`. -/
def failAttempt (failureCode : Str) (deadLetter : Bool) (clock : Float64) :
    OwnershipM ExecutionOwnership := do
  let current ← owned (← read) request
  assertExpectedRevision current request.expectedRevision
  raiseIf (current.status ≠ .active)
    (mk .invalidTransitionError "failure_requires_active_ownership")
  let timestamp := timestampOf request.now clock
  raiseIf (current.leaseExpiresAt ≤ timestamp) (mk .fencingTokenError "failure_owner_lease_expired")
  let updated := current.abandoned timestamp failureCode deadLetter
  saveOwnership request.key updated
  return updated

/-- `reconcile_orphan`. -/
def reconcileOrphan (key : StepKey) (now : Option Float64) (clock : Float64) :
    OwnershipM (Option ExecutionOwnership) := do
  let timestamp := timestampOf now clock
  let store ← read
  match store.current.get? key with
  | none => return none
  | some current =>
    if current.status ≠ .active ∨ timestamp < current.leaseExpiresAt then
      return none
    else
      let updated := current.orphaned
      saveOwnership key updated
      return some updated

variable (store : OwnershipStore) (intent : ReservationIntent)

def ReservationIntent.key : StepKey :=
  (intent.tenantId, intent.runId, intent.stepId)

def ReservationIntent.run : RunKey := (intent.tenantId, intent.runId)

def recordedConsumption : Except Fault (Option RetryConsumption) :=
  match store.retryIds.get? (intent.tenantId, intent.runId, intent.retryId) with
  | none => return none
  | some category => do
    let consumption ← RetryConsumption.build
      { tenantId := intent.tenantId, runId := intent.runId, retryId := intent.retryId, category }
    return some consumption

/-- `read_transition_reservation_history`. -/
def readTransitionReservationHistory :
    Except Fault ReservationEvidence := do
  let consumption ← recordedConsumption store intent
  let receipts ← transitionOwnershipRelevantReceipts intent none
    store.transitionReservationReceipts.values false
  let history := (store.entries intent.key).filter fun value =>
    value.revision ∈ receiptRevisions receipts ∨ value.attemptId = intent.attemptId
  transitionOwnershipEvidence intent history consumption receipts

/-- `_transition_reservation_observation_unlocked`. -/
def observeTransitionReservation (claimGeneration : Int) : Except Fault ReservationObservation := do
  let current := store.current.get? intent.key
  let allHistory := store.entries intent.key
  let relevant ← transitionOwnershipRelevantReceipts intent current
    store.transitionReservationReceipts.values true
  let anchors := receiptRevisions relevant ++ (current.map (·.revision)).toList
  let anchored := allHistory.filter fun value =>
    value.revision ∈ anchors ∨ value.attemptId = intent.attemptId
  -- A history without a current record is represented by its last entry.
  let history := if current = none ∧ anchored = [] then allHistory.getLast?.toList else anchored
  let consumption ← recordedConsumption store intent
  let budget : RetryBudgetSnapshot :=
    { tenantId := intent.tenantId, runId := intent.runId, used := store.used intent.run,
      maximum := (store.retryMaximum.get? intent.run).getD intent.maximumRetries }
  transitionOwnershipObservation intent claimGeneration current history consumption budget relevant

/-- The store after a reservation, in which the copied dictionaries replaced the old ones at
once. -/
def OwnershipStore.reserved (values : ReservationValues) : OwnershipStore :=
  let budgeted := match values.consumption with
    | none => store
    | some consumption => store.charged intent.run intent.retryId consumption.category
        values.budget.used values.budget.maximum
  { budgeted.saved intent.key values.acquired with
    transitionReservationReceipts :=
      store.transitionReservationReceipts.set values.receipt.intent.receiptId values.receipt }

/-- `reserve_transition_effect`. -/
def reserveTransitionEffect (creatorClaimGeneration : Int)
    (expectedObservationDigest : Str) (reservedAt : Float64) : OwnershipM ReservationReceipt := do
  let store ← read
  let evidence ← readTransitionReservationHistory store intent
  match evidence.receipt with
  | some receipt =>
    raiseIf (creatorClaimGeneration < receipt.creatorClaimGeneration)
      (reservationConflict "receipt_generation_conflict")
    return receipt
  | none =>
    let observation ← observeTransitionReservation store intent creatorClaimGeneration
    let values ← transitionOwnershipReservationValues observation creatorClaimGeneration
      expectedObservationDigest reservedAt
    match observation.receipt with
    | some receipt => return receipt
    | none =>
      raiseIf (values.consumption.isSome ∧
        (store.retryIds.get? (intent.tenantId, intent.runId, intent.retryId)).isSome)
        (reservationConflict "retry_without_receipt")
      write fun store => store.reserved intent values
      return values.receipt

/-- One call on the store, with the clock reading and the UUID it would draw. -/
inductive OwnershipCall where
  | claim (request : ClaimRequest) (clock : Float64) (uuid : Str)
  | heartbeat (request : OwnerRequest) (leaseSeconds clock : Float64)
  | acknowledgeResult (request : OwnerRequest) (resultAckKey : Str) (clock : Float64)
  | failAttempt (request : OwnerRequest) (failureCode : Str) (deadLetter : Bool) (clock : Float64)
  | reconcileOrphan (key : StepKey) (now : Option Float64) (clock : Float64)
  | consumeRetry (tenantId runId retryId category : Str) (maximum : Int)
  | reserveTransitionEffect (intent : ReservationIntent) (creatorClaimGeneration : Int)
      (expectedObservationDigest : Str) (reservedAt : Float64)

/-- What a call returns. -/
inductive OwnershipAnswer where
  | claim (claim : OwnershipClaim)
  | ownership (record : ExecutionOwnership)
  | orphan (record : Option ExecutionOwnership)
  | budget (snapshot : RetryBudgetSnapshot)
  | receipt (receipt : ReservationReceipt)
  deriving DecidableEq

def OwnershipCall.run : OwnershipCall → OwnershipM OwnershipAnswer
  | .claim request clock uuid => return .claim (← Ananta.claim request clock uuid)
  | .heartbeat request leaseSeconds clock =>
    return .ownership (← Ananta.heartbeat request leaseSeconds clock)
  | .acknowledgeResult request resultAckKey clock =>
    return .ownership (← Ananta.acknowledgeResult request resultAckKey clock)
  | .failAttempt request failureCode deadLetter clock =>
    return .ownership (← Ananta.failAttempt request failureCode deadLetter clock)
  | .reconcileOrphan key now clock => return .orphan (← Ananta.reconcileOrphan key now clock)
  | .consumeRetry tenantId runId retryId category maximum =>
    return .budget (← Ananta.consumeRetry tenantId runId retryId category maximum)
  | .reserveTransitionEffect intent generation digest reservedAt =>
    return .receipt (← Ananta.reserveTransitionEffect intent generation digest reservedAt)

def ownershipMachine : Machine OwnershipStore OwnershipCall (Except Fault OwnershipAnswer) where
  initial := .empty
  step store call := call.run store

end Ananta
