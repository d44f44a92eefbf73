import Ananta.Library.Call
import Ananta.Library.Dict
import Ananta.Library.Machine
import Ananta.Runtime.Fault

/-! Aggregate provider budgets with idempotent reservations, as the in-memory store keeps them. -/

namespace Ananta

/-- A `ProviderBudgetError`. -/
def budgetError (reason : String) : Fault := ⟨.providerBudgetError, reason⟩

/-- A text that is too long, empty or holds a zero character. -/
def BadName (value : Str) : Prop := value = [] ∨ 256 < value.length ∨ (0 : CodePoint) ∈ value
  deriving Decidable

/-- `ProviderBudgetLimits`, where zero stands for no limit. -/
structure ProviderBudgetLimits where
  (maximumAttempts maximumTokens maximumCostMicros : Int)
  deriving DecidableEq

/-- `ProviderBudgetLimits.assert_valid`. -/
def ProviderBudgetLimits.assertValid (limits : ProviderBudgetLimits) : Except Fault Unit :=
  raiseIf (limits.maximumAttempts < 0 ∨ min limits.maximumTokens limits.maximumCostMicros < 0)
    (budgetError "provider_budget_limits_invalid")

/-- `ProviderAttemptScope`. -/
structure ProviderAttemptScope where
  scopeId : Str
  maximumAttempts : Int
  deriving DecidableEq

/-- `ProviderAttemptScope.assert_valid`. -/
def ProviderAttemptScope.assertValid (scope : ProviderAttemptScope) : Except Fault Unit :=
  raiseIf (BadName scope.scopeId ∨ scope.maximumAttempts < 1)
    (budgetError "provider_attempt_scope_invalid")

/-- `ProviderProfileAttemptReservation`. -/
structure ProviderProfileAttemptReservation where
  current : ProviderAttemptScope
  reservationId : Str
  predecessors : List ProviderAttemptScope := []
  deriving DecidableEq

def assertPredecessors : List ProviderAttemptScope → List Str → Except Fault Unit
  | [], _ => .ok ()
  | predecessor :: rest, seen => do
    predecessor.assertValid
    raiseIf (predecessor.scopeId ∈ seen) (budgetError "provider_attempt_scope_duplicate")
    assertPredecessors rest (predecessor.scopeId :: seen)

/-- `ProviderProfileAttemptReservation.assert_valid`. -/
def ProviderProfileAttemptReservation.assertValid (attempt : ProviderProfileAttemptReservation) :
    Except Fault Unit := do
  attempt.current.assertValid
  raiseIf (BadName attempt.reservationId) (budgetError "provider_attempt_reservation_invalid")
  assertPredecessors attempt.predecessors [attempt.current.scopeId]

/-- `ProviderScopedBudgetReservation`. -/
structure ProviderScopedBudgetReservation where
  scopeId : Str
  limits : ProviderBudgetLimits
  deriving DecidableEq

/-- `ProviderScopedBudgetReservation.assert_valid`. -/
def ProviderScopedBudgetReservation.assertValid (scope : ProviderScopedBudgetReservation) :
    Except Fault Unit := do
  raiseIf (BadName scope.scopeId) (budgetError "provider_scoped_budget_invalid")
  scope.limits.assertValid

/-- `_Usage`. -/
structure Usage where
  limits : ProviderBudgetLimits
  attempts : Int := 0
  tokens : Int := 0
  costMicros : Int := 0
  deriving DecidableEq

/-- `_Reservation`. -/
structure Reservation where
  policyVersion : Str
  reservedTokens : Int
  reservedCostMicros : Int
  actualTotalTokens : Option Int := none
  deriving DecidableEq

/-- `_ProfileAttemptUsage`. -/
structure ProfileAttemptUsage where
  maximum : Int
  used : Int := 0
  deriving DecidableEq

/-- A tenant, a run or scope, and a policy version. -/
abbrev AggregateKey := Str × Str × Str

abbrev ReservationKey := Str × Str × Str

/-- The state of an `InMemoryProviderBudgetStore`. -/
structure ProviderBudgetStore where
  usage : Dict AggregateKey Usage
  reservations : Dict ReservationKey Reservation
  profileAttemptUsage : Dict (Str × Str) ProfileAttemptUsage
  profileAttemptReservations : Finset (Str × Str × Str)
  deriving DecidableEq

def ProviderBudgetStore.empty : ProviderBudgetStore := ⟨Dict.empty, Dict.empty, Dict.empty, ∅⟩

/-- `ProviderBudgetSnapshot`, whose schema is a constant. -/
structure ProviderBudgetSnapshot where
  (tenantId runId policyVersion : Str)
  (attempts tokens costMicros : Int)
  limits : ProviderBudgetLimits
  reservationId : Str
  reservedTokens : Int
  reservedCostMicros : Int
  reconciled : Bool
  reasonCode : String
  (profileAttempts profileMaximumAttempts scopedTokens scopedCostMicros : Option Int)
  scopedBudgetOverrun : Bool
  deriving DecidableEq

/-- `_snapshot`. -/
def snapshot (tenantId runId policyVersion reservationId : Str) (usage : Usage)
    (reservation : Reservation) (profileUsage : Option ProfileAttemptUsage)
    (scopedUsage : Option Usage) : ProviderBudgetSnapshot :=
  let overrun (usage : Usage) : Bool :=
    usage.limits.maximumTokens ≠ 0 && usage.limits.maximumTokens < usage.tokens
  let scopedOverrun := scopedUsage.any fun scope => overrun scope ||
    (scope.limits.maximumCostMicros ≠ 0 && scope.limits.maximumCostMicros < scope.costMicros)
  { tenantId, runId, policyVersion, reservationId
    attempts := usage.attempts
    tokens := usage.tokens
    costMicros := usage.costMicros
    limits := usage.limits
    reservedTokens := reservation.reservedTokens
    reservedCostMicros := reservation.reservedCostMicros
    reconciled := reservation.actualTotalTokens.isSome
    reasonCode :=
      if scopedOverrun then "provider_scoped_budget_overrun_recorded"
      else if overrun usage then "provider_budget_overrun_recorded"
      else if reservation.actualTotalTokens.isSome then "provider_budget_reconciled"
      else "provider_budget_reserved"
    profileAttempts := profileUsage.map (·.used)
    profileMaximumAttempts := profileUsage.map (·.maximum)
    scopedTokens := scopedUsage.map (·.tokens)
    scopedCostMicros := scopedUsage.map (·.costMicros)
    scopedBudgetOverrun := scopedOverrun }

/-- `_validate_binding`. -/
def validateBinding (tenantId runId policyVersion reservationId : Str) : Except Fault Unit :=
  raiseIf (∃ value ∈ [tenantId, runId, policyVersion, reservationId], BadName value)
    (budgetError "provider_budget_binding_invalid")

/-- `_validate_reservation`. -/
def validateReservation (limits : ProviderBudgetLimits) (reservedTokens reservedCostMicros : Int) :
    Except Fault Unit := do
  limits.assertValid
  raiseIf (min reservedTokens reservedCostMicros < 0)
    (budgetError "provider_budget_reservation_invalid")

/-- The checks of the optional parts of a call, which both operations make. -/
def validateParts (runId : Str) (profileAttempt : Option ProviderProfileAttemptReservation)
    (scopedBudget : Option ProviderScopedBudgetReservation) : Except Fault Unit := do
  checkSome profileAttempt (·.assertValid)
  checkSome scopedBudget fun scope => do
    scope.assertValid
    raiseIf (scope.scopeId = runId) (budgetError "provider_scoped_budget_invalid")

/-- `_assert_capacity`. -/
def assertCapacity (usage : Usage) (reservedTokens reservedCostMicros : Int) :
    Except Fault Unit := do
  raiseIf (usage.limits.maximumAttempts ≠ 0 ∧ usage.limits.maximumAttempts ≤ usage.attempts)
    (budgetError "provider_retry_budget_exceeded")
  raiseIf (usage.limits.maximumTokens ≠ 0 ∧
    usage.limits.maximumTokens < usage.tokens + reservedTokens)
    (budgetError "provider_token_budget_exceeded")
  raiseIf (usage.limits.maximumCostMicros ≠ 0 ∧
      usage.limits.maximumCostMicros < usage.costMicros + reservedCostMicros)
    (budgetError "provider_cost_budget_exceeded")

/-- `_assert_reservation_binding`. -/
def assertReservationBinding (reservation : Reservation) (policyVersion : Str)
    (reservedTokens reservedCostMicros : Int) : Except Fault Unit :=
  raiseIf (reservation.policyVersion ≠ policyVersion ∨ reservation.reservedTokens ≠ reservedTokens ∨
      reservation.reservedCostMicros ≠ reservedCostMicros)
    (budgetError "provider_budget_reservation_binding_mismatch")

/-- `_assert_scoped_budget_replay` of a scoped budget and the usage and reservation found for it. -/
def assertScopedBudgetReplay (scope : ProviderScopedBudgetReservation) (usage : Option Usage)
    (reservation : Option Reservation) (policyVersion : Str)
    (reservedTokens reservedCostMicros : Int) :
    Except Fault (Usage × Reservation) :=
  match usage, reservation with
  | none, none => .error (budgetError "provider_scoped_budget_migration_required")
  | some usage, some reservation => do
    raiseIf (usage.limits ≠ scope.limits) (budgetError "provider_budget_atomic_binding_mismatch")
    assertReservationBinding reservation policyVersion reservedTokens reservedCostMicros
    return (usage, reservation)
  | _, _ => .error (budgetError "provider_budget_atomic_binding_mismatch")

namespace ProviderBudgetStore

variable (store : ProviderBudgetStore) (tenantId : Str)

/-- The predecessors of a profile attempt have used up their maxima. -/
def assertExhausted (predecessor : ProviderAttemptScope) :
    Except Fault Unit := do
  let usage := store.profileAttemptUsage.get? (tenantId, predecessor.scopeId)
  raiseIf (usage.any (·.maximum ≠ predecessor.maximumAttempts))
    (budgetError "retry_budget_maximum_mismatch")
  raiseIf ((usage.map (·.used)).getD 0 ≠ predecessor.maximumAttempts)
    (budgetError "provider_attempt_plan_sequence_denied")

/-- `_assert_profile_attempt_capacity`. -/
def assertProfileAttemptCapacity
    (attempt : ProviderProfileAttemptReservation) : Except Fault Unit := do
  attempt.predecessors.forM (store.assertExhausted tenantId)
  let usage := store.profileAttemptUsage.get? (tenantId, attempt.current.scopeId)
  raiseIf (usage.any (·.maximum ≠ attempt.current.maximumAttempts))
    (budgetError "retry_budget_maximum_mismatch")
  raiseIf ((tenantId, attempt.current.scopeId, attempt.reservationId) ∈
    store.profileAttemptReservations) (budgetError "provider_budget_atomic_binding_mismatch")
  raiseIf (usage.any (attempt.current.maximumAttempts ≤ ·.used))
    (budgetError "provider_retry_budget_exceeded")

/-- `_profile_attempt_for_replay`. -/
def profileAttemptForReplay :
    Option ProviderProfileAttemptReservation → Except Fault (Option ProfileAttemptUsage)
  | none => .ok none
  | some attempt =>
    match store.profileAttemptUsage.get? (tenantId, attempt.current.scopeId) with
    | none => .error (budgetError "provider_budget_atomic_binding_mismatch")
    | some usage => do
      raiseIf (usage.maximum ≠ attempt.current.maximumAttempts ∨
          (tenantId, attempt.current.scopeId, attempt.reservationId) ∉
            store.profileAttemptReservations)
        (budgetError "provider_budget_atomic_binding_mismatch")
      return some usage

/-- The store after a reservation was added to one aggregate, which is created with its first
reservation. -/
def book (aggregateId policyVersion reservationId : Str)
    (limits : ProviderBudgetLimits) (reservedTokens reservedCostMicros : Int) :
    ProviderBudgetStore :=
  let usage := (store.usage.get? (tenantId, aggregateId, policyVersion)).getD { limits }
  { store with
    usage := store.usage.set (tenantId, aggregateId, policyVersion)
      { usage with
        attempts := usage.attempts + 1
        tokens := usage.tokens + reservedTokens
        costMicros := usage.costMicros + reservedCostMicros }
    reservations := store.reservations.set (tenantId, aggregateId, reservationId)
      { policyVersion, reservedTokens, reservedCostMicros } }

/-- The store after a profile attempt was counted, where the first one fixes the maximum. -/
def bookProfile (attempt : ProviderProfileAttemptReservation) : ProviderBudgetStore :=
  let usage := (store.profileAttemptUsage.get? (tenantId, attempt.current.scopeId)).getD
    { maximum := attempt.current.maximumAttempts }
  { store with
    profileAttemptUsage := store.profileAttemptUsage.set (tenantId, attempt.current.scopeId)
      { usage with used := usage.used + 1 }
    profileAttemptReservations := insert (tenantId, attempt.current.scopeId, attempt.reservationId)
      store.profileAttemptReservations }

/-- The store after the actual tokens of a reservation were recorded in its aggregate. -/
def settle (usageKey : AggregateKey) (reservationKey : ReservationKey)
    (usage : Usage) (reservation : Reservation) (actualTotalTokens : Int) : ProviderBudgetStore :=
  { store with
    usage := store.usage.set usageKey
      { usage with tokens := max 0 (usage.tokens + actualTotalTokens - reservation.reservedTokens) }
    reservations := store.reservations.set reservationKey
      { reservation with actualTotalTokens := some actualTotalTokens } }

end ProviderBudgetStore

/-- The arguments of `reserve`. -/
structure ReserveCall where
  (tenantId runId policyVersion reservationId : Str)
  limits : ProviderBudgetLimits
  reservedTokens : Int
  reservedCostMicros : Int
  profileAttempt : Option ProviderProfileAttemptReservation := none
  scopedBudget : Option ProviderScopedBudgetReservation := none
  deriving DecidableEq

namespace ReserveCall

variable (call : ReserveCall) (store : ProviderBudgetStore)

/-- The checks that do not read the store. -/
def validate : Except Fault Unit := do
  validateBinding call.tenantId call.runId call.policyVersion call.reservationId
  validateReservation call.limits call.reservedTokens call.reservedCostMicros
  validateParts call.runId call.profileAttempt call.scopedBudget

/-- The aggregate of a run or a scope under the policy of the call. -/
def usageKey (aggregateId : Str) : AggregateKey :=
  (call.tenantId, aggregateId, call.policyVersion)

def reservationKey (aggregateId : Str) : ReservationKey :=
  (call.tenantId, aggregateId, call.reservationId)

def scopedUsage : Option Usage :=
  call.scopedBudget.bind fun scope => store.usage.get? (call.usageKey scope.scopeId)

/-- The limits have to be those that the aggregates were created with. -/
def assertLimits : Except Fault Unit := do
  raiseIf ((store.usage.get? (call.usageKey call.runId)).any (·.limits ≠ call.limits))
    (budgetError "provider_budget_limits_mismatch")
  raiseIf (∃ scope ∈ call.scopedBudget,
      (store.usage.get? (call.usageKey scope.scopeId)).any (·.limits ≠ scope.limits))
    (budgetError "provider_budget_limits_mismatch")

/-- The answer to a reservation that is known already. -/
def replay (existing : Reservation) : Except Fault ProviderBudgetSnapshot :=
  match store.usage.get? (call.usageKey call.runId) with
  | none => .error (budgetError "provider_budget_aggregate_missing")
  | some usage => do
    assertReservationBinding existing call.policyVersion call.reservedTokens call.reservedCostMicros
    checkSome call.scopedBudget fun scope => discard (assertScopedBudgetReplay scope
      (call.scopedUsage store) (store.reservations.get? (call.reservationKey scope.scopeId))
      call.policyVersion call.reservedTokens call.reservedCostMicros)
    let profileUsage ← store.profileAttemptForReplay call.tenantId call.profileAttempt
    return snapshot call.tenantId call.runId call.policyVersion call.reservationId usage existing
      profileUsage (call.scopedUsage store)

/-- The usage that a new reservation is checked against. -/
def candidate (aggregateId : Str) (limits : ProviderBudgetLimits) : Usage :=
  (store.usage.get? (call.usageKey aggregateId)).getD { limits }

/-- The checks of a new reservation. -/
def assertAdmissible : Except Fault Unit := do
  raiseIf (∃ scope ∈ call.scopedBudget,
      (store.reservations.get? (call.reservationKey scope.scopeId)).isSome)
    (budgetError "provider_budget_atomic_binding_mismatch")
  checkSome call.profileAttempt (store.assertProfileAttemptCapacity call.tenantId)
  assertCapacity (call.candidate store call.runId call.limits)
    call.reservedTokens call.reservedCostMicros
  checkSome call.scopedBudget fun scope =>
    assertCapacity (call.candidate store scope.scopeId scope.limits) call.reservedTokens
      call.reservedCostMicros

/-- The store after the new reservation was booked for the run and for the scope, if it has one. -/
def booked : ProviderBudgetStore :=
  let run := store.book call.tenantId call.runId call.policyVersion call.reservationId call.limits
    call.reservedTokens call.reservedCostMicros
  match call.scopedBudget with
  | none => run
  | some scope => run.book call.tenantId scope.scopeId call.policyVersion call.reservationId
      scope.limits call.reservedTokens call.reservedCostMicros

/-- The store after the new reservation was admitted. -/
def enter : ProviderBudgetStore :=
  match call.profileAttempt with
  | none => call.booked store
  | some attempt => (call.booked store).bookProfile call.tenantId attempt

end ReserveCall

/-- `InMemoryProviderBudgetStore.reserve`. -/
def reserve (call : ReserveCall) : Call Fault ProviderBudgetStore ProviderBudgetSnapshot := do
  call.validate
  let store ← Call.read
  call.assertLimits store
  match store.reservations.get? (call.reservationKey call.runId) with
  | some existing => call.replay store existing
  | none =>
    call.assertAdmissible store
    Call.write call.enter
    let after ← Call.read
    return snapshot call.tenantId call.runId call.policyVersion call.reservationId
      (call.candidate after call.runId call.limits)
      { policyVersion := call.policyVersion
        reservedTokens := call.reservedTokens
        reservedCostMicros := call.reservedCostMicros }
      (call.profileAttempt.bind fun attempt =>
        after.profileAttemptUsage.get? (call.tenantId, attempt.current.scopeId))
      (call.scopedUsage after)

/-- The arguments of `reconcile`. -/
structure ReconcileCall where
  (tenantId runId policyVersion reservationId : Str)
  actualTotalTokens : Int
  profileAttempt : Option ProviderProfileAttemptReservation := none
  scopedBudget : Option ProviderScopedBudgetReservation := none
  deriving DecidableEq

namespace ReconcileCall

variable (call : ReconcileCall) (store : ProviderBudgetStore)

/-- The checks that do not read the store. -/
def validate : Except Fault Unit := do
  validateBinding call.tenantId call.runId call.policyVersion call.reservationId
  raiseIf (call.actualTotalTokens < 0) (budgetError "provider_budget_actual_tokens_invalid")
  validateParts call.runId call.profileAttempt call.scopedBudget

/-- The aggregate of a run or a scope under the policy of the call. -/
def usageKey (aggregateId : Str) : AggregateKey :=
  (call.tenantId, aggregateId, call.policyVersion)

/-- The reservation of the call under a run or a scope. -/
def reservationKey (aggregateId : Str) : ReservationKey :=
  (call.tenantId, aggregateId, call.reservationId)

/-- The usage and the reservation of the run. -/
def located : Except Fault (Usage × Reservation) :=
  match store.usage.get? (call.usageKey call.runId),
    store.reservations.get? (call.reservationKey call.runId) with
  | some usage, some reservation => do
    raiseIf (reservation.policyVersion ≠ call.policyVersion)
      (budgetError "provider_budget_reservation_binding_mismatch")
    return (usage, reservation)
  | _, _ => .error (budgetError "provider_budget_reservation_not_found")

/-- The scope of the call with its usage and its reservation, if it has one. -/
def scopedEntry (reservation : Reservation) : Except Fault (Option (Str × Usage × Reservation)) :=
  match call.scopedBudget with
  | none => .ok none
  | some scope => do
    let entry ← assertScopedBudgetReplay scope (store.usage.get? (call.usageKey scope.scopeId))
      (store.reservations.get? (call.reservationKey scope.scopeId)) call.policyVersion
      reservation.reservedTokens reservation.reservedCostMicros
    return some (scope.scopeId, entry)

def settled (aggregateId : Str) (usage : Usage) (reservation : Reservation) : ProviderBudgetStore :=
  store.settle (call.usageKey aggregateId) (call.reservationKey aggregateId) usage reservation
    call.actualTotalTokens

/-- The answer of the call in a store, given what was found of the profile. -/
def answer (profileUsage : Option ProfileAttemptUsage) :
    Except Fault ProviderBudgetSnapshot := do
  let (usage, reservation) ← call.located store
  return snapshot call.tenantId call.runId call.policyVersion call.reservationId usage reservation
    profileUsage (call.scopedBudget.bind fun scope =>
      store.usage.get? (call.usageKey scope.scopeId))

end ReconcileCall

/-- Recording the actual tokens in the scope, after they were recorded in the run. -/
def settleScope (call : ReconcileCall) :
    Option (Str × Usage × Reservation) → Call Fault ProviderBudgetStore Unit
  | none => pure ()
  | some (scopeId, usage, reservation) => do
    raiseIf (reservation.actualTotalTokens.isSome)
      (budgetError "provider_budget_atomic_binding_mismatch")
    Call.write fun store => call.settled store scopeId usage reservation

/-- `InMemoryProviderBudgetStore.reconcile`. -/
def reconcile (call : ReconcileCall) : Call Fault ProviderBudgetStore ProviderBudgetSnapshot := do
  call.validate
  let store ← Call.read
  let (usage, reservation) ← call.located store
  let scope ← call.scopedEntry store reservation
  let profileUsage ← store.profileAttemptForReplay call.tenantId call.profileAttempt
  match reservation.actualTotalTokens with
  | some actual =>
    raiseIf (actual ≠ call.actualTotalTokens)
      (budgetError "provider_budget_reconciliation_conflict")
    raiseIf (∃ entry ∈ scope, entry.2.2.actualTotalTokens ≠ some call.actualTotalTokens)
      (budgetError "provider_budget_reconciliation_conflict")
    call.answer store profileUsage
  | none =>
    -- The run is charged before the last check of the scope.
    Call.write fun store => call.settled store call.runId usage reservation
    settleScope call scope
    let after ← Call.read
    call.answer after profileUsage

inductive BudgetCall where
  | reserve (call : ReserveCall)
  | reconcile (call : ReconcileCall)
  deriving DecidableEq

def budgetMachine :
    Machine ProviderBudgetStore BudgetCall (Except Fault ProviderBudgetSnapshot) where
  initial := .empty
  step store
    | .reserve call => reserve call store
    | .reconcile call => reconcile call store

end Ananta
