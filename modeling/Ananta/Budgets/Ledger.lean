import Ananta.Budgets.StoreLaws

/-! Every aggregate of the budget store is the exact sum of the reservations made in it. -/

namespace Ananta

open List Option

def Reservation.tokens (reservation : Reservation) : Int :=
  reservation.actualTotalTokens.getD reservation.reservedTokens

namespace ProviderBudgetStore

def reservationsOf (store : ProviderBudgetStore) (key : AggregateKey) : List Reservation :=
  (store.reservations.entries.filter fun entry =>
    (entry.1.1, entry.1.2.1, entry.2.policyVersion) = key).map Prod.snd

/-- What a reservation contributes to an aggregate. -/
def share (key : AggregateKey) (amount : Reservation → Int) (entry : ReservationKey)
    (reservation : Reservation) : Int :=
  if (entry.1, entry.2.1, reservation.policyVersion) = key then amount reservation else 0

/-- The sum of an amount over the reservations of an aggregate. -/
def charged (store : ProviderBudgetStore) (key : AggregateKey) (amount : Reservation → Int) : Int :=
  store.reservations.total (share key amount)

/-- The recorded value of an aggregate, which is zero as long as there is none. -/
def recorded (store : ProviderBudgetStore) (key : AggregateKey) (value : Usage → Int) : Int :=
  ((store.usage.get? key).map value).getD 0

/-- The sum of shares is the sum over the listed reservations. -/
lemma charged_eq_sum (store : ProviderBudgetStore) (key : AggregateKey)
    (amount : Reservation → Int) :
    store.charged key amount = ((store.reservationsOf key).map amount).sum := by
  unfold charged reservationsOf Dict.total
  induction store.reservations.entries with
  | nil => rfl
  | cons entry rest ih =>
    rw [map_cons, sum_cons, ih, filter_cons]
    by_cases own : (entry.1.1, entry.1.2.1, entry.2.policyVersion) = key
    · simp [share, own]
    · simp [share, own]

end ProviderBudgetStore

open ProviderBudgetStore

/-- What every call keeps of the aggregates. -/
structure Balanced (store : ProviderBudgetStore) : Prop where
  attempts : ∀ key, store.recorded key (·.attempts) = store.charged key fun _ => 1
  tokens : ∀ key, store.recorded key (·.tokens) = store.charged key (·.tokens)
  costMicros : ∀ key, store.recorded key (·.costMicros) = store.charged key (·.reservedCostMicros)
  sound : ∀ entry reservation, store.reservations.get? entry = some reservation →
    0 ≤ reservation.reservedTokens ∧ 0 ≤ reservation.tokens
  limited : ∀ key usage, store.usage.get? key = some usage →
    (usage.limits.maximumAttempts ≠ 0 → usage.attempts ≤ usage.limits.maximumAttempts) ∧
    (usage.limits.maximumCostMicros ≠ 0 → usage.costMicros ≤ usage.limits.maximumCostMicros)

lemma balanced_empty : Balanced .empty where
  attempts _ := rfl
  tokens _ := rfl
  costMicros _ := rfl
  sound _ _ found := nomatch found
  limited _ _ found := nomatch found

variable {store : ProviderBudgetStore} {tenantId aggregateId policyVersion reservationId : Str}
  {limits : ProviderBudgetLimits} {reservedTokens reservedCostMicros : Int} {usage : Usage}
    {reservation : Reservation}
  {key : AggregateKey}

/-- A new reservation adds its amount to its own aggregate only. -/
lemma charged_book (fresh : store.reservations.get? (tenantId, aggregateId, reservationId) = none)
    (key : AggregateKey) (amount : Reservation → Int) :
    (store.book tenantId aggregateId policyVersion reservationId limits reservedTokens
        reservedCostMicros).charged key amount =
      store.charged key amount + if (tenantId, aggregateId, policyVersion) = key then
        amount { policyVersion, reservedTokens, reservedCostMicros } else 0 := by
  rw [charged, book, Dict.total_set, fresh]
  simp [charged, share]

/-- Booking a reservation changes the recorded values of its own aggregate only. -/
lemma recorded_book (key : AggregateKey) (value : Usage → Int) (step : Int)
    (unused : value { limits } = 0) (added : ∀ usage : Usage, value { usage with
      attempts := usage.attempts + 1
      tokens := usage.tokens + reservedTokens
      costMicros := usage.costMicros + reservedCostMicros } = value usage + step) :
    (store.book tenantId aggregateId policyVersion reservationId limits reservedTokens
        reservedCostMicros).recorded key value =
      store.recorded key value + if (tenantId, aggregateId, policyVersion) = key then step
        else 0 := by
  rw [recorded, book, get?_set]
  by_cases own : key = (tenantId, aggregateId, policyVersion)
  · subst own
    rw [if_pos rfl, if_pos rfl, map_some, getD_some, added]
    cases found : store.usage.get? (tenantId, aggregateId, policyVersion) with
    | none => simp [recorded, found, unused]
    | some usage => simp [recorded, found]
  · rw [if_neg own, if_neg (Ne.symm own), Int.add_zero]
    rfl

section

variable {call : ReconcileCall} (entry : Settles call store aggregateId usage reservation)
include entry

/-- Settling a reservation replaces its amount in its own aggregate only. -/
lemma charged_settled (key : AggregateKey)
    (amount : Reservation → Int) :
    (call.settled store aggregateId usage reservation).charged key amount =
      store.charged key amount + if call.usageKey aggregateId = key then
        amount { reservation with actualTotalTokens := some call.actualTotalTokens } - amount
          reservation
      else 0 := by
  rw [charged, ReconcileCall.settled, settle, Dict.total_set, entry.found]
  simp only [map_some, getD_some, share, ReconcileCall.reservationKey, entry.policyVersion,
    charged, ReconcileCall.usageKey]
  split <;> omega

/-- Settling a reservation changes nothing but the tokens of its own aggregate. -/
lemma recorded_settled (key : AggregateKey)
    (value : Usage → Int) : (call.settled store aggregateId usage reservation).recorded key value =
      store.recorded key value + if call.usageKey aggregateId = key then
        value { usage with
          tokens := max 0 (usage.tokens +
            call.actualTotalTokens - reservation.reservedTokens) } - value usage
      else 0 := by
  rw [recorded, ReconcileCall.settled, settle, get?_set]
  by_cases own : key = call.usageKey aggregateId
  · subst own
    simp only [if_true, map_some, getD_some, recorded, entry.usageFound]
    omega
  · rw [if_neg own, if_neg (Ne.symm own), Int.add_zero]
    rfl

variable (balanced : Balanced store)
include balanced

/-- The tokens of an aggregate cover those of each reservation in it. -/
lemma Balanced.covers : reservation.tokens ≤ usage.tokens := by
  -- What the other reservations stand for is not negative.
  have others : 0 ≤ (store.reservations.set (call.reservationKey aggregateId)
      { reservation with actualTotalTokens := some 0 }).total
        (share (call.usageKey aggregateId) (·.tokens)) := by
    refine Dict.total_nonneg fun (part, found) member => ?_
    have stored := get?_eq_some_iff.mpr member
    rw [get?_set] at stored
    have nonneg : 0 ≤ found.tokens := by
      split at stored
      · cases stored
        exact Int.le_refl 0
      · exact (balanced.sound part found stored).2
    unfold share
    split
    · exact nonneg
    · exact Int.le_refl 0
  have total := balanced.tokens (call.usageKey aggregateId)
  have own : (call.tenantId, aggregateId, reservation.policyVersion) =
      call.usageKey aggregateId := by
    rw [entry.policyVersion, ReconcileCall.usageKey]
  simp only [recorded, entry.usageFound, map_some, getD_some, charged] at total
  rw [Dict.total_set, entry.found] at others
  simp only [map_some, getD_some, share, ReconcileCall.reservationKey, own, if_true] at others
  rw [total]
  exact Int.sub_nonneg.mp (by simpa [Reservation.tokens] using others)

/-- Settling an open reservation keeps the aggregates balanced. -/
lemma Balanced.settled (actual : 0 ≤ call.actualTotalTokens)
    (unsettled : reservation.actualTotalTokens = none) :
    Balanced (call.settled store aggregateId usage reservation) where
  attempts key := by
    rw [charged_settled entry, recorded_settled entry, balanced.attempts]
    simp
  tokens key := by
    have covered := balanced.covers entry
    rw [charged_settled entry, recorded_settled entry, balanced.tokens]
    simp only [Reservation.tokens, unsettled, getD_none, getD_some] at covered ⊢
    congr 1
    split <;> omega
  costMicros key := by
    rw [charged_settled entry, recorded_settled entry, balanced.costMicros]
    simp
  sound other found stored := by
    rw [ReconcileCall.settled, settle, get?_set] at stored
    split at stored
    · cases stored
      exact ⟨(balanced.sound _ _ entry.found).1, actual⟩
    · exact balanced.sound other found stored
  limited key found stored := by
    rw [ReconcileCall.settled, settle, get?_set] at stored
    split at stored
    · cases stored
      exact balanced.limited _ usage entry.usageFound
    · exact balanced.limited key found stored

end

lemma reservations_book {entry : ReservationKey}
    (other : entry ≠ (tenantId, aggregateId, reservationId)) :
    (store.book tenantId aggregateId policyVersion reservationId limits reservedTokens
      reservedCostMicros).reservations.get? entry = store.reservations.get? entry :=
  get?_set_ne _ other _

lemma usage_book (other : key ≠ (tenantId, aggregateId, policyVersion)) :
    (store.book tenantId aggregateId policyVersion reservationId limits reservedTokens
      reservedCostMicros).usage.get? key = store.usage.get? key :=
  get?_set_ne _ other _

lemma charged_one : store.charged key (fun _ => 1) = (store.reservationsOf key).length := by
  rw [charged_eq_sum]
  simp

section

variable (balanced : Balanced store)
include balanced

/-- Booking a reservation for which there is room keeps the aggregates balanced. -/
lemma Balanced.book (fresh : store.reservations.get? (tenantId, aggregateId, reservationId) = none)
    (tokens : 0 ≤ reservedTokens)
    (room : HasRoom ((store.usage.get? (tenantId, aggregateId, policyVersion)).getD { limits })
      reservedTokens reservedCostMicros) :
    Balanced (store.book tenantId aggregateId policyVersion reservationId limits reservedTokens
      reservedCostMicros) where
  attempts key := by
    rw [charged_book fresh, recorded_book key _ 1 rfl fun _ => rfl, balanced.attempts]
  tokens key := by
    rw [charged_book fresh, recorded_book key _ reservedTokens rfl fun _ => rfl, balanced.tokens]
    rfl
  costMicros key := by
    rw [charged_book fresh, recorded_book key _ reservedCostMicros rfl fun _ => rfl,
      balanced.costMicros]
  sound entry reservation found := by
    rw [ProviderBudgetStore.book, get?_set] at found
    split at found
    · cases found
      exact ⟨tokens, tokens⟩
    · exact balanced.sound entry reservation found
  limited key usage found := by
    rw [ProviderBudgetStore.book, get?_set] at found
    split at found
    · cases found
      exact ⟨room.attempts, room.costMicros⟩
    · exact balanced.limited key usage found

lemma Balanced.bookProfile (tenantId : Str)
    (attempt : ProviderProfileAttemptReservation) : Balanced (store.bookProfile tenantId attempt) :=
  { balanced with }

/-- An admitted reservation keeps the aggregates balanced. -/
lemma Balanced.enter {call : ReserveCall}
    (admissible : Admissible call store) : Balanced (call.enter store) := by
  have run := balanced.book admissible.fresh admissible.tokens admissible.room
  have booked : Balanced (call.booked store) := by
    unfold ReserveCall.booked
    cases named : call.scopedBudget with
    | none => exact run
    | some scope =>
      -- The scope is not the run, so the first booking changed nothing that the second one reads.
      have other := scope_ne_run admissible.parts (mem_def.mpr named)
      refine run.book ?_ admissible.tokens ?_
      · rw [reservations_book (by simp [other])]
        exact admissible.scopeFresh scope named
      · rw [usage_book (by simp [other])]
        exact admissible.scopeRoom scope named
  unfold ReserveCall.enter
  cases call.profileAttempt with
  | none => exact booked
  | some attempt => exact booked.bookProfile call.tenantId attempt

/-- Every call keeps the aggregates balanced, also one that fails halfway. -/
lemma Balanced.step (call : BudgetCall) : Balanced (budgetMachine.step store call).2 := by
  have effect := budget_effect store call
  generalize budgetMachine.step store call = stepped at effect ⊢
  obtain ⟨_, _⟩ := stepped
  cases effect with
  | kept => exact balanced
  | admitted admissible => exact balanced.enter admissible
  | settledRun actual run unsettled _ => exact balanced.settled run actual unsettled
  | settledBoth actual run unsettled _ other scopeRun scopeUnsettled =>
    exact (balanced.settled run actual unsettled).settled (scopeRun.kept other)
      actual scopeUnsettled
  | torn actual run unsettled _ _ _ => exact balanced.settled run actual unsettled

lemma Balanced.reservationsOf_eq_nil (missing : store.usage.get? key = none) :
    store.reservationsOf key = [] := by
  have counted := balanced.attempts key
  rw [charged_one, recorded, missing, map_none, getD_none] at counted
  exact length_eq_zero_iff.mp (by omega)

/-- The tokens of an aggregate cover what is reserved in it, so that settling never goes below
zero. -/
lemma Balanced.reserved_le (found : store.usage.get? key = some usage)
    (member : reservation ∈ store.reservationsOf key) : reservation.tokens ≤ usage.tokens := by
  have total := balanced.tokens key
  rw [charged_eq_sum, recorded, found, map_some, getD_some] at total
  rw [total]
  refine single_le_sum (fun amount listed => ?_) _ (mem_map_of_mem member)
  -- Every listed reservation stands under some key of the store.
  obtain ⟨other, stored, rfl⟩ := mem_map.mp listed
  obtain ⟨⟨entry, _⟩, kept, rfl⟩ := mem_map.mp stored
  exact (balanced.sound entry _ (get?_eq_some_iff.mpr (mem_of_mem_filter kept))).2

end

lemma balanced_of_reachable (reached : budgetMachine.Reachable store) : Balanced store :=
  budgetMachine.reachable_of_step Balanced balanced_empty
    (fun _ call balanced => balanced.step call) reached

def WithinTokens (store : ProviderBudgetStore) (key : AggregateKey) : Prop :=
  ∃ usage, store.usage.get? key = some usage ∧
    (usage.limits.maximumTokens ≠ 0 → usage.tokens ≤ usage.limits.maximumTokens)

lemma withinTokens_book
    (room : HasRoom ((store.usage.get? (tenantId, aggregateId, policyVersion)).getD { limits })
      reservedTokens reservedCostMicros) :
    WithinTokens (store.book tenantId aggregateId policyVersion reservationId limits reservedTokens
      reservedCostMicros) (tenantId, aggregateId, policyVersion) :=
  ⟨_, get?_set_self _ _ _, room.tokens⟩

/-- Right after its admission a reservation leaves the run and the scope within their token
limits. -/
lemma Admissible.withinTokens {call : ReserveCall} (admissible : Admissible call store) :
    WithinTokens (call.enter store) (call.usageKey call.runId) ∧
      ∀ scope ∈ call.scopedBudget, WithinTokens (call.enter store)
        (call.usageKey scope.scopeId) := by
  simp only [WithinTokens, ReserveCall.enter_usage, ReserveCall.booked]
  cases named : call.scopedBudget with
  | none => exact ⟨withinTokens_book admissible.room, by simp⟩
  | some scope =>
    have other := scope_ne_run admissible.parts (mem_def.mpr named)
    refine ⟨?_, fun found same => ?_⟩
    · rw [usage_book (by simp [ReserveCall.usageKey, other.symm])]
      exact withinTokens_book admissible.room
    · cases same
      refine withinTokens_book ?_
      rw [usage_book (by simp [other])]
      exact admissible.scopeRoom scope named

/-- In every reachable state each aggregate is the exact sum of its reservations and within its
limits for attempts and cost, and a new reservation is within the token limits when it is
admitted. -/
theorem provider_budget_exact {store : ProviderBudgetStore}
    (reached : budgetMachine.Reachable store) : (∀ key usage, store.usage.get? key = some usage →
      usage.attempts = (store.reservationsOf key).length ∧
      usage.costMicros = ((store.reservationsOf key).map (·.reservedCostMicros)).sum ∧
      usage.tokens = ((store.reservationsOf key).map fun reservation =>
        reservation.actualTotalTokens.getD reservation.reservedTokens).sum ∧
      (∀ reservation ∈ store.reservationsOf key, reservation.actualTotalTokens = none →
        ∀ actualTotalTokens : Int, 0 ≤ actualTotalTokens →
          max 0 (usage.tokens + actualTotalTokens - reservation.reservedTokens) =
            usage.tokens + actualTotalTokens - reservation.reservedTokens) ∧
      (usage.limits.maximumAttempts ≠ 0 → usage.attempts ≤ usage.limits.maximumAttempts) ∧
      (usage.limits.maximumCostMicros ≠ 0 → usage.costMicros ≤ usage.limits.maximumCostMicros)) ∧
    (∀ key, store.usage.get? key = none → store.reservationsOf key = []) ∧
    (∀ call : ReserveCall, store.reservations.get? (call.reservationKey call.runId) = none →
      (((budgetMachine.step store (.reserve call)).2).reservations.get?
        (call.reservationKey call.runId)).isSome →
      WithinTokens (budgetMachine.step store (.reserve call)).2 (call.usageKey call.runId) ∧
      ∀ scope ∈ call.scopedBudget,
        WithinTokens (budgetMachine.step store (.reserve call)).2
          (call.usageKey scope.scopeId)) := by
  have balanced := balanced_of_reachable reached
  refine ⟨fun key usage found => ?_, fun key => balanced.reservationsOf_eq_nil,
    fun call fresh stored => ?_⟩
  · have attempts := balanced.attempts key
    have cost := balanced.costMicros key
    have tokens := balanced.tokens key
    rw [recorded, found, map_some, getD_some] at attempts cost tokens
    rw [charged_one] at attempts
    rw [charged_eq_sum] at cost tokens
    obtain ⟨attemptLimit, costLimit⟩ := balanced.limited key usage found
    refine ⟨attempts, cost, tokens, fun reservation member unsettled actual nonneg => ?_,
      attemptLimit, costLimit⟩
    have covered := balanced.reserved_le found member
    rw [Reservation.tokens, unsettled, getD_none] at covered
    omega
  · have effect := budget_effect store (.reserve call)
    generalize budgetMachine.step store (.reserve call) = stepped at effect stored ⊢
    obtain ⟨_, _⟩ := stepped
    cases effect with
    | kept => simp [fresh] at stored
    | admitted admissible => exact admissible.withinTokens

def sampleReserve : ReserveCall where
  tenantId := "t"
  runId := "r"
  policyVersion := "p"
  reservationId := "x"
  limits := ⟨2, 50, 0⟩
  reservedTokens := 10
  reservedCostMicros := 3
  scopedBudget := some ⟨"s", ⟨1, 20, 5⟩⟩

/-- The aggregates of a run whose only reservation was settled with more tokens than it reserved. -/
theorem provider_budget_exact_sample :
    let store := budgetMachine.after .empty [.reserve sampleReserve,
      .reconcile { tenantId := "t", runId := "r", policyVersion := "p",
                   reservationId := "x", actualTotalTokens := 60,
                   scopedBudget := sampleReserve.scopedBudget }]
    store.usage.get? ("t", "r", "p") = some ⟨⟨2, 50, 0⟩, 1, 60, 3⟩ ∧
      (1 : Int) = (store.reservationsOf ("t", "r", "p")).length := by
  have found : (budgetMachine.after .empty [.reserve sampleReserve,
      .reconcile { tenantId := "t", runId := "r", policyVersion := "p",
                   reservationId := "x", actualTotalTokens := 60,
                   scopedBudget := sampleReserve.scopedBudget }]).usage.get?
        ("t", "r", "p") = some ⟨⟨2, 50, 0⟩, 1, 60, 3⟩ := by
    decide +kernel
  exact ⟨found, ((provider_budget_exact ⟨_, rfl⟩).1 _ _ found).1⟩

end Ananta
