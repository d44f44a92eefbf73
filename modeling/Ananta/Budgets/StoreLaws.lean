import Ananta.Budgets.Store

/-! What a call of the budget store can do, and what it found in the store when it did. -/

namespace Ananta

open Call ReconcileCall

variable {store : ProviderBudgetStore} {runId : Str}
  {profileAttempt : Option ProviderProfileAttemptReservation}
  {scopedBudget : Option ProviderScopedBudgetReservation}

variable {scope : ProviderScopedBudgetReservation} {reservedTokens reservedCostMicros : Int}

lemma scope_ne_run (valid : validateParts runId profileAttempt scopedBudget = .ok ())
    (named : scope ∈ scopedBudget) : scope.scopeId ≠ runId := by
  simp only [validateParts, ok_iff, checkSome_eq_ok] at valid
  simp_all

lemma attempt_valid (valid : validateParts runId profileAttempt scopedBudget = .ok ())
    {attempt : ProviderProfileAttemptReservation} (named : attempt ∈ profileAttempt) :
    attempt.assertValid = .ok () := by
  simp only [validateParts, bind_eq_ok, checkSome_eq_ok] at valid
  obtain ⟨_, attempts, _⟩ := valid
  exact attempts attempt named

structure HasRoom (usage : Usage) (reservedTokens reservedCostMicros : Int) : Prop where
  attempts : usage.limits.maximumAttempts ≠ 0 → usage.attempts < usage.limits.maximumAttempts
  tokens : usage.limits.maximumTokens ≠ 0 →
    usage.tokens + reservedTokens ≤ usage.limits.maximumTokens
  costMicros : usage.limits.maximumCostMicros ≠ 0 →
    usage.costMicros + reservedCostMicros ≤ usage.limits.maximumCostMicros

lemma hasRoom_of_assertCapacity {usage : Usage}
    (checked : assertCapacity usage reservedTokens reservedCostMicros = .ok ()) :
    HasRoom usage reservedTokens reservedCostMicros := by
  simp only [assertCapacity, ok_iff, not_and, not_le, not_lt] at checked
  obtain ⟨_, attempts, _, tokens, cost⟩ := checked
  exact ⟨attempts, tokens, cost⟩

/-- What is known of a scoped entry that passed its check. -/
lemma assertScopedBudgetReplay_eq_ok {usage : Option Usage} {reservation : Option Reservation}
    {policyVersion : Str} {entry : Usage × Reservation}
    (checked : assertScopedBudgetReplay scope usage reservation policyVersion
      reservedTokens reservedCostMicros = .ok entry) :
    usage = some entry.1 ∧ reservation = some entry.2 ∧ entry.2.policyVersion = policyVersion ∧
      entry.2.reservedTokens = reservedTokens := by
  unfold assertScopedBudgetReplay at checked
  split at checked
  · cases checked
  · simp only [assertReservationBinding, ok_iff, not_or, not_not] at checked
    simp_all
  · cases checked

section

variable {call : ReserveCall}

lemma ReserveCall.enter_usage : (call.enter store).usage = (call.booked store).usage := by
  unfold ReserveCall.enter
  cases call.profileAttempt with
  | none => rfl
  | some attempt => rfl

lemma ReserveCall.enter_reservations :
    (call.enter store).reservations = (call.booked store).reservations := by
  unfold ReserveCall.enter
  cases call.profileAttempt with
  | none => rfl
  | some attempt => rfl

end

/-- A reservation that is new to the store and passes every check. -/
structure Admissible (call : ReserveCall) (store : ProviderBudgetStore) : Prop where
  parts : validateParts call.runId call.profileAttempt call.scopedBudget = .ok ()
  tokens : 0 ≤ call.reservedTokens
  costMicros : 0 ≤ call.reservedCostMicros
  fresh : store.reservations.get? (call.reservationKey call.runId) = none
  room : HasRoom (call.candidate store call.runId call.limits)
    call.reservedTokens call.reservedCostMicros
  scopeFresh : ∀ scope ∈ call.scopedBudget,
    store.reservations.get? (call.reservationKey scope.scopeId) = none
  scopeRoom : ∀ scope ∈ call.scopedBudget,
    HasRoom (call.candidate store scope.scopeId scope.limits)
      call.reservedTokens call.reservedCostMicros
  profile : ∀ attempt ∈ call.profileAttempt,
    store.assertProfileAttemptCapacity call.tenantId attempt = .ok ()

structure Settles (call : ReconcileCall) (store : ProviderBudgetStore) (aggregateId : Str)
    (usage : Usage) (reservation : Reservation) : Prop where
  usageFound : store.usage.get? (call.usageKey aggregateId) = some usage
  found : store.reservations.get? (call.reservationKey aggregateId) = some reservation
  policyVersion : reservation.policyVersion = call.policyVersion

/-- What a call can answer and do to the store. -/
inductive BudgetEffect (store : ProviderBudgetStore) :
    BudgetCall → Except Fault ProviderBudgetSnapshot → ProviderBudgetStore → Prop where
  | kept {call : BudgetCall} {outcome : Except Fault ProviderBudgetSnapshot} :
      BudgetEffect store call outcome store
  | admitted {call : ReserveCall} {shown : ProviderBudgetSnapshot}
      (admissible : Admissible call store) :
      BudgetEffect store (.reserve call) (.ok shown) (call.enter store)
  | settledRun {call : ReconcileCall} {shown : ProviderBudgetSnapshot} {usage : Usage}
      {reservation : Reservation} (actual : 0 ≤ call.actualTotalTokens)
      (run : Settles call store call.runId usage reservation)
      (unsettled : reservation.actualTotalTokens = none) (unscoped : call.scopedBudget = none) :
      BudgetEffect store (.reconcile call) (.ok shown)
        (call.settled store call.runId usage reservation)
  | settledBoth {call : ReconcileCall} {shown : ProviderBudgetSnapshot} {usage scopeUsage : Usage}
      {reservation scopeReservation : Reservation} {scope : ProviderScopedBudgetReservation}
      (actual : 0 ≤ call.actualTotalTokens) (run : Settles call store call.runId usage reservation)
      (unsettled : reservation.actualTotalTokens = none) (named : call.scopedBudget = some scope)
      (other : scope.scopeId ≠ call.runId)
      (scopeRun : Settles call store scope.scopeId scopeUsage scopeReservation)
      (scopeUnsettled : scopeReservation.actualTotalTokens = none) :
      BudgetEffect store (.reconcile call) (.ok shown)
        (call.settled (call.settled store call.runId usage reservation) scope.scopeId scopeUsage
          scopeReservation)
  | torn {call : ReconcileCall} {fault : Fault} {usage scopeUsage : Usage}
      {reservation scopeReservation : Reservation} {scope : ProviderScopedBudgetReservation}
      (actual : 0 ≤ call.actualTotalTokens) (run : Settles call store call.runId usage reservation)
      (unsettled : reservation.actualTotalTokens = none) (named : call.scopedBudget = some scope)
      (scopeRun : Settles call store scope.scopeId scopeUsage scopeReservation)
      (scopeSettled : scopeReservation.actualTotalTokens.isSome) :
      BudgetEffect store (.reconcile call) (.error fault)
        (call.settled store call.runId usage reservation)

variable {call : ReconcileCall} {usage : Usage} {reservation : Reservation}

/-- A call that passes its checks is admissible. -/
lemma admissible_of_checks {call : ReserveCall}
    (valid : call.validate = .ok ())
    (fresh : store.reservations.get? (call.reservationKey call.runId) = none)
    (checked : call.assertAdmissible store = .ok ()) : Admissible call store := by
  simp only [ReserveCall.validate, validateReservation, ok_iff] at valid
  obtain ⟨_, _, _, ⟨_, _, nonneg⟩, parts⟩ := valid
  simp only [ReserveCall.assertAdmissible, ok_iff, not_exists, not_and, Bool.not_eq_true,
    Option.isSome_eq_false_iff, Option.isNone_iff_eq_none, checkSome_eq_ok] at checked
  obtain ⟨_, scopeFresh, _, profile, _, room, scopeRoom⟩ := checked
  exact ⟨parts, by omega, by omega, fresh, hasRoom_of_assertCapacity room, scopeFresh,
    fun scope named => hasRoom_of_assertCapacity (scopeRoom scope named), profile⟩

/-- A reservation is admitted, or the store is left alone. -/
lemma reserve_effect (store : ProviderBudgetStore) (call : ReserveCall) :
    Ensures (reserve call) store (BudgetEffect store (.reserve call)) := by
  refine ensures_evaluate (fun _ _ => .kept) fun _ valid => ?_
  refine ensures_evaluate (fun _ _ => .kept) fun _ _ => ?_
  cases fresh : store.reservations.get? (call.reservationKey call.runId) with
  | some existing => exact .kept
  | none =>
    refine ensures_evaluate (fun _ _ => .kept) fun _ checked => ?_
    exact .admitted (admissible_of_checks valid fresh checked)

/-- The entry of the run that a call finds. -/
lemma settles_of_located (found : call.located store = .ok (usage, reservation)) :
    Settles call store call.runId usage reservation := by
  unfold located at found
  split at found
  · rename_i usageFound reservationFound
    simp only [ok_iff, not_not] at found
    obtain ⟨_, policy, same⟩ := found
    cases same
    exact ⟨usageFound, reservationFound, policy⟩
  · cases found

lemma answer_ok (entry : Settles call store call.runId usage reservation)
    (profileUsage : Option ProfileAttemptUsage) :
    ∃ shown, call.answer store profileUsage = .ok shown := by
  have found : call.located store = .ok (usage, reservation) := by
    simp only [located, entry.usageFound, entry.found, ok_iff, not_not]
    exact ⟨(), entry.policyVersion, trivial⟩
  exact ⟨_, bind_of_ok found _⟩

variable {aggregateId : Str}

lemma Settles.settled (entry : Settles call store aggregateId usage reservation) :
    Settles call (call.settled store aggregateId usage reservation) aggregateId
      { usage with
        tokens := max 0 (usage.tokens + call.actualTotalTokens - reservation.reservedTokens) }
      { reservation with actualTotalTokens := some call.actualTotalTokens } :=
  ⟨get?_set_self _ _ _, get?_set_self _ _ _, entry.policyVersion⟩

/-- Settling an entry leaves the entries of other aggregates alone. -/
lemma Settles.kept {otherId : Str}
    {otherUsage : Usage} {otherReservation : Reservation} (other : otherId ≠ aggregateId)
    (entry : Settles call store otherId otherUsage otherReservation) :
    Settles call (call.settled store aggregateId usage reservation)
      otherId otherUsage otherReservation := by
  have apart : ∀ last : Str, (call.tenantId, otherId, last) ≠
      (call.tenantId, aggregateId, last) := by
    simp [other]
  exact ⟨(get?_set_ne _ (apart _) _).trans entry.usageFound,
    (get?_set_ne _ (apart _) _).trans entry.found, entry.policyVersion⟩

/-- The scope is settled where it was not settled before, and refused otherwise. -/
lemma settleScope_ensures (call : ReconcileCall) (store : ProviderBudgetStore) (scopeId : Str)
    (usage : Usage) (reservation : Reservation) :
    Ensures (settleScope call (some (scopeId, usage, reservation))) store fun outcome after =>
      (outcome ≠ .ok () ∧ reservation.actualTotalTokens.isSome ∧ after = store) ∨
      (outcome = .ok () ∧ reservation.actualTotalTokens = none ∧
        after = call.settled store scopeId usage reservation) := by
  refine ensures_guard (fun known => .inl ⟨by simp, known, rfl⟩) fun unknown => ?_
  exact .inr ⟨rfl, by simpa using unknown, rfl⟩

/-- A reconciliation settles the run, the run and the scope, or nothing, unless the scope was
settled before. -/
lemma reconcile_effect (store : ProviderBudgetStore) (call : ReconcileCall) :
    Ensures (reconcile call) store (BudgetEffect store (.reconcile call)) := by
  refine ensures_evaluate (fun _ _ => .kept) fun _ valid => ?_
  simp only [validate, ok_iff, not_lt] at valid
  obtain ⟨_, _, _, actual, parts⟩ := valid
  refine ensures_evaluate (fun _ _ => .kept) fun located found => ?_
  obtain ⟨usage, reservation⟩ := located
  have run := settles_of_located found
  refine ensures_evaluate (fun _ _ => .kept) fun scope scopeFound => ?_
  refine ensures_evaluate (fun _ _ => .kept) fun profileUsage _ => ?_
  cases unsettled : reservation.actualTotalTokens with
  | some known =>
    refine ensures_guard (fun _ => .kept) fun _ => ?_
    refine ensures_guard (fun _ => .kept) fun _ => ?_
    exact .kept
  | none =>
    apply ensures_write
    unfold scopedEntry at scopeFound
    cases named : call.scopedBudget with
    | none =>
      rw [named] at scopeFound
      cases scopeFound
      obtain ⟨shown, answered⟩ := answer_ok run.settled profileUsage
      show BudgetEffect store _
        (call.answer (call.settled store call.runId usage reservation) profileUsage) _
      rw [answered]
      exact .settledRun actual run unsettled named
    | some scope =>
      rw [named] at scopeFound
      simp only [ok_iff] at scopeFound
      obtain ⟨⟨scopeUsage, scopeReservation⟩, checked, rfl⟩ := scopeFound
      obtain ⟨usageFound, found, policy, _⟩ := assertScopedBudgetReplay_eq_ok checked
      have entry : Settles call store scope.scopeId scopeUsage scopeReservation :=
        ⟨usageFound, found, policy⟩
      have other := scope_ne_run parts (Option.mem_def.mpr named)
      refine ensures_sequence (settleScope_ensures call _ _ _ _) ?_ ?_
      · -- The scope was settled by another call, and the run stays charged.
        rintro fault after (⟨_, known, rfl⟩ | ⟨impossible, _⟩)
        · exact .torn actual run unsettled named entry known
        · cases impossible
      · rintro _ after (⟨impossible, _⟩ | ⟨_, unknown, rfl⟩)
        · exact absurd rfl impossible
        · obtain ⟨shown, answered⟩ := answer_ok (run.settled.kept other.symm) profileUsage
          show BudgetEffect store _ (call.answer (call.settled
            (call.settled store call.runId usage reservation)
              scope.scopeId scopeUsage scopeReservation)
            profileUsage) _
          rw [answered]
          exact .settledBoth actual run unsettled named other entry unknown

lemma budget_effect (store : ProviderBudgetStore) (call : BudgetCall) :
    BudgetEffect store call (budgetMachine.step store call).1
      (budgetMachine.step store call).2 := by
  cases call with
  | reserve call => exact reserve_effect store call
  | reconcile call => exact reconcile_effect store call

end Ananta
