import Ananta.Budgets.Ledger

/-! Reconciliations that address a run together with its own scope are all or nothing. -/

namespace Ananta

open List Option ReserveCall

def ReserveCall.aggregates (call : ReserveCall) : List Str :=
  call.runId :: (call.scopedBudget.map (·.scopeId)).toList

def ReconcileCall.aggregates (call : ReconcileCall) : List Str :=
  call.runId :: (call.scopedBudget.map (·.scopeId)).toList

def AdmitsReservation (store : ProviderBudgetStore) (call : ReserveCall) : Prop :=
  store.reservations.get? (call.reservationKey call.runId) = none ∧
    ((budgetMachine.step store (.reserve call)).2.reservations.get?
      (call.reservationKey call.runId)).isSome

/-- One of the calls made this reservation. -/
def AdmittedIn (calls : List BudgetCall) (call : ReserveCall) : Prop :=
  ∃ first rest, calls = first ++ .reserve call :: rest ∧
    AdmitsReservation (budgetMachine.after .empty first) call

/-- A reconciliation under the identity of a reservation names its run and its scope, or neither of
them. -/
def Matches (admitted : ReserveCall) (call : ReconcileCall) : Prop :=
  call.tenantId = admitted.tenantId → call.reservationId = admitted.reservationId →
    call.aggregates = admitted.aggregates ∨ ∀ id ∈ call.aggregates, id ∉ admitted.aggregates

/-- Every reconciliation matches every reservation that was made before it. -/
def Disciplined (calls : List BudgetCall) : Prop :=
  ∀ first call rest, calls = first ++ .reconcile call :: rest →
    ∀ admitted, AdmittedIn first admitted → Matches admitted call

/-- The entries of the store belong to reservations that were made, and those of a run and its scope
agree. -/
structure Paired (admitted : ReserveCall → Prop) (store : ProviderBudgetStore) : Prop where
  owned : ∀ entry reservation, store.reservations.get? entry = some reservation →
    ∃ call, admitted call ∧ ∃ id ∈ call.aggregates, entry = call.reservationKey id
  agreed : ∀ call, admitted call → ∀ scope ∈ call.scopedBudget, ∃ run part,
    store.reservations.get? (call.reservationKey call.runId) = some run ∧
    store.reservations.get? (call.reservationKey scope.scopeId) = some part ∧
    run.actualTotalTokens = part.actualTotalTokens

/-- A run that is extended by a call has the same reservations, and perhaps one more. -/
lemma admittedIn_concat {calls : List BudgetCall} {last : BudgetCall} {call : ReserveCall} :
    AdmittedIn (calls ++ [last]) call ↔
      AdmittedIn calls call ∨
        (last = .reserve call ∧ AdmitsReservation (budgetMachine.after .empty calls) call) := by
  constructor
  · rintro ⟨first, rest, split, admits⟩
    rcases eq_nil_or_concat' rest with rfl | ⟨middle, input, rfl⟩
    · simp_all
    · rw [← cons_append, ← append_assoc] at split
      exact .inl ⟨first, middle, (append_inj' split rfl).1, admits⟩
  · rintro (⟨first, rest, rfl, admits⟩ | ⟨rfl, admits⟩)
    · exact ⟨first, rest ++ [last], by simp, admits⟩
    · exact ⟨calls, [], rfl, admits⟩

lemma Disciplined.of_append {calls rest : List BudgetCall}
    (disciplined : Disciplined (calls ++ rest)) : Disciplined calls := by
  intro first call middle split admitted earlier
  exact disciplined first call (middle ++ rest) (by simp [split]) admitted earlier

variable {admitted : ReserveCall → Prop} {store : ProviderBudgetStore}

variable {scope : ProviderScopedBudgetReservation} {call : ReconcileCall} {aggregateId : Str}
  {usage : Usage} {reservation : Reservation} {calls : List BudgetCall}

lemma scope_mem_aggregates {call : ReserveCall}
    (named : scope ∈ call.scopedBudget) : scope.scopeId ∈ call.aggregates := by
  simp [aggregates, mem_def.mp named]

/-- A reconciliation names exactly the entries of a reservation that it matches, or none of them. -/
lemma Matches.same_or_apart {made : ReserveCall} (fits : Matches made call) :
    (call.tenantId = made.tenantId ∧ call.reservationId = made.reservationId ∧
      call.aggregates = made.aggregates) ∨
    ∀ id ∈ call.aggregates, ∀ other ∈ made.aggregates,
      made.reservationKey other ≠ call.reservationKey id := by
  by_cases identity : call.tenantId = made.tenantId ∧ call.reservationId = made.reservationId
  · refine (fits identity.1 identity.2).imp (fun same => ⟨identity.1, identity.2, same⟩) ?_
    intro apart id named other listed equal
    have same : other = id := congrArg (fun entry => entry.2.1) equal
    exact apart id named (same ▸ listed)
  · refine .inr fun id _ other _ equal => identity ?_
    exact ⟨(congrArg (·.1) equal).symm, (congrArg (fun entry => entry.2.2) equal).symm⟩

lemma settled_ne {entry : ReservationKey} (other : entry ≠ call.reservationKey aggregateId) :
    (call.settled store aggregateId usage reservation).reservations.get? entry =
      store.reservations.get? entry :=
  get?_set_ne _ other _

lemma settled_self :
    (call.settled store aggregateId usage reservation).reservations.get?
      (call.reservationKey aggregateId) =
      some { reservation with actualTotalTokens := some call.actualTotalTokens } :=
  get?_set_self _ _ _

/-- Settling a known entry adds none. -/
lemma owned_settled (owned : ∀ entry found, store.reservations.get? entry = some found →
      ∃ made, admitted made ∧ ∃ id ∈ made.aggregates, entry = made.reservationKey id)
    (known : Settles call store aggregateId usage reservation) :
    ∀ entry found, (call.settled store aggregateId usage reservation).reservations.get? entry =
      some found →
      ∃ made, admitted made ∧ ∃ id ∈ made.aggregates, entry = made.reservationKey id := by
  intro entry found stored
  by_cases same : entry = call.reservationKey aggregateId
  · exact owned entry reservation (same ▸ known.found)
  · rw [settled_ne same] at stored
    exact owned entry found stored

section

variable (paired : Paired admitted store)
include paired

section

variable (fits : ∀ made, admitted made → Matches made call)
include fits

section

variable (run : Settles call store call.runId usage reservation)
include run

/-- A matching reconciliation without a scope touches no pair. -/
lemma Paired.settledRun (unscoped : call.scopedBudget = none) :
    Paired admitted (call.settled store call.runId usage reservation) where
  owned := owned_settled paired.owned run
  agreed made before scope named := by
    obtain ⟨first, second, foundRun, foundScope, agree⟩ := paired.agreed made before scope named
    rcases (fits made before).same_or_apart with ⟨_, _, same⟩ | apart
    · simp [ReconcileCall.aggregates, aggregates, unscoped, mem_def.mp named] at same
    · refine ⟨first, second, ?_, ?_, agree⟩
      · rwa [settled_ne (apart _ mem_cons_self _ mem_cons_self)]
      · rwa [settled_ne (apart _ mem_cons_self _ (scope_mem_aggregates named))]

/-- A matching reconciliation with a scope settles a whole pair and touches no other one. -/
lemma Paired.settledBoth {scopeUsage : Usage} {scopeReservation : Reservation}
    (named : call.scopedBudget = some scope) (other : scope.scopeId ≠ call.runId)
    (scopeRun : Settles call store scope.scopeId scopeUsage scopeReservation) :
    Paired admitted (call.settled (call.settled store call.runId usage reservation)
      scope.scopeId scopeUsage scopeReservation) where
  owned := owned_settled (owned_settled paired.owned run) (scopeRun.kept other)
  agreed made before own listed := by
    obtain ⟨first, second, foundRun, foundScope, agree⟩ := paired.agreed made before own listed
    have runNamed : call.runId ∈ call.aggregates := mem_cons_self
    have scopeNamed : scope.scopeId ∈ call.aggregates := by simp [ReconcileCall.aggregates, named]
    rcases (fits made before).same_or_apart with ⟨tenant, identity, same⟩ | apart
    · -- Both entries of the pair are the ones that the call settles.
      simp only [ReconcileCall.aggregates, aggregates, named, mem_def.mp listed,
        map_some, toList_some, cons.injEq, and_true] at same
      have runKey : made.reservationKey made.runId = call.reservationKey call.runId := by
        rw [reservationKey, ReconcileCall.reservationKey, tenant, identity, same.1]
      have scopeKey : made.reservationKey own.scopeId = call.reservationKey scope.scopeId := by
        rw [reservationKey, ReconcileCall.reservationKey, tenant, identity, same.2]
      have apart : call.reservationKey call.runId ≠ call.reservationKey scope.scopeId := by
        simp [ReconcileCall.reservationKey, other.symm]
      rw [runKey, scopeKey, settled_ne apart]
      exact ⟨_, _, settled_self, settled_self, rfl⟩
    · refine ⟨first, second, ?_, ?_, agree⟩
      · rw [settled_ne (apart _ scopeNamed _ mem_cons_self),
          settled_ne (apart _ runNamed _ mem_cons_self)]
        exact foundRun
      · rw [settled_ne (apart _ scopeNamed _ (scope_mem_aggregates listed)),
          settled_ne (apart _ runNamed _ (scope_mem_aggregates listed))]
        exact foundScope

/-- A matching reconciliation never finds the scope settled and the run open. -/
lemma Paired.not_torn {scopeUsage : Usage} {scopeReservation : Reservation}
    (unsettled : reservation.actualTotalTokens = none) (named : call.scopedBudget = some scope)
    (scopeRun : Settles call store scope.scopeId scopeUsage scopeReservation)
    (settled : scopeReservation.actualTotalTokens.isSome) : False := by
  obtain ⟨made, before, id, listed, key⟩ := paired.owned _ _ run.found
  rcases (fits made before).same_or_apart with ⟨tenant, identity, same⟩ | apart
  · -- The reservation was made with the scope of the call, so that both entries agree.
    cases part : made.scopedBudget with
    | none => simp [ReconcileCall.aggregates, aggregates, named, part] at same
    | some own =>
      simp only [ReconcileCall.aggregates, aggregates, named, part, map_some,
        toList_some, cons.injEq, and_true] at same
      obtain ⟨first, second, foundRun, foundScope, agree⟩ := paired.agreed made before own part
      rw [reservationKey, ← tenant, ← identity, ← same.1] at foundRun
      rw [reservationKey, ← tenant, ← identity, ← same.2] at foundScope
      cases foundRun.symm.trans run.found
      cases foundScope.symm.trans scopeRun.found
      simp [← agree, unsettled] at settled
  · exact apart _ mem_cons_self id listed key.symm

end

end

omit paired in
/-- An admitted reservation adds one entry for each of its aggregates. -/
lemma enter_reservations_get? {call : ReserveCall} (entry : ReservationKey) :
    (call.enter store).reservations.get? entry =
      if ∃ id ∈ call.aggregates, entry = call.reservationKey id then
        some ⟨call.policyVersion, call.reservedTokens, call.reservedCostMicros, none⟩
      else store.reservations.get? entry := by
  rw [enter_reservations, booked, aggregates]
  cases named : call.scopedBudget with
  | none => simp [ProviderBudgetStore.book, get?_set, reservationKey]
  | some scope =>
    simp only [ProviderBudgetStore.book, get?_set, reservationKey, map_some,
      toList_some, mem_cons, not_mem_nil, or_false, exists_eq_or_imp, exists_eq_left]
    split
    · simp_all
    · simp_all

/-- A new reservation is a pair of its own and leaves the others alone. -/
lemma Paired.enter {call : ReserveCall} (admissible : Admissible call store) :
    Paired (fun made => admitted made ∨ made = call) (call.enter store) where
  owned entry reservation found := by
    rw [enter_reservations_get?] at found
    split at found
    · rename_i own
      exact ⟨call, .inr rfl, own⟩
    · obtain ⟨made, before, owner⟩ := paired.owned entry reservation found
      exact ⟨made, .inl before, owner⟩
  agreed made listed scope named := by
    rcases listed with before | rfl
    · obtain ⟨first, second, foundRun, foundScope, agree⟩ := paired.agreed made before scope named
      -- The entries of the new reservation were free.
      have known : ∀ entry, (store.reservations.get? entry).isSome →
          ¬ ∃ id ∈ call.aggregates, entry = call.reservationKey id := by
        rintro entry stored ⟨id, aggregate, rfl⟩
        have free : store.reservations.get? (call.reservationKey id) = none := by
          rcases mem_cons.mp aggregate with rfl | part
          · exact admissible.fresh
          · obtain ⟨own, listed, rfl⟩ := map_eq_some_iff.mp (mem_toList.mp part)
            exact admissible.scopeFresh own listed
        simp [free] at stored
      refine ⟨first, second, ?_, ?_, agree⟩
      · rw [enter_reservations_get?, if_neg (known _ (by simp [foundRun]))]
        exact foundRun
      · rw [enter_reservations_get?, if_neg (known _ (by simp [foundScope]))]
        exact foundScope
    · rw [enter_reservations_get?, if_pos ⟨_, mem_cons_self, rfl⟩, enter_reservations_get?,
        if_pos ⟨_, scope_mem_aggregates named, rfl⟩]
      exact ⟨_, _, rfl, rfl, rfl⟩

lemma Paired.congr {others : ReserveCall → Prop}
    (same : ∀ call, others call ↔ admitted call) : Paired others store := by
  have equal : others = admitted := funext fun call => propext (same call)
  rwa [equal]

end

lemma admittedIn_reconcile {last : ReconcileCall} {call : ReserveCall} :
    AdmittedIn (calls ++ [.reconcile last]) call ↔ AdmittedIn calls call := by
  simp [admittedIn_concat]

/-- One more matching call keeps the pairs. -/
lemma Paired.step {call : BudgetCall}
    (paired : Paired (AdmittedIn calls) (budgetMachine.after .empty calls))
    (disciplined : Disciplined (calls ++ [call])) :
    Paired (AdmittedIn (calls ++ [call]))
      (budgetMachine.step (budgetMachine.after .empty calls) call).2 := by
  have effect := budget_effect (budgetMachine.after .empty calls) call
  have unmade : ∀ made, (budgetMachine.step (budgetMachine.after .empty calls) call).2 =
      budgetMachine.after .empty calls →
        (AdmittedIn (calls ++ [call]) made ↔ AdmittedIn calls made) := by
    intro made kept
    rw [admittedIn_concat, or_iff_left]
    rintro ⟨rfl, fresh, stored⟩
    simp [kept, fresh] at stored
  generalize answered : (budgetMachine.step (budgetMachine.after .empty calls) call).1 =
    outcome at effect
  generalize reached : (budgetMachine.step (budgetMachine.after .empty calls) call).2 = after
    at effect unmade ⊢
  cases effect with
  | kept => exact paired.congr fun made => unmade made rfl
  | @admitted call shown admissible =>
    refine (paired.enter admissible).congr fun made => ?_
    rw [admittedIn_concat]
    refine or_congr_right ⟨fun both => (BudgetCall.reserve.inj both.1).symm, ?_⟩
    rintro rfl
    refine ⟨rfl, admissible.fresh, ?_⟩
    rw [reached, enter_reservations_get?, if_pos ⟨_, mem_cons_self, rfl⟩]
    rfl
  | settledRun _ run _ unscoped =>
    exact (paired.settledRun (disciplined calls _ [] rfl) run unscoped).congr fun _ =>
      admittedIn_reconcile
  | settledBoth _ run _ named other scopeRun _ =>
    exact (paired.settledBoth (disciplined calls _ [] rfl) run named other scopeRun).congr
      fun _ => admittedIn_reconcile
  | torn _ run unsettled named scopeRun settled =>
    exact (paired.not_torn (disciplined calls _ [] rfl) run unsettled named scopeRun settled).elim

/-- In a disciplined run every pair agrees. -/
lemma paired_of_disciplined (disciplined : Disciplined calls) :
    Paired (AdmittedIn calls) (budgetMachine.after .empty calls) := by
  refine budgetMachine.after_of_history
    (fun calls store => Disciplined calls → Paired (AdmittedIn calls) store) ?_ ?_ calls disciplined
  · refine fun _ => ⟨nofun, ?_⟩
    rintro call ⟨first, rest, impossible, _⟩
    simp at impossible
  · intro calls call paired disciplined
    exact (paired disciplined.of_append).step disciplined

/-- In a disciplined run a call that raises leaves the store as it was, and the entries of a
reservation that was made for a run and a scope are both open or both settled with the same
tokens. -/
theorem budget_calls_atomic {calls : List BudgetCall} (disciplined : Disciplined calls) :
    (∀ first call rest, calls = first ++ call :: rest →
      ∀ fault, (budgetMachine.step (budgetMachine.after .empty first) call).1 = .error fault →
        (budgetMachine.step (budgetMachine.after .empty first) call).2 =
          budgetMachine.after .empty first) ∧
    (∀ first rest, calls = first ++ rest → ∀ call, AdmittedIn first call →
      ∀ scope ∈ call.scopedBudget, ∃ run part,
        (budgetMachine.after .empty first).reservations.get? (call.reservationKey call.runId) =
          some run ∧
        (budgetMachine.after .empty first).reservations.get? (call.reservationKey scope.scopeId) =
          some part ∧
        run.actualTotalTokens = part.actualTotalTokens) := by
  constructor
  · rintro first call rest rfl fault raised
    have paired := paired_of_disciplined disciplined.of_append
    have effect := budget_effect (budgetMachine.after .empty first) call
    generalize budgetMachine.step (budgetMachine.after .empty first) call =
      stepped at effect raised ⊢
    obtain ⟨_, _⟩ := stepped
    cases effect with
    | kept => rfl
    | admitted _ => cases raised
    | settledRun => cases raised
    | settledBoth => cases raised
    | torn _ run unsettled named scopeRun settled =>
      exact (paired.not_torn (disciplined first _ rest rfl)
        run unsettled named scopeRun settled).elim
  · rintro first rest rfl
    exact (paired_of_disciplined disciplined.of_append).agreed

def sampleReconcile : ReconcileCall where
  tenantId := sampleReserve.tenantId
  runId := sampleReserve.runId
  policyVersion := sampleReserve.policyVersion
  reservationId := sampleReserve.reservationId
  actualTotalTokens := 5
  scopedBudget := sampleReserve.scopedBudget

/-- A reservation that is made and settled as a whole. -/
theorem budget_calls_atomic_sample :
    Disciplined [.reserve sampleReserve, .reconcile sampleReconcile] ∧ ∃ run part,
        (budgetMachine.after .empty
          [.reserve sampleReserve, .reconcile sampleReconcile]).reservations.get?
          (sampleReserve.reservationKey "r") = some run ∧
        (budgetMachine.after .empty
          [.reserve sampleReserve, .reconcile sampleReconcile]).reservations.get?
          (sampleReserve.reservationKey "s") = some part ∧
        run.actualTotalTokens = part.actualTotalTokens := by
  have disciplined : Disciplined [.reserve sampleReserve, .reconcile sampleReconcile] := by
    rintro first call rest split admitted ⟨before, between, rfl, _⟩ _ _
    -- The only reconciliation is the second call, and the only reservation is the first one.
    have lengths := congrArg length split
    simp only [length_append, length_cons, length_nil] at lengths
    have noneBefore : before = [] := length_eq_zero_iff.mp (by omega)
    have noneBetween : between = [] := length_eq_zero_iff.mp (by omega)
    have noneAfter : rest = [] := length_eq_zero_iff.mp (by omega)
    subst noneBefore noneBetween noneAfter
    cases split
    exact .inl rfl
  refine ⟨disciplined, (budget_calls_atomic disciplined).2 _ [] rfl sampleReserve ?_ ⟨"s", _⟩ rfl⟩
  exact ⟨[], _, rfl, by decide +kernel, by decide +kernel⟩

/-- A scope that is settled as if it were a run tears the pair apart: the later reconciliation of
the run raises, and the store has changed. -/
theorem reconcile_tears_pair :
    let calls : List BudgetCall :=
      [.reserve sampleReserve,
        .reconcile { sampleReconcile with runId := "s", scopedBudget := none }]
    let store := budgetMachine.after .empty calls
    AdmittedIn calls sampleReserve ∧
    (store.reservations.get? (sampleReserve.reservationKey "r")).bind (·.actualTotalTokens) = none ∧
    (store.reservations.get? (sampleReserve.reservationKey "s")).bind (·.actualTotalTokens) =
      some 5 ∧
    (budgetMachine.step store (.reconcile sampleReconcile)).1 =
      .error (budgetError "provider_budget_atomic_binding_mismatch") ∧
    (budgetMachine.step store (.reconcile sampleReconcile)).2 ≠ store := by
  refine ⟨⟨[], _, rfl, by decide +kernel, by decide +kernel⟩, ?_⟩
  decide +kernel

end Ananta
