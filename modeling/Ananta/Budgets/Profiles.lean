import Ananta.Budgets.StoreLaws

/-! The attempts of provider profiles are counted exactly and taken in the order of the plan. -/

namespace Ananta

open Option

def ProviderBudgetStore.profileEntries (store : ProviderBudgetStore) (scope : Str × Str) :
    Finset (Str × Str × Str) :=
  store.profileAttemptReservations.filter fun entry => (entry.1, entry.2.1) = scope

/-- What every call keeps of the profile scopes. -/
structure Counted (store : ProviderBudgetStore) : Prop where
  used : ∀ scope, ((store.profileAttemptUsage.get? scope).map (·.used)).getD 0 =
    (store.profileEntries scope).card
  limited : ∀ scope usage, store.profileAttemptUsage.get? scope = some usage →
    usage.used ≤ usage.maximum

lemma counted_empty : Counted .empty where
  used _ := rfl
  limited _ _ found := nomatch found

/-- What a valid profile attempt finds in the store when it is admitted. -/
structure Allowed (store : ProviderBudgetStore) (tenantId : Str)
    (attempt : ProviderProfileAttemptReservation) : Prop where
  exhausted : ∀ predecessor ∈ attempt.predecessors,
    store.profileAttemptUsage.get? (tenantId, predecessor.scopeId) =
      some ⟨predecessor.maximumAttempts, predecessor.maximumAttempts⟩
  fresh : (tenantId, attempt.current.scopeId, attempt.reservationId) ∉
    store.profileAttemptReservations
  positive : 1 ≤ attempt.current.maximumAttempts
  room : ∀ usage, store.profileAttemptUsage.get? (tenantId, attempt.current.scopeId) = some usage →
    usage.maximum = attempt.current.maximumAttempts ∧ usage.used < usage.maximum

variable {store : ProviderBudgetStore} {tenantId : Str}

/-- Every predecessor of a valid plan allows at least one attempt. -/
lemma predecessor_valid {predecessors : List ProviderAttemptScope} {seen : List Str}
    (valid : assertPredecessors predecessors seen = .ok ()) :
    ∀ predecessor ∈ predecessors, 1 ≤ predecessor.maximumAttempts := by
  induction predecessors generalizing seen with
  | nil => exact nofun
  | cons first rest ih =>
    simp only [assertPredecessors, ProviderAttemptScope.assertValid, ok_iff, not_or,
      not_lt] at valid
    grind

/-- A predecessor that passes the check is known with its own maximum and has used it up. -/
lemma exhausted_of_assertExhausted {predecessor : ProviderAttemptScope}
    (positive : 1 ≤ predecessor.maximumAttempts)
    (checked : store.assertExhausted tenantId predecessor = .ok ()) :
    store.profileAttemptUsage.get? (tenantId, predecessor.scopeId) =
      some ⟨predecessor.maximumAttempts, predecessor.maximumAttempts⟩ := by
  simp only [ProviderBudgetStore.assertExhausted, ok_iff] at checked
  obtain ⟨_, maximum, used⟩ := checked
  cases found : store.profileAttemptUsage.get? (tenantId, predecessor.scopeId) with
  | none =>
    -- A scope that was never used has no attempts, and a valid maximum is positive.
    grind
  | some usage =>
    simp only [found, any_some, decide_eq_true_eq, ne_eq, not_not, map_some,
      getD_some] at maximum used
    rw [← maximum] at used ⊢
    cases usage
    exact congrArg some (congrArg _ used)

/-- A valid profile attempt that passes its check is allowed. -/
lemma allowed_of_checks {attempt : ProviderProfileAttemptReservation}
    (valid : attempt.assertValid = .ok ())
    (checked : store.assertProfileAttemptCapacity tenantId attempt = .ok ()) :
    Allowed store tenantId attempt := by
  simp only [ProviderProfileAttemptReservation.assertValid, ProviderAttemptScope.assertValid,
    ok_iff, not_or, not_lt] at valid
  obtain ⟨_, ⟨_, positive⟩, _, _, predecessors⟩ := valid
  simp only [ProviderBudgetStore.assertProfileAttemptCapacity, ok_iff, forM_eq_ok] at checked
  obtain ⟨_, exhausted, _, maximum, _, fresh, room⟩ := checked
  refine ⟨fun predecessor named => ?_, fresh, positive, fun usage found => ?_⟩
  · exact exhausted_of_assertExhausted (predecessor_valid predecessors predecessor named)
      (exhausted predecessor named)
  simp_all

variable {attempt : ProviderProfileAttemptReservation}

/-- An allowed attempt is counted in its own scope. -/
lemma Counted.bookProfile (counted : Counted store) (allowed : Allowed store tenantId attempt) :
    Counted (store.bookProfile tenantId attempt) where
  used scope := by
    have before := counted.used scope
    rw [ProviderBudgetStore.profileEntries, ProviderBudgetStore.bookProfile, get?_set,
      Finset.filter_insert]
    by_cases own : scope = (tenantId, attempt.current.scopeId)
    · subst own
      rw [if_pos rfl, if_pos rfl, Finset.card_insert_of_notMem fun member =>
        allowed.fresh (Finset.mem_of_mem_filter _ member)]
      unfold ProviderBudgetStore.profileEntries at before
      cases found : store.profileAttemptUsage.get? (tenantId, attempt.current.scopeId) with
      | none =>
        simp_all
      | some usage =>
        simp_all
    · rwa [if_neg own, if_neg (Ne.symm own)]
  limited scope usage found := by
    rw [ProviderBudgetStore.bookProfile, get?_set] at found
    split at found
    · cases found
      cases known : store.profileAttemptUsage.get? (tenantId, attempt.current.scopeId) with
      | none => simpa using allowed.positive
      | some usage => exact (allowed.room usage known).2
    · exact counted.limited scope usage found

/-- The known scopes keep their maximum and lose no attempt. -/
def Advances (before after : ProviderBudgetStore) : Prop :=
  ∀ scope usage, before.profileAttemptUsage.get? scope = some usage →
    ∃ later, after.profileAttemptUsage.get? scope = some later ∧ later.maximum = usage.maximum ∧
      usage.used ≤ later.used

lemma Advances.refl (store : ProviderBudgetStore) : Advances store store :=
  fun _ usage found => ⟨usage, found, rfl, Int.le_refl _⟩

lemma Advances.trans {first second third : ProviderBudgetStore} (start : Advances first second)
    (rest : Advances second third) : Advances first third := by
  intro scope usage found
  obtain ⟨middle, foundMiddle, sameMiddle, moreMiddle⟩ := start scope usage found
  obtain ⟨last, foundLast, sameLast, moreLast⟩ := rest scope middle foundMiddle
  exact ⟨last, foundLast, sameLast.trans sameMiddle, moreMiddle.trans moreLast⟩

lemma advances_bookProfile : Advances store (store.bookProfile tenantId attempt) := by
  intro scope usage found
  rw [ProviderBudgetStore.bookProfile, get?_set]
  grind

lemma ReserveCall.booked_profiles (call : ReserveCall) (store : ProviderBudgetStore) :
    (call.booked store).profileAttemptUsage = store.profileAttemptUsage ∧
      (call.booked store).profileAttemptReservations = store.profileAttemptReservations := by
  unfold ReserveCall.booked
  cases call.scopedBudget with
  | none => exact ⟨rfl, rfl⟩
  | some scope => exact ⟨rfl, rfl⟩

/-- What a call does to the profile scopes: nothing, or the count of one allowed attempt. -/
inductive ProfileEffect (before : ProviderBudgetStore) : ProviderBudgetStore → Prop where
  | kept {after : ProviderBudgetStore}
      (usage : after.profileAttemptUsage = before.profileAttemptUsage)
      (reservations : after.profileAttemptReservations = before.profileAttemptReservations) :
      ProfileEffect before after
  | booked {middle : ProviderBudgetStore} {tenantId : Str}
      {attempt : ProviderProfileAttemptReservation}
      (usage : middle.profileAttemptUsage = before.profileAttemptUsage)
      (reservations : middle.profileAttemptReservations = before.profileAttemptReservations)
      (allowed : Allowed before tenantId attempt) :
      ProfileEffect before (middle.bookProfile tenantId attempt)

lemma Admissible.allowed {call : ReserveCall} (admissible : Admissible call store)
    (named : attempt ∈ call.profileAttempt) : Allowed store call.tenantId attempt :=
  allowed_of_checks (attempt_valid admissible.parts named) (admissible.profile attempt named)

/-- Every call has such an effect on the profile scopes. -/
lemma profile_effect (store : ProviderBudgetStore) (call : BudgetCall) :
    ProfileEffect store (budgetMachine.step store call).2 := by
  have effect := budget_effect store call
  generalize (budgetMachine.step store call).1 = outcome at effect
  generalize (budgetMachine.step store call).2 = after at effect ⊢
  cases effect with
  | kept => exact .kept rfl rfl
  | @admitted call shown admissible =>
    obtain ⟨usage, reservations⟩ := call.booked_profiles store
    unfold ReserveCall.enter
    cases named : call.profileAttempt with
    | none => exact .kept usage reservations
    | some attempt => exact .booked usage reservations (admissible.allowed named)
  | settledRun => exact .kept rfl rfl
  | settledBoth => exact .kept rfl rfl
  | torn => exact .kept rfl rfl

lemma Counted.congr {other : ProviderBudgetStore} (counted : Counted store)
    (usage : other.profileAttemptUsage = store.profileAttemptUsage)
    (reservations : other.profileAttemptReservations = store.profileAttemptReservations) :
    Counted other where
  used scope := by
    rw [usage, counted.used, ProviderBudgetStore.profileEntries, ProviderBudgetStore.profileEntries,
      reservations]
  limited scope := usage ▸ counted.limited scope

/-- Every call keeps the count. -/
lemma Counted.step (counted : Counted store) (call : BudgetCall) :
    Counted (budgetMachine.step store call).2 := by
  have effect := profile_effect store call
  generalize (budgetMachine.step store call).2 = after at effect ⊢
  cases effect with
  | kept usage reservations => exact counted.congr usage reservations
  | booked usage reservations allowed =>
    refine (counted.congr usage reservations).bookProfile ⟨?_, ?_, allowed.positive, ?_⟩
    · rw [usage]
      exact allowed.exhausted
    · rw [reservations]
      exact allowed.fresh
    · rw [usage]
      exact allowed.room

/-- No call takes an attempt back. -/
lemma advances_step (store : ProviderBudgetStore) (call : BudgetCall) :
    Advances store (budgetMachine.step store call).2 := by
  have effect := profile_effect store call
  generalize (budgetMachine.step store call).2 = after at effect ⊢
  cases effect with
  | kept usage _ =>
    intro scope found known
    rw [usage]
    exact Advances.refl store scope found known
  | booked usage _ _ =>
    intro scope found known
    exact advances_bookProfile scope found (usage ▸ known)

lemma advances_after (store : ProviderBudgetStore) (calls : List BudgetCall) :
    Advances store (budgetMachine.after store calls) :=
  budgetMachine.after_of_step (Advances store)
    (fun middle call start => start.trans (advances_step middle call)) calls store (.refl store)

lemma counted_of_reachable (reached : budgetMachine.Reachable store) : Counted store :=
  budgetMachine.reachable_of_step Counted counted_empty (fun _ call counted => counted.step call)
    reached

/-- An admitted attempt is counted in its scope under the maximum it names. -/
lemma Admissible.attempt_counted {call : ReserveCall} (admissible : Admissible call store)
    (named : attempt ∈ call.profileAttempt) :
    ∃ usage, (call.enter store).profileAttemptUsage.get? (call.tenantId, attempt.current.scopeId) =
      some usage ∧ usage.maximum = attempt.current.maximumAttempts := by
  have allowed := admissible.allowed named
  rw [ReserveCall.enter, named]
  refine ⟨_, get?_set_self _ _ _, ?_⟩
  rw [(call.booked_profiles store).1]
  cases known : store.profileAttemptUsage.get? (call.tenantId, attempt.current.scopeId) with
  | none => rfl
  | some usage => exact (allowed.room usage known).1

lemma exhausted_after (reached : budgetMachine.Reachable store)
    {scope : Str × Str} {maximum : Int}
    (found : store.profileAttemptUsage.get? scope = some ⟨maximum, maximum⟩)
    (calls : List BudgetCall) :
    (budgetMachine.after store calls).profileAttemptUsage.get? scope = some ⟨maximum, maximum⟩ := by
  obtain ⟨⟨limit, used⟩, known, same, more⟩ := advances_after store calls scope _ found
  have bounded := (counted_of_reachable (reached.after calls)).limited scope _ known
  grind

/-- In every reachable state each profile scope counts its recorded reservations, within a maximum
that never changes. A reservation is admitted only after its predecessors have used up their maxima,
which they have in every later state too. -/
theorem profile_attempt_plan {store : ProviderBudgetStore}
    (reached : budgetMachine.Reachable store) :
    (∀ scope usage, store.profileAttemptUsage.get? scope = some usage →
      usage.used = (store.profileEntries scope).card ∧ usage.used ≤ usage.maximum ∧
      ∀ calls, ∃ later, (budgetMachine.after store calls).profileAttemptUsage.get? scope =
        some later ∧ later.maximum = usage.maximum ∧ usage.used ≤ later.used) ∧
    (∀ scope, store.profileAttemptUsage.get? scope = none → store.profileEntries scope = ∅) ∧
    (∀ call : ReserveCall, store.reservations.get? (call.reservationKey call.runId) = none →
      (((budgetMachine.step store (.reserve call)).2).reservations.get?
        (call.reservationKey call.runId)).isSome →
      ∀ attempt ∈ call.profileAttempt,
        (∃ usage, (budgetMachine.step store (.reserve call)).2.profileAttemptUsage.get?
          (call.tenantId, attempt.current.scopeId) = some usage ∧
            usage.maximum = attempt.current.maximumAttempts) ∧
        ∀ predecessor ∈ attempt.predecessors,
          store.profileAttemptUsage.get? (call.tenantId, predecessor.scopeId) =
            some ⟨predecessor.maximumAttempts, predecessor.maximumAttempts⟩ ∧
          ∀ calls, (budgetMachine.after store calls).profileAttemptUsage.get?
            (call.tenantId, predecessor.scopeId) =
              some ⟨predecessor.maximumAttempts, predecessor.maximumAttempts⟩) := by
  have counted := counted_of_reachable reached
  refine ⟨fun scope usage found => ?_, fun scope missing => ?_,
    fun call fresh stored attempt named => ?_⟩
  · have used := counted.used scope
    rw [found, map_some, getD_some] at used
    exact ⟨used, counted.limited scope usage found, fun calls =>
      advances_after store calls scope usage found⟩
  · have used := counted.used scope
    grind
  · have effect := budget_effect store (.reserve call)
    generalize budgetMachine.step store (.reserve call) = stepped at effect stored ⊢
    obtain ⟨_, _⟩ := stepped
    cases effect with
    | kept => simp [fresh] at stored
    | admitted admissible =>
      refine ⟨admissible.attempt_counted named, fun predecessor before => ?_⟩
      have exhausted := (admissible.allowed named).exhausted predecessor before
      exact ⟨exhausted, fun calls => exhausted_after reached exhausted calls⟩

def firstProfile : ReserveCall where
  tenantId := "t"
  runId := "r"
  policyVersion := "p"
  reservationId := "x"
  limits := ⟨0, 0, 0⟩
  reservedTokens := 10
  reservedCostMicros := 3
  profileAttempt := some { current := ⟨"a", 1⟩, reservationId := "x" }

def secondProfile : ReserveCall :=
  { firstProfile with
    reservationId := "y"
    profileAttempt := some
      { current := ⟨"b", 2⟩, reservationId := "y", predecessors := [⟨"a", 1⟩] } }

/-- The second profile is admitted after the first one, whose only attempt stays used. -/
theorem profile_attempt_plan_sample :
    let store := budgetMachine.after .empty [.reserve firstProfile]
    ((budgetMachine.step store (.reserve secondProfile)).2.reservations.get?
      (secondProfile.reservationKey secondProfile.runId)).isSome ∧
    store.profileAttemptUsage.get? ("t", "a") = some ⟨1, 1⟩ := by
  have stored : ((budgetMachine.step (budgetMachine.after .empty [.reserve firstProfile])
      (.reserve secondProfile)).2.reservations.get?
      (secondProfile.reservationKey secondProfile.runId)).isSome := by
    decide +kernel
  have admitted := (profile_attempt_plan ⟨[.reserve firstProfile], rfl⟩).2.2 secondProfile
    (by decide +kernel) stored _ rfl
  exact ⟨stored, (admitted.2 ⟨"a", 1⟩ (by decide)).1⟩

end Ananta
