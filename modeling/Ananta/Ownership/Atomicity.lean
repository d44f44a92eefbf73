import Ananta.Ownership.History

/-! Which calls on the ownership store leave it untouched when they raise. -/

namespace Ananta

open Call

/-- A call that raises leaves the store as it was. -/
def Atomic (store : OwnershipStore) (call : OwnershipCall) : Prop :=
  ∀ fault, (ownershipMachine.step store call).1 = .error fault →
    (ownershipMachine.step store call).2 = store

/-- A claim without an owner that takes over a lapsed step at the cost of a retry. -/
def UnownedRecovery (store : OwnershipStore) : OwnershipCall → Prop
  | .claim request clock uuid =>
    request.ownerId = [] ∧ (∃ current, ClaimRecovers request clock store current) ∧
      RetryCharged store request.run (attemptIdOf uuid) "hub_task" request.maximumRetries
  | _ => False

variable {store after : OwnershipStore} {request : ClaimRequest} {clock : Float64}

/-- A call is atomic exactly when its operation is. -/
lemma atomic_iff_ensures {α : Type} (operation : OwnershipM α) (answer : α → OwnershipAnswer)
    {call : OwnershipCall} (runs : call.run = (operation >>= fun value => pure (answer value))) :
    Atomic store call ↔
      Ensures operation store fun outcome after =>
        ∀ fault, outcome = .error fault → after = store := by
  have step : ownershipMachine.step store call =
      ((operation store).1.map answer, (operation store).2) := by
    show call.run store = _
    rw [runs, bind_pure_run]
  unfold Atomic Ensures
  rw [step]
  refine forall_congr' fun fault => ?_
  cases (operation store).1 <;> simp [Except.map]

/-- An operation that changes nothing or returns makes its call atomic. -/
lemma atomic_of_cases {α : Type} {operation : OwnershipM α} {answer : α → OwnershipAnswer}
    {call : OwnershipCall} {known : Except Fault α → OwnershipStore → Prop}
    (ensured : Ensures operation store known)
    (runs : call.run = (operation >>= fun value => pure (answer value)))
    (owned : ¬ UnownedRecovery store call)
    (either : ∀ outcome after, known outcome after → after = store ∨ ∃ value, outcome = .ok value) :
    Atomic store call ↔ ¬ UnownedRecovery store call := by
  refine iff_of_true ((atomic_iff_ensures operation answer runs).mpr (ensured.mono ?_)) owned
  intro outcome after known fault raised
  rcases either outcome after known with same | ⟨value, returned⟩
  · exact same
  · rw [returned] at raised
    cases raised

lemma Advanced.returned {request : OwnerRequest}
    {next : ExecutionOwnership → ExecutionOwnership} {outcome : Except Fault ExecutionOwnership}
    (advanced : Advanced request store next outcome after) : ∃ record, outcome = .ok record := by
  obtain ⟨current, _, _, _, returned, _⟩ := advanced
  exact ⟨_, returned⟩

/-- A record that takes over a current one is valid as soon as it has an owner. -/
lemma claimedOwnership_valid (chronicled : Chronicled store) {current : ExecutionOwnership}
    (recovers : ClaimRecovers request clock store current) (owned : request.ownerId ≠ [])
    (timestamp : Float64) (uuid : Str) :
    (claimedOwnership request timestamp uuid (some current)).Valid := by
  -- Everything but the owner is shared with the current record, which was checked when it was
  -- saved.
  obtain ⟨valid, bound⟩ := chronicled.entry (chronicled.mem_entries recovers.found)
  simp only [ExecutionOwnership.key, ClaimRequest.key, Prod.mk.injEq] at bound
  obtain ⟨tenant, run, step⟩ := bound
  have fence := valid.fence
  have revision := valid.revision
  exact
    { tenant := fun empty => valid.tenant (tenant.trans empty)
      workflow := fun empty => valid.workflow (recovers.workflow.trans empty)
      run := fun empty => valid.run (run.trans empty)
      step := fun empty => valid.step (step.trans empty)
      attempt := by simp [claimedOwnership, attemptIdOf, text]
      owner := owned
      fence := by simp only [claimedOwnership, Option.map_some, Option.getD_some]; omega
      revision := by simp only [claimedOwnership, Option.map_some, Option.getD_some]; omega
      schema := rfl }

/-- A claim charges a retry for nothing exactly when it recovers a step without an owner. -/
lemma claimWasted_iff (chronicled : Chronicled store) {uuid : Str} :
    ClaimWasted request clock uuid store ↔ UnownedRecovery store (.claim request clock uuid) := by
  constructor
  · rintro ⟨current, recovers, charged, invalid⟩
    refine ⟨?_, ⟨current, recovers⟩, charged⟩
    by_contra owned
    exact invalid (claimedOwnership_valid chronicled recovers owned _ _)
  · rintro ⟨unowned, ⟨current, recovers⟩, charged⟩
    exact ⟨current, recovers, charged, fun valid => valid.owner unowned⟩

/-- A claim is atomic exactly when it wastes no retry. -/
lemma claim_atomic_iff (store : OwnershipStore) (request : ClaimRequest) (clock : Float64)
    (uuid : Str) :
    Atomic store (.claim request clock uuid) ↔ ¬ ClaimWasted request clock uuid store := by
  rw [atomic_iff_ensures (claim request clock uuid) .claim rfl]
  have effect := claim_cases request clock uuid store
  unfold Ensures at effect ⊢
  generalize claim request clock uuid store = stepped at effect ⊢
  obtain ⟨_, _⟩ := stepped
  cases effect with
  | kept spared => simp [spared]
  | began _ absent _ =>
    -- A step without a record has nothing to be recovered.
    have spared : ¬ ClaimWasted request clock uuid store := by
      rintro ⟨current, recovers, _⟩
      cases recovers.found.symm.trans absent
    simp [spared]
  | recovered recovers _ valid =>
    have spared : ¬ ClaimWasted request clock uuid store := by
      rintro ⟨current, again, _, invalid⟩
      cases again.found.symm.trans recovers.found
      exact invalid valid
    simp [spared]
  | wasted wasted =>
    -- The counter of the run shows that the store has changed.
    simp only [Except.error.injEq, forall_eq', wasted, not_true_eq_false, iff_false]
    intro same
    have counter := congrArg (·.used request.run) same
    simp [OwnershipStore.used] at counter

/--
In every reachable store, a call that raises leaves the store as it was, with one exception.

The exception is a claim without an owner that takes over a lapsed step of its own workflow.
It charges the shared retry budget before the new record is refused.
-/
theorem raised_call_keeps_store (calls : List OwnershipCall) (call : OwnershipCall) :
    let store := ownershipMachine.after ownershipMachine.initial calls
    Atomic store call ↔ ¬ UnownedRecovery store call := by
  intro store
  cases call with
  | claim request clock uuid =>
    rw [claim_atomic_iff, claimWasted_iff (chronicled_of_reachable ⟨calls, rfl⟩)]
  | heartbeat request leaseSeconds clock =>
    refine atomic_of_cases (heartbeat_cases request store leaseSeconds clock) rfl id ?_
    rintro outcome after (refused | ⟨advanced, _⟩)
    · exact .inl refused.2
    · exact .inr advanced.returned
  | acknowledgeResult request resultAckKey clock =>
    refine atomic_of_cases (acknowledgeResult_cases request store resultAckKey clock) rfl id ?_
    rintro outcome after (refused | ⟨returned, _⟩ | ⟨advanced, _⟩)
    · exact .inl refused.2
    · exact .inr returned
    · exact .inr advanced.returned
  | failAttempt request failureCode deadLetter clock =>
    refine atomic_of_cases (failAttempt_cases request store failureCode deadLetter clock) rfl id ?_
    rintro outcome after (refused | advanced)
    · exact .inl refused.2
    · exact .inr advanced.returned
  | reconcileOrphan key now clock =>
    refine atomic_of_cases (reconcileOrphan_cases key now clock store) rfl id ?_
    rintro outcome after (refused | ⟨returned, _⟩ | ⟨_, _, _, _, _, returned, _⟩)
    · exact .inl refused.2
    · exact .inr returned
    · exact .inr ⟨_, returned⟩
  | consumeRetry tenantId runId retryId category maximum =>
    refine atomic_of_cases (consumeRetry_cases tenantId runId retryId category maximum store)
      rfl id ?_
    rintro outcome after (⟨refused, _⟩ | ⟨_, returned, _⟩ | ⟨_, returned, _⟩)
    · exact .inl refused.2
    · exact .inr returned
    · exact .inr returned
  | reserveTransitionEffect intent generation digest reservedAt =>
    refine atomic_of_cases (reserveTransitionEffect_cases intent generation digest reservedAt store)
      rfl id ?_
    rintro outcome after effect
    cases effect with
    | kept => exact .inl rfl
    | committed => exact .inr ⟨_, rfl⟩

private def firstClaim : OwnershipCall :=
  .claim { tenantId := "t", workflowId := "w", runId := "r", stepId := "s",
           ownerId := "o", leaseSeconds := 10, maximumRetries := 2, now := some 1 } 0 "1"

/-- The claim without an owner, made after the first one has lapsed. -/
private def unownedClaim : OwnershipCall :=
  .claim { tenantId := "t", workflowId := "w", runId := "r", stepId := "s",
           ownerId := [], leaseSeconds := 10, maximumRetries := 2, now := some 20 } 0 "2"

/-- A refused claim without an owner still uses up a retry of its run. -/
theorem unowned_claim_charges_retry :
    let store := ownershipMachine.after ownershipMachine.initial [firstClaim]
    (ownershipMachine.step store unownedClaim).1 =
        .error ⟨.valueError, "execution_ownership_binding_required"⟩ ∧
      store.used ("t", "r") = 0 ∧
      (ownershipMachine.step store unownedClaim).2.used ("t", "r") = 1 := by
  refine ⟨?_, ?_, ?_⟩ <;> decide +kernel

end Ananta
