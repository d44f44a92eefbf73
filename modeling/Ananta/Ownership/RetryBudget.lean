import Ananta.Ownership.History

/-! The shared retry budget bounds the attempts of a run, in every run of the store. -/

namespace Ananta

open Dict

def InRun (run : RunKey) (key : StepKey) : Prop := (key.1, key.2.1) = run
  deriving Decidable

namespace OwnershipStore

variable (store : OwnershipStore) (run : RunKey)

def retryIdsOf : List Str := (store.retryIds.keys.filter (InRun run)).map (·.2.2)

def stepCount : Int := store.history.total fun key _ => if InRun run key then 1 else 0

def fenceExcess : Int :=
  store.current.total fun key record => if InRun run key then record.fencingToken - 1 else 0

/-- The number of distinct attempts in the histories of a run's steps. -/
def attemptCount : Int :=
  store.history.total fun key entries =>
    if InRun run key then ((entries.map (·.attemptId)).toFinset.card : Int) else 0

end OwnershipStore

section

variable (store : OwnershipStore) (run : RunKey)

/-- The recorded identifiers of a run are distinct. -/
lemma retryIdsOf_nodup : (store.retryIdsOf run).Nodup := by
  refine (store.retryIds.distinct.filter _).map_on ?_
  -- Within one run, the identifier is all that tells two keys apart.
  rintro ⟨tenant, run', id⟩ member ⟨tenant', run'', id'⟩ member' same
  have scope := (of_decide_eq_true (List.mem_filter.mp member).2).trans
      (of_decide_eq_true (List.mem_filter.mp member').2).symm
  simp_all

lemma retryIdsOf_length : ((store.retryIdsOf run).length : Int) =
      store.retryIds.total fun key _ => if InRun run key then 1 else 0 := by
  rw [total_indicator, OwnershipStore.retryIdsOf, List.length_map]

/-- Saving a record moves the excess by the change of its step's fence. -/
lemma fenceExcess_saved (key : StepKey) (record : ExecutionOwnership) :
    (store.saved key record).fenceExcess run = store.fenceExcess run +
      if InRun run key then
        record.fencingToken - (((store.current.get? key).map (·.fencingToken)).getD 1) else 0 := by
  have written : (store.saved key record).fenceExcess run =
      (store.current.set key record).total fun key record =>
        if InRun run key then record.fencingToken - 1 else 0 := rfl
  rw [written, total_set, OwnershipStore.fenceExcess]
  cases store.current.get? key <;> split <;> simp
  ring

end

/-- The consumed retries are the recorded ones, within the maximum, and pay for every later
fence. -/
structure Budgeted (store : OwnershipStore) : Prop where
  counted : ∀ run, store.used run = (store.retryIdsOf run).length
  bounded : ∀ run, store.used run ≤ (store.retryMaximum.get? run).getD 0
  paid : ∀ run, store.fenceExcess run ≤ store.used run

lemma budgeted_empty : Budgeted .empty := by
  constructor <;> intro run <;> rfl

section

variable {store : OwnershipStore} {key : RunKey} {retryId category : Str} {maximum : Int}

lemma used_charged (used : Int) (run : RunKey) :
    (store.charged key retryId category used maximum).used run =
      if run = key then used else store.used run := by
  simp only [OwnershipStore.used, OwnershipStore.charged, get?_set]
  split <;> rfl

/-- Charging a new retry records one more identifier for its run. -/
lemma retryIdsOf_charged (fresh : store.retryIds.get? (key.1, key.2, retryId) = none) (used : Int)
    (run : RunKey) :
    (((store.charged key retryId category used maximum).retryIdsOf run).length : Int) =
      (store.retryIdsOf run).length + if run = key then 1 else 0 := by
  rw [retryIdsOf_length, retryIdsOf_length]
  have written : (store.charged key retryId category used maximum).retryIds =
      store.retryIds.set (key.1, key.2, retryId) category := rfl
  rw [written, total_set, fresh]
  simp [InRun, eq_comm]

/-- Charging a retry for which there is room keeps the budget, with one more retry to spend. -/
lemma Budgeted.charged (budgeted : Budgeted store)
    (fresh : store.retryIds.get? (key.1, key.2, retryId) = none) (room : store.used key < maximum) :
    Budgeted (store.charged key retryId category (store.used key + 1) maximum) := by
  constructor <;> intro run
  · rw [used_charged, retryIdsOf_charged fresh, ← budgeted.counted]
    split <;> simp_all
  · rw [used_charged]
    simp only [OwnershipStore.charged, get?_set]
    split
    · simpa using Int.add_one_le_of_lt room
    · exact budgeted.bounded run
  · rw [used_charged]
    have paid := budgeted.paid run
    split
    · rename_i same
      subst same
      exact paid.trans (by omega)
    · exact paid

end

variable {store : OwnershipStore} {key : StepKey} {record : ExecutionOwnership}

lemma Budgeted.saved_level (budgeted : Budgeted store)
    (level : record.fencingToken = ((store.current.get? key).map (·.fencingToken)).getD 1) :
    Budgeted (store.saved key record) := by
  refine { budgeted with paid := fun run => ?_ }
  have paid : store.fenceExcess run ≤ (store.saved key record).used run := budgeted.paid run
  rw [fenceExcess_saved, level]
  simpa using paid

/-- Saving a record under the next fence is paid for by the retry charged for it. -/
lemma Budgeted.saved_charged (budgeted : Budgeted store) {run : RunKey} (home : InRun run key)
    {retryId category : Str} {maximum : Int}
    (fresh : store.retryIds.get? (run.1, run.2, retryId) = none) (room : store.used run < maximum)
    (next : record.fencingToken = ((store.current.get? key).map (·.fencingToken)).getD 1 + 1) :
    Budgeted ((store.charged run retryId category (store.used run + 1) maximum).saved key
      record) := by
  have charged : Budgeted (store.charged run retryId category (store.used run + 1) maximum) :=
    budgeted.charged fresh room
  refine { charged with paid := fun other => ?_ }
  -- The fence rises in the very run whose counter was charged.
  rw [fenceExcess_saved]
  show store.fenceExcess other + (if InRun other key then record.fencingToken -
      ((store.current.get? key).map (·.fencingToken)).getD 1 else 0) ≤
    (store.charged run retryId category (store.used run + 1) maximum).used other
  have paid := budgeted.paid other
  have same : InRun other key ↔ other = run := by
    rw [← show (key.1, key.2.1) = run from home]
    exact eq_comm
  rw [used_charged, next]
  grind

/-- The identifier drawn for a claim has not been recorded as a retry of its run. -/
def FreshAttempt (store : OwnershipStore) : OwnershipCall → Prop
  | .claim request _ uuid =>
      store.retryIds.get? (request.tenantId, request.runId, attemptIdOf uuid) = none
  | _ => True

/-- A claim under a fresh identifier keeps the budget. -/
lemma ClaimEffect.budgeted {request : ClaimRequest} {clock : Float64} {uuid : Str}
    {after : OwnershipStore} {outcome : Except Fault OwnershipClaim} (budgeted : Budgeted store)
    (fresh : store.retryIds.get? (request.tenantId, request.runId, attemptIdOf uuid) = none)
    (effect : ClaimEffect request clock uuid store outcome after) : Budgeted after := by
  cases effect with
  | kept => exact budgeted
  | began _ absent _ => exact budgeted.saved_level (by simp [absent, claimedOwnership])
  | @recovered current _ recovers settled _ =>
    rcases settled with ⟨remembered, _⟩ | ⟨charged, rfl⟩
    · -- A fresh identifier cannot have been recorded before.
      cases remembered.recorded.symm.trans fresh
    · exact budgeted.saved_charged rfl charged.fresh charged.room
        (by simp [recovers.found, claimedOwnership])
  | wasted wasted =>
    obtain ⟨_, _, charged, _⟩ := wasted
    exact budgeted.charged charged.fresh charged.room

/-- One call keeps the budget, when a claim draws a fresh identifier. -/
lemma step_budgeted {call : OwnershipCall} (budgeted : Budgeted store)
    (fresh : FreshAttempt store call) : Budgeted (ownershipMachine.step store call).2 := by
  have effect := step_effect store call
  generalize (ownershipMachine.step store call).2 = after at effect
  cases effect with
  | kept => exact budgeted
  | retried charged => exact budgeted.charged charged.fresh charged.room
  | claimed effect => exact effect.budgeted budgeted fresh
  | progressed found _ progress _ =>
    obtain ⟨_, _, _, fence, _⟩ := progress.keeps
    exact budgeted.saved_level (by simp [found, fence])
  | @reserved intent generation digest reservedAt values made =>
    have commits := made.commits
    -- A first reservation is free; one over a record charges a retry.
    cases found : store.current.get? intent.key with
    | none =>
      have written : store.reserved intent values =
          { store.saved intent.key values.acquired with
            transitionReservationReceipts :=
              store.transitionReservationReceipts.set values.receipt.intent.receiptId
                values.receipt } := by
        simp [OwnershipStore.reserved, commits.consumption, found]
      rw [written]
      have saved : Budgeted (store.saved intent.key values.acquired) :=
        budgeted.saved_level (by simp [found, commits.acquired, acquisition])
      exact { saved with }
    | some current =>
      have written : store.reserved intent values =
          { (store.charged intent.run intent.retryId ownershipRetryCategory
              (store.used intent.run + 1)
              intent.maximumRetries).saved intent.key values.acquired with
            transitionReservationReceipts :=
              store.transitionReservationReceipts.set values.receipt.intent.receiptId
                values.receipt } := by
        simp [OwnershipStore.reserved, commits.consumption, found, commits.used, commits.maximum]
      rw [written]
      have saved : Budgeted ((store.charged intent.run intent.retryId ownershipRetryCategory
          (store.used intent.run + 1) intent.maximumRetries).saved intent.key values.acquired) :=
        budgeted.saved_charged rfl commits.unspent (commits.room (by simp [found]))
          (by simp [found, commits.acquired, acquisition])
      exact { saved with }

/-- The recorded maximum of a run survives any call. -/
lemma step_maximum (call : OwnershipCall) {run : RunKey} {maximum : Int}
    (recorded : store.retryMaximum.get? run = some maximum) :
    (ownershipMachine.step store call).2.retryMaximum.get? run = some maximum := by
  -- Every charge writes the maximum that it was checked against.
  have charge : ∀ {key limit}, (∀ configured ∈ store.retryMaximum.get? key, configured = limit) →
      (store.retryMaximum.set key limit).get? run = some maximum := by
    intro key limit agrees
    rw [get?_set]
    split
    · rename_i same
      subst same
      rw [agrees maximum recorded]
    · exact recorded
  have effect := step_effect store call
  generalize (ownershipMachine.step store call).2 = after at effect
  cases effect with
  | kept => exact recorded
  | retried charged => exact charge charged.agrees
  | claimed effect =>
    cases effect with
    | kept => exact recorded
    | began => exact recorded
    | recovered _ settled _ =>
      rcases settled with ⟨_, rfl⟩ | ⟨charged, rfl⟩
      · exact recorded
      · exact charge charged.agrees
    | wasted wasted =>
      obtain ⟨_, _, charged, _⟩ := wasted
      exact charge charged.agrees
  | progressed => exact recorded
  | @reserved intent _ _ _ values made =>
    have commits := made.commits
    unfold OwnershipStore.reserved
    cases values.consumption with
    | none => exact recorded
    | some consumption =>
      rw [commits.maximum]
      exact charge commits.agrees

/-- The attempts of one step are at most its current fence. -/
lemma attempts_le_fence (chronicled : Chronicled store)
    (found : store.current.get? key = some record) :
    (((store.entries key).map (·.attemptId)).toFinset.card : Int) ≤ record.fencingToken := by
  refine (chronicled.lineage key).card_labels_le (·.fencingToken) ?_ (·.attemptId) ?_ ?_ record
    ((chronicled.current key).symm.trans found)
  · intro prior value succeeds
    exact succeeds.fence_step.1
  · intro prior value succeeds changed
    have := succeeds.fence_step.2 changed
    omega
  · intro value starts
    exact starts.valid.fence

/-- The attempts of a run are at most its steps and the fences beyond the first of each. -/
lemma attemptCount_le (chronicled : Chronicled store) (run : RunKey) :
    store.attemptCount run ≤ store.stepCount run + store.fenceExcess run := by
  -- Step by step, the attempts beyond the first are at most the fences beyond the first.
  have beyond : (store.history.total fun key entries => if InRun run key then
      ((entries.map (·.attemptId)).toFinset.card : Int) - 1 else 0) ≤ store.fenceExcess run := by
    apply total_le_of_get?
    · intro key record found
      have := (chronicled.entry (chronicled.mem_entries found)).1.fence
      split <;> omega
    · intro key entries stored
      have same : store.entries key = entries := by simp [Journal.entries, stored]
      cases found : store.current.get? key with
      | none =>
        rw [chronicled.current, same, List.getLast?_eq_none_iff] at found
        subst found
        split <;> simp
      | some record =>
        have counted := attempts_le_fence chronicled found
        grind
  have split' : store.attemptCount run = store.stepCount run +
      store.history.total fun key entries => if InRun run key then
        ((entries.map (·.attemptId)).toFinset.card : Int) - 1 else 0 := by
    rw [OwnershipStore.attemptCount, OwnershipStore.stepCount, ← total_add]
    congr 1
    funext key entries
    split <;> omega
  omega

/--
In every run whose claims draw fresh attempt identifiers, the retry budget is respected.

The counter of a run is the number of retry identifiers recorded for it.
It stays within the recorded maximum, which never changes once it is set.
It covers the fences beyond the first of each step, so that the attempts of a run are bounded.
-/
theorem retry_budget (calls : List OwnershipCall)
    (fresh : ownershipMachine.Throughout FreshAttempt ownershipMachine.initial calls)
    (run : RunKey) :
    let store := ownershipMachine.after ownershipMachine.initial calls
    ((store.retryIdsOf run).Nodup ∧ store.used run = (store.retryIdsOf run).length) ∧
    (∀ maximum ∈ store.retryMaximum.get? run, store.used run ≤ maximum) ∧
    (∀ maximum ∈ store.retryMaximum.get? run, ∀ later,
      (ownershipMachine.after store later).retryMaximum.get? run = some maximum) ∧
    store.fenceExcess run ≤ store.used run ∧
    store.attemptCount run ≤ store.stepCount run + (store.retryMaximum.get? run).getD 0 := by
  intro store
  have chronicled : Chronicled store := chronicled_of_reachable ⟨calls, rfl⟩
  have budgeted : Budgeted store :=
    ownershipMachine.after_of_throughout FreshAttempt Budgeted
      (fun _ _ budgeted fresh => step_budgeted budgeted fresh) calls _ budgeted_empty fresh
  have bounded := budgeted.bounded run
  have paid := budgeted.paid run
  refine ⟨⟨retryIdsOf_nodup store run, budgeted.counted run⟩, ?_, ?_, paid, ?_⟩
  · intro maximum recorded
    simpa [Option.mem_def.mp recorded] using bounded
  · intro maximum recorded later
    exact ownershipMachine.after_of_step (fun store => store.retryMaximum.get? run = some maximum)
      (fun _ call kept => step_maximum call kept) later store recorded
  · have counted := attemptCount_le chronicled run
    omega

private def smallClaim (now : Float64) : ClaimRequest :=
  { tenantId := "t", workflowId := "w", runId := "r", stepId := "s",
    ownerId := "o", leaseSeconds := 10, maximumRetries := 2, now := some now }

/-- A lapsed step that is claimed again costs one of the two retries of its run. -/
theorem retry_budget_after_recovery :
    let calls := [OwnershipCall.claim (smallClaim 1) 0 "1", .claim (smallClaim 20) 0 "2"]
    let store := ownershipMachine.after ownershipMachine.initial calls
    ownershipMachine.Throughout FreshAttempt ownershipMachine.initial calls ∧
      store.retryMaximum.get? ("t", "r") = some 2 ∧
      store.fenceExcess ("t", "r") ≤ store.used ("t", "r") ∧
      store.attemptCount ("t", "r") ≤ store.stepCount ("t", "r") + 2 := by
  intro calls store
  have fresh : ownershipMachine.Throughout FreshAttempt ownershipMachine.initial calls := by
    refine ⟨?_, ?_, trivial⟩ <;> (show get? _ _ = none; decide +kernel)
  have recorded : store.retryMaximum.get? ("t", "r") = some 2 := by decide +kernel
  obtain ⟨_, _, _, paid, counted⟩ := retry_budget calls fresh ("t", "r")
  grind

end Ananta
