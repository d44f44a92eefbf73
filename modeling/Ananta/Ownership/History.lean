import Ananta.Ownership.EvidenceLaws

/-! The history of every step is numbered, fenced, and closed by completion, in every run of the
store. -/

namespace Ananta

/-- The step a record belongs to. -/
def ExecutionOwnership.key (record : ExecutionOwnership) : StepKey :=
  (record.tenantId, record.runId, record.stepId)

/-- How the records of one step may follow one another. -/
structure Succeeds (key : StepKey) (prior : Option ExecutionOwnership) (next : ExecutionOwnership) :
    Prop where
  valid : next.Valid
  bound : next.key = key
  revision : next.revision = ((prior.map (·.revision)).getD 0) + 1
  unfinished : ∀ record ∈ prior, record.status ≠ .completed
  /-- Either the active attempt goes on, or the next attempt starts under the next fence. -/
  fenced :
    (∃ record ∈ prior, record.status = .active ∧ next.attemptId = record.attemptId ∧
      next.ownerId = record.ownerId ∧ next.fencingToken = record.fencingToken) ∨
    (next.status = .active ∧ next.fencingToken = ((prior.map (·.fencingToken)).getD 0) + 1)

/-- The current records are the last entries of histories that respect the succession. -/
abbrev Chronicled (store : OwnershipStore) : Prop := store.toJournal.Coherent Succeeds

namespace Chronicled

variable {store : OwnershipStore} (chronicled : Chronicled store) {key : StepKey}
  {record : ExecutionOwnership}
include chronicled

lemma mem_entries (found : store.current.get? key = some record) : record ∈ store.entries key :=
  List.mem_of_getLast? ((chronicled.current key).symm.trans found)

lemma entry (member : record ∈ store.entries key) : record.Valid ∧ record.key = key :=
  (chronicled.lineage key).forall_mem (fun record => record.Valid ∧ record.key = key)
    (fun _ _ next => ⟨next.valid, next.bound⟩) record member

lemma revisions : (store.entries key).map (·.revision) =
    (List.range (store.entries key).length).map fun i : Nat => (i : Int) + 1 :=
  (chronicled.lineage key).map_number fun _ _ next => next.revision

lemma revisions_nodup : ((store.entries key).map (·.revision)).Nodup := by
  rw [chronicled.revisions]
  exact List.Nodup.map (fun _ _ same => by simpa using same) List.nodup_range

lemma current_of_completed (member : record ∈ store.entries key)
    (completed : record.status = .completed) : store.current.get? key = some record := by
  rw [chronicled.current]
  exact (chronicled.lineage key).getLast?_of_final
    (fun prior _ next done => next.unfinished prior rfl done) member completed

end Chronicled

variable {key : StepKey} {store : OwnershipStore}

variable {next record : ExecutionOwnership} {call : OwnershipCall} {after : OwnershipStore}

lemma Succeeds.fence_step {prior : ExecutionOwnership} (succeeds : Succeeds key (some prior) next) :
    prior.fencingToken ≤ next.fencingToken ∧
      (next.attemptId ≠ prior.attemptId → next.fencingToken = prior.fencingToken + 1) := by
  rcases succeeds.fenced with ⟨record, same, _, attempt, _, fence⟩ | ⟨_, fence⟩
  · cases same
    exact ⟨fence.ge, fun differs => absurd attempt differs⟩
  simp_all

lemma Progress.keeps {current : ExecutionOwnership} (progress : Progress call key current next) :
    next.key = current.key ∧ next.attemptId = current.attemptId ∧ next.ownerId = current.ownerId ∧
      next.fencingToken = current.fencingToken ∧ next.revision = current.revision + 1 := by
  cases progress <;> exact ⟨rfl, rfl, rfl, rfl, rfl⟩

lemma RetrySettled.journal {key : RunKey} {retryId category : Str}
    {maximum : Int} (settled : RetrySettled store key retryId category maximum after) :
    after.toJournal = store.toJournal := by
  rcases settled with ⟨_, rfl⟩ | ⟨_, rfl⟩ <;> rfl

@[simp] lemma OwnershipStore.reserved_journal (store : OwnershipStore) (intent : ReservationIntent)
    (values : ReservationValues) :
    (store.reserved intent values).toJournal = store.toJournal.save intent.key values.acquired := by
  unfold OwnershipStore.reserved
  cases values.consumption <;> rfl

lemma ExecutionOwnership.Exact.valid (exact : record.Exact) : record.Valid :=
  ⟨exact.tenant.1, exact.workflow.1, exact.run.1, exact.step.1, exact.attempt.1, exact.owner.1,
    exact.fence.1, exact.revision.1, exact.schema⟩

/-- What a claim writes succeeds what it found. -/
lemma ClaimEffect.extends {request : ClaimRequest} {clock : Float64} {uuid : Str}
    {outcome : Except Fault OwnershipClaim}
    (effect : ClaimEffect request clock uuid store outcome after) :
    Journal.Extends Succeeds store.toJournal after.toJournal := by
  cases effect with
  | kept => exact .same
  | began _ absent valid =>
    refine .saved ⟨valid, rfl, ?_, ?_, .inr ⟨rfl, ?_⟩⟩ <;> simp [absent, claimedOwnership]
  | @recovered current budgeted recovers settled valid =>
    -- The budget is kept apart from the journal, so only the new record is written to it.
    have written : (budgeted.saved request.key
        (claimedOwnership request (request.timestamp clock) uuid (some current))).toJournal =
        store.toJournal.save request.key
          (claimedOwnership request (request.timestamp clock) uuid (some current)) := by
      rw [← settled.journal]
      rfl
    rw [written]
    refine .saved ⟨valid, rfl, ?_, ?_, .inr ⟨rfl, ?_⟩⟩
    · simp [recovers.found, claimedOwnership]
    · simpa [recovers.found] using recovers.unfinished
    · simp [recovers.found, claimedOwnership]
  | wasted => exact .same

/-- One call extends the histories by at most one record in its proper place. -/
lemma step_extends (chronicled : Chronicled store) (call : OwnershipCall) :
    Journal.Extends Succeeds store.toJournal (ownershipMachine.step store call).2.toJournal := by
  have effect := step_effect store call
  generalize (ownershipMachine.step store call).2 = after at effect
  cases effect with
  | kept => exact .same
  | retried => exact .same
  | claimed effect => exact effect.extends
  | @progressed _ key current next found active progress valid =>
    obtain ⟨bound, attempt, owner, fence, revision⟩ := progress.keeps
    have home := (chronicled.entry (chronicled.mem_entries found)).2
    refine .saved ⟨valid, bound.trans home, ?_, ?_,
      .inl ⟨current, found, active, attempt, owner, fence⟩⟩
    · simpa [found] using revision
    · simp [found, active]
  | @reserved intent generation digest reservedAt values made =>
    have commits := made.commits
    rw [OwnershipStore.reserved_journal]
    refine .saved ⟨commits.exact.valid, ?_, ?_, commits.priorOpen, .inr ⟨?_, ?_⟩⟩ <;>
      rw [commits.acquired] <;> rfl

lemma step_chronicled (chronicled : Chronicled store) (call : OwnershipCall) :
    Chronicled (ownershipMachine.step store call).2 :=
  chronicled.extends (step_extends chronicled call)

lemma chronicled_of_reachable (reached : ownershipMachine.Reachable store) : Chronicled store :=
  ownershipMachine.reachable_of_step Chronicled (Journal.coherent_empty Succeeds)
    (fun _ call chronicled => step_chronicled chronicled call) reached

/-- The history of a completed step never changes again. -/
lemma entries_of_completed (completed : record.status = .completed) (calls : List OwnershipCall)
    (chronicled : Chronicled store) (found : store.current.get? key = some record) :
    (ownershipMachine.after store calls).entries key = store.entries key := by
  -- No record may succeed a completed one, whatever is called.
  have final : ∀ next, ¬ Succeeds key (some record) next := fun next succeeds =>
    succeeds.unfinished record rfl completed
  induction calls generalizing store with
  | nil => rfl
  | cons call rest ih =>
    obtain ⟨kept, entries⟩ := (step_extends chronicled call).of_final found final
    exact (ih (step_chronicled chronicled call) kept).trans entries

/-- The owner's request that a heartbeat, an acknowledgement or a failure report carries. -/
def OwnershipCall.ownerRequest : OwnershipCall → Option OwnerRequest
  | .heartbeat request _ _ => some request
  | .acknowledgeResult request _ _ => some request
  | .failAttempt request _ _ _ => some request
  | _ => none

/-- An owner's call that does not name the current attempt changes nothing. -/
lemma step_of_stale {request : OwnerRequest} (carries : call.ownerRequest = some request)
    (stale : ∀ current ∈ store.current.get? request.key,
      (request.attemptId, request.ownerId, request.fencingToken) ≠
        (current.attemptId, current.ownerId, current.fencingToken)) :
    (ownershipMachine.step store call).2 = store := by
  -- A write would have required the request to name the current attempt.
  have disowned : ∀ {current}, ¬ OwnedBy store request current := fun {current} owner =>
    stale current owner.held (by rw [owner.attempt, owner.owner, owner.fence])
  cases call with
  | heartbeat request' leaseSeconds clock =>
    cases carries
    rcases heartbeat_cases request store leaseSeconds clock with ⟨_, same⟩ | ⟨⟨_, owner, _⟩, _⟩
    · exact (step_state _ _ store).trans same
    · exact absurd owner disowned
  | acknowledgeResult request' resultAckKey clock =>
    cases carries
    rcases acknowledgeResult_cases request store resultAckKey clock with
      ⟨_, same⟩ | ⟨_, same⟩ | ⟨⟨_, owner, _⟩, _⟩
    · exact (step_state _ _ store).trans same
    · exact (step_state _ _ store).trans same
    · exact absurd owner disowned
  | failAttempt request' failureCode deadLetter clock =>
    cases carries
    rcases failAttempt_cases request store failureCode deadLetter clock
      with ⟨_, same⟩ | ⟨_, owner, _⟩
    · exact (step_state _ _ store).trans same
    · exact absurd owner disowned
  | _ => cases carries

/--
In every run, the history of every step is numbered from one and ends in the current record.

Fences never fall, rise by one with every new attempt, and tell attempts apart.
An owner's call that does not name the current attempt changes nothing.
Once an entry is completed, no call adds another.
-/
theorem ownership_history (calls : List OwnershipCall) (key : StepKey) :
    let store := ownershipMachine.after ownershipMachine.initial calls
    let history := store.entries key
    (store.current.get? key = history.getLast? ∧
      history.map (·.revision) = (List.range history.length).map fun i : Nat => (i : Int) + 1) ∧
    (history.IsChain (fun prior next => prior.fencingToken ≤ next.fencingToken ∧
        (next.attemptId ≠ prior.attemptId → next.fencingToken = prior.fencingToken + 1)) ∧
      ∀ left ∈ history, ∀ right ∈ history, left.attemptId ≠ right.attemptId →
        left.fencingToken ≠ right.fencingToken) ∧
    (∀ call request, call.ownerRequest = some request → request.key = key →
      (∀ current ∈ store.current.get? key,
        (request.attemptId, request.ownerId, request.fencingToken) ≠
          (current.attemptId, current.ownerId, current.fencingToken)) →
      (ownershipMachine.step store call).2 = store) ∧
    (∀ entry ∈ history, entry.status = .completed → ∀ later,
      (ownershipMachine.after store later).entries key = history) := by
  intro store history
  have chronicled : Chronicled store := chronicled_of_reachable ⟨calls, rfl⟩
  have lineage := chronicled.lineage key
  refine ⟨⟨chronicled.current key, chronicled.revisions⟩, ⟨?_, ?_⟩, ?_, ?_⟩
  · exact lineage.isChain fun _ _ succeeds => succeeds.fence_step
  · intro left memberLeft right memberRight differ same
    refine differ (lineage.label_eq_of_rank_eq (·.fencingToken)
      (fun _ _ succeeds => succeeds.fence_step.1)
      (·.attemptId) ?_ left memberLeft right memberRight same)
    intro prior next succeeds changed
    have := succeeds.fence_step.2 changed
    omega
  · rintro call request carries rfl stale
    exact step_of_stale carries stale
  · intro entry member completed later
    exact entries_of_completed completed later chronicled
      (chronicled.current_of_completed member completed)

end Ananta
