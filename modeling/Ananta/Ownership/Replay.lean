import Ananta.Ownership.History
import Ananta.Ownership.ReservationLaws

/-! A committed reservation is replayed from its receipt, whatever happens to its step
afterwards. -/

namespace Ananta

open List ReceiptFields Journal

variable {store : OwnershipStore} {receipt : ReservationReceipt} {intent : ReservationIntent}
  {generation : Int} {digest : Str} {reservedAt : Float64} {values : ReservationValues}

/-- The relations between the fields of a receipt that its own check guarantees. -/
structure ReceiptFields.Sound (receipt : ReceiptFields) : Prop where
  prior : ∀ record ∈ receipt.priorOwnership, record.Exact
  acquired : receipt.acquiredOwnership.Exact
  digest : IsSha256 receipt.receiptDigest
  attempt : receipt.acquiredOwnership.attemptId = receipt.intent.attemptId
  consumption : receipt.retryConsumption = receipt.priorOwnership.map fun _ =>
    { tenantId := receipt.intent.tenantId, runId := receipt.intent.runId,
      retryId := receipt.intent.retryId }

/-- Every receipt is sound. -/
lemma ReservationReceipt.sound (receipt : ReservationReceipt) : receipt.Sound := by
  have valid := receipt.valid
  simp only [postInit, assertShape, assertBinding, ok_iff, discard_eq_ok, ownershipSha256,
    ownershipField_eq_ok,
    exactOptionalOwnership_eq_ok, ExecutionOwnership.fromExactMapping_eq_ok] at valid
  obtain ⟨_, ⟨_, _, _, ⟨_, prior, _⟩, _, ⟨_, acquired, _⟩, _, _, _, _, _, _, _, _, _, _, _, _, _,
    ⟨_, digest, _⟩, _⟩, _, _, _, matching, _, retry, _⟩ := valid
  simp only [AcquisitionMismatch, not_or, not_not] at matching
  refine ⟨prior, acquired, digest, matching.2.2.2.2.1, ?_⟩
  unfold assertRetry at retry
  split at retry <;> rename_i found <;> rw [found] <;> rw [raiseIf_eq_ok] at retry
  · exact not_not.mp fun consumed => retry (.inl consumed)
  · exact not_not.mp fun differs => retry (.inl differs)

def ReservationIntent.retryKey (intent : ReservationIntent) : RetryKey :=
  (intent.tenantId, intent.runId, intent.retryId)

/-- A retry identifier of a reservation is never the attempt of a claim. -/
lemma ReservationIntent.retryId_ne (intent : ReservationIntent) (uuid : Str) :
    intent.retryId ≠ attemptIdOf uuid := by
  have derived := intent.derived.fence
  simp only [workflowTransitionOwnershipOperationFenceId, bind_eq_ok] at derived
  obtain ⟨_, _, _, _, derived⟩ := derived
  obtain ⟨digest, _, shape⟩ := ownershipOpaqueId_spec derived
  rw [intent.derived.retry, shape]
  simp [attemptIdOf, text, codePoint]

/-- The consumption of a receipt is read back from the category it was recorded under. -/
lemma recordedConsumption_receipt
    (recorded : store.retryIds.get? receipt.intent.retryKey =
      receipt.retryConsumption.map (·.category)) :
    recordedConsumption store receipt.intent = .ok receipt.retryConsumption := by
  have shaped := receipt.intent.shaped
  unfold recordedConsumption
  rw [show store.retryIds.get?
    (receipt.intent.tenantId, receipt.intent.runId, receipt.intent.retryId) =
    receipt.retryConsumption.map (·.category) from recorded, receipt.sound.consumption]
  cases receipt.priorOwnership with
  | none => rfl
  | some prior =>
    simp only [Option.map_some, RetryConsumption.build, RetryConsumption.postInit, ok_iff,
      discard_eq_ok, ownershipIdentity, ownershipField_eq_ok]
    exact ⟨_, ⟨(), ⟨(), ⟨_, shaped.tenantId, rfl⟩, (), ⟨_, shaped.runId, rfl⟩, (),
      ⟨_, shaped.retryId, rfl⟩, by simp⟩, rfl⟩, rfl⟩

/-- A receipt is on file, and no other receipt on file could be taken for it. -/
structure Filed (receipt : ReservationReceipt) (store : OwnershipStore) : Prop where
  found : store.transitionReservationReceipts.get? receipt.intent.receiptId = some receipt
  alone : ∀ key other, store.transitionReservationReceipts.get? key = some other →
    CandidateAlias receipt.intent other → key = receipt.intent.receiptId

/-- The only receipt relevant to the history of a filed intent is its own. -/
lemma Filed.relevant (filed : Filed receipt store) :
    transitionOwnershipRelevantReceipts receipt.intent none
      store.transitionReservationReceipts.values false = .ok [receipt] := by
  have one : store.transitionReservationReceipts.values.filter
      (fun other => RelevantReceipt receipt.intent other none false) = [receipt] := by
    refine Dict.filter_values filed.found (.inl (.inl rfl)) fun key other stored relevant => ?_
    simp only [RelevantReceipt, Option.mem_def, reduceCtorEq, false_and, exists_false, or_false,
      Bool.false_eq_true] at relevant
    exact filed.alone key other stored relevant
  simp only [transitionOwnershipRelevantReceipts, one, ok_iff]
  exact ⟨(), by simp, by simp⟩

variable {evidence : ReservationEvidence} {records : List ExecutionOwnership}

/-- The evidence for a filed intent, with its own receipt put in for the relevant ones. -/
lemma Filed.read (filed : Filed receipt store) :
    readTransitionReservationHistory store receipt.intent = .ok evidence ↔
      ∃ consumption, recordedConsumption store receipt.intent = .ok consumption ∧
        transitionOwnershipEvidence receipt.intent
          ((store.entries receipt.intent.key).filter fun value =>
            value.revision ∈ receiptRevisions [receipt] ∨
              value.attemptId = receipt.intent.attemptId)
          consumption [receipt] = .ok evidence := by
  simp only [readTransitionReservationHistory, filed.relevant, bind_eq_ok, Except.ok.injEq,
    exists_eq_left']

/-- Records that are all exact are re-hydrated as they are. -/
lemma mapM_fromExactMapping (exact : ∀ record ∈ records, record.Exact) :
    records.mapM (·.fromExactMapping) = .ok records := by
  induction records with
  | nil => rfl
  | cons record rest ih =>
    simp only [mapM_cons, ok_iff]
    exact ⟨record, ExecutionOwnership.fromExactMapping_eq_ok.mpr ⟨exact record (by simp), rfl⟩,
      rest, ih fun other member => exact other (by simp [member]), rfl⟩

/-- Only exact records are re-hydrated. -/
lemma exact_of_mapM {hydrated : List ExecutionOwnership}
    (mapped : records.mapM (·.fromExactMapping) = .ok hydrated) : ∀ record ∈ records,
      record.Exact := by
  induction records generalizing hydrated with
  | nil => simp
  | cons record rest ih =>
    simp only [mapM_cons, bind_eq_ok] at mapped
    obtain ⟨_, first, _, others, _⟩ := mapped
    rw [forall_mem_cons]
    exact ⟨(ExecutionOwnership.fromExactMapping_eq_ok.mp first).1, ih others⟩

/-- Evidence is only given when the attempt's records are exact and the retry is the receipt's. -/
lemma Filed.of_read (filed : Filed receipt store)
    (read : readTransitionReservationHistory store receipt.intent = .ok evidence) :
    recordedConsumption store receipt.intent = .ok receipt.retryConsumption ∧
      ∀ record ∈ store.entries receipt.intent.key, record.attemptId = receipt.intent.attemptId →
        record.Exact := by
  obtain ⟨consumption, recorded, evidenced⟩ := filed.read.mp read
  have candidates : [receipt].filter (CandidateAlias receipt.intent ·) = [receipt] := by
    simp [CandidateAlias]
  simp only [transitionOwnershipEvidence, candidates, receiptsByDigest,
    Dict.values_collect_singleton, ok_iff] at evidenced
  obtain ⟨_, _, hydrated, mapped, _, _, prior, _, _, checks, _⟩ := evidenced
  constructor
  · simp only [ReservationEvidence.postInit, ok_iff] at checks
    obtain ⟨_, _, _, _, _, _, _, _, _, _, _, _, _, same, _⟩ := checks
    rw [recorded, not_not.mp same]
  · intro record member attempt
    exact exact_of_mapM mapped record (mem_filter.mpr ⟨member, by simp [attempt]⟩)

/-- What a committed reservation leaves in the store for good. -/
structure Receipted (receipt : ReservationReceipt) (store : OwnershipStore) : Prop
    extends Filed receipt store where
  acquired : receipt.acquiredOwnership ∈ store.entries receipt.intent.key
  prior : ∀ record ∈ receipt.priorOwnership, record ∈ store.entries receipt.intent.key
  /-- The attempt never changes its fence, and its records stay fit for strict re-hydration. -/
  attempt : ∀ record ∈ store.entries receipt.intent.key,
    record.attemptId = receipt.intent.attemptId →
      record.Exact ∧ record.fencingToken = receipt.acquiredOwnership.fencingToken
  retry : store.retryIds.get? receipt.intent.retryKey = receipt.retryConsumption.map (·.category)

variable {record : ExecutionOwnership}

/-- A committed reservation leaves its receipt behind. -/
lemma ReservationCommits.receipted
    (commits : ReservationCommits store intent generation reservedAt values)
    (chronicled : Chronicled store) : Receipted values.receipt (store.reserved intent values) := by
  have entries : (store.reserved intent values).entries intent.key =
      store.entries intent.key ++ [values.acquired] := by
    rw [OwnershipStore.reserved_journal, entries_save_self]
  have receipts : (store.reserved intent values).transitionReservationReceipts =
      store.transitionReservationReceipts.set intent.receiptId values.receipt := by
    rw [← commits.receiptIntent]
    rfl
  constructor
  · constructor
    · rw [receipts, commits.receiptIntent, get?_set_self]
    · intro key other stored named
      rw [commits.receiptIntent] at named ⊢
      rw [receipts, get?_set] at stored
      split at stored
      · assumption
      · exact absurd named (commits.unaliased other (mem_values.mpr ⟨key, stored⟩))
  · rw [commits.receiptIntent, commits.receiptAcquired, entries]
    simp
  · intro record found
    rw [commits.receiptPrior] at found
    rw [commits.receiptIntent, entries]
    exact mem_append_left _ (chronicled.mem_entries found)
  · intro record member attempted
    rw [commits.receiptIntent] at member attempted
    rw [entries, mem_append, mem_singleton] at member
    rcases member with earlier | rfl
    · exact absurd attempted (commits.unattempted record earlier)
    · rw [commits.receiptAcquired]
      exact ⟨commits.exact, rfl⟩
  · rw [commits.receiptIntent, commits.receiptConsumption]
    unfold OwnershipStore.reserved
    cases consumed : values.consumption with
    | none => exact commits.unspent
    | some consumption => exact get?_set_self _ _ _

section

variable (receipted : Receipted receipt store)
include receipted

/-- Saving a record keeps a receipt's evidence, if the record fits the attempt it belongs to. -/
lemma Receipted.saved {key : StepKey}
    (fits : key = receipt.intent.key → record.attemptId = receipt.intent.attemptId →
      record.Exact ∧ record.fencingToken = receipt.acquiredOwnership.fencingToken) :
    Receipted receipt (store.saved key record) := by
  have entries : (store.saved key record).entries receipt.intent.key =
      if receipt.intent.key = key then store.entries key ++ [record]
        else store.entries receipt.intent.key := entries_save _ _ _ _
  have kept : ∀ other ∈ store.entries receipt.intent.key,
      other ∈ (store.saved key record).entries receipt.intent.key := by
    intro other member
    rw [entries]
    split
    · rename_i same
      rw [← same]
      exact mem_append_left _ member
    · exact member
  refine ⟨{ receipted with }, kept _ receipted.acquired,
    fun prior found => kept _ (receipted.prior prior found), ?_, receipted.retry⟩
  intro other member attempted
  rw [entries] at member
  split at member
  · rename_i same
    rcases mem_append.mp member with earlier | last
    · rw [← same] at earlier
      exact receipted.attempt other earlier attempted
    simp_all
  · exact receipted.attempt other member attempted

lemma Receipted.charged {key : RunKey} {retryId : Str}
    (differs : (key.1, key.2, retryId) ≠ receipt.intent.retryKey) (category : Str)
    (used maximum : Int) :
    Receipted receipt (store.charged key retryId category used maximum) :=
  ⟨{ receipted with }, receipted.acquired, receipted.prior, receipted.attempt,
    (get?_set_ne _ differs.symm _).trans receipted.retry⟩

/-- Issuing a receipt that could not be taken for another keeps the other's evidence. -/
lemma Receipted.issued {other : ReservationReceipt}
    (unaliased : ¬ CandidateAlias receipt.intent other) :
    Receipted receipt { store with
      transitionReservationReceipts :=
        store.transitionReservationReceipts.set other.intent.receiptId other } := by
  have differs : receipt.intent.receiptId ≠ other.intent.receiptId := fun same =>
    unaliased (.inl same.symm)
  refine ⟨⟨(get?_set_ne _ differs _).trans receipted.found, ?_⟩, receipted.acquired,
    receipted.prior, receipted.attempt, receipted.retry⟩
  intro key candidate stored named
  rw [get?_set] at stored
  split at stored
  · cases stored
    exact absurd named unaliased
  · exact receipted.alone key candidate stored named

variable (chronicled : Chronicled store)
include chronicled

/-- Every record that the evidence for a receipt looks at is exact. -/
lemma Receipted.exact_of_revision (member : record ∈ store.entries receipt.intent.key)
    (referred : record.revision ∈ receiptRevisions [receipt]) : record.Exact := by
  have unique : ∀ other ∈ store.entries receipt.intent.key, record.revision = other.revision →
      record = other := fun other stored same =>
    inj_on_of_nodup_map chronicled.revisions_nodup member stored same
  simp only [receiptRevisions, flatMap_singleton, mem_filter, mem_cons, not_mem_nil,
    or_false, decide_eq_true_eq] at referred
  obtain ⟨same | same, positive⟩ := referred
  · rw [unique _ receipted.acquired same]
    exact receipt.sound.acquired
  · -- Without a prior record the revision would be zero.
    cases found : receipt.priorOwnership with
    | none => simp only [found, Option.map_none, Option.getD_none] at same; omega
    | some prior =>
      rw [found] at same
      rw [unique prior (receipted.prior prior found) same]
      exact receipt.sound.prior prior found

/-- The history still holds the record that a receipt succeeded. -/
lemma Receipted.evidencedPrior :
    evidencedPrior receipt ((store.entries receipt.intent.key).filter fun value =>
      value.revision ∈ receiptRevisions [receipt] ∨ value.attemptId = receipt.intent.attemptId) =
      .ok receipt.priorOwnership := by
  unfold Ananta.evidencedPrior
  cases found : receipt.priorOwnership with
  | none => rfl
  | some prior =>
    have positive := (receipt.sound.prior prior found).revision.1
    have kept : prior ∈ (store.entries receipt.intent.key).filter fun value =>
        value.revision ∈ receiptRevisions [receipt] ∨
          value.attemptId = receipt.intent.attemptId := by
      refine mem_filter.mpr ⟨receipted.prior prior found, ?_⟩
      simp only [receiptRevisions, flatMap_singleton, found, Option.map_some, Option.getD_some,
        mem_filter, mem_cons, decide_eq_true_eq]
      exact .inl ⟨.inr (.inl trivial), positive⟩
    have one := filter_eq_singleton
      (fun value => value.revision = prior.revision ∧ value.attemptId = prior.attemptId)
      (chronicled.revisions_nodup.sublist (filter_sublist.map _)) kept ⟨rfl, rfl⟩
      fun _ _ same => same.1
    simp only [one, ok_iff]
    exact ⟨(), by simp, trivial⟩

/-- The evidence for a committed reservation is its receipt. -/
lemma Receipted.read :
    ∃ evidence, readTransitionReservationHistory store receipt.intent = .ok evidence ∧
      evidence.receipt = some receipt := by
  have sound := receipt.sound
  let history := (store.entries receipt.intent.key).filter fun value =>
    value.revision ∈ receiptRevisions [receipt] ∨ value.attemptId = receipt.intent.attemptId
  let evidence : ReservationEvidence :=
    { intent := receipt.intent, receipt := some receipt, priorHistory := receipt.priorOwnership,
      acquiredHistory := some receipt.acquiredOwnership,
      retryConsumption := receipt.retryConsumption,
      receiptAliasDigests := [receipt.receiptDigest] }
  have candidates : [receipt].filter (CandidateAlias receipt.intent ·) = [receipt] := by
    simp [CandidateAlias]
  have exact : ∀ record ∈ history, record.Exact := by
    intro record kept
    obtain ⟨member, reason⟩ := mem_filter.mp kept
    rcases of_decide_eq_true reason with referred | attempted
    · exact receipted.exact_of_revision chronicled member referred
    · exact (receipted.attempt record member attempted).1
  -- Revisions are unique, so the acquisition is the only such record.
  have acquired : history.filter (fun value => value.revision = receipt.acquiredOwnership.revision ∧
      value.attemptId = receipt.intent.attemptId) = [receipt.acquiredOwnership] := by
    refine filter_eq_singleton _ (chronicled.revisions_nodup.sublist (filter_sublist.map _))
      (mem_filter.mpr ⟨receipted.acquired, ?_⟩) ⟨rfl, sound.attempt⟩ fun _ _ same => same.1
    simp [sound.attempt]
  have passes : evidence.postInit = .ok () := by
    simp only [evidence, ReservationEvidence.postInit, ok_iff, discard_eq_ok,
      exactOptionalOwnership_eq_ok,
      forM_eq_forM, forM_cons, forM_nil]
    refine ⟨_, ⟨sound.prior, rfl⟩, _, ⟨?_, rfl⟩, (), by simp [sortedDigests], (),
      ⟨(), ⟨_, ownershipField_eq_ok.mpr ⟨sound.digest, rfl⟩⟩, trivial⟩, (), by simp, (), by simp,
        (), by simp,
      (), by simp, by simp⟩
    simpa using sound.acquired
  refine ⟨evidence, receipted.toFiled.read.mpr
    ⟨receipt.retryConsumption, recordedConsumption_receipt receipted.retry, ?_⟩, rfl⟩
  simp only [transitionOwnershipEvidence, candidates, receiptsByDigest,
    Dict.values_collect_singleton, ok_iff]
  exact ⟨(), by simp, history, mapM_fromExactMapping exact, (), not_not.mpr acquired,
    receipt.priorOwnership, receipted.evidencedPrior chronicled, (), passes, rfl⟩

/-- A committed reservation is answered from its receipt. -/
lemma Receipted.replay (later : receipt.creatorClaimGeneration ≤ generation) :
    reserveTransitionEffect receipt.intent generation digest reservedAt store =
      (.ok receipt, store) := by
  obtain ⟨evidence, read, found⟩ := receipted.read chronicled
  refine (Call.run_evaluate read _ store).trans ?_
  rw [found]
  exact Call.run_guard (by omega) _ store

end

/--
What a call has to respect so that a receipt can still be replayed after it.

A call on the reserved attempt must write a record that strict re-hydration accepts, which has a
bounded revision, and a retry must not be consumed under the identifier of a reservation that
consumed none. -/
def Replayable (receipt : ReservationReceipt) (store : OwnershipStore)
    (call : OwnershipCall) : Prop :=
  (∀ next ∈ (ownershipMachine.step store call).2.current.get? receipt.intent.key,
    next.attemptId = receipt.intent.attemptId → next.revision ≤ ownershipMaxLegacyRevision) ∧
  match call with
  | .heartbeat request leaseSeconds clock => request.attemptId = receipt.intent.attemptId →
      IsTimestamp (timestampOf request.now clock) ∧
        (timestampOf request.now clock + leaseSeconds).IsFinite
  | .acknowledgeResult request resultAckKey clock => request.attemptId = receipt.intent.attemptId →
      IsTimestamp (timestampOf request.now clock) ∧ Encodable resultAckKey
  | .failAttempt request failureCode _ clock => request.attemptId = receipt.intent.attemptId →
      IsTimestamp (timestampOf request.now clock) ∧ Encodable failureCode
  | .consumeRetry tenantId runId retryId _ _ => receipt.retryConsumption = none →
      (tenantId, runId, retryId) ≠ receipt.intent.retryKey
  | _ => True

lemma isTimestamp_add {start leaseSeconds : Float64} (starts : IsTimestamp start)
    (lasts : ¬ leaseSeconds ≤ 0) (finite : (start + leaseSeconds).IsFinite) :
    IsTimestamp (start + leaseSeconds) :=
  starts.add ⟨Float64.isFinite_right finite, lasts⟩ finite

variable {call : OwnershipCall}

/-- A call that respects a receipt carries its attempt on to an exact record. -/
lemma Progress.exact {key : StepKey} {current next : ExecutionOwnership}
    (progress : Progress call key current next) (active : current.status = .active)
    (exact : current.Exact) (attempted : current.attemptId = receipt.intent.attemptId)
    (bounded : next.revision ≤ ownershipMaxLegacyRevision)
    (respects : Replayable receipt store call) :
    next.Exact := by
  have terminal := exact.terminal
  simp only [ExecutionOwnership.TerminalFields, active] at terminal
  -- Every kind of progress raises the revision by one.
  have counted : 1 ≤ current.revision + 1 ∧ current.revision + 1 ≤ ownershipMaxLegacyRevision := by
    have positive := exact.revision.1
    have raised := progress.keeps.2.2.2.2
    omega
  cases progress with
  | renewed names lasts =>
    obtain ⟨starts, finite⟩ := respects.2 (names.symm.trans attempted)
    exact
      { exact with
        revision := counted
        lease := isTimestamp_add starts lasts finite
        heartbeat := starts }
  | acknowledged names acknowledges =>
    obtain ⟨ends, encodable⟩ := respects.2 (names.symm.trans attempted)
    exact
      { exact with
        revision := counted
        lease := ends
        resultAckKey := encodable
        terminal := ⟨acknowledges, terminal.2⟩ }
  | @abandoned request failureCode deadLetter clock _ names =>
    obtain ⟨ends, encodable⟩ := respects.2 (names.symm.trans attempted)
    have reason : Encodable (if failureCode = [] then text "execution_failed" else failureCode) ∧
        (if failureCode = [] then text "execution_failed" else failureCode) ≠ [] := by
      split
      · exact ⟨encodable_text _, by simp [text]⟩
      · exact ⟨encodable, by assumption⟩
    exact
      { exact with
        revision := counted
        lease := ends
        failureCode := reason.1
        terminal := by cases deadLetter <;> exact ⟨reason.2, terminal.1⟩ }
  | orphaned =>
    exact
      { exact with
        revision := counted
        failureCode := encodable_text _
        terminal := ⟨by simp [ExecutionOwnership.orphaned, text], terminal.1⟩ }

/-- A call that respects a receipt keeps its evidence. -/
lemma step_receipted (receipted : Receipted receipt store) (chronicled : Chronicled store)
    (respects : Replayable receipt store call) :
    Receipted receipt (ownershipMachine.step store call).2 := by
  have effect := step_effect store call
  have bounded := respects.1
  generalize (ownershipMachine.step store call).2 = after at effect bounded
  cases effect with
  | kept => exact receipted
  | retried charged =>
    -- A retry already recorded is not charged, and one that the receipt did not need is not
    -- allowed.
    refine receipted.charged ?_ _ _ _
    intro same
    have fresh := charged.fresh
    rw [same, receipted.retry, Option.map_eq_none_iff] at fresh
    exact respects.2 fresh same
  | @claimed request clock uuid outcome after effect =>
    -- Claims start attempts of their own, under retry identifiers of their own.
    have other : ∀ current,
        (claimedOwnership request (request.timestamp clock) uuid current).attemptId =
        receipt.intent.attemptId → False := fun _ same => receipt.intent.attemptId_ne uuid same.symm
    have charged : ∀ category used maximum, Receipted receipt
        (store.charged request.run (attemptIdOf uuid) category used maximum) :=
      receipted.charged fun same => receipt.intent.retryId_ne uuid (congrArg (·.2.2) same).symm
    cases effect with
    | kept => exact receipted
    | began => exact receipted.saved fun _ same => (other _ same).elim
    | recovered _ settled _ =>
      rcases settled with ⟨_, rfl⟩ | ⟨_, rfl⟩
      · exact receipted.saved fun _ same => (other _ same).elim
      · exact (charged _ _ _).saved fun _ same => (other _ same).elim
    | wasted => exact charged _ _ _
  | @progressed _ key current next found active progress valid =>
    refine receipted.saved ?_
    rintro rfl attempted
    obtain ⟨_, attempt, _, fence, _⟩ := progress.keeps
    have within := bounded next (Dict.get?_set_self ..) attempted
    rw [attempt] at attempted
    obtain ⟨exact, same⟩ := receipted.attempt current (chronicled.mem_entries found) attempted
    exact ⟨progress.exact active exact attempted within respects, fence.trans same⟩
  | @reserved intent generation digest reservedAt values made =>
    -- The new receipt was only issued because the old one could not be taken for it.
    have commits := made.commits
    have unaliased := commits.unaliased receipt (mem_values.mpr ⟨_, receipted.found⟩)
    have apart : receipt.intent.attemptId ≠ intent.attemptId ∧
        receipt.intent.operationFenceId ≠ intent.operationFenceId :=
      ⟨fun same => unaliased (.inr (.inr (.inr same))), fun same =>
        unaliased (.inr (.inr (.inl same)))⟩
    have issued : ¬ CandidateAlias receipt.intent values.receipt := by
      intro named
      rw [CandidateAlias, commits.receiptIntent] at named
      simp only [CandidateAlias, not_or] at unaliased
      rcases named with same | same | same | same
      · exact unaliased.1 same.symm
      · exact unaliased.2.1 same.symm
      · exact unaliased.2.2.1 same.symm
      · exact unaliased.2.2.2 same.symm
    have elsewhere : values.acquired.attemptId = receipt.intent.attemptId → False := by
      rw [commits.acquired]
      exact fun same => apart.1 same.symm
    unfold OwnershipStore.reserved
    cases values.consumption with
    | none => exact Receipted.issued (receipted.saved fun _ same => (elsewhere same).elim) issued
    | some consumption =>
      refine Receipted.issued (Receipted.saved (receipted.charged ?_ _ _ _)
        fun _ same => (elsewhere same).elim) issued
      intro same
      have retry : intent.retryId = receipt.intent.retryId := congrArg (·.2.2) same
      rw [intent.derived.retry, receipt.intent.derived.retry] at retry
      exact apart.2 retry.symm

lemma step_reserve :
    ownershipMachine.step store (.reserveTransitionEffect intent generation digest reservedAt) =
      ((reserveTransitionEffect intent generation digest reservedAt store).1.map .receipt,
        (reserveTransitionEffect intent generation digest reservedAt store).2) :=
  Call.bind_pure_run _ _ _

/-- A reservation whose history cannot be read is refused. -/
lemma refused_of_unread
    (unread : ∀ evidence, readTransitionReservationHistory store intent ≠ .ok evidence) :
    ∃ fault, (ownershipMachine.step store
      (.reserveTransitionEffect intent generation digest reservedAt)).1 = .error fault := by
  cases read : readTransitionReservationHistory store intent with
  | ok evidence => exact absurd read (unread evidence)
  | error fault =>
    have raised : reserveTransitionEffect intent generation digest reservedAt store =
        (.error fault, store) := Call.run_evaluate_raised read _ store
    rw [step_reserve, raised]
    exact ⟨fault, rfl⟩

/-- A reservation that answered and changed the store has committed its receipt. -/
lemma committed_receipted {after : OwnershipStore} (chronicled : Chronicled store)
    (answered : ownershipMachine.step store
      (.reserveTransitionEffect intent generation digest reservedAt) =
      (.ok (.receipt receipt), after))
    (changed : after ≠ store) :
    receipt.intent = intent ∧ receipt.creatorClaimGeneration = generation ∧
      Receipted receipt after := by
  rw [step_reserve] at answered
  have effect := reserveTransitionEffect_cases intent generation digest reservedAt store
  rw [Call.Ensures] at effect
  generalize reserveTransitionEffect intent generation digest reservedAt store =
    run at answered effect
  obtain ⟨outcome, reached⟩ := run
  simp only [Prod.mk.injEq] at answered effect
  obtain ⟨answer, rfl⟩ := answered
  cases effect with
  | kept => exact absurd rfl changed
  | committed made =>
    cases answer
    have commits := made.commits
    exact ⟨commits.receiptIntent, commits.receiptGeneration, commits.receipted chronicled⟩

/-- A step of a run that is planned at time one with a lease of ten seconds and one retry. -/
def plannedContents : IntentFields where
  receiptId := []
  transitionId := "transition"
  effectId := "effect"
  runtimeId := "runtime"
  tenantId := "tenant"
  workflowId := "workflow"
  runId := "run"
  stepId := "step"
  effectOrdinal := 1
  ownershipIntentDigest := []
  ownerId := []
  operationFenceId := []
  attemptId := []
  retryId := []
  transitionRequestFingerprint := replicate 64 (codePoint '0')
  effectPayloadDigest := replicate 64 (codePoint '0')
  idempotencyKey := []
  leaseSeconds := 10
  maximumRetries := 1
  plannedAt := 1

lemma plannedContents_plannable : plannedContents.Plannable := by
  constructor <;> decide +kernel

/-- The records of the first attempt of an intent, one for each heartbeat at the planned time. -/
def firstRecord (intent : ReservationIntent) (heartbeats : Nat) : ExecutionOwnership :=
  { acquisition intent none intent.plannedAt with revision := heartbeats + 1 }

/-- What the first reservation of an intent leaves in the store, after some heartbeats. -/
structure FirstHeld (intent : ReservationIntent) (receipt : ReservationReceipt) (heartbeats : Nat)
    (store : OwnershipStore) : Prop extends Filed receipt store where
  issued : receipt.intent = intent
  unspent : receipt.retryConsumption = none
  chronicled : Chronicled store
  held : store.current.get? intent.key = some (firstRecord intent heartbeats)

lemma ReservationMade.answered
    (made : ReservationMade intent generation digest intent.plannedAt .empty values) :
    ownershipMachine.step ownershipMachine.initial
      (.reserveTransitionEffect intent generation digest intent.plannedAt) =
      (.ok (.receipt values.receipt), OwnershipStore.empty.reserved intent values) := by
  refine step_reserve.trans ?_
  rw [show ownershipMachine.initial = .empty from rfl, made.run]
  rfl

/-- The first reservation of an intent is held under its first record. -/
lemma ReservationMade.firstHeld
    (made : ReservationMade intent generation digest intent.plannedAt .empty values) :
    FirstHeld intent values.receipt 0 (OwnershipStore.empty.reserved intent values) := by
  have chronicled : Chronicled .empty := coherent_empty Succeeds
  have commits := made.commits
  refine ⟨(commits.receipted chronicled).toFiled, commits.receiptIntent, ?_, ?_, ?_⟩
  · rw [commits.receiptConsumption, commits.consumption]
    rfl
  · have stepped := step_chronicled chronicled
      (.reserveTransitionEffect intent generation digest intent.plannedAt)
    rwa [step_reserve, made.run] at stepped
  · rw [OwnershipStore.reserved_journal, current_save, if_pos rfl, commits.acquired]
    rfl

def firstOwner (intent : ReservationIntent) (heartbeats : Nat) : OwnerRequest :=
  { tenantId := intent.tenantId
    runId := intent.runId
    stepId := intent.stepId
    attemptId := intent.attemptId
    ownerId := intent.ownerId
    fencingToken := 1
    expectedRevision := heartbeats + 1
    now := some intent.plannedAt }

/-- The first attempt renews its lease for the same time again and again. -/
def firstHeartbeats (intent : ReservationIntent) (count : Nat) : List OwnershipCall :=
  (range count).map fun i => .heartbeat (firstOwner intent i) intent.leaseSeconds intent.plannedAt

variable (intent) (heartbeats : Nat)

lemma firstRecord_live : ¬ (firstRecord intent heartbeats).leaseExpiresAt ≤ intent.plannedAt :=
  intent.shaped.leaseLater

lemma firstRecord_valid : (firstRecord intent heartbeats).Valid :=
  { (firstAcquisition_exact intent).valid with
    revision := show 1 ≤ (heartbeats : Int) + 1 by omega }

lemma firstRecord_renewed :
    (firstRecord intent heartbeats).renewed intent.plannedAt intent.leaseSeconds =
      firstRecord intent (heartbeats + 1) := by
  simp [firstRecord, ExecutionOwnership.renewed, acquisition]

namespace FirstHeld

variable {intent heartbeats} (first : FirstHeld intent receipt heartbeats store)
include first

lemma owned : OwnedBy store (firstOwner intent heartbeats) (firstRecord intent heartbeats) :=
  ⟨first.held, rfl, rfl, rfl⟩

/-- The first attempt's owner may renew its lease for any time. -/
lemma heartbeat_step {leaseSeconds : Float64} (lasts : ¬ leaseSeconds ≤ 0) :
    (ownershipMachine.step store
      (.heartbeat (firstOwner intent heartbeats) leaseSeconds intent.plannedAt)).2 =
      store.saved intent.key
        ((firstRecord intent heartbeats).renewed intent.plannedAt leaseSeconds) := by
  refine (step_state (heartbeat _ leaseSeconds intent.plannedAt) _ store).trans ?_
  rw [heartbeat_run first.owned rfl rfl (firstRecord_live intent heartbeats) lasts]
  · rfl
  · exact { firstRecord_valid intent heartbeats with
      revision := show 1 ≤ (heartbeats : Int) + 1 + 1 by omega }

/-- The first attempt's owner may acknowledge a result under any key. -/
lemma acknowledgeResult_step {resultAckKey : Str} (acknowledges : resultAckKey ≠ []) :
    (ownershipMachine.step store
      (.acknowledgeResult (firstOwner intent heartbeats) resultAckKey intent.plannedAt)).2 =
      store.saved intent.key
        ((firstRecord intent heartbeats).acknowledged intent.plannedAt resultAckKey) := by
  refine (step_state (acknowledgeResult _ resultAckKey intent.plannedAt) _ store).trans ?_
  rw [acknowledgeResult_run first.owned rfl rfl (firstRecord_live intent heartbeats) acknowledges]
  · rfl
  · exact { firstRecord_valid intent heartbeats with
      revision := show 1 ≤ (heartbeats : Int) + 1 + 1 by omega }

lemma heartbeat : FirstHeld intent receipt (heartbeats + 1) (ownershipMachine.step store
    (.heartbeat (firstOwner intent heartbeats) intent.leaseSeconds intent.plannedAt)).2 := by
  have chronicled := step_chronicled first.chronicled
    (.heartbeat (firstOwner intent heartbeats) intent.leaseSeconds intent.plannedAt)
  rw [first.heartbeat_step intent.shaped.leaseSeconds.2, firstRecord_renewed] at chronicled ⊢
  exact ⟨{ first with }, first.issued, first.unspent, chronicled,
    (current_save _ _ _ _).trans (if_pos rfl)⟩

/-- Once a record of the attempt is not exact, the intent is not answered from its receipt any
more. -/
lemma refused_of_inexact (attempted : record.attemptId = intent.attemptId)
    (inexact : ¬ record.Exact) :
    ∃ fault, (ownershipMachine.step (store.saved intent.key record)
      (.reserveTransitionEffect intent generation digest reservedAt)).1 = .error fault := by
  refine refused_of_unread fun evidence read => ?_
  have filed : Filed receipt (store.saved intent.key record) := { first with }
  obtain rfl := first.issued
  refine inexact ((filed.of_read read).2 record ?_ attempted)
  rw [OwnershipStore.saved, entries_save_self]
  simp

/-- Once a retry is recorded for it, the intent is not answered from its receipt any more. -/
lemma refused_of_retry (unrecorded : store.retryIds.get? intent.retryKey = none)
    (unlimited : store.retryMaximum.get? intent.run = none) (unused : store.used intent.run = 0)
    (allowed : 0 < intent.maximumRetries) :
    ∃ fault, (ownershipMachine.step
      (ownershipMachine.step store (.consumeRetry intent.tenantId intent.runId intent.retryId
        "hub_task" intent.maximumRetries)).2
      (.reserveTransitionEffect intent generation digest reservedAt)).1 = .error fault := by
  have charged : RetryCharged store (intent.tenantId, intent.runId) intent.retryId "hub_task"
      intent.maximumRetries :=
    { nonneg := allowed.le
      named := intent.shaped.retryId.ne_nil
      known := by decide
      agrees := by simp [show store.retryMaximum.get? (intent.tenantId, intent.runId) =
        none from unlimited]
      fresh := unrecorded
      room := unused.trans_lt allowed }
  have consumed : (ownershipMachine.step store
      (.consumeRetry intent.tenantId intent.runId intent.retryId
      "hub_task" intent.maximumRetries)).2 = store.charged (intent.tenantId, intent.runId)
        intent.retryId "hub_task" (store.used (intent.tenantId, intent.runId) + 1)
        intent.maximumRetries := by
    refine (step_state (consumeRetry _ _ _ _ _) _ store).trans ?_
    rcases consumeRetry_cases intent.tenantId intent.runId intent.retryId "hub_task"
      intent.maximumRetries store with ⟨_, uncharged⟩ | ⟨remembered, _⟩ | ⟨_, _, same⟩
    · exact absurd charged uncharged
    · cases remembered.recorded.symm.trans charged.fresh
    · exact same
  rw [consumed]
  refine refused_of_unread fun evidence read => ?_
  obtain rfl := first.issued
  have filed : Filed receipt (store.charged (receipt.intent.tenantId, receipt.intent.runId)
      receipt.intent.retryId "hub_task"
      (store.used (receipt.intent.tenantId, receipt.intent.runId) + 1)
      receipt.intent.maximumRetries) := { first with }
  have recorded := (filed.of_read read).1
  rw [first.unspent] at recorded
  have absent := recordedConsumption_none recorded
  rw [OwnershipStore.charged, get?_set_self] at absent
  cases absent

end FirstHeld

/-- The first attempt is held through any number of heartbeats. -/
lemma FirstHeld.throughout {intent} (first : FirstHeld intent receipt 0 store) (count : Nat) :
    FirstHeld intent receipt count
      (ownershipMachine.after store (firstHeartbeats intent count)) := by
  induction count with
  | zero => exact first
  | succ count ih =>
    rw [firstHeartbeats, range_succ, map_append, Machine.after_append]
    exact ih.heartbeat

lemma exists_firstReservation : ∃ (intent : ReservationIntent) (digest : Str)
    (values : ReservationValues), intent.maximumRetries = 1 ∧
        ReservationMade intent 1 digest intent.plannedAt .empty values := by
  obtain ⟨intent, contents⟩ := exists_intent plannedContents_plannable
  obtain ⟨digest, values, made⟩ :=
    first_made intent (show (1 : Int) ≤ 1 ∧ (1 : Int) ≤ ownershipMaxCounter by decide)
  exact ⟨intent, digest, values, by rw [contents]; rfl, made⟩

lemma OwnershipStore.reserved_ne : store.reserved intent values ≠ store := by
  intro same
  have entries := congrArg (fun store => (store.entries intent.key).length) same
  simp [OwnershipStore.reserved_journal] at entries

/--
A committed reservation is exactly-once, whatever respectful calls follow it.

Asking again returns the same receipt and changes nothing, at any later generation.
The attempt keeps the one fence it acquired, and its retry is recorded as the receipt says.
-/
theorem reservation_replay (calls later : List OwnershipCall) (intent : ReservationIntent)
    (generation : Int) (digest : Str) (reservedAt : Float64) (receipt : ReservationReceipt)
    (after : OwnershipStore)
    (answered : ownershipMachine.step (ownershipMachine.after ownershipMachine.initial calls)
      (.reserveTransitionEffect intent generation digest reservedAt) =
        (.ok (.receipt receipt), after))
    (committed : after ≠ ownershipMachine.after ownershipMachine.initial calls)
    (respects : ownershipMachine.Throughout (Replayable receipt) after later) :
    let final := ownershipMachine.after after later
    (∀ generation' digest' reservedAt', generation ≤ generation' →
      ownershipMachine.step final
        (.reserveTransitionEffect intent generation' digest' reservedAt') =
        (.ok (.receipt receipt), final)) ∧
    (∀ record ∈ final.entries intent.key, record.attemptId = intent.attemptId →
      record.fencingToken = receipt.acquiredOwnership.fencingToken) ∧
    final.retryIds.get? intent.retryKey = receipt.retryConsumption.map (·.category) := by
  intro final
  have reached : ownershipMachine.Reachable
    (ownershipMachine.after ownershipMachine.initial calls) :=
    ⟨calls, rfl⟩
  have chronicled : Chronicled after := by
    have stepped := reached.step (.reserveTransitionEffect intent generation digest reservedAt)
    rw [answered] at stepped
    exact chronicled_of_reachable stepped
  obtain ⟨rfl, rfl, receipted⟩ :=
    committed_receipted (chronicled_of_reachable reached) answered committed
  -- Both the order of the histories and the evidence for the receipt survive every later call.
  have kept := ownershipMachine.after_of_throughout (Replayable receipt)
    (fun store => Chronicled store ∧ Receipted receipt store)
    (fun store call holds respects =>
      ⟨step_chronicled holds.1 call, step_receipted holds.2 holds.1 respects⟩)
    later after ⟨chronicled, receipted⟩ respects
  refine ⟨?_, fun record member attempted => (kept.2.attempt record member attempted).2,
    kept.2.retry⟩
  intro generation' digest' reservedAt' newer
  rw [step_reserve, kept.2.replay kept.1 newer]
  rfl

/-- A claim starts an attempt of its own, so that a reserved attempt is current behind it only if it
was before. -/
lemma current_of_claim {request : ClaimRequest} {clock : Float64} {uuid : Str}
    {current : ExecutionOwnership}
    (found : current ∈ (ownershipMachine.step store (.claim request clock uuid)).2.current.get?
      intent.key) (attempted : current.attemptId = intent.attemptId) :
    store.current.get? intent.key = some current := by
  have effect := step_effect store (.claim request clock uuid)
  generalize (ownershipMachine.step store (.claim request clock uuid)).2 = after at effect found
  have other : ∀ {budgeted : OwnershipStore} {old}, budgeted.current = store.current →
      current ∈ (budgeted.saved request.key
        (claimedOwnership request (request.timestamp clock) uuid old)).current.get? intent.key →
      store.current.get? intent.key = some current := by
    intro budgeted old same found
    rw [show (budgeted.saved _ _).current.get? intent.key = _ from get?_set ..] at found
    split at found
    · cases found
      exact absurd attempted.symm (intent.attemptId_ne uuid)
    · exact same ▸ found
  cases effect with
  | kept => exact found
  | progressed _ _ progress => cases progress
  | claimed effect =>
    cases effect with
    | kept | wasted => exact found
    | began => exact other rfl found
    | recovered _ settled => exact other (congrArg (·.current) settled.journal) found

/-- A reservation is still answered from its receipt when another owner has taken the step over. -/
theorem reservation_replay_after_takeover :
    ∃ (intent : ReservationIntent) (digest : Str) (receipt : ReservationReceipt)
      (after : OwnershipStore), ownershipMachine.step ownershipMachine.initial
        (.reserveTransitionEffect intent 1 digest intent.plannedAt) =
          (.ok (.receipt receipt), after) ∧
      let final := ownershipMachine.after after
        [.claim ⟨intent.tenantId, intent.workflowId, intent.runId, intent.stepId, "other", 10, 1,
          some 20⟩ 20 "uuid"]
      ownershipMachine.step final (.reserveTransitionEffect intent 2 [] 30) =
        (.ok (.receipt receipt), final) := by
  obtain ⟨intent, digest, values, _, made⟩ := exists_firstReservation
  have answered := made.answered
  refine ⟨intent, digest, values.receipt, _, answered, ?_⟩
  refine (reservation_replay [] [_] intent 1 digest intent.plannedAt values.receipt _ answered
    (OwnershipStore.reserved_ne _) ⟨⟨?_, trivial⟩, trivial⟩).1 2 [] 30 (by decide)
  intro current found attempted
  have first := made.firstHeld
  rw [first.issued] at found attempted
  cases first.held.symm.trans (current_of_claim intent found attempted)
  show ((0 : Nat) : Int) + 1 ≤ ownershipMaxLegacyRevision
  decide

def ReplayRefused (digest : Str) (after : OwnershipStore) (later : List OwnershipCall) : Prop :=
  ∃ fault, (ownershipMachine.step (ownershipMachine.after after later)
    (.reserveTransitionEffect intent 1 digest intent.plannedAt)).1 = .error fault

/--
Replaying can be refused after a retry under the reservation's own identifier, a heartbeat with an
infinite lease, an acknowledgement under a key that cannot be encoded, and too many heartbeats.
-/
theorem reservation_replay_refused :
    ∃ (intent : ReservationIntent) (digest : Str) (receipt : ReservationReceipt)
      (after : OwnershipStore), ownershipMachine.step ownershipMachine.initial
        (.reserveTransitionEffect intent 1 digest intent.plannedAt) =
          (.ok (.receipt receipt), after) ∧
      ReplayRefused intent digest after [.consumeRetry intent.tenantId intent.runId intent.retryId
        "hub_task" intent.maximumRetries] ∧
      ReplayRefused intent digest after
        [.heartbeat (firstOwner intent 0) (.infinity false) intent.plannedAt] ∧
      ReplayRefused intent digest after
        [.acknowledgeResult (firstOwner intent 0) [surrogate] intent.plannedAt] ∧
      ReplayRefused intent digest after
        (firstHeartbeats intent ownershipMaxLegacyRevision.toNat) := by
  obtain ⟨intent, digest, values, maximum, made⟩ := exists_firstReservation
  have first := made.firstHeld
  have unspent : values.consumption = none := by rw [made.commits.consumption]; rfl
  refine ⟨intent, digest, values.receipt, OwnershipStore.empty.reserved intent values,
    made.answered, ?_, ?_, ?_, ?_⟩
  · refine first.refused_of_retry ?_ ?_ ?_ (by rw [maximum]; decide) <;>
      simp only [OwnershipStore.reserved, unspent] <;> rfl
  · -- The infinite end of the lease is no timestamp.
    rw [ReplayRefused, Machine.after_cons, Machine.after_nil,
      first.heartbeat_step (by decide +kernel)]
    refine first.refused_of_inexact rfl fun exact => ?_
    have finite := Float64.isFinite_right exact.lease.1
    exact finite
  · rw [ReplayRefused, Machine.after_cons, Machine.after_nil,
      first.acknowledgeResult_step (by decide)]
    refine first.refused_of_inexact rfl fun exact => ?_
    exact absurd (exact.resultAckKey surrogate (by simp [ExecutionOwnership.acknowledged]))
      (by decide)
  · -- The last heartbeat raises the revision past the largest one that is accepted.
    have last := first.throughout ownershipMaxLegacyRevision.toNat
    refine refused_of_unread fun evidence read => ?_
    rw [← first.issued] at last read
    have exact := (last.toFiled.of_read read).2 _ (last.chronicled.mem_entries last.held) rfl
    have bounded : (ownershipMaxLegacyRevision.toNat : Int) + 1 ≤ ownershipMaxLegacyRevision :=
      exact.revision.2
    omega

end Ananta
