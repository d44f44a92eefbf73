import Ananta.Ownership.Store

/-! What each call on the ownership store can do, stated once for all later arguments. -/

namespace Ananta

open Call ExecutionOwnership

/-- A call that raised and left the state as it was. -/
def Refused {σ α : Type} (before : σ) (outcome : Except Fault α) (after : σ) : Prop :=
  (∃ fault, outcome = .error fault) ∧ after = before

lemma refused_raise {σ α : Type} (before : σ) (fault : Fault) :
    Refused before (.error fault : Except Fault α) before := ⟨⟨fault, rfl⟩, rfl⟩

section

variable (store : OwnershipStore) (key : RunKey) (retryId category : Str) (maximum : Int)

/-- A retry passes the input checks and agrees with the recorded maximum. -/
structure RetryAdmitted : Prop where
  nonneg : 0 ≤ maximum
  named : retryId ≠ []
  known : category ∈ retryCategories
  agrees : ∀ configured ∈ store.retryMaximum.get? key, configured = maximum

structure RetryCharged : Prop extends RetryAdmitted store key retryId category maximum where
  fresh : store.retryIds.get? (key.1, key.2, retryId) = none
  room : store.used key < maximum

structure RetryRemembered : Prop extends RetryAdmitted store key retryId category maximum where
  recorded : store.retryIds.get? (key.1, key.2, retryId) = some category

end

/-- A retry is refused, remembered, or charged. -/
lemma consumeRetry_cases (tenantId runId retryId category : Str) (maximum : Int)
    (store : OwnershipStore) :
    Ensures (consumeRetry tenantId runId retryId category maximum) store fun outcome after =>
      let key : RunKey := (tenantId, runId)
      (Refused store outcome after ∧ ¬ RetryCharged store key retryId category maximum) ∨
      (RetryRemembered store key retryId category maximum ∧ (∃ snapshot, outcome = .ok snapshot) ∧
        after = store) ∨
      (RetryCharged store key retryId category maximum ∧ (∃ snapshot, outcome = .ok snapshot) ∧
        after = store.charged key retryId category (store.used key + 1) maximum) := by
  apply ensures_guard
  · intro bad
    refine .inl ⟨refused_raise _ _, fun charged => ?_⟩
    rcases bad with negative | unnamed | unknown
    · exact absurd charged.nonneg (by omega)
    · exact charged.named unnamed
    · exact unknown charged.known
  intro good
  simp only [not_or, not_lt, not_not] at good
  apply ensures_read
  apply ensures_guard
  · intro mismatch
    refine .inl ⟨refused_raise _ _, fun charged => ?_⟩
    obtain ⟨configured, recorded, differs⟩ := mismatch
    exact differs (charged.agrees configured recorded)
  intro agrees
  -- Past both guards, a recorded identifier costs nothing.
  have admitted : RetryAdmitted store (tenantId, runId) retryId category maximum := by
    refine ⟨good.1, good.2.1, good.2.2, fun configured recorded => ?_⟩
    by_contra differs
    exact agrees ⟨configured, recorded, differs⟩
  cases recorded : store.retryIds.get? (tenantId, runId, retryId) with
  | some existing =>
    apply ensures_guard
    · intro _
      refine .inl ⟨refused_raise _ _, fun charged => ?_⟩
      rw [charged.fresh] at recorded
      cases recorded
    · intro same
      rw [not_not.mp same] at recorded
      exact .inr (.inl ⟨⟨admitted, recorded⟩, ⟨_, rfl⟩, rfl⟩)
  | none =>
    apply ensures_guard
    · intro exhausted
      refine .inl ⟨refused_raise _ _, fun charged => ?_⟩
      exact absurd charged.room (by omega)
    · intro room
      exact .inr (.inr ⟨⟨admitted, recorded, by omega⟩, ⟨_, rfl⟩, rfl⟩)

section

variable {α : Type} {store : OwnershipStore} {post : Except Fault α → OwnershipStore → Prop}

variable {record : ExecutionOwnership} {next : Unit → OwnershipM α}

/-- A check on a record passes exactly when the record is valid. -/
lemma ensures_assertValid (raised : ∀ fault, ¬ record.Valid → post (.error fault) store)
    (returned : record.Valid → Ensures (next ()) store post) :
    Ensures ((liftM record.assertValid : OwnershipM Unit) >>= next) store post := by
  apply ensures_evaluate
  · intro fault refused
    refine raised fault fun valid => ?_
    rw [assertValid_eq_ok.mpr valid] at refused
    cases refused
  · intro _ passed
    exact returned (assertValid_eq_ok.mp passed)

lemma ensures_saveOwnership {key : StepKey}
    (raised : ∀ fault, ¬ record.Valid → post (.error fault) store)
    (returned : record.Valid → Ensures (next ()) (store.saved key record) post) :
    Ensures (saveOwnership key record >>= next) store post := by
  rw [saveOwnership, bind_assoc]
  exact ensures_assertValid raised fun valid => ensures_write (returned valid)

end

section

/-- The current record of a step, held under the attempt, owner and fence that a request names. -/
structure OwnedBy (store : OwnershipStore) (request : OwnerRequest) (current : ExecutionOwnership) :
    Prop where
  held : store.current.get? request.key = some current
  attempt : current.attemptId = request.attemptId
  owner : current.ownerId = request.ownerId
  fence : current.fencingToken = request.fencingToken

variable {current : ExecutionOwnership} {clock : Float64}

/-- The ownership check returns exactly the record the request names. -/
lemma owned_eq_ok {store : OwnershipStore} {request : OwnerRequest} :
    owned store request = .ok current ↔ OwnedBy store request current := by
  unfold owned
  cases found : store.current.get? request.key with
  | none =>
    simp only [throw, throwThe, MonadExceptOf.throw, reduceCtorEq, false_iff]
    intro owner
    rw [owner.held] at found
    cases found
  | some record =>
    simp only [ok_iff, not_or, not_not]
    constructor
    · rintro ⟨_, ⟨attempt, owner, fence⟩, rfl⟩
      exact ⟨found, attempt, owner, fence⟩
    · rintro ⟨same, attempt, owner, fence⟩
      simp_all

variable (request : OwnerRequest) (store : OwnershipStore)

/-- An owner's call that wrote the next record of the attempt it was made for. -/
def Advanced (next : ExecutionOwnership → ExecutionOwnership)
    (outcome : Except Fault ExecutionOwnership) (after : OwnershipStore) : Prop :=
  ∃ current, OwnedBy store request current ∧ current.status = .active ∧ (next current).Valid ∧
    outcome = .ok (next current) ∧ after = store.saved request.key (next current)

/-- A heartbeat is refused or renews the lease of the attempt it names. -/
lemma heartbeat_cases (leaseSeconds clock : Float64) :
    Ensures (heartbeat request leaseSeconds clock) store fun outcome after =>
      Refused store outcome after ∨
      Advanced request store (·.renewed (timestampOf request.now clock) leaseSeconds)
        outcome after ∧ ¬ leaseSeconds ≤ 0 := by
  -- Every guard before the write is passed or refuses the call.
  unfold heartbeat validateLease
  refine ensures_evaluate (fun _ _ => .inl (refused_raise _ _)) fun timestamp passed => ?_
  simp only [ok_iff] at passed
  obtain ⟨_, positive, rfl⟩ := passed
  apply ensures_read
  refine ensures_evaluate (fun _ _ => .inl (refused_raise _ _)) fun current found => ?_
  refine ensures_guard (fun _ => .inl (refused_raise _ _)) fun _ => ?_
  refine ensures_guard (fun _ => .inl (refused_raise _ _)) fun active => ?_
  refine ensures_guard (fun _ => .inl (refused_raise _ _)) fun _ => ?_
  refine ensures_saveOwnership (fun _ _ => .inl (refused_raise _ _)) fun valid => ?_
  exact .inr ⟨⟨current, owned_eq_ok.mp found, not_not.mp active, valid, rfl, rfl⟩, positive⟩

/-- An acknowledgement is refused, repeated, or completes the attempt it names. -/
lemma acknowledgeResult_cases (resultAckKey : Str) (clock : Float64) :
    Ensures (acknowledgeResult request resultAckKey clock) store fun outcome after =>
      Refused store outcome after ∨ ((∃ record, outcome = .ok record) ∧ after = store) ∨
      Advanced request store (·.acknowledged (timestampOf request.now clock) resultAckKey)
        outcome after ∧ resultAckKey ≠ [] := by
  refine ensures_guard (fun _ => .inl (refused_raise _ _)) fun named => ?_
  apply ensures_read
  refine ensures_evaluate (fun _ _ => .inl (refused_raise _ _)) fun current found => ?_
  split
  · exact .inr (.inl ⟨⟨current, rfl⟩, rfl⟩)
  · refine ensures_guard (fun _ => .inl (refused_raise _ _)) fun _ => ?_
    refine ensures_guard (fun _ => .inl (refused_raise _ _)) fun live => ?_
    refine ensures_saveOwnership (fun _ _ => .inl (refused_raise _ _)) fun valid => ?_
    simp only [not_or, not_not] at live
    exact .inr (.inr ⟨⟨current, owned_eq_ok.mp found, live.1, valid, rfl, rfl⟩, named⟩)

/-- A failure report is refused or ends the attempt it names. -/
lemma failAttempt_cases (failureCode : Str) (deadLetter : Bool) (clock : Float64) :
    Ensures (failAttempt request failureCode deadLetter clock) store fun outcome after =>
      Refused store outcome after ∨
      Advanced request store (·.abandoned (timestampOf request.now clock) failureCode deadLetter)
        outcome after := by
  apply ensures_read
  refine ensures_evaluate (fun _ _ => .inl (refused_raise _ _)) fun current found => ?_
  refine ensures_guard (fun _ => .inl (refused_raise _ _)) fun _ => ?_
  refine ensures_guard (fun _ => .inl (refused_raise _ _)) fun active => ?_
  refine ensures_guard (fun _ => .inl (refused_raise _ _)) fun _ => ?_
  refine ensures_saveOwnership (fun _ _ => .inl (refused_raise _ _)) fun valid => ?_
  exact .inr ⟨current, owned_eq_ok.mp found, not_not.mp active, valid, rfl, rfl⟩

variable {request store} (owner : OwnedBy store request current)
  (revision : current.revision = request.expectedRevision)
  (active : current.status = .active)
  (live : ¬ current.leaseExpiresAt ≤ timestampOf request.now clock)
include owner revision active live

/-- A heartbeat of the live attempt renews its lease. -/
lemma heartbeat_run {leaseSeconds : Float64} (lasts : ¬ leaseSeconds ≤ 0)
    (valid : (current.renewed (timestampOf request.now clock) leaseSeconds).Valid) :
    heartbeat request leaseSeconds clock store =
      (.ok (current.renewed (timestampOf request.now clock) leaseSeconds),
        store.saved request.key
          (current.renewed (timestampOf request.now clock) leaseSeconds)) := by
  have leased : validateLease leaseSeconds request.now clock =
      .ok (timestampOf request.now clock) := by
    simp only [validateLease, ok_iff]
    exact ⟨(), lasts, trivial⟩
  refine (run_evaluate leased _ store).trans ?_
  refine (run_evaluate (owned_eq_ok.mpr owner) _ store).trans ?_
  refine (run_guard (not_not.mpr revision) _ store).trans ?_
  refine (run_guard (not_not.mpr active) _ store).trans ((run_guard live _ store).trans ?_)
  rw [saveOwnership, bind_assoc]
  exact run_evaluate (assertValid_eq_ok.mpr valid) _ store

/-- An acknowledgement of the live attempt completes it. -/
lemma acknowledgeResult_run {resultAckKey : Str} (acknowledges : resultAckKey ≠ [])
    (valid : (current.acknowledged (timestampOf request.now clock) resultAckKey).Valid) :
    acknowledgeResult request resultAckKey clock store =
      (.ok (current.acknowledged (timestampOf request.now clock) resultAckKey),
        store.saved request.key
          (current.acknowledged (timestampOf request.now clock) resultAckKey)) := by
  refine (run_guard acknowledges _ store).trans ?_
  refine (run_evaluate (owned_eq_ok.mpr owner) _ store).trans ?_
  rw [if_neg (by simp [active])]
  refine (run_guard (not_not.mpr revision) _ store).trans ?_
  refine (run_guard (by simpa [active] using live) _ store).trans ?_
  rw [saveOwnership, bind_assoc]
  exact run_evaluate (assertValid_eq_ok.mpr valid) _ store

end

/-- Reconciliation is refused, finds nothing to do, or marks a lapsed attempt as orphaned. -/
lemma reconcileOrphan_cases (key : StepKey) (now : Option Float64) (clock : Float64)
    (store : OwnershipStore) : Ensures (reconcileOrphan key now clock) store fun outcome after =>
      Refused store outcome after ∨ ((∃ record, outcome = .ok record) ∧ after = store) ∨
      ∃ current, store.current.get? key = some current ∧ current.status = .active ∧
        ¬ timestampOf now clock < current.leaseExpiresAt ∧ current.orphaned.Valid ∧
        outcome = .ok (some current.orphaned) ∧ after = store.saved key current.orphaned := by
  apply ensures_read
  cases found : store.current.get? key with
  | none => exact .inr (.inl ⟨⟨none, rfl⟩, rfl⟩)
  | some current =>
    dsimp only
    split
    · exact .inr (.inl ⟨⟨none, rfl⟩, rfl⟩)
    · rename_i lapsed
      simp only [not_or, not_not] at lapsed
      refine ensures_saveOwnership (fun _ _ => .inl (refused_raise _ _)) fun valid => ?_
      exact .inr (.inr ⟨current, rfl, lapsed.1, lapsed.2, valid, rfl, rfl⟩)

section

variable (request : ClaimRequest) (clock : Float64) (uuid : Str) (store : OwnershipStore)

def ClaimRequest.run : RunKey := (request.tenantId, request.runId)

def ClaimRequest.timestamp : Float64 :=
  timestampOf request.now clock

/-- A claim meets a record of its own workflow that nobody holds any more. -/
structure ClaimRecovers (current : ExecutionOwnership) : Prop where
  lease : ¬ request.leaseSeconds ≤ 0
  found : store.current.get? request.key = some current
  workflow : current.workflowId = request.workflowId
  unfinished : current.status ≠ .completed
  lapsed : ¬ (current.status = .active ∧ request.timestamp clock < current.leaseExpiresAt)

/-- A claim charges the retry budget for a record that is then found invalid. -/
def ClaimWasted : Prop :=
  ∃ current, ClaimRecovers request clock store current ∧
    RetryCharged store request.run (attemptIdOf uuid) "hub_task" request.maximumRetries ∧
    ¬ (claimedOwnership request (request.timestamp clock) uuid (some current)).Valid

def RetrySettled (key : RunKey) (retryId category : Str) (maximum : Int) (after : OwnershipStore) :
    Prop :=
  (RetryRemembered store key retryId category maximum ∧ after = store) ∨
    (RetryCharged store key retryId category maximum ∧
      after = store.charged key retryId category (store.used key + 1) maximum)

inductive ClaimEffect : Except Fault OwnershipClaim → OwnershipStore → Prop where
  /-- Nothing is written, and no retry was charged for nothing. -/
  | kept {outcome : Except Fault OwnershipClaim} (spared : ¬ ClaimWasted request clock uuid store) :
      ClaimEffect outcome store
  /-- The first record of a step is written. -/
  | began (lease : ¬ request.leaseSeconds ≤ 0) (absent : store.current.get? request.key = none)
      (valid : (claimedOwnership request (request.timestamp clock) uuid none).Valid) :
      ClaimEffect (.ok ⟨claimedOwnership request (request.timestamp clock) uuid none, true,
        .acquired⟩)
        (store.saved request.key (claimedOwnership request (request.timestamp clock) uuid none))
  /-- A record that nobody holds any more is succeeded at the cost of a retry. -/
  | recovered {current : ExecutionOwnership} {budgeted : OwnershipStore}
      (recovers : ClaimRecovers request clock store current)
      (settled : RetrySettled store request.run (attemptIdOf uuid) "hub_task"
        request.maximumRetries budgeted)
      (valid : (claimedOwnership request (request.timestamp clock) uuid (some current)).Valid) :
      ClaimEffect
        (.ok ⟨claimedOwnership request (request.timestamp clock) uuid (some current), true,
          .recovered⟩)
        (budgeted.saved request.key
          (claimedOwnership request (request.timestamp clock) uuid (some current)))
  /-- A retry is charged, and then the claim is refused. -/
  | wasted {fault : Fault} (wasted : ClaimWasted request clock uuid store) :
      ClaimEffect (.error fault) (store.charged request.run (attemptIdOf uuid) "hub_task"
        (store.used request.run + 1) request.maximumRetries)

/-- A claim does one of the four things. -/
lemma claim_cases : Ensures (claim request clock uuid)
    store (ClaimEffect request clock uuid store) := by
  refine ensures_evaluate (fun _ refused => .kept ?_) fun timestamp passed => ?_
  · -- A non-positive lease is refused at once.
    rintro ⟨current, recovers, _⟩
    simp [validateLease, raiseIf, recovers.lease, Bind.bind, Except.bind, Pure.pure, Except.pure]
      at refused
  simp only [validateLease, ok_iff] at passed
  obtain ⟨_, lease, rfl⟩ := passed
  apply ensures_read
  cases found : store.current.get? request.key with
  | none =>
    have spared : ¬ ClaimWasted request clock uuid store := by
      rintro ⟨current, recovers, _⟩
      rw [recovers.found] at found
      cases found
    refine ensures_assertValid (fun _ _ => .kept spared) fun valid => ?_
    refine ensures_saveOwnership (fun _ _ => .kept spared) fun _ => ?_
    exact .began lease found valid
  | some current =>
    -- Any recovery would be of the record just found.
    have unique : ∀ {other}, ClaimRecovers request clock store other → other = current := by
      intro other recovers
      rwa [recovers.found, Option.some.injEq] at found
    refine ensures_guard (fun other => .kept ?_) fun workflow => ?_
    · rintro ⟨_, recovers, _⟩
      cases unique recovers
      exact other recovers.workflow
    split
    · rename_i completed
      refine .kept ?_
      rintro ⟨_, recovers, _⟩
      cases unique recovers
      exact recovers.unfinished completed
    rename_i unfinished
    split
    · rename_i live
      refine .kept ?_
      rintro ⟨_, recovers, _⟩
      cases unique recovers
      exact recovers.lapsed live
    rename_i lapsed
    have recovers : ClaimRecovers request clock store current :=
      ⟨lease, found, not_not.mp workflow, unfinished, lapsed⟩
    refine ensures_sequence (consumeRetry_cases _ _ _ _ _ store) ?_ ?_
    · rintro fault after (⟨⟨_, same⟩, uncharged⟩ | ⟨_, ⟨_, impossible⟩, _⟩ | ⟨_, ⟨_, impossible⟩,
        _⟩)
      · subst after
        refine .kept ?_
        rintro ⟨_, _, charged, _⟩
        exact uncharged charged
      · cases impossible
      · cases impossible
    · rintro snapshot after (⟨⟨⟨_, impossible⟩, _⟩, _⟩ | ⟨remembered, _, same⟩ | ⟨charged, _, same⟩)
      · cases impossible
      · subst after
        have spared : ¬ ClaimWasted request clock uuid store := by
          rintro ⟨_, _, charged, _⟩
          cases remembered.recorded.symm.trans charged.fresh
        refine ensures_assertValid (fun _ _ => .kept spared) fun valid => ?_
        refine ensures_saveOwnership (fun _ _ => .kept spared) fun _ => ?_
        exact .recovered recovers (.inl ⟨remembered, rfl⟩) valid
      · subst after
        refine ensures_assertValid (fun _ invalid => .wasted ⟨current, recovers, charged, invalid⟩)
          fun valid => ?_
        refine ensures_saveOwnership (fun _ invalid => absurd valid invalid) fun _ => ?_
        exact .recovered recovers (.inr ⟨charged, rfl⟩) valid

/-- A granted claim names a new attempt under its own identifier. -/
lemma claim_acquired : Ensures (claim request clock uuid) store fun outcome _ => ∀ granted,
    outcome = .ok granted → granted.acquired = true → granted.ownership =
        claimedOwnership request (request.timestamp clock)
          uuid (store.current.get? request.key) := by
  refine ensures_evaluate (by rintro _ _ _ ⟨⟩) fun timestamp passed => ?_
  simp only [validateLease, ok_iff] at passed
  obtain ⟨_, _, rfl⟩ := passed
  apply ensures_read
  cases found : store.current.get? request.key with
  | none =>
    refine ensures_assertValid (by rintro _ _ _ ⟨⟩) fun _ => ?_
    refine ensures_saveOwnership (by rintro _ _ _ ⟨⟩) fun _ => ?_
    rintro _ ⟨⟩ _
    rfl
  | some current =>
    refine ensures_guard (by rintro _ _ ⟨⟩) fun _ => ?_
    split
    · rintro _ ⟨⟩ impossible
      cases impossible
    split
    · rintro _ ⟨⟩ impossible
      cases impossible
    refine ensures_bind (by rintro _ _ _ _ ⟨⟩) fun _ after _ => ?_
    refine ensures_assertValid (by rintro _ _ _ ⟨⟩) fun _ => ?_
    refine ensures_saveOwnership (by rintro _ _ _ ⟨⟩) fun _ => ?_
    rintro _ ⟨⟩ _
    rfl

end

variable (intent : ReservationIntent) (generation : Int) (digest : Str) (reservedAt : Float64)
  (store : OwnershipStore)

/-- What a reservation found and computed before it was committed. -/
structure ReservationMade (values : ReservationValues) : Prop where
  unrecorded : ∃ evidence, readTransitionReservationHistory store intent = .ok evidence ∧
    evidence.receipt = none
  observed : ∃ observation, observeTransitionReservation store intent generation = .ok observation ∧
    observation.receipt = none ∧
    transitionOwnershipReservationValues observation generation digest reservedAt = .ok values
  unspent : values.consumption.isSome →
    store.retryIds.get? (intent.tenantId, intent.runId, intent.retryId) = none

/-- A reservation that finds everything in place is committed. -/
lemma ReservationMade.run {values : ReservationValues}
    (made : ReservationMade intent generation digest reservedAt store values) :
    reserveTransitionEffect intent generation digest reservedAt store =
      (.ok values.receipt, store.reserved intent values) := by
  obtain ⟨⟨evidence, read, unrecorded⟩, ⟨observation, observed, unreceipted, valued⟩, unspent⟩ :=
    made
  refine (run_evaluate read _ store).trans ?_
  rw [unrecorded]
  refine (run_evaluate observed _ store).trans ((run_evaluate valued _ store).trans ?_)
  rw [unreceipted]
  refine run_guard ?_ _ store
  simp_all

inductive ReserveEffect : Except Fault ReservationReceipt → OwnershipStore → Prop where
  /-- Nothing is written, whether a stored receipt is returned or the call is refused. -/
  | kept {outcome : Except Fault ReservationReceipt} : ReserveEffect outcome store
  /-- The record, the retry and the receipt are written together. -/
  | committed {values : ReservationValues}
      (made : ReservationMade intent generation digest reservedAt store values) :
      ReserveEffect (.ok values.receipt) (store.reserved intent values)

/-- A reservation commits everything or nothing. -/
lemma reserveTransitionEffect_cases :
    Ensures (reserveTransitionEffect intent generation digest reservedAt) store
      (ReserveEffect intent generation digest reservedAt store) := by
  refine ensures_evaluate (fun _ _ => .kept) fun evidence read => ?_
  cases found : evidence.receipt with
  | some receipt => exact ensures_guard (fun _ => .kept) fun _ => .kept
  | none =>
    refine ensures_evaluate (fun _ _ => .kept) fun observation observed => ?_
    refine ensures_evaluate (fun _ _ => .kept) fun values valued => ?_
    cases seen : observation.receipt with
    | some receipt => exact .kept
    | none =>
      refine ensures_guard (fun _ => .kept) fun unspent => ?_
      refine .committed ⟨⟨evidence, read, found⟩, ⟨observation, observed, seen, valued⟩, ?_⟩
      intro consumed
      simpa [consumed] using unspent

/-- The calls that carry an active record of a step on, and the record each of them writes. -/
inductive Progress : OwnershipCall → StepKey → ExecutionOwnership → ExecutionOwnership → Prop where
  | renewed {request : OwnerRequest} {leaseSeconds clock : Float64} {current : ExecutionOwnership}
      (names : current.attemptId = request.attemptId) (lease : ¬ leaseSeconds ≤ 0) :
      Progress (.heartbeat request leaseSeconds clock) request.key current
        (current.renewed (timestampOf request.now clock) leaseSeconds)
  | acknowledged {request : OwnerRequest} {resultAckKey : Str} {clock : Float64}
      {current : ExecutionOwnership} (names : current.attemptId = request.attemptId)
      (acknowledges : resultAckKey ≠ []) :
      Progress (.acknowledgeResult request resultAckKey clock) request.key current
        (current.acknowledged (timestampOf request.now clock) resultAckKey)
  | abandoned {request : OwnerRequest} {failureCode : Str} {deadLetter : Bool} {clock : Float64}
      {current : ExecutionOwnership} (names : current.attemptId = request.attemptId) :
      Progress (.failAttempt request failureCode deadLetter clock) request.key current
        (current.abandoned (timestampOf request.now clock) failureCode deadLetter)
  | orphaned {key : StepKey} {now : Option Float64} {clock : Float64}
      {current : ExecutionOwnership} :
      Progress (.reconcileOrphan key now clock) key current current.orphaned

/-- What a call can do to the store. -/
inductive OwnershipEffect (store : OwnershipStore) : OwnershipCall → OwnershipStore → Prop where
  | kept {call : OwnershipCall} : OwnershipEffect store call store
  | retried {tenantId runId retryId category : Str} {maximum : Int}
      (charged : RetryCharged store (tenantId, runId) retryId category maximum) :
      OwnershipEffect store (.consumeRetry tenantId runId retryId category maximum)
        (store.charged (tenantId, runId) retryId category (store.used (tenantId, runId) + 1)
          maximum)
  | claimed {request : ClaimRequest} {clock : Float64} {uuid : Str}
      {outcome : Except Fault OwnershipClaim} {after : OwnershipStore}
      (effect : ClaimEffect request clock uuid store outcome after) :
      OwnershipEffect store (.claim request clock uuid) after
  | progressed {call : OwnershipCall} {key : StepKey} {current next : ExecutionOwnership}
      (found : store.current.get? key = some current) (active : current.status = .active)
      (progress : Progress call key current next) (valid : next.Valid) :
      OwnershipEffect store call (store.saved key next)
  | reserved {intent : ReservationIntent} {generation : Int} {digest : Str} {reservedAt : Float64}
      {values : ReservationValues}
      (made : ReservationMade intent generation digest reservedAt store values) :
      OwnershipEffect store (.reserveTransitionEffect intent generation digest reservedAt)
        (store.reserved intent values)

lemma step_state {α : Type} (operation : OwnershipM α) (answer : α → OwnershipAnswer)
    (store : OwnershipStore) :
    ((operation >>= fun value => pure (answer value) : OwnershipM OwnershipAnswer) store).2 =
      (operation store).2 := by
  rw [bind_pure_run]

lemma OwnershipEffect.of {α : Type} {operation : OwnershipM α} {answer : α → OwnershipAnswer}
    {store : OwnershipStore} {call : OwnershipCall}
    (spec : Ensures operation store fun _ after => OwnershipEffect store call after) :
    OwnershipEffect store call
      ((operation >>= fun value => pure (answer value) : OwnershipM OwnershipAnswer) store).2 := by
  rwa [step_state]

/-- Every call does one of the five things. -/
lemma step_effect (call : OwnershipCall) :
    OwnershipEffect store call (ownershipMachine.step store call).2 := by
  cases call with
  | claim request clock uuid => exact .of (.claimed (claim_cases request clock uuid store))
  | heartbeat request leaseSeconds clock =>
    refine .of ((heartbeat_cases request store leaseSeconds clock).mono ?_)
    rintro _ _ (⟨_, rfl⟩ | ⟨⟨current, owner, active, valid, _, rfl⟩, lease⟩)
    · exact .kept
    · exact .progressed owner.held active (.renewed owner.attempt lease) valid
  | acknowledgeResult request resultAckKey clock =>
    refine .of ((acknowledgeResult_cases request store resultAckKey clock).mono ?_)
    rintro _ _ (⟨_, rfl⟩ | ⟨_, rfl⟩ | ⟨⟨current, owner, active, valid, _, rfl⟩, named⟩)
    · exact .kept
    · exact .kept
    · exact .progressed owner.held active (.acknowledged owner.attempt named) valid
  | failAttempt request failureCode deadLetter clock =>
    refine .of ((failAttempt_cases request store failureCode deadLetter clock).mono ?_)
    rintro _ _ (⟨_, rfl⟩ | ⟨current, owner, active, valid, _, rfl⟩)
    · exact .kept
    · exact .progressed owner.held active (.abandoned owner.attempt) valid
  | reconcileOrphan key now clock =>
    refine .of ((reconcileOrphan_cases key now clock store).mono ?_)
    rintro _ _ (⟨_, rfl⟩ | ⟨_, rfl⟩ | ⟨current, found, active, _, valid, _, rfl⟩)
    · exact .kept
    · exact .kept
    · exact .progressed found active .orphaned valid
  | consumeRetry tenantId runId retryId category maximum =>
    refine .of ((consumeRetry_cases tenantId runId retryId category maximum store).mono ?_)
    rintro _ _ (⟨⟨_, rfl⟩, _⟩ | ⟨_, _, rfl⟩ | ⟨charged, _, rfl⟩)
    · exact .kept
    · exact .kept
    · exact .retried charged
  | reserveTransitionEffect intent generation digest reservedAt =>
    refine .of ((reserveTransitionEffect_cases intent generation digest reservedAt store).mono
      fun _ _ effect => ?_)
    cases effect with
    | kept => exact .kept
    | committed made => exact .reserved made

end Ananta
