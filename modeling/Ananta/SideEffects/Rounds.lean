import Ananta.SideEffects.Issuing

/-! A failed operation is authorized again and again, up to the limit on the receipts it may
have. -/

namespace Ananta

open List

variable {index count : Nat} {series : Nat → AuthorizationIntent} {ledger : Ledger}
  {record : SideEffectRecord}
  {receipt : AuthorizationReceipt} {intent : AuthorizationIntent} {digest : Str}

def effectName (index : Nat) : Str :=
  "effect" ++ (replicate (index / 32) (codePoint 'a') ++
    replicate (index % 32) (codePoint 'b'))

/-- The name of an effect determines its place in the series. -/
lemma effectName_injective {left right : Nat} (same : effectName left = effectName right) :
    left = right := by
  -- The two letters spell the quotient and the remainder in unary.
  have quotient := congrArg (count (codePoint 'a')) same
  have remainder := congrArg (count (codePoint 'b')) same
  have apart : codePoint 'a' ≠ codePoint 'b' ∧ codePoint 'b' ≠ codePoint 'a' := by decide
  simp only [effectName, count_append, count_replicate, beq_iff_eq, apart, if_true, if_false]
    at quotient remainder
  omega

/-- The names of the first effects are identities. -/
lemma isIdentity_effectName (early : index ≤ maxOperationReceipts) :
    IsIdentity (effectName index) := by
  have lead : "effect" = codePoint 'e' :: "ffect" := by decide
  have width : (text "ffect").length = 5 := by decide
  refine ⟨by decide, ?_, ?_⟩
  · show ("ffect" ++ (replicate (index / 32) (codePoint 'a') ++
      replicate (index % 32) (codePoint 'b'))).length ≤ 255
    rw [length_append, length_append, length_replicate, length_replicate, width]
    unfold maxOperationReceipts at early
    omega
  · show ("ffect" ++ (replicate (index / 32) (codePoint 'a') ++
      replicate (index % 32) (codePoint 'b'))).all _
    have letters : isAlphanumeric (codePoint 'a') ∧ isAlphanumeric (codePoint 'b') := by decide
    rw [all_append, all_append, Bool.and_eq_true, Bool.and_eq_true]
    refine ⟨by decide, ?_, ?_⟩ <;> rw [all_eq_true] <;> intro point member <;>
      rw [eq_of_mem_replicate member]
    · rw [letters.1, Bool.true_or]
    · rw [letters.2, Bool.true_or]

/-- The contents of the intents of a series, which differ in their effect and in their fence. -/
def roundContents (index : Nat) : AuthorizationTerms where
  receiptId := []
  transitionId := "transition"
  effectId := effectName index
  runtimeId := "runtime"
  tenantId := "tenant"
  workflowId := "workflow"
  runId := "run"
  stepId := "step"
  effectOrdinal := 1
  declaredOperation := "write"
  sideEffectClass := .idempotentWrite
  operationId := []
  operationPayloadDigest := replicate 64 (codePoint '0')
  operationIntentDigest := []
  operationFenceId := []
  authorizationEnvelopeId := "envelope"
  authorizationEnvelopeDigest := replicate 64 (codePoint '0')
  ownershipAttemptId := "attempt"
  ownershipFencingToken := index + 1
  creatorClaimGeneration := 1
  transitionRequestFingerprint := replicate 64 (codePoint '0')
  effectPayloadDigest := replicate 64 (codePoint '0')
  idempotencyKey := []
  plannedAt := 1

/-- Intents with the contents of a series and the identifiers derived from them. -/
def IsSeries (series : Nat → AuthorizationIntent) : Prop :=
  ∀ index ≤ maxOperationReceipts, (series index).toAuthorizationTerms =
    { roundContents index with
      receiptId := (series index).receiptId
      operationId := (series index).operationId
      operationIntentDigest := (series index).operationIntentDigest
      operationFenceId := (series index).operationFenceId
      idempotencyKey := (series index).idempotencyKey }

/-- The hashed identifiers of a series are distinct. -/
def CollisionFree (series : Nat → AuthorizationIntent) : Prop :=
  ∀ left right, left < right → right ≤ maxOperationReceipts →
    (series left).receiptId ≠ (series right).receiptId ∧
      (series left).operationFenceId ≠ (series right).operationFenceId

/-- The contents of a series can be given their identifiers. -/
lemma roundContents_plannable (early : index ≤ maxOperationReceipts) :
    (roundContents index).Plannable := by
  have fence : (1 : Int) ≤ index + 1 ∧ (index + 1 : Int) ≤ maxCounter := by
    unfold maxOperationReceipts at early
    unfold maxCounter
    omega
  -- The other contents are the same throughout the series.
  have first : (roundContents 0).Plannable := by
    constructor <;> decide +kernel
  exact
    { first with
      effectId := isIdentity_effectName early
      ownershipFencingToken := fence }

/-- There is a series. -/
lemma exists_series : ∃ series, IsSeries series := by
  -- Beyond the limit the last intent is repeated.
  have each : ∀ index, ∃ intent : AuthorizationIntent, intent.toAuthorizationTerms =
      { roundContents (min index maxOperationReceipts) with
        receiptId := intent.receiptId
        operationId := intent.operationId
        operationIntentDigest := intent.operationIntentDigest
        operationFenceId := intent.operationFenceId
        idempotencyKey := intent.idempotencyKey } := fun index =>
    exists_authorizationIntent (roundContents_plannable (Nat.min_le_right _ _))
  choose series contents using each
  refine ⟨series, fun index early => ?_⟩
  rw [contents index, Nat.min_eq_left early]

namespace IsSeries

variable {left right : Nat} (isSeries : IsSeries series)
include isSeries

/-- All intents of a series are about one operation. -/
lemma operationId (leftEarly : left ≤ maxOperationReceipts)
    (rightEarly : right ≤ maxOperationReceipts) :
    (series left).operationId = (series right).operationId ∧
      (series left).operationIntentDigest = (series right).operationIntentDigest := by
  -- The operation is derived from contents that do not change.
  have derivedLeft := (series left).derived
  have derivedRight := (series right).derived
  have operation : (series left).operationId = (series right).operationId := by
    have first := derivedLeft.operation
    have second := derivedRight.operation
    rw [isSeries left leftEarly] at first
    rw [isSeries right rightEarly] at second
    exact Except.ok.inj (first.symm.trans second)
  refine ⟨operation, ?_⟩
  have first := derivedLeft.digest
  have second := derivedRight.digest
  rw [isSeries left leftEarly] at first
  rw [isSeries right rightEarly] at second
  rw [operation] at first
  exact Except.ok.inj (first.symm.trans second)

/-- A receipt of the series describes the operation as every other intent of the series does. -/
lemma sameOperation (leftEarly : left ≤ maxOperationReceipts)
    (rightEarly : right ≤ maxOperationReceipts)
    (terms : receipt.toAuthorizationTerms = (series left).toAuthorizationTerms) :
    SameOperation (series right) receipt := by
  obtain ⟨operation, digest⟩ := isSeries.operationId leftEarly rightEarly
  have first := isSeries left leftEarly
  have second := isSeries right rightEarly
  constructor <;> rw [terms]
  · exact operation
  · exact digest
  all_goals
    rw [first, second]
    rfl

end IsSeries

/-- The first intents of a series were authorized, and nothing else was. -/
structure Issued (series : Nat → AuthorizationIntent) (count : Nat) (ledger : Ledger) : Prop where
  receipts : Receipts ledger
  known : ∀ receipt ∈ ledger.transitionAuthorizationReceipts.values,
    ∃ index < count, receipt.toAuthorizationTerms = (series index).toAuthorizationTerms
  issued : ∀ index < count, ∃ receipt ∈ ledger.transitionAuthorizationReceipts.values,
    receipt.toAuthorizationTerms = (series index).toAuthorizationTerms
  counted : (ledger.receiptsOf (series 0).operationId).length = count

structure FailedRound (count : Nat) (record : SideEffectRecord) : Prop where
  status : record.status = .failed
  revision : record.revision = 3 * count + 1
  fencingToken : record.fencingToken = count
  attemptId : record.attemptId = "attempt"
  authorizationEnvelopeId : record.authorizationEnvelopeId = "envelope"
  resultRef : record.resultRef = []
  failureCode : record.failureCode = "operation_failed"

/-- The state of a ledger after some rounds, all of which failed. -/
structure AfterRounds (series : Nat → AuthorizationIntent) (count : Nat) (ledger : Ledger) : Prop
    extends Issued series count ledger where
  record : (count = 0 ∧ ledger.records.get? (series 0).operationId = none) ∨
    0 < count ∧ ∃ record, ledger.records.get? (series 0).operationId = some record ∧
      FailedRound count record

lemma afterRounds_zero : AfterRounds series 0 .empty :=
  ⟨⟨receipts_empty, by simp [Ledger.empty, Dict.values, Dict.empty], by simp, rfl⟩, .inl ⟨rfl, rfl⟩⟩

structure AuthorizedRound (series : Nat → AuthorizationIntent) (count : Nat)
    (record : SideEffectRecord) (ledger : Ledger) :
    Prop extends Issued series (count + 1) ledger where
  found : ledger.records.get? (series 0).operationId = some record
  authorized : AuthorizedFor (series count).toAuthorizationTerms (3 * count + 2) record

variable {operationId attemptId : Str}

lemma Issued.step (issued : Issued series count ledger) {call : LedgerCall} {answer : LedgerAnswer}
    (stepped : ledgerMachine.step ledger call = (.ok answer, ledger.recorded operationId record)) :
    Issued series count (ledger.recorded operationId record) := by
  have receipts := step_receipts issued.receipts call
  rw [stepped] at receipts
  exact { issued with receipts := receipts }

def roundRequest (series : Nat → AuthorizationIntent) (count : Nat) (expectedRevision : Int) :
    OperationRequest :=
  { operationId := (series 0).operationId, expectedRevision, fencingToken := count + 1 }

/-- A record bound to an intent is carried on by a request under its own revision and fence. -/
lemma carried_of_bound {current : SideEffectRecord}
    (request : TransitionRequest) (found : ledger.records.get? operationId = some current)
    (bound : BoundTo intent.toAuthorizationTerms current)
    (schema : current.schema = sideEffectLedgerSchema)
    (revision : current.revision = request.expectedRevision)
    (fence : current.fencingToken = request.fencingToken)
    (counted : 1 ≤ current.revision ∧ 0 ≤ current.fencingToken)
    (allowed : request.toStatus ∈ current.status.transitions) (clock : Instant) :
    Carried ledger operationId request clock current (current.advanced request clock) := by
  refine ⟨found, SideEffectRecord.transition_eq_ok.mpr
    ⟨revision, le_of_eq fence, fun _ => fence.symm, allowed, ?_, rfl⟩⟩
  have kept : BoundTo intent.toAuthorizationTerms (current.advanced request clock) :=
    { bound with }
  refine kept.assertValid intent.shaped intent.derived ?_ ?_ schema
  · show 1 ≤ current.revision + 1
    omega
  · show 0 ≤ request.fencingToken
    omega

lemma Issued.resubmits (issued : Issued series count ledger) (earlier : index < count) :
    ∃ receipt ∈ ledger.transitionAuthorizationReceipts.values,
      Resubmits (series index) receipt := by
  obtain ⟨receipt, stored, terms⟩ := issued.issued index earlier
  exact ⟨receipt, stored, by rw [terms], by rw [terms]⟩

/-- Some reading of the clock. -/
def epoch : Instant := ⟨0, by decide +kernel⟩

section

variable (isSeries : IsSeries series)
include isSeries

/-- The last receipt of a series is that of its last intent. -/
lemma Issued.latest (issued : Issued series count ledger)
    (early : count ≤ maxOperationReceipts + 1) (some : 0 < count) :
    ∃ latest, (ledger.receiptsOf (series 0).operationId).getLast? = .some latest ∧
      latest ∈ ledger.transitionAuthorizationReceipts.values ∧
      latest.toAuthorizationTerms = (series (count - 1)).toAuthorizationTerms := by
  have fence : ∀ index ≤ maxOperationReceipts, (series index).ownershipFencingToken = index + 1 :=
    fun index within => congrArg AuthorizationTerms.ownershipFencingToken (isSeries index within)
  obtain ⟨receipt, stored, terms⟩ := issued.issued (count - 1) (by omega)
  have listed : receipt ∈ ledger.receiptsOf (series 0).operationId := by
    refine mem_receiptsOf.mpr ⟨stored, ?_⟩
    rw [terms]
    exact (isSeries.operationId (by omega) (Nat.zero_le _)).1
  cases last : (ledger.receiptsOf (series 0).operationId).getLast? with
  | none =>
    rw [getLast?_eq_none_iff.mp last] at listed
    cases listed
  | some latest =>
    have chain := (issued.receipts.receiptsOf_chain (series 0).operationId).isChain
    rcases authorizedBefore_last chain last receipt listed with rfl | before
    · exact ⟨receipt, rfl, stored, terms⟩
    · -- No receipt of the series has a higher fence than that of its last intent.
      obtain ⟨index, earlier, other⟩ :=
        issued.known latest (mem_receiptsOf.mp (mem_of_getLast? last)).1
      have higher := before.2
      rw [terms, other, fence _ (by omega), fence _ (by omega)] at higher
      omega

section

variable (early : count ≤ maxOperationReceipts)
include early

/-- The next intent of a series meets no opposition. -/
lemma Issued.unopposed (issued : Issued series count ledger) (free : CollisionFree series) :
    Unopposed (series count) ledger := by
  constructor
  · intro other stored named
    obtain ⟨index, earlier, terms⟩ := issued.known other stored
    obtain ⟨receiptIds, fenceIds⟩ := free index count earlier early
    rw [AuthorizationAlias, terms] at named
    rcases named with same | same | same
    · exact receiptIds same
    · -- Different places in the series have different effects.
      rw [isSeries index (by omega), isSeries count early] at same
      exact absurd (effectName_injective same) (by omega)
    · exact fenceIds same
  · intro other stored _
    obtain ⟨index, earlier, terms⟩ := issued.known other stored
    exact isSeries.sameOperation (by omega) early terms
  · rwa [(isSeries.operationId early (Nat.zero_le _)).1, issued.counted]

/-- After some rounds the next intent can be authorized. -/
lemma AfterRounds.ready (rounds : AfterRounds series count ledger) : ∃ current,
    Ready (series count) ledger current := by
  have operation := (isSeries.operationId early (Nat.zero_le _)).1
  rcases rounds.record with ⟨_, missing⟩ | ⟨started, record, found, failed⟩
  · exact ⟨none, .absent (operation ▸ missing)⟩
  obtain ⟨latest, last, stored, terms⟩ := rounds.latest isSeries (by omega) started
  have contents := isSeries (count - 1) (by omega)
  have fence : latest.ownershipFencingToken = count := by
    rw [terms, contents]
    show ((count - 1 : Nat) : Int) + 1 = count
    omega
  have next : (series count).ownershipFencingToken = count + 1 :=
    congrArg AuthorizationTerms.ownershipFencingToken (isSeries count early)
  have envelope : latest.authorizationEnvelopeId = "envelope" := by
    rw [terms, contents]
    rfl
  -- The record has moved on from the receipt, because its status is no longer the authorized one.
  have later : latest.authorizedLedgerRevision < record.revision := by
    obtain ⟨held, kept, covers⟩ := rounds.receipts.covered latest stored
    rw [(mem_receiptsOf.mp (mem_of_getLast? last)).2, found, Option.mem_some_iff] at kept
    subst kept
    refine lt_of_le_of_ne covers.revision fun same => ?_
    have status := latest.sound.record.status
    rw [← covers.snapshot same.symm, failed.status] at status
    cases status
  refine ⟨some record, .failed (operation ▸ found) failed.status ?_ ?_ ?_⟩
  · rw [operation, assertFailedReauthorization, last]
    simp only [raiseIf_eq_ok, failed.status, failed.fencingToken, fence,
      failed.authorizationEnvelopeId, envelope, failed.attemptId, failed.failureCode, next, not_or,
        not_not, not_le]
    exact ⟨trivial, trivial, trivial, by decide, later, by decide, by omega⟩
  · rw [SideEffectRecord.TextsEncodable, failed.attemptId, failed.authorizationEnvelopeId,
      failed.resultRef, failed.failureCode]
    exact ⟨encodable_text _, encodable_text _, encodable_nil, encodable_text _⟩
  · rw [failed.revision]
    unfold maxOperationReceipts at early
    unfold maxCounter
    omega

/-- Committing the next intent issues its receipt. -/
lemma Issued.next (issued : Issued series count ledger)
    (commits : AuthorizationCommits (series count) ledger record receipt) :
    Issued series (count + 1) (ledger.authorized (series count) record receipt) := by
  -- No earlier receipt is filed under the new identifier.
  have fresh : ledger.transitionAuthorizationReceipts.get? receipt.receiptId = none := by
    refine Option.eq_none_iff_forall_ne_some.mpr fun other found => ?_
    refine commits.unaliased other (mem_values.mpr ⟨_, found⟩) (.inl ?_)
    rw [← issued.receipts.filed _ other found, commits.terms]
  have values : (ledger.authorized (series count)
      record receipt).transitionAuthorizationReceipts.values =
      ledger.transitionAuthorizationReceipts.values ++ [receipt] :=
        Dict.values_set_new fresh receipt
  constructor
  · exact commits.receipts issued.receipts
  · intro other stored
    rw [values, mem_append, mem_singleton] at stored
    rcases stored with earlier | rfl
    · obtain ⟨index, less, terms⟩ := issued.known other earlier
      exact ⟨index, by omega, terms⟩
    · exact ⟨count, by omega, commits.terms⟩
  · intro index less
    rw [values]
    rcases Nat.lt_succ_iff_lt_or_eq.mp less with earlier | rfl
    · obtain ⟨other, stored, terms⟩ := issued.issued index earlier
      exact ⟨other, mem_append_left _ stored, terms⟩
    · exact ⟨receipt, mem_append_right _ mem_cons_self, commits.terms⟩
  · have operation : receipt.operationId = (series 0).operationId := by
      rw [commits.terms]
      exact (isSeries.operationId early (Nat.zero_le _)).1
    have counted := issued.counted
    rw [Ledger.receiptsOf, length_insertionSort] at counted
    rw [Ledger.receiptsOf, length_insertionSort, values, filter_append, length_append,
      counted, filter_cons_of_pos (by simpa using operation)]
    rfl

/-- After some rounds the next intent is authorized. -/
lemma AfterRounds.authorize (rounds : AfterRounds series count ledger)
    (unopposed : Unopposed (series count) ledger) :
    ∃ digest record, AuthorizedRound series count record
      (ledgerMachine.step ledger (.authorizeTransitionEffect (series count) digest)).2 := by
  obtain ⟨current, ready⟩ := rounds.ready isSeries early
  obtain ⟨digest, record, receipt, made, stepped⟩ := ready.authorizes rounds.receipts unopposed
  have commits := made.commits
  have operation := (isSeries.operationId early (Nat.zero_le _)).1
  refine ⟨digest, record, ?_⟩
  rw [stepped]
  refine ⟨rounds.next isSeries early commits, ?_, ?_⟩
  · rw [← operation]
    exact get?_set_self _ _ _
  · -- The receipt describes the record, and the revision counts on from the failed one.
    have described := receipt.sound.record
    rw [commits.terms, commits.authorizedRecord, commits.revision] at described
    have revision : record.revision = 3 * count + 2 := by
      obtain ⟨planned, authorizable, rfl⟩ := commits.authorizable
      show planned.revision + 1 = _
      cases authorizable with
      | absent missing _ made =>
        obtain ⟨_, _, _, pristine, _⟩ := newRecord_spec made
        rcases rounds.record with ⟨rfl, _⟩ | ⟨_, record, found, _⟩
        · rw [pristine.2.1]
          rfl
        · rw [← operation, missing] at found
          cases found
      | planned found _ pristine _ =>
        rcases rounds.record with ⟨_, missing⟩ | ⟨_, record, held, failed⟩
        · rw [← operation, found] at missing
          cases missing
        · rw [← operation, found] at held
          cases held
          have status := failed.status
          rw [pristine.1] at status
          cases status
      | failed found =>
        rcases rounds.record with ⟨_, missing⟩ | ⟨_, record, held, failed⟩
        · rw [← operation, found] at missing
          cases missing
        · rw [← operation, found] at held
          cases held
          rw [failed.revision]
          omega
    rwa [revision] at described

variable (clock : Instant)

/-- An authorized round is granted to any named attempt. -/
lemma AuthorizedRound.claim (round : AuthorizedRound series count record ledger)
    (named : attemptId ≠ []) :
    ledgerMachine.step ledger (.claim (roundRequest series count (3 * count + 2)) attemptId clock) =
      (.ok (.claim ⟨record.advanced ((roundRequest series count (3 * count + 2)).starting attemptId)
        clock, true, .acquired⟩), ledger.recorded (series 0).operationId
          (record.advanced ((roundRequest series count (3 * count + 2)).starting attemptId)
            clock)) := by
  have authorized := round.authorized
  have fence : record.fencingToken = count + 1 := by
    rw [authorized.fencingToken, isSeries count early]
    rfl
  refine claim_run named authorized.status (carried_of_bound _ round.found authorized.toBoundTo
    authorized.schema authorized.revision fence ?_ ?_ clock)
  · rw [authorized.revision, fence]
    omega
  · rw [authorized.status]
    exact mem_cons_self

/-- A round that was granted to its attempt and failed is over. -/
lemma AuthorizedRound.fail (round : AuthorizedRound series count record ledger) :
    AfterRounds series (count + 1) (ledgerMachine.after ledger
      [.claim (roundRequest series count (3 * count + 2)) "attempt" clock,
        .fail (roundRequest series count (3 * count + 3)) (text "attempt") [] clock]) := by
  have authorized := round.authorized
  have claimed := round.claim isSeries early clock (show text "attempt" ≠ [] by decide)
  have held := round.toIssued.step claimed
  rw [Machine.after_cons, claimed, Machine.after_cons, Machine.after_nil]
  -- The record between the claim and the failure.
  let current := record.advanced ((roundRequest series count (3 * count + 2)).starting "attempt")
    clock
  have revision : current.revision = 3 * count + 3 := by
    show record.revision + 1 = _
    rw [authorized.revision]
    omega
  have attempt : current.attemptId = "attempt" := by
    show orElse "attempt" record.attemptId = _
    exact if_neg (by decide)
  have bound : BoundTo (series count).toAuthorizationTerms current :=
    { authorized with }
  have stored : (ledger.recorded (series 0).operationId current).records.get?
      (series 0).operationId = some current := get?_set_self _ _ _
  have carried : Carried _ (roundRequest series count (3 * count + 3)).operationId _ clock
    current _ :=
    carried_of_bound ((roundRequest series count (3 * count + 3)).finishing .failed "attempt" []
      (orElse [] "operation_failed")) stored bound authorized.schema revision rfl
    (by rw [revision]; exact ⟨by omega, show 0 ≤ (count : Int) + 1 by omega⟩)
    (mem_cons_of_mem _ mem_cons_self) clock
  have failing := fail_run attempt carried
  have ended := held.step failing
  rw [failing]
  refine ⟨ended, .inr ⟨by omega, _, get?_set_self _ _ _, ?_⟩⟩
  exact
    { status := rfl
      revision := by
        show current.revision + 1 = _
        omega
      fencingToken := by
        rfl
      attemptId := by
        show orElse "attempt" current.attemptId = _
        exact if_neg (by decide)
      authorizationEnvelopeId := by
        show orElse [] (orElse [] record.authorizationEnvelopeId) = _
        rw [authorized.authorizationEnvelopeId, isSeries count early]
        rfl
      resultRef := by
        show orElse [] (orElse [] record.resultRef) = _
        rw [authorized.resultRef]
        rfl
      failureCode := rfl }

end

/-- Every number of rounds up to the limit can be reached. -/
lemma exists_rounds (free : CollisionFree series) :
    ∀ count ≤ maxOperationReceipts + 1, ∃ calls, AfterRounds series count
      (ledgerMachine.after ledgerMachine.initial calls) := by
  intro count
  induction count with
  | zero => exact fun _ => ⟨[], afterRounds_zero⟩
  | succ count ih =>
    intro early
    -- One more round is authorized, granted and failed.
    obtain ⟨calls, rounds⟩ := ih (by omega)
    obtain ⟨digest, record, round⟩ := rounds.authorize isSeries (by omega)
      (rounds.unopposed isSeries (by omega) free)
    have ended := round.fail isSeries (by omega) epoch
    rw [← Machine.after_cons, ← Machine.after_append] at ended
    exact ⟨_, ended⟩

lemma exists_first_round : ∃ digest record, AuthorizedRound series 0 record
      (ledgerMachine.after ledgerMachine.initial
        [.authorizeTransitionEffect (series 0) digest]) := by
  -- No receipt can oppose the first one.
  have unopposed : Unopposed (series 0) .empty :=
    ⟨by simp [Ledger.empty, Dict.values, Dict.empty], by simp [Ledger.empty, Dict.values,
      Dict.empty], by simp [Ledger.receiptsOf, Ledger.empty, Dict.values, Dict.empty]⟩
  exact afterRounds_zero.authorize isSeries (Nat.zero_le _) unopposed

/-- The first intent of a series is authorized on a new ledger and granted to any named attempt. -/
lemma exists_claimed_round (named : attemptId ≠ []) : ∃ digest record,
      let ledger := ledgerMachine.after ledgerMachine.initial
        [.authorizeTransitionEffect (series 0) digest,
          .claim (roundRequest series 0 (3 * (0 : Nat) + 2)) attemptId epoch]
      Issued series 1 ledger ∧ ledger.records.get? (series 0).operationId = some record ∧
        record.status = .started ∧ record.attemptId = attemptId ∧
        record.authorizationEnvelopeId = "envelope" ∧ record.resultRef = [] ∧
        record.failureCode = [] := by
  obtain ⟨digest, record, round⟩ := exists_first_round isSeries
  have authorized := round.authorized
  have claimed := round.claim isSeries (Nat.zero_le _) epoch named
  have issued := round.toIssued.step claimed
  have reached : ledgerMachine.after ledgerMachine.initial
      [.authorizeTransitionEffect (series 0) digest,
        .claim (roundRequest series 0 (3 * (0 : Nat) + 2)) attemptId epoch] =
          _ := congrArg Prod.snd claimed
  refine ⟨digest, record.advanced ((roundRequest series 0 (3 * (0 : Nat) + 2)).starting attemptId)
    epoch, ?_⟩
  rw [reached]
  refine ⟨issued, get?_set_self _ _ _, rfl, if_neg named, ?_, authorized.resultRef, rfl⟩
  show orElse [] record.authorizationEnvelopeId = _
  rw [authorized.authorizationEnvelopeId, isSeries 0 (Nat.zero_le _)]
  rfl

end

/-- An authorization whose observation raises is refused. -/
lemma refused_of_observation {fault : Fault} (wellFormed : IsSha256 digest)
    (raised : observeTransitionAuthorization intent ledger = .error fault) :
    ledgerMachine.step ledger (.authorizeTransitionEffect intent digest) =
      (.error fault, ledger) := by
  have accepted : authorizationSha256 digest "expected_observation_digest" = .ok digest :=
    authorizationField_eq_ok.mpr ⟨wellFormed, rfl⟩
  have refused : authorizeTransitionEffect intent digest ledger = (.error fault, ledger) := by
    refine (Call.run_evaluate accepted _ ledger).trans ?_
    exact Call.run_evaluate_raised raised _ ledger
  rw [step_authorize, refused]
  rfl

/-- No observation is made over more receipts than the limit allows. -/
lemma observe_over_limit
    (many : maxOperationReceipts < (ledger.receiptsOf intent.operationId).length) :
    observeTransitionAuthorization intent ledger =
      .error (authorizationConflict "history_limit") := by
  -- The receipts of the operation are among the relevant ones.
  have relevant : maxOperationReceipts < (transitionAuthorizationRelevantReceipts intent
      ledger.transitionAuthorizationReceipts.values).length := by
    rw [Ledger.receiptsOf, length_insertionSort] at many
    refine lt_of_lt_of_le many (Sublist.length_le (monotone_filter_right _ ?_))
    intro other same
    simp only [decide_eq_true_eq] at same ⊢
    exact .inl same
  rw [observeTransitionAuthorization, transitionAuthorizationObservation, raiseIf, if_pos relevant]
  rfl

/-- No observation is made of a record that holds a text which cannot be encoded. -/
lemma observe_unencodable (found : ledger.records.get? intent.operationId = some record)
    (unencodable : ¬ Encodable record.attemptId) :
    ∃ fault, observeTransitionAuthorization intent ledger = .error fault := by
  cases observed : observeTransitionAuthorization intent ledger with
  | error fault => exact ⟨fault, rfl⟩
  | ok observation =>
    -- The record would have been hashed, so that all its texts could be encoded.
    exfalso
    simp only [observeTransitionAuthorization, transitionAuthorizationObservation, found,
      bind_eq_ok] at observed
    obtain ⟨_, _, _, _, _, _, _, _, _, _, _, _, _, hashed, _⟩ := observed
    obtain ⟨_, _, _, _, _, _, _, recorded, _⟩ := plain_of_namespacedDigest hashed
    obtain ⟨_, _, _, _, _, _, _, _, _, _, _, _, _, _, _, _, _, _, _, _, _, _, _, attempt, _⟩ :
      Value.PlainFields _ := recorded
    exact unencodable attempt

/-- In every run the receipts of an operation rise in revision and in fence, no two receipts share
an identifier, and no record falls behind a receipt. An intent is answered from its receipt as long
as the texts of the record can be encoded and the operation has no more receipts than the limit
allows. -/
theorem authorization_receipts (calls : List LedgerCall) :
    let ledger := ledgerMachine.after ledgerMachine.initial calls
    (∀ operationId, (ledger.receiptsOf operationId).Pairwise AuthorizedBefore) ∧
    (ledger.transitionAuthorizationReceipts.values.Pairwise fun left right =>
      ¬ SharesIdentifier left right) ∧
    (∀ receipt ∈ ledger.transitionAuthorizationReceipts.values,
      ∃ record ∈ ledger.records.get? receipt.operationId,
        receipt.authorizedLedgerRevision ≤ record.revision) ∧
    (∀ receipt ∈ ledger.transitionAuthorizationReceipts.values, ∀ intent digest,
      Resubmits intent receipt → IsSha256 digest →
      (∀ record ∈ ledger.records.get? receipt.operationId, record.TextsEncodable) →
      (ledger.receiptsOf receipt.operationId).length ≤ maxOperationReceipts →
      ledgerMachine.step ledger (.authorizeTransitionEffect intent digest) =
        (.ok (.receipt receipt), ledger)) := by
  intro ledger
  have receipts : Receipts ledger := after_receipts calls
  refine ⟨receipts.receiptsOf_chain, receipts.pairwise_apart, ?_, ?_⟩
  · intro receipt issued
    obtain ⟨record, found, covers⟩ := receipts.covered receipt issued
    exact ⟨record, found, covers.revision⟩
  · intro receipt issued intent digest resubmits wellFormed texts few
    rw [resubmits.operationId] at texts few
    rw [step_authorize, resubmits.replay receipts issued texts few wellFormed]
    rfl

/-- A receipt is answered again after an attempt was granted the operation. -/
theorem authorization_receipts_after_claim :
    ∃ (intent : AuthorizationIntent) (digest : Str) (request : OperationRequest)
      (receipt : AuthorizationReceipt),
      let ledger := ledgerMachine.after ledgerMachine.initial
        [.authorizeTransitionEffect intent digest, .claim request "attempt" epoch]
      (∃ record ∈ ledger.records.get? intent.operationId, record.status = .started) ∧
      ledgerMachine.step ledger (.authorizeTransitionEffect intent (replicate 64 (codePoint '0'))) =
        (.ok (.receipt receipt), ledger) := by
  obtain ⟨series, isSeries⟩ := exists_series
  obtain ⟨digest, record, issued, found, status, attempt, envelope, others⟩ :=
    exists_claimed_round isSeries (show text "attempt" ≠ [] by decide)
  obtain ⟨receipt, stored, resubmits⟩ := issued.resubmits (show 0 < 1 by decide)
  refine ⟨series 0, digest, _, receipt, ⟨record, found, status⟩, ?_⟩
  refine (authorization_receipts _).2.2.2 receipt stored _ _ resubmits (by decide) ?_ ?_
  · rw [resubmits.operationId]
    intro held kept
    rw [found, Option.mem_some_iff] at kept
    subst kept
    rw [SideEffectRecord.TextsEncodable, attempt, envelope, others.1, others.2]
    exact ⟨encodable_text _, encodable_text _, encodable_nil, encodable_nil⟩
  · rw [resubmits.operationId, issued.counted]
    decide

/-- An intent is not answered from its receipt when its operation has more receipts than the limit
allows, when an attempt under a name that cannot be encoded was granted the operation, or when the
expected digest is malformed. -/
theorem authorization_replay_refused : (∃ series, IsSeries series ∧ (CollisionFree series → ∃ calls,
      let ledger := ledgerMachine.after ledgerMachine.initial calls
      ∀ index ≤ maxOperationReceipts, ∃ receipt ∈ ledger.transitionAuthorizationReceipts.values,
        Resubmits (series index) receipt ∧ ∀ digest, IsSha256 digest →
          ledgerMachine.step ledger (.authorizeTransitionEffect (series index) digest) =
            (.error (authorizationConflict "history_limit"), ledger))) ∧
    (∃ intent digest request, ∃ receipt,
      let ledger := ledgerMachine.after ledgerMachine.initial
        [.authorizeTransitionEffect intent digest, .claim request [surrogate] epoch]
      receipt ∈ ledger.transitionAuthorizationReceipts.values ∧ Resubmits intent receipt ∧
        ∃ fault, ∀ digest, IsSha256 digest →
          ledgerMachine.step ledger (.authorizeTransitionEffect intent digest) =
            (.error fault, ledger)) ∧
    (∀ ledger intent digest, ¬ IsSha256 digest →
      ledgerMachine.step ledger (.authorizeTransitionEffect intent digest) =
        (.error (authorizationInvalid "expected_observation_digest_invalid"), ledger)) := by
  obtain ⟨series, isSeries⟩ := exists_series
  refine ⟨⟨series, isSeries, fun free => ?_⟩, ?_, ?_⟩
  · -- One round more than the limit leaves one receipt too many.
    obtain ⟨calls, rounds⟩ := exists_rounds isSeries free (maxOperationReceipts + 1) le_rfl
    refine ⟨calls, fun index within => ?_⟩
    obtain ⟨receipt, stored, resubmits⟩ := rounds.resubmits (Nat.lt_succ_of_le within)
    refine ⟨receipt, stored, resubmits, fun digest wellFormed => ?_⟩
    refine refused_of_observation wellFormed (observe_over_limit ?_)
    rw [(isSeries.operationId within (Nat.zero_le _)).1, rounds.counted]
    exact Nat.lt_succ_self _
  · obtain ⟨digest, record, issued, found, _, attempt, _⟩ :=
      exists_claimed_round isSeries (show [surrogate] ≠ [] by decide)
    obtain ⟨receipt, stored, resubmits⟩ := issued.resubmits (show 0 < 1 by decide)
    have unencodable : ¬ Encodable record.attemptId := by
      rw [attempt]
      decide
    obtain ⟨fault, raised⟩ := observe_unencodable found unencodable
    exact ⟨series 0, digest, _, receipt, stored, resubmits, fault,
      fun digest wellFormed => refused_of_observation wellFormed raised⟩
  · intro ledger intent digest malformed
    have rejected : authorizationSha256 digest "expected_observation_digest" =
        .error (authorizationInvalid "expected_observation_digest_invalid") := by
      rw [authorizationSha256, authorizationField, raiseIf, if_pos malformed]
      rfl
    have refused : authorizeTransitionEffect intent digest ledger =
        (.error (authorizationInvalid "expected_observation_digest_invalid"), ledger) :=
      Call.run_evaluate_raised rejected _ ledger
    rw [step_authorize, refused]
    rfl

end Ananta
