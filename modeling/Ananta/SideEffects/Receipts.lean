import Ananta.SideEffects.LedgerLaws

/-! Authorization receipts stay ordered, distinct and replayable in every run of the ledger. -/

namespace Ananta

open List

variable {ledger : Ledger} {intent : AuthorizationIntent} {receipt other : AuthorizationReceipt}

section

/-- What the record of an operation keeps of an authorization, whatever its progress. -/
structure Covers (record : SideEffectRecord) (receipt : AuthorizationReceipt) : Prop
    extends BoundTo receipt.toAuthorizationTerms record where
  revision : receipt.authorizedLedgerRevision ≤ record.revision
  snapshot : record.revision = receipt.authorizedLedgerRevision → record = receipt.authorizedRecord
  schema : record.schema = sideEffectLedgerSchema
  finite : record.updatedAt.IsFinite

def SharesIdentifier (left right : AuthorizationReceipt) : Prop :=
  left.receiptId = right.receiptId ∨ left.effectId = right.effectId ∨
    left.operationFenceId = right.operationFenceId

/-- Two receipts describe one operation, and one of them was authorized before the other. -/
structure SameHistory (left right : AuthorizationReceipt) : Prop where
  ordered : left = right ∨ AuthorizedBefore left right ∨ AuthorizedBefore right left
  operationIntentDigest : left.operationIntentDigest = right.operationIntentDigest
  operationPayloadDigest : left.operationPayloadDigest = right.operationPayloadDigest

structure Receipts (ledger : Ledger) : Prop where
  filed : ∀ key receipt, ledger.transitionAuthorizationReceipts.get? key = some receipt →
    key = receipt.receiptId
  covered : ∀ receipt ∈ ledger.transitionAuthorizationReceipts.values,
    ∃ record ∈ ledger.records.get? receipt.operationId, Covers record receipt
  distinct : ∀ left ∈ ledger.transitionAuthorizationReceipts.values,
    ∀ right ∈ ledger.transitionAuthorizationReceipts.values, SharesIdentifier left right →
      left = right
  histories : ∀ left ∈ ledger.transitionAuthorizationReceipts.values,
    ∀ right ∈ ledger.transitionAuthorizationReceipts.values, left.operationId = right.operationId →
      SameHistory left right

lemma receipts_empty : Receipts .empty :=
  ⟨by simp [Ledger.empty], by simp [Ledger.empty, Dict.values, Dict.empty],
    by simp [Ledger.empty, Dict.values, Dict.empty], by simp [Ledger.empty, Dict.values,
      Dict.empty]⟩

lemma AuthorizationReceipt.covers (receipt : AuthorizationReceipt) :
    Covers receipt.authorizedRecord receipt := by
  -- The receipt's own check binds the record to its terms.
  have sound := receipt.sound
  refine ⟨sound.record.toBoundTo, le_of_eq sound.record.revision.symm, fun _ => rfl,
    sound.record.schema, ?_⟩
  rw [sound.record.updatedAt]
  exact sound.shaped.plannedAt.1

variable {operationId : Str} {record : SideEffectRecord}

/-- A transition leads to a record that still covers the receipt. -/
lemma Carried.covers {request : TransitionRequest} {clock : Instant}
    {current updated : SideEffectRecord}
    (carried : Carried ledger operationId request clock current updated)
    (covers : Covers current receipt) : Covers updated receipt := by
  -- The revision moves past that of the receipt, so the snapshot is no longer compared.
  obtain ⟨_, _, _, _, _, rfl⟩ := SideEffectRecord.transition_eq_ok.mp carried.moved
  have later := covers.revision
  exact
    { toBoundTo := { covers with }
      revision := show _ ≤ current.revision + 1 by omega
      snapshot := fun same => absurd same (show current.revision + 1 ≠ _ by omega)
      schema := covers.schema
      finite := clock.property }

/-- Writing a record keeps the receipts, if it covers those of its operation. -/
lemma Receipts.recorded (receipts : Receipts ledger)
    (covers : ∀ receipt ∈ ledger.transitionAuthorizationReceipts.values,
      receipt.operationId = operationId → Covers record receipt) :
    Receipts (ledger.recorded operationId record) := by
  refine { receipts with covered := ?_ }
  -- Only the record of the written operation changes.
  intro receipt issued
  rw [Ledger.recorded, get?_set]
  split
  · rename_i same
    exact ⟨record, rfl, covers receipt issued same⟩
  · exact receipts.covered receipt issued

/-- The receipts after an authorization are the earlier ones and its own. -/
lemma mem_authorized (issued :
    other ∈ (ledger.authorized intent record receipt).transitionAuthorizationReceipts.values) :
    other = receipt ∨ other ∈ ledger.transitionAuthorizationReceipts.values := by
  -- A receipt is found under the key just written or under an earlier one.
  obtain ⟨key, found⟩ := mem_values.mp issued
  rw [Ledger.authorized, get?_set] at found
  split at found
  · cases found
    exact .inl rfl
  · exact .inr (mem_values.mpr ⟨key, found⟩)

namespace AuthorizationCommits

variable (commits : AuthorizationCommits intent ledger record receipt)
  (issued : other ∈ ledger.transitionAuthorizationReceipts.values)
  (same : other.operationId = intent.operationId)
include commits issued same

/-- An authorization comes after all earlier ones of its operation. -/
lemma after_earlier : AuthorizedBefore other receipt := by
  obtain ⟨planned, authorizable, advanced⟩ := commits.authorizable
  have fence : receipt.ownershipFencingToken = intent.ownershipFencingToken := by rw [commits.terms]
  have revision : receipt.authorizedLedgerRevision = planned.revision + 1 := by
    rw [commits.revision, advanced]
    rfl
  rw [AuthorizedBefore, fence, revision]
  -- Only a failed operation has earlier receipts, and the last of them bounds the others.
  cases authorizable with
  | absent _ unissued => exact absurd same (unissued other issued)
  | planned _ _ _ unissued => exact absurd same (unissued other issued)
  | failed _ _ _ _ _ last _ later higher =>
    rcases last other issued same with rfl | before
    · exact ⟨by omega, higher⟩
    · exact ⟨before.1.trans (by omega), before.2.trans higher⟩

/-- The authorized record covers all earlier receipts of its operation. -/
lemma covers_earlier : Covers record other := by
  have before := (commits.after_earlier issued same).1
  have history := commits.history other issued same
  have covers := receipt.covers
  have bound := covers.toBoundTo
  rw [commits.authorizedRecord, commits.terms] at bound
  rw [commits.authorizedRecord] at covers
  rw [commits.revision] at before
  exact
    { toBoundTo := ⟨bound.operationId.trans history.operationId.symm,
        bound.tenantId.trans history.tenantId.symm, bound.workflowId.trans history.workflowId.symm,
        bound.runId.trans history.runId.symm, bound.stepId.trans history.stepId.symm,
        bound.declaredOperation.trans history.declaredOperation.symm,
        bound.sideEffectClass.trans history.sideEffectClass.symm⟩
      revision := le_of_lt before
      snapshot := fun same => absurd same (by omega)
      schema := covers.schema
      finite := covers.finite }

omit issued same in
/-- An authorization keeps what is known of the receipts and adds its own. -/
lemma receipts (receipts : Receipts ledger) :
    Receipts (ledger.authorized intent record receipt) := by
  have operation : receipt.operationId = intent.operationId := by rw [commits.terms]
  have covered := commits.authorizedRecord ▸ receipt.covers
  -- No earlier receipt shares an identifier with the new one.
  have apart : ∀ other ∈ ledger.transitionAuthorizationReceipts.values,
      ¬ SharesIdentifier other receipt := by
    intro other issued shares
    rw [SharesIdentifier, commits.terms] at shares
    exact commits.unaliased other issued shares
  -- The new receipt continues the history of every earlier one.
  have continues : ∀ other ∈ ledger.transitionAuthorizationReceipts.values,
      other.operationId = receipt.operationId → SameHistory other receipt := by
    intro other issued same
    have history := commits.history other issued (same.trans operation)
    refine ⟨.inr (.inl (commits.after_earlier issued (same.trans operation))), ?_, ?_⟩
    · rw [commits.terms]
      exact history.operationIntentDigest
    · rw [commits.terms]
      exact history.operationPayloadDigest
  constructor
  · intro key other found
    rw [Ledger.authorized, get?_set] at found
    split at found
    · cases found
      assumption
    · exact receipts.filed key other found
  · intro other issued
    rw [Ledger.authorized, get?_set]
    rcases mem_authorized issued with rfl | earlier
    · exact ⟨record, by rw [if_pos operation]; rfl, covered⟩
    · split
      · rename_i same
        exact ⟨record, rfl, commits.covers_earlier earlier same⟩
      · exact receipts.covered other earlier
  · intro left leftIssued right rightIssued shares
    rcases mem_authorized leftIssued with rfl | leftEarlier <;>
      rcases mem_authorized rightIssued with rfl | rightEarlier
    · rfl
    · exact absurd (shares.imp Eq.symm (Or.imp Eq.symm Eq.symm)) (apart right rightEarlier)
    · exact absurd shares (apart left leftEarlier)
    · exact receipts.distinct left leftEarlier right rightEarlier shares
  · intro left leftIssued right rightIssued same
    rcases mem_authorized leftIssued with rfl | leftEarlier <;>
      rcases mem_authorized rightIssued with rfl | rightEarlier
    · exact ⟨.inl rfl, rfl, rfl⟩
    · have history := continues right rightEarlier same.symm
      exact ⟨history.ordered.imp Eq.symm Or.symm, history.operationIntentDigest.symm,
        history.operationPayloadDigest.symm⟩
    · exact continues left leftEarlier same
    · exact receipts.histories left leftEarlier right rightEarlier same

end AuthorizationCommits

/-- Every call keeps what is known of the receipts. -/
lemma step_receipts (receipts : Receipts ledger) (call : LedgerCall) :
    Receipts (ledgerMachine.step ledger call).2 := by
  have effect := ledger_effect ledger call
  generalize ledgerMachine.step ledger call = stepped at effect ⊢
  obtain ⟨_, _⟩ := stepped
  cases effect with
  | kept => exact receipts
  | planned made absent =>
    -- An operation that is not on file has no receipts.
    refine receipts.recorded fun receipt issued same => ?_
    obtain ⟨record, found, _⟩ := receipts.covered receipt issued
    rw [same, absent] at found
    cases found
  | carried asks carried =>
    refine receipts.recorded fun receipt issued same => ?_
    obtain ⟨record, found, covers⟩ := receipts.covered receipt issued
    rw [same, carried.found] at found
    cases found
    exact carried.covers covers
  | authorized made => exact made.commits.receipts receipts

lemma after_receipts (calls : List LedgerCall) :
    Receipts (ledgerMachine.after ledgerMachine.initial calls) :=
  ledgerMachine.after_of_step Receipts (fun _ call receipts => step_receipts receipts call) calls _
    receipts_empty

end

/-- The receipts of one operation, ordered by the revision they authorized. -/
def Ledger.receiptsOf (ledger : Ledger) (operationId : Str) : List AuthorizationReceipt :=
  (ledger.transitionAuthorizationReceipts.values.filter (·.operationId = operationId)).insertionSort
    AuthorizedAtMost

/-- Receipts are totally ordered by revision and identifier. -/
instance : Std.Total AuthorizedAtMost where
  total left right := by
    rcases lt_trichotomy left.authorizedLedgerRevision right.authorizedLedgerRevision with
      less | same | more
    · exact .inl (.inl less)
    · exact (le_total left.receiptId right.receiptId).imp (.inr ⟨same, ·⟩) (.inr ⟨same.symm, ·⟩)
    · exact .inr (.inl more)

instance : IsTrans AuthorizationReceipt AuthorizedAtMost where
  trans first second third := by
    -- A strict step on either side makes the whole strict.
    rintro (less | ⟨same, least⟩) (more | ⟨equal, most⟩)
    · exact .inl (less.trans more)
    · exact .inl (equal ▸ less)
    · exact .inl (same ▸ more)
    · exact .inr ⟨same.trans equal, least.trans most⟩

lemma mem_receiptsOf {operationId : Str} :
    receipt ∈ ledger.receiptsOf operationId ↔
      receipt ∈ ledger.transitionAuthorizationReceipts.values ∧
        receipt.operationId = operationId := by
  simp only [Ledger.receiptsOf, (perm_insertionSort _ _).mem_iff, mem_filter, decide_eq_true_eq]

section

variable (named : ∀ other ∈ ledger.transitionAuthorizationReceipts.values,
    AuthorizationAlias intent other → other.operationId = intent.operationId)
include named

lemma relevantReceipts_eq :
    transitionAuthorizationRelevantReceipts intent ledger.transitionAuthorizationReceipts.values =
      ledger.transitionAuthorizationReceipts.values.filter
        (·.operationId = intent.operationId) := by
  refine filter_congr fun other stored => ?_
  rw [decide_eq_decide, or_iff_left_iff_imp]
  exact named other stored

lemma operationReceipts_eq :
    operationReceiptsOf intent (transitionAuthorizationRelevantReceipts intent
      ledger.transitionAuthorizationReceipts.values) = ledger.receiptsOf intent.operationId := by
  rw [relevantReceipts_eq named, operationReceiptsOf, Ledger.receiptsOf, filter_filter]
  simp only [Bool.and_self]

end

namespace Receipts

variable (receipts : Receipts ledger)
include receipts

/-- The receipts are filed under their own identifiers, which are therefore distinct. -/
lemma receiptIds_nodup :
    (ledger.transitionAuthorizationReceipts.values.map (·.receiptId)).Nodup := by
  have keys : ledger.transitionAuthorizationReceipts.values.map (·.receiptId) =
      ledger.transitionAuthorizationReceipts.keys := by
    rw [Dict.values, Dict.keys, map_map]
    refine map_congr_left fun entry member => ?_
    exact (receipts.filed entry.1 entry.2 (get?_eq_some_iff.mpr member)).symm
  rw [keys]
  exact ledger.transitionAuthorizationReceipts.distinct

lemma pairwise_apart : ledger.transitionAuthorizationReceipts.values.Pairwise fun left right =>
      ¬ SharesIdentifier left right := by
  -- Receipts at different places have different identifiers, so sharing one would make them equal.
  have nodup := receipts.receiptIds_nodup
  rw [Nodup, pairwise_map] at nodup
  refine nodup.imp_of_mem fun {left right} leftIssued rightIssued differ shares => differ ?_
  rw [receipts.distinct left leftIssued right rightIssued shares]

/-- The ordered receipts of an operation rise in revision and in fence. -/
lemma receiptsOf_chain (operationId : Str) :
    (ledger.receiptsOf operationId).Pairwise AuthorizedBefore := by
  have sorted : (ledger.receiptsOf operationId).Pairwise AuthorizedAtMost :=
    pairwise_insertionSort AuthorizedAtMost _
  have nodup : (ledger.receiptsOf operationId).Nodup :=
    (perm_insertionSort _ _).nodup_iff.mpr ((receipts.receiptIds_nodup.of_map _).filter _)
  -- Of two different receipts the one that comes first in the order was authorized first.
  refine (sorted.and nodup).imp_of_mem fun {left right} leftListed rightListed related => ?_
  obtain ⟨leftIssued, leftNamed⟩ := mem_receiptsOf.mp leftListed
  obtain ⟨rightIssued, rightNamed⟩ := mem_receiptsOf.mp rightListed
  rcases (receipts.histories left leftIssued right rightIssued
    (leftNamed.trans rightNamed.symm)).ordered with same | before | after
  · exact absurd same related.2
  · exact before
  · have reversed := after.1
    rcases related.1 with less | ⟨equal, _⟩ <;> omega

end Receipts

/-- An intent asks again for what a receipt was issued for, under the same or a later generation. -/
structure Resubmits (intent : AuthorizationIntent) (receipt : AuthorizationReceipt) : Prop where
  terms : receipt.toAuthorizationTerms =
    { intent.toAuthorizationTerms with creatorClaimGeneration := receipt.creatorClaimGeneration }
  generation : receipt.creatorClaimGeneration ≤ intent.creatorClaimGeneration

lemma assertReceiptMatchesIntent_eq_ok :
    assertReceiptMatchesIntent intent receipt = .ok () ↔ Resubmits intent receipt := by
  simp only [assertReceiptMatchesIntent, ok_iff, not_not, not_lt]
  constructor
  · rintro ⟨_, terms, generation⟩
    exact ⟨terms, generation⟩
  · rintro ⟨terms, generation⟩
    exact ⟨(), terms, generation⟩

/-- What an observation found can be hashed if the record that it found can be serialized. -/
lemma authorizationObservationDigest_ok (intent : AuthorizationIntent)
    (candidate : Option AuthorizationReceipt) (operationReceipts : List AuthorizationReceipt)
    {record : Option SideEffectRecord} (plain : ∀ found ∈ record, found.toDict.Plain) :
    ∃ digest, authorizationObservationDigest intent candidate operationReceipts record =
      .ok digest ∧ IsSha256 digest := by
  -- Intents and receipts are plain, and so is the absence of a receipt or a record.
  have listed : ∀ receipts : List AuthorizationReceipt,
      Value.PlainItems (receipts.map (·.toDict)) := by
    intro receipts
    induction receipts with
    | nil => trivial
    | cons first rest ih => exact ⟨first.plain, ih⟩
  have held : Value.Plain ((candidate.map (·.toDict)).getD .none) := by
    cases candidate with
    | none => trivial
    | some receipt => exact receipt.plain
  have recorded : Value.Plain ((record.map (·.toDict)).getD .none) := by
    cases record with
    | none => trivial
    | some found => exact plain found rfl
  refine namespacedDigest_ok ?_ _
  exact ⟨encodable_text _, intent.plain, encodable_text _, held, encodable_text _,
    listed operationReceipts, encodable_text _, recorded, trivial⟩

namespace Resubmits

variable (resubmits : Resubmits intent receipt)
include resubmits

lemma operationId : receipt.operationId = intent.operationId := by rw [resubmits.terms]

lemma alias_iff (other : AuthorizationReceipt) :
    AuthorizationAlias intent other ↔ SharesIdentifier other receipt := by
  rw [AuthorizationAlias, SharesIdentifier, resubmits.terms]

variable (receipts : Receipts ledger)
  (issued : receipt ∈ ledger.transitionAuthorizationReceipts.values)
include receipts issued

lemma alias_operation : ∀ other ∈ ledger.transitionAuthorizationReceipts.values,
    AuthorizationAlias intent other → other.operationId = intent.operationId := by
  intro other stored named
  rw [receipts.distinct other stored receipt issued ((resubmits.alias_iff other).mp named),
    resubmits.operationId]

/-- The receipt of a resubmitted intent is found. -/
lemma candidate : candidateReceipt intent (transitionAuthorizationRelevantReceipts intent
      ledger.transitionAuthorizationReceipts.values) = .ok (some receipt) := by
  have one : (transitionAuthorizationRelevantReceipts intent
      ledger.transitionAuthorizationReceipts.values).filter (AuthorizationAlias intent ·) =
        [receipt] := by
    refine filter_eq_singleton _ (receipts.receiptIds_nodup.sublist (filter_sublist.map _))
      (mem_filter.mpr ⟨issued, by simp [resubmits.operationId]⟩)
      ((resubmits.alias_iff receipt).mpr (.inl rfl)) fun other stored named => ?_
    rw [receipts.distinct other (mem_of_mem_filter stored) receipt issued
      ((resubmits.alias_iff other).mp named)]
  simp only [candidateReceipt, one, ok_iff]
  exact ⟨(), by simp, (), assertReceiptMatchesIntent_eq_ok.mpr resubmits, trivial⟩

/-- Every receipt of the operation describes it as the resubmitted intent does. -/
lemma sameOperation (listed : other ∈ ledger.receiptsOf intent.operationId) :
    SameOperation intent other := by
  obtain ⟨stored, named⟩ := mem_receiptsOf.mp listed
  -- Both receipts are covered by the one record of their operation.
  obtain ⟨record, found, covers⟩ := receipts.covered receipt issued
  obtain ⟨record', found', covers'⟩ := receipts.covered other stored
  rw [named, ← resubmits.operationId, found, Option.mem_some_iff] at found'
  subst found'
  have history := receipts.histories other stored receipt issued
    (named.trans resubmits.operationId.symm)
  have terms := resubmits.terms
  exact
    { operationId := named
      operationIntentDigest := by rw [history.operationIntentDigest, terms]
      operationPayloadDigest := by rw [history.operationPayloadDigest, terms]
      tenantId := by rw [← covers'.tenantId, covers.tenantId, terms]
      workflowId := by rw [← covers'.workflowId, covers.workflowId, terms]
      runId := by rw [← covers'.runId, covers.runId, terms]
      stepId := by rw [← covers'.stepId, covers.stepId, terms]
      declaredOperation := by rw [← covers'.declaredOperation, covers.declaredOperation, terms]
      sideEffectClass := by rw [← covers'.sideEffectClass, covers.sideEffectClass, terms] }

/-- The record of a resubmitted intent's operation. -/
lemma record : ∃ record, ledger.records.get? intent.operationId = some record ∧
    Covers record receipt ∧ BoundTo intent.toAuthorizationTerms record := by
  obtain ⟨record, found, covers⟩ := receipts.covered receipt issued
  have bound := covers.toBoundTo
  rw [resubmits.terms] at bound
  rw [resubmits.operationId] at found
  exact ⟨record, found, covers, { bound with }⟩

/-- The record is not behind the last receipt of its operation. -/
lemma currentLedger {record : SideEffectRecord}
    (found : ledger.records.get? intent.operationId = some record) :
    assertCurrentLedger (some record) (ledger.receiptsOf intent.operationId) = .ok () := by
  have listed := mem_receiptsOf.mpr ⟨issued, resubmits.operationId⟩
  unfold assertCurrentLedger
  dsimp only
  split
  · simp_all
  · rename_i latest last
    obtain ⟨stored, named⟩ := mem_receiptsOf.mp (mem_of_getLast? last)
    obtain ⟨record', found', covers⟩ := receipts.covered latest stored
    rw [named, found, Option.mem_some_iff] at found'
    subst found'
    simp only [ok_iff, not_lt, not_and, not_not]
    exact ⟨(), covers.revision, covers.snapshot⟩

variable (texts : ∀ record ∈ ledger.records.get? intent.operationId, record.TextsEncodable)
  (few : (ledger.receiptsOf intent.operationId).length ≤ maxOperationReceipts)
include texts few

/-- A resubmitted intent is observed to have its receipt. -/
lemma observed : ∃ observation, observeTransitionAuthorization intent ledger = .ok observation ∧
      observation.receipt = some receipt := by
  obtain ⟨record, found, covers, bound⟩ := resubmits.record receipts issued
  have plain : ∀ held ∈ some record, held.toDict.Plain := by
    rintro held ⟨⟩
    exact bound.plain intent.shaped covers.schema covers.finite (texts record found)
  obtain ⟨digest, hashed, _⟩ := authorizationObservationDigest_ok intent (some receipt)
    (ledger.receiptsOf intent.operationId) plain
  refine ⟨⟨some receipt, ledger.receiptsOf intent.operationId, some record, digest⟩, ?_, rfl⟩
  -- Every check passes, in the order in which the source makes them.
  simp only [observeTransitionAuthorization, transitionAuthorizationObservation, found,
    resubmits.candidate receipts issued,
      operationReceipts_eq (resubmits.alias_operation receipts issued), ok_iff,
    forM_eq_ok, not_not, not_lt]
  refine ⟨(), ?_, some receipt, rfl, (), ?_, (), ?_, (), ?_, (), ?_, digest, hashed, rfl⟩
  · rw [Ledger.receiptsOf, length_insertionSort] at few
    rwa [relevantReceipts_eq (resubmits.alias_operation receipts issued)]
  · intro other listed
    exact assertOperationHistory_eq_ok.mpr (resubmits.sameOperation receipts issued listed)
  · exact (receipts.receiptsOf_chain intent.operationId).isChain
  · intro held listed
    rw [Option.mem_toList] at listed
    cases listed
    exact assertLedgerBinding_eq_ok.mpr bound
  · exact resubmits.currentLedger receipts issued found

/-- A resubmitted intent is answered with its receipt, and the ledger stays as it is. -/
lemma replay {digest : Str} (wellFormed : IsSha256 digest) :
    authorizeTransitionEffect intent digest ledger = (.ok receipt, ledger) := by
  obtain ⟨observation, observed, found⟩ := resubmits.observed receipts issued texts few
  have accepted : authorizationSha256 digest "expected_observation_digest" = .ok digest :=
    authorizationField_eq_ok.mpr ⟨wellFormed, rfl⟩
  refine (Call.run_evaluate accepted _ ledger).trans ?_
  refine (Call.run_evaluate observed _ ledger).trans ?_
  rw [found]
  rfl

end Resubmits

end Ananta
