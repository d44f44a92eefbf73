import Ananta.Library.Dict
import Ananta.Library.Machine
import Ananta.Queue.Reservation

/-! The in-memory store of queue reservations, and what its receipts have in common. -/

namespace Ananta

open List Call QueueReservationIntent

def QueueReservationIntent.effectKey (intent : QueueReservationIntent) : Str × Str × Str :=
  (intent.tenantId, intent.runId, intent.effectId)

def QueueReservationIntent.taskKey (intent : QueueReservationIntent) : Str × Str × Str :=
  (intent.tenantId, intent.runId, intent.taskId)

/-- The state of an `InMemoryWorkflowTransitionQueueReservationStore`. -/
structure QueueReservationStore where
  byEffect : Dict (Str × Str × Str) QueueReservationReceipt
  byFence : Dict Str Str
  byTask : Dict (Str × Str × Str) Str
  revision : Nat
  deriving DecidableEq

namespace QueueReservationStore

/-- A store before any call. -/
def empty : QueueReservationStore := ⟨Dict.empty, Dict.empty, Dict.empty, 0⟩

def advance (store : QueueReservationStore) : QueueReservationStore :=
  { store with revision := store.revision + 1 }

def file (store : QueueReservationStore) (intent : QueueReservationIntent)
    (receipt : QueueReservationReceipt) : QueueReservationStore :=
  { store with
    byEffect := store.byEffect.set intent.effectKey receipt
    byFence := store.byFence.set intent.operationFenceId intent.effectId
    byTask := store.byTask.set intent.taskKey intent.effectId }

end QueueReservationStore

/-- The arguments of `reserve_transition_queue_slot`. -/
structure QueueReservationCall where
  intent : QueueReservationIntent
  claimGeneration : Int
  reservedAt : Float64

namespace QueueReservationCall

/-- A slot that another effect holds, through the fence or through the task, is not reserved
again. -/
def assertUnowned (call : QueueReservationCall) (store : QueueReservationStore) :
    Except Fault Unit := do
  raiseIf (∃ owner ∈ store.byFence.get? call.intent.operationFenceId, owner ≠ call.intent.effectId)
    (queueReservationConflict "fence_conflict")
  raiseIf (∃ owner ∈ store.byTask.get? call.intent.taskKey, owner ≠ call.intent.effectId)
    (queueReservationConflict "task_conflict")

end QueueReservationCall

/-- `InMemoryWorkflowTransitionQueueReservationStore.reserve_transition_queue_slot`. -/
def reserveTransitionQueueSlot (call : QueueReservationCall) :
    Call Fault QueueReservationStore QueueReservationReceipt := do
  queuePositiveInteger call.claimGeneration "claim_generation"
  queuePositiveFloat call.reservedAt "reserved_at"
  let store ← read
  match store.byEffect.get? call.intent.effectKey with
  | some existing =>
    raiseIf (existing.operationFenceId ≠ call.intent.operationFenceId)
      (queueReservationConflict "fence_conflict")
    return existing
  | none =>
    call.assertUnowned store
    -- The revision is advanced before the receipt is made, which may still raise.
    write QueueReservationStore.advance
    let receipt ← call.intent.receipt (store.revision + 1 : Nat)
      call.claimGeneration call.reservedAt
    write fun store => store.file call.intent receipt
    return receipt

/-- The store as a machine that takes one reservation after another. -/
def queueMachine : Machine QueueReservationStore QueueReservationCall
    (Except Fault QueueReservationReceipt) where
  initial := .empty
  step store call := reserveTransitionQueueSlot call store

/-- No other effect holds the fence or the task of a call. -/
structure Unowned (call : QueueReservationCall) (store : QueueReservationStore) : Prop where
  fresh : store.byEffect.get? call.intent.effectKey = none
  fence : ∀ owner, store.byFence.get? call.intent.operationFenceId = some owner →
    owner = call.intent.effectId
  task : ∀ owner, store.byTask.get? call.intent.taskKey = some owner → owner = call.intent.effectId

/-- What a reservation can answer and do to the store. -/
inductive QueueEffect (store : QueueReservationStore) (call : QueueReservationCall) :
    Except Fault QueueReservationReceipt → QueueReservationStore → Prop where
  | kept {outcome : Except Fault QueueReservationReceipt} : QueueEffect store call outcome store
  | wasted {fault : Fault} (unowned : Unowned call store)
      (unmade : call.reservedAt < call.intent.plannedAt ∨ queueMaxCounter ≤ store.revision) :
      QueueEffect store call (.error fault) store.advance
  | filed {receipt : QueueReservationReceipt} (unowned : Unowned call store)
      (made : call.intent.receipt (store.revision + 1 : Nat) call.claimGeneration call.reservedAt =
        .ok receipt) :
      QueueEffect store call (.ok receipt) (store.advance.file call.intent receipt)

variable {store : QueueReservationStore} {call : QueueReservationCall}

lemma unowned_of_assertUnowned (fresh : store.byEffect.get? call.intent.effectKey = none)
    (checked : call.assertUnowned store = .ok ()) : Unowned call store := by
  simp only [QueueReservationCall.assertUnowned, ok_iff, not_exists, not_and, not_not,
    Option.mem_def] at checked
  obtain ⟨_, fence, task⟩ := checked
  exact ⟨fresh, fence, task⟩

section

variable (generated : 0 < call.claimGeneration ∧ call.claimGeneration ≤ queueMaxCounter)
  (timed : IsTimestamp call.reservedAt)
include generated timed

/-- A receipt that cannot be made has a clock or a counter gone wrong. -/
lemma unmade_of_raised {revision : Nat} {fault : Fault}
    (raised : call.intent.receipt (revision + 1 : Nat) call.claimGeneration call.reservedAt =
      .error fault) :
    call.reservedAt < call.intent.plannedAt ∨ queueMaxCounter ≤ revision := by
  by_contra fine
  rw [not_or, not_le] at fine
  have counted : 0 < ((revision + 1 : Nat) : Int) ∧
    ((revision + 1 : Nat) : Int) ≤ queueMaxCounter := by omega
  obtain ⟨made, returned⟩ := receipt_ok counted generated timed fine.1
  rw [returned] at raised
  cases raised

/-- A call that nothing speaks against is answered with a new receipt. -/
lemma step_filed (unowned : Unowned call store)
    (ordered : ¬ call.reservedAt < call.intent.plannedAt)
    (counted : store.revision < queueMaxCounter) :
    ∃ receipt, call.intent.receipt (store.revision + 1 : Nat) call.claimGeneration call.reservedAt =
      .ok receipt ∧
      queueMachine.step store call = (.ok receipt, store.advance.file call.intent receipt) := by
  have next : 0 < ((store.revision + 1 : Nat) : Int) ∧
      ((store.revision + 1 : Nat) : Int) ≤ queueMaxCounter := by
    omega
  obtain ⟨receipt, made⟩ := receipt_ok next generated timed ordered
  refine ⟨receipt, made, ?_⟩
  have unclaimed : call.assertUnowned store = .ok () := by
    simp only [QueueReservationCall.assertUnowned, ok_iff, not_exists, not_and, not_not,
      Option.mem_def]
    exact ⟨(), unowned.fence, unowned.task⟩
  show reserveTransitionQueueSlot call store = _
  have generation : queuePositiveInteger call.claimGeneration "claim_generation" = .ok () :=
    queueField_eq_ok.mpr generated
  have moment : queuePositiveFloat call.reservedAt "reserved_at" = .ok () :=
    queueField_eq_ok.mpr timed
  rw [reserveTransitionQueueSlot, run_evaluate generation, run_evaluate moment, run_read]
  simp only [unowned.fresh]
  rw [run_evaluate unclaimed, run_write, run_evaluate made, run_write]
  rfl

end

/-- Every reservation has one of the listed effects. -/
lemma queue_effect (store : QueueReservationStore) (call : QueueReservationCall) :
    QueueEffect store call (queueMachine.step store call).1 (queueMachine.step store call).2 := by
  show Ensures (reserveTransitionQueueSlot call) store (QueueEffect store call)
  refine ensures_evaluate (fun _ _ => .kept) fun _ generated => ?_
  refine ensures_evaluate (fun _ _ => .kept) fun _ timed => ?_
  rw [queuePositiveInteger, queueField_eq_ok] at generated
  rw [queuePositiveFloat, queueField_eq_ok] at timed
  apply ensures_read
  cases fresh : store.byEffect.get? call.intent.effectKey with
  | some existing => exact ensures_guard (fun _ => .kept) fun _ => .kept
  | none =>
    refine ensures_evaluate (fun _ _ => .kept) fun _ checked => ?_
    have unowned := unowned_of_assertUnowned fresh checked
    apply ensures_write
    refine ensures_evaluate (fun fault raised => ?_) fun receipt made => ?_
    · exact .wasted unowned (unmade_of_raised generated timed raised)
    · exact .filed unowned made

/-- What every receipt has in common with its intent. -/
structure Answers (intent : QueueReservationIntent) (receipt : QueueReservationReceipt) : Prop where
  tenantId : receipt.tenantId = intent.tenantId
  runId : receipt.runId = intent.runId
  effectId : receipt.effectId = intent.effectId
  taskId : receipt.taskId = intent.taskId
  operationFenceId : receipt.operationFenceId = intent.operationFenceId

variable {receipt : QueueReservationReceipt}

lemma answers_of_receipt {intent : QueueReservationIntent} {revision generation : Int}
    {moment : Float64} (made : intent.receipt revision generation moment = .ok receipt) :
    Answers intent receipt ∧ receipt.reservedRevision = revision := by
  obtain ⟨_, _, fields⟩ := receipt_spec made
  simp only [fields]
  exact ⟨⟨by rw [fields]; rfl, by rw [fields]; rfl, by rw [fields]; rfl, by rw [fields]; rfl,
    by rw [fields]; rfl⟩, rfl⟩

/-- The indexes of the store know each of its receipts, and no two runs share a fence. -/
structure ReceiptsFiled (store : QueueReservationStore) : Prop where
  key : ∀ key receipt, store.byEffect.get? key = some receipt →
    key = (receipt.tenantId, receipt.runId, receipt.effectId)
  fence : ∀ key receipt, store.byEffect.get? key = some receipt →
    store.byFence.get? receipt.operationFenceId = some receipt.effectId
  task : ∀ key receipt, store.byEffect.get? key = some receipt →
    store.byTask.get? (receipt.tenantId, receipt.runId, receipt.taskId) = some receipt.effectId
  separate : ∀ key receipt other found, store.byEffect.get? key = some receipt →
    store.byEffect.get? other = some found → receipt.operationFenceId = found.operationFenceId →
      key = other
  revisions : store.byEffect.values.map (·.reservedRevision) =
    (range store.revision).map fun position => ((position + 1 : Nat) : Int)

lemma filed_empty : ReceiptsFiled .empty where
  key _ _ found := nomatch found
  fence _ _ found := nomatch found
  task _ _ found := nomatch found
  separate _ _ _ _ found := nomatch found
  revisions := rfl

/-- A call whose clock did not fall back before its plan, below the largest revision, and whose
fence is not one that the same effect of another run reserved. -/
def Orderly (store : QueueReservationStore) (call : QueueReservationCall) : Prop :=
  store.byEffect.get? call.intent.effectKey = none →
    ¬ call.reservedAt < call.intent.plannedAt ∧ store.revision < queueMaxCounter ∧
    ∀ key receipt, store.byEffect.get? key = some receipt →
      receipt.operationFenceId = call.intent.operationFenceId →
        receipt.effectId = call.intent.effectId →
      (receipt.tenantId, receipt.runId) = (call.intent.tenantId, call.intent.runId)

section

variable (filed : ReceiptsFiled store) (orderly : Orderly store call)
include filed orderly

section

variable (unowned : Unowned call store)
include unowned

/-- Nothing that is stored has the fence of an orderly new call. -/
lemma ReceiptsFiled.fence_fresh {key : Str × Str × Str}
    (found : store.byEffect.get? key = some receipt) :
    receipt.operationFenceId ≠ call.intent.operationFenceId := by
  intro same
  -- The owner of the fence is the effect of the call, and then also its run and its key.
  have owner := unowned.fence _ (same ▸ filed.fence key receipt found)
  have run := (orderly unowned.fresh).2.2 key receipt found same owner
  rw [Prod.mk.injEq] at run
  have stored := filed.key key receipt found
  rw [run.1, run.2, owner] at stored
  rw [stored] at found
  exact absurd (found.symm.trans unowned.fresh) (by simp)

/-- A new receipt of an orderly call keeps the indexes right. -/
lemma ReceiptsFiled.file
    (made : call.intent.receipt (store.revision + 1 : Nat) call.claimGeneration call.reservedAt =
      .ok receipt) :
    ReceiptsFiled (store.advance.file call.intent receipt) := by
  obtain ⟨answers, revision⟩ := answers_of_receipt made
  have lookup : ∀ key, (store.advance.file call.intent receipt).byEffect.get? key =
      if key = call.intent.effectKey then some receipt else store.byEffect.get? key := fun key =>
    get?_set _ _ _ _
  refine ⟨fun key found stored => ?_, fun key found stored => ?_, fun key found stored => ?_,
    fun key found other twin stored second same => ?_, ?_⟩
  · rw [lookup] at stored
    split at stored
    · rename_i own
      cases stored
      rw [own, answers.tenantId, answers.runId, answers.effectId]
      rfl
    · exact filed.key key found stored
  · rw [lookup] at stored
    show (store.byFence.set _ _).get? _ = _
    rw [get?_set]
    split at stored
    · cases stored
      rw [if_pos answers.operationFenceId, answers.effectId]
    · rw [if_neg (filed.fence_fresh orderly unowned stored)]
      exact filed.fence key found stored
  · rw [lookup] at stored
    show (store.byTask.set _ _).get? _ = _
    rw [get?_set]
    split at stored
    · cases stored
      rw [if_pos (by rw [answers.tenantId, answers.runId, answers.taskId]; rfl), answers.effectId]
    · -- A known task keeps its owner: the effect of the call if the task is that of the call.
      have known := filed.task key found stored
      split
      · rename_i own
        rw [own] at known
        rw [unowned.task _ known]
      · exact known
  · rw [lookup] at stored second
    split at stored <;> split at second
    · rename_i left right
      rw [left, right]
    · cases stored
      exact absurd (same.symm.trans answers.operationFenceId)
        (filed.fence_fresh orderly unowned second)
    · cases second
      exact absurd (same.trans answers.operationFenceId) (filed.fence_fresh orderly unowned stored)
    · exact filed.separate key found other twin stored second same
  · show ((store.byEffect.set _ receipt).values.map _) = (range (store.revision + 1)).map _
    rw [Dict.values_set_new unowned.fresh, map_append, filed.revisions, range_succ, map_append]
    simp [revision]

end

/-- An orderly call keeps the indexes right. -/
lemma ReceiptsFiled.step : ReceiptsFiled (queueMachine.step store call).2 := by
  have effect := queue_effect store call
  generalize queueMachine.step store call = stepped at effect ⊢
  obtain ⟨_, _⟩ := stepped
  cases effect with
  | kept => exact filed
  | wasted unowned unmade =>
    obtain ⟨ordered, counted, _⟩ := orderly unowned.fresh
    exact (unmade.elim ordered fun full => absurd full (not_le.mpr counted)).elim
  | filed unowned made => exact filed.file orderly unowned made

end

lemma filed_after {calls : List QueueReservationCall}
    (orderly : queueMachine.Throughout Orderly .empty calls) :
    ReceiptsFiled (queueMachine.after .empty calls) :=
  queueMachine.after_of_throughout Orderly ReceiptsFiled (fun _ _ filed fine => filed.step fine)
    calls _ filed_empty orderly

/-- In an orderly run no two receipts share their task, their effect or their fence, their revisions
are counted up from one to the head, and an orderly call that raises changes nothing. -/
theorem queue_reservations_consistent {calls : List QueueReservationCall}
    (orderly : queueMachine.Throughout Orderly .empty calls) :
    let store := queueMachine.after .empty calls
    (∀ key receipt other found, store.byEffect.get? key = some receipt →
      store.byEffect.get? other = some found →
      (receipt.tenantId, receipt.runId, receipt.taskId) =
        (found.tenantId, found.runId, found.taskId) ∨
      (receipt.tenantId, receipt.runId, receipt.effectId) =
        (found.tenantId, found.runId, found.effectId) ∨
      receipt.operationFenceId = found.operationFenceId → key = other) ∧
    store.byEffect.values.map (·.reservedRevision) =
      (range store.revision).map (fun position => ((position + 1 : Nat) : Int)) ∧
    (∀ call, Orderly store call → ∀ fault, (queueMachine.step store call).1 = .error fault →
      (queueMachine.step store call).2 = store) := by
  have filed := filed_after orderly
  generalize queueMachine.after .empty calls = store at filed
  refine ⟨fun key receipt other found stored second => ?_, filed.revisions,
    fun call fine fault raised => ?_⟩
  · rintro (sameTask | sameEffect | sameFence)
    · -- The owner of a task is one effect of its run.
      have owner := filed.task key receipt stored
      rw [sameTask, filed.task other found second] at owner
      rw [Prod.mk.injEq, Prod.mk.injEq] at sameTask
      rw [filed.key key receipt stored, filed.key other found second, sameTask.1, sameTask.2.1,
        Option.some.inj owner]
    · rw [filed.key key receipt stored, filed.key other found second, sameEffect]
    · exact filed.separate key receipt other found stored second sameFence
  · have effect := queue_effect store call
    generalize queueMachine.step store call = stepped at effect raised ⊢
    obtain ⟨_, _⟩ := stepped
    cases effect with
    | kept => rfl
    | wasted unowned unmade =>
      obtain ⟨ordered, counted, _⟩ := fine unowned.fresh
      exact (unmade.elim ordered fun full => absurd full (not_le.mpr counted)).elim
    | filed => cases raised

def sampleIntent (tenant : String) (valid : IsIdentity (text tenant)) : QueueReservationIntent where
  transitionId := "n"
  effectId := "e"
  runtimeId := "q"
  tenantId := text tenant
  workflowId := "w"
  runId := "r"
  stepId := "s"
  taskId := "k"
  effectOrdinal := 1
  queueIntentDigest := replicate 64 (codePoint 'a')
  operationFenceId := "f"
  attemptId := "a"
  receiptId := "c"
  maximumRetries := 0
  plannedAt := 5
  valid := by
    simp only [QueueIntentFields.postInit, bind_eq_ok, forM_eq_ok, forall_mem_cons, queueIdentity,
      queueSha256, queuePositiveInteger, queueRetryMaximum, queuePositiveFloat, queueField_eq_ok]
    have others : IsIdentity "n" ∧ IsIdentity "e" ∧ IsIdentity "q" ∧
        IsIdentity "w" ∧ IsIdentity "r" ∧ IsIdentity "s" ∧ IsIdentity "k" ∧
        IsIdentity "f" ∧ IsIdentity "a" ∧ IsIdentity "c" := by decide
    obtain ⟨transition, effect, runtime, workflow, run, step, task, fence, attempt, receipt⟩ :=
      others
    exact ⟨(), ⟨transition, effect, runtime, valid, workflow, run, step, task, fence, attempt,
      receipt, fun _ impossible => nomatch impossible⟩, (), by decide, (), by decide,
        (), by decide, by decide +kernel⟩

/-- The first reservation of a store is orderly and gets revision one. -/
theorem queue_reservations_consistent_sample :
    queueMachine.Throughout Orderly .empty [⟨sampleIntent "t" (by decide), 1, 6⟩] ∧
      (queueMachine.after .empty [⟨sampleIntent "t" (by decide), 1, 6⟩]).byEffect.values.map
        (·.reservedRevision) = (range (queueMachine.after .empty
          [⟨sampleIntent "t" (by decide), 1, 6⟩]).revision).map fun position =>
            ((position + 1 : Nat) : Int) := by
  have orderly : queueMachine.Throughout Orderly .empty [⟨sampleIntent "t" (by decide), 1, 6⟩] :=
    ⟨fun _ => ⟨by decide +kernel, by decide, nofun⟩, trivial⟩
  exact ⟨orderly, (queue_reservations_consistent orderly).2.1⟩

/-- Two tenants whose effects have one name share a fence, and a reservation before its plan raises
only after it has taken a revision. -/
theorem queue_reservations_broken : (∃ key receipt other found, key ≠ other ∧
      (queueMachine.after .empty [⟨sampleIntent "t" (by decide), 1, 6⟩,
        ⟨sampleIntent "u" (by decide), 1, 6⟩]).byEffect.get? key = some receipt ∧
      (queueMachine.after .empty [⟨sampleIntent "t" (by decide), 1, 6⟩,
        ⟨sampleIntent "u" (by decide), 1, 6⟩]).byEffect.get? other = some found ∧
      receipt.operationFenceId = found.operationFenceId) ∧
    (queueMachine.step .empty ⟨sampleIntent "t" (by decide), 1, 4⟩).1 =
      .error (queueReservationError "clock_invalid") ∧
    (queueMachine.step .empty ⟨sampleIntent "t" (by decide), 1, 4⟩).2 =
      QueueReservationStore.empty.advance := by
  refine ⟨?_, by decide +kernel, by decide +kernel⟩
  have unownedFirst : Unowned ⟨sampleIntent "t" (by decide), 1, 6⟩ .empty :=
    ⟨rfl, nofun, nofun⟩
  obtain ⟨first, made, ran⟩ :=
    step_filed (by decide) (by decide +kernel) unownedFirst (by decide +kernel) (by decide)
  -- The second tenant finds the fence held by an effect of its own name.
  have unownedSecond : Unowned ⟨sampleIntent "u" (by decide), 1, 6⟩
      (QueueReservationStore.empty.advance.file (sampleIntent "t" (by decide)) first) := by
    refine ⟨rfl, fun owner found => ?_, nofun⟩
    cases found
    rfl
  obtain ⟨second, madeSecond, ranSecond⟩ := step_filed (by decide) (by decide +kernel) unownedSecond
    (by decide +kernel) (show ((1 : Nat) : Int) < queueMaxCounter by decide)
  have ended : queueMachine.after .empty [⟨sampleIntent "t" (by decide), 1, 6⟩,
      ⟨sampleIntent "u" (by decide), 1, 6⟩] = (QueueReservationStore.empty.advance.file
        (sampleIntent "t" (by decide)) first).advance.file (sampleIntent "u" (by decide))
          second := by
    rw [Machine.after_cons, ran, Machine.after_cons, ranSecond, Machine.after_nil]
  rw [ended]
  refine ⟨(sampleIntent "t" (by decide)).effectKey, first, (sampleIntent "u" (by decide)).effectKey,
    second, by decide, rfl, rfl, ?_⟩
  rw [(answers_of_receipt made).1.operationFenceId,
    (answers_of_receipt madeSecond).1.operationFenceId]
  rfl

end Ananta
