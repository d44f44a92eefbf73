import Ananta.SideEffects.LedgerLaws

/-! An operation is started again only after it failed and was authorized again, in every run of the
ledger. -/

namespace Ananta

open Option Ledger

namespace Ledger

variable (ledger : Ledger) (operationId : Str)

def status : Option SideEffectStatus := (ledger.records.get? operationId).map (·.status)

def revision : Int := ((ledger.records.get? operationId).map (·.revision)).getD 0

def fence : Int := ((ledger.records.get? operationId).map (·.fencingToken)).getD 0

end Ledger

def LedgerCall.isTransitionEffect : LedgerCall → Bool
  | .authorizeTransitionEffect .. => true
  | _ => false

inductive RecordStep (call : LedgerCall) : Option SideEffectRecord → Option SideEffectRecord →
    Prop where
  | same {record : Option SideEffectRecord} : RecordStep call record record
  | planned {record : SideEffectRecord} (plain : call.isTransitionEffect = false)
      (pristine : record.PristinePlanned) : RecordStep call none (some record)
  | authorized {record : SideEffectRecord} (effect : call.isTransitionEffect = true)
      (status : record.status = .authorized) (revision : record.revision = 2)
      (fence : 0 ≤ record.fencingToken) : RecordStep call none (some record)
  | moved {current updated : SideEffectRecord}
      (allowed : updated.status ∈ current.status.transitions)
      (revision : updated.revision = current.revision + 1)
      (fence : current.fencingToken ≤ updated.fencingToken) :
      RecordStep call (some current) (some updated)

lemma Carried.moves {ledger : Ledger} {operationId : Str} {request : TransitionRequest}
    {clock : Instant} {current updated : SideEffectRecord}
    (carried : Carried ledger operationId request clock current updated) (call : LedgerCall) :
    RecordStep call (some current) (some updated) := by
  -- The guards of the transition are the conditions of the step.
  obtain ⟨_, fence, _, allowed, _, rfl⟩ := SideEffectRecord.transition_eq_ok.mp carried.moved
  exact .moved allowed rfl fence

/-- A committed authorization moves the record of its operation along the table, or creates it. -/
lemma AuthorizationCommits.moves {intent : AuthorizationIntent} {ledger : Ledger}
    {record : SideEffectRecord} {receipt : AuthorizationReceipt}
    (commits : AuthorizationCommits intent ledger record receipt) {call : LedgerCall}
    (effect : call.isTransitionEffect = true) :
    RecordStep call (ledger.records.get? intent.operationId) (some record) := by
  obtain ⟨planned, authorizable, rfl⟩ := commits.authorizable
  have positive := intent.shaped.ownershipFencingToken.1
  -- What the authorization starts from decides how the record moves.
  cases authorizable with
  | absent missing _ made =>
    obtain ⟨_, _, _, pristine, _⟩ := newRecord_spec made
    rw [missing]
    refine .authorized effect rfl ?_ (show 0 ≤ intent.ownershipFencingToken by omega)
    show planned.revision + 1 = 2
    rw [pristine.2.1]
    rfl
  | planned found _ pristine _ =>
    rw [found]
    refine .moved ?_ rfl ?_
    · rw [pristine.1]
      exact List.mem_cons_self
    · show planned.fencingToken ≤ intent.ownershipFencingToken
      rw [pristine.2.2.1]
      omega
  | failed found _ failed _ _ _ fence _ higher =>
    rw [found]
    refine .moved ?_ rfl ?_
    · rw [failed]
      exact List.mem_cons_self
    · show planned.fencingToken ≤ intent.ownershipFencingToken
      omega

/-- One call changes the record of an operation along the table, or not at all. -/
lemma step_record (ledger : Ledger) (call : LedgerCall) (operationId : Str) :
    RecordStep call (ledger.records.get? operationId)
      ((ledgerMachine.step ledger call).2.records.get? operationId) := by
  have effect := ledger_effect ledger call
  generalize (ledgerMachine.step ledger call).1 = outcome at effect
  generalize (ledgerMachine.step ledger call).2 = after at effect ⊢
  -- Each write is to the record of one operation, and the others stay as they were.
  cases effect with
  | kept => exact .same
  | planned made absent =>
    rw [recorded, get?_set]
    split
    · rename_i same
      rw [same, absent]
      obtain ⟨_, _, _, pristine, _⟩ := newRecord_spec made
      exact .planned rfl pristine
    · exact .same
  | carried asks carried demanded starts =>
    rw [recorded, get?_set]
    split
    · rename_i same
      rw [same, carried.found]
      exact carried.moves call
    · exact .same
  | authorized made =>
    rw [authorized, get?_set]
    split
    · rename_i same
      rw [same]
      exact made.commits.moves rfl
    · exact .same

/-- A claim of an operation is made on a ledger and granted. -/
def Acquires (operationId : Str) (ledger : Ledger) (call : LedgerCall) : Prop :=
  (∃ request attemptId clock, call = .claim request attemptId clock ∧
    request.operationId = operationId) ∧
    ∃ answer, (ledgerMachine.step ledger call).1 = .ok answer ∧ answer.acquires

/-- A call succeeds and moves an operation from some other status to a given one. -/
def MovesTo (status : SideEffectStatus) (operationId : Str) (ledger : Ledger)
    (call : LedgerCall) : Prop :=
  (∃ answer, (ledgerMachine.step ledger call).1 = .ok answer) ∧
    ledger.status operationId ≠ some status ∧
    (ledgerMachine.step ledger call).2.status operationId = some status

variable {ledger : Ledger} {operationId : Str} {call : LedgerCall}

/-- A granted claim starts an authorized operation. -/
lemma Acquires.starts (acquires : Acquires operationId ledger call) :
    ledger.status operationId = some .authorized ∧
      (ledgerMachine.step ledger call).2.status operationId = some .started := by
  obtain ⟨⟨request, attemptId, clock, rfl, rfl⟩, answer, answered, granted⟩ := acquires
  have effect := ledger_effect ledger (.claim request attemptId clock)
  rw [answered] at effect
  generalize (ledgerMachine.step ledger (.claim request attemptId clock)).2 = after at effect ⊢
  cases effect with
  | kept unacquired => simp [unacquired answer rfl] at granted
  | @carried _ _ _ _ current updated _ asks carried demanded starts =>
    cases asks
    -- The table lets only an authorized operation start.
    obtain ⟨_, _, _, allowed, _, rfl⟩ := SideEffectRecord.transition_eq_ok.mp carried.moved
    have authorized : current.status = .authorized := by
      change SideEffectStatus.started ∈ current.status.transitions at allowed
      cases status : current.status <;> rw [status] at allowed <;> revert allowed <;> decide
    refine ⟨?_, ?_⟩
    · rw [status, carried.found, map_some, authorized]
    · rw [status, recorded, get?_set_self]
      rfl

/-- A call that brings a status about has succeeded. -/
lemma movesTo_of_change {status : SideEffectStatus}
    (before : ledger.status operationId ≠ some status)
    (reached : (ledgerMachine.step ledger call).2.status operationId = some status) :
    MovesTo status operationId ledger call := by
  refine ⟨?_, before, reached⟩
  have effect := ledger_effect ledger call
  generalize ledgerMachine.step ledger call = stepped at effect reached
  obtain ⟨_, _⟩ := stepped
  -- Only the calls that write nothing may have been refused.
  cases effect with
  | kept => exact absurd reached before
  | planned => exact ⟨_, rfl⟩
  | carried => exact ⟨_, rfl⟩
  | authorized => exact ⟨_, rfl⟩

/-- A set of statuses that the table does not lead out of is not left by any call. -/
lemma status_kept (operationId : Str) (closed : SideEffectStatus → Prop)
    (table : ∀ status, closed status → ∀ next ∈ status.transitions, closed next)
    (inside : ∃ status ∈ ledger.status operationId, closed status) (calls : List LedgerCall) :
    ∃ status ∈ (ledgerMachine.after ledger calls).status operationId, closed status := by
  -- One call moves along the table or leaves the record alone.
  refine ledgerMachine.after_of_step (fun ledger => ∃ status ∈ ledger.status operationId,
    closed status) ?_ calls ledger inside
  intro ledger call inside
  have moves := step_record ledger call operationId
  simp only [status] at inside ⊢
  generalize ledger.records.get? operationId = before at moves inside
  generalize (ledgerMachine.step ledger call).2.records.get? operationId = after at moves
  cases moves with
  | same => exact inside
  | planned => simp at inside
  | authorized => simp at inside
  | moved allowed =>
    grind

/-- Between a start and a later authorization there is a failure, and the authorization follows
it. -/
lemma authorization_after_failure (started : ledger.status operationId = some .started)
    {calls : List LedgerCall}
    (authorized : (ledgerMachine.after ledger calls).status operationId = some .authorized) :
    ∃ first failing middle authorizing last,
      calls = first ++ failing :: middle ++ authorizing :: last ∧
      MovesTo .failed operationId (ledgerMachine.after ledger first) failing ∧
      (ledgerMachine.after ledger (first ++ failing :: middle)).status operationId = some .failed ∧
      MovesTo .authorized operationId (ledgerMachine.after ledger (first ++ failing :: middle))
        authorizing := by
  -- Some call brings the authorized status about.
  obtain ⟨before, authorizing, last, rfl, unauthorized, reached⟩ := ledgerMachine.exists_change
    (fun ledger => ledger.status operationId = some .authorized) calls ledger (by simp [started])
      authorized
  -- A started operation never returns to the planned status, so that call found it failed.
  have onFile := status_kept operationId (· ≠ .planned)
    (by intro status _ next; cases status <;> cases next <;> decide) ⟨_, started, by decide⟩ before
  have failed : (ledgerMachine.after ledger before).status operationId = some .failed := by
    have moves := step_record (ledgerMachine.after ledger before) authorizing operationId
    simp only [status] at onFile unauthorized reached ⊢
    generalize (ledgerMachine.after ledger before).records.get? operationId = held at *
    generalize (ledgerMachine.step (ledgerMachine.after ledger before) authorizing).2.records.get?
      operationId = next at *
    cases moves with
    | same => exact absurd reached unauthorized
    | planned => simp at onFile
    | authorized => simp at onFile
    | @moved current updated allowed =>
      simp only [map_some, some.injEq, mem_def, exists_eq_left'] at *
      cases status : current.status <;> rw [status] at allowed onFile <;> simp_all
        [SideEffectStatus.transitions]
  -- The failure was brought about by an earlier call.
  obtain ⟨first, failing, middle, rfl, unfailed, fails⟩ := ledgerMachine.exists_change
    (fun ledger => ledger.status operationId = some .failed) before ledger (by simp [started])
      failed
  exact ⟨first, failing, middle, authorizing, last, rfl, movesTo_of_change unfailed fails, failed,
    movesTo_of_change unauthorized reached⟩

/-- A completed operation is later completed or compensated, and no claim of it is granted. -/
lemma completed_for_good (completed : ledger.status operationId = some .completed)
    (later : List LedgerCall) :
    ((ledgerMachine.after ledger later).status operationId = some .completed ∨
      (ledgerMachine.after ledger later).status operationId = some .compensated) ∧
      ∀ call, ¬ Acquires operationId (ledgerMachine.after ledger later) call := by
  -- The table leads from these two statuses to no other.
  obtain ⟨status, found, settled⟩ := status_kept operationId
    (fun status => status = .completed ∨ status = .compensated)
    (by intro status settled next; rcases settled with rfl | rfl <;> cases next <;> decide)
    ⟨_, completed, .inl rfl⟩ later
  rw [mem_def] at found
  refine ⟨?_, ?_⟩
  · rw [found]
    exact settled.imp (congrArg some) (congrArg some)
  · -- A granted claim would have found the operation authorized.
    intro call acquires
    rw [acquires.starts.1, some.injEq] at found
    subst found
    simp at settled

/-- A call leaves a record alone, or counts its revision up and does not lower its fence. -/
lemma step_revision (ledger : Ledger) (call : LedgerCall) (operationId : Str) :
    (ledgerMachine.step ledger call).2.records.get? operationId = ledger.records.get? operationId ∨
      (ledgerMachine.step ledger call).2.revision operationId = ledger.revision operationId +
          (if (ledger.records.get? operationId).isNone ∧ call.isTransitionEffect then 2 else 1) ∧
        ledger.fence operationId ≤ (ledgerMachine.step ledger call).2.fence operationId := by
  have moves := step_record ledger call operationId
  simp only [revision, fence]
  generalize ledger.records.get? operationId = before at moves
  generalize (ledgerMachine.step ledger call).2.records.get? operationId = after at moves
  -- Each way in which a record changes says what becomes of both counters.
  cases moves with
  | same => exact .inl rfl
  | planned plain pristine =>
    obtain ⟨_, revision, fence, _⟩ := pristine
    simp [plain, revision, fence]
  | authorized effect _ revision fence => simp [effect, revision, fence]
  | moved _ revision fence => simp [revision, fence]

/-- Finishing an operation under another attempt or another fence changes nothing. -/
lemma foreign_finish_keeps {request : OperationRequest} {attemptId : Str}
    (finishes : call.finishes = some (request, attemptId)) {record : SideEffectRecord}
    (found : ledger.records.get? request.operationId = some record)
    (foreign : attemptId ≠ record.attemptId ∨ request.fencingToken ≠ record.fencingToken) :
    (ledgerMachine.step ledger call).2 = ledger := by
  have effect := ledger_effect ledger call
  generalize ledgerMachine.step ledger call = stepped at effect ⊢
  obtain ⟨_, _⟩ := stepped
  cases effect with
  | kept => rfl
  | planned => cases finishes
  | authorized => cases finishes
  | carried asks carried demanded =>
    -- A finish that goes through has shown the stored attempt and the stored fence.
    exfalso
    have attempt := demanded _ finishes
    have exact := (SideEffectRecord.transition_eq_ok.mp carried.moved).2.2.1
    have held := carried.found
    cases call <;> cases finishes <;> cases asks <;> rw [found] at held <;> cases held <;>
      exact foreign.elim (· attempt.symm) (· (exact rfl))

/-- Along every run of the ledger each operation is performed at most once: a second start takes a
failure and a new authorization after the first, a completed operation is only ever compensated,
each change counts the revision up under a fence that does not fall, and a finish by another attempt
or under another fence is without effect. -/
theorem side_effect_at_most_once (calls : List LedgerCall) (operationId : Str) :
    let ledger := ledgerMachine.after ledgerMachine.initial calls
    (∀ claiming between reclaiming, Acquires operationId ledger claiming →
      Acquires operationId (ledgerMachine.after ledger (claiming :: between)) reclaiming →
      ∃ first failing middle authorizing last,
        between = first ++ failing :: middle ++ authorizing :: last ∧
        MovesTo .failed operationId (ledgerMachine.after ledger (claiming :: first)) failing ∧
        (ledgerMachine.after ledger (claiming :: (first ++ failing :: middle))).status operationId =
          some .failed ∧
        MovesTo .authorized operationId
          (ledgerMachine.after ledger (claiming :: (first ++ failing :: middle))) authorizing) ∧
    (ledger.status operationId = some .completed → ∀ later,
      ((ledgerMachine.after ledger later).status operationId = some .completed ∨
        (ledgerMachine.after ledger later).status operationId = some .compensated) ∧
      ∀ claiming, ¬ Acquires operationId (ledgerMachine.after ledger later) claiming) ∧
    (∀ call,
      (ledgerMachine.step ledger call).2.records.get? operationId =
        ledger.records.get? operationId ∨
        (ledgerMachine.step ledger call).2.revision operationId = ledger.revision operationId +
            (if (ledger.records.get? operationId).isNone ∧ call.isTransitionEffect then 2 else 1) ∧
          ledger.fence operationId ≤ (ledgerMachine.step ledger call).2.fence operationId) ∧
    (∀ call request attemptId, call.finishes = some (request, attemptId) →
      ∀ record ∈ ledger.records.get? request.operationId,
        (attemptId ≠ record.attemptId ∨ request.fencingToken ≠ record.fencingToken) →
        (ledgerMachine.step ledger call).2 = ledger) := by
  intro ledger
  refine ⟨?_, completed_for_good, fun call => step_revision ledger call operationId, ?_⟩
  · -- The first claim leaves the operation started, and the second finds it authorized.
    intro claiming between reclaiming acquires reacquires
    exact authorization_after_failure acquires.starts.2 reacquires.starts.1
  · intro call request attemptId finishes record found foreign
    exact foreign_finish_keeps finishes found foreign

end Ananta
