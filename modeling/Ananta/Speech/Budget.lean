import Ananta.Library.Call
import Ananta.Library.Optimistic
import Ananta.Python.Text

/-! Budgets of speech reconciliation: what their ledgers conserve under any interleaving of
attempts. -/

namespace Ananta

open Protocol

/-- `RESOURCE_FIELDS`. -/
inductive ResourceField where
  | wallTimeMs | cpuTimeMs | gpuTimeMs | memoryByteMs | diskBytes | checkpointBytes
  | energyMillijoules
  deriving DecidableEq

instance : Fintype ResourceField where
  elems := {.wallTimeMs, .cpuTimeMs, .gpuTimeMs, .memoryByteMs, .diskBytes, .checkpointBytes,
    .energyMillijoules}
  complete field := by cases field <;> decide

/-- `SpeechResourceVector`. -/
abbrev SpeechResourceVector : Type := ResourceField → Int

/-- `MAX_RESOURCE_VALUE`. -/
def maxResourceValue : Int := 2 ^ 63 - 1

namespace SpeechResourceVector

/-- No resources. -/
def zero : SpeechResourceVector := fun _ => 0

variable (vector other : SpeechResourceVector)

/-- `from_mapping`: each resource is within its bounds. -/
def Bounded : Prop := ∀ field, 0 ≤ vector field ∧ vector field ≤ maxResourceValue
  deriving Decidable

/-- `add`. -/
def add : Except String SpeechResourceVector :=
  if ∃ field, maxResourceValue < vector field + other field
    then .error "speech_reconciliation_budget_overflow"
  else .ok fun field => vector field + other field

/-- `subtract`. -/
def subtract : Except String SpeechResourceVector :=
  if ∃ field, vector field - other field < 0 then .error "speech_reconciliation_budget_exceeded"
  else .ok fun field => vector field - other field

/-- `covers`. -/
def Covers : Prop := ∀ field, other field ≤ vector field
  deriving Decidable

lemma add_eq {vector other sum : SpeechResourceVector} (added : vector.add other = .ok sum)
    (field : ResourceField) : sum field = vector field + other field := by
  unfold add at added
  split at added
  · cases added
  · cases added
    rfl

lemma subtract_eq {vector other rest : SpeechResourceVector}
    (subtracted : vector.subtract other = .ok rest) (field : ResourceField) :
    rest field = vector field - other field := by
  unfold subtract at subtracted
  split at subtracted
  · cases subtracted
  · cases subtracted
    rfl

end SpeechResourceVector

/-- `_IDENTIFIER`. -/
def isSpeechIdentifier (value : Str) : Bool :=
  match value with
  | [] => false
  | first :: rest =>
    isAlphanumeric first && rest.length ≤ 191 && rest.all fun point => isAlphanumeric point ||
      point ∈ text "_.:-"

/-- `STAGES`. -/
def speechStages : List Str :=
  ["admission", "staging", "slow_asr", "alignment", "resolution", "dataset",
    "training_delegation", "evaluation", "finalization"]

/-- `SpeechReconciliationBudgetLedger`, of the one contract version. -/
structure SpeechLedger where
  jobId : Str
  attemptId : Str
  fencingEpoch : Int
  sequence : Int
  stage : Str
  sourceDurationMs : Int
  computeFactor : Int
  (allocated reserved consumed remaining : SpeechResourceVector)
  deriving DecidableEq

/-- `SpeechReconciliationBudgetLedger.from_mapping`. -/
def SpeechLedger.validated (ledger : SpeechLedger) : Except String SpeechLedger := do
  -- A stage that is no identifier is reported as an unknown one.
  raiseIf (ledger.stage ∉ speechStages) "speech_reconciliation_stage_invalid"
  raiseIf (¬ (ledger.allocated.Bounded ∧ ledger.reserved.Bounded ∧ ledger.consumed.Bounded ∧
    ledger.remaining.Bounded)) "speech_reconciliation_integer_invalid"
  let used ← ledger.consumed.add ledger.reserved
  let expected ← ledger.allocated.subtract used
  raiseIf (ledger.remaining ≠ expected) "speech_reconciliation_budget_arithmetic_invalid"
  raiseIf (¬ (isSpeechIdentifier ledger.jobId ∧ isSpeechIdentifier ledger.attemptId))
    "speech_reconciliation_identifier_invalid"
  raiseIf (¬ (1 ≤ ledger.fencingEpoch ∧ ledger.fencingEpoch ≤ maxResourceValue ∧
    0 ≤ ledger.sequence ∧
    ledger.sequence ≤ maxResourceValue ∧ 1 ≤ ledger.sourceDurationMs ∧
      ledger.sourceDurationMs ≤ 8 * 60 * 60 * 1000 ∧
    1 ≤ ledger.computeFactor ∧ ledger.computeFactor ≤ 100)) "speech_reconciliation_integer_invalid"
  return ledger

/-- The changing calls of the service. -/
inductive SpeechOperation where
  | create (attemptId : Str) (fencingEpoch : Int) (stage : Str)
      (sourceDurationMs computeFactor : Int) (allocated : SpeechResourceVector)
  | reserve (expectedSequence fencingEpoch : Int) (amount : SpeechResourceVector) (stage : Str)
  | consume (expectedSequence fencingEpoch : Int) (amount : SpeechResourceVector) (stage : Str)
  | release (expectedSequence fencingEpoch : Int) (amount : SpeechResourceVector) (stage : Str)
  | rebindAttempt (expectedSequence : Int) (attemptId : Str) (fencingEpoch : Int) (stage : Str)

def SpeechOperation.fencingEpoch : SpeechOperation → Int
  | .create _ fencingEpoch _ _ _ _ | .reserve _ fencingEpoch _ _ | .consume _ fencingEpoch _ _
  | .release _ fencingEpoch _ _ | .rebindAttempt _ _ fencingEpoch _ => fencingEpoch

/-- A call for a job, and whether the audit prepares and appends its event. -/
structure SpeechCall where
  jobId : Str
  operation : SpeechOperation
  prepared : Bool := true
  appended : Bool := true

/-- `_current`. -/
def currentLedger (stored : Option SpeechLedger) (sequence fencingEpoch : Int) :
    Except String SpeechLedger :=
  match stored with
  | none => .error "speech_reconciliation_ledger_not_found"
  | some current => do
    raiseIf (current.sequence ≠ sequence) "speech_reconciliation_ledger_stale"
    raiseIf (current.fencingEpoch ≠ fencingEpoch) "speech_reconciliation_fence_stale"
    return current

/-- The ledger that a call wants to store in place of the one that it goes by, before it is
validated. -/
def SpeechOperation.updated (operation : SpeechOperation) (jobId : Str)
    (stored : Option SpeechLedger) : Except String (Option SpeechLedger × SpeechLedger) :=
  match operation with
  | .create attemptId fencingEpoch stage sourceDurationMs computeFactor allocated =>
    return (none, { jobId, attemptId, fencingEpoch, sequence := 0, stage, sourceDurationMs,
                    computeFactor, allocated
                    reserved := .zero, consumed := .zero, remaining := allocated })
  | .reserve expectedSequence fencingEpoch amount stage => do
    let current ← currentLedger stored expectedSequence fencingEpoch
    let reserved ← current.reserved.add amount
    let used ← current.consumed.add reserved
    let remaining ← current.allocated.subtract used
    return (some current,
      { current with sequence := current.sequence + 1, reserved, remaining, stage })
  | .consume expectedSequence fencingEpoch amount stage => do
    let current ← currentLedger stored expectedSequence fencingEpoch
    raiseIf (¬ current.reserved.Covers amount) "speech_reconciliation_unreserved_consumption"
    let reserved ← current.reserved.subtract amount
    let consumed ← current.consumed.add amount
    let used ← consumed.add reserved
    let remaining ← current.allocated.subtract used
    return (some current,
      { current with sequence := current.sequence + 1, reserved, consumed, remaining, stage })
  | .release expectedSequence fencingEpoch amount stage => do
    let current ← currentLedger stored expectedSequence fencingEpoch
    let reserved ← current.reserved.subtract amount
    let used ← current.consumed.add reserved
    let remaining ← current.allocated.subtract used
    return (some current,
      { current with sequence := current.sequence + 1, reserved, remaining, stage })
  | .rebindAttempt expectedSequence attemptId fencingEpoch stage =>
    match stored with
    | none => .error "speech_reconciliation_ledger_stale"
    | some current => do
      raiseIf (current.sequence ≠ expectedSequence) "speech_reconciliation_ledger_stale"
      raiseIf (fencingEpoch ≤ current.fencingEpoch) "speech_reconciliation_fence_stale"
      let remaining ← current.allocated.subtract current.consumed
      return (some current, { current with
        attemptId, fencingEpoch, sequence := current.sequence + 1, stage,
        reserved := .zero, remaining })

def SpeechCall.plan (call : SpeechCall) (stored : Option SpeechLedger) :
    Except String (Option SpeechLedger × SpeechLedger) := do
  let (current, updated) ← call.operation.updated call.jobId stored
  let ledger ← updated.validated
  raiseIf (call.prepared = false) "semantic_audit_unavailable"
  return (current, ledger)

/-- `_after_audit`. -/
def SpeechCall.settle (call : SpeechCall) (ledger : SpeechLedger) : Except String SpeechLedger :=
  if call.appended then .ok ledger else .error "semantic_audit_unavailable"

/-- What a call answers when its swap fails, where a ledger that was created already may be created
again. -/
def SpeechCall.conflict (call : SpeechCall) (stored : Option SpeechLedger) (ledger : SpeechLedger) :
    Except String SpeechLedger :=
  match call.operation with
  | .create .. => if stored = some ledger then call.settle ledger
      else .error "speech_reconciliation_ledger_conflict"
  | _ => .error "speech_reconciliation_ledger_stale"

/-- `SpeechReconciliationBudgetLedgerService` over a repository that compares and swaps. -/
def speechBudget : Protocol Str SpeechLedger SpeechCall String where
  version := SpeechLedger.sequence
  key := SpeechCall.jobId
  plan := SpeechCall.plan
  settle := SpeechCall.settle
  conflict := SpeechCall.conflict

variable {ledger current : SpeechLedger} {stored : Option SpeechLedger} {call : SpeechCall}

structure SpeechLedger.Conserved (ledger : SpeechLedger) : Prop where
  balanced : ∀ field, ledger.allocated field = ledger.reserved field + ledger.consumed field +
    ledger.remaining field
  nonneg : ∀ field, 0 ≤ ledger.allocated field ∧ 0 ≤ ledger.reserved field ∧
    0 ≤ ledger.consumed field ∧ 0 ≤ ledger.remaining field

/-- A ledger that is validated is conserved, and is what is stored. -/
lemma SpeechLedger.validated_spec {result : SpeechLedger} (valid : ledger.validated = .ok result) :
    result = ledger ∧ ledger.Conserved := by
  simp only [SpeechLedger.validated, ok_iff, not_not] at valid
  obtain ⟨_, _, _, bounded, used, added, expected, subtracted, _, same, _, _, _, _, rfl⟩ := valid
  obtain ⟨allocated, reserved, consumed, remaining⟩ := bounded
  refine ⟨rfl, fun field => ?_, fun field => ?_⟩
  · have first := SpeechResourceVector.add_eq added field
    have second := SpeechResourceVector.subtract_eq subtracted field
    rw [same]
    omega
  · exact ⟨(allocated field).1, (reserved field).1, (consumed field).1, (remaining field).1⟩

/-- The current ledger is the one that is stored, of the epoch that the call carries. -/
lemma currentLedger_spec {sequence fencingEpoch : Int}
    (found : currentLedger stored sequence fencingEpoch = .ok current) :
    stored = some current ∧ current.fencingEpoch = fencingEpoch := by
  unfold currentLedger at found
  split at found
  · cases found
  · simp only [ok_iff, not_not] at found
    obtain ⟨_, _, _, same, rfl⟩ := found
    exact ⟨rfl, same⟩

def SpeechCall.Consumes (call : SpeechCall) : Prop :=
  match call.operation with
  | .consume _ _ amount _ => ∀ field, 0 ≤ amount field
  | _ => True

structure SpeechLedger.Follows (ledger current : SpeechLedger) : Prop where
  allocated : ledger.allocated = current.allocated
  consumed : ∀ field, current.consumed field ≤ ledger.consumed field
  epoch : current.fencingEpoch ≤ ledger.fencingEpoch

lemma SpeechLedger.Follows.refl (ledger : SpeechLedger) : ledger.Follows ledger :=
  ⟨rfl, fun _ => le_rfl, le_rfl⟩

lemma SpeechLedger.Follows.trans {later : SpeechLedger} (second : later.Follows ledger)
    (first : ledger.Follows current) : later.Follows current :=
  ⟨second.allocated.trans first.allocated, fun field =>
    (first.consumed field).trans (second.consumed field),
    first.epoch.trans second.epoch⟩

/-- What a call plans: a ledger of its own epoch that is next to the one it goes by. -/
structure SpeechCall.Plans (call : SpeechCall) (read : Option SpeechLedger)
    (ledger : SpeechLedger) : Prop where
  conserved : ledger.Conserved
  epoch : ledger.fencingEpoch = call.operation.fencingEpoch
  follows : ∀ current ∈ read, ledger.Follows current ∧ ledger.sequence = current.sequence + 1

/-- What an operation that consumes no negative amounts makes of the stored ledger. -/
lemma SpeechOperation.updated_spec {operation : SpeechOperation} {jobId : Str}
    {read : Option SpeechLedger} (consumes : SpeechCall.Consumes { jobId, operation })
    (planned : operation.updated jobId stored = .ok (read, ledger)) :
    (read = none ∨ read = stored) ∧ ledger.fencingEpoch = operation.fencingEpoch ∧
      ∀ current ∈ read, ledger.Follows current ∧ ledger.sequence = current.sequence + 1 := by
  cases operation with
  | create attemptId fencingEpoch stage sourceDurationMs computeFactor allocated =>
    cases planned
    exact ⟨.inl rfl, rfl, nofun⟩
  | reserve expectedSequence fencingEpoch amount stage
  | release expectedSequence fencingEpoch amount stage =>
    simp only [SpeechOperation.updated, ok_iff, Prod.mk.injEq] at planned
    obtain ⟨current, found, _, _, _, _, _, _, rfl, rfl⟩ := planned
    obtain ⟨rfl, same⟩ := currentLedger_spec found
    refine ⟨.inr rfl, same, fun old read => ?_⟩
    cases read
    exact ⟨⟨rfl, fun _ => le_rfl, le_rfl⟩, rfl⟩
  | consume expectedSequence fencingEpoch amount stage =>
    simp only [SpeechOperation.updated, ok_iff, Prod.mk.injEq] at planned
    obtain ⟨current, found, _, _, _, _, consumed, added, _, _, _, _, rfl, rfl⟩ := planned
    obtain ⟨rfl, same⟩ := currentLedger_spec found
    refine ⟨.inr rfl, same, fun old read => ?_⟩
    cases read
    refine ⟨⟨rfl, fun field => ?_, le_rfl⟩, rfl⟩
    have more := consumes field
    have sum := SpeechResourceVector.add_eq added field
    dsimp only
    omega
  | rebindAttempt expectedSequence attemptId fencingEpoch stage =>
    unfold SpeechOperation.updated at planned
    dsimp only at planned
    split at planned
    · cases planned
    · simp only [ok_iff, Prod.mk.injEq, not_le] at planned
      obtain ⟨_, _, _, newer, _, _, rfl, rfl⟩ := planned
      refine ⟨.inr rfl, rfl, fun old read => ?_⟩
      cases read
      exact ⟨⟨rfl, fun _ => le_rfl, newer.le⟩, rfl⟩

/-- The service goes by what it reads. -/
lemma speechBudget_lawful : speechBudget.Lawful SpeechCall.Consumes SpeechCall.Plans where
  plan {call current read value} consumes planned := by
    simp only [speechBudget, SpeechCall.plan, ok_iff, Prod.mk.injEq] at planned
    obtain ⟨⟨source, updated⟩, made, ledger, valid, _, _, rfl, rfl⟩ := planned
    obtain ⟨rfl, conserved⟩ := SpeechLedger.validated_spec valid
    obtain ⟨known, epoch, follows⟩ := SpeechOperation.updated_spec consumes made
    exact ⟨known, conserved, epoch, follows⟩
  grows {call old value} plans := by
    have next := (plans.follows old rfl).2
    dsimp only [speechBudget]
    omega

/-- The state of the service: its ledgers, and its calls under way. -/
abbrev SpeechState := Shared Str SpeechLedger SpeechCall

variable {state : SpeechState} {input : Access SpeechCall}

/-- A state in which every stored ledger is conserved, and calls under way know what they should. -/
structure SpeechState.Kept (state : SpeechState) : Prop where
  sound : state.Sound speechBudget SpeechCall.Plans
  conserved : ∀ {jobId ledger}, state.values.get? jobId = some ledger → ledger.Conserved

/-- Each step keeps every stored ledger, or puts the next one in its place. -/
lemma SpeechState.Kept.next (kept : SpeechState.Kept state) (input : Access SpeechCall)
    {jobId : Str} (stored : state.values.get? jobId = some ledger) :
    ∃ later, (speechBudget.machine.step state input).2.values.get? jobId = some later ∧
      later.Follows ledger ∧ (later = ledger ∨ later.sequence = ledger.sequence + 1) := by
  rcases kept.sound.step_cases input with same | ⟨draft, _, _, plans, changed⟩
  · rw [same]
    exact ⟨ledger, stored, .refl ledger, .inl rfl⟩
  · rw [changed, get?_set]
    split
    · rename_i same
      rw [← same, stored] at plans
      obtain ⟨follows, sequence⟩ := plans.follows ledger rfl
      exact ⟨draft.value, rfl, follows, .inr sequence⟩
    · exact ⟨ledger, stored, .refl ledger, .inl rfl⟩

/-- Every step of a call that consumes no negative amounts keeps this. -/
lemma SpeechState.Kept.step (kept : SpeechState.Kept state)
    (consumes : input.Meets SpeechCall.Consumes) :
    SpeechState.Kept (speechBudget.machine.step state input).2 := by
  refine ⟨kept.sound.step speechBudget_lawful consumes, fun {jobId ledger} stored => ?_⟩
  rcases kept.sound.step_cases input with same | ⟨draft, _, _, plans, changed⟩
  · rw [same] at stored
    exact kept.conserved stored
  · rw [changed, get?_set] at stored
    split at stored
    · cases stored
      exact plans.conserved
    · exact kept.conserved stored

/-- From such a state on, every run follows each stored ledger. -/
lemma SpeechState.Kept.run {inputs : List (Access SpeechCall)} : ∀ {state : SpeechState},
    SpeechState.Kept state → (∀ input ∈ inputs, input.Meets SpeechCall.Consumes) →
      SpeechState.Kept (speechBudget.machine.after state inputs) ∧
      ∀ {jobId ledger}, state.values.get? jobId = some ledger →
        ∃ later, (speechBudget.machine.after state inputs).values.get? jobId = some later ∧
          later.Follows ledger := by
  induction inputs with
  | nil => exact fun kept _ => ⟨kept, fun {_ ledger} stored => ⟨ledger, stored, .refl ledger⟩⟩
  | cons input rest ih =>
    intro state kept consumes
    rw [List.forall_mem_cons] at consumes
    obtain ⟨ends, follows⟩ := ih (kept.step consumes.1) consumes.2
    refine ⟨ends, fun {jobId ledger} stored => ?_⟩
    obtain ⟨next, found, first, _⟩ := kept.next input stored
    obtain ⟨later, known, second⟩ := follows found
    exact ⟨later, known, second.trans first⟩

lemma kept_initial : SpeechState.Kept speechBudget.machine.initial :=
  ⟨sound_initial, fun stored => nomatch (initial_get? _).symm.trans stored⟩

/-- A call that is answered with a ledger carries an epoch that is not older than the stored one. -/
lemma SpeechState.Kept.accepted (kept : SpeechState.Kept state) {index : Nat}
    {draft : Draft SpeechLedger SpeechCall} (found : state.drafts[index]? = some draft)
    (answered : (speechBudget.machine.step state (.finish index)).1 = .ok (some ledger))
    (stored : state.values.get? draft.call.jobId = some current) :
    current.fencingEpoch ≤ draft.call.operation.fencingEpoch ∧
      (ledger = current ∧ (speechBudget.machine.step state (.finish index)).2.values =
        state.values ∨ ledger.sequence = current.sequence + 1 ∧
          (speechBudget.machine.step state (.finish index)).2.values.get? draft.call.jobId =
            some ledger) := by
  have listed := List.mem_of_getElem? found
  have plans := kept.sound.planned draft listed
  unfold machine at answered ⊢
  simp only [found] at answered ⊢
  split at answered
  · rename_i swaps
    have read := kept.sound.read_eq listed swaps
    obtain ⟨follows, sequence⟩ := plans.follows current (read.trans stored)
    simp only [if_pos swaps]
    have same : ledger = draft.value := by
      dsimp only [speechBudget, SpeechCall.settle] at answered
      split at answered
      · cases answered
        rfl
      · cases answered
    rw [same]
    exact ⟨plans.epoch ▸ follows.epoch, .inr ⟨sequence, get?_set_self ..⟩⟩
  · rename_i differs
    simp only [if_neg differs]
    -- Only a ledger that is stored already is created again.
    dsimp only [speechBudget, SpeechCall.conflict] at answered
    split at answered
    · split at answered
      · rename_i same
        have equal := Option.some.inj (stored.symm.trans same)
        unfold SpeechCall.settle at answered
        split at answered
        · cases answered
          exact ⟨equal ▸ plans.epoch.le, .inl ⟨equal.symm, trivial⟩⟩
        · cases answered
      · cases answered
    · cases answered

/-- Ledgers conserve their resources, and no call with an older epoch is accepted, if nothing
negative is consumed. -/
theorem speech_budget_conserved (inputs more : List (Access SpeechCall))
    (consumes : ∀ input ∈ inputs ++ more, input.Meets SpeechCall.Consumes) :
    let state := speechBudget.machine.after speechBudget.machine.initial inputs
    (∀ jobId ledger, state.values.get? jobId = some ledger → ledger.Conserved ∧
        (∃ later, (speechBudget.machine.after state more).values.get? jobId = some later ∧
          later.allocated = ledger.allocated ∧
            (∀ field, ledger.consumed field ≤ later.consumed field) ∧
          ledger.fencingEpoch ≤ later.fencingEpoch) ∧
        ∀ input, ∃ next, (speechBudget.machine.step state input).2.values.get? jobId = some next ∧
          (next = ledger ∨ next.sequence = ledger.sequence + 1)) ∧
      ∀ index draft ledger current, state.drafts[index]? = some draft →
        (speechBudget.machine.step state (.finish index)).1 = .ok (some ledger) →
        state.values.get? draft.call.jobId = some current →
        current.fencingEpoch ≤ draft.call.operation.fencingEpoch ∧
          (ledger = current ∧ (speechBudget.machine.step state (.finish index)).2.values =
            state.values ∨ ledger.sequence = current.sequence + 1 ∧
              (speechBudget.machine.step state (.finish index)).2.values.get? draft.call.jobId =
                some ledger) := by
  intro state
  rw [List.forall_mem_append] at consumes
  have kept := (kept_initial.run consumes.1).1
  refine ⟨fun jobId ledger stored => ⟨kept.conserved stored, ?_, fun input => ?_⟩,
    fun index draft ledger current => ?_⟩
  · obtain ⟨later, found, follows⟩ := (kept.run consumes.2).2 stored
    exact ⟨later, found, follows.allocated, follows.consumed, follows.epoch⟩
  · obtain ⟨next, found, _, either⟩ := kept.next input stored
    exact ⟨next, found, either⟩
  · exact kept.accepted

def wallTime (amount : Int) : SpeechResourceVector := fun field => if field = .wallTimeMs
    then amount else 0

def jobCall (operation : SpeechOperation) : Access SpeechCall :=
  .start { jobId := "job", operation }

/-- A ledger of which all that was reserved is consumed. -/
def spentRun : List (Access SpeechCall) :=
  [jobCall (.create "attempt" 1 "staging" 1000 1 (wallTime 10)), .finish 0,
    jobCall (.reserve 0 1 (wallTime 5) "staging"), .finish 0,
    jobCall (.consume 1 1 (wallTime 5) "staging"), .finish 0]

/-- The ledger is conserved. -/
theorem speech_budget_conserved_spent :
    ∃ ledger, (speechBudget.machine.after speechBudget.machine.initial spentRun).values.get? "job" =
      some ledger ∧ ledger.Conserved := by
  have amount : ∀ field, 0 ≤ wallTime 5 field := by decide
  obtain ⟨ledger, stored⟩ : ∃ ledger,
      (speechBudget.machine.after speechBudget.machine.initial spentRun).values.get?
      "job" = some ledger := Option.isSome_iff_exists.mp (by decide +kernel)
  refine ⟨ledger, stored, ((speech_budget_conserved spentRun [] ?_).1 _ ledger stored).1⟩
  simp [spentRun, jobCall, Access.Meets, SpeechCall.Consumes, amount]

/-- A negative amount is consumed, and the consumption goes back. -/
theorem negative_consumption_accepted :
    ((speechBudget.machine.after speechBudget.machine.initial spentRun).values.get? "job").map
        (·.consumed .wallTimeMs) = some 5 ∧
      ((speechBudget.machine.after speechBudget.machine.initial
        (spentRun ++ [jobCall (.consume 2 1 (wallTime (-5)) "staging"), .finish 0])).values.get?
          "job").map (·.consumed .wallTimeMs) = some 0 := by
  decide +kernel

end Ananta
