import Ananta.Library.Dict
import Ananta.Library.Machine
import Ananta.Python.Float
import Ananta.Python.Text

/-! Slots of workers and of the models they call: how the scheduler and the model runtime account
for them. -/

namespace Ananta

open Option List

/-- `OllamaParallelRuntimeService`: the slots held and waited for by endpoint and model. -/
structure ModelRuntime where
  active : Dict (Str × Str) (List (Nat × Float64)) := Dict.empty
  queued : Dict (Str × Str) (List Nat) := Dict.empty

/-- `_key`. -/
def slotKey (endpoint model : Str) : Str × Str := (lower (strip endpoint), strip model)

/-- The slots held under a key, with their deadlines. -/
def ModelRuntime.activeAt (runtime : ModelRuntime) (key : Str × Str) : List (Nat × Float64) :=
  (runtime.active.get? key).getD []

/-- The slots waited for under a key. -/
def ModelRuntime.queuedAt (runtime : ModelRuntime) (key : Str × Str) : List Nat :=
  (runtime.queued.get? key).getD []

/-- `OllamaSlotDecision`. -/
inductive SlotDecision where
  | active (leaseId : Nat)
  | queued (leaseId queuePosition : Nat)
  | rejected (reasonCode : String)

/-- `acquire_slot`, with the identifier that it draws. -/
def acquireSlot (runtime : ModelRuntime) (endpoint model : Str)
    (maxParallelRequests queueLimit leaseSeconds : Int) (backpressure : Str) (leaseId : Nat)
    (now : Float64) : SlotDecision × ModelRuntime :=
  let key := slotKey endpoint model
  let active := runtime.activeAt key
  let queue := runtime.queuedAt key
  if active.length < maxParallelRequests then
    (.active leaseId, { runtime with
      active := runtime.active.set key
        (active ++ [(leaseId, now + .ofInt (max 1 leaseSeconds))]) })
  else if backpressure = "reject_immediately"
    then (.rejected "ollama_model_parallel_capacity_exhausted", runtime)
  else if queueLimit ≤ queue.length then (.rejected "ollama_queue_full", runtime)
  else (.queued leaseId (queue.length + 1),
    { runtime with queued := runtime.queued.set key (queue ++ [leaseId]) })

/-- `release_slot`. -/
def releaseSlot (runtime : ModelRuntime) (endpoint model : Str) (leaseId : Nat) : ModelRuntime :=
  let key := slotKey endpoint model
  let active := runtime.activeAt key
  let queue := runtime.queuedAt key
  if leaseId ∈ active.map (·.1) then
    { runtime with active := runtime.active.set key (active.filter (·.1 ≠ leaseId)) }
  else if leaseId ∈ queue
    then { runtime with queued := runtime.queued.set key (queue.erase leaseId) }
  else runtime

inductive SlotStatus where
  | active | queued | rejected | released | staleReleased
  deriving DecidableEq

inductive LeaseType where
  | worker | combined
  deriving DecidableEq

structure SlotJob where
  workerKind : Option Str := none
  runtimeTargetId : Option Str := none
  runtimeKind : Option Str := none
  parentTaskId : Option Str := none
  workerJobId : Option Str := none

/-- A text without white space around it, unless nothing is left. -/
def given (value : Option Str) : Option Str :=
  let stripped := strip (value.getD [])
  if stripped = [] then none else some stripped

def SlotJob.given (job : SlotJob) : SlotJob :=
  ⟨Ananta.given job.workerKind, Ananta.given job.runtimeTargetId, Ananta.given job.runtimeKind,
    Ananta.given job.parentTaskId, Ananta.given job.workerJobId⟩

/-- `WorkerSlotLeaseDB`, whose identifiers are numbered in the order in which they are drawn. -/
structure SlotLease where
  id : Nat
  leaseType : LeaseType
  status : SlotStatus
  workerId : Option Str
  job : SlotJob
  ollamaEndpoint : Option Str := none
  ollamaModel : Option Str := none
  queuePosition : Option Nat := none
  reasonCode : String
  deadlineAt : Float64
  releasedAt : Option Float64 := none
  ollamaLeaseId : Option Nat := none
  policyDecisionRef : Option Str := none
  policyDecisionHash : Option Str := none

structure SlotRequest where
  selectedWorkerId : Option Str := none
  job : SlotJob := {}
  policyDecisionRef : Option Str := none
  policyDecisionHash : Option Str := none
  workerCapacity : Option Int := none
  runtimeCapacity : Option Int := none
  securityPolicyCap : Option Int := none
  workerQueueLimit : Option Int := none
  slotLeaseSeconds : Option Int := none
  ollamaEndpoint : Option Str := none
  ollamaModel : Option Str := none
  ollamaMaxParallelRequests : Option Int := none
  ollamaQueueLimit : Option Int := none
  ollamaBackpressure : Option Str := none

/-- A number that is at least one, where none and zero stand for a default. -/
def positive (value : Option Int) (default : Int) : Int :=
  max 1 (if value.getD 0 = 0 then default else value.getD 0)

/-- `compute_effective_concurrency_cap`, for no capacity of the model. -/
def effectiveConcurrencyCap (securityPolicyCap : Option Int)
    (workerCapacity runtimeCapacity : Int) : Int :=
  let cap := min (max 1 workerCapacity) (max 1 runtimeCapacity)
  match securityPolicyCap with
  | none => cap
  | some security => min cap (max 1 security)

/-- The leases of workers, the slots of models, and how many identifiers have been drawn. -/
structure SlotState where
  leases : List SlotLease := []
  runtime : ModelRuntime := {}
  drawn : Nat := 0

/-- `WorkerSlotDecision`. -/
structure WorkerSlotDecision where
  status : SlotStatus
  reasonCode : String
  slotLeaseId : Option Nat := none
  queuePosition : Option Nat := none
  selectedWorkerId : Option Str := none
  selectedRuntimeTargetId : Option Str := none
  ollamaEndpoint : Option Str := none
  ollamaModel : Option Str := none

def SlotState.ofWorker (state : SlotState) (status : SlotStatus) (workerId : Option Str) :
    List SlotLease :=
  state.leases.filter fun lease => lease.status = status ∧ lease.workerId = workerId

def SlotState.saved (state : SlotState) (runtime : ModelRuntime) (lease : SlotLease) : SlotState :=
  { leases := state.leases ++ [lease], runtime, drawn := lease.id + 1 }

/-- `acquire_for_job`, whose model slot and whose lease get the next two identifiers. -/
def acquireForJob (state : SlotState) (now : Float64) (request : SlotRequest) :
    WorkerSlotDecision × SlotState :=
  let workerId := given request.selectedWorkerId
  let workerCapacity := positive request.workerCapacity 1
  let runtimeCapacity := positive request.runtimeCapacity workerCapacity
  let maxParallel := effectiveConcurrencyCap request.securityPolicyCap workerCapacity
    runtimeCapacity
  let queue := state.ofWorker .queued workerId
  let seconds := positive request.slotLeaseSeconds 600
  let id := state.drawn + 1
  let lease : SlotLease :=
    { id, leaseType := .worker, status := .active, workerId, job := request.job.given,
      reasonCode := "slot_acquired"
      deadlineAt := now + .ofInt seconds, policyDecisionRef := given request.policyDecisionRef
      policyDecisionHash := given request.policyDecisionHash }
  let decision : WorkerSlotDecision :=
    { status := .active, reasonCode := "slot_acquired", slotLeaseId := some id,
      selectedWorkerId := workerId, selectedRuntimeTargetId := given request.job.runtimeTargetId }
  if maxParallel ≤ (state.ofWorker .active workerId).length then
    if positive request.workerQueueLimit 32 ≤ queue.length then
      let reasonCode := "worker_queue_full"
      ({ status := .rejected, reasonCode, slotLeaseId := some id },
        state.saved state.runtime
          { lease with
            status := .rejected, reasonCode, deadlineAt := now + 600, releasedAt := some now })
    else
      let reasonCode := "worker_parallel_capacity_exhausted"
      let queuePosition := some (queue.length + 1)
      ({ decision with status := .queued, reasonCode, queuePosition },
        state.saved state.runtime { lease with status := .queued, reasonCode, queuePosition })
  else match given request.ollamaEndpoint, given request.ollamaModel with
    | some endpoint, some model =>
      let decision := { decision with ollamaEndpoint := some endpoint, ollamaModel := some model }
      let lease := { lease with
        leaseType := .combined, ollamaEndpoint := some endpoint, ollamaModel := some model }
      match acquireSlot state.runtime endpoint model (positive request.ollamaMaxParallelRequests 4)
          (positive request.ollamaQueueLimit 64)
            seconds (request.ollamaBackpressure.getD "queue_then_reject")
          state.drawn now with
      | (.rejected reasonCode, runtime) =>
        ({ decision with status := .rejected, reasonCode, slotLeaseId := none },
          { state with runtime })
      | (.queued slot position, runtime) =>
        let reasonCode := "ollama_queued"
        ({ decision with status := .queued, reasonCode, queuePosition := some position },
          state.saved runtime
            { lease with
              status := .queued, reasonCode, queuePosition := some position,
              ollamaLeaseId := some slot })
      | (.active slot, runtime) =>
          (decision, state.saved runtime { lease with ollamaLeaseId := some slot })
    | ollamaEndpoint, ollamaModel =>
      ({ decision with ollamaEndpoint, ollamaModel },
        state.saved state.runtime { lease with ollamaEndpoint, ollamaModel })

/-- The slot that a lease names to the model runtime: its endpoint, its model, and its
identifier. -/
def SlotLease.modelSlot (lease : SlotLease) : Option (Str × Str × Nat) :=
  match lease.ollamaEndpoint, lease.ollamaModel, lease.ollamaLeaseId with
  | some endpoint, some model, some slot => if endpoint ≠ [] ∧ model ≠ []
      then some (endpoint, model, slot) else none
  | _, _, _ => none

def releaseModelSlot (runtime : ModelRuntime) (lease : SlotLease) : ModelRuntime :=
  match lease.modelSlot with
  | some (endpoint, model, slot) => releaseSlot runtime endpoint model slot
  | none => runtime

def changeLease (id : Nat) (change : SlotLease → SlotLease) (leases : List SlotLease) :
    List SlotLease :=
  leases.map fun lease => if lease.id = id then change lease else lease

/-- `release` of the repository, for one row. -/
def SlotLease.closed (status : SlotStatus) (now : Float64) (lease : SlotLease) : SlotLease :=
  if lease.status = .released ∨ lease.status = .rejected ∨ lease.status = .staleReleased then lease
  else { lease with status, releasedAt := some now }

def SlotState.release (state : SlotState) (status : SlotStatus) (now : Float64)
    (lease : SlotLease) : SlotState :=
  { state with
    runtime := releaseModelSlot state.runtime lease
    leases := changeLease lease.id (·.closed status now) state.leases }

/-- `release_for_job`. -/
def releaseForJob (state : SlotState) (now : Float64) (slotLeaseId : Option Nat) : SlotState :=
  match slotLeaseId.bind fun id => state.leases.find? (·.id = id) with
  | none => state
  | some lease => state.release .released now lease

/-- `cleanup_stale_leases`. -/
def cleanupStaleLeases (state : SlotState) (now : Float64) : SlotState :=
  let stale := state.leases.filter fun lease =>
    (lease.status = .active ∨ lease.status = .queued) ∧ lease.deadlineAt < now
  stale.foldl (fun state lease => state.release .staleReleased now lease) state

/-- The arguments of `revalidate_queued_job`. -/
structure Revalidation where
  slotLeaseId : Nat
  policyDecisionRef : Option Str := none
  policyDecisionHash : Option Str := none
  workerOnline : Bool := true
  policyAllowed : Bool := true
  capacityAvailable : Bool := true

/-- The decision that a lease was queued under is not the current one. -/
def Revalidation.Stale (call : Revalidation) (lease : SlotLease) : Prop :=
  ∃ old ∈ lease.policyDecisionHash, ∃ current ∈ call.policyDecisionHash, old ≠ [] ∧ current ≠ [] ∧
    old ≠ current
  deriving Decidable

/-- `revalidate_queued_job`. -/
def revalidateQueuedJob (state : SlotState) (now : Float64) (call : Revalidation) :
    WorkerSlotDecision × SlotState :=
  let slotLeaseId := some call.slotLeaseId
  match state.leases.find? (·.id = call.slotLeaseId) with
  | none => ({ status := .rejected, reasonCode := "unknown_slot_lease", slotLeaseId }, state)
  | some lease =>
    let save (change : SlotLease → SlotLease) :=
      { state with leases := changeLease call.slotLeaseId change state.leases }
    let reject (reasonCode : String) : WorkerSlotDecision × SlotState :=
      ({ status := .rejected, reasonCode, slotLeaseId },
        save fun lease => { lease with status := .rejected, reasonCode, releasedAt := some now })
    let requeue (reasonCode : String) : WorkerSlotDecision × SlotState :=
      ({ status := .queued, reasonCode, slotLeaseId, queuePosition := lease.queuePosition }, state)
    if lease.status ≠ .queued
      then ({ status := lease.status, reasonCode := "lease_not_queued", slotLeaseId }, state)
    else if call.Stale lease then reject "stale_policy_decision"
    else if call.policyAllowed = false then reject "policy_denied_on_revalidation"
    else if call.workerOnline = false then requeue "worker_offline_requeue"
    else if call.capacityAvailable = false then requeue "capacity_not_available_requeue"
    else
      let reasonCode := "queued_revalidated_and_started"
      ({ status := .active, reasonCode, slotLeaseId, selectedWorkerId := lease.workerId
         selectedRuntimeTargetId := lease.job.runtimeTargetId,
         ollamaEndpoint := lease.ollamaEndpoint
         ollamaModel := lease.ollamaModel },
        save fun lease => { lease with status := .active, reasonCode, queuePosition := none })

inductive SlotCall where
  | acquireForJob (request : SlotRequest)
  | releaseForJob (slotLeaseId : Option Nat)
  | revalidateQueuedJob (call : Revalidation)
  | cleanupStaleLeases

/-- The scheduler and the model runtime as a machine, whose calls come with a reading of the
clock. -/
def slotMachine : Machine SlotState (Float64 × SlotCall) (Option WorkerSlotDecision) where
  initial := {}
  step state input :=
    match input.2 with
    | .acquireForJob request =>
      let (decision, state) := Ananta.acquireForJob state input.1 request
      (some decision, state)
    | .releaseForJob slotLeaseId => (none, Ananta.releaseForJob state input.1 slotLeaseId)
    | .revalidateQueuedJob call =>
      let (decision, state) := Ananta.revalidateQueuedJob state input.1 call
      (some decision, state)
    | .cleanupStaleLeases => (none, Ananta.cleanupStaleLeases state input.1)

variable {state : SlotState} {runtime later : ModelRuntime} {lease other : SlotLease}
  {pair : (Str × Str) × Nat} {status : SlotStatus} {now : Float64}

def ModelRuntime.Active (runtime : ModelRuntime) (pair : (Str × Str) × Nat) : Prop :=
  pair.2 ∈ (runtime.activeAt pair.1).map (·.1)

def ModelRuntime.Queued (runtime : ModelRuntime) (pair : (Str × Str) × Nat) : Prop :=
  pair.2 ∈ runtime.queuedAt pair.1

def SlotLease.slotAt (lease : SlotLease) : Option ((Str × Str) × Nat) :=
  lease.modelSlot.map fun slot => (slotKey slot.1 slot.2.1, slot.2.2)

lemma activeAt_set (key another : Str × Str) (slots : List (Nat × Float64)) :
    ModelRuntime.activeAt { runtime with active := runtime.active.set key slots } another =
      if another = key then slots else runtime.activeAt another := by
  unfold ModelRuntime.activeAt
  rw [get?_set]
  split <;> rfl

lemma queuedAt_set (key another : Str × Str) (slots : List Nat) :
    ModelRuntime.queuedAt { runtime with queued := runtime.queued.set key slots } another =
      if another = key then slots else runtime.queuedAt another := by
  unfold ModelRuntime.queuedAt
  rw [get?_set]
  split <;> rfl

/-- No slot is held and waited for at once, none is waited for twice, and each key keeps to its
limit. -/
structure ModelRuntime.Orderly (limit : Str × Str → Nat) (runtime : ModelRuntime) : Prop where
  once : ∀ pair, ¬ (runtime.Active pair ∧ runtime.Queued pair)
  distinct : ∀ key, (runtime.queuedAt key).Nodup
  bounded : ∀ key, (runtime.activeAt key).length ≤ limit key

/-- Releasing a lease's slot takes that slot away, wherever it is held, and no other. -/
lemma releaseModelSlot_spec {limit : Str × Str → Nat} (lease : SlotLease)
    (orderly : runtime.Orderly limit) :
    (∀ pair, (releaseModelSlot runtime lease).Active pair ↔ runtime.Active pair ∧
      lease.slotAt ≠ some pair) ∧
      (∀ pair, (releaseModelSlot runtime lease).Queued pair ↔ runtime.Queued pair ∧
        lease.slotAt ≠ some pair) ∧
      (releaseModelSlot runtime lease).Orderly limit := by
  unfold releaseModelSlot SlotLease.slotAt
  cases lease.modelSlot with
  | none => simpa using orderly
  | some named =>
    obtain ⟨endpoint, model, slot⟩ := named
    dsimp only [map_some]
    unfold releaseSlot
    generalize slotKey endpoint model = key
    have differs : ∀ pair : (Str × Str) × Nat, some (key, slot) ≠ some pair ↔ pair.1 = key →
        pair.2 ≠ slot := by
      rintro ⟨another, id⟩
      simp only [ne_eq, some.injEq, Prod.mk.injEq, not_and]
      exact ⟨fun apart same => (apart same.symm ·.symm), fun apart same => (apart same.symm ·.symm)⟩
    simp only [differs]
    split
    · rename_i held
      -- The slot is held, so it cannot wait in the queue as well.
      have waiting :
          ∀ pair : (Str × Str) × Nat, runtime.Queued pair → pair.1 = key → pair.2 ≠ slot := by
        rintro ⟨another, id⟩ queued rfl rfl
        exact orderly.once _ ⟨held, queued⟩
      have holding : ∀ pair, ModelRuntime.Active
          ⟨runtime.active.set key ((runtime.activeAt key).filter (·.1 ≠ slot)),
            runtime.queued⟩ pair ↔
          runtime.Active pair ∧ (pair.1 = key → pair.2 ≠ slot) := by
        intro pair
        unfold ModelRuntime.Active
        rw [activeAt_set]
        split
        · rename_i same
          simp [same]
        · rename_i another
          simp [another]
      refine ⟨holding, fun pair => (and_iff_left_of_imp (waiting pair)).symm, ?_, orderly.distinct,
        fun another => ?_⟩
      · exact fun pair both => orderly.once pair ⟨((holding pair).mp both.1).1, both.2⟩
      · rw [activeAt_set]
        split
        · rename_i same
          rw [same]
          exact (length_filter_le ..).trans (orderly.bounded key)
        · exact orderly.bounded another
    · rename_i free
      -- The slot is not held: it is looked for in the queue.
      have holding :
          ∀ pair : (Str × Str) × Nat, runtime.Active pair → pair.1 = key → pair.2 ≠ slot := by
        rintro ⟨another, id⟩ active rfl rfl
        exact free active
      split
      · have waiting : ∀ pair, ModelRuntime.Queued
            ⟨runtime.active, runtime.queued.set key ((runtime.queuedAt key).erase slot)⟩ pair ↔
            runtime.Queued pair ∧ (pair.1 = key → pair.2 ≠ slot) := by
          intro pair
          unfold ModelRuntime.Queued
          rw [queuedAt_set]
          split
          · rename_i same
            rw [same, (orderly.distinct key).mem_erase_iff]
            simp [and_comm]
          · rename_i another
            simp [another]
        refine ⟨fun pair => (and_iff_left_of_imp (holding pair)).symm, waiting, ?_, fun another =>
          ?_, orderly.bounded⟩
        · exact fun pair both => orderly.once pair ⟨both.1, ((waiting pair).mp both.2).1⟩
        · rw [queuedAt_set]
          split
          · exact (orderly.distinct key).erase slot
          · exact orderly.distinct another
      · rename_i absent
        refine ⟨fun pair => (and_iff_left_of_imp (holding pair)).symm,
          fun pair => (and_iff_left_of_imp ?_).symm, orderly⟩
        intro queued same equal
        rw [ModelRuntime.Queued, same, equal] at queued
        exact absent queued

/-- What holds between calls: each slot held by the model runtime is the slot of one lease in the
same state. -/
structure SlotState.Accounted (limit : Str × Str → Nat) (state : SlotState) : Prop where
  runtime : state.runtime.Orderly limit
  active : ∀ pair, state.runtime.Active pair ↔ ∃ lease ∈ state.leases, lease.status = .active ∧
    lease.slotAt = some pair
  queued : ∀ pair, state.runtime.Queued pair ↔ ∃ lease ∈ state.leases, lease.status = .queued ∧
    lease.slotAt = some pair
  ids : state.leases.Pairwise (·.id ≠ ·.id)
  apart : state.leases.Pairwise fun lease other => ∀ slot ∈ lease.ollamaLeaseId,
    slot ∉ other.ollamaLeaseId
  drawn : ∀ lease ∈ state.leases, lease.id < state.drawn ∧
    ∀ slot ∈ lease.ollamaLeaseId, slot < state.drawn
  named : ∀ lease ∈ state.leases, ∀ slot ∈ lease.ollamaLeaseId, ∃ key,
    lease.slotAt = some (key, slot)

lemma SlotLease.mem_of_slotAt (holds : lease.slotAt = some pair) :
    pair.2 ∈ lease.ollamaLeaseId := by
  unfold SlotLease.slotAt SlotLease.modelSlot at holds
  grind

lemma SlotLease.slotAt_of_slotless (slotless : lease.ollamaLeaseId = none) :
    lease.slotAt ≠ some pair := by
  intro holds
  have found := SlotLease.mem_of_slotAt holds
  rw [slotless] at found
  exact nomatch found

variable {limit : Str × Str → Nat}

section

variable (accounted : state.Accounted limit)
include accounted

section

variable (listed : lease ∈ state.leases)
include listed

lemma SlotState.Accounted.same
    (also : other ∈ state.leases) (same : lease.id = other.id) : lease = other := by
  by_contra differ
  have symmetric : Std.Symm fun lease other : SlotLease => lease.id ≠ other.id :=
    ⟨fun _ _ apart => apart.symm⟩
  exact accounted.ids.forall listed also differ same

lemma SlotState.Accounted.owner
    (also : other ∈ state.leases) (holds : lease.slotAt = some pair)
    (claims : other.slotAt = some pair) : lease = other := by
  by_contra differ
  have symmetric : Std.Symm fun lease other : SlotLease => ∀ slot ∈ lease.ollamaLeaseId,
    slot ∉ other.ollamaLeaseId :=
    ⟨fun _ _ apart slot held also => apart slot also held⟩
  exact accounted.apart.forall listed also differ _ (SlotLease.mem_of_slotAt holds)
    (SlotLease.mem_of_slotAt claims)

omit listed in
/-- Changing one lease, but neither its identifier nor its slot, keeps the account if the runtime
follows. -/
lemma SlotState.Accounted.change {id : Nat} {change : SlotLease → SlotLease}
    (orderly : later.Orderly limit)
    (kept : ∀ row, (change row).id = row.id ∧ (change row).slotAt = row.slotAt ∧
      (change row).ollamaLeaseId = row.ollamaLeaseId)
    (active : ∀ pair, later.Active pair ↔
      ∃ row ∈ changeLease id change state.leases, row.status = .active ∧ row.slotAt = some pair)
    (queued : ∀ pair, later.Queued pair ↔
      ∃ row ∈ changeLease id change state.leases, row.status = .queued ∧ row.slotAt = some pair) :
    SlotState.Accounted limit
    { state with runtime := later, leases := changeLease id change state.leases } := by
  have each : ∀ row, (if row.id = id then change row else row).id = row.id ∧
      (if row.id = id then change row else row).slotAt = row.slotAt ∧
      (if row.id = id then change row else row).ollamaLeaseId = row.ollamaLeaseId := by
    intro row
    split
    · exact kept row
    · exact ⟨rfl, rfl, rfl⟩
  refine ⟨orderly, active, queued, ?_, ?_, ?_, ?_⟩
  · rw [changeLease, pairwise_map]
    simpa only [(each _).1] using accounted.ids
  · rw [changeLease, pairwise_map]
    simpa only [(each _).2.2] using accounted.apart
  · intro changed member
    obtain ⟨row, known, rfl⟩ := mem_map.mp member
    rw [(each row).1, (each row).2.2]
    exact accounted.drawn row known
  · intro changed member
    obtain ⟨row, known, rfl⟩ := mem_map.mp member
    rw [(each row).2.1, (each row).2.2]
    exact accounted.named row known

/-- Releasing a lease together with its slot keeps the account. -/
lemma SlotState.Accounted.release
    (ended : status ≠ .active ∧ status ≠ .queued) :
    (state.release status now lease).Accounted limit := by
  obtain ⟨active, queued, orderly⟩ := releaseModelSlot_spec lease accounted.runtime
  -- The row that is released is in neither state afterwards, and all others are as they were.
  have change : ∀ row : SlotLease,
      ((row.closed status now).id = row.id ∧ (row.closed status now).slotAt = row.slotAt ∧
      (row.closed status now).ollamaLeaseId = row.ollamaLeaseId) ∧
        (row.closed status now).status ≠ .active ∧
      (row.closed status now).status ≠ .queued := by
    intro row
    unfold SlotLease.closed
    split
    · grind
    · exact ⟨⟨rfl, rfl, rfl⟩, ended⟩
  have rows : ∀ wanted : SlotStatus, wanted = .active ∨ wanted = .queued → ∀ pair,
      (∃ row ∈ changeLease lease.id (·.closed status now) state.leases, row.status = wanted ∧
        row.slotAt = some pair) ↔
        (∃ row ∈ state.leases, row.status = wanted ∧ row.slotAt = some pair) ∧
          lease.slotAt ≠ some pair := by
    intro wanted which pair
    constructor
    · rintro ⟨changed, member, status, holds⟩
      obtain ⟨row, known, rfl⟩ := mem_map.mp member
      split at status
      · grind
      · rename_i another
        rw [if_neg another] at holds
        refine ⟨⟨row, known, status, holds⟩, fun claims => another ?_⟩
        rw [accounted.owner known listed holds claims]
    · rintro ⟨⟨row, member, status, holds⟩, free⟩
      refine ⟨row, mem_map.mpr ⟨row, member, if_neg fun same => free ?_⟩, status, holds⟩
      rwa [← accounted.same member listed same]
  refine accounted.change orderly (fun row => (change row).1) (fun pair => ?_) fun pair => ?_
  · rw [rows .active (.inl rfl), ← accounted.active]
    exact active pair
  · rw [rows .queued (.inr rfl), ← accounted.queued]
    exact queued pair

end

omit accounted in
/-- Releasing one lease after another keeps the account. -/
lemma SlotState.Accounted.releaseEach (ended : status ≠ .active ∧ status ≠ .queued) :
    ∀ {stale : List SlotLease}
    {state : SlotState}, state.Accounted limit → (∀ lease ∈ stale, lease ∈ state.leases) →
      stale.Pairwise (·.id ≠ ·.id) →
      (stale.foldl (fun state lease => state.release status now lease) state).Accounted limit
  | [], _, accounted, _, _ => accounted
  | lease :: rest, state, accounted, listed, apart => by
    rw [forall_mem_cons] at listed
    rw [pairwise_cons] at apart
    rw [foldl_cons]
    refine releaseEach ended (accounted.release listed.1 ended) (fun other later => ?_) apart.2
    exact mem_map.mpr ⟨other, listed.2 other later, if_neg fun same =>
      apart.1 other later same.symm⟩

/-- Changing the state of a lease that names no slot keeps the account. -/
lemma SlotState.Accounted.changed {id : Nat} {change : SlotLease → SlotLease}
    (slotless : ∀ lease ∈ state.leases, lease.id = id → lease.ollamaLeaseId = none)
    (kept : ∀ row, (change row).id = row.id ∧ (change row).slotAt = row.slotAt ∧
      (change row).ollamaLeaseId = row.ollamaLeaseId) :
    SlotState.Accounted limit { state with leases := changeLease id change state.leases } := by
  have rows : ∀ wanted pair,
      (∃ row ∈ changeLease id change state.leases, row.status = wanted ∧ row.slotAt = some pair) ↔
        ∃ row ∈ state.leases, row.status = wanted ∧ row.slotAt = some pair := by
    intro wanted pair
    constructor
    · rintro ⟨changed, member, status, holds⟩
      obtain ⟨row, known, rfl⟩ := mem_map.mp member
      grind [SlotLease.slotAt_of_slotless]
    · rintro ⟨row, member, status, holds⟩
      refine ⟨row, mem_map.mpr ⟨row, member, if_neg fun same => ?_⟩, status, holds⟩
      exact SlotLease.slotAt_of_slotless (slotless row member same) holds
  refine accounted.change accounted.runtime kept (fun pair => ?_) fun pair => ?_
  · rw [rows]
    exact accounted.active pair
  · rw [rows]
    exact accounted.queued pair

/-- Saving a new lease with the slot that was acquired for it keeps the account. -/
lemma SlotState.Accounted.saved (orderly : later.Orderly limit)
    (fresh : state.drawn < lease.id ∧ ∀ slot ∈ lease.ollamaLeaseId, slot = state.drawn)
    (named : ∀ slot ∈ lease.ollamaLeaseId, ∃ key, lease.slotAt = some (key, slot))
    (active : ∀ pair, later.Active pair ↔ state.runtime.Active pair ∨
      (lease.status = .active ∧ lease.slotAt = some pair))
    (queued : ∀ pair, later.Queued pair ↔ state.runtime.Queued pair ∨
      (lease.status = .queued ∧ lease.slotAt = some pair)) :
    (state.saved later lease).Accounted limit := by
  have rows : ∀ wanted pair,
      (∃ row ∈ state.leases ++ [lease], row.status = wanted ∧ row.slotAt = some pair) ↔
      (∃ row ∈ state.leases, row.status = wanted ∧ row.slotAt = some pair) ∨
        (lease.status = wanted ∧ lease.slotAt = some pair) := by
    intro wanted pair
    simp only [mem_append, mem_singleton, or_and_right, exists_or, exists_eq_left]
  refine ⟨orderly, fun pair => ?_, fun pair => ?_, ?_, ?_, ?_, ?_⟩
  · rw [SlotState.saved, rows, ← accounted.active]
    exact active pair
  · rw [SlotState.saved, rows, ← accounted.queued]
    exact queued pair
  · refine pairwise_append.mpr
      ⟨accounted.ids, pairwise_singleton .., fun row member new only same => ?_⟩
    rw [mem_singleton.mp only] at same
    have bound := (accounted.drawn row member).1
    omega
  · refine pairwise_append.mpr
      ⟨accounted.apart, pairwise_singleton .., fun row member new only slot held also => ?_⟩
    rw [mem_singleton.mp only] at also
    have bound := (accounted.drawn row member).2 slot held
    have drawn := fresh.2 slot also
    omega
  · intro row member
    rw [SlotState.saved] at member ⊢
    dsimp only
    rcases mem_append.mp member with old | new
    · obtain ⟨first, second⟩ := accounted.drawn row old
      exact ⟨by omega, fun slot held => by have bound := second slot held; omega⟩
    grind
  · intro row member
    rcases mem_append.mp member with old | new
    · exact accounted.named row old
    · rwa [mem_singleton.mp new]

/-- Saving a new lease without a slot keeps the account. -/
lemma SlotState.Accounted.savedSlotless (fresh : lease.id = state.drawn + 1)
    (slotless : lease.ollamaLeaseId = none) :
    (state.saved state.runtime lease).Accounted limit := by
  refine accounted.saved accounted.runtime ⟨by omega, ?_⟩ ?_ (fun pair => ?_) fun pair => ?_
  · rw [slotless]
    nofun
  · rw [slotless]
    nofun
  · simp [SlotLease.slotAt_of_slotless slotless]
  · simp [SlotLease.slotAt_of_slotless slotless]

omit accounted in
/-- What the model runtime does with a request for a new slot. -/
lemma acquireSlot_spec (orderly : runtime.Orderly limit) {endpoint model : Str} {id : Nat}
    {maxParallelRequests : Int} (constant : maxParallelRequests = limit (slotKey endpoint model))
    (fresh : ∀ key, ¬ runtime.Active (key, id) ∧ ¬ runtime.Queued (key, id))
    (queueLimit leaseSeconds : Int) (now : Float64) (backpressure : Str) :
    let outcome := acquireSlot runtime endpoint model maxParallelRequests queueLimit leaseSeconds
      backpressure id now
    (∃ reason, outcome = (.rejected reason, runtime)) ∨ outcome.2.Orderly limit ∧
      ((outcome.1 = .active id ∧
          (∀ pair, outcome.2.Active pair ↔ runtime.Active pair ∨
            some (slotKey endpoint model, id) = some pair) ∧
          ∀ pair, outcome.2.Queued pair ↔ runtime.Queued pair) ∨
        (∃ position, outcome.1 = .queued id position) ∧
          (∀ pair, outcome.2.Active pair ↔ runtime.Active pair) ∧
          ∀ pair, outcome.2.Queued pair ↔ runtime.Queued pair ∨
            some (slotKey endpoint model, id) = some pair) := by
  unfold acquireSlot
  generalize slotKey endpoint model = key at constant
  have equal :
      ∀ pair : (Str × Str) × Nat, some (key, id) = some pair ↔ pair.1 = key ∧ pair.2 = id := by
    rintro ⟨another, slot⟩
    simp only [some.injEq, Prod.mk.injEq]
    exact ⟨fun same => ⟨same.1.symm, same.2.symm⟩, fun same => ⟨same.1.symm, same.2.symm⟩⟩
  simp only [equal]
  split
  · -- There is room: the new slot becomes active at once.
    have holding : ∀ pair, ModelRuntime.Active
        ⟨runtime.active.set key (runtime.activeAt key ++ [(id, now + .ofInt (max 1 leaseSeconds))]),
          runtime.queued⟩ pair ↔
        runtime.Active pair ∨ (pair.1 = key ∧ pair.2 = id) := by
      intro pair
      unfold ModelRuntime.Active
      rw [activeAt_set]
      split
      · rename_i same
        simp [same]
      · rename_i another
        simp [another]
    refine .inr ⟨⟨fun pair both => ?_, orderly.distinct, fun another => ?_⟩,
      .inl ⟨rfl, holding, fun pair => Iff.rfl⟩⟩
    · rcases (holding pair).mp both.1 with old | new
      · exact orderly.once pair ⟨old, both.2⟩
      · have queued := both.2
        rw [ModelRuntime.Queued, new.2] at queued
        exact (fresh pair.1).2 queued
    · rw [activeAt_set]
      split
      · grind
      · exact orderly.bounded another
  · split
    · exact .inl ⟨_, rfl⟩
    · split
      · exact .inl ⟨_, rfl⟩
      · -- All slots are taken, and the queue has room.
        have waiting : ∀ pair, ModelRuntime.Queued
            ⟨runtime.active, runtime.queued.set key (runtime.queuedAt key ++ [id])⟩ pair ↔
            runtime.Queued pair ∨ (pair.1 = key ∧ pair.2 = id) := by
          intro pair
          unfold ModelRuntime.Queued
          rw [queuedAt_set]
          split
          · rename_i same
            simp [same]
          · rename_i another
            simp [another]
        refine .inr ⟨⟨fun pair both => ?_, fun another => ?_, orderly.bounded⟩,
          .inr ⟨⟨_, rfl⟩, fun pair => Iff.rfl, waiting⟩⟩
        · rcases (waiting pair).mp both.2 with old | new
          · exact orderly.once pair ⟨both.1, old⟩
          · have active : runtime.Active pair := both.1
            grind
        · rw [queuedAt_set]
          split
          · refine nodup_append.mpr
              ⟨orderly.distinct key, nodup_singleton id, fun slot old other new same => ?_⟩
            rw [same, mem_singleton.mp new] at old
            exact (fresh key).2 old
          · exact orderly.distinct another

/-- Identifiers that have not been drawn are not held. -/
lemma SlotState.Accounted.unheld (key : Str × Str) :
    ¬ state.runtime.Active (key, state.drawn) ∧ ¬ state.runtime.Queued (key, state.drawn) := by
  have old : ∀ row ∈ state.leases, row.slotAt ≠ some (key, state.drawn) := fun row member holds =>
    absurd ((accounted.drawn row member).2 _ (SlotLease.mem_of_slotAt holds)) (Nat.lt_irrefl _)
  refine ⟨fun active => ?_, fun queued => ?_⟩
  · obtain ⟨row, member, _, holds⟩ := (accounted.active _).mp active
    exact old row member holds
  · obtain ⟨row, member, _, holds⟩ := (accounted.queued _).mp queued
    exact old row member holds

def SlotRequest.Constant (limit : Str × Str → Nat) (request : SlotRequest) : Prop :=
  ∀ endpoint ∈ given request.ollamaEndpoint, ∀ model ∈ given request.ollamaModel,
    positive request.ollamaMaxParallelRequests 4 = limit (slotKey endpoint model)

omit accounted in
lemma given_ne_nil {value : Option Str} {stripped : Str} (found : given value = some stripped) :
    stripped ≠ [] := by
  unfold given at found
  grind

/-- Acquiring keeps the account. -/
lemma SlotState.Accounted.acquireForJob {request : SlotRequest}
    (constant : request.Constant limit) : (acquireForJob state now request).2.Accounted limit := by
  unfold Ananta.acquireForJob
  dsimp only
  split
  · split
    · exact accounted.savedSlotless rfl rfl
    · exact accounted.savedSlotless rfl rfl
  · split
    · rename_i endpoint model server llm
      have nonempty : endpoint ≠ [] ∧ model ≠ [] := ⟨given_ne_nil server, given_ne_nil llm⟩
      have known := acquireSlot_spec accounted.runtime (constant _ server _ llm) accounted.unheld
        (positive request.ollamaQueueLimit 64) (positive request.slotLeaseSeconds 600) now
        (request.ollamaBackpressure.getD "queue_then_reject")
      dsimp only at known
      revert known
      generalize acquireSlot _ _ _ _ _ _ _ _ _ = outcome
      intro known
      obtain ⟨decision, runtime⟩ := outcome
      dsimp only at known
      rcases known with ⟨reason, same⟩ | ⟨orderly,
        ⟨decided, active, queued⟩ | ⟨⟨position, decided⟩, active, queued⟩⟩
      · cases same
        exact accounted
      -- The lease is saved under its own slot, which is active in one case and waits in the other.
      all_goals
        subst decided
        refine accounted.saved orderly
          ⟨Nat.lt_succ_self _, fun slot held => (some.inj held).symm⟩ ?_ ?_ ?_
        · intro slot held
          cases held
          refine ⟨slotKey endpoint model, ?_⟩
          rw [SlotLease.slotAt, SlotLease.modelSlot]
          dsimp only
          rw [if_pos nonempty]
          rfl
        · intro pair
          simp [active, SlotLease.slotAt, SlotLease.modelSlot, nonempty]
        · intro pair
          simp [queued, SlotLease.slotAt, SlotLease.modelSlot, nonempty]
    · exact accounted.savedSlotless rfl rfl

omit accounted in
lemma find_lease {id : Nat} (found : state.leases.find? (·.id = id) = some lease) :
    lease ∈ state.leases ∧ lease.id = id :=
  ⟨mem_of_find?_eq_some found, by simpa using find?_some found⟩

def Revalidation.Spares (call : Revalidation) (state : SlotState) : Prop :=
  ∀ lease ∈ state.leases, lease.id = call.slotLeaseId → lease.status = .queued →
    lease.ollamaLeaseId = none ∨
    (¬ call.Stale lease ∧ call.policyAllowed = true ∧
      (call.workerOnline = false ∨ call.capacityAvailable = false))

/-- Such a call keeps the account. -/
lemma SlotState.Accounted.revalidateQueuedJob {call : Revalidation}
    (spares : call.Spares state) : (revalidateQueuedJob state now call).2.Accounted limit := by
  unfold Ananta.revalidateQueuedJob
  dsimp only
  split
  · exact accounted
  · rename_i lease found
    obtain ⟨listed, named⟩ := find_lease found
    have slotless : lease.ollamaLeaseId = none → ∀ row ∈ state.leases, row.id = call.slotLeaseId →
        row.ollamaLeaseId = none := by
      intro none row member same
      rwa [accounted.same member listed (same.trans named.symm)]
    split
    · exact accounted
    · rename_i queued
      have spared := spares lease listed named (not_not.mp queued)
      split
      · rename_i stale
        exact accounted.changed (slotless (spared.resolve_right fun kept => kept.1 stale)) fun _ =>
          ⟨rfl, rfl, rfl⟩
      · split
        · rename_i denied
          refine accounted.changed (slotless (spared.resolve_right fun kept => ?_)) fun _ =>
            ⟨rfl, rfl, rfl⟩
          exact Bool.noConfusion (denied.symm.trans kept.2.1)
        · split
          · exact accounted
          · rename_i online
            split
            · exact accounted
            · rename_i available
              refine accounted.changed (slotless (spared.resolve_right fun kept => ?_)) fun _ =>
                ⟨rfl, rfl, rfl⟩
              exact kept.2.2.elim online available

/-- The condition of a call: the limit of a model stays the same, and no lease with a slot is
revalidated. -/
def SlotCall.Spares (limit : Str × Str → Nat) (state : SlotState) : SlotCall → Prop
  | .acquireForJob request => request.Constant limit
  | .revalidateQueuedJob call => call.Spares state
  | _ => True

/-- Every such call keeps the account. -/
lemma SlotState.Accounted.step {input : Float64 × SlotCall}
    (spares : input.2.Spares limit state) : (slotMachine.step state input).2.Accounted limit := by
  obtain ⟨now, call⟩ := input
  cases call with
  | acquireForJob request => exact accounted.acquireForJob spares
  | releaseForJob slotLeaseId =>
    show (releaseForJob state now slotLeaseId).Accounted limit
    unfold releaseForJob
    split
    · exact accounted
    · rename_i lease found
      obtain ⟨id, _, found⟩ := bind_eq_some_iff.mp found
      exact accounted.release (find_lease found).1 ⟨nofun, nofun⟩
  | revalidateQueuedJob call => exact accounted.revalidateQueuedJob spares
  | cleanupStaleLeases =>
    show (cleanupStaleLeases state now).Accounted limit
    have ended : SlotStatus.staleReleased ≠ .active ∧ SlotStatus.staleReleased ≠ .queued :=
      ⟨nofun, nofun⟩
    refine SlotState.Accounted.releaseEach ended accounted (fun lease stale => ?_) ?_
    · exact (mem_filter.mp stale).1
    · exact accounted.ids.filter _

end

end Ananta
