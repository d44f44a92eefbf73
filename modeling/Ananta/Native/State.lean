import Ananta.Events.Store
import Ananta.Native.Evaluator
import Ananta.Ownership.Store
import Ananta.Plan.Scheduler
import Ananta.Security.Command
import Ananta.SideEffects.Record

/-! The state of a Native run, what surrounds it, and the events that it announces. -/

namespace Ananta

open Call Dict

inductive RunStatus where
  | running
  | paused
  | waitingForApproval
  | completed
  | failed
  | cancelled
  deriving DecidableEq

def RunStatus.name : RunStatus → Str
  | running => "running"
  | paused => "paused"
  | waitingForApproval => "waiting_for_approval"
  | completed => "completed"
  | failed => "failed"
  | cancelled => "cancelled"

/-- What a run remembers of a delegated node, without the reference to its grant. -/
structure RunningTask where
  (hubTaskId commandId attemptId : Str)
  fencingToken : Int
  ownerId : Str
  ownershipRevision : Int
  operationId : Str
  deriving DecidableEq

/-- `NativeRunState`, together with the secret references that its checkpoint carries. -/
structure NativeRunState where
  status : RunStatus := .running
  inputData : Fields := []
  nodeResults : Dict Str Value := empty
  artifactRefs : Dict Str Str := empty
  completed : Finset Str := ∅
  skipped : Finset Str := ∅
  failed : Dict Str Str := empty
  running : Dict Str RunningTask := empty
  approvedGates : Finset Str := ∅
  openGates : Dict Str Str := empty
  attempts : Dict Str Int := empty
  budgetUsage : Dict Str Int := empty
  eventSequence : Int := 0
  planRevision : Int := 1
  tenantParallelLimit : Int := 1
  workerParallelLimit : Int := 1
  reasonCode : Str := []
  basePlanHash : Str := []
  effectivePlan : ExecutionPlan
  secretRefs : List Str := []
  lastCommandId : Str := []
  lastCommandFingerprint : Str := []
  deriving DecidableEq

namespace NativeRunState

/-- The nodes that are done with. -/
def terminal (state : NativeRunState) : Finset Str :=
  state.completed ∪ state.skipped ∪ state.failed.keys.toFinset

/-- `_condition_context`. -/
def conditionContext (state : NativeRunState) : Fields :=
  [("input", .dict state.inputData), ("results", .dict state.nodeResults.entries),
    ("artifacts", .dict (state.artifactRefs.entries.map fun entry => (entry.1, .str entry.2))),
    ("status", .str state.status.name)]

end NativeRunState

/-- `NativeGraphRequest`. -/
structure NativeGraphRequest where
  plan : ExecutionPlan
  runId : Str
  controlTaskId : Str
  inputData : Fields := []
  secretRefs : List Str := []
  tenantParallelLimit : Int := 4
  workerParallelLimit : Int := 4

/-- `NATIVE_NODE_RESULT_SCHEMA`. -/
def nativeNodeResultSchema : Str := "ananta.native_node_result.v1"

/-- `NativeNodeResult`. -/
structure NativeNodeResult where
  (resultId commandId hubTaskId tenantId workflowId runId nodeId attemptId : Str)
  fencingToken : Int
  status : Str
  outputData : Fields := []
  artifactRefs : Dict Str Str := empty
  budgetUsage : Dict Str Int := empty
  reasonCode : Str := []
  sideEffectStatus : Str := []
  schema : Str := nativeNodeResultSchema

/-- Whether a character may stand in a reason code behind its first letter. -/
def isReasonPoint (point : CodePoint) : Bool :=
  isLetter point || (0x30 ≤ point.val && point.val ≤ 0x39) || (text "_.:,-").contains point

/-- Whether a text is a letter and then a bounded number of admitted characters. -/
def isReasonCode (limit : Nat) : Str → Bool
  | [] => false
  | first :: rest => isLetter first && rest.length ≤ limit && rest.all isReasonPoint

/-- `safe_native_reason_code`. -/
def safeNativeReasonCode (reason : Str) : Str :=
  if isReasonCode 239 (strip reason) then strip reason else "native_graph_failed"

/-- `NativeNodeResult.assert_valid`, where the amounts of a budget are whole numbers. -/
def NativeNodeResult.assertValid (result : NativeNodeResult) : Except Fault Unit := do
  raiseIf ([] ∈ [result.resultId, result.commandId, result.hubTaskId, result.tenantId,
    result.workflowId,
    result.runId, result.nodeId, result.attemptId])
      ⟨.valueError, "native_node_result_binding_required"⟩
  raiseIf (result.schema ≠ nativeNodeResultSchema)
    ⟨.valueError, "native_node_result_schema_unsupported"⟩
  raiseIf (result.status ∉ [text "completed", text "failed", text "cancelled"])
    ⟨.valueError, "native_node_result_status_invalid"⟩
  raiseIf (result.fencingToken < 1) ⟨.valueError, "native_node_result_fencing_invalid"⟩
  raiseIf (containsSensitiveKeys (.dict result.outputData))
    ⟨.valueError, "native_node_result_embedded_secret_denied"⟩
  raiseIf (result.reasonCode ≠ [] ∧ isReasonCode 159 result.reasonCode = false)
    ⟨.valueError, "native_node_result_reason_code_invalid"⟩
  raiseIf (∃ amount ∈ result.budgetUsage.values, amount < 0)
    ⟨.valueError, "native_node_result_budget_invalid"⟩

inductive AttemptEvent where
  | delegated
  | completed
  | retry
  | failed
  deriving DecidableEq

inductive NodeEvent where
  | routeSkipped
  | merged
  | checkpointNode
  deriving DecidableEq

inductive GateEvent where
  | requested
  | paused
  deriving DecidableEq

inductive CommandEvent where
  | rejected
  | granted
  | resumed
  | paused
  | cancelled
  | retry
  | planEdited
  deriving DecidableEq

/-- The identities under which a run emits its events. -/
inductive EmissionKey where
  | started
  | completed
  | failed (sequence : Int)
  | checkpoint (revision : Int)
  | attempt (event : AttemptEvent) (nodeId attemptId : Str)
  | node (event : NodeEvent) (nodeId : Str)
  | gate (event : GateEvent) (gateId : Str)
  | command (event : CommandEvent) (commandId : Str)
  deriving DecidableEq

namespace EmissionKey

/-- The part of a key in front of its last colon. -/
def stem : EmissionKey → Str
  | started | completed => []
  | failed _ => "failed:"
  | checkpoint _ => "checkpoint:"
  | attempt _ nodeId attemptId => nodeId ++ ":" ++ attemptId ++ ":"
  | node _ nodeId => nodeId ++ ":"
  | gate _ gateId => gateId ++ ":"
  | command _ commandId => commandId ++ ":"

/-- The part of a key behind its last colon. -/
def word : EmissionKey → Str
  | started => "started"
  | completed => "completed"
  | failed sequence => decimal sequence
  | checkpoint revision => decimal revision
  | attempt .delegated _ _ => "delegated"
  | attempt .completed _ _ => "completed"
  | attempt .retry _ _ => "retry"
  | attempt .failed _ _ => "failed"
  | node .routeSkipped _ => "route-skipped"
  | node .merged _ => "merged"
  | node .checkpointNode _ => "checkpoint-node"
  | gate .requested _ => "requested"
  | gate .paused _ => "paused"
  | command .rejected _ => "rejected"
  | command .granted _ => "granted"
  | command .resumed _ => "resumed"
  | command .paused _ => "paused"
  | command .cancelled _ => "cancelled"
  | command .retry _ => "retry"
  | command .planEdited _ => "plan-edited"

/-- The dedupe key of an event of a run. -/
def render (runId : Str) (key : EmissionKey) : Str :=
  "native:" ++ runId ++ ":" ++ key.stem ++ key.word

def eventType : EmissionKey → Str
  | started => "workflow.run.started"
  | completed => "workflow.run.completed"
  | failed _ => "workflow.run.failed"
  | checkpoint _ => "workflow.checkpoint.created"
  | attempt .delegated _ _ => "workflow.step.delegated"
  | attempt .completed _ _ => "workflow.step.completed"
  | attempt .retry _ _ => "workflow.step.retry_scheduled"
  | attempt .failed _ _ => "workflow.step.failed"
  | node .routeSkipped _ => "workflow.step.skipped"
  | node .merged _ | node .checkpointNode _ => "workflow.step.completed"
  | gate .requested _ => "workflow.approval.requested"
  | gate .paused _ | command .paused _ => "workflow.run.paused"
  | command .rejected _ => "workflow.approval.rejected"
  | command .granted _ => "workflow.approval.granted"
  | command .resumed _ => "workflow.run.resumed"
  | command .cancelled _ => "workflow.run.cancelled"
  | command .retry _ => "workflow.run.retry_requested"
  | command .planEdited _ => "workflow.plan.edited"

end EmissionKey

/-- What a caller of `_emit` tells about an event. -/
structure Emission where
  key : EmissionKey
  stepId : Str := []
  attempt : Int := 0
  actor : Str := "hub"
  payload : Fields := []

/-- The answers of what surrounds a run, where the first argument tells answers to repeated
questions apart. -/
structure NativePorts where
  -- The readings of the clock, the identifiers drawn, and whether the process survives up to an
  -- effect.
  clock : Nat → Float64
  uuid : Nat → Str
  alive : Nat → Bool
  -- The model library, the plan hash, and the schemas of compiled components.
  routing : RoutingModel
  planHash : ExecutionPlan → Str
  validateOutput : ExecutionNode → Fields → Except Fault Unit
  -- The policy, the provider decision, and the signed authorization with its grant.
  authorizeDelegation : Nat → ExecutionPlan → ExecutionNode → NativeRunState → Bool × Str
  authorizeCommand : Nat → SignedWorkflowCommand → ExecutionPlan → NativeRunState → Bool × Str
  declinedProvider : Nat → ExecutionPlan → ExecutionNode → Option Str
  grant : Nat → ExecutionPlan → ExecutionNode → ExecutionOwnership → Except Fault Unit
  -- The ledger: the operation of a write or why the run fails for it, and the record of an
  -- operation.
  authorizeSideEffect : Nat → ExecutionNode → Int → Except Fault (Except Str Str)
  ledger : Nat → Str → Option SideEffectRecord
  -- The queue: the identifier of an accepted task or why the run fails for it.
  submit : Nat → Str → Except Fault (Except Str Str)
  -- The check of a state that is to be signed, of a signed checkpoint that is loaded, and of a
  -- presented command.
  storable : NativeRunState → Except Fault Unit
  verifyCheckpoint : NativeRunState → ExecutionPlan → Except Fault Unit
  verify : Nat → Bool → SignedWorkflowCommand → Nat → ExecutionPlan → Except Fault Unit
  fingerprint : SignedWorkflowCommand → Str
  replacement : Nat → SignedWorkflowCommand → Except Fault ExecutionPlan

/-- The state in memory, and what outlives a call. -/
structure NativeWorld where
  state : NativeRunState
  events : InMemoryEventStore := .empty
  ownership : OwnershipStore := .empty
  -- The nodes and commands handed to the queue, and the states saved as checkpoints, oldest first.
  submitted : List (Str × Str) := []
  checkpoints : List NativeRunState := []
  -- The readings, identifiers and effects used so far.
  moment : Nat := 0
  drawn : Nat := 0
  effects : Nat := 0
  -- The dedupe keys under which an event was emitted although the run had one, and why claims were
  -- refused.
  repeats : List Str := []
  refusals : List String := []

/-- A call on a run. -/
abbrev NativeM (α : Type) : Type := Call Fault NativeWorld α

def modifyState (update : NativeRunState → NativeRunState) : NativeM Unit :=
  write fun world => { world with state := update world.state }

def getState : NativeM NativeRunState := do
  let world ← read
  return world.state

variable (ports : NativePorts) (request : NativeGraphRequest)

def readClock : NativeM Float64 := do
  let world ← read
  write fun world => { world with moment := world.moment + 1 }
  return ports.clock world.moment

def drawUuid : NativeM Str := do
  let world ← read
  write fun world => { world with drawn := world.drawn + 1 }
  return ports.uuid world.drawn

def effect : NativeM Unit := do
  let world ← read
  write fun world => { world with effects := world.effects + 1 }
  raiseIf (ports.alive world.effects = false) (Fault.mk .interrupted "process ended")

def onOwnership {α : Type} (call : OwnershipM α) : NativeM α := do
  effect ports
  focus (·.ownership) (fun world ownership => { world with ownership }) call

def appendNative (event : CanonicalWorkflowEvent) : NativeM Unit := do
  effect ports
  let state ← getState
  let stored ← focus (·.events) (fun world events => { world with events })
    (appendEvent event state.eventSequence)
  modifyState fun state => { state with eventSequence := stored.sequence }

/-- The payload entry that every event of a run carries. -/
def runtimeObservation (plan : ExecutionPlan) : Str × Value :=
  ("runtime_observation", .dict
    [("task_id", .str request.controlTaskId), ("runtime", .str "ananta-native"),
      ("mode", .str "live"), ("capabilities", .list (plan.capabilities.map .str)),
      ("stale_after_seconds", .float 300), ("degraded", .bool false)])

/-- The event that `CanonicalWorkflowEvent.build` makes of an emission. -/
def nativeEvent (plan : ExecutionPlan) (emission : Emission) (occurredAt : Float64) (uuid : Str) :
    CanonicalWorkflowEvent :=
  { tenantId := plan.tenantId
    workflowId := plan.workflowId
    runId := request.runId
    eventType := strip emission.key.eventType
    correlationId := strip request.runId
    causationId := strip request.controlTaskId
    dedupeKey := strip (emission.key.render request.runId)
    stepId := strip emission.stepId
    attempt := emission.attempt
    actor := orElse (strip (orElse emission.actor "system")) "system"
    occurredAt
    payload := redactFields (emission.payload ++ [runtimeObservation request plan])
    eventId := "wfe-" ++ uuid }

/-- Note the dedupe key of an event if the run already has an event under it. -/
def noteRepeat (event : CanonicalWorkflowEvent) : NativeM Unit :=
  write fun world =>
    if (world.events.dedupe.get? (event.logKey, event.dedupeKey)).isSome then
      { world with repeats := event.dedupeKey :: world.repeats }
    else world

/-- `_emit`. -/
def emit (plan : ExecutionPlan) (emission : Emission) : NativeM Unit := do
  let occurredAt ← readClock ports
  let uuid ← drawUuid ports
  let event := nativeEvent request plan emission occurredAt uuid
  event.assertValid true
  noteRepeat event
  appendNative ports event

/-- Change the state and emit the event that tells so. -/
def announce (plan : ExecutionPlan) (update : NativeRunState → NativeRunState)
    (emission : Emission) : NativeM Unit := do
  modifyState update
  emit ports request plan emission

end Ananta
