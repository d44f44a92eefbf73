import Ananta.Native.Passes

/-! The calls on a Native run: starting it, advancing it, and resuming it with a signed command. -/

namespace Ananta

open Fault Call

/-- A text as part of a message, where lone surrogates are replaced. -/
def displayed (value : Str) : String := String.ofList (value.map fun point => Char.ofNat point.val)

/-- `NativeGraphRequest.assert_valid`. -/
def NativeGraphRequest.assertValid (model : RoutingModel) (request : NativeGraphRequest) :
    Except Fault Unit := do
  request.plan.assertValid model
  raiseIf (request.runId = [] ∨ request.controlTaskId = [])
    ⟨.valueError, "native_graph_request_binding_required"⟩
  raiseIf (request.tenantParallelLimit < 1 ∨ request.workerParallelLimit < 1)
    ⟨.valueError, "native_graph_parallel_limit_invalid"⟩
  raiseIf (∃ value ∈ request.secretRefs, ¬ "://" <:+: value)
    ⟨.valueError, "native_graph_secret_reference_invalid"⟩

/-- The capabilities of the runtime, and those that it leaves to the nodes. -/
def nativeCapabilities : List String :=
  ["approval", "bounded_parallel", "checkpoint", "deterministic_merge", "resume", "stream",
    "subgraphs", "retrieval", "structured_output", "tool_calling"]

/-- `str(metadata.get("operation_name") or metadata.get("declared_operation") or "").strip()`. -/
def ExecutionNode.operationName (node : ExecutionNode) : Str :=
  strip (node.declared "operation_name" (node.declared "declared_operation" []))

def ExecutionNode.nativeReasons (node : ExecutionNode) : Except Fault (List Str) := do
  let known := ["task", "merge", "checkpoint", "component"].any fun name =>
    node.nodeType = text name
  let writes := ["idempotent_write", "non_idempotent_write"].any fun name => node.sideEffectClass =
    text name
  let strategy ← ((node.metadata.get "merge_strategy").getD .none).memberOf
    ["ordered-by-node-id", "object-by-node-id"]
  let partialFailure ← ((node.metadata.get "partial_failure").getD (.str "fail")).memberOf
    ["fail", "omit"]
  let merge := node.nodeType = "merge"
  return (if known then [] else ["native_node_type_unsupported:" ++ node.nodeType]) ++
    (if writes ∧ node.operationName = [] then ["native_declared_operation_required:" ++ node.nodeId]
      else []) ++
    (if merge ∧ strategy = false then ["native_merge_strategy_invalid:" ++ node.nodeId] else []) ++
    (if merge ∧ partialFailure = false then ["native_merge_partial_failure_invalid:" ++ node.nodeId]
      else [])

/-- The reason codes of `validate`. -/
def nativeReasons (model : RoutingModel) (plan : ExecutionPlan) : Except Fault (List Str) := do
  let issues ← plan.validate model
  let nodes ← plan.nodes.mapM (·.nativeReasons)
  let unsupported := plan.capabilities.filter fun name => nativeCapabilities.all fun known =>
    name ≠ text known
  return sortedTexts (issues.map (fun issue => text issue.code) ++
    unsupported.map (text "native_capability_unsupported:" ++ ·) ++ nodes.flatten).dedup

/-- Raise unless the runtime has nothing against a plan. -/
def assertNative (model : RoutingModel) (plan : ExecutionPlan) (reason : String) :
    Except Fault Unit := do
  let reasons ← nativeReasons model plan
  raiseIf (reasons ≠ []) ⟨.valueError, reason ++ ":" ++ displayed (joined reasons)⟩

section

variable (ports : NativePorts) (request : NativeGraphRequest) (plan : ExecutionPlan)

variable (command : SignedWorkflowCommand)

def commandEmission (event : CommandEvent) (payload : Fields) : Emission where
  key := .command event command.commandId
  stepId := command.stepId
  actor := command.actorId
  payload

def commandEntry : Str × Value := ("command_id", .str command.commandId)

namespace NativeRunState

variable (state : NativeRunState)

def gateOpenFor (nodeId : Str) : Str :=
  ((state.openGates.entries.find? (·.2 = nodeId)).map (·.1)).getD []

def rejected (gateId nodeId : Str) : NativeRunState :=
  { state with
    openGates := state.openGates.erase gateId
    failed := state.failed.set nodeId "native_approval_rejected" }

def approved (gateId : Str) : NativeRunState :=
  { state with
    approvedGates := insert gateId state.approvedGates
    openGates := state.openGates.erase gateId
    status := .running }

def retried (stepId : Str) : NativeRunState :=
  let target := strip stepId
  { state with
    failed := if target ≠ [] ∧ target ≠ "__workflow__" then state.failed.erase target
      else Dict.empty
    status := .running
    reasonCode := [] }

end NativeRunState

/-- Answer an open gate, where `resume` answers the gates of its own kind only. -/
def answerGate (gateId : Str) : NativeM ExecutionPlan := do
  let entry := (text "gate_id", Value.str gateId)
  let resume := command.commandType = "resume"
  match plan.gates.find? (·.gateId = gateId) with
  | none => raises ⟨.stopIteration, ""⟩
  | some gate =>
    raiseIf (gate.requiredRoles ≠ [] ∧ ∀ role ∈ gate.requiredRoles, role ∉ command.actorRoles)
      (mk .permissionError "native_command_gate_role_denied")
    if command.commandType = "reject" then
      announce ports request plan (·.rejected gateId command.stepId)
        (commandEmission command .rejected [entry, commandEntry command])
      failRun ports request plan "native_approval_rejected"
      return plan
    else
      raiseIf (resume ∧ gate.gateType ≠ "resume")
        (mk .valueError "native_resume_gate_type_mismatch")
      raiseIf (¬ resume ∧ gate.gateType = "resume")
        (mk .valueError "native_resume_command_required")
      announce ports request plan (·.approved gateId)
        (commandEmission command .granted [entry, commandEntry command])
      if resume then
        announce ports request plan id (commandEmission command .resumed [entry])
        return plan
      else
        return plan

def gateCommand : NativeM ExecutionPlan := do
  let state ← getState
  let gateId := state.gateOpenFor command.stepId
  if command.commandType = "resume" ∧ gateId = [] ∧ state.status = .paused then
    announce ports request plan (fun state => { state with status := .running })
      (commandEmission command .resumed [commandEntry command])
    return plan
  else if gateId = [] then
    raises ⟨.valueError, "native_command_gate_not_open"⟩
  else
    answerGate ports request plan command gateId

def ExecutionNode.alike (left right : ExecutionNode) : Bool :=
  { left with metadata := Dict.empty } = { right with metadata := Dict.empty } &&
    Value.equal (.dict left.metadata.entries) (.dict right.metadata.entries)

/-- `_assert_safe_plan_edit`. -/
def assertSafePlanEdit (replacement : ExecutionPlan) (state : NativeRunState) :
    Except Fault Unit := do
  raiseIf (replacement.tenantId ≠ plan.tenantId ∨ replacement.workflowId ≠ plan.workflowId)
    ⟨.valueError, "native_plan_edit_binding_mismatch"⟩
  raiseIf (replacement.policyVersion ≠ plan.policyVersion)
    ⟨.valueError, "native_plan_edit_policy_change_denied"⟩
  raiseIf (∃ capability ∈ replacement.capabilities, capability ∉ plan.capabilities)
    ⟨.valueError, "native_plan_edit_capability_escalation"⟩
  -- The nodes are looked up by identifier, and a node that the current plan lacks is a missing key.
  raiseIf (∃ nodeId ∈ state.completed ∪ state.running.keys.toFinset,
      (replacement.nodeNamed nodeId).isSome ∧ plan.nodeNamed nodeId = none)
        ⟨.keyError, "current_nodes"⟩
  raiseIf (∃ nodeId ∈ state.completed ∪ state.running.keys.toFinset,
      ∀ kept ∈ replacement.nodeNamed nodeId, ∀ node ∈ plan.nodeNamed nodeId,
        kept.alike node = false)
    ⟨.valueError, "native_plan_edit_executed_node_changed"⟩

/-- Replace the plan of a run, where a request for changes also pauses it. -/
def editPlan : NativeM ExecutionPlan := do
  let world ← read
  raiseIf (world.state.running.entries ≠ [])
    (mk .valueError "native_plan_edit_running_tasks_denied")
  let replacement ← ports.replacement world.effects command
  raiseIf (ports.planHash replacement ≠
    digitsOf (payloadGet command.payload "replacement_plan_hash"))
    (mk .valueError "native_replacement_plan_hash_mismatch")
  assertSafePlanEdit plan replacement world.state
  assertNative ports.routing replacement "native_replacement_plan_invalid"
  let revision := world.state.planRevision + 1
  announce ports request replacement
    (fun state => { state with planRevision := revision, effectivePlan := replacement })
    (commandEmission command .planEdited
      [("previous_plan_hash", .str (ports.planHash plan)),
        ("plan_hash", .str (ports.planHash replacement)), ("plan_revision", .int revision),
        ("command_type", .str command.commandType)])
  if command.commandType = "request_changes" then
    modifyState fun state => { state with status := .paused }
    return replacement
  else
    return replacement

/-- `_apply_command`. -/
def applyCommand : NativeM ExecutionPlan := do
  let state ← getState
  if command.commandType ∈ [text "approve", text "reject", text "resume"] then
    gateCommand ports request plan command
  else if command.commandType = "pause" then
    announce ports request plan (fun state => { state with status := .paused })
      (commandEmission command .paused [commandEntry command])
    return plan
  else if command.commandType = "cancel" then
    cancelRunning ports request plan "native_operator_cancel"
    announce ports request plan
      (fun state => { state with status := .cancelled, reasonCode := "native_operator_cancelled" })
      (commandEmission command .cancelled
        [commandEntry command, (text "reason_code", .str (text "native_operator_cancelled"))])
    return plan
  else if command.commandType = "retry" then
    raiseIf (state.status ≠ .failed ∧ state.status ≠ .cancelled)
      (mk .valueError "native_retry_terminal_failure_required")
    announce ports request plan (·.retried command.stepId)
      (commandEmission command .retry [commandEntry command])
    return plan
  else if command.commandType ∈ [text "edit", text "request_changes"] then
    editPlan ports request plan command
  else
    raises ⟨.valueError, "native_command_type_unsupported"⟩

end

variable (ports : NativePorts) (request : NativeGraphRequest)

/-- The form of a state in a checkpoint, whose dictionaries are sorted. -/
def NativeRunState.stored (state : NativeRunState) : NativeRunState :=
  { state with
    running := state.running.sorted (· ≤ ·)
    openGates := state.openGates.sorted (· ≤ ·)
    secretRefs := request.secretRefs }

/-- `NativeGraphCheckpointService.save`, where a checkpoint stands for the state it carries. -/
def saveCheckpoint (plan : ExecutionPlan) : NativeM Unit := do
  let world ← read
  let revision : Int := world.checkpoints.length + 1
  emit ports request plan
    { key := .checkpoint revision
      payload := [("revision", .int revision), ("runtime_id", .str "ananta-native")] }
  let _ ← readClock ports
  let state ← getState
  ports.storable state
  effect ports
  write fun world => { world with checkpoints := world.checkpoints ++ [state.stored request] }

/-- A node as `from_mapping` reads it back, where the class of its side effects is a known one. -/
def ExecutionNode.reread (node : ExecutionNode) : ExecutionNode :=
  { node with
    nodeId := strip node.nodeId
    nodeType := strip (orElse node.nodeType "task")
    taskKind := strip (orElse node.taskKind "coding")
    requiredCapabilities := cleanTuple node.requiredCapabilities
    allowedTools := cleanTuple node.allowedTools
    inputArtifacts := cleanTuple node.inputArtifacts
    outputArtifacts := cleanTuple node.outputArtifacts
    gateId := strip node.gateId }

/-- An edge as `from_mapping` reads it back. -/
def ExecutionEdge.reread (edge : ExecutionEdge) : ExecutionEdge where
  source := strip edge.source
  target := strip edge.target
  condition := if edge.condition.truthy then edge.condition else .dict [("op", .str "always")]

/-- `ExecutionPlan.from_mapping` of the dictionary of a plan, up to its checks. -/
def ExecutionPlan.reread (plan : ExecutionPlan) : ExecutionPlan :=
  { plan with
    tenantId := strip plan.tenantId
    planId := strip plan.planId
    workflowId := strip plan.workflowId
    policyVersion := strip plan.policyVersion
    nodes := plan.nodes.map (·.reread)
    edges := plan.edges.map (·.reread)
    capabilities := cleanTuple plan.capabilities
    gates := plan.gates.map fun gate =>
      { gateId := strip gate.gateId, gateType := strip (orElse gate.gateType "approval"),
        requiredRoles := cleanTuple gate.requiredRoles }
    artifacts := plan.artifacts.map fun artifact =>
      { artifact with artifactId := strip artifact.artifactId }
    schema := orElse plan.schema executionPlanSchema }

/-- Take up a checkpointed state as `load_verified` does, and `effective_plan` of it. -/
def loadState (state : NativeRunState) : NativeM ExecutionPlan := do
  modifyState fun _ => state
  raiseIf (ports.planHash request.plan ≠ state.basePlanHash)
    (mk .valueError "native_graph_base_plan_binding_mismatch")
  let plan := state.effectivePlan.reread
  -- The hash that is stored with a plan is taken to tell it from every other one.
  raiseIf (plan ≠ state.effectivePlan) (mk (.contractValidationError
    [{ code := "execution_plan_hash_mismatch", path := "" }]) "execution_plan_hash_mismatch")
  plan.assertValid ports.routing
  raiseIf (plan.tenantId ≠ request.plan.tenantId ∨ plan.workflowId ≠ request.plan.workflowId ∨
    plan.policyVersion ≠ request.plan.policyVersion)
    (mk .valueError "native_graph_effective_plan_binding_mismatch")
  ports.verifyCheckpoint state plan
  -- This is `_assert_request_state_binding`.
  raiseIf (Value.equal (.dict state.inputData) (.dict request.inputData) = false)
    (mk .valueError "native_graph_input_binding_mismatch")
  raiseIf (sortedTexts state.secretRefs ≠ sortedTexts request.secretRefs)
    (mk .valueError "native_graph_secret_refs_binding_mismatch")
  raiseIf (state.tenantParallelLimit ≠ request.tenantParallelLimit ∨
    state.workerParallelLimit ≠ request.workerParallelLimit)
    (mk .valueError "native_graph_parallel_limit_binding_mismatch")
  return plan

def NativeRunState.fresh : NativeRunState where
  inputData := request.inputData
  tenantParallelLimit := request.tenantParallelLimit
  workerParallelLimit := request.workerParallelLimit
  basePlanHash := ports.planHash request.plan
  effectivePlan := request.plan

/-- `start`, for a runtime without a component compiler. -/
def start (results : List NativeNodeResult) : NativeM Unit := do
  request.assertValid ports.routing
  let plan := request.plan
  assertNative ports.routing plan "native_graph_plan_invalid"
  let world ← read
  raiseIf (world.checkpoints ≠ []) (mk .valueError "native_graph_run_already_exists")
  announce ports request plan (fun _ => .fresh ports request)
    { key := .started
      payload := [("runtime_id", .str "ananta-native"), ("plan_hash", .str (ports.planHash plan))] }
  tick ports request plan results
  saveCheckpoint ports request plan

/-- `advance`. -/
def advance (results : List NativeNodeResult) : NativeM Unit := do
  request.assertValid ports.routing
  let world ← read
  match world.checkpoints.getLast? with
  | none => raises ⟨.keyError, "native_graph_checkpoint_not_found"⟩
  | some state =>
    let plan ← loadState ports request state
    if state.status = .running then
      tick ports request plan results
      saveCheckpoint ports request plan
    else
      return ()

/-- What is presented to `resume`, where an older checkpoint is named by its revision. -/
structure Resumption where
  command : SignedWorkflowCommand
  presented : Option Nat := none
  admittedReplay : Bool := false

def Resumption.base (resumption : Resumption) (checkpoints : List NativeRunState) :
    Option (Nat × NativeRunState) :=
  let revision := resumption.presented.getD checkpoints.length
  if revision = 0 then none else checkpoints[revision - 1]?.map fun state => (revision, state)

/-- `resume`. -/
def resume (resumption : Resumption) (results : List NativeNodeResult) : NativeM Unit := do
  request.assertValid ports.routing
  let command := resumption.command
  let world ← read
  match resumption.base world.checkpoints with
  | none => raises ⟨.keyError, "native_graph_checkpoint_not_found"⟩
  | some (revision, state) =>
    let plan ← loadState ports request state
    let _ ← readClock ports
    ports.verify world.effects resumption.admittedReplay command revision plan
    if state.lastCommandId = command.commandId then
      -- The checkpoint is the receipt of a command that was applied before.
      raiseIf (state.lastCommandFingerprint ≠ ports.fingerprint command)
        (mk .permissionError "native_control_command_receipt_conflict")
      return ()
    else
      let (allowed, reason) := ports.authorizeCommand world.effects command plan state
      raiseIf (allowed = false) (mk .permissionError
        (if reason = [] then "native_control_policy_denied" else displayed reason))
      let plan ← applyCommand ports request plan command
      tick ports request plan results
      modifyState fun state =>
        { state with
          lastCommandId := command.commandId, lastCommandFingerprint := ports.fingerprint command }
      saveCheckpoint ports request plan

/-- A call on a run, with what the queue answers when it is polled. -/
inductive NativeCall where
  | start (results : List NativeNodeResult)
  | advance (results : List NativeNodeResult)
  | resume (resumption : Resumption) (results : List NativeNodeResult)

def NativeCall.run : NativeCall → NativeM Unit
  | .start results => Ananta.start ports request results
  | .advance results => Ananta.advance ports request results
  | .resume resumption results => Ananta.resume ports request resumption results

/-- The runtime as a machine that answers one call at a time on one run. -/
def nativeMachine : Machine NativeWorld NativeCall (Except Fault Unit) where
  initial := { state := .fresh ports request }
  step world call := call.run ports request world

end Ananta
