import Ananta.Native.State

/-! One tick of a Native run: results, skips, merges, dispatch, and the end of the run. -/

namespace Ananta

open Call

/-- `str(metadata.get(key) or default)`. -/
def ExecutionNode.declared (node : ExecutionNode) (key : String) (default : Str) : Str :=
  match node.metadata.get key with
  | some value => if value.truthy then value.toStr else default
  | none => default

namespace ExecutionPlan

variable (plan : ExecutionPlan)

def budgetOf (node : ExecutionNode) : ExecutionBudget := node.budget.getD plan.budget

/-- The edges that lead to a node. -/
def incoming (nodeId : Str) : List ExecutionEdge := plan.edges.filter (·.target = nodeId)

def sortedNodes : List ExecutionNode :=
  plan.nodes.insertionSort fun left right => left.nodeId ≤ right.nodeId

end ExecutionPlan

/-- Whether a node is routed to, given the results of the conditions that lead to it. -/
def routed (all : Bool) (results : List ConditionResult) : Bool :=
  if all then results.all (·.matched) else results.any (·.matched)

namespace NativeRunState

variable (state : NativeRunState)

variable (nodeId : Str)

/-- `node_id in running`. -/
def isRunning : Bool := (state.running.get? nodeId).isSome

/-- The results of the conditions that lead to a node. -/
def evaluations (plan : ExecutionPlan) (nodeId : Str) : List ConditionResult :=
  (plan.incoming nodeId).map fun edge => evaluateCondition edge.condition state.conditionContext

/-- `_route_matches`. -/
def routeMatches (plan : ExecutionPlan) (node : ExecutionNode) : Bool :=
  if plan.incoming node.nodeId = [] then true
  else if (state.evaluations plan node.nodeId).any (·.value = none) then false
  else routed (node.metadata.get "join_mode" = some (.str "all"))
    (state.evaluations plan node.nodeId)

def charged (usage : Dict Str Int) : Dict Str Int :=
  usage.entries.foldl (fun total entry => total.set entry.1 ((total.get? entry.1).getD 0 + entry.2))
    state.budgetUsage

def referring (references : List (Str × Str)) : Dict Str Str :=
  references.foldl (fun known entry => known.set entry.1 entry.2) state.artifactRefs

/-- The state after a node was completed. -/
def finished (value : Value) (references : List (Str × Str)) : NativeRunState :=
  { state with
    running := state.running.erase nodeId
    completed := insert nodeId state.completed
    nodeResults := state.nodeResults.set nodeId value
    artifactRefs := state.referring references }

/-- The state after a node was completed by a result. -/
def accepted (result : NativeNodeResult) : NativeRunState :=
  { state.finished result.nodeId (.dict result.outputData) result.artifactRefs.entries with
    budgetUsage := state.charged result.budgetUsage }

/-- The state after an attempt that is to be repeated. -/
def released : NativeRunState := { state with running := state.running.erase nodeId }

/-- The state after a node failed for good. -/
def lost (failure : Str) : NativeRunState :=
  { state with running := state.running.erase nodeId, failed := state.failed.set nodeId failure }

/-- The state after a node was skipped. -/
def bypassed : NativeRunState := { state with skipped := insert nodeId state.skipped }

def attempted : NativeRunState :=
  { state with attempts := state.attempts.set nodeId ((state.attempts.get? nodeId).getD 0 + 1) }

/-- The state after a node was handed to the queue. -/
def delegated (task : RunningTask) : NativeRunState :=
  { state with running := state.running.set nodeId task }

def gated (gateId nodeId : Str) : NativeRunState :=
  { state with openGates := state.openGates.set gateId nodeId }

/-- The state after the run failed. -/
def broken (reason : Str) : NativeRunState :=
  { state with status := .failed, reasonCode := safeNativeReasonCode reason }

end NativeRunState

/-- `_assert_result_binding`. -/
def assertResultBinding (plan : ExecutionPlan) (request : NativeGraphRequest)
    (result : NativeNodeResult) (task : RunningTask) : Except Fault Unit := do
  result.assertValid
  raiseIf (result.tenantId ≠ plan.tenantId ∨ result.workflowId ≠ plan.workflowId ∨
    result.runId ≠ request.runId ∨
    result.commandId ≠ task.commandId ∨ result.hubTaskId ≠ task.hubTaskId ∨
      result.attemptId ≠ task.attemptId ∨
    result.fencingToken ≠ task.fencingToken) ⟨.valueError, "native_node_result_binding_mismatch"⟩

/-- `_validate_artifacts`. -/
def validateArtifacts (node : ExecutionNode) (result : NativeNodeResult) : Except Fault Unit := do
  raiseIf (∃ artifactId ∈ result.artifactRefs.keys, artifactId ∉ node.outputArtifacts)
    ⟨.valueError, "native_node_artifact_undeclared"⟩
  raiseIf (∃ artifactId ∈ node.outputArtifacts, artifactId ∉ result.artifactRefs.keys)
    ⟨.valueError, "native_node_artifact_missing"⟩

/-- The limits that `_consume_budget` checks. -/
def assertBudget (plan : ExecutionPlan) (usage : Dict Str Int) : Except Fault Unit := do
  raiseIf (∃ limit ∈ plan.budget.maxTokens, limit < (usage.get? "tokens").getD 0)
    ⟨.valueError, "native_budget_exceeded:tokens"⟩
  raiseIf (∃ limit ∈ plan.budget.maxCostMicros, limit < (usage.get? "cost_micros").getD 0)
    ⟨.valueError, "native_budget_exceeded:cost_micros"⟩

/-- The classes of error that `cancel_running` passes over. -/
def passedOver (fault : Fault) : Bool :=
  match fault.kind with
  | .keyError | .valueError | .optimisticConcurrencyError | .fencingTokenError
  | .invalidTransitionError | .signatureValidationError | .identityValidationError _
  | .contractValidationError _ => true
  | _ => false

/-- The text behind `native_ownership_`. -/
def ClaimReason.name : ClaimReason → Str
  | alreadyCompleted => "already_completed"
  | alreadyOwned => "already_owned"
  | leaseHeld => "lease_held"
  | acquired => "acquired"
  | recovered => "recovered"

variable (ports : NativePorts) (request : NativeGraphRequest) (plan : ExecutionPlan)

/-- The arguments by which the run names an attempt of its own. -/
def ownerRequest (nodeId : Str) (task : RunningTask) (now : Float64) : OwnerRequest where
  tenantId := plan.tenantId
  runId := request.runId
  stepId := nodeId
  attemptId := task.attemptId
  ownerId := task.ownerId
  fencingToken := task.fencingToken
  expectedRevision := task.ownershipRevision
  now := some now

/-- Give up one attempt, as far as the store lets the run do so. -/
def cancelTask (reason : Str) (entry : Str × RunningTask) : NativeM Bool := do
  let now ← readClock ports
  suppress passedOver (onOwnership ports
    (failAttempt (ownerRequest request plan entry.1 entry.2 now) (safeNativeReasonCode reason)
      false now))
  return true

/-- `cancel_running`, where the queue and the grants are told without an answer that matters. -/
def cancelRunning (reason : Str) : NativeM Unit := do
  let state ← getState
  visit (cancelTask ports request plan reason) state.running.entries
  modifyState fun state => { state with running := Dict.empty }

/-- `_fail_run`. -/
def failRun (reason : Str) : NativeM Unit := do
  cancelRunning ports request plan reason
  let state ← getState
  announce ports request plan (·.broken reason)
    { key := .failed (state.eventSequence + 1)
      payload := [("reason_code", .str (safeNativeReasonCode reason))] }

/-- `side_effect_event` for a result. -/
def sideEffectEvent (record : SideEffectRecord) (result : NativeNodeResult) :
    CanonicalWorkflowEvent where
  tenantId := record.tenantId
  workflowId := record.workflowId
  runId := record.runId
  eventType := strip (text ("workflow.side_effect." ++ record.status.label))
  correlationId := strip request.runId
  causationId := strip result.resultId
  dedupeKey := strip ("side-effect:" ++ record.operationId ++ ":" ++ decimal record.revision)
  stepId := strip record.stepId
  actor := "native-worker"
  occurredAt := record.updatedAt
  payload := redactFields
    [("operation_id", .str record.operationId),
      ("declared_operation", .str record.declaredOperation),
      ("side_effect_class", .str record.sideEffectClass.name),
      ("fencing_token", .int record.fencingToken), ("attempt_id", .str record.attemptId),
      ("result_ref", .str record.resultRef), ("failure_code", .str record.failureCode)]
  eventId := strip ("wfe-side-effect-" ++ record.operationId ++ "-" ++ decimal record.revision)

variable (node : ExecutionNode) (result : NativeNodeResult)

/-- `_emit_side_effect_if_present`. -/
def emitSideEffectIfPresent (operationId : Str) : NativeM Unit := do
  let world ← read
  if operationId = [] then
    return ()
  else
    match ports.ledger world.effects operationId with
    | none => raises ⟨.valueError, "native_side_effect_result_not_reconciled"⟩
    | some record =>
      raiseIf (text record.status.label ≠ result.sideEffectStatus)
        (Fault.mk .valueError "native_side_effect_result_not_reconciled")
      let event := sideEffectEvent request record result
      event.assertValid true
      noteRepeat event
      appendNative ports event

def acceptResult (task : RunningTask) (now : Float64) :
    NativeM Unit := do
  ports.validateOutput node result.outputData
  let acknowledged ← onOwnership ports
    (acknowledgeResult (ownerRequest request plan result.nodeId task now) result.resultId now)
  validateArtifacts node result
  let state ← getState
  assertBudget plan (state.charged result.budgetUsage)
  announce ports request plan (·.accepted result)
    { key := .attempt .completed result.nodeId result.attemptId
      stepId := result.nodeId
      attempt := acknowledged.fencingToken
      payload := [("artifact_ids", .list ((sortedTexts result.artifactRefs.keys).map .str)),
        ("budget_usage", .dict
          (result.budgetUsage.entries.map fun entry => (entry.1, .int entry.2)))] }
  emitSideEffectIfPresent ports request result task.operationId

/-- Take a result of a failed attempt, which is repeated as long as the budget of its node
allows. -/
def failResult (task : RunningTask) (now : Float64) :
    NativeM Bool := do
  let failure := orElse result.reasonCode ("native_node_" ++ result.status)
  let owner ← onOwnership ports
    (failAttempt (ownerRequest request plan result.nodeId task now) failure false now)
  let state ← getState
  let count := (state.attempts.get? result.nodeId).getD 1
  if count < (plan.budgetOf node).maxAttempts then
    announce ports request plan (·.released result.nodeId)
      { key := .attempt .retry result.nodeId result.attemptId
        stepId := result.nodeId
        attempt := owner.fencingToken
        payload := [("reason_code", .str failure), ("next_attempt", .int (count + 1))] }
    return true
  else
    announce ports request plan (·.lost result.nodeId failure)
      { key := .attempt .failed result.nodeId result.attemptId
        stepId := result.nodeId
        attempt := owner.fencingToken
        payload := [("reason_code", .str failure)] }
    if node.declared "failure_policy" "fail" = "continue" then
      return true
    else
      failRun ports request plan failure
      return false

def collectResult : NativeM Bool := do
  let state ← getState
  match state.running.get? result.nodeId, plan.nodeNamed result.nodeId with
  | none, _ => return true
  | some task, none =>
    assertResultBinding plan request result task
    raises ⟨.keyError, "nodes"⟩
  | some task, some node =>
    -- From here on the result names the same attempt and fencing token as the running task. The
    -- task leaves
    -- `running` together with its outcome, since a raise in between discards the state in memory.
    assertResultBinding plan request result task
    let now ← readClock ports
    if result.status = "completed" then
      acceptResult ports request plan node result task now
      return true
    else
      failResult ports request plan node result task now

/-- `_collect_results` of what the queue answers. -/
def collectResults (results : List NativeNodeResult) : NativeM Unit := do
  let state ← getState
  if state.running.entries = [] then
    return ()
  else
    visit (collectResult ports request plan) (results.insertionSort fun left right =>
      left.nodeId < right.nodeId ∨ left.nodeId = right.nodeId ∧ left.resultId ≤ right.resultId)

/-- Whether the skip pass has to look at the conditions that lead to a node. -/
def NativeRunState.Settled (state : NativeRunState) (node : ExecutionNode) : Prop :=
  node.nodeId ∉ state.terminal ∧ state.isRunning node.nodeId = false ∧
    plan.incoming node.nodeId ≠ [] ∧
    ∀ edge ∈ plan.incoming node.nodeId, edge.source ∈ state.terminal
  deriving Decidable

/-- Skip one node if none of its routes was taken, judging by the state at the start of the
sweep. -/
def skipNode (before : NativeRunState) (node : ExecutionNode) : NativeM Bool := do
  let evaluations := before.evaluations plan node.nodeId
  if before.Settled plan node then
    match evaluations.find? (·.value = none) with
    | some unknown =>
      failRun ports request plan (text unknown.reasonCode)
      return false
    | none =>
      if routed (node.declared "join_mode" "any" = "all") evaluations then
        return true
      else
        announce ports request plan (·.bypassed node.nodeId)
          { key := .node .routeSkipped node.nodeId
            stepId := node.nodeId
            payload := [("reason_code", .str "native_route_not_selected")] }
        return true
  else
    return true

/-- Sweep over the nodes until a sweep skips none, which a sweep for each node and one more suffice
for. -/
def sweepSkips : Nat → NativeM Unit
  | 0 => return ()
  | sweeps + 1 => do
    let before ← getState
    visit (skipNode ports request plan before) plan.sortedNodes
    let after ← getState
    if after.status = .running ∧ after.skipped ≠ before.skipped then
      sweepSkips sweeps
    else
      return ()

/-- `_resolve_conditional_skips`. -/
def resolveConditionalSkips : NativeM Unit := do
  raiseIf (∃ edge ∈ plan.edges, edge.target ∉ plan.nodeIds) (Fault.mk .keyError "incoming")
  sweepSkips ports request plan (plan.nodes.length + 1)

def NativeRunState.branches (state : NativeRunState) (nodeId : Str) : List BranchResult :=
  (plan.dependencies nodeId).map fun source =>
    ⟨source, source ∈ state.completed, (state.nodeResults.get? source).getD .none⟩

def NativeRunState.Mergeable (state : NativeRunState) (node : ExecutionNode) : Prop :=
  node.nodeType = "merge" ∧ node.nodeId ∉ state.terminal ∧ state.isRunning node.nodeId = false ∧
    plan.dependencies node.nodeId ≠ [] ∧
      ∀ source ∈ plan.dependencies node.nodeId, source ∈ state.terminal
  deriving Decidable

def mergeNode : NativeM Bool := do
  let state ← getState
  if state.Mergeable plan node then
    let merged ← mergeBranches (state.branches plan node.nodeId) (node.declared "merge_strategy" [])
      (node.declared "partial_failure" "fail")
    match merged.value with
    | none =>
      modifyState (·.lost node.nodeId merged.reasonCode)
      failRun ports request plan merged.reasonCode
      return false
    | some value =>
      announce ports request plan
        (·.finished node.nodeId value (node.outputArtifacts.map fun artifactId =>
          (artifactId, "artifact://native/" ++ request.runId ++ "/" ++ node.nodeId ++ "/" ++
            artifactId)))
        { key := .node .merged node.nodeId
          stepId := node.nodeId
          payload := [("merge_strategy", (node.metadata.get "merge_strategy").getD .none),
            ("failed_branches", .list (merged.failedBranches.map .str))] }
      return true
  else
    return true

/-- `_execute_ready_merges`. -/
def executeReadyMerges : NativeM Unit := do
  raiseIf (∃ edge ∈ plan.edges, edge.target ∉ plan.nodeIds) (Fault.mk .keyError "incoming")
  visit (mergeNode ports request plan) plan.sortedNodes

def delegateNode (ownership : ExecutionOwnership) : NativeM Unit := do
  let _ ← readClock ports
  let world ← read
  ports.grant world.effects plan node ownership
  match ← liftM (ports.authorizeSideEffect world.effects node ownership.fencingToken) with
  | .error reason => failRun ports request plan reason
  | .ok operationId =>
    let commandId := "ncmd:" ++ request.runId ++ ":" ++ node.nodeId ++ ":" ++ ownership.attemptId
    effect ports
    write fun world => { world with submitted := world.submitted ++ [(node.nodeId, commandId)] }
    match ← liftM (ports.submit world.effects commandId) with
    | .error reason => failRun ports request plan (orElse reason "native_hub_task_rejected")
    | .ok hubTaskId =>
      announce ports request plan
        (·.delegated node.nodeId
          { hubTaskId, commandId, attemptId := ownership.attemptId,
            fencingToken := ownership.fencingToken,
            ownerId := "hub-native:" ++ request.runId ++ ":" ++ node.nodeId,
            ownershipRevision := ownership.revision, operationId })
        { key := .attempt .delegated node.nodeId ownership.attemptId
          stepId := node.nodeId
          attempt := ownership.fencingToken
          payload := [("hub_task_id", .str hubTaskId), ("attempt_id", .str ownership.attemptId)] }

def claimRequest (now : Float64) : ClaimRequest :=
  let lease := (plan.budgetOf node).timeoutSeconds + 30
  { tenantId := plan.tenantId
    workflowId := plan.workflowId
    runId := request.runId
    stepId := node.nodeId
    ownerId := "hub-native:" ++ request.runId ++ ":" ++ node.nodeId
    leaseSeconds := if 30 < lease then lease else 30
    maximumRetries := max 0 (plan.budget.maxAttempts - 1)
    now := some now }

/-- A claim on the ownership store, where the reason of one that is refused with an error is
noted. -/
def claimOwnership (claimed : ClaimRequest) (now : Float64) (uuid : Str) :
    NativeM OwnershipClaim := do
  effect ports
  noting (fun fault world => { world with refusals := fault.message :: world.refusals })
    (focus (·.ownership) (fun world ownership => { world with ownership }) (claim claimed now uuid))

/-- `NativeGraphDelegationService.submit`. -/
def submitNode : NativeM Unit := do
  let world ← read
  match ports.declinedProvider world.effects plan node with
  | some reason => failRun ports request plan reason
  | none =>
    let now ← readClock ports
    let uuid ← drawUuid ports
    let claim ← claimOwnership ports (claimRequest request plan node now) now uuid
    if claim.acquired then
      modifyState (·.attempted node.nodeId)
      delegateNode ports request plan node claim.ownership
    else
      failRun ports request plan ("native_ownership_" ++ claim.reason.name)

/-- `_open_gate`. -/
def openGate : NativeM Unit := do
  let state ← getState
  if (state.openGates.get? node.gateId).isSome then
    return ()
  else
    announce ports request plan (·.gated node.gateId node.nodeId)
      { key := .gate .requested node.gateId
        stepId := node.nodeId
        payload := [("gate_id", .str node.gateId)] }
    match plan.gates.find? (·.gateId = node.gateId) with
    | none => raises ⟨.stopIteration, ""⟩
    | some gate =>
      if gate.gateType = "resume" then
        announce ports request plan (fun state => { state with status := .paused })
          { key := .gate .paused node.gateId
            stepId := node.nodeId
            payload := [("gate_id", .str node.gateId)] }
      else
        modifyState fun state => { state with status := .waitingForApproval }

/-- Hand out one candidate, complete it as a checkpoint node, or open its gate. -/
def dispatchCandidate (candidate : DelegationCandidate) : NativeM Bool := do
  let world ← read
  let state := world.state
  match plan.nodeNamed candidate.nodeId with
  | none => raises ⟨.keyError, "nodes"⟩
  | some node =>
    if node.nodeType = "merge" ∨ state.routeMatches plan node = false then
      return true
    else if node.gateId ≠ [] ∧ node.gateId ∉ state.approvedGates then
      openGate ports request plan node
      return true
    else if node.nodeType = "checkpoint" then
      announce ports request plan
        (·.finished node.nodeId (.dict [("checkpoint", .str "hub-owned")])
          (node.outputArtifacts.map fun artifactId =>
            (artifactId, "checkpoint://" ++ plan.tenantId ++ "/" ++ request.runId ++ "/" ++
              request.controlTaskId)))
        { key := .node .checkpointNode node.nodeId
          stepId := node.nodeId
          payload := [("checkpoint_policy", .str "hub-owned")] }
      return true
    else
      match ports.authorizeDelegation world.effects plan node state with
      | (false, reason) =>
        failRun ports request plan (orElse reason "native_delegation_policy_denied")
        return false
      | (true, _) =>
        -- A submission that fails the run does not keep the later candidates from being handed out.
        submitNode ports request plan node
        return true

/-- `_dispatch_ready`. -/
def dispatchReady : NativeM Unit := do
  let state ← getState
  let batch ← selectReady plan (state.completed ∪ state.skipped) state.running.keys.toFinset
    state.failed.keys.toFinset request.tenantParallelLimit request.workerParallelLimit none none
  visit (dispatchCandidate ports request plan) batch.candidates

def NativeRunState.missingArtifacts (state : NativeRunState) : List Str :=
  ((plan.artifacts.filter (·.required)).map (·.artifactId)).filter (· ∉ state.artifactRefs.keys)

/-- `_finish_if_terminal`. -/
def finishIfTerminal : NativeM Unit := do
  let state ← getState
  if state.status ≠ .running ∨ state.running.entries ≠ [] ∨ state.openGates.entries ≠ [] ∨
      state.terminal.card ≠ plan.nodes.length then
    return ()
  else if state.missingArtifacts plan ≠ [] then
    failRun ports request plan
      ("native_required_artifacts_missing:" ++
        joined (sortedTexts (state.missingArtifacts plan).dedup))
  else
    announce ports request plan (fun state => { state with status := .completed })
      { key := .completed
        payload := [("artifact_ids", .list ((sortedTexts state.artifactRefs.keys).map .str))] }

/-- Go on as long as the run has the status `running`. -/
def ifRunning (call : NativeM Unit) : NativeM Unit := do
  let state ← getState
  if state.status = .running then call else return ()

/-- `_tick`, where the queue answers with some results. -/
def tick (results : List NativeNodeResult) : NativeM Unit :=
  ifRunning do
    collectResults ports request plan results
    ifRunning do
      resolveConditionalSkips ports request plan
      ifRunning do
        executeReadyMerges ports request plan
        ifRunning do
          dispatchReady ports request plan
          finishIfTerminal ports request plan

end Ananta
