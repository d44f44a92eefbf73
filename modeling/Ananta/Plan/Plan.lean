import Ananta.Library.Call
import Ananta.Library.Dict
import Ananta.Library.Kahn
import Ananta.Plan.Condition

/-! Execution plans, and the issues that their validation reports. -/

namespace Ananta

abbrev Metadata := Dict Str Value

/-- `metadata.get(key)`. -/
def Metadata.get (metadata : Metadata) (key : String) : Option Value := metadata.get? (text key)

/-- `EXECUTION_PLAN_SCHEMA`. -/
def executionPlanSchema : Str := "ananta.execution_plan.v1"

/-- `RESERVED_METADATA_KEYS`, sorted. -/
def reservedMetadataKeys : List String :=
  ["allowed_tools", "authorization", "budgets", "capabilities", "policy_version", "tenant_id"]

/-- Texts separated by commas. -/
def joined (parts : List Str) : Str := (parts.intersperse (text ",")).flatten

/-- `sorted`. -/
def sortedTexts (values : List Str) : List Str := values.insertionSort (· ≤ ·)

def issueIf (bad : Prop) [Decidable bad] (code path : String) (message : Str) :
    List ContractIssue :=
  if bad then [{ code, path, message }] else []

/-- `ExecutionBudget`. -/
structure ExecutionBudget where
  maxAttempts : Int := 1
  timeoutSeconds : Float64 := 300
  maxTokens : Option Int := none
  maxCostMicros : Option Int := none
  deriving DecidableEq

/-- `ExecutionBudget.validate`. -/
def ExecutionBudget.issues (budget : ExecutionBudget) (path : String) : List ContractIssue :=
  issueIf (budget.maxAttempts < 1) "budget_max_attempts_invalid" path [] ++
  issueIf (budget.timeoutSeconds ≤ 0) "budget_timeout_invalid" path [] ++
  issueIf (∃ limit ∈ budget.maxTokens, limit < 0) "budget_max_tokens_invalid" path [] ++
  issueIf (∃ limit ∈ budget.maxCostMicros, limit < 0) "budget_max_cost_invalid" path []

/-- `ArtifactContract`, without the media type and the schema reference. -/
structure ArtifactContract where
  artifactId : Str
  required : Bool := true
  deriving DecidableEq

/-- `ExecutionGate`, without its expiry. -/
structure ExecutionGate where
  gateId : Str
  gateType : Str := "approval"
  requiredRoles : List Str := []
  deriving DecidableEq

/-- `ExecutionNode`. -/
structure ExecutionNode where
  nodeId : Str
  nodeType : Str := "task"
  taskKind : Str := "coding"
  requiredCapabilities : List Str := []
  allowedTools : List Str := []
  inputArtifacts : List Str := []
  outputArtifacts : List Str := []
  gateId : Str := []
  sideEffectClass : Str := "none"
  budget : Option ExecutionBudget := none
  metadata : Metadata := Dict.empty
  deriving DecidableEq

/-- `ExecutionEdge`. -/
structure ExecutionEdge where
  source : Str
  target : Str
  condition : Value := .dict [("op", .str "always")]
  deriving DecidableEq

/-- `ExecutionPlan`. -/
structure ExecutionPlan where
  (tenantId planId workflowId policyVersion : Str)
  nodes : List ExecutionNode
  edges : List ExecutionEdge := []
  capabilities : List Str := []
  gates : List ExecutionGate := []
  artifacts : List ArtifactContract := []
  budget : ExecutionBudget := {}
  metadata : Metadata := Dict.empty
  schema : Str := executionPlanSchema
  deriving DecidableEq

/-- The fields of `ModelRoutingConfig`. -/
def modelRoutingFields : List String :=
  ["strategy", "model_role", "preferred_profile_id", "fallback_group_id", "required_capabilities",
    "requires_json", "requires_tools", "tool_calling_mode", "allow_cloud", "max_estimated_cost",
    "max_estimated_cost_per_run", "default_model_role", "require_approval_on_cloud_escalation",
    "require_approval_above_estimated_cost", "context_recovery_strategies",
    "require_approval_for_generated_plan"]

/-- The model library's verdict on routing fields: the name of the exception it raises, if any. -/
abbrev RoutingModel := Fields → Option Str

/-- `ModelRoutingConfig.assert_runtime_mapping`: the reason and detail of the error it raises, if
any. -/
def assertRuntimeMapping (model : RoutingModel) : Value → Option (String × Str)
  | .dict fields =>
    let unknown := (fields.map (·.1)).filter fun key => modelRoutingFields.all fun name =>
      key ≠ text name
    if unknown ≠ [] then some ("model_routing_field_not_allowed", joined (sortedTexts unknown))
    else (model fields).map fun name => ("model_routing_invalid", name)
  | _ => some ("model_routing_mapping_required", [])

/-- `_validate_positive_integer`. -/
def positiveIntegerIssues (value : Value) (path code : String) : List ContractIssue :=
  match value with
  | .int value => issueIf (value < 1) code path []
  | _ => [{ code, path }]

/-- `_is_non_empty_string`. -/
def isNonEmptyString : Value → Bool
  | .str value => strip value ≠ []
  | _ => false

namespace ExecutionNode

variable (model : RoutingModel) (node : ExecutionNode) (path : String)

/-- The issue of a metadata entry whose value is none of some names. -/
def choiceIssues (key : String) (names : List String) (code : String) :
    Except Fault (List ContractIssue) :=
  match node.metadata.get key with
  | none => .ok []
  | some value => do
    let known ← value.memberOf names
    return issueIf (known = false) code (path ++ ".metadata." ++ key) []

def fanOutIssues : List ContractIssue :=
  ((node.metadata.get "parallel_limit").map fun value =>
    positiveIntegerIssues value (path ++ ".metadata.parallel_limit")
      "node_parallel_limit_invalid").getD [] ++
  ((node.metadata.get "parallel_group").map fun value =>
    issueIf (isNonEmptyString value = false)
      "parallel_group_invalid" (path ++ ".metadata.parallel_group") []).getD []

def routingIssues : List ContractIssue :=
  match (node.metadata.get "model_routing").bind (assertRuntimeMapping model) with
  | some (code, message) => [{ code, path := path ++ ".metadata.model_routing", message }]
  | none => []

def mergeIssues : Except Fault (List ContractIssue) := do
  let declared := ["merge_strategy", "partial_failure"].filter fun key =>
    (node.metadata.get key).isSome
  if node.nodeType = "merge" then
    let strategy ← ((node.metadata.get "merge_strategy").getD .none).memberOf
      ["object-by-node-id", "ordered-by-node-id"]
    let partialFailure ← ((node.metadata.get "partial_failure").getD (.str "fail")).memberOf
      ["fail", "omit"]
    return issueIf (strategy = false)
      "merge_strategy_unsupported" (path ++ ".metadata.merge_strategy") [] ++
      issueIf (partialFailure = false) "merge_partial_failure_policy_invalid"
        (path ++ ".metadata.partial_failure") []
  else
    return issueIf (declared ≠ []) "merge_metadata_on_non_merge_node" (path ++ ".metadata")
      (joined (declared.map text))

/-- `_validate_node_runtime_metadata`. -/
def runtimeMetadataIssues : Except Fault (List ContractIssue) := do
  let joinMode ← node.choiceIssues path "join_mode" ["all", "any"] "join_mode_invalid"
  let failurePolicy ← node.choiceIssues path "failure_policy" ["continue", "fail"]
    "node_failure_policy_invalid"
  let merge ← node.mergeIssues path
  return node.fanOutIssues path ++ joinMode ++ failurePolicy ++ node.routingIssues model path ++
    merge

end ExecutionNode

def reservedIn (metadata : Metadata) : List String :=
  reservedMetadataKeys.filter fun key => (metadata.get key).isSome

def ExecutionNode.parallelGroup (node : ExecutionNode) : Str :=
  match node.metadata.get "parallel_group" with
  | some value => if value.truthy then value.toStr else "default"
  | none => "default"

def ExecutionNode.declaredLimit (node : ExecutionNode) : Option Int :=
  match node.metadata.get "parallel_limit" with
  | some (.int value) => some value
  | _ => none

namespace ExecutionPlan

variable (model : RoutingModel) (plan : ExecutionPlan)

def nodeIds : List Str := plan.nodes.map (·.nodeId)

def gateIds : List Str := plan.gates.map (·.gateId)

def headerIssues : List ContractIssue :=
  issueIf (plan.tenantId = []) "tenant_id_required" "tenant_id" [] ++
  issueIf (plan.planId = []) "plan_id_required" "plan_id" [] ++
  issueIf (plan.workflowId = []) "workflow_id_required" "workflow_id" [] ++
  issueIf (plan.policyVersion = []) "policy_version_required" "policy_version" [] ++
  issueIf (plan.schema ≠ executionPlanSchema) "execution_plan_schema_unsupported" "schema" [] ++
  issueIf (plan.nodes = []) "nodes_required" "nodes" [] ++ plan.budget.issues "budget"

/-- The issues of the identifiers of a section, which have to be given and distinct. -/
def identifierIssues (ids : List Str) (required duplicate path : String) : List ContractIssue :=
  issueIf ([] ∈ ids) required path [] ++ issueIf (ids.length ≠ ids.dedup.length) duplicate path []

/-- The nodes that produce an artifact, once for each time they list it. -/
def producers (artifactId : Str) : List Str :=
  plan.nodes.flatMap fun node => (node.outputArtifacts.filter (· = artifactId)).map fun _ =>
    node.nodeId

/-- `_validate_artifact_contracts`. -/
def artifactIssues : List ContractIssue :=
  identifierIssues (plan.artifacts.map (·.artifactId))
    "artifact_id_required" "duplicate_artifact_id" "artifacts" ++
  (sortedTexts (plan.nodes.flatMap (·.outputArtifacts)).dedup).flatMap fun artifactId =>
    issueIf (1 < (plan.producers artifactId).length) "artifact_multiple_producers" "nodes"
      (artifactId ++ ":" ++ joined (sortedTexts (plan.producers artifactId)))

def referenceIssues (node : ExecutionNode) (path : String) : List ContractIssue :=
  issueIf (["none", "read", "idempotent_write", "non_idempotent_write"].all fun name =>
      node.sideEffectClass ≠ text name) "side_effect_class_invalid" (path ++ ".side_effect_class")
        [] ++
  issueIf (∃ capability ∈ node.requiredCapabilities, capability ∉ plan.capabilities)
    "capability_not_declared" (path ++ ".required_capabilities")
    (joined (sortedTexts (node.requiredCapabilities.filter (· ∉ plan.capabilities)).dedup)) ++
  issueIf (node.gateId ≠ [] ∧ node.gateId ∉ plan.gateIds) "gate_not_declared" (path ++ ".gate_id")
    node.gateId ++
  (node.inputArtifacts ++ node.outputArtifacts).flatMap (fun artifactId =>
    issueIf (artifactId ∉ plan.artifacts.map (·.artifactId))
      "artifact_not_declared" path artifactId) ++
  (node.budget.map (·.issues (path ++ ".budget"))).getD [] ++
  issueIf (reservedIn node.metadata ≠ []) "reserved_metadata_key" (path ++ ".metadata")
    (joined ((reservedIn node.metadata).map text))

def nodeIssues (node : ExecutionNode) (index : Nat) : Except Fault (List ContractIssue) := do
  let path := "nodes[" ++ toString index ++ "]"
  let runtime ← node.runtimeMetadataIssues model path
  return plan.referenceIssues node path ++ runtime

def edgeIssues (edge : ExecutionEdge) (index : Nat) (seen : List (Str × Str)) :
    List ContractIssue :=
  let path := "edges[" ++ toString index ++ "]"
  issueIf (edge.source ∉ plan.nodeIds) "edge_source_unknown" (path ++ ".source") edge.source ++
  issueIf (edge.target ∉ plan.nodeIds) "edge_target_unknown" (path ++ ".target") edge.target ++
  issueIf (edge.source = edge.target) "edge_self_cycle" path [] ++
  issueIf ((edge.source, edge.target) ∈ seen) "duplicate_edge" path [] ++
  conditionIssues edge.condition (path ++ ".condition")

def edgesIssues : List ExecutionEdge → Nat → List (Str × Str) → List ContractIssue
  | [], _, _ => []
  | edge :: rest, index, seen =>
    plan.edgeIssues edge index seen ++ edgesIssues rest (index + 1)
      ((edge.source, edge.target) :: seen)

/-- The graph that the validation builds from the edges between known nodes. -/
def graph : Kahn.Graph Str :=
  Kahn.Graph.ofEdges plan.nodeIds.dedup (plan.edges.map fun edge => (edge.source, edge.target))

/-- The nodes that the validation reaches by counting predecessors off. -/
def visited : List Str := Kahn.order sortedTexts plan.nodeIds.dedup plan.graph

def cycleIssues : List ContractIssue :=
  issueIf (0 < plan.nodeIds.dedup.length ∧ plan.visited.length ≠ plan.nodeIds.dedup.length)
    "execution_plan_cycle" "edges" []

/-- `_validate_merge_sources`. -/
def mergeSourceIssues : List ContractIssue :=
  plan.nodes.zipIdx.flatMap fun (node, index) =>
    issueIf (node.nodeType = "merge" ∧ node.nodeId ∉ plan.edges.map (·.target))
      "merge_sources_required" ("nodes[" ++ toString index ++ "]") []

/-- `_validate_plan_runtime_metadata`. -/
def limitIssues : List ContractIssue :=
  ((plan.metadata.get "parallel_limit").map fun value =>
    positiveIntegerIssues value "metadata.parallel_limit" "plan_parallel_limit_invalid").getD []

def groupLimits (group : Str) : List Int :=
  ((plan.nodes.filter (·.parallelGroup = group)).filterMap (·.declaredLimit)).dedup

/-- `_validate_parallel_groups`. -/
def groupIssues : List ContractIssue :=
  (sortedTexts (plan.nodes.map (·.parallelGroup)).dedup).flatMap fun group =>
    issueIf (1 < (plan.groupLimits group).length) "parallel_group_limit_conflict" "nodes" group

/-- `ExecutionPlan.validate`. -/
def validate : Except Fault (List ContractIssue) := do
  let nodes ← plan.nodes.zipIdx.mapM fun (node, index) => plan.nodeIssues model node index
  return plan.headerIssues ++
    identifierIssues plan.nodeIds "node_id_required" "duplicate_node_id" "nodes" ++
    identifierIssues plan.gateIds "gate_id_required" "duplicate_gate_id" "gates" ++
      plan.artifactIssues ++
    nodes.flatten ++ plan.edgesIssues plan.edges 0 [] ++ plan.cycleIssues ++
      plan.mergeSourceIssues ++
    issueIf (reservedIn plan.metadata ≠ []) "reserved_metadata_key" "metadata"
      (joined ((reservedIn plan.metadata).map text)) ++
    plan.limitIssues ++ plan.groupIssues

/-- `ExecutionPlan.assert_valid`. -/
def assertValid : Except Fault Unit := do
  let issues ← plan.validate model
  raiseIf (issues ≠ []) ⟨.contractValidationError issues, ", ".intercalate (issues.map (·.code))⟩

end ExecutionPlan

end Ananta
