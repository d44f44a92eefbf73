import Ananta.Plan.Plan

/-! When the validation of a plan reports a cycle, when it returns at all, and what a valid plan
is. -/

namespace Ananta

open List ExecutionPlan ExecutionNode

variable {α : Type} {code path : String} {model : RoutingModel} {plan : ExecutionPlan}
  {node : ExecutionNode}

def OtherIssues (issues : List ContractIssue) : Prop :=
  ∀ issue ∈ issues, issue.code ≠ "execution_plan_cycle"

lemma otherIssues_nil : OtherIssues [] := nofun

lemma otherIssues_append {left right : List ContractIssue} (first : OtherIssues left)
    (second : OtherIssues right) : OtherIssues (left ++ right) := by
  intro issue member
  exact (mem_append.mp member).elim (first issue) (second issue)

lemma otherIssues_singleton {issue : ContractIssue} (other : issue.code ≠ "execution_plan_cycle") :
    OtherIssues [issue] := by
  intro found member
  rwa [mem_singleton.mp member]

lemma otherIssues_issueIf {bad : Prop} [Decidable bad] {message : Str}
    (other : code ≠ "execution_plan_cycle") : OtherIssues (issueIf bad code path message) := by
  unfold issueIf
  split
  · exact otherIssues_singleton other
  · exact otherIssues_nil

lemma otherIssues_flatMap {values : List α} {issues : α → List ContractIssue}
    (each : ∀ value ∈ values, OtherIssues (issues value)) :
    OtherIssues (values.flatMap issues) := by
  intro issue member
  obtain ⟨value, listed, found⟩ := mem_flatMap.mp member
  exact each value listed issue found

lemma otherIssues_optional {value : Option α} {issues : α → List ContractIssue}
    (each : ∀ present, OtherIssues (issues present)) :
    OtherIssues ((value.map issues).getD []) := by
  cases value with
  | none => exact otherIssues_nil
  | some present => exact each present

lemma otherIssues_positiveInteger {value : Value}
    (other : code ≠ "execution_plan_cycle") :
    OtherIssues (positiveIntegerIssues value path code) := by
  unfold positiveIntegerIssues
  split
  · exact otherIssues_issueIf other
  · exact otherIssues_singleton other

mutual

/-- No condition reports a cycle. -/
lemma otherIssues_condition : ∀ (condition : Value) (path : String),
    OtherIssues (conditionIssues condition path)
  | .dict fields, path => by
    unfold conditionIssues
    dsimp only
    split
    · exact otherIssues_singleton (by simp)
    split
    · exact otherIssues_children fields _
    split
    · exact otherIssues_child fields _
    split
    · exact otherIssues_nil
    · unfold comparisonIssues
      refine otherIssues_append ?_ ?_
      · split
        · exact otherIssues_nil
        · exact otherIssues_singleton (by simp)
      · split
        · exact otherIssues_singleton (by simp)
        · exact otherIssues_nil
  | .none, _ | .bool _, _ | .int _, _ | .float _, _ | .str _, _ | .list _, _
  | .tuple _, _ | .object _, _ =>
    otherIssues_singleton (by simp)

lemma otherIssues_child : ∀ (fields : Fields) (path : String), OtherIssues (childIssues fields path)
  | [], _ => otherIssues_singleton (by simp)
  | (key, value) :: rest, path => by
    unfold childIssues
    split
    · exact otherIssues_condition value path
    · exact otherIssues_child rest path

lemma otherIssues_children :
    ∀ (fields : Fields) (path : String), OtherIssues (childrenIssues fields path)
  | [], _ => otherIssues_singleton (by simp)
  | (key, value) :: rest, path => by
    unfold childrenIssues
    split
    · exact otherIssues_listed value path
    · exact otherIssues_children rest path

lemma otherIssues_listed : ∀ (value : Value) (path : String), OtherIssues (listedIssues value path)
  | .list (first :: rest), path => otherIssues_items (first :: rest) 0 path
  | .list [], _ | .none, _ | .bool _, _ | .int _, _ | .float _, _ | .str _, _ | .tuple _, _
  | .dict _, _ | .object _, _ => otherIssues_singleton (by simp)

lemma otherIssues_items :
    ∀ (items : List Value) (position : Nat) (path : String),
      OtherIssues (itemIssues items position path)
  | [], _, _ => otherIssues_nil
  | item :: rest, position, path =>
    otherIssues_append (otherIssues_condition item _) (otherIssues_items rest (position + 1) path)

end

namespace ExecutionPlan

lemma otherIssues_budget (budget : ExecutionBudget) (path : String) :
    OtherIssues (budget.issues path) :=
  otherIssues_append (otherIssues_append (otherIssues_append (otherIssues_issueIf (by simp))
    (otherIssues_issueIf (by simp))) (otherIssues_issueIf (by simp)))
      (otherIssues_issueIf (by simp))

lemma otherIssues_header : OtherIssues plan.headerIssues := by
  refine otherIssues_append ?_ (otherIssues_budget _ _)
  repeat' apply otherIssues_append
  all_goals exact otherIssues_issueIf (by simp)

variable {issues : List ContractIssue}

lemma otherIssues_identifiers {ids : List Str} {required duplicate : String}
    (first : required ≠ "execution_plan_cycle") (second : duplicate ≠ "execution_plan_cycle") :
    OtherIssues (identifierIssues ids required duplicate path) :=
  otherIssues_append (otherIssues_issueIf first) (otherIssues_issueIf second)

lemma otherIssues_artifacts : OtherIssues plan.artifactIssues :=
  otherIssues_append (otherIssues_identifiers (by simp) (by simp))
    (otherIssues_flatMap fun _ _ => otherIssues_issueIf (by simp))

lemma otherIssues_references (node : ExecutionNode) (path : String) :
    OtherIssues (plan.referenceIssues node path) := by
  repeat' apply otherIssues_append
  all_goals first
    | exact otherIssues_issueIf (by simp)
    | exact otherIssues_flatMap fun _ _ => otherIssues_issueIf (by simp)
    | exact otherIssues_optional fun budget => otherIssues_budget budget _

/-- The reasons that model routing can be refused for are no cycles. -/
lemma otherIssues_routing (node : ExecutionNode) (path : String) :
    OtherIssues (node.routingIssues model path) := by
  unfold routingIssues
  split
  · rename_i code message found
    refine otherIssues_singleton ?_
    obtain ⟨value, _, refused⟩ := Option.bind_eq_some_iff.mp found
    unfold assertRuntimeMapping at refused
    split at refused
    · dsimp only at refused
      split at refused
      · cases refused
        simp
      · obtain ⟨_, _, equal⟩ := Option.map_eq_some_iff.mp refused
        cases equal
        simp
    · cases refused
      simp
  · exact otherIssues_nil

/-- A choice among names reports no cycle. -/
lemma otherIssues_choice {key : String} {names : List String}
    (other : code ≠ "execution_plan_cycle")
    (found : node.choiceIssues path key names code = .ok issues) : OtherIssues issues := by
  unfold choiceIssues at found
  split at found
  · cases found
    exact otherIssues_nil
  · obtain ⟨known, _, made⟩ := bind_eq_ok.mp found
    rw [pure_eq_ok.mp made]
    exact otherIssues_issueIf other

lemma otherIssues_merge (found : node.mergeIssues path = .ok issues) : OtherIssues issues := by
  unfold mergeIssues at found
  split at found
  · simp only [ok_iff] at found
    obtain ⟨_, _, _, _, rfl⟩ := found
    exact otherIssues_append (otherIssues_issueIf (by simp)) (otherIssues_issueIf (by simp))
  · rw [pure_eq_ok.mp found]
    exact otherIssues_issueIf (by simp)

/-- Nodes report no cycle. -/
lemma otherIssues_node {index : Nat}
    (found : plan.nodeIssues model node index = .ok issues) : OtherIssues issues := by
  simp only [nodeIssues, runtimeMetadataIssues, ok_iff] at found
  obtain ⟨_, ⟨_, joinMode, _, failurePolicy, _, merge, rfl⟩, rfl⟩ := found
  refine otherIssues_append (otherIssues_references node _) ?_
  refine otherIssues_append (otherIssues_append (otherIssues_append (otherIssues_append ?_
    (otherIssues_choice (by simp) joinMode)) (otherIssues_choice (by simp) failurePolicy))
    (otherIssues_routing node _)) (otherIssues_merge merge)
  exact otherIssues_append (otherIssues_optional fun _ => otherIssues_positiveInteger (by simp))
    (otherIssues_optional fun _ => otherIssues_issueIf (by simp))

lemma otherIssues_edges (edges : List ExecutionEdge) (index : Nat) (seen : List (Str × Str)) :
    OtherIssues (plan.edgesIssues edges index seen) := by
  induction edges generalizing index seen with
  | nil => exact otherIssues_nil
  | cons edge rest ih =>
    refine otherIssues_append ?_ (ih _ _)
    repeat' apply otherIssues_append
    all_goals first | exact otherIssues_issueIf (by simp) | exact otherIssues_condition _ _

lemma otherIssues_groups : OtherIssues plan.groupIssues :=
  otherIssues_flatMap fun _ _ => otherIssues_issueIf (by simp)

lemma otherIssues_mergeSources : OtherIssues plan.mergeSourceIssues :=
  otherIssues_flatMap fun _ _ => otherIssues_issueIf (by simp)

lemma otherIssues_limit : OtherIssues plan.limitIssues :=
  otherIssues_optional fun _ => otherIssues_positiveInteger (by simp)

def Edge (plan : ExecutionPlan) (source target : Str) : Prop :=
  source ∈ plan.nodeIds ∧ target ∈ plan.nodeIds ∧
    ∃ edge ∈ plan.edges, edge.source = source ∧ edge.target = target

/-- Following edges between known nodes leads back to some node. -/
def Cyclic (plan : ExecutionPlan) : Prop := ∃ node, Relation.TransGen plan.Edge node node

lemma edge_graph : Kahn.Edge plan.graph = plan.Edge := by
  funext source target
  apply propext
  simp only [Kahn.Edge, graph, Kahn.mem_adjacency_ofEdges, mem_dedup, mem_map, Prod.mk.injEq, Edge]
  tauto

lemma perm_sortedTexts (values : List Str) : (sortedTexts values).Perm values :=
  perm_insertionSort _ _

lemma counted_graph (plan : ExecutionPlan) : Kahn.Graph.Counted plan.nodeIds.dedup plan.graph :=
  Kahn.counted_ofEdges _ _

/-- Counting predecessors off reports a cycle exactly where there is one. -/
lemma mem_cycleIssues : (∃ issue ∈ plan.cycleIssues, issue.code = "execution_plan_cycle") ↔
    plan.Cyclic := by
  have complete : plan.visited.length = plan.nodeIds.dedup.length ↔ ¬ plan.Cyclic := by
    rw [visited, Kahn.order_complete_iff plan.counted_graph perm_sortedTexts (nodup_dedup _),
      edge_graph, Cyclic, not_exists]
  rw [← not_iff_not, ← complete, cycleIssues, issueIf]
  by_cases known : 0 < plan.nodeIds.dedup.length
  · simp_all
  · -- Without nodes nothing is visited and nothing is missing.
    have none : plan.nodeIds.dedup.length = 0 := by omega
    obtain ⟨last, sound, done, order⟩ := Kahn.order_sound plan.counted_graph perm_sortedTexts
      (nodup_dedup _)
    have few := (subperm_of_subset sound.distinct sound.within).length_le
    rw [done, append_nil, order, none] at few
    have visited : plan.visited.length = 0 := Nat.le_zero.mp few
    simp [none, visited]

/-- What `validate` returns reports a cycle exactly where there is one. -/
lemma reports_cycle_iff (returned : plan.validate model = .ok issues) :
    (∃ issue ∈ issues, issue.code = "execution_plan_cycle") ↔ plan.Cyclic := by
  rw [← mem_cycleIssues]
  simp only [validate, ok_iff] at returned
  obtain ⟨nodes, computed, rfl⟩ := returned
  have nodeIssues : OtherIssues nodes.flatten := by
    intro issue member
    obtain ⟨found, listed, inside⟩ := mem_flatten.mp member
    obtain ⟨_, _, made⟩ := (mem_mapM computed found).mp listed
    exact otherIssues_node made issue inside
  constructor
  · rintro ⟨issue, member, code⟩
    refine ⟨issue, ?_, code⟩
    have excluded : ∀ {others}, OtherIssues others → issue ∈ others → issue ∈ plan.cycleIssues :=
      fun apart listed => absurd code (apart issue listed)
    simp only [mem_append, or_assoc] at member
    rcases member with inside | inside | inside | inside | inside | inside | inside | inside |
      inside | inside | inside
    · exact excluded otherIssues_header inside
    · exact excluded (otherIssues_identifiers (by simp) (by simp)) inside
    · exact excluded (otherIssues_identifiers (by simp) (by simp)) inside
    · exact excluded otherIssues_artifacts inside
    · exact excluded nodeIssues inside
    · exact excluded (otherIssues_edges _ _ _) inside
    · exact inside
    · exact excluded otherIssues_mergeSources inside
    · exact excluded (otherIssues_issueIf (by simp)) inside
    · exact excluded otherIssues_limit inside
    · exact excluded otherIssues_groups inside
  · rintro ⟨issue, member, code⟩
    exact ⟨issue, by simp only [mem_append]; tauto, code⟩

end ExecutionPlan

/-- The metadata of a node that the validation looks up in sets can be looked up. -/
structure ExecutionNode.Searchable (node : ExecutionNode) : Prop where
  joinMode : ∀ value, node.metadata.get "join_mode" = some value → value.hashable
  failurePolicy : ∀ value, node.metadata.get "failure_policy" = some value → value.hashable
  mergeStrategy : node.nodeType = "merge" →
    ∀ value, node.metadata.get "merge_strategy" = some value → value.hashable
  partialFailure : node.nodeType = "merge" →
    ∀ value, node.metadata.get "partial_failure" = some value → value.hashable

lemma memberOf_returns_iff (value : Value) (names : List String) :
    (∃ known, value.memberOf names = .ok known) ↔ value.hashable = true := by
  unfold Value.memberOf
  split <;> simp_all

lemma choiceIssues_returns_iff {key : String} {names : List String} :
    (∃ issues, node.choiceIssues path key names code = .ok issues) ↔
      ∀ value, node.metadata.get key = some value → value.hashable := by
  unfold choiceIssues
  cases node.metadata.get key with
  | none => simp
  | some value =>
    simp only [ok_iff, Option.some.injEq, forall_eq']
    rw [← memberOf_returns_iff value names]
    simp_all

lemma hashable_getD_iff (value : Option Value) (other : Value) (fine : other.hashable = true) :
    (value.getD other).hashable = true ↔ ∀ present, value = some present →
      present.hashable = true := by
  cases value with
  | none => simpa using fine
  | some present => simp

lemma mergeIssues_returns_iff : (∃ issues, node.mergeIssues path = .ok issues) ↔
    (node.nodeType = "merge" →
      (∀ value, node.metadata.get "merge_strategy" = some value → value.hashable) ∧
      ∀ value, node.metadata.get "partial_failure" = some value → value.hashable) := by
  unfold mergeIssues
  split
  · rename_i merges
    rw [← hashable_getD_iff (node.metadata.get "merge_strategy") .none rfl,
      ← hashable_getD_iff (node.metadata.get "partial_failure") (.str "fail") rfl,
      ← memberOf_returns_iff _ ["object-by-node-id", "ordered-by-node-id"],
      ← memberOf_returns_iff _ ["fail", "omit"]]
    simp only [merges, forall_const, ok_iff]
    simp_all
  · rename_i other
    exact ⟨fun _ merges => absurd merges other, fun _ => ⟨_, rfl⟩⟩

/-- The issues of a node are returned exactly when its metadata can be looked up. -/
lemma nodeIssues_returns_iff {index : Nat} :
    (∃ issues, plan.nodeIssues model node index = .ok issues) ↔ node.Searchable := by
  simp only [nodeIssues, runtimeMetadataIssues, ok_iff]
  constructor
  · rintro ⟨_, _, ⟨joinIssues, joinMode, policyIssues, policy, mergeIssues, merge, _⟩, _⟩
    have mergeFine := mergeIssues_returns_iff.mp ⟨mergeIssues, merge⟩
    exact ⟨choiceIssues_returns_iff.mp ⟨joinIssues, joinMode⟩,
      choiceIssues_returns_iff.mp ⟨policyIssues, policy⟩, fun merges => (mergeFine merges).1,
      fun merges => (mergeFine merges).2⟩
  · intro searchable
    obtain ⟨joinIssues, joinMode⟩ := choiceIssues_returns_iff.mpr searchable.joinMode
    obtain ⟨policyIssues, policy⟩ := choiceIssues_returns_iff.mpr searchable.failurePolicy
    obtain ⟨mergeIssues, merge⟩ := mergeIssues_returns_iff.mpr fun merges =>
      ⟨searchable.mergeStrategy merges, searchable.partialFailure merges⟩
    exact ⟨_, _, ⟨joinIssues, joinMode, policyIssues, policy, mergeIssues, merge, rfl⟩, rfl⟩

/-- `validate` returns exactly when the metadata of every node can be looked up. -/
lemma validate_returns_iff :
    (∃ issues, plan.validate model = .ok issues) ↔ ∀ node ∈ plan.nodes, node.Searchable := by
  simp only [validate, ok_iff]
  have computed : (∃ nodes,
      plan.nodes.zipIdx.mapM (fun entry => plan.nodeIssues model entry.1 entry.2) =
      .ok nodes) ↔ ∀ node ∈ plan.nodes, node.Searchable := by
    simp only [mapM_returns_iff, nodeIssues_returns_iff]
    rw [forall_mem_zipIdx', forall_mem_iff_getElem]
  simp_all

/-- What the rest of the runtime relies on in a plan that was found valid. -/
structure ExecutionPlan.Valid (plan : ExecutionPlan) : Prop where
  distinct : plan.nodeIds.Nodup
  known : ∀ edge ∈ plan.edges, edge.source ∈ plan.nodeIds ∧ edge.target ∈ plan.nodeIds
  acyclic : ¬ plan.Cyclic
  planLimit : ∀ value, plan.metadata.get "parallel_limit" = some value →
    ∃ limit, value = .int limit ∧ 1 ≤ limit
  nodeLimit : ∀ node ∈ plan.nodes, ∀ value, node.metadata.get "parallel_limit" = some value →
    ∃ limit, value = .int limit ∧ 1 ≤ limit

variable {value : Value} {index : Nat}

lemma issueIf_eq_nil {bad : Prop} [Decidable bad] {message : Str} :
    issueIf bad code path message = [] ↔ ¬ bad := by
  unfold issueIf
  split <;> simp_all

lemma positiveIntegerIssues_eq_nil
    (fine : positiveIntegerIssues value path code = []) :
    ∃ limit, value = .int limit ∧ 1 ≤ limit := by
  unfold positiveIntegerIssues at fine
  split at fine
  · exact ⟨_, rfl, not_lt.mp (issueIf_eq_nil.mp fine)⟩
  · cases fine

lemma optional_eq_nil {value : Option α} {issues : α → List ContractIssue}
    (fine : (value.map issues).getD [] = []) : ∀ present, value = some present →
      issues present = [] := by
  rintro present rfl
  exact fine

/-- Edges without issues lead from known nodes to known nodes. -/
lemma known_of_edgesIssues {edges : List ExecutionEdge}
    {seen : List (Str × Str)} (fine : plan.edgesIssues edges index seen = []) :
    ∀ edge ∈ edges, edge.source ∈ plan.nodeIds ∧ edge.target ∈ plan.nodeIds := by
  induction edges generalizing index seen with
  | nil => exact nofun
  | cons edge rest ih =>
    simp only [edgesIssues, edgeIssues, append_eq_nil_iff, issueIf_eq_nil,
      not_not] at fine
    exact forall_mem_cons.mpr ⟨⟨fine.1.1.1.1.1, fine.1.1.1.1.2⟩, ih fine.2⟩

lemma nodeLimit_of_nodeIssues (fine : plan.nodeIssues model node index = .ok []) :
    ∀ value, node.metadata.get "parallel_limit" = some value → ∃ limit, value = .int limit ∧
      1 ≤ limit := by
  simp only [nodeIssues, runtimeMetadataIssues, fanOutIssues, ok_iff, nil_eq,
    append_eq_nil_iff] at fine
  obtain ⟨_, ⟨_, _, _, _, _, _, rfl⟩, _, none⟩ := fine
  simp only [append_eq_nil_iff] at none
  exact fun value found => positiveIntegerIssues_eq_nil (optional_eq_nil none.1.1.1.1.1 value found)

section

variable (fine : plan.validate model = .ok [])
include fine

/-- A plan without issues has nodes without issues. -/
lemma nodeIssues_of_validate
    (node : ExecutionNode) (listed : node ∈ plan.nodes) :
    ∃ index, plan.nodeIssues model node index = .ok [] := by
  have returned := validate_returns_iff.mp ⟨_, fine⟩ node listed
  simp only [validate, ok_iff, nil_eq, append_eq_nil_iff] at fine
  obtain ⟨nodes, computed, ⟨⟨⟨⟨⟨⟨_, none⟩, _⟩, _⟩, _⟩, _⟩, _⟩, _⟩ := fine
  obtain ⟨index, bound, rfl⟩ := getElem_of_mem listed
  obtain ⟨issues, made⟩ := nodeIssues_returns_iff.mpr returned
  refine ⟨index, ?_⟩
  have member : issues ∈ nodes := (mem_mapM computed issues).mpr
    ⟨(plan.nodes[index], index), mk_mem_zipIdx_iff_getElem?.mpr (getElem?_eq_getElem bound), made⟩
  rw [made, flatten_eq_nil_iff.mp none issues member]

section

variable (listed : node ∈ plan.nodes)
include listed

lemma gate_of_validate (gated : node.gateId ≠ []) : node.gateId ∈ plan.gateIds := by
  obtain ⟨index, made⟩ := nodeIssues_of_validate fine node listed
  simp only [nodeIssues, ok_iff, nil_eq, append_eq_nil_iff, referenceIssues, issueIf_eq_nil] at made
  grind

/-- A plan without issues allows every node one attempt at least. -/
lemma attempts_of_validate : 1 ≤ (node.budget.getD plan.budget).maxAttempts := by
  have positive : ∀ {budget : ExecutionBudget} {path : String}, budget.issues path = [] →
      1 ≤ budget.maxAttempts := by
    intro budget path none
    simp only [ExecutionBudget.issues, append_eq_nil_iff, issueIf_eq_nil, not_lt] at none
    exact none.1.1.1
  cases declared : node.budget with
  | some budget =>
    obtain ⟨index, made⟩ := nodeIssues_of_validate fine node listed
    simp only [nodeIssues, ok_iff, nil_eq, append_eq_nil_iff, referenceIssues, declared,
      Option.map_some, Option.getD_some] at made
    obtain ⟨_, _, ⟨⟨_, budgeted⟩, _⟩, _⟩ := made
    exact positive budgeted
  | none =>
    simp only [validate, ok_iff, nil_eq, append_eq_nil_iff, headerIssues] at fine
    grind

end

/-- A plan without issues is valid. -/
lemma valid_of_validate : plan.Valid := by
  have acyclic : ¬ plan.Cyclic := by
    rw [← reports_cycle_iff fine]
    simp
  have parts := fine
  simp only [validate, ok_iff, nil_eq, append_eq_nil_iff] at parts
  obtain ⟨nodes, computed, ⟨⟨⟨⟨⟨⟨⟨⟨⟨_, ids⟩, _⟩, _⟩, nodeIssues⟩, edges⟩, _⟩, _⟩, _⟩, limit⟩, _⟩ :=
    parts
  simp only [identifierIssues, append_eq_nil_iff, issueIf_eq_nil, ne_eq, not_not] at ids
  refine ⟨?_, known_of_edgesIssues edges, acyclic, fun value found => ?_, fun node listed => ?_⟩
  · exact dedup_eq_self.mp ((dedup_sublist plan.nodeIds).eq_of_length ids.2.symm)
  · exact positiveIntegerIssues_eq_nil (optional_eq_nil limit value found)
  · obtain ⟨index, made⟩ := nodeIssues_of_validate fine node listed
    exact nodeLimit_of_nodeIssues made

end

end Ananta
