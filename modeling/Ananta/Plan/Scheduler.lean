import Ananta.Plan.PlanLaws

/-! Bounded fan-out: which nodes of a plan are handed out next, and that handing out makes
progress. -/

namespace Ananta

open List ExecutionPlan

/-- `DelegationCandidate`. -/
structure DelegationCandidate where
  nodeId : Str
  taskKind : Str
  requiredCapabilities : List Str
  allowedTools : List Str
  deriving DecidableEq

/-- `DelegationBatch`. -/
structure DelegationBatch where
  candidates : List DelegationCandidate
  deferredNodeIds : List Str
  effectiveLimit : Int
  deriving DecidableEq

def ExecutionNode.candidate (node : ExecutionNode) : DelegationCandidate :=
  ⟨node.nodeId, node.taskKind, node.requiredCapabilities, node.allowedTools⟩

def ExecutionNode.groupLimit (node : ExecutionNode) (available : Int) : Except Fault Int :=
  let fallback := if available = 0 then 1 else available
  match node.metadata.get "parallel_limit" with
  | some value => if value.truthy then value.toInt else .ok fallback
  | none => .ok fallback

namespace ExecutionPlan

variable (plan : ExecutionPlan)

/-- The nodes that a node waits for. -/
def dependencies (nodeId : Str) : List Str := (plan.edges.filter (·.target = nodeId)).map (·.source)

/-- A node that is in none of the sets and whose dependencies are all completed. -/
def Ready (completed running failed : Finset Str) (nodeId : Str) : Prop :=
  nodeId ∉ completed ∪ running ∪ failed ∧
    (∀ source ∈ plan.dependencies nodeId, source ∈ completed) ∧
    ∀ source ∈ plan.dependencies nodeId, source ∉ failed

instance (completed running failed : Finset Str) (nodeId : Str) :
    Decidable (plan.Ready completed running failed nodeId) :=
  inferInstanceAs (Decidable (_ ∧ _ ∧ _))

def readyNodes (completed running failed : Finset Str) : List ExecutionNode :=
  (plan.nodes.filter fun node => plan.Ready completed running failed node.nodeId).insertionSort
    fun left right => left.nodeId ≤ right.nodeId

/-- The node that an identifier stands for, which is the last one that has it. -/
def nodeNamed (nodeId : Str) : Option ExecutionNode :=
  (plan.nodes.filter (·.nodeId = nodeId)).getLast?

def runningInGroup (running : Finset Str) (group : Str) : Int :=
  (running.filter fun nodeId => (plan.nodeNamed nodeId).any (·.parallelGroup = group)).card

def declaredPlanLimit (tenantLimit workerLimit : Int) : Except Fault Int :=
  match plan.metadata.get "parallel_limit" with
  | none | some .none => .ok (max tenantLimit workerLimit)
  | some value => value.toInt

end ExecutionPlan

/-- Take the nodes that the free slots and the limits of their groups allow, and defer the
others. -/
def selectFrom (available : Int) :
    List ExecutionNode → List ExecutionNode → (Str → Int) → List Str →
      Except Fault (List ExecutionNode × List Str)
  | [], selected, _, deferred => .ok (selected, deferred)
  | node :: rest, selected, counts, deferred => do
    let limit ← node.groupLimit available
    if available ≤ selected.length ∨ limit ≤ counts node.parallelGroup then
      selectFrom available rest selected counts (deferred ++ [node.nodeId])
    else
      selectFrom available rest (selected ++ [node])
        (Function.update counts node.parallelGroup (counts node.parallelGroup + 1)) deferred

/-- `BoundedFanOutScheduler.select_ready`, where a capacity port answers with its free slots. -/
def selectReady (plan : ExecutionPlan) (completed running failed : Finset Str)
    (tenantLimit workerLimit : Int) (planLimit capacity : Option Int) :
    Except Fault DelegationBatch := do
  raiseIf (tenantLimit < 1 ∨ workerLimit < 1 ∨ ∃ limit ∈ planLimit, limit < 1)
    ⟨.valueError, "parallel_limit_invalid"⟩
  raiseIf (∃ nodeId ∈ completed ∪ running ∪ failed, nodeId ∉ plan.nodeIds)
    ⟨.valueError, "parallel_state_node_unknown"⟩
  -- The dependencies are kept under the known nodes, so that an unknown target is a missing key.
  raiseIf (∃ edge ∈ plan.edges, edge.target ∉ plan.nodeIds) ⟨.keyError, "dependencies"⟩
  let declared ← plan.declaredPlanLimit tenantLimit workerLimit
  let effective := (planLimit.map (min declared)).getD declared
  raiseIf (effective < 1) ⟨.valueError, "parallel_limit_invalid"⟩
  let bounded := min (min effective tenantLimit) workerLimit
  let free := (capacity.map fun slots => min bounded (max 0 slots)).getD bounded
  let available := max 0 (free - running.card)
  let (selected, deferred) ← selectFrom available (plan.readyNodes completed running failed) []
    (plan.runningInGroup running) []
  return ⟨selected.map (·.candidate), deferred, available⟩

/-- The smallest of the limits. -/
def slotLimit (declared tenantLimit workerLimit : Int) (planLimit : Option Int) : Int :=
  min (min ((planLimit.map (min declared)).getD declared) tenantLimit) workerLimit

/-- The slots that the running nodes leave, where a capacity port may lower the limit. -/
def freeSlots (limit : Int) (capacity : Option Int) (running : Finset Str) : Int :=
  max 0 ((capacity.map fun slots => min limit (max 0 slots)).getD limit - running.card)

def completeRounds (plan : ExecutionPlan) (tenantLimit workerLimit : Int) (planLimit : Option Int) :
    Nat → Finset Str → Except Fault (List (List Str))
  | 0, _ => .ok []
  | rounds + 1, completed => do
    let batch ← selectReady plan completed ∅ ∅ tenantLimit workerLimit planLimit none
    let taken := batch.candidates.map (·.nodeId)
    let later ← completeRounds plan tenantLimit workerLimit planLimit rounds
      (completed ∪ taken.toFinset)
    return taken :: later

variable {plan : ExecutionPlan} {completed running failed : Finset Str}
  {available tenantLimit workerLimit : Int} {batch : DelegationBatch} {planLimit : Option Int}

/-- A node whose declared limit is a positive integer has a positive limit. -/
lemma groupLimit_pos {node : ExecutionNode} (free : 0 ≤ available)
    (declared : ∀ value, node.metadata.get "parallel_limit" = some value →
      ∃ limit, value = .int limit ∧ 1 ≤ limit) :
    ∃ limit, node.groupLimit available = .ok limit ∧ 1 ≤ limit := by
  have positive : 1 ≤ if available = 0 then 1 else available := by
    split <;> omega
  unfold ExecutionNode.groupLimit
  cases found : node.metadata.get "parallel_limit" with
  | none => exact ⟨_, rfl, positive⟩
  | some value =>
    obtain ⟨limit, rfl, atLeast⟩ := declared value found
    dsimp only
    split
    · exact ⟨limit, rfl, atLeast⟩
    · exact ⟨_, rfl, positive⟩

/-- What is taken are some of the nodes, behind those that were taken before. -/
lemma selectFrom_spec {nodes : List ExecutionNode}
    (limits : ∀ node ∈ nodes, ∃ limit, node.groupLimit available = .ok limit ∧ 1 ≤ limit)
    (selected : List ExecutionNode) (counts : Str → Int) (deferred : List Str) :
    ∃ taken later, selectFrom available nodes selected counts deferred =
      .ok (selected ++ taken, later) ∧ taken.Sublist nodes := by
  induction nodes generalizing selected counts deferred with
  | nil => exact ⟨[], deferred, by simp [selectFrom], .slnil⟩
  | cons node rest ih =>
    rw [forall_mem_cons] at limits
    obtain ⟨⟨limit, known, _⟩, others⟩ := limits
    rw [selectFrom, bind_of_ok known]
    split
    · obtain ⟨taken, later, ran, within⟩ := ih others selected counts (deferred ++ [node.nodeId])
      exact ⟨taken, later, ran, within.cons node⟩
    · obtain ⟨taken, later, ran, within⟩ := ih others (selected ++ [node]) _ deferred
      refine ⟨node :: taken, later, ?_, within.cons_cons node⟩
      rw [ran, append_assoc]
      rfl

/-- Whatever is taken are some of the nodes, behind those that were taken before. -/
lemma sublist_of_selectFrom {nodes selected taken : List ExecutionNode} {counts : Str → Int}
    {deferred later : List Str}
    (ran : selectFrom available nodes selected counts deferred = .ok (taken, later)) :
    ∃ added, taken = selected ++ added ∧ added.Sublist nodes := by
  induction nodes generalizing selected counts deferred with
  | nil =>
    cases ran
    exact ⟨[], (append_nil _).symm, .slnil⟩
  | cons node rest ih =>
    rw [selectFrom, bind_eq_ok] at ran
    obtain ⟨limit, _, ran⟩ := ran
    split at ran
    · grind
    · obtain ⟨added, same, within⟩ := ih ran
      exact ⟨node :: added, by rw [same, append_assoc]; rfl, within.cons_cons node⟩

/-- The candidates are some of the ready nodes. -/
lemma candidates_of_selectReady {capacity : Option Int}
    (ran : selectReady plan completed running failed tenantLimit workerLimit planLimit capacity =
      .ok batch) :
    ∃ taken : List ExecutionNode, batch.candidates = taken.map (·.candidate) ∧
      taken.Sublist (plan.readyNodes completed running failed) := by
  simp only [selectReady, ok_iff] at ran
  obtain ⟨_, _, _, _, _, _, _, _, _, _, ⟨taken, later⟩, selected, rfl⟩ := ran
  obtain ⟨added, same, within⟩ := sublist_of_selectFrom selected
  exact ⟨taken, rfl, same ▸ within⟩

/-- With a free slot and no node of its group running the first node is taken. -/
lemma selectFrom_first {node : ExecutionNode} {rest : List ExecutionNode} (free : 1 ≤ available)
    (limits : ∀ other ∈ node :: rest, ∃ limit, other.groupLimit available = .ok limit ∧ 1 ≤ limit)
    (counts : Str → Int) (idle : counts node.parallelGroup = 0) :
    ∃ taken later, selectFrom available (node :: rest) [] counts [] =
      .ok (node :: taken, later) := by
  obtain ⟨⟨limit, known, positive⟩, others⟩ := forall_mem_cons.mp limits
  have room : ¬ (available ≤ ([] : List ExecutionNode).length ∨
      limit ≤ counts node.parallelGroup) := by
    rw [idle, length_nil]
    omega
  rw [selectFrom, bind_of_ok known, if_neg room]
  obtain ⟨taken, later, ran, _⟩ := selectFrom_spec others [node]
    (Function.update counts node.parallelGroup (counts node.parallelGroup + 1)) []
  exact ⟨taken, later, ran⟩

lemma mem_dependencies {nodeId source : Str} :
    source ∈ plan.dependencies nodeId ↔ ∃ edge ∈ plan.edges, edge.source = source ∧
      edge.target = nodeId := by
  simp only [dependencies, mem_map, mem_filter, decide_eq_true_eq]
  grind

/-- What is taken and what is left then are what was left before. -/
lemma perm_taken_left {known taken : List Str} (distinct : known.Nodup) (once : taken.Nodup)
    (fresh : ∀ nodeId ∈ taken, nodeId ∈ known ∧ nodeId ∉ completed) :
    (taken ++ known.filter (· ∉ completed ∪ taken.toFinset)).Perm
      (known.filter (· ∉ completed)) := by
  rw [perm_ext_iff_of_nodup ?_ (distinct.filter _)]
  · intro nodeId
    simp only [mem_append, mem_filter, decide_eq_true_eq, Finset.mem_union, mem_toFinset, not_or]
    have selected := fresh nodeId
    tauto
  · refine once.append (distinct.filter _) fun nodeId member others => ?_
    simp_all

section

variable (valid : plan.Valid)
include valid

/-- A valid plan that is not completed has a ready node. -/
lemma readyNodes_ne_nil (left : ∃ nodeId ∈ plan.nodeIds, nodeId ∉ completed) :
    plan.readyNodes completed ∅ ∅ ≠ [] := by
  -- Among the nodes that are left one has no dependency that is left.
  obtain ⟨nodeId, ⟨there, unsettled⟩, least⟩ := Kahn.exists_source (not_exists.mp valid.acyclic)
    ((finite_toSet plan.nodeIds).subset fun _ member => member.1 :
      {nodeId | nodeId ∈ plan.nodeIds ∧ nodeId ∉ completed}.Finite) left
  have ready : plan.Ready completed ∅ ∅ nodeId := by
    refine ⟨by simpa using unsettled, fun source depends => ?_, by simp⟩
    obtain ⟨edge, listed, same, target⟩ := mem_dependencies.mp depends
    have known := (valid.known edge listed).1
    rw [same] at known
    by_contra waiting
    exact least source ⟨known, waiting⟩ ⟨known, there, edge, listed, same, target⟩
  obtain ⟨node, listed, rfl⟩ := mem_map.mp there
  refine ne_nil_of_mem (a := node) ?_
  rw [readyNodes, mem_insertionSort, mem_filter]
  exact ⟨listed, decide_eq_true ready⟩

lemma nodup_readyNodes : ((plan.readyNodes completed running failed).map (·.nodeId)).Nodup := by
  rw [readyNodes, ((perm_insertionSort _ _).map _).nodup_iff]
  exact valid.distinct.sublist (filter_sublist.map _)

/-- The limit that a valid plan declares is positive. -/
lemma declaredPlanLimit_pos (tenant : 1 ≤ tenantLimit) (workerLimit : Int) :
    ∃ limit, plan.declaredPlanLimit tenantLimit workerLimit = .ok limit ∧ 1 ≤ limit := by
  unfold declaredPlanLimit
  cases found : plan.metadata.get "parallel_limit" with
  | none => exact ⟨_, rfl, by omega⟩
  | some value =>
    obtain ⟨limit, rfl, positive⟩ := valid.planLimit value found
    exact ⟨limit, rfl, positive⟩

lemma limits_of_valid (free : 0 ≤ available) :
    ∀ node ∈ plan.readyNodes completed running failed, ∃ limit,
      node.groupLimit available = .ok limit ∧ 1 ≤ limit := by
  intro node listed
  rw [readyNodes, mem_insertionSort, mem_filter] at listed
  exact groupLimit_pos free (valid.nodeLimit node listed.1)

variable (tenant : 1 ≤ tenantLimit) (worker : 1 ≤ workerLimit)
  (limited : ∀ limit ∈ planLimit, 1 ≤ limit)
include tenant worker limited

/-- The scheduler never refuses a valid plan. -/
lemma selectReady_eq
    (within : ∀ nodeId ∈ completed ∪ running ∪ failed, nodeId ∈ plan.nodeIds)
    (capacity : Option Int) :
    ∃ declared, plan.declaredPlanLimit tenantLimit workerLimit = .ok declared ∧
      1 ≤ slotLimit declared tenantLimit workerLimit planLimit ∧
      let free := freeSlots (slotLimit declared tenantLimit workerLimit planLimit) capacity running
      selectReady plan completed running failed tenantLimit workerLimit planLimit capacity =
        (selectFrom free (plan.readyNodes completed running failed) [] (plan.runningInGroup running)
          []).map fun made => ⟨made.1.map (·.candidate), made.2, free⟩ := by
  obtain ⟨declared, known, positive⟩ := declaredPlanLimit_pos valid tenant workerLimit
  have effective : 1 ≤ (planLimit.map (min declared)).getD declared := by
    cases planLimit with
    | none => exact positive
    | some limit => exact le_min positive (limited limit rfl)
  refine ⟨declared, known, le_min (le_min effective tenant) worker, ?_⟩
  rw [selectReady, bind_of_passed
    (by simp only [not_or, not_exists, not_and, not_lt]; exact ⟨tenant, worker, limited⟩),
      bind_of_passed (by simpa using within),
    bind_of_passed (by simpa using fun edge listed => (valid.known edge listed).2),
      bind_of_ok known]
  rw [bind_of_passed (by omega)]
  rfl

section

variable (within : ∀ nodeId ∈ completed, nodeId ∈ plan.nodeIds)
include within

/-- On an idle valid plan the scheduler selects from the ready nodes with at least one free slot. -/
lemma selectReady_idle :
    ∃ available taken later, 1 ≤ available ∧
      selectFrom available (plan.readyNodes completed ∅ ∅) [] (fun _ => 0) [] = .ok (taken, later) ∧
      selectReady plan completed ∅ ∅ tenantLimit workerLimit planLimit none =
        .ok ⟨taken.map (·.candidate), later, available⟩ := by
  obtain ⟨declared, _, positive, same⟩ := selectReady_eq valid tenant worker limited
    (show ∀ nodeId ∈ completed ∪ ∅ ∪ ∅, nodeId ∈ plan.nodeIds by simpa using within) none
  have free : 1 ≤ freeSlots (slotLimit declared tenantLimit workerLimit planLimit) none ∅ := by
    simpa [freeSlots] using positive
  have counts : plan.runningInGroup ∅ = fun _ => 0 := by
    funext group
    simp [runningInGroup]
  obtain ⟨taken, later, ran, _⟩ :=
    selectFrom_spec (limits_of_valid valid (zero_le_one.trans free)) [] (fun _ => 0) []
  refine ⟨_, taken, later, free, ran, ?_⟩
  rw [same, counts, ran]
  rfl

/-- A valid idle plan that is not completed makes progress. -/
lemma selectReady_progress (left : ∃ nodeId ∈ plan.nodeIds, nodeId ∉ completed) :
    ∃ batch, selectReady plan completed ∅ ∅ tenantLimit workerLimit planLimit none = .ok batch ∧
      batch.candidates ≠ [] := by
  obtain ⟨available, taken, later, free, ran, selected⟩ :=
    selectReady_idle valid tenant worker limited within
  refine ⟨_, selected, ?_⟩
  cases ready : plan.readyNodes completed ∅ ∅ with
  | nil => exact absurd ready (readyNodes_ne_nil valid left)
  | cons node rest =>
    have limits :
        ∀ other ∈ node :: rest, ∃ limit, other.groupLimit available = .ok limit ∧ 1 ≤ limit := by
      rw [← ready]
      exact limits_of_valid valid (zero_le_one.trans free)
    obtain ⟨others, _, first⟩ := selectFrom_first free limits (fun _ => 0) rfl
    rw [ready, first] at ran
    cases ran
    simp

/-- What is selected are distinct nodes of the plan that were not completed. -/
lemma selectReady_fresh
    (selected : selectReady plan completed ∅ ∅ tenantLimit workerLimit planLimit none = .ok batch) :
    (batch.candidates.map (·.nodeId)).Nodup ∧
      ∀ nodeId ∈ batch.candidates.map (·.nodeId), nodeId ∈ plan.nodeIds ∧ nodeId ∉ completed := by
  obtain ⟨available, taken, later, free, ran, same⟩ :=
    selectReady_idle valid tenant worker limited within
  rw [same] at selected
  cases selected
  obtain ⟨part, _, again, sublist⟩ :=
    selectFrom_spec (limits_of_valid valid (zero_le_one.trans free)) [] (fun _ => 0) []
  rw [ran, nil_append] at again
  cases again
  have names : (taken.map (·.candidate)).map (·.nodeId) = taken.map (·.nodeId) := by
    rw [map_map]
    rfl
  rw [names]
  constructor
  · exact (nodup_readyNodes valid).sublist (sublist.map _)
  · intro nodeId listed
    obtain ⟨node, member, rfl⟩ := mem_map.mp listed
    have ready := sublist.subset member
    rw [readyNodes, mem_insertionSort, mem_filter, decide_eq_true_eq] at ready
    exact ⟨mem_map_of_mem ready.1, by simpa using ready.2.1⟩

end

/-- Completing what is selected completes every node that was left, each of them once. -/
lemma completeRounds_perm :
    ∀ (rounds : Nat) (completed : Finset Str), (∀ nodeId ∈ completed, nodeId ∈ plan.nodeIds) →
      (plan.nodeIds.filter (· ∉ completed)).length ≤ rounds →
      ∃ batches, completeRounds plan tenantLimit workerLimit planLimit rounds completed =
        .ok batches ∧ batches.flatten.Perm (plan.nodeIds.filter (· ∉ completed)) := by
  -- Every round completes at least one of the nodes that are left.
  intro rounds
  induction rounds with
  | zero =>
    intro completed within enough
    refine ⟨[], rfl, ?_⟩
    rw [length_eq_zero_iff.mp (Nat.le_zero.mp enough)]
    rfl
  | succ rounds ih =>
    intro completed within enough
    obtain ⟨_, _, _, _, _, selected⟩ := selectReady_idle valid tenant worker limited within
    obtain ⟨once, fresh⟩ := selectReady_fresh valid tenant worker limited within selected
    have progress : (∃ nodeId ∈ plan.nodeIds, nodeId ∉ completed) → _ ≠ [] := fun left => by
      obtain ⟨_, again, some⟩ := selectReady_progress valid tenant worker limited within left
      rw [selected] at again
      cases again
      exact some
    rw [completeRounds, bind_of_ok selected]
    generalize DelegationBatch.mk _ _ _ = batch at once fresh progress ⊢
    have split := perm_taken_left valid.distinct once fresh
    have count := split.length_eq
    rw [length_append] at count
    have fewer : (plan.nodeIds.filter
        (· ∉ completed ∪ (batch.candidates.map (·.nodeId)).toFinset)).length ≤ rounds := by
      by_cases left : ∃ nodeId ∈ plan.nodeIds, nodeId ∉ completed
      · have taken := length_pos_of_ne_nil (progress left)
        rw [length_map] at count
        omega
      · have none : plan.nodeIds.filter (· ∉ completed) = [] := by
          simpa using fun nodeId member => by_contra fun absent => left ⟨nodeId, member, absent⟩
        rw [none, length_nil] at count
        omega
    have inside : ∀ nodeId ∈ completed ∪ (batch.candidates.map (·.nodeId)).toFinset,
        nodeId ∈ plan.nodeIds := by
      intro nodeId member
      rcases Finset.mem_union.mp member with before | now
      · exact within nodeId before
      · exact (fresh nodeId (mem_toFinset.mp now)).1
    obtain ⟨later, ran, rest⟩ := ih _ inside fewer
    refine ⟨_, bind_of_ok ran _, ?_⟩
    exact (rest.append_left _).trans split

end

def ReportsCycle (issues : List ContractIssue) : Prop :=
  ∃ issue ∈ issues, issue.code = "execution_plan_cycle"

/-- Validation and scheduling agree on progress. Validation reports cycles exactly where there are
some, as long as the metadata of the nodes can be looked up, and a plan without issues is worked off
completely. -/
theorem validated_plan_progress (model : RoutingModel) (plan : ExecutionPlan) :
    ((∃ issues, plan.validate model = .ok issues ∧ (ReportsCycle issues ↔ plan.Cyclic)) ↔
      ∀ node ∈ plan.nodes, node.Searchable) ∧
    (plan.validate model = .ok [] → ∀ (tenantLimit workerLimit : Int) (planLimit : Option Int),
      1 ≤ tenantLimit → 1 ≤ workerLimit → (∀ limit ∈ planLimit, 1 ≤ limit) →
      ∀ completed : Finset Str, (∀ nodeId ∈ completed, nodeId ∈ plan.nodeIds) →
        ((∃ nodeId ∈ plan.nodeIds, nodeId ∉ completed) →
          ∃ batch, selectReady plan completed ∅ ∅ tenantLimit workerLimit planLimit none =
            .ok batch ∧ batch.candidates ≠ []) ∧
        ∀ rounds, (plan.nodeIds.filter (· ∉ completed)).length ≤ rounds →
          ∃ batches, completeRounds plan tenantLimit workerLimit planLimit rounds completed =
            .ok batches ∧ batches.flatten.Perm (plan.nodeIds.filter (· ∉ completed))) := by
  refine ⟨?_, fun fine tenantLimit workerLimit planLimit tenant worker limited completed within =>
    ?_⟩
  · have returns : (∃ issues, plan.validate model = .ok issues) ↔
      ∀ node ∈ plan.nodes, node.Searchable :=
      validate_returns_iff
    rw [← returns]
    constructor
    · rintro ⟨issues, returned, _⟩
      exact ⟨issues, returned⟩
    · rintro ⟨issues, returned⟩
      exact ⟨issues, returned, reports_cycle_iff returned⟩
  · have valid := valid_of_validate fine
    exact ⟨selectReady_progress valid tenant worker limited within, fun rounds enough =>
      completeRounds_perm valid tenant worker limited rounds completed within enough⟩

/-- Two nodes, the second one after the first. -/
def chainPlan : ExecutionPlan :=
  { tenantId := "t", planId := "p", workflowId := "w", policyVersion := "v",
    nodes := [{ nodeId := "a" }, { nodeId := "b" }],
    edges := [{ source := "a", target := "b" }] }

theorem validated_plan_progress_chain : chainPlan.validate (fun _ => none) = .ok [] ∧
      ∃ batches, completeRounds chainPlan 1 1 none 2 ∅ = .ok batches ∧
        batches.flatten.Perm ["a", "b"] := by
  have fine : chainPlan.validate (fun _ => none) = .ok [] := by decide +kernel
  exact ⟨fine, ((validated_plan_progress (fun _ => none) chainPlan).2 fine 1 1 none (by decide)
    (by decide) (by simp) ∅ (by simp)).2 2 (by decide)⟩

/-- Two nodes that wait for each other, where the first one declares a list as its join mode. -/
def tangledPlan : ExecutionPlan :=
  { chainPlan with
    nodes := [{ nodeId := "a", metadata := Dict.empty.set "join_mode" (.list []) },
      { nodeId := "b" }]
    edges := [{ source := "a", target := "b" }, { source := "b", target := "a" }] }

theorem tangledPlan_unreported : tangledPlan.Cyclic ∧
      tangledPlan.validate (fun _ => none) = .error ⟨.typeError, "unhashable type: 'list'"⟩ := by
  have forth : tangledPlan.Edge "a" "b" :=
    ⟨by decide, by decide, _, .head _, rfl, rfl⟩
  have back : tangledPlan.Edge "b" "a" :=
    ⟨by decide, by decide, _, .tail _ (.head _), rfl, rfl⟩
  exact ⟨⟨"a", .tail (.single forth) back⟩, by decide +kernel⟩

end Ananta
