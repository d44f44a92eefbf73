import Ananta.Plan.Scheduler

/-! What bounded fan-out hands out while nodes are running: never too much, and sometimes too
little. -/

namespace Ananta

open List ExecutionPlan

variable {available : Int} {nodes selected taken : List ExecutionNode} {counts : Str → Int}
  {deferred later : List Str}

/-- What is taken and what waits are the nodes, and neither the slots nor the limit of a group are
exceeded. -/
lemma selectFrom_bounds
    (ran : selectFrom available nodes selected counts deferred = .ok (taken, later)) :
    ∃ added waiting, taken = selected ++ added ∧ later = deferred ++ waiting ∧
      (added.map (·.nodeId) ++ waiting).Perm (nodes.map (·.nodeId)) ∧
        (∀ node ∈ added, node ∈ nodes) ∧
      (taken.length : Int) ≤ max (selected.length : Int) available ∧
      ∀ group limit, (∀ node ∈ nodes, node.parallelGroup = group →
        node.groupLimit available = .ok limit) →
        counts group + added.countP (·.parallelGroup = group) ≤ max (counts group) limit := by
  induction nodes generalizing selected counts deferred with
  | nil =>
    cases ran
    exact ⟨[], [], by simp⟩
  | cons node rest ih =>
    rw [selectFrom, bind_eq_ok] at ran
    obtain ⟨bound, known, ran⟩ := ran
    split at ran
    · obtain ⟨added, waiting, same, rfl, perm, inside, room, groups⟩ := ih ran
      refine ⟨added, node.nodeId :: waiting, same, by simp, perm_middle.trans (perm.cons _),
        fun other member => .tail _ (inside other member), room, ?_⟩
      exact fun group limit limits => groups group limit (forall_mem_cons.mp limits).2
    · obtain ⟨added, waiting, rfl, same, perm, inside, room, groups⟩ := ih ran
      refine ⟨node :: added, waiting, by simp, same, perm.cons _, ?_, ?_, ?_⟩
      · simpa using fun other member => .inr (inside other member)
      · simp only [length_append, length_singleton] at room ⊢
        omega
      intro group limit limits
      obtain ⟨first, others⟩ := forall_mem_cons.mp limits
      have more := groups group limit others
      by_cases own : node.parallelGroup = group
      · -- A node of the group was only taken below the limit of the group.
        have bounded := first own
        rw [known] at bounded
        cases bounded
        subst own
        simp only [Function.update_self] at more
        simp only [countP_cons, decide_true, if_true]
        omega
      · rw [Function.update_of_ne (Ne.symm own)] at more
        simpa [countP_cons, own] using more

variable {plan : ExecutionPlan} {node : ExecutionNode} {completed running failed : Finset Str}

lemma groupLimit_declared {available limit : Int}
    (declared : node.metadata.get "parallel_limit" = some (.int limit)) (positive : 1 ≤ limit) :
    node.groupLimit available = .ok limit := by
  have counts : (Value.int limit).truthy = true := by
    unfold Value.truthy
    split <;> simp_all
  simp [ExecutionNode.groupLimit, declared, counts, Value.toInt]

lemma mem_readyNodes : node ∈ plan.readyNodes completed running failed ↔
      node ∈ plan.nodes ∧ plan.Ready completed running failed node.nodeId := by
  rw [readyNodes, mem_insertionSort, mem_filter, decide_eq_true_eq]

/-- Every node of a valid plan is found by its identifier. -/
lemma nodeNamed_of_mem (valid : plan.Valid) (listed : node ∈ plan.nodes) :
    plan.nodeNamed node.nodeId = some node := by
  have found : plan.nodes.filter (·.nodeId = node.nodeId) ≠ [] :=
    ne_nil_of_mem (mem_filter.mpr ⟨listed, by simp⟩)
  rw [nodeNamed, getLast?_eq_some_getLast found, Option.some_inj]
  have last := mem_filter.mp (getLast_mem found)
  exact inj_on_of_nodup_map valid.distinct last.1 listed (of_decide_eq_true last.2)

/-- What a batch may commit to beside the running nodes. -/
structure DelegationBatch.Bounded (batch : DelegationBatch) (plan : ExecutionPlan)
    (completed running failed : Finset Str) (limit : Int) : Prop where
  partition : (batch.candidates.map (·.nodeId) ++ batch.deferredNodeIds).Perm
    ((plan.readyNodes completed running failed).map (·.nodeId))
  distinct : (batch.candidates.map (·.nodeId) ++ batch.deferredNodeIds).Nodup
  prepared : ∀ candidate ∈ batch.candidates, ∀ edge ∈ plan.edges,
    edge.target = candidate.nodeId → edge.source ∈ completed
  slots : (running.card + batch.candidates.length : Int) ≤ max (running.card : Int) limit
  groups : ∀ group bound, (∀ node ∈ plan.nodes, node.parallelGroup = group →
      node.metadata.get "parallel_limit" = some (.int bound)) →
    plan.runningInGroup running group +
      batch.candidates.countP
        (fun chosen => (plan.nodeNamed chosen.nodeId).any (·.parallelGroup = group)) ≤
      max (plan.runningInGroup running group) bound

/-- The scheduler never commits beyond its limits. It answers exactly where the limits are positive,
and what it answers is bounded by the smallest of them and of the capacity. -/
theorem fan_out_never_overcommits (model : RoutingModel) (plan : ExecutionPlan)
    (fine : plan.validate model = .ok []) (completed running failed : Finset Str)
    (within : ∀ nodeId ∈ completed ∪ running ∪ failed, nodeId ∈ plan.nodeIds)
    (tenantLimit workerLimit : Int) (planLimit capacity : Option Int) :
    ((∃ batch, selectReady plan completed running failed tenantLimit workerLimit planLimit
      capacity = .ok batch) ↔ 1 ≤ tenantLimit ∧ 1 ≤ workerLimit ∧ ∀ limit ∈ planLimit, 1 ≤ limit) ∧
    ∀ batch, selectReady plan completed running failed tenantLimit workerLimit planLimit capacity =
      .ok batch → ∃ declared, plan.declaredPlanLimit tenantLimit workerLimit = .ok declared ∧
        let limit := slotLimit declared tenantLimit workerLimit planLimit
        batch.Bounded plan completed running failed ((capacity.map (min limit)).getD limit) := by
  have valid := valid_of_validate fine
  have positive : ∀ batch,
      selectReady plan completed running failed tenantLimit workerLimit planLimit capacity =
      .ok batch → 1 ≤ tenantLimit ∧ 1 ≤ workerLimit ∧ ∀ limit ∈ planLimit, 1 ≤ limit := by
    intro batch ran
    rw [selectReady, bind_eq_ok] at ran
    obtain ⟨_, passed, _⟩ := ran
    simpa [not_or] using passed
  refine ⟨⟨?_, ?_⟩, fun batch ran => ?_⟩
  · rintro ⟨batch, ran⟩
    exact positive batch ran
  · rintro ⟨tenant, worker, limited⟩
    obtain ⟨declared, _, _, same⟩ := selectReady_eq valid tenant worker limited within capacity
    obtain ⟨taken, later, made, _⟩ :=
      selectFrom_spec (limits_of_valid valid (le_max_left 0 _)) [] _ []
    exact ⟨_, by rw [same, freeSlots, made]; rfl⟩
  · obtain ⟨tenant, worker, limited⟩ := positive batch ran
    obtain ⟨declared, known, _, same⟩ := selectReady_eq valid tenant worker limited within capacity
    refine ⟨declared, known, ?_⟩
    generalize slotLimit declared tenantLimit workerLimit planLimit = limit at same ⊢
    rw [same] at ran
    cases made : selectFrom (freeSlots limit capacity running)
        (plan.readyNodes completed running failed) [] (plan.runningInGroup running) [] with
    | error fault => simp [made, Except.map] at ran
    | ok answer =>
      rw [made] at ran
      cases ran
      -- The loop selects or defers each ready node exactly once.
      obtain ⟨added, waiting, same, later, perm, inside, room, groups⟩ := selectFrom_bounds made
      rw [nil_append] at same later
      simp only [same, later] at room ⊢
      have names : (added.map (·.candidate)).map (·.nodeId) = added.map (·.nodeId) := by
        rw [map_map]
        rfl
      refine ⟨by rwa [names], ?_, ?_, ?_, ?_⟩
      · rw [names, perm.nodup_iff]
        exact nodup_readyNodes valid
      · intro candidate chosen edge listed targets
        obtain ⟨node, member, rfl⟩ := mem_map.mp chosen
        exact (mem_readyNodes.mp (inside node member)).2.2.1 _
          (mem_dependencies.mpr ⟨edge, listed, rfl, targets⟩)
      · rw [length_map]
        cases capacity <;> simp only [freeSlots, Option.map_none, Option.map_some, Option.getD_none,
          Option.getD_some, length_nil] at room ⊢ <;> omega
      · intro group bound declares
        have bounded := groups group bound fun node member own => by
          have declared := declares node (mem_readyNodes.mp member).1 own
          obtain ⟨_, rfl | _, atLeast⟩ :=
            valid.nodeLimit node (mem_readyNodes.mp member).1 _ declared
          exact groupLimit_declared declared atLeast
        rw [countP_map]
        convert bounded using 3
        refine countP_congr fun node member => ?_
        simp [ExecutionNode.candidate,
          nodeNamed_of_mem valid (mem_readyNodes.mp (inside node member)).1]

theorem fan_out_never_overcommits_chain : ∃ batch, selectReady chainPlan ∅ ∅ ∅ 1 2 none (some 3) =
    .ok batch ∧ batch.Bounded chainPlan ∅ ∅ ∅ 1 := by
  have fine : chainPlan.validate (fun _ => none) = .ok [] := by decide +kernel
  obtain ⟨answers, bounded⟩ :=
    fan_out_never_overcommits (fun _ => none) chainPlan fine ∅ ∅ ∅ (by simp) 1 2 none (some 3)
  obtain ⟨batch, ran⟩ := answers.mpr (by simp)
  obtain ⟨declared, known, within⟩ := bounded batch ran
  cases known
  exact ⟨batch, ran, within⟩

def ExecutionNode.Plain (node : ExecutionNode) : Prop :=
  node.metadata.get "parallel_group" = none ∧ node.metadata.get "parallel_limit" = none
  deriving Decidable

/-- The nodes in none of the sets whose predecessors are all completed, by their identifiers. -/
def ExecutionPlan.awaiting (plan : ExecutionPlan) (completed running failed : Finset Str) :
    List ExecutionNode :=
  (plan.nodes.filter fun node => node.nodeId ∉ completed ∪ running ∪ failed ∧
    ∀ edge ∈ plan.edges, edge.target = node.nodeId → edge.source ∈ completed).insertionSort
    fun left right => left.nodeId ≤ right.nodeId

/-- Where no node is both completed and failed, readiness only asks for completed predecessors. -/
lemma readyNodes_eq_awaiting (apart : Disjoint completed failed) :
    plan.readyNodes completed running failed = plan.awaiting completed running failed := by
  unfold readyNodes awaiting
  congr 1
  refine filter_congr fun node _ => decide_eq_decide.mpr ?_
  have same : (∀ source ∈ plan.dependencies node.nodeId, source ∈ completed) ↔
      ∀ edge ∈ plan.edges, edge.target = node.nodeId → edge.source ∈ completed := by
    simp only [mem_dependencies]
    grind
  have spared : (∀ source ∈ plan.dependencies node.nodeId, source ∈ completed) →
      ∀ source ∈ plan.dependencies node.nodeId, source ∉ failed :=
    fun all source listed => Finset.disjoint_left.mp apart (all source listed)
  rw [← same, Ready]
  tauto

/-- Running nodes without metadata count for the default group. -/
lemma runningInGroup_plain (valid : plan.Valid) (plain : ∀ node ∈ plan.nodes, node.Plain)
    (within : ∀ nodeId ∈ running, nodeId ∈ plan.nodeIds) :
    plan.runningInGroup running "default" = running.card := by
  rw [runningInGroup, Finset.filter_true_of_mem]
  intro nodeId member
  obtain ⟨node, listed, rfl⟩ := mem_map.mp (within nodeId member)
  rw [nodeNamed_of_mem valid listed, Option.any_some, ExecutionNode.parallelGroup,
    (plain node listed).1]
  exact decide_eq_true rfl

/-- Nodes without metadata are taken from the front, as long as they and the running ones leave a
slot. -/
lemma selectFrom_plain {available before : Int}
    (plain : ∀ node ∈ nodes, node.Plain) (running : 0 ≤ before) (selected : List ExecutionNode)
    (counts : Str → Int) (deferred : List Str)
    (counted : counts "default" = before + selected.length) :
    ∃ later, selectFrom available nodes selected counts deferred =
      .ok (selected ++ nodes.take (available - before - selected.length).toNat, later) := by
  induction nodes generalizing selected counts deferred with
  | nil => exact ⟨deferred, by simp [selectFrom]⟩
  | cons node rest ih =>
    obtain ⟨⟨grouped, limited⟩, others⟩ := forall_mem_cons.mp plain
    have group : node.parallelGroup = "default" := by
      rw [ExecutionNode.parallelGroup, grouped]
    have limit : node.groupLimit available = .ok (if available = 0 then 1 else available) := by
      rw [ExecutionNode.groupLimit, limited]
    rw [selectFrom, bind_of_ok limit, group, counted]
    by_cases full : available ≤ before + selected.length
    · rw [if_pos (by split <;> omega)]
      have none : (available - before - selected.length).toNat = 0 := by omega
      obtain ⟨later, ran⟩ := ih others selected counts (deferred ++ [node.nodeId]) counted
      exact ⟨later, by rw [ran, none]; rfl⟩
    · rw [if_neg (by split <;> omega)]
      obtain ⟨later, ran⟩ := ih others (selected ++ [node]) (Function.update counts "default"
        (before + selected.length + 1)) deferred (by simp; omega)
      refine ⟨later, ?_⟩
      have more : (available - before - selected.length).toNat =
          (available - before - (selected ++ [node]).length).toNat + 1 := by
        simp only [length_append, length_singleton]
        omega
      rw [ran, more, take_succ_cons, append_assoc]
      rfl

/-- The scheduler fills the free slots exactly where the running nodes, which its default group
counts a second time against the slots that they left, still leave room for every ready node. -/
theorem fan_out_work_conserving_iff (model : RoutingModel) (plan : ExecutionPlan)
    (fine : plan.validate model = .ok []) (plain : ∀ node ∈ plan.nodes, node.Plain)
    (completed running failed : Finset Str) (apart : Disjoint completed failed)
    (within : ∀ nodeId ∈ completed ∪ running ∪ failed, nodeId ∈ plan.nodeIds)
    (tenantLimit workerLimit : Int) (planLimit : Option Int) (tenant : 1 ≤ tenantLimit)
    (worker : 1 ≤ workerLimit) (limited : ∀ limit ∈ planLimit, 1 ≤ limit) (declared : Int)
    (known : plan.declaredPlanLimit tenantLimit workerLimit = .ok declared) :
    let limit := slotLimit declared tenantLimit workerLimit planLimit
    let ready := plan.awaiting completed running failed
    (selectReady plan completed running failed tenantLimit workerLimit planLimit none).map
      (·.candidates) = .ok ((ready.take (limit - running.card).toNat).map (·.candidate)) ↔
      running = ∅ ∨ limit ≤ running.card ∨ ready = [] ∨
        ready.length + 2 * running.card ≤ limit := by
  have valid := valid_of_validate fine
  obtain ⟨_, again, positive, same⟩ := selectReady_eq valid tenant worker limited within none
  rw [known] at again
  cases again
  have counted : plan.runningInGroup running "default" = running.card +
      ([] : List ExecutionNode).length := by
    simpa using runningInGroup_plain valid plain fun nodeId member =>
      within nodeId (by simp [member])
  obtain ⟨later, ran⟩ :=
    selectFrom_plain (fun node member => plain node (mem_readyNodes.mp member).1)
    (Int.natCast_nonneg running.card) [] _ [] counted
  rw [same, ran, ← readyNodes_eq_awaiting apart]
  generalize plan.readyNodes completed running failed = ready
  -- Both answers are the front of the ready nodes, so that only their lengths have to be compared.
  have fronts : ∀ first second : Nat, (ready.take first).map (·.candidate) =
      (ready.take second).map (·.candidate) ↔ min first ready.length = min second ready.length := by
    intro first second
    refine ⟨fun equal => by simpa using congrArg length equal, fun equal => ?_⟩
    rw [take_eq_take_iff.mpr equal]
  simp only [Except.map, Except.ok.injEq, nil_append, fronts, freeSlots, Option.map_none,
    Option.getD_none, length_nil, ← length_eq_zero_iff, ← Finset.card_eq_zero]
  omega

/-- Two nodes that wait for nothing. -/
def parallelPlan : ExecutionPlan := { chainPlan with edges := [] }

theorem fan_out_work_conserving_idle :
    (selectReady parallelPlan ∅ ∅ ∅ 2 2 none none).map (·.candidates) =
      .ok (((parallelPlan.awaiting ∅ ∅ ∅).take 2).map (·.candidate)) :=
  (fan_out_work_conserving_iff (fun _ => none) parallelPlan (by decide +kernel)
    (by decide +kernel) ∅ ∅ ∅ (by simp)
    (by simp) 2 2 none (by decide) (by decide) (by simp) 2 rfl).mpr (.inl rfl)

/-- With one of two slots taken the other one stays empty, although a node is ready. -/
theorem running_node_blocks_slot : parallelPlan.validate (fun _ => none) = .ok [] ∧
      (∀ node ∈ parallelPlan.nodes, node.Plain) ∧
      (selectReady parallelPlan ∅ {text "a"} ∅ 2 2 none none).map (·.candidates) = .ok [] ∧
      (parallelPlan.awaiting ∅ {text "a"} ∅).map (·.nodeId) = [text "b"] := by
  decide +kernel

end Ananta
