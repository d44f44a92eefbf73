import Mathlib

/-! Counting predecessors visits every node of a finite graph exactly when the graph has no
cycle. -/

namespace Ananta.Kahn

open List

variable {α : Type} [DecidableEq α]

/-- The successors of each node, and how many predecessors it has. -/
structure Graph (α : Type) where
  adjacency : α → List α
  indegree : α → Int

namespace Graph

omit [DecidableEq α] in
/-- The graph without edges. -/
def empty : Graph α := ⟨fun _ => [], fun _ => 0⟩

/-- Add an edge between known nodes, unless it is there already. -/
def link (known : List α) (graph : Graph α) (edge : α × α) : Graph α :=
  if edge.1 ∈ known ∧ edge.2 ∈ known ∧ edge.2 ∉ graph.adjacency edge.1 then
    { adjacency := Function.update graph.adjacency edge.1 (graph.adjacency edge.1 ++ [edge.2])
      indegree := Function.update graph.indegree edge.2 (graph.indegree edge.2 + 1) }
  else graph

/-- The graph of the edges between known nodes. -/
def ofEdges (known : List α) (edges : List (α × α)) : Graph α := edges.foldl (link known) empty

/-- The unvisited predecessors of a node. -/
def predecessors (graph : Graph α) (known visited : List α) (target : α) : Finset α :=
  known.toFinset.filter fun source => source ∉ visited ∧ target ∈ graph.adjacency source

/-- The indegrees count the predecessors, and no successor is listed twice. -/
structure Counted (known : List α) (graph : Graph α) : Prop where
  distinct : ∀ source, (graph.adjacency source).Nodup
  indegree : ∀ target, graph.indegree target = (graph.predecessors known [] target).card
  known : ∀ source target, target ∈ graph.adjacency source → source ∈ known ∧ target ∈ known

end Graph

open Kahn.Graph

variable {known : List α} {graph : Graph α}

/-- After an edge was added it is there, and nothing else is new. -/
lemma mem_adjacency_link (edge : α × α) (source target : α) :
    target ∈ (graph.link known edge).adjacency source ↔
      target ∈ graph.adjacency source ∨
        (edge = (source, target) ∧ source ∈ known ∧ target ∈ known) := by
  obtain ⟨first, second⟩ := edge
  unfold link
  split
  · rename_i fresh
    by_cases same : source = first
    · subst same
      simp only [Function.update_self, mem_append, mem_singleton, Prod.mk.injEq, true_and]
      exact or_congr_right ⟨fun equal => ⟨equal.symm, fresh.1, equal ▸ fresh.2.1⟩, fun found =>
        found.1.symm⟩
    · simp [Function.update_of_ne same, Ne.symm same]
  · rename_i known
    refine (or_iff_left_of_imp ?_).symm
    rintro ⟨equal, sourceKnown, targetKnown⟩
    rw [Prod.mk.injEq] at equal
    rw [equal.1, equal.2] at known
    by_contra absent
    exact known ⟨sourceKnown, targetKnown, absent⟩

/-- Adding an edge keeps the count. -/
lemma Graph.Counted.link (counted : Counted known graph) (edge : α × α) :
    Counted known (graph.link known edge) := by
  by_cases fresh : edge.1 ∈ known ∧ edge.2 ∈ known ∧ edge.2 ∉ graph.adjacency edge.1
  · refine ⟨fun source => ?_, fun target => ?_, fun source target member => ?_⟩
    · rw [Graph.link, if_pos fresh]
      by_cases same : source = edge.1
      · subst same
        simpa using (counted.distinct edge.1).append (nodup_singleton edge.2)
          (by simpa using fresh.2.2)
      · simpa [Function.update_of_ne same] using counted.distinct source
    · by_cases same : target = edge.2
      · -- The source of the edge is a new predecessor of its target.
        subst same
        have grown : (graph.link known edge).predecessors known [] edge.2 =
            insert edge.1 (graph.predecessors known [] edge.2) := by
          ext source
          simp only [predecessors, Finset.mem_filter, mem_adjacency_link, Finset.mem_insert,
            List.mem_toFinset, not_mem_nil, not_false_eq_true, true_and]
          constructor
          · rintro ⟨there, old | ⟨equal, _⟩⟩
            · exact .inr ⟨there, old⟩
            · exact .inl (congrArg Prod.fst equal).symm
          · rintro (rfl | ⟨there, old⟩)
            · exact ⟨fresh.1, .inr ⟨rfl, fresh.1, fresh.2.1⟩⟩
            · exact ⟨there, .inl old⟩
        have absent : edge.1 ∉ graph.predecessors known [] edge.2 := by
          simp [predecessors, fresh.2.2]
        rw [grown, Finset.card_insert_of_notMem absent, Graph.link, if_pos fresh]
        simp [counted.indegree]
      · have kept : (graph.link known edge).predecessors known [] target =
            graph.predecessors known [] target := by
          ext source
          have other : edge ≠ (source, target) := fun equal => same (congrArg Prod.snd equal).symm
          simp [predecessors, mem_adjacency_link, other]
        rw [kept, Graph.link, if_pos fresh]
        simp [Function.update_of_ne same, counted.indegree]
    · rcases (mem_adjacency_link edge source target).mp member with old | ⟨_, found⟩
      · exact counted.known source target old
      · exact found
  · rwa [Graph.link, if_neg fresh]

lemma counted_empty (known : List α) : Counted known (empty : Graph α) where
  distinct _ := nodup_nil
  indegree _ := by simp [empty, predecessors]
  known _ _ impossible := by simp [empty] at impossible

/-- Adding edges one after the other keeps the count and adds exactly the known ones. -/
lemma foldl_link (edges : List (α × α)) (counted : Counted known graph) :
    Counted known (edges.foldl (link known) graph) ∧
      ∀ source target, target ∈ (edges.foldl (link known) graph).adjacency source ↔
        target ∈ graph.adjacency source ∨
          ((source, target) ∈ edges ∧ source ∈ known ∧ target ∈ known) := by
  induction edges generalizing graph with
  | nil => exact ⟨counted, by simp⟩
  | cons edge rest ih =>
    obtain ⟨counts, members⟩ := ih (counted.link edge)
    refine ⟨counts, fun source target => ?_⟩
    rw [foldl_cons, members, mem_adjacency_link, mem_cons]
    tauto

/-- The graph of a list of edges is counted. -/
lemma counted_ofEdges (known : List α) (edges : List (α × α)) :
    Counted known (ofEdges known edges) :=
  (foldl_link edges (counted_empty known)).1

/-- The successors are the targets of the edges between known nodes. -/
lemma mem_adjacency_ofEdges (known : List α) (edges : List (α × α)) (source target : α) :
    target ∈ (ofEdges known edges).adjacency source ↔
      (source, target) ∈ edges ∧ source ∈ known ∧ target ∈ known := by
  have members := (foldl_link edges (counted_empty known)).2 source target
  rw [or_iff_right (by simp [empty])] at members
  exact members

/-- The nodes that wait, those that were visited, and how many predecessors of a node are left. -/
structure State (α : Type) where
  queue : List α
  visited : List α
  indegree : α → Int

/-- Count one predecessor of a node off, and queue the node when none is left. -/
def release (state : State α) (target : α) : State α :=
  let count := state.indegree target - 1
  { state with
    indegree := Function.update state.indegree target count
    queue := if count = 0 then state.queue ++ [target] else state.queue }

/-- Visit the first node of the queue. -/
def visit (sort : List α → List α) (graph : Graph α) (state : State α) (node : α)
    (rest : List α) : State α :=
  (sort (graph.adjacency node)).foldl release
    { state with queue := rest, visited := state.visited ++ [node] }

/-- Visit one node after the other until the queue is empty. -/
def run (sort : List α → List α) (graph : Graph α) : Nat → State α → State α
  | 0, state => state
  | steps + 1, state =>
    match state.queue with
    | [] => state
    | node :: rest => run sort graph steps (visit sort graph state node rest)

/-- The order in which the nodes are visited, from those without predecessors on. -/
def order (sort : List α → List α) (known : List α) (graph : Graph α) : List α :=
  (run sort graph known.length
    ⟨sort (known.filter fun node => graph.indegree node = 0), [], graph.indegree⟩).visited

/-- An edge of the graph, read backwards for its well-foundedness. -/
def Edge (graph : Graph α) (source target : α) : Prop := target ∈ graph.adjacency source

/-- What holds between two visits, where some successors of the last node are still to be counted
off. -/
structure Sound (known : List α) (graph : Graph α) (pending : List α) (state : State α) : Prop where
  distinct : (state.visited ++ state.queue).Nodup
  within : ∀ node ∈ state.visited ++ state.queue, node ∈ known
  counts : ∀ target ∈ known, state.indegree target =
    (graph.predecessors known state.visited target).card + if target ∈ pending then 1 else 0
  free : ∀ target ∈ known, state.indegree target = 0 ↔ target ∈ state.visited ++ state.queue
  grounded : ∀ node ∈ state.visited ++ state.queue, Acc (Edge graph) node

variable {pending rest : List α} {state : State α} {sort : List α → List α} {node : α}

/-- A visit visits one more node. -/
lemma length_visit : (visit sort graph state node rest).visited.length =
    state.visited.length + 1 := by
  have kept : ∀ (targets : List α) (state : State α), (targets.foldl release state).visited =
      state.visited := by
    intro targets
    induction targets with
    | nil => exact fun _ => rfl
    | cons target others ih => exact fun state => ih (release state target)
  rw [visit, kept, length_append]
  rfl

omit [DecidableEq α] in
/-- A finite nonempty set of nodes of a graph without cycles has one without predecessors in the
set. -/
lemma exists_source {edge : α → α → Prop} (acyclic : ∀ node, ¬ Relation.TransGen edge node node)
    {nodes : Set α} (finite : nodes.Finite) (nonempty : nodes.Nonempty) :
    ∃ node ∈ nodes, ∀ source ∈ nodes, ¬ edge source node := by
  have strict : IsStrictOrder α (Relation.TransGen edge) :=
    { irrefl := acyclic, trans := fun _ _ _ => Relation.TransGen.trans }
  obtain ⟨node, member, least⟩ := (finite.wellFoundedOn (r := Relation.TransGen edge)).has_min
    (Set.univ : Set nodes) ⟨⟨_, nonempty.some_mem⟩, trivial⟩
  exact ⟨node.1, node.2, fun source there found => least ⟨source, there⟩ trivial (.single found)⟩

omit [DecidableEq α] in
/-- A grounded node does not precede itself. -/
lemma not_self_of_acc {edge : α → α → Prop} (grounded : Acc edge node) : ¬ edge node node := by
  induction grounded with
  | intro node _ ih => exact fun self => ih node self self

section

variable (counted : Counted known graph)
include counted

/-- Counting a predecessor off queues the node exactly when it was the last one. -/
lemma Sound.release {target : α}
    (sound : Sound known graph (target :: pending) state) (once : target ∉ pending)
    (there : target ∈ known) :
    Sound known graph pending (release state target) := by
  have count := sound.counts target there
  rw [if_pos mem_cons_self] at count
  have waiting : target ∉ state.visited ++ state.queue := by
    intro found
    have zero := (sound.free target there).mpr found
    omega
  -- The counts of the other nodes are as they were.
  have others : ∀ other, other ≠ target →
      (Kahn.release state target).indegree other = state.indegree other := fun other apart =>
    Function.update_of_ne apart _ _
  have own : (Kahn.release state target).indegree target =
      (graph.predecessors known state.visited target).card := by
    simp only [Kahn.release, Function.update_self]
    omega
  have grows : ∀ node, node ∈ (Kahn.release state target).visited ++
      (Kahn.release state target).queue ↔ node ∈ state.visited ++ state.queue ∨
        (node = target ∧ (graph.predecessors known state.visited target).card = 0) := by
    intro node
    have decided : state.indegree target - 1 = 0 ↔
        (graph.predecessors known state.visited target).card = 0 := by omega
    simp only [Kahn.release, decided]
    split
    · rename_i last
      simp [last, or_assoc]
    · rename_i left
      simp [left]
  refine ⟨?_, fun node member => ?_, fun other member => ?_, fun other member => ?_,
    fun node member => ?_⟩
  · simp only [Kahn.release]
    split
    · rw [← append_assoc]
      exact sound.distinct.append (nodup_singleton target) (by simpa using waiting)
    · exact sound.distinct
  · rcases (grows node).mp member with old | ⟨rfl, _⟩
    · exact sound.within node old
    · exact there
  · by_cases same : other = target
    · subst same
      rw [own, if_neg once, Int.add_zero]
      rfl
    · rw [others other same, sound.counts other member]
      simp only [mem_cons, same, false_or]
      rfl
  · rw [grows]
    by_cases same : other = target
    · subst same
      rw [own]
      simp only [waiting, true_and, false_or]
      omega
    · rw [others other same, sound.free other member]
      simp [same]
  · rcases (grows node).mp member with old | ⟨rfl, last⟩
    · exact sound.grounded node old
    · -- Every predecessor was visited before.
      refine Acc.intro node fun source edge => sound.grounded source (mem_append_left _ ?_)
      by_contra unvisited
      have counts := Finset.card_eq_zero.mp last
      have listed : source ∈ graph.predecessors known state.visited node :=
        Finset.mem_filter.mpr ⟨List.mem_toFinset.mpr (counted.known source node edge).1, unvisited,
          edge⟩
      simp [counts] at listed

/-- Counting all successors of a node off. -/
lemma Sound.releaseAll (sound : Sound known graph pending state)
    (once : pending.Nodup) (there : ∀ target ∈ pending, target ∈ known) :
    Sound known graph [] (pending.foldl Kahn.release state) := by
  induction pending generalizing state with
  | nil => exact sound
  | cons target rest ih =>
    rw [nodup_cons] at once
    rw [forall_mem_cons] at there
    exact ih (sound.release counted once.1 there.1) once.2 there.2

variable (sorts : ∀ values, (sort values).Perm values)
include sorts

/-- A visit keeps what holds between two visits. -/
lemma Sound.visit (sound : Sound known graph [] state) (waiting : state.queue = node :: rest) :
    Sound known graph [] (visit sort graph state node rest) := by
  have queued : node ∈ state.visited ++ state.queue := by simp [waiting]
  have same : ∀ other, other ∈ (state.visited ++ [node]) ++ rest ↔
      other ∈ state.visited ++ state.queue := by
    simp [waiting]
  have unvisited : node ∉ state.visited := by
    have distinct := sound.distinct
    rw [waiting] at distinct
    exact fun visited => disjoint_of_nodup_append distinct visited mem_cons_self
  refine Sound.releaseAll counted ?_ ((sorts _).nodup_iff.mpr (counted.distinct node))
    fun target member =>
    (counted.known node target ((sorts _).mem_iff.mp member)).2
  refine ⟨?_, fun other member => sound.within other ((same other).mp member),
    fun target member => ?_, fun target member => ?_, fun other member =>
      sound.grounded other ((same other).mp member)⟩
  · have distinct := sound.distinct
    rwa [waiting, ← singleton_append, ← append_assoc] at distinct
  · -- The visited node is no longer a predecessor, and its successors are still to be counted off.
    show state.indegree target = _
    rw [sound.counts target member, if_neg not_mem_nil, if_congr (sorts _).mem_iff rfl rfl]
    have fewer : graph.predecessors known (state.visited ++ [node]) target =
        (graph.predecessors known state.visited target).erase node := by
      ext source
      simp only [predecessors, Finset.mem_filter, Finset.mem_erase, mem_append, mem_singleton]
      tauto
    rw [fewer]
    by_cases successor : target ∈ graph.adjacency node
    · have listed : node ∈ graph.predecessors known state.visited target :=
        Finset.mem_filter.mpr ⟨List.mem_toFinset.mpr (sound.within node queued), unvisited,
          successor⟩
      have card := Finset.card_erase_add_one listed
      rw [if_pos successor]
      omega
    · rw [if_neg successor, Finset.erase_eq_of_notMem]
      exact fun listed => successor (Finset.mem_filter.mp listed).2.2
  · show state.indegree target = 0 ↔ _
    rw [sound.free target member]
    exact (same target).symm

/-- After as many visits as there are nodes the queue is empty. -/
lemma Sound.run :
    ∀ (steps : Nat) (state : State α), Sound known graph [] state →
      known.length ≤ state.visited.length + steps →
      Sound known graph [] (run sort graph steps state) ∧
        (run sort graph steps state).queue = [] := by
  -- The visited and the waiting nodes are distinct known nodes, so that there are not too many of
  -- them.
  have bounded : ∀ state : State α, Sound known graph [] state →
      state.visited.length + state.queue.length ≤ known.length := by
    intro state sound
    rw [← length_append]
    exact (subperm_of_subset sound.distinct sound.within).length_le
  intro steps
  induction steps with
  | zero =>
    intro state sound enough
    have limit := bounded state sound
    have nothing : state.queue.length = 0 := by omega
    exact ⟨sound, length_eq_zero_iff.mp nothing⟩
  | succ steps ih =>
    intro state sound enough
    rw [Kahn.run]
    cases waiting : state.queue with
    | nil => exact ⟨sound, waiting⟩
    | cons node rest =>
      refine ih _ (sound.visit counted sorts waiting) ?_
      rw [length_visit]
      omega

/-- The visited nodes are distinct known nodes. -/
lemma order_sound (distinct : known.Nodup) :
    ∃ last : State α, Sound known graph [] last ∧ last.queue = [] ∧
      last.visited = order sort known graph := by
  have start : Sound known graph []
      ⟨sort (known.filter fun node => graph.indegree node = 0), [], graph.indegree⟩ := by
    refine ⟨?_, fun node member => ?_, fun target _ => ?_, fun target there => ?_,
      fun node member => ?_⟩
    · exact (sorts _).nodup_iff.mpr (distinct.filter _)
    · exact (List.mem_filter.mp ((sorts _).mem_iff.mp member)).1
    · simp [counted.indegree]
    · rw [nil_append, (sorts _).mem_iff, List.mem_filter, decide_eq_true_eq]
      exact (and_iff_right there).symm
    · -- A node without predecessors is grounded.
      have zero := (List.mem_filter.mp ((sorts _).mem_iff.mp member)).2
      rw [decide_eq_true_eq, counted.indegree] at zero
      refine Acc.intro node fun source edge => ?_
      have listed : source ∈ graph.predecessors known [] node :=
        Finset.mem_filter.mpr ⟨List.mem_toFinset.mpr (counted.known source node edge).1, by simp,
          edge⟩
      have some := Finset.card_pos.mpr ⟨source, listed⟩
      omega
  obtain ⟨sound, done⟩ := Sound.run counted sorts known.length _ start (by simp)
  exact ⟨_, sound, done, rfl⟩

/-- Every known node is visited exactly when the graph has no cycle. -/
lemma order_complete_iff (distinct : known.Nodup) :
    (order sort known graph).length = known.length ↔
      ∀ node, ¬ Relation.TransGen (Edge graph) node node := by
  obtain ⟨last, sound, done, visited⟩ := order_sound counted sorts distinct
  have once := sound.distinct
  have within := sound.within
  have free := sound.free
  rw [done, append_nil] at once within free
  rw [← visited]
  constructor
  · intro complete node cycle
    -- All known nodes are grounded, and no grounded node lies on a cycle.
    have all := (subperm_of_subset once within).perm_of_length_le
      complete.ge |>.symm.subset
    have grounded : Acc (Relation.TransGen (Edge graph)) node := by
      refine (sound.grounded node ?_).transGen
      obtain ⟨_, _, edge⟩ := Relation.TransGen.tail'_iff.mp cycle
      exact mem_append_left _ (all (counted.known _ _ edge).2)
    exact not_self_of_acc grounded cycle
  · intro acyclic
    by_contra incomplete
    -- Some node was not visited, and the first of them has all its predecessors visited.
    have left : {node | node ∈ known ∧ node ∉ last.visited}.Nonempty := by
      by_contra none
      rw [Set.not_nonempty_iff_eq_empty, Set.eq_empty_iff_forall_notMem] at none
      have all : known ⊆ last.visited := fun node there => by
        by_contra unvisited
        exact none node ⟨there, unvisited⟩
      exact incomplete (le_antisymm (subperm_of_subset once within).length_le
        (subperm_of_subset distinct all).length_le)
    obtain ⟨node, ⟨there, unvisited⟩, least⟩ := exists_source acyclic
      ((finite_toSet known).subset fun _ member => member.1) left
    refine unvisited ((free node there).mp ?_)
    rw [sound.counts node there, if_neg not_mem_nil, Int.add_zero, Int.natCast_eq_zero,
      Finset.card_eq_zero, Finset.eq_empty_iff_forall_notMem]
    intro source listed
    obtain ⟨sourceKnown, sourceUnvisited, edge⟩ := Finset.mem_filter.mp listed
    exact least source ⟨List.mem_toFinset.mp sourceKnown, sourceUnvisited⟩ edge

end

end Ananta.Kahn
