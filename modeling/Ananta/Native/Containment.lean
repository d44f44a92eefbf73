import Ananta.Native.Calls

/-! The nodes and gates that the state of a Native run speaks of belong to the plan that it runs. -/

namespace Ananta

open Finset Dict

variable {ports : NativePorts} {request : NativeGraphRequest} {plan : ExecutionPlan}
  {world : NativeWorld}

def NativeRunState.places (state : NativeRunState) : List (Finset Str) :=
  [state.completed, state.skipped, state.failed.keys.toFinset, state.running.keys.toFinset]

structure NativeRunState.InsidePlan (state : NativeRunState) : Prop where
  apart : state.places.Pairwise Disjoint
  known : ∀ place ∈ state.places, ∀ nodeId ∈ place, nodeId ∈ state.effectivePlan.nodeIds
  gates : ∀ entry ∈ state.openGates.entries,
    entry.1 ∈ state.effectivePlan.gateIds ∧ entry.2 ∈ state.effectivePlan.nodeIds

/-- The same, node by node and gate by gate, for a plan that declares the gates of its nodes. -/
structure Contained (plan : ExecutionPlan) (state : NativeRunState) : Prop where
  effective : state.effectivePlan = plan
  distinct : plan.nodeIds.Nodup
  declared : ∀ node ∈ plan.nodes, node.gateId ≠ [] → node.gateId ∈ plan.gateIds
  completed : ∀ nodeId ∈ state.completed, nodeId ∈ plan.nodeIds ∧ nodeId ∉ state.skipped ∧
    state.failed.get? nodeId = none ∧ state.running.get? nodeId = none
  skipped : ∀ nodeId ∈ state.skipped, nodeId ∈ plan.nodeIds ∧ state.failed.get? nodeId = none ∧
    state.running.get? nodeId = none
  failed : ∀ nodeId, state.failed.get? nodeId ≠ none → nodeId ∈ plan.nodeIds ∧
    state.running.get? nodeId = none
  running : ∀ nodeId, state.running.get? nodeId ≠ none → nodeId ∈ plan.nodeIds
  gates : ∀ gateId nodeId, state.openGates.get? gateId = some nodeId → gateId ∈ plan.gateIds ∧
    nodeId ∈ plan.nodeIds

lemma mem_keys_iff {ν : Type} {dict : Dict Str ν} {key : Str} : key ∈ dict.keys ↔
    dict.get? key ≠ none := by
  rw [mem_keys, Option.isSome_iff_ne_none]

/-- The two forms agree. -/
lemma Contained.insidePlan {state : NativeRunState} (contained : Contained plan state) :
    state.InsidePlan := by
  have none_of :
    ∀ {ν : Type} {dict : Dict Str ν} {nodeId : Str}, dict.get? nodeId = none → nodeId ∉ dict.keys :=
    fun absent listed => mem_keys_iff.mp listed absent
  refine ⟨?_, ?_, fun entry listed => ?_⟩
  · simp only [NativeRunState.places, List.pairwise_cons, List.forall_mem_cons, disjoint_left,
      List.mem_toFinset]
    refine ⟨⟨fun id done => (contained.completed id done).2.1, fun id done =>
      none_of (contained.completed id done).2.2.1, fun id done =>
        none_of (contained.completed id done).2.2.2, List.forall_mem_nil _⟩,
      ⟨fun id done => none_of (contained.skipped id done).2.1, fun id done =>
        none_of (contained.skipped id done).2.2, List.forall_mem_nil _⟩,
      ⟨fun id lost => none_of (contained.failed id (mem_keys_iff.mp lost)).2,
        List.forall_mem_nil _⟩,
      ⟨List.forall_mem_nil _, .nil⟩⟩
  · rw [contained.effective]
    simp only [NativeRunState.places, List.forall_mem_cons, List.mem_toFinset, mem_keys_iff]
    exact ⟨fun id done => (contained.completed id done).1, fun id done =>
      (contained.skipped id done).1, fun id lost => (contained.failed id lost).1, contained.running,
        List.forall_mem_nil _⟩
  · rw [contained.effective]
    exact contained.gates entry.1 entry.2 (get?_eq_some_iff.mpr listed)

variable {state : NativeRunState} {nodeId : Str}

section

variable (contained : Contained plan state)
include contained

/-- A change of anything else leaves the nodes where they are. -/
lemma Contained.elsewhere {other : NativeRunState}
    (same : (other.effectivePlan, other.completed, other.skipped, other.failed, other.running,
      other.openGates) =
      (state.effectivePlan, state.completed, state.skipped, state.failed, state.running,
        state.openGates)) :
    Contained plan other := by
  simp only [Prod.mk.injEq] at same
  obtain ⟨_, distinct, declared⟩ := contained
  refine ⟨?_, distinct, declared, ?_, ?_, ?_, ?_, ?_⟩ <;> simp only [*] <;> assumption

omit contained in
lemma not_mem_terminal : nodeId ∉ state.terminal ↔
    nodeId ∉ state.completed ∧ nodeId ∉ state.skipped ∧ state.failed.get? nodeId = none := by
  simp only [NativeRunState.terminal, mem_union, List.mem_toFinset, mem_keys_iff, not_or, not_not,
    and_assoc]

lemma Contained.pending (runs : state.running.get? nodeId ≠ none) : nodeId ∉ state.terminal := by
  cases contained
  grind [not_mem_terminal]

lemma Contained.finished (listed : nodeId ∈ plan.nodeIds)
    (pending : nodeId ∉ state.terminal) (value : Value) (references : List (Str × Str)) :
    Contained plan (state.finished nodeId value references) := by
  cases contained
  constructor <;> grind [NativeRunState.finished, get?_erase, not_mem_terminal]

lemma Contained.lost (listed : nodeId ∈ plan.nodeIds)
    (pending : nodeId ∉ state.terminal) (failure : Str) :
    Contained plan (state.lost nodeId failure) := by
  cases contained
  constructor <;> grind [NativeRunState.lost, get?_erase, get?_set, not_mem_terminal]

lemma Contained.released (nodeId : Str) : Contained plan (state.released nodeId) := by
  cases contained
  constructor <;> grind [NativeRunState.released, get?_erase]

lemma Contained.emptied : Contained plan { state with running := empty } := by
  cases contained
  constructor <;> grind [get?_empty]

end

variable {node : ExecutionNode}

section

variable (contained : Contained plan state)
include contained

/-- A node that is neither done with nor running is skipped. -/
lemma Contained.bypassed
    (free : Dispatchable plan state node) : Contained plan (state.bypassed node.nodeId) := by
  have listed : node.nodeId ∈ plan.nodeIds := List.mem_map_of_mem free.listed
  cases free
  cases contained
  constructor <;> grind [NativeRunState.bypassed, not_mem_terminal]

/-- A node that is neither done with nor running is handed out. -/
lemma Contained.delegated
    (free : Dispatchable plan state node) (task : RunningTask) :
    Contained plan (state.delegated node.nodeId task) := by
  have listed : node.nodeId ∈ plan.nodeIds := List.mem_map_of_mem free.listed
  cases free
  cases contained
  constructor <;> grind [NativeRunState.delegated, get?_set, not_mem_terminal]

/-- The gate of a node is opened. -/
lemma Contained.gated (listed : node ∈ plan.nodes)
    (gate : node.gateId ≠ []) : Contained plan (state.gated node.gateId node.nodeId) := by
  have known : node.nodeId ∈ plan.nodeIds := List.mem_map_of_mem listed
  cases contained
  constructor <;> grind [NativeRunState.gated, get?_set]

lemma Contained.closed (gateId : Str) :
    Contained plan { state with openGates := state.openGates.erase gateId } := by
  cases contained
  constructor <;> grind [get?_erase]

lemma Contained.retried (stepId : Str) : Contained plan (state.retried stepId) := by
  cases contained
  constructor <;> grind [NativeRunState.retried, get?_erase, get?_empty]

lemma Contained.stored (request : NativeGraphRequest) : Contained plan (state.stored request) := by
  cases contained
  constructor <;> grind [NativeRunState.stored, get?_sorted]

end

/-- A command that rejects no node which is already placed, and takes no node or open gate out of
the plan that the state still speaks of. -/
structure SignedWorkflowCommand.Spares (ports : NativePorts) (command : SignedWorkflowCommand)
    (state : NativeRunState) : Prop where
  rejects : command.commandType = "reject" → command.stepId ∉ state.completed ∧
    command.stepId ∉ state.skipped ∧ state.running.get? command.stepId = none
  edits : command.commandType ∈ [text "edit", text "request_changes"] → ∀ moment replacement,
    ports.replacement moment command = .ok replacement →
    (∀ nodeId, nodeId ∈ state.skipped ∨ nodeId ∈ state.failed.keys → nodeId ∈ replacement.nodeIds) ∧
    ∀ entry ∈ state.openGates.entries, entry.1 ∈ replacement.gateIds ∧ entry.2 ∈ replacement.nodeIds

/-- A safe edit keeps the nodes that were completed. -/
lemma completed_of_safe {replacement : ExecutionPlan}
    (safe : assertSafePlanEdit plan replacement state = .ok ()) :
    ∀ nodeId ∈ state.completed, nodeId ∈ replacement.nodeIds := by
  intro nodeId done
  simp only [assertSafePlanEdit, ok_iff] at safe
  cases named : replacement.nodeNamed nodeId with
  | none =>
    grind
  | some kept =>
    obtain ⟨listed, rfl⟩ := mem_of_nodeNamed named
    exact List.mem_map_of_mem listed

/-- An edit that takes away nothing that the state speaks of leads into the replacement. -/
lemma Contained.edited {command : SignedWorkflowCommand} {replacement : ExecutionPlan}
    (contained : Contained plan state) (spares : command.Spares ports state)
    (kind : command.commandType ∈ [text "edit", text "request_changes"])
    (idle : state.running.entries = []) {moment : Nat}
    (presented : ports.replacement moment command = .ok replacement)
    (safe : assertSafePlanEdit plan replacement state = .ok ())
    (valid : replacement.validate ports.routing = .ok []) (revision : Int) :
    Contained replacement
      { state with planRevision := revision, effectivePlan := replacement } := by
  obtain ⟨nodes, gates⟩ := spares.edits kind moment replacement presented
  refine ⟨rfl, (valid_of_validate valid).distinct, fun node listed gated =>
    gate_of_validate valid listed gated, ?_, ?_, ?_, ?_, fun gateId nodeId waiting =>
      gates (gateId, nodeId) (get?_eq_some_iff.mp waiting)⟩
  · exact fun nodeId done =>
      ⟨completed_of_safe safe nodeId done, (contained.completed nodeId done).2⟩
  · exact fun nodeId done => ⟨nodes nodeId (.inl done), (contained.skipped nodeId done).2⟩
  · exact fun nodeId lost =>
      ⟨nodes nodeId (.inr (mem_keys_iff.mpr lost)), (contained.failed nodeId lost).2⟩
  · intro nodeId runs
    have listed := mem_keys_iff.mpr runs
    rw [keys, idle] at listed
    cases listed

/-- A rejected gate fails a node that is placed nowhere. -/
lemma Contained.rejected {gateId nodeId : Str} (contained : Contained plan state)
    (entry : (gateId, nodeId) ∈ state.openGates.entries)
    (free : nodeId ∉ state.completed ∧ nodeId ∉ state.skipped ∧ state.running.get? nodeId = none) :
    Contained plan (state.rejected gateId nodeId) := by
  have listed := (contained.gates gateId nodeId (get?_eq_some_iff.mpr entry)).2
  cases contained.closed gateId
  constructor <;> grind [NativeRunState.rejected, get?_set]

/-- Commands that spare the state keep it inside its plan. -/
lemma commands_contained (command : SignedWorkflowCommand) :
    CommandStateRules ports plan command (fun state => Contained plan state ∧
      command.Spares ports state) (Contained plan) Contained where
  sequenceDoomed _ contained := contained.elsewhere rfl
  sequence _ contained := contained.elsewhere rfl
  cancel holds := ⟨holds.1.emptied,
    fun kind => ⟨(holds.2.rejects kind).1, (holds.2.rejects kind).2.1, rfl⟩, holds.2.edits⟩
  emptied contained := contained.emptied
  broken _ contained := contained.elsewhere rfl
  resume holds := holds.1.elsewhere rfl
  reject holds kind entry := holds.1.rejected entry (holds.2.rejects kind)
  approve holds _ := (holds.1.closed _).elsewhere rfl
  pause contained := contained.elsewhere rfl
  enter holds := holds.1
  stop holds := holds.1.elsewhere rfl
  retry holds := holds.1.retried _
  edit _ _ revision holds kind idle presented safe native :=
    holds.1.edited holds.2 kind idle presented safe (validate_of_assertNative native) revision

/-- Every node that was handed out since is a node of the plan whose gate, if it has one, was
approved. -/
def Handed (plan : ExecutionPlan) (approved : Finset Str)
    (earlier entries : List (Str × Str)) : Prop :=
  ∀ entry ∈ entries, entry ∈ earlier ∨
    ∃ node ∈ plan.nodes, node.nodeId = entry.1 ∧ (node.gateId = [] ∨ node.gateId ∈ approved)

/-- A tick keeps the state inside its plan, and hands out no node whose gate was not approved. -/
lemma tick_contained (approved : Finset Str) (earlier : List (Str × Str))
    (saved : List NativeRunState) :
    StateRules plan request (fun state => Contained plan state ∧ state.approvedGates = approved)
      (fun state => Contained plan state ∧ state.approvedGates = approved)
      (fun entries checkpoints => Handed plan approved earlier entries ∧ checkpoints = saved) where
  doom holds := holds
  sequence _ holds := ⟨holds.1.elsewhere rfl, holds.2⟩
  sequenceDoomed _ holds := ⟨holds.1.elsewhere rfl, holds.2⟩
  emptied holds := ⟨holds.1.emptied, holds.2⟩
  broken _ holds := ⟨holds.1.elsewhere rfl, holds.2⟩
  attempt _ holds := ⟨holds.1.elsewhere rfl, holds.2⟩
  hand commandId holds free cleared handed := by
    refine ⟨fun entry listed => ?_, handed.2⟩
    rcases List.mem_append.mp listed with old | new
    · exact handed.1 entry old
    · rw [List.mem_singleton.mp new, ← holds.2]
      exact .inr ⟨_, free.listed, rfl, cleared⟩
  accept {state result task node} holds returned := by
    have runs : state.running.get? result.nodeId ≠ none := by simp [returned.running]
    have taken := holds.1.finished returned.listed (holds.1.pending runs) (.dict result.outputData)
      result.artifactRefs.entries
    exact ⟨taken.elsewhere rfl, holds.2⟩
  release holds returned := ⟨holds.1.released _, holds.2⟩
  lose {state result task node} failure holds returned := by
    have runs : state.running.get? result.nodeId ≠ none := by simp [returned.running]
    have lost := holds.1.lost returned.listed (holds.1.pending runs) failure
    exact ⟨⟨lost, holds.2⟩, fun _ => ⟨lost, holds.2⟩⟩
  skip holds free := ⟨holds.1.bypassed free, holds.2⟩
  finish value references holds free :=
    ⟨holds.1.finished (List.mem_map_of_mem free.listed) free.pending value references, holds.2⟩
  unmerge reason holds free :=
    ⟨holds.1.lost (List.mem_map_of_mem free.listed) free.pending reason, holds.2⟩
  gate holds free gated := ⟨holds.1.gated free.listed gated, holds.2⟩
  pause holds := ⟨holds.1.elsewhere rfl, holds.2⟩
  wait holds := ⟨holds.1.elsewhere rfl, holds.2⟩
  delegate task holds free := ⟨holds.1.delegated free task, holds.2⟩
  complete holds := ⟨holds.1.elsewhere rfl, holds.2⟩

/-- What holds between calls, where some nodes were handed out before the last one. -/
structure SettledSince (earlier : List (Str × Str)) (world : NativeWorld) : Prop where
  saved : ∀ state ∈ world.checkpoints, Contained state.effectivePlan state
  handed : Handed world.state.effectivePlan world.state.approvedGates earlier world.submitted

def NativeCall.Spares (ports : NativePorts) (world : NativeWorld) : NativeCall → Prop
  | .start _ | .advance _ => True
  | .resume resumption _ => ∀ revision state, resumption.base world.checkpoints =
      some (revision, state) → resumption.command.Spares ports state

/-- Saving a state that is inside its plan. -/
lemma save_contained {earlier : List (Str × Str)} {approved : Finset Str}
    (contained : Contained plan world.state) (same : world.state.approvedGates = approved)
    (handed : Handed plan approved earlier world.submitted)
    (saved : ∀ state ∈ world.checkpoints, Contained state.effectivePlan state) :
    Call.Ensures (saveCheckpoint ports request plan)
      world (Kept (SettledSince earlier) (SettledSince earlier)) :=
  saveCheckpoint_saved.mono fun outcome after effect => by
    cases outcome with
    | error _ =>
      obtain ⟨submitted, checkpoints, sequence, state⟩ := effect
      refine ⟨by rwa [checkpoints], ?_⟩
      rw [submitted, state]
      show Handed world.state.effectivePlan world.state.approvedGates earlier world.submitted
      rwa [contained.effective, same]
    | ok _ =>
      obtain ⟨submitted, sequence, state, checkpoints⟩ := effect
      have kept : Contained plan after.state := by
        rw [state]
        exact contained.elsewhere rfl
      refine ⟨fun other listed => ?_, ?_⟩
      · rw [checkpoints, List.mem_append, List.mem_singleton] at listed
        rcases listed with old | rfl
        · exact saved other old
        · have stored := kept.stored request
          rwa [stored.effective]
      · rw [submitted, state]
        show Handed world.state.effectivePlan world.state.approvedGates earlier world.submitted
        rwa [contained.effective, same]

/-- What holds while a plan is run, where the approved gates and the saved states stay as they
are. -/
def Ticking (plan : ExecutionPlan) (approved : Finset Str) (earlier : NativeWorld)
    (world : NativeWorld) : Prop :=
  (Contained plan world.state ∧ world.state.approvedGates = approved) ∧
    Handed plan approved earlier.submitted world.submitted ∧ world.checkpoints = earlier.checkpoints

variable {earlier : List (Str × Str)} {approved : Finset Str}

variable {after : NativeWorld}

section

variable (settled : SettledSince earlier world)
include settled

lemma SettledSince.of_ticking
    (ticking : Ticking plan approved world after) : SettledSince world.submitted after := by
  obtain ⟨⟨contained, rfl⟩, handed, same⟩ := ticking
  exact ⟨by rw [same]; exact settled.saved, by rwa [contained.effective]⟩

lemma SettledSince.of_quiet
    (quiet : Quiet { world with state } after) : SettledSince world.submitted after :=
  ⟨by rw [quiet.checkpoints]; exact settled.saved, fun _ listed =>
    .inl (by rwa [quiet.submitted] at listed)⟩

lemma SettledSince.tickRules (plan : ExecutionPlan) (approved : Finset Str) :
    TickRules ports request plan (Ticking plan approved world) (Ticking plan approved world)
      (Ticking plan approved world) (SettledSince world.submitted) :=
  (tick_contained approved world.submitted world.checkpoints).tickRules
    fun ticking => settled.of_ticking ticking

lemma SettledSince.save (ticking : Ticking plan approved world after) :
    Call.Ensures (saveCheckpoint ports request plan)
      after (Kept (SettledSince world.submitted) (SettledSince world.submitted)) := by
  obtain ⟨⟨contained, same⟩, handed, saved⟩ := ticking
  exact save_contained contained same handed (by rw [saved]; exact settled.saved)

omit settled in
lemma contained_fresh (valid : request.plan.validate ports.routing = .ok []) :
    Contained request.plan (.fresh ports request) :=
  ⟨rfl, (valid_of_validate valid).distinct, fun _ listed gated =>
    gate_of_validate valid listed gated,
    fun _ done => absurd done (notMem_empty _), fun _ done => absurd done (notMem_empty _),
    fun _ lost => absurd rfl lost, fun _ runs => absurd rfl runs, nofun⟩

section

variable (results : List NativeNodeResult)
include results

/-- Starting keeps everything settled. -/
lemma SettledSince.start :
    Call.Ensures (start ports request results)
      world (Kept (SettledSince world.submitted) (SettledSince world.submitted)) := by
  refine start_keeps (settled.of_quiet (.refl world)) (fun _ => settled.tickRules request.plan ∅)
    (fun valid _ emission _ => ?_) (settled.save) results
  exact (tick_contained ∅ world.submitted world.checkpoints).announce (settled.of_ticking)
    ⟨contained_fresh valid, rfl⟩ ⟨fun _ listed => .inl listed, rfl⟩

lemma SettledSince.advance :
    Call.Ensures (advance ports request results)
      world (Kept (SettledSince world.submitted) (SettledSince world.submitted)) := by
  refine advance_keeps (settled.of_quiet (.refl world))
    (fun state _ => settled.of_quiet (.refl { world with state }))
    (fun state _ _ => settled.of_quiet (.refl { world with state }))
    (fun state last _ => ?_) results
  have contained := settled.saved state (List.mem_of_getLast? last)
  exact ⟨_, _, _, contained.distinct, settled.tickRules state.effectivePlan state.approvedGates,
    ⟨⟨contained, rfl⟩, fun _ listed => .inl listed, rfl⟩, fun ticking => settled.save ticking⟩

/-- Resuming with a command that spares the state keeps everything settled. -/
lemma SettledSince.resume {resumption : Resumption}
    (spares : (NativeCall.resume resumption results).Spares ports world) :
    Call.Ensures (resume ports request resumption results) world
      (Kept (SettledSince world.submitted) (SettledSince world.submitted)) := by
  have handed : ∀ plan approved, Handed plan approved world.submitted world.submitted :=
    fun _ _ _ listed => .inl listed
  -- A command hands out nothing and saves nothing.
  let still entries saved := entries = world.submitted ∧ saved = world.checkpoints
  have leads : ∀ {plan : ExecutionPlan} {after : NativeWorld}, Upheld (Contained plan) still after →
      SettledSince world.submitted after := by
    intro plan after ⟨contained, same⟩
    exact settled.of_ticking ⟨⟨contained, rfl⟩, by rw [same.1]; exact handed _ _, same.2⟩
  refine resume_keeps (fun plan => Upheld (Contained plan) still) (settled.of_quiet (.refl world))
    (fun _ _ _ quiet => settled.of_quiet quiet)
    (fun _ _ _ quiet => settled.of_quiet quiet) (fun revision state based after quiet => ?_)
    results (fun plan after applied => ?_)
  · have contained := settled.saved state (Resumption.mem_of_base based)
    refine applyCommand_keeps ((commands_contained resumption.command).commandRules
      still (fun holds => leads ⟨holds.1.1, holds.2⟩)
      leads leads) ⟨?_, quiet.submitted, quiet.checkpoints⟩
    rw [quiet.state]
    exact ⟨contained, spares revision state based⟩
  · obtain ⟨contained, same⟩ := applied
    refine ⟨_, tick_keeps (settled.tickRules plan after.state.approvedGates)
      ⟨⟨contained, rfl⟩, by rw [same.1]; exact handed _ _, same.2⟩ contained.distinct results,
        fun last ticking => ?_⟩
    exact settled.save ⟨⟨ticking.1.1.elsewhere rfl, ticking.1.2⟩, ticking.2⟩

end

/-- Every call that spares the state keeps what holds between calls. -/
lemma call_settled (call : NativeCall) (spares : call.Spares ports world) :
    SettledSince world.submitted ((nativeMachine ports request).step world call).2 := by
  have post : Call.Ensures (call.run ports request)
      world (Kept (SettledSince world.submitted) (SettledSince world.submitted)) := by
    cases call with
    | start results => exact settled.start results
    | advance results => exact settled.advance results
    | resume resumption results => exact settled.resume results spares
  exact holds_after post fun _ => id

end

/-- In every run whose commands spare the state they are based on, every saved state stays inside
its plan, and no call hands out a node whose gate was not approved. -/
theorem native_run_inside_plan (ports : NativePorts) (request : NativeGraphRequest)
    (calls : List NativeCall)
    (spared : (nativeMachine ports request).Throughout (fun world call => call.Spares ports world)
      (nativeMachine ports request).initial calls) :
    let world := (nativeMachine ports request).after (nativeMachine ports request).initial calls
    (∀ state ∈ world.checkpoints, state.InsidePlan) ∧
      ∀ call : NativeCall, call.Spares ports world →
        let after := ((nativeMachine ports request).step world call).2
        ∀ entry ∈ after.submitted, entry ∈ world.submitted ∨
          ∃ node ∈ after.state.effectivePlan.nodes, node.nodeId = entry.1 ∧
            GateCleared after.state node := by
  intro world
  have settled : ∃ earlier, SettledSince earlier world := by
    refine (nativeMachine ports request).after_of_throughout _
      (fun world => ∃ earlier, SettledSince earlier world)
      (fun _ call kept spares => kept.elim fun _ settled => ⟨_, call_settled settled call spares⟩)
        calls _ ?_ spared
    exact ⟨[], fun _ impossible => (nomatch impossible), fun _ impossible => nomatch impossible⟩
  obtain ⟨earlier, settled⟩ := settled
  exact ⟨fun state listed => (settled.saved state listed).insidePlan,
    fun call spares => (call_settled settled call spares).handed⟩

/-- A node behind which one branch is not taken, and the other one waits for an approval. -/
def forkedPlan : ExecutionPlan :=
  { tenantId := "t", planId := "p", workflowId := "w", policyVersion := "v",
    nodes := [{ nodeId := "a", nodeType := "checkpoint" }, { nodeId := "b" },
      { nodeId := "c", gateId := "g" }],
    edges := [⟨"a", "b", .dict [("op", .str "exists"), ("field", .str "input.b")]⟩,
      { source := "a", target := "c" }],
    gates := [{ gateId := "g" }] }

theorem native_run_inside_plan_forked :
    let machine := nativeMachine permissivePorts (plainRequest forkedPlan)
    let world := machine.after machine.initial
      [.start [], .advance [], .resume { command := plainCommand "m" "approve" "c" } []]
    world.checkpoints.length = 3 ∧ ∀ state ∈ world.checkpoints, state.InsidePlan := by
  intro machine world
  refine ⟨by decide +kernel,
    (native_run_inside_plan permissivePorts (plainRequest forkedPlan) _ ?_).1⟩
  refine ⟨trivial, trivial, fun _ _ _ => ⟨fun kind => ?_, fun kind => ?_⟩, trivial⟩
  · exact absurd kind (by decide)
  · exact absurd kind (by decide)

def prunedPlan : ExecutionPlan :=
  { forkedPlan with
    planId := "q", nodes := forkedPlan.nodes.eraseIdx 1, edges := forkedPlan.edges.tail }

/-- An edit of a waiting run takes a skipped node out of its plan, and the run cannot go on after
the approval. -/
theorem pruned_run_leaves_plan :
    let machine := nativeMachine { permissivePorts with replacement := fun _ _ => .ok prunedPlan }
      (plainRequest forkedPlan)
    let edit := { plainCommand "e" "edit" "c" with
      payload := [("replacement_plan_hash", .str "q")] }
    let world := machine.after machine.initial
      [.start [], .advance [], .resume { command := edit } []]
    (∃ state ∈ world.checkpoints, ¬ state.InsidePlan) ∧
      (machine.step world (.resume { command := plainCommand "m" "approve" "c" } [])).1 =
        .error ⟨.valueError, "parallel_state_node_unknown"⟩ := by
  intro machine edit world
  refine ⟨?_, by decide +kernel⟩
  have strayed : ∃ state ∈ world.checkpoints, text "b" ∈ state.skipped ∧
      text "b" ∉ state.effectivePlan.nodeIds := by
    decide +kernel
  obtain ⟨state, saved, skipped, unknown⟩ := strayed
  exact ⟨state, saved, fun inside =>
    unknown (inside.known state.skipped (by simp [NativeRunState.places]) _ skipped)⟩

end Ananta
