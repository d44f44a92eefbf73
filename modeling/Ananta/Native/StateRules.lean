import Ananta.Native.Rules

/-! Properties of the state in memory alone, and how they are carried through a tick. -/

namespace Ananta

open Call

variable {ports : NativePorts} {request : NativeGraphRequest} {plan : ExecutionPlan}
  {world : NativeWorld}

/-- What each change of a tick has to keep of a property of the state, and of one of what was handed
out and saved so far. -/
structure StateRules (plan : ExecutionPlan) (request : NativeGraphRequest)
    (inv doomed : NativeRunState → Prop) (outside : List (Str × Str) → List NativeRunState → Prop) :
    Prop where
  doom : ∀ {state}, inv state → doomed state
  sequence : ∀ {state} sequence, inv state → inv (state.sequenced sequence)
  sequenceDoomed : ∀ {state} sequence, doomed state → doomed (state.sequenced sequence)
  emptied : ∀ {state}, doomed state → doomed { state with running := Dict.empty }
  broken : ∀ {state} reason, doomed state → inv (state.broken reason)
  attempt : ∀ {state} nodeId, inv state → inv (state.attempted nodeId)
  hand : ∀ {state node entries saved} commandId, inv state → Dispatchable plan state node →
    GateCleared state node →
    outside entries saved → outside (entries ++ [(node.nodeId, commandId)]) saved
  accept : ∀ {state result task node}, inv state → Returned plan request state result task node →
    inv (state.accepted result)
  release : ∀ {state result task node}, inv state → Returned plan request state result task node →
    inv (state.released result.nodeId)
  lose : ∀ {state result task node} failure, inv state →
    Returned plan request state result task node →
    doomed (state.lost result.nodeId failure) ∧
      (node.declared "failure_policy" "fail" = "continue" → inv (state.lost result.nodeId failure))
  skip : ∀ {state node}, inv state → Dispatchable plan state node → inv (state.bypassed node.nodeId)
  finish : ∀ {state node} value references, inv state → Dispatchable plan state node →
    inv (state.finished node.nodeId value references)
  unmerge : ∀ {state node} reason, inv state → Dispatchable plan state node →
    doomed (state.lost node.nodeId reason)
  gate : ∀ {state node}, inv state → Dispatchable plan state node → node.gateId ≠ [] →
    inv (state.gated node.gateId node.nodeId)
  pause : ∀ {state}, inv state → inv { state with status := .paused }
  wait : ∀ {state}, inv state → inv { state with status := .waitingForApproval }
  delegate : ∀ {state node} task, inv state → Dispatchable plan state node →
    inv (state.delegated node.nodeId task)
  complete : ∀ {state}, inv state → inv { state with status := .completed }

variable {event : CanonicalWorkflowEvent} {outcome : Except Fault Unit} {after : NativeWorld}
    {property inv doomed : NativeRunState → Prop} {result : NativeNodeResult}
      {state : NativeRunState}
    {node : ExecutionNode}

lemma OfferEffect.outside (effect : OfferEffect world event outcome after) :
    after.submitted = world.submitted ∧ after.checkpoints = world.checkpoints := by
  cases effect with
  | refused quiet | repeated _ quiet | filed _ quiet => exact ⟨quiet.submitted, quiet.checkpoints⟩

variable {outside : List (Str × Str) → List NativeRunState → Prop} {err : NativeWorld → Prop}

/-- A property of the state, and one of what was handed out and saved so far. -/
abbrev Upheld (property : NativeRunState → Prop) (outside : List (Str × Str) → List NativeRunState →
    Prop) (world : NativeWorld) : Prop := property world.state ∧
      outside world.submitted world.checkpoints

lemma Upheld.quiet (holds : Upheld property outside world) (quiet : Quiet world after) :
    Upheld property outside after := by
  rwa [Upheld, quiet.state, quiet.submitted, quiet.checkpoints]

section

variable (leads : ∀ {world}, Upheld property outside world → err world)
  (sequence : ∀ {state} sequence, property state → property (state.sequenced sequence))
include leads sequence

/-- Offering an event keeps a property of the state. -/
lemma OfferEffect.kept (effect : OfferEffect world event outcome after)
    (holds : Upheld property outside world) : Kept (Upheld property outside) err outcome after := by
  have still : Upheld property outside after := by
    obtain ⟨last, same⟩ := effect.state
    rw [Upheld, effect.outside.1, effect.outside.2, same]
    exact ⟨sequence last holds.1, holds.2⟩
  cases outcome with
  | error _ => exact leads still
  | ok _ => exact still

variable (property) in
/-- An announcement of a change that a property of the state survives. -/
lemma ensures_announce_state {update : NativeRunState → NativeRunState} {emission : Emission}
    (holds : property (update world.state)) (entries : outside world.submitted world.checkpoints) :
    Ensures (announce ports request plan update emission)
      world (Kept (Upheld property outside) err) :=
  (announce_effect update emission).mono fun _ _ effect =>
    effect.kept leads sequence ⟨holds, entries⟩

/-- An event about a side effect touches neither. -/
lemma emitSideEffect_state {operationId : Str} (holds : Upheld property outside world) :
    Ensures (emitSideEffectIfPresent ports request result operationId)
      world (Kept (Upheld property outside) err) := by
  apply ensures_read
  split
  · exact holds
  have raised := leads holds
  split
  · exact raised
  refine ensures_guard (fun _ => raised) fun _ => ?_
  refine ensures_evaluate (fun _ _ => raised) fun _ _ => ?_
  exact (offer_effect _).mono fun _ _ effect => effect.kept leads sequence holds

end

lemma Returned.listed {task : RunningTask}
    (returned : Returned plan request state result task node) : result.nodeId ∈ plan.nodeIds := by
  obtain ⟨listed, same⟩ := mem_of_nodeNamed returned.named
  rw [← same]
  exact List.mem_map_of_mem listed

lemma Dispatchable.of_mergeable (listed : node ∈ plan.nodes)
    (mergeable : state.Mergeable plan node) : Dispatchable plan state node :=
  ⟨listed, mergeable.2.1,
    Option.not_isSome_iff_eq_none.mp (by simpa [NativeRunState.isRunning] using mergeable.2.2.1)⟩

section

variable (rules : StateRules plan request inv doomed outside)
  (leads : ∀ {world}, Upheld doomed outside world → err world)
include rules leads

/-- An announced change keeps what the rules keep. -/
lemma StateRules.announce {update : NativeRunState → NativeRunState} {emission : Emission}
    (holds : inv (update world.state)) (entries : outside world.submitted world.checkpoints) :
    Ensures (announce ports request plan update emission) world (Kept (Upheld inv outside) err) :=
  ensures_announce_state _ (fun kept => leads ⟨rules.doom kept.1, kept.2⟩)
    rules.sequence holds entries

/-- Properties of the state are carried through a tick. -/
lemma StateRules.tickRules : TickRules ports request plan (Upheld inv outside)
    (Upheld doomed outside) (Upheld inv outside) err where
  raised holds := leads holds
  quiet holds quiet := holds.quiet quiet
  abandon _ holds _ := holds
  emptied holds := ⟨rules.emptied holds.1, holds.2⟩
  broken reason _ holds _ := rules.announce leads (rules.broken reason holds.1) holds.2
  doom holds := ⟨rules.doom holds.1, holds.2⟩
  calm holds quiet := holds.quiet quiet
  settle holds := holds
  own _ holds _ := holds
  claim {_ _ node _ outcome _} _ _ _ _ _ _ holds _ := by
    cases outcome with
    | error fault => exact leads ⟨rules.doom holds.1, holds.2⟩
    | ok claim =>
      show if claim.acquired = true then _ else _
      split
      · exact ⟨rules.doom (rules.attempt node.nodeId holds.1), holds.2⟩
      · exact holds
  hand {_ _ node} commandId before holds same free cleared :=
    ⟨holds.1, rules.hand commandId (same ▸ rules.attempt node.nodeId before.1) free cleared holds.2⟩
  accept _ holds returned _ :=
    ensures_then (rules.announce leads (rules.accept holds.1 returned) holds.2)
    fun _ _ kept => emitSideEffect_state (fun kept => leads ⟨rules.doom kept.1, kept.2⟩)
      rules.sequence kept
  release _ holds returned _ _ := rules.announce leads (rules.release holds.1 returned) holds.2
  lose failure emission holds returned _ _ := by
    obtain ⟨lost, continues⟩ := rules.lose failure holds.1 returned
    refine (ensures_announce_state (fun state => doomed state ∧ (_ → inv state))
      (fun both => leads ⟨both.1.1, both.2⟩)
      (fun last both => ⟨rules.sequenceDoomed last both.1, fun policy =>
        rules.sequence last (both.2 policy)⟩)
      ⟨lost, continues⟩ holds.2).mono fun outcome after kept => ?_
    grind
  skip _ holds free _ := rules.announce leads (rules.skip holds.1 free) holds.2
  merge value references _ holds listed mergeable _ :=
    rules.announce leads (rules.finish value references holds.1 (.of_mergeable listed mergeable))
      holds.2
  unmerge reason holds listed mergeable :=
    ⟨rules.unmerge reason holds.1 (.of_mergeable listed mergeable), holds.2⟩
  checkpoint value references _ holds free _ _ :=
    rules.announce leads (rules.finish value references holds.1 free) holds.2
  gate _ holds free gated _ _ _ :=
    (rules.announce leads (rules.gate holds.1 free gated) holds.2).onward
    fun _ kept => ⟨kept, fun _ _ => rules.announce leads (rules.pause kept.1) kept.2⟩
  wait holds := ⟨rules.wait holds.1, holds.2⟩
  delegate {_ _ node _} _ before holds free _ same _ _ _ _ _ :=
    rules.announce leads (rules.delegate _ (same ▸ rules.attempt node.nodeId before.1) free) holds.2
  complete _ holds _ _ := rules.announce leads (rules.complete holds.1) holds.2

end

structure CommandStateRules (ports : NativePorts) (plan : ExecutionPlan)
    (command : SignedWorkflowCommand) (inv doomed : NativeRunState → Prop)
    (applied : ExecutionPlan → NativeRunState → Prop) : Prop where
  sequenceDoomed : ∀ {state} sequence, doomed state → doomed (state.sequenced sequence)
  sequence : ∀ {plan state} sequence, applied plan state → applied plan (state.sequenced sequence)
  cancel : ∀ {state}, inv state → inv { state with running := Dict.empty }
  emptied : ∀ {state}, doomed state → doomed { state with running := Dict.empty }
  broken : ∀ {state} reason, doomed state → applied plan (state.broken reason)
  resume : ∀ {state}, inv state → applied plan { state with status := .running }
  reject : ∀ {state gateId}, inv state → command.commandType = "reject" →
    (gateId, command.stepId) ∈ state.openGates.entries →
      doomed (state.rejected gateId command.stepId)
  approve : ∀ {state gateId}, inv state → (gateId, command.stepId) ∈ state.openGates.entries →
    applied plan (state.approved gateId)
  pause : ∀ {plan state}, applied plan state → applied plan { state with status := .paused }
  enter : ∀ {state}, inv state → applied plan state
  stop : ∀ {state}, inv state →
    applied plan { state with status := .cancelled, reasonCode := "native_operator_cancelled" }
  retry : ∀ {state}, inv state → applied plan (state.retried command.stepId)
  edit : ∀ {state} (replacement : ExecutionPlan) (moment : Nat) (revision : Int), inv state →
    command.commandType ∈ [text "edit", text "request_changes"] → state.running.entries = [] →
    ports.replacement moment command = .ok replacement →
      assertSafePlanEdit plan replacement state = .ok () →
    assertNative ports.routing replacement "native_replacement_plan_invalid" = .ok () →
    applied replacement { state with planRevision := revision, effectivePlan := replacement }

/-- Properties of the state are carried through a command. -/
lemma CommandStateRules.commandRules {command : SignedWorkflowCommand}
    {applied : ExecutionPlan → NativeRunState → Prop}
    (outside : List (Str × Str) → List NativeRunState → Prop)
    (rules : CommandStateRules ports plan command inv doomed applied)
    (first : ∀ {world}, Upheld inv outside world → err world)
    (leads : ∀ {world}, Upheld doomed outside world → err world)
    (last : ∀ {plan world}, Upheld (applied plan) outside world → err world) :
    CommandRules ports request plan command (Upheld inv outside) (Upheld doomed outside)
      (fun plan => Upheld (applied plan) outside) err where
  raised := first
  cancel _ :=
    { raised := first
      quiet := .quiet
      abandon := fun _ holds _ => holds
      emptied := fun holds => ⟨rules.cancel holds.1, holds.2⟩ }
  fail :=
    { raised := leads
      quiet := .quiet
      abandon := fun _ holds _ => holds
      emptied := fun holds => ⟨rules.emptied holds.1, holds.2⟩
      broken := fun reason _ holds _ =>
        ensures_announce_state _ last rules.sequence (rules.broken reason holds.1) holds.2 }
  resume _ holds _ _ := ensures_announce_state _ last rules.sequence (rules.resume holds.1) holds.2
  reject _ holds kind entry _ :=
    ensures_announce_state _ leads rules.sequenceDoomed (rules.reject holds.1 kind entry) holds.2
  approve _ holds entry _ :=
    (ensures_announce_state _ last rules.sequence (rules.approve holds.1 entry) holds.2).onward
    fun _ kept => ⟨kept, fun _ _ => ensures_announce_state _ last rules.sequence kept.1 kept.2⟩
  pause _ holds _ := ensures_announce_state _ last rules.sequence
    (rules.pause (rules.enter holds.1)) holds.2
  stop _ holds _ _ := ensures_announce_state _ last rules.sequence (rules.stop holds.1) holds.2
  retry _ holds _ _ _ := ensures_announce_state _ last rules.sequence (rules.retry holds.1) holds.2
  edit replacement _ holds kind idle presented safe native _ :=
    (ensures_announce_state _ last rules.sequence
    (rules.edit replacement _ _ holds.1 kind idle presented safe native) holds.2).onward
      fun _ kept => ⟨kept, rules.pause kept.1, kept.2⟩

end Ananta
