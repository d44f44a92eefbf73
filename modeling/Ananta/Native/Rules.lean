import Ananta.Native.Effects
import Ananta.Ownership.StoreLaws

/-! How a property is carried through a tick: what each of its changes has to keep, and that nothing
else happens. -/

namespace Ananta

open List Call

variable {ports : NativePorts} {request : NativeGraphRequest} {plan : ExecutionPlan}
variable {world after : NativeWorld} {α β : Type}

/-- One fact where a call returns, and another one where it raises. -/
abbrev Kept (inv err : NativeWorld → Prop) : Except Fault α → NativeWorld →
    Prop := Post inv fun _ => err

/-- A change of the ownership store that charges no retry and adds no step. -/
structure Chargeless (store after : OwnershipStore) : Prop where
  used : after.retryUsed = store.retryUsed
  maximum : after.retryMaximum = store.retryMaximum
  known : ∀ key, after.current.get? key = none ↔ store.current.get? key = none

lemma Chargeless.refl (store : OwnershipStore) : Chargeless store store :=
  ⟨rfl, rfl, fun _ => Iff.rfl⟩

variable {store : OwnershipStore}

/-- Writing the next record of a step that has one charges nothing. -/
lemma chargeless_saved {key : StepKey} {current next : ExecutionOwnership}
    (held : store.current.get? key = some current) : Chargeless store (store.saved key next) := by
  refine ⟨rfl, rfl, fun other => ?_⟩
  show (store.current.set key next).get? other = none ↔ _
  rw [get?_set]
  split
  · rename_i same
    rw [same, held]
    simp
  · rfl

/-- A failure report charges nothing. -/
lemma chargeless_failAttempt {request : OwnerRequest} {failureCode : Str} {deadLetter : Bool}
    {clock : Float64} {after : OwnershipStore} {outcome : Except Fault ExecutionOwnership}
    (run : failAttempt request failureCode deadLetter clock store = (outcome, after)) :
    Chargeless store after := by
  have cases := failAttempt_cases request store failureCode deadLetter clock
  rw [Ensures, run] at cases
  rcases cases with ⟨_, rfl⟩ | ⟨current, owner, _, _, _, rfl⟩
  · exact .refl _
  · exact chargeless_saved owner.held

/-- An acknowledgement charges nothing. -/
lemma chargeless_acknowledgeResult {request : OwnerRequest} {key : Str} {clock : Float64}
    {after : OwnershipStore} {outcome : Except Fault ExecutionOwnership}
    (run : acknowledgeResult request key clock store = (outcome, after)) :
    Chargeless store after := by
  have cases := acknowledgeResult_cases request store key clock
  rw [Ensures, run] at cases
  rcases cases with ⟨_, rfl⟩ | ⟨_, rfl⟩ | ⟨⟨current, owner, _, _, _, rfl⟩, _⟩
  · exact .refl _
  · exact .refl _
  · exact chargeless_saved owner.held

/-- What giving up the running attempts has to keep. -/
structure CancelRules (inv err : NativeWorld → Prop) : Prop where
  raised : ∀ {world}, inv world → err world
  quiet : ∀ {world after}, inv world → Quiet world after → inv after
  abandon : ∀ {world} ownership, inv world → Chargeless world.ownership ownership →
    inv { world with ownership }
  emptied : ∀ {world}, inv world →
    inv { world with state := { world.state with running := Dict.empty } }

variable (ports request plan) in
/-- What the failure of a run has to keep, from a property of a run that is about to fail to one of
a failed run. -/
structure FailRules
    (doomed inv err : NativeWorld → Prop) : Prop extends CancelRules doomed err where
  broken : ∀ {world} (reason : Str) (emission : Emission), doomed world →
    emission.key = .failed (world.state.eventSequence + 1) →
    Ensures (announce ports request plan (·.broken reason) emission) world (Kept inv err)

/-- A node that may be handed out. -/
structure Dispatchable (plan : ExecutionPlan) (state : NativeRunState)
    (node : ExecutionNode) : Prop where
  listed : node ∈ plan.nodes
  pending : node.nodeId ∉ state.terminal
  idle : state.running.get? node.nodeId = none

def GateCleared (state : NativeRunState) (node : ExecutionNode) : Prop :=
  node.gateId = [] ∨ node.gateId ∈ state.approvedGates

/-- A result of a task that is running. -/
structure Returned (plan : ExecutionPlan) (request : NativeGraphRequest) (state : NativeRunState)
    (result : NativeNodeResult) (task : RunningTask) (node : ExecutionNode) : Prop where
  running : state.running.get? result.nodeId = some task
  bound : assertResultBinding plan request result task = .ok ()
  named : plan.nodeNamed result.nodeId = some node

/-- A node that is neither merged nor completed by the run itself. -/
def ExecutionNode.IsTask (node : ExecutionNode) : Prop := node.nodeType ≠ "merge" ∧
    node.nodeType ≠ "checkpoint"
  deriving Decidable

/-- What a claim has to keep: a granted one counts as an attempt, behind which the node is handed
out or the run fails, and a raised one is noted. -/
def ClaimTaken (inv doomed err : NativeWorld → Prop) (nodeId : Str) (world : NativeWorld)
    (ownership : OwnershipStore) : Except Fault OwnershipClaim → Prop
  | .ok claim => if claim.acquired
      then doomed { world with ownership, state := world.state.attempted nodeId }
      else inv { world with ownership }
  | .error fault => err { world with ownership, refusals := fault.message :: world.refusals }

variable (ports request plan) in
structure TickRules
    (inv doomed final err : NativeWorld → Prop) :
    Prop extends FailRules ports request plan doomed inv err where
  doom : ∀ {world}, inv world → doomed world
  settle : ∀ {world}, inv world → final world
  calm : ∀ {world after}, inv world → Quiet world after → inv after
  own : ∀ {world} ownership, inv world → Chargeless world.ownership ownership →
    inv { world with ownership }
  -- The claim of a node that the pass found ready, and that was not attempted since.
  claim : ∀ {start world node now outcome ownership} (uuid : Str), inv start →
    start.state.status = .running → Dispatchable plan start.state node → node.IsTask →
    world.state.attempts.get? node.nodeId = start.state.attempts.get? node.nodeId →
    inv world → Ananta.claim (claimRequest request plan node now) now uuid world.ownership =
      (outcome, ownership) →
    ClaimTaken inv doomed err node.nodeId world ownership outcome
  hand : ∀ {earlier world node} (commandId : Str), inv earlier → doomed world →
    world.state = earlier.state.attempted node.nodeId → Dispatchable plan world.state node →
    GateCleared world.state node →
      doomed { world with submitted := world.submitted ++ [(node.nodeId, commandId)] }
  accept : ∀ {world result task node} (emission : Emission), inv world →
    Returned plan request world.state result task node →
    emission.key = .attempt .completed result.nodeId result.attemptId →
    Ensures (do
      announce ports request plan (·.accepted result) emission
      emitSideEffectIfPresent ports request result task.operationId) world (Kept inv err)
  release : ∀ {world result task node} (emission : Emission), inv world →
    Returned plan request world.state result task node →
    (world.state.attempts.get? result.nodeId).getD 1 < (plan.budgetOf node).maxAttempts →
    emission.key = .attempt .retry result.nodeId result.attemptId →
    Ensures (announce ports request plan (·.released result.nodeId) emission) world (Kept inv err)
  -- A node that failed for good dooms the run, unless its policy is to go on.
  lose : ∀ {world result task node} (failure : Str) (emission : Emission), inv world →
    Returned plan request world.state result task node →
    ¬ (world.state.attempts.get? result.nodeId).getD 1 < (plan.budgetOf node).maxAttempts →
    emission.key = .attempt .failed result.nodeId result.attemptId →
    Ensures (announce ports request plan (·.lost result.nodeId failure) emission) world
      (Kept (fun after => doomed after ∧
        (node.declared "failure_policy" "fail" = "continue" → inv after)) err)
  skip : ∀ {world node} (emission : Emission), inv world → Dispatchable plan world.state node →
    emission.key = .node .routeSkipped node.nodeId →
    Ensures (announce ports request plan (·.bypassed node.nodeId) emission) world (Kept inv err)
  merge : ∀ {world node} (value : Value) (references : List (Str × Str)) (emission : Emission),
    inv world →
    node ∈ plan.nodes → world.state.Mergeable plan node → emission.key = .node .merged node.nodeId →
    Ensures (announce ports request plan (·.finished node.nodeId value references) emission)
      world (Kept inv err)
  unmerge : ∀ {world node} (reason : Str), inv world → node ∈ plan.nodes →
    world.state.Mergeable plan node →
    doomed { world with state := world.state.lost node.nodeId reason }
  checkpoint : ∀ {world node} (value : Value) (references : List (Str × Str)) (emission : Emission),
    inv world → Dispatchable plan world.state node → GateCleared world.state node →
    emission.key = .node .checkpointNode node.nodeId →
    Ensures (announce ports request plan (·.finished node.nodeId value references) emission)
      world (Kept inv err)
  gate : ∀ {world node} (emission : Emission), inv world → Dispatchable plan world.state node →
    node.gateId ≠ [] →
    node.gateId ∉ world.state.approvedGates → world.state.openGates.get? node.gateId = none →
    emission.key = .gate .requested node.gateId →
    Ensures (announce ports request plan (·.gated node.gateId node.nodeId) emission) world
      (Kept (fun after => inv after ∧ ∀ (pause : Emission), pause.key = .gate .paused node.gateId →
        Ensures (announce ports request plan (fun state => { state with status := .paused }) pause)
          after (Kept inv err)) err)
  wait : ∀ {world}, inv world →
    inv { world with state := { world.state with status := .waitingForApproval } }
  -- The attempt was drawn by the claim, since which nothing was emitted.
  delegate : ∀ {earlier world node task} (emission : Emission), inv earlier → doomed world →
    Dispatchable plan world.state node → GateCleared world.state node →
    world.state = earlier.state.attempted node.nodeId → world.events = earlier.events →
    earlier.drawn < world.drawn → task.attemptId = attemptIdOf (ports.uuid earlier.drawn) →
    (∃ moment, ports.authorizeSideEffect moment node task.fencingToken =
      .ok (.ok task.operationId)) →
    emission.key = .attempt .delegated node.nodeId task.attemptId →
    Ensures (announce ports request plan (·.delegated node.nodeId task) emission)
      world (Kept inv err)
  complete : ∀ {world} (emission : Emission), inv world → world.state.status = .running →
    emission.key = .completed →
    Ensures (announce ports request plan (fun state => { state with status := .completed })
      emission) world (Kept final err)

variable {doomed inv err : NativeWorld → Prop}

/-- Giving up one attempt keeps what giving up has to keep. -/
lemma cancelTask_keeps (rules : CancelRules inv err) (reason : Str) (entry : Str × RunningTask) :
    Keeps inv (fun _ => err) (cancelTask ports request plan reason entry) := by
  intro before kept
  refine ensures_readClock fun now middle quiet => ?_
  have again := rules.quiet kept quiet
  refine ensures_then (ensures_suppress ?_) fun _ _ => id
  refine onOwnership_effect.mono fun outcome last effect => ?_
  -- Whatever the store answers, it is only the store that changed.
  have still : inv last := by
    rcases effect with ⟨_, _, calm⟩ | ⟨_, ownership, calm, run, rfl⟩
    · exact rules.quiet again calm
    · refine rules.abandon ownership (rules.quiet again calm) ?_
      rw [calm.ownership]
      exact chargeless_failAttempt run
  cases outcome with
  | ok _ => exact still
  | error fault =>
    dsimp only
    split
    · exact still
    · exact rules.raised still

lemma cancelRunning_keeps (rules : CancelRules inv err) (reason : Str) (holds : inv world) :
    Ensures (cancelRunning ports request plan reason) world (Kept inv err) := by
  refine ensures_getState (ensures_then ?_ fun _ _ kept => rules.emptied kept)
  exact keeps_visit (fun entry _ => cancelTask_keeps rules reason entry) _ holds

lemma failRun_keeps (rules : FailRules ports request plan doomed inv err) (reason : Str)
    (holds : doomed world) : Ensures (failRun ports request plan reason) world (Kept inv err) := by
  refine ensures_then (cancelRunning_keeps rules.toCancelRules reason holds) fun _ after kept => ?_
  exact ensures_getState (rules.broken reason _ kept rfl)

variable {final : NativeWorld → Prop} {origin : NativeWorld} {left : List DelegationCandidate}
  {node : ExecutionNode} {state : NativeRunState} {nodeId : Str}

/-- What a sweep leaves alone until it comes to the nodes that are left. -/
structure Sweeping (before : NativeRunState) (left : List ExecutionNode)
    (state : NativeRunState) : Prop where
  distinct : (left.map (·.nodeId)).Nodup
  running : state.running = before.running
  pending : ∀ node ∈ left, node.nodeId ∈ state.terminal → node.nodeId ∈ before.terminal

lemma mem_sortedNodes : node ∈ plan.sortedNodes ↔ node ∈ plan.nodes := mem_insertionSort _

lemma nodup_sortedNodes (distinct : plan.nodeIds.Nodup) : (plan.sortedNodes.map (·.nodeId)).Nodup :=
  ((perm_insertionSort _ _).map _).nodup_iff.mpr distinct

lemma mem_terminal_bypassed {other : Str} :
    other ∈ (state.bypassed nodeId).terminal ↔ other = nodeId ∨ other ∈ state.terminal := by
  simp only [NativeRunState.terminal, NativeRunState.bypassed, Finset.mem_union, Finset.mem_insert]
  tauto

/-- The candidates that are still to be handed out are as they were found: neither done with nor
running. -/
structure Awaiting (origin : NativeRunState) (left : List DelegationCandidate)
    (state : NativeRunState) : Prop where
  distinct : (left.map (·.nodeId)).Nodup
  free : ∀ candidate ∈ left, candidate.nodeId ∉ state.terminal ∧
    state.running.get? candidate.nodeId = none
  found : ∀ candidate ∈ left, candidate.nodeId ∉ origin.terminal ∧
    origin.running.get? candidate.nodeId = none ∧
    state.attempts.get? candidate.nodeId = origin.attempts.get? candidate.nodeId

/-- A change that leaves the other candidates alone. -/
lemma ensures_announce_awaiting {update : NativeRunState → NativeRunState} {emission : Emission}
    (rule : Ensures (announce ports request plan update emission) world (Kept inv err))
    (awaiting : Awaiting origin.state left (update world.state)) :
    Ensures (announce ports request plan update emission) world
      (Kept (fun after => inv after ∧ Awaiting origin.state left after.state) err) :=
  (rule.and (announce_effect _ _)).mono fun outcome after effect => by
    obtain ⟨sequence, same⟩ := effect.2.state
    cases outcome with
    | error _ => exact effect.1
    | ok _ =>
      refine ⟨effect.1, ?_⟩
      rw [same]
      exact { awaiting with }

/-- A run that is about to fail leaves the other candidates alone. -/
lemma Awaiting.failRules (rules : FailRules ports request plan doomed inv err)
    (left : List DelegationCandidate) :
    FailRules ports request plan (fun world => doomed world ∧
      Awaiting origin.state left world.state)
      (fun world => inv world ∧ Awaiting origin.state left world.state) err where
  raised holds := rules.raised holds.1
  quiet holds quiet := ⟨rules.quiet holds.1 quiet, by rw [quiet.state]; exact holds.2⟩
  abandon ownership holds chargeless := ⟨rules.abandon ownership holds.1 chargeless, holds.2⟩
  emptied holds := ⟨rules.emptied holds.1, holds.2.distinct, fun candidate member =>
    ⟨(holds.2.free candidate member).1, rfl⟩, holds.2.found⟩
  broken reason emission holds key :=
    ensures_announce_awaiting (rules.broken reason emission holds.1 key) { holds.2 with }

lemma Awaiting.failRun_keeps (rules : FailRules ports request plan doomed inv err) {reason : Str}
    (holds : doomed after) (same : after.state = world.state)
    (awaiting : Awaiting origin.state left world.state) :
    Ensures (failRun ports request plan reason) after
      (Kept (fun after => inv after ∧ Awaiting origin.state left after.state) err) :=
  Ananta.failRun_keeps (Awaiting.failRules rules left) reason ⟨holds, by rwa [same]⟩

/-- Attempting a node leaves the other ones alone. -/
lemma Awaiting.attempted (awaiting : Awaiting origin.state left state)
    (other : nodeId ∉ left.map (·.nodeId)) :
    Awaiting origin.state left (state.attempted nodeId) := by
  refine { awaiting with found := fun candidate member => ?_ }
  have differs := ne_of_mem_of_not_mem (mem_map_of_mem member) other
  obtain ⟨pending, idle, untouched⟩ := awaiting.found candidate member
  refine ⟨pending, idle, ?_⟩
  show (state.attempts.set nodeId _).get? candidate.nodeId = _
  rwa [get?_set_ne _ differs]

lemma mem_of_nodeNamed (named : plan.nodeNamed nodeId = some node) : node ∈ plan.nodes ∧
    node.nodeId = nodeId := by
  have member := mem_of_getLast? named
  rwa [mem_filter, decide_eq_true_eq] at member

/-- Finishing a node leaves the other ones alone. -/
lemma Awaiting.finished (awaiting : Awaiting origin.state left state)
    (other : nodeId ∉ left.map (·.nodeId)) (value : Value) (references : List (Str × Str)) :
    Awaiting origin.state left (state.finished nodeId value references) := by
  refine { awaiting with free := fun candidate member => ?_ }
  have differs := ne_of_mem_of_not_mem (mem_map_of_mem member) other
  obtain ⟨pending, idle⟩ := awaiting.free candidate member
  simp only [NativeRunState.terminal, NativeRunState.finished, Finset.mem_union, Finset.mem_insert,
    not_or, get?_erase, if_neg differs] at pending ⊢
  exact ⟨⟨⟨⟨differs, pending.1.1⟩, pending.1.2⟩, pending.2⟩, idle⟩

/-- The candidates of a batch are distinct nodes that are neither done with nor running. -/
lemma awaiting_of_selectReady (distinct : plan.nodeIds.Nodup) {tenantLimit workerLimit : Int}
    {batch : DelegationBatch}
    (ran : selectReady plan (state.completed ∪ state.skipped)
      state.running.keys.toFinset state.failed.keys.toFinset
      tenantLimit workerLimit none none = .ok batch) : Awaiting state batch.candidates state := by
  obtain ⟨taken, same, within⟩ := candidates_of_selectReady ran
  have names : batch.candidates.map (·.nodeId) = taken.map (·.nodeId) := by
    rw [same, map_map]
    rfl
  have free : ∀ candidate ∈ batch.candidates,
      candidate.nodeId ∉ state.terminal ∧ state.running.get? candidate.nodeId = none := by
    intro candidate member
    rw [same] at member
    obtain ⟨node, listed, rfl⟩ := mem_map.mp member
    have ready := within.subset listed
    rw [ExecutionPlan.readyNodes, mem_insertionSort, mem_filter, decide_eq_true_eq] at ready
    have free := ready.2.1
    simp only [Finset.mem_union, mem_toFinset, Dict.mem_keys, not_or] at free
    refine ⟨?_, Option.not_isSome_iff_eq_none.mp free.1.2⟩
    simp only [NativeRunState.terminal, Finset.mem_union, mem_toFinset, Dict.mem_keys, not_or]
    exact ⟨free.1.1, free.2⟩
  refine ⟨?_, free, fun candidate member =>
    ⟨(free candidate member).1, (free candidate member).2, rfl⟩⟩
  rw [names]
  refine Nodup.sublist (within.map _) ?_
  rw [ExecutionPlan.readyNodes, ((perm_insertionSort _ _).map _).nodup_iff]
  exact distinct.sublist (filter_sublist.map _)

/-- A call that is made only while the run is running. -/
lemma ifRunning_keeps {call : NativeM Unit} (idle : final world)
    (kept : world.state.status = .running → Ensures call world (Kept final err)) :
    Ensures (ifRunning call) world (Kept final err) := by
  apply ensures_getState
  split
  · rename_i running
    exact kept running
  · exact idle

section

variable (rules : TickRules ports request plan inv doomed final err)
include rules

section

variable (free : Dispatchable plan world.state node) (cleared : GateCleared world.state node)
  (awaiting : Awaiting origin.state left world.state) (other : node.nodeId ∉ left.map (·.nodeId))
include free cleared awaiting other

/-- Handing a claimed node to the queue keeps what each change keeps. -/
lemma delegateNode_keeps {earlier : NativeWorld} {ownership : ExecutionOwnership}
    (before : inv earlier) (holds : doomed world)
    (state : world.state = earlier.state.attempted node.nodeId)
    (events : world.events = earlier.events) (drawn : earlier.drawn < world.drawn)
    (attempt : ownership.attemptId = attemptIdOf (ports.uuid earlier.drawn)) :
    Ensures (delegateNode ports request plan node ownership) world
      (Kept (fun after => inv after ∧ Awaiting origin.state left after.state) err) := by
  refine ensures_readClock fun _ first quiet => ensures_read ?_
  have kept := rules.quiet holds quiet
  refine ensures_evaluate (fun _ _ => rules.raised kept) fun _ _ => ?_
  refine ensures_evaluate (fun _ _ => rules.raised kept) fun authorized permitted => ?_
  cases authorized with
  | error reason => exact awaiting.failRun_keeps rules.toFailRules kept quiet.state
  | ok operationId =>
    refine ensures_effect (fun _ _ calm => rules.raised (rules.quiet kept calm))
      fun second calm => ?_
    have both := quiet.trans calm
    have still := rules.quiet kept calm
    refine ensures_write ?_
    have handed := rules.hand ("ncmd:" ++ request.runId ++ ":" ++ node.nodeId ++ ":" ++
      ownership.attemptId) before still (both.state.trans state) (by rwa [both.state])
      (by rwa [both.state])
    refine ensures_evaluate (fun _ _ => rules.raised handed) fun receipt _ => ?_
    cases receipt with
    | error reason => exact awaiting.failRun_keeps rules.toFailRules handed both.state
    | ok hubTaskId =>
      refine ensures_announce_awaiting ?_ ?_
      · exact rules.delegate _ before handed (by rwa [both.state]) (by rwa [both.state])
          (both.state.trans state) (both.events.trans events) (lt_of_lt_of_le drawn both.drawn)
            attempt
          ⟨_, permitted⟩ rfl
      · rw [both.state]
        refine { awaiting with free := fun candidate member =>
          ⟨(awaiting.free candidate member).1, ?_⟩ }
        have differs := ne_of_mem_of_not_mem (mem_map_of_mem member) other
        show (world.state.running.set node.nodeId _).get? candidate.nodeId = none
        rw [get?_set_ne _ differs]
        exact (awaiting.free candidate member).2

/-- Claiming and submitting a node keeps what each change keeps. -/
lemma submitNode_keeps (began : inv origin)
    (ready : origin.state.status = .running) (found : Dispatchable plan origin.state node)
    (task : node.IsTask) (untouched :
      world.state.attempts.get? node.nodeId = origin.state.attempts.get? node.nodeId)
    (holds : inv world) :
    Ensures (submitNode ports request plan node) world
      (Kept (fun after => inv after ∧ Awaiting origin.state left after.state) err) := by
  apply ensures_read
  split
  · exact awaiting.failRun_keeps rules.toFailRules (rules.doom holds) rfl
  · refine ensures_readClock fun now first quiet => ensures_drawUuid ?_
    have drew : Quiet first { first with drawn := first.drawn + 1 } :=
      ⟨rfl, rfl, rfl, rfl, rfl, rfl, rfl, Nat.le_succ _⟩
    have kept := rules.calm (rules.calm holds quiet) drew
    have taking : ∀ {outcome ownership second},
        Quiet { first with drawn := first.drawn + 1 } second →
        claim (claimRequest request plan node now) now (ports.uuid first.drawn) first.ownership =
          (outcome, ownership) →
        ClaimTaken inv doomed err node.nodeId second ownership outcome := by
      intro outcome ownership second calm claimed
      refine rules.claim _ began ready found task ?_ (rules.calm kept calm)
        (by rwa [calm.ownership])
      rwa [show second.state = world.state from calm.state.trans quiet.state]
    refine ensures_claimOwnership (fun _ _ calm => rules.raised (rules.doom (rules.calm kept calm)))
      (fun _ ownership second calm claimed => taking calm claimed)
        fun claim ownership second calm claimed => ?_
    have taken := taking calm claimed
    have same := calm.state.trans quiet.state
    unfold ClaimTaken at taken
    split
    · rename_i acquired
      simp only [acquired, if_true] at taken
      have granted := claim_acquired (claimRequest request plan node now)
        now (ports.uuid first.drawn) first.ownership
      rw [Ensures, claimed] at granted
      -- The identifier was drawn just now, and nothing was emitted since.
      refine delegateNode_keeps rules ⟨free.listed, ?_, ?_⟩ ?_ ?_ other (rules.calm holds quiet)
        taken ?_
        calm.events (lt_of_lt_of_le (Nat.lt_succ_self _) calm.drawn)
          (by rw [granted claim rfl acquired]; rfl)
      · rw [same]
        exact free.pending
      · rw [same]
        exact free.idle
      · rwa [same]
      · rw [same]
        exact awaiting.attempted other
      · rw [show second.state = first.state from calm.state]
    · rename_i declined
      simp only [if_neg declined] at taken
      exact awaiting.failRun_keeps rules.toFailRules (rules.doom taken) same

end

variable (holds : inv world)
include holds

/-- An operation of the ownership store that charges nothing, and what follows it. -/
lemma ownership_keeps {call : OwnershipM β} {next : β → NativeM α}
    (chargeless : ∀ {outcome ownership}, call world.ownership = (outcome, ownership) →
      Chargeless world.ownership ownership)
    (returned : ∀ value after, inv after → after.state = world.state →
      Ensures (next value) after (Kept inv err)) :
    Ensures (onOwnership ports call >>= next) world (Kept inv err) := by
  have owned ownership after (quiet : Quiet world after) {outcome}
      (run : call world.ownership = (outcome, ownership)) : inv { after with ownership } :=
    rules.own ownership (rules.calm holds quiet) (by rw [quiet.ownership]; exact chargeless run)
  refine ensures_onOwnership
    (fun _ after quiet => rules.raised (rules.doom (rules.calm holds quiet)))
    (fun _ ownership after quiet run => rules.raised (rules.doom (owned ownership after quiet run)))
      ?_
  exact fun value ownership after quiet run => returned value _ (owned ownership after quiet run)
    quiet.state

/-- A completed attempt is taken. -/
lemma acceptResult_keeps {result : NativeNodeResult} {task : RunningTask} (now : Float64)
    (returned : Returned plan request world.state result task node) :
    Ensures (acceptResult ports request plan node result task now) world (Kept inv err) := by
  refine ensures_evaluate (fun _ _ => rules.raised (rules.doom holds)) fun _ _ => ?_
  refine ownership_keeps rules holds chargeless_acknowledgeResult fun _ after again same => ?_
  refine ensures_evaluate (fun _ _ => rules.raised (rules.doom again)) fun _ _ => ?_
  refine ensures_getState
    (ensures_evaluate (fun _ _ => rules.raised (rules.doom again)) fun _ _ => ?_)
  rw [← same] at returned
  exact rules.accept _ again returned rfl

/-- A failed attempt is taken. -/
lemma failResult_keeps {result : NativeNodeResult} {task : RunningTask} (now : Float64)
    (returned : Returned plan request world.state result task node) :
    Ensures (failResult ports request plan node result task now) world (Kept inv err) := by
  refine ownership_keeps rules holds chargeless_failAttempt fun _ after again same =>
    ensures_getState ?_
  rw [← same] at returned
  dsimp only
  split
  · rename_i fewer
    exact ensures_then (rules.release _ again returned fewer rfl) fun _ _ => id
  · rename_i spent
    refine ensures_then (rules.lose _ _ again returned spent rfl) fun _ last kept => ?_
    -- The policy of the node decides whether its failure is that of the run.
    split
    · rename_i continues
      exact kept.2 continues
    · exact ensures_then (failRun_keeps rules.toFailRules _ kept.1) fun _ _ => id

/-- Taking the results keeps what each change keeps. -/
lemma collectResults_keeps (results : List NativeNodeResult) :
    Ensures (collectResults ports request plan results) world (Kept inv err) := by
  apply ensures_getState
  split
  · exact holds
  · refine keeps_visit (fun result _ before kept => ?_) _ holds
    apply ensures_getState
    split
    · exact kept
    · exact ensures_evaluate (fun _ _ => rules.raised (rules.doom kept)) fun _ _ =>
        rules.raised (rules.doom kept)
    · rename_i task node running named
      refine ensures_evaluate (fun _ _ => rules.raised (rules.doom kept)) fun _ bound => ?_
      refine ensures_readClock fun now middle quiet => ?_
      have again := rules.calm kept quiet
      have returned : Returned plan request middle.state result task node := by
        rw [quiet.state]
        exact ⟨running, bound, named⟩
      split
      · exact ensures_then (acceptResult_keeps rules again now returned) fun _ _ => id
      · exact failResult_keeps rules again now returned

/-- Skipping keeps what each change keeps. -/
lemma skipNode_keeps {before : NativeRunState} {rest : List ExecutionNode}
    (listed : node ∈ plan.nodes) (sweeping : Sweeping before (node :: rest) world.state) :
    Ensures (skipNode ports request plan before node) world
      (Visited (fun after => inv after ∧ Sweeping before rest after.state) inv fun _ => err) := by
  have distinct := nodup_cons.mp sweeping.distinct
  have kept : inv world ∧ Sweeping before rest world.state :=
    ⟨holds, distinct.2, sweeping.running, fun other member =>
      sweeping.pending other (.tail _ member)⟩
  unfold skipNode
  dsimp only
  split
  · rename_i settled
    split
    · refine ensures_then (failRun_keeps rules.toFailRules _ (rules.doom holds))
        fun _ _ => id
    · split
      · exact kept
      · have free : Dispatchable plan world.state node := by
          refine ⟨listed, fun done => settled.1 (sweeping.pending node (.head _) done), ?_⟩
          rw [sweeping.running]
          exact Option.not_isSome_iff_eq_none.mp
            (by simpa [NativeRunState.isRunning] using settled.2.1)
        refine ensures_sequence ((rules.skip _ holds free rfl).and (announce_effect _ _))
          (fun _ _ raised => raised.1) fun _ after skipped => ?_
        obtain ⟨sequence, same⟩ := skipped.2.state
        show inv after ∧ Sweeping before rest after.state
        rw [same]
        refine ⟨skipped.1, distinct.2, sweeping.running, fun other member done => ?_⟩
        have differs := ne_of_mem_of_not_mem (mem_map_of_mem member) distinct.1
        exact sweeping.pending other (.tail _ member)
          ((mem_terminal_bypassed.mp done).resolve_left differs)
  · exact kept

omit holds in
/-- Sweeping keeps what each change keeps. -/
lemma sweepSkips_keeps (distinct : plan.nodeIds.Nodup)
    (sweeps : Nat) : Keeps inv (fun _ => err) (sweepSkips ports request plan sweeps) := by
  induction sweeps with
  | zero => exact fun _ => id
  | succ sweeps ih =>
    intro before holds
    refine ensures_getState (ensures_then ?_ fun _ after (kept : inv after) => ensures_getState ?_)
    · refine ensures_visit (fun left after => (∀ node ∈ left, node ∈ plan.nodes) ∧ inv after ∧
        Sweeping before.state left after.state) (fun _ kept => kept.2.1)
          (fun node rest middle kept => ?_)
        ⟨fun _ => mem_sortedNodes.mp, holds, nodup_sortedNodes distinct, rfl, fun _ _ => id⟩
      refine (skipNode_keeps rules kept.2.1 (kept.1 node (.head _)) kept.2.2).mono
        fun outcome last effect => ?_
      simp_all [Post]
    · split
      · exact ih after kept
      · exact kept

/-- Merging keeps what each change keeps. -/
lemma executeReadyMerges_keeps :
    Ensures (executeReadyMerges ports request plan) world (Kept inv err) := by
  refine ensures_guard (fun _ => rules.raised (rules.doom holds)) fun _ => ?_
  refine keeps_visit (fun node listed before kept => ?_) _ holds
  have known := mem_sortedNodes.mp listed
  apply ensures_getState
  split
  · rename_i mergeable
    refine ensures_evaluate (fun _ _ => rules.raised (rules.doom kept)) fun merged _ => ?_
    split
    · refine ensures_modifyState (ensures_then ?_ fun _ _ => id)
      exact failRun_keeps rules.toFailRules _ (rules.unmerge _ kept known mergeable)
    · exact ensures_then (rules.merge _ _ _ kept known mergeable rfl) fun _ _ => id
  · exact kept

/-- Opening a gate keeps what each change keeps. -/
lemma openGate_keeps (free : Dispatchable plan world.state node) (gated : node.gateId ≠ [])
    (unapproved : node.gateId ∉ world.state.approvedGates)
    (awaiting : Awaiting origin.state left world.state) :
    Ensures (openGate ports request plan node) world
      (Kept (fun after => inv after ∧ Awaiting origin.state left after.state) err) := by
  apply ensures_getState
  split
  · exact ⟨holds, awaiting⟩
  · rename_i unopened
    have fresh := Option.not_isSome_iff_eq_none.mp (by simpa using unopened)
    refine ensures_sequence
      ((rules.gate _ holds free gated unapproved fresh rfl).and (announce_effect _ _))
      (fun _ _ raised => raised.1) fun _ after opened => ?_
    obtain ⟨sequence, same⟩ := opened.2.state
    have still : Awaiting origin.state left after.state := by
      rw [same]
      exact { awaiting with }
    split
    · exact rules.raised (rules.doom opened.1.1)
    · split
      · exact ensures_announce_awaiting (opened.1.2 _ rfl) { still with }
      · exact ⟨rules.wait opened.1.1, still.distinct, still.free, still.found⟩

/-- Handing out one candidate keeps what each change keeps. -/
lemma dispatchCandidate_keeps (began : inv origin) (ready : origin.state.status = .running)
    {candidate : DelegationCandidate}
    (awaiting : Awaiting origin.state (candidate :: left) world.state) :
    Ensures (dispatchCandidate ports request plan candidate) world
      (Visited (fun after => inv after ∧ Awaiting origin.state left after.state)
        inv fun _ => err) := by
  obtain ⟨other, distinct⟩ : candidate.nodeId ∉ left.map (·.nodeId) ∧ (left.map (·.nodeId)).Nodup :=
    nodup_cons.mp awaiting.distinct
  have rest : Awaiting origin.state left world.state :=
    ⟨distinct, fun next member => awaiting.free next (.tail _ member), fun next member =>
      awaiting.found next (.tail _ member)⟩
  apply ensures_read
  dsimp only
  split
  · exact rules.raised (rules.doom holds)
  · rename_i node named
    obtain ⟨listed, same⟩ := mem_of_nodeNamed named
    rw [← same] at other
    have free : Dispatchable plan world.state node := by
      refine ⟨listed, ?_, ?_⟩
      · rw [same]
        exact (awaiting.free candidate (.head _)).1
      · rw [same]
        exact (awaiting.free candidate (.head _)).2
    have found := awaiting.found candidate (.head _)
    rw [← same] at found
    split
    · exact ⟨holds, rest⟩
    rename_i routed
    split
    · rename_i gated
      exact ensures_then (openGate_keeps rules holds free gated.1 gated.2 rest)
        fun _ _ => id
    rename_i ungated
    -- Past the gate: it has none, or the one it has is approved.
    have cleared : GateCleared world.state node := by
      by_cases none : node.gateId = []
      · exact .inl none
      · exact .inr (not_not.mp fun unapproved => ungated ⟨none, unapproved⟩)
    split
    · exact ensures_sequence
        (ensures_announce_awaiting (rules.checkpoint _ _ _ holds free cleared rfl)
          (rest.finished other _ _))
        (fun _ _ => id) fun _ _ => id
    rename_i unmarked
    split
    · exact ensures_then (failRun_keeps rules.toFailRules _ (rules.doom holds))
        fun _ _ => id
    · exact ensures_then (submitNode_keeps rules free cleared rest other began ready
        ⟨listed, found.1, found.2.1⟩ ⟨(not_or.mp routed).1, unmarked⟩ found.2.2 holds)
        fun _ _ => id

lemma dispatchReady_keeps (distinct : plan.nodeIds.Nodup) (ready : world.state.status = .running) :
    Ensures (dispatchReady ports request plan) world (Kept inv err) := by
  refine ensures_getState
    (ensures_evaluate (fun _ _ => rules.raised (rules.doom holds)) fun batch ran => ?_)
  exact ensures_visit (fun left after => inv after ∧ Awaiting world.state left after.state)
    (fun _ kept => kept.1)
    (fun _ _ _ kept => dispatchCandidate_keeps rules kept.1 holds ready kept.2)
    ⟨holds, awaiting_of_selectReady distinct ran⟩

/-- Ending a run leads to what holds behind a tick. -/
lemma finishIfTerminal_keeps :
    Ensures (finishIfTerminal ports request plan) world (Kept final err) := by
  apply ensures_getState
  split
  · exact rules.settle holds
  · rename_i terminal
    split
    · exact (failRun_keeps rules.toFailRules _ (rules.doom holds)).onward fun _ kept =>
        rules.settle kept
    · exact rules.complete _ holds (not_not.mp fun stopped => terminal (.inl stopped)) rfl

/-- A tick keeps what each of its changes keeps. -/
lemma tick_keeps (distinct : plan.nodeIds.Nodup) (results : List NativeNodeResult) :
    Ensures (tick ports request plan results) world (Kept final err) := by
  -- Each pass starts where the one before it returned, unless that one ended the run.
  refine ifRunning_keeps (rules.settle holds) fun _ => ?_
  refine ensures_then (collectResults_keeps rules holds results) fun _ first kept => ?_
  refine ifRunning_keeps (rules.settle kept) fun _ => ?_
  have sweep : Ensures (resolveConditionalSkips ports request plan) first (Kept inv err) :=
    ensures_guard (fun _ => rules.raised (rules.doom kept)) fun _ =>
      sweepSkips_keeps rules distinct _ _ kept
  refine ensures_then sweep fun _ second kept => ?_
  refine ifRunning_keeps (rules.settle kept) fun _ => ?_
  refine ensures_then (executeReadyMerges_keeps rules kept) fun _ third kept => ?_
  refine ifRunning_keeps (rules.settle kept) fun ready => ?_
  refine ensures_then (dispatchReady_keeps rules kept distinct ready)
    fun _ fourth kept => ?_
  exact finishIfTerminal_keeps rules kept

end

variable (ports request plan) in
/-- What each command has to keep, from a property of a run before the command to one of a plan and
a run after it. -/
structure CommandRules
    (command : SignedWorkflowCommand) (inv doomed : NativeWorld → Prop)
    (applied : ExecutionPlan → NativeWorld → Prop) (err : NativeWorld → Prop) : Prop where
  raised : ∀ {world}, inv world → err world
  cancel : command.commandType = "cancel" → CancelRules inv err
  fail : FailRules ports request plan doomed (applied plan) err
  -- A run that was paused without a gate is resumed.
  resume : ∀ {world} (emission : Emission), inv world → world.state.status = .paused →
    emission.key = .command .resumed command.commandId →
    Ensures (announce ports request plan (fun state => { state with status := .running }) emission)
      world (Kept (applied plan) err)
  reject : ∀ {world gateId} (emission : Emission), inv world → command.commandType = "reject" →
    (gateId, command.stepId) ∈ world.state.openGates.entries →
      emission.key = .command .rejected command.commandId →
    Ensures (announce ports request plan (·.rejected gateId command.stepId) emission)
      world (Kept doomed err)
  approve : ∀ {world gateId} (emission : Emission), inv world →
    (gateId, command.stepId) ∈ world.state.openGates.entries →
    emission.key = .command .granted command.commandId →
    Ensures (announce ports request plan (·.approved gateId) emission) world
      (Kept (fun after => applied plan after ∧ ∀ (resumed : Emission),
        resumed.key = .command .resumed command.commandId →
        Ensures (announce ports request plan id resumed) after (Kept (applied plan) err)) err)
  pause : ∀ {world} (emission : Emission), inv world →
    emission.key = .command .paused command.commandId →
    Ensures (announce ports request plan (fun state => { state with status := .paused }) emission)
      world (Kept (applied plan) err)
  stop : ∀ {world} (emission : Emission), inv world → command.commandType = "cancel" →
    emission.key = .command .cancelled command.commandId → Ensures (announce ports request plan
      (fun state => { state with status := .cancelled, reasonCode := "native_operator_cancelled" })
        emission) world
      (Kept (applied plan) err)
  retry : ∀ {world} (emission : Emission), inv world → command.commandType = "retry" →
    world.state.status = .failed ∨ world.state.status = .cancelled →
    emission.key = .command .retry command.commandId →
    Ensures (announce ports request plan (·.retried command.stepId) emission)
      world (Kept (applied plan) err)
  edit : ∀ {world} (replacement : ExecutionPlan) (emission : Emission), inv world →
    command.commandType ∈ [text "edit", text "request_changes"] → world.state.running.entries = [] →
    ports.replacement world.effects command = .ok replacement →
    assertSafePlanEdit plan replacement world.state = .ok () →
    assertNative ports.routing replacement "native_replacement_plan_invalid" = .ok () →
    emission.key = .command .planEdited command.commandId →
    Ensures (announce ports request replacement (fun state => { state with
      planRevision := world.state.planRevision + 1, effectivePlan := replacement }) emission) world
      (Kept (fun after => applied replacement after ∧
        applied replacement { after with state := { after.state with status := .paused } }) err)

variable {command : SignedWorkflowCommand} {applied : ExecutionPlan → NativeWorld → Prop}

/-- What a command leads to: a property of the plan it returns, or of where it raises. -/
def Commanded (applied : ExecutionPlan → NativeWorld → Prop) (err : NativeWorld → Prop) :
    Except Fault ExecutionPlan → NativeWorld → Prop
  | .ok plan, after => applied plan after
  | .error _, after => err after

section

variable (rules : CommandRules ports request plan command inv doomed applied err)
include rules

/-- Answering a gate keeps what each command keeps. -/
lemma answerGate_keeps {gateId : Str}
    (holds : inv world) (entry : (gateId, command.stepId) ∈ world.state.openGates.entries) :
    Ensures (answerGate ports request plan command gateId) world (Commanded applied err) := by
  unfold answerGate
  split
  · exact rules.raised holds
  · refine ensures_guard (fun _ => rules.raised holds) fun _ => ?_
    split
    · rename_i reject
      refine ensures_then (rules.reject _ holds reject entry rfl) fun _ _ kept => ?_
      exact ensures_then (failRun_keeps rules.fail _ kept) fun _ _ => id
    · refine ensures_guard (fun _ => rules.raised holds) fun _ => ?_
      refine ensures_guard (fun _ => rules.raised holds) fun _ => ?_
      refine ensures_then (rules.approve _ holds entry rfl) fun _ _ kept => ?_
      split
      · exact ensures_then (kept.2 _ rfl) fun _ _ => id
      · exact kept.1

omit rules in
lemma mem_of_gateOpenFor (found : state.gateOpenFor nodeId ≠ []) :
    (state.gateOpenFor nodeId, nodeId) ∈ state.openGates.entries := by
  unfold NativeRunState.gateOpenFor at found ⊢
  cases located : state.openGates.entries.find? (·.2 = nodeId) with
  | none => simp [located] at found
  | some entry =>
    grind

/-- Replacing the plan keeps what each command keeps. -/
lemma editPlan_keeps (holds : inv world)
    (kind : command.commandType ∈ [text "edit", text "request_changes"]) :
    Ensures (editPlan ports request plan command) world (Commanded applied err) := by
  apply ensures_read
  refine ensures_guard (fun _ => rules.raised holds) fun idle => ?_
  refine ensures_evaluate (fun _ _ => rules.raised holds) fun replacement presented => ?_
  refine ensures_guard (fun _ => rules.raised holds) fun _ => ?_
  refine ensures_evaluate (fun _ _ => rules.raised holds) fun _ safe => ?_
  refine ensures_evaluate (fun _ _ => rules.raised holds) fun _ native => ?_
  refine ensures_then (rules.edit replacement _ holds kind (not_not.mp idle)
    presented safe native rfl) fun _ after kept => ?_
  split
  · exact kept.2
  · exact kept.1

/-- Every command keeps what its changes keep. -/
lemma applyCommand_keeps
    (holds : inv world) :
    Ensures (applyCommand ports request plan command) world (Commanded applied err) := by
  apply ensures_getState
  split
  · apply ensures_getState
    dsimp only
    split
    · rename_i paused
      exact ensures_then (rules.resume _ holds paused.2.2 rfl) fun _ _ => id
    split
    · exact rules.raised holds
    · rename_i found
      exact answerGate_keeps rules holds (mem_of_gateOpenFor found)
  split
  · exact ensures_then (rules.pause _ holds rfl) fun _ _ => id
  split
  · rename_i cancel
    refine ensures_then (cancelRunning_keeps (rules.cancel cancel) _ holds) fun _ _ kept => ?_
    exact ensures_then (rules.stop _ kept cancel rfl) fun _ _ => id
  split
  · rename_i retry
    refine ensures_guard (fun _ => rules.raised holds) fun ended => ?_
    have status : world.state.status = .failed ∨ world.state.status = .cancelled := by
      by_contra neither
      exact ended (not_or.mp neither)
    exact ensures_then (rules.retry _ holds retry status rfl) fun _ _ => id
  split
  · rename_i kind
    exact editPlan_keeps rules holds kind
  · exact rules.raised holds

end

end Ananta
