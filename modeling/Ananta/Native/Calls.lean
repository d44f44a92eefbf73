import Ananta.Native.StateRules

/-! Whole calls on a Native run: what they keep, given what a tick and a command keep. -/

namespace Ananta

open Call

variable {ports : NativePorts} {request : NativeGraphRequest} {plan : ExecutionPlan}
  {world : NativeWorld}

lemma validate_of_assertNative {model : RoutingModel} {reason : String}
    (native : assertNative model plan reason = .ok ()) : plan.validate model = .ok [] := by
  simp only [assertNative, nativeReasons, ok_iff, ne_eq, not_not] at native
  obtain ⟨_, ⟨issues, validated, _, _, rfl⟩, none⟩ := native
  have empty := ((ExecutionPlan.perm_sortedTexts _).symm.trans (.of_eq none)).eq_nil
  simp_all

/-- A saved checkpoint is the state in memory, apart from the end of the log. -/
def Saved (request : NativeGraphRequest) (world : NativeWorld) : Except Fault Unit → NativeWorld →
    Prop
  | .ok _, after => after.submitted = world.submitted ∧
      ∃ sequence, after.state = world.state.sequenced sequence ∧
      after.checkpoints = world.checkpoints ++ [after.state.stored request]
  | .error _, after => after.submitted = world.submitted ∧ after.checkpoints = world.checkpoints ∧
      ∃ sequence, after.state = world.state.sequenced sequence

/-- Saving appends one checkpoint, or none where it raises. -/
lemma saveCheckpoint_saved :
    Ensures (saveCheckpoint ports request plan) world (Saved request world) := by
  apply ensures_read
  refine ensures_sequence (emit_effect _) (fun _ _ effect => ?_) fun _ emitted effect => ?_
  · exact ⟨effect.outside.1, effect.outside.2, effect.state⟩
  obtain ⟨submitted, checkpoints⟩ := effect.outside
  obtain ⟨sequence, same⟩ := effect.state
  refine ensures_readClock fun _ read quiet => ensures_getState ?_
  have raised : ∀ fault after, Quiet read after → Saved request world (.error fault) after :=
    fun _ after later => ⟨by rw [later.submitted, quiet.submitted, submitted],
      by rw [later.checkpoints, quiet.checkpoints, checkpoints], sequence,
      by rw [later.state, quiet.state, same]⟩
  refine ensures_evaluate (fun fault _ => raised fault _ (.refl _)) fun _ _ => ?_
  refine ensures_effect raised fun after later => ?_
  refine ⟨?_, sequence, ?_, ?_⟩
  · show after.submitted = world.submitted
    rw [later.submitted, quiet.submitted, submitted]
  · show after.state = _
    rw [later.state, quiet.state, same]
  · show after.checkpoints ++ [read.state.stored request] = world.checkpoints ++
      [after.state.stored request]
    rw [later.checkpoints, quiet.checkpoints, checkpoints, later.state]

variable {inv doomed final rest err : NativeWorld → Prop}

lemma holds_after {call : NativeM Unit} (kept : Ensures call world (Kept inv err))
    (raised : ∀ after, err after → inv after) : inv (call world).2 := by
  unfold Ensures at kept
  cases outcome : (call world).1 <;> rw [outcome] at kept
  · exact raised _ kept
  · exact kept

variable (ports request plan) in
/-- What a call needs between its tick and its end: the checkpoint leads to what holds between
calls. -/
def Saves (final rest err : NativeWorld → Prop) : Prop :=
  ∀ {world}, final world → Ensures (saveCheckpoint ports request plan) world (Kept rest err)

lemma tickAndSave_keeps (rules : TickRules ports request plan inv doomed final err)
    (distinct : plan.nodeIds.Nodup) (save : Saves ports request plan final rest err)
    (results : List NativeNodeResult) (holds : inv world) :
    Ensures (do tick ports request plan results; saveCheckpoint ports request plan : NativeM Unit)
      world (Kept rest err) :=
  ensures_then (tick_keeps rules holds distinct results) fun _ _ kept => save kept

/-- Starting a run keeps what the fresh state and its tick keep. -/
lemma start_keeps (refused : err world)
    (rules : request.plan.validate ports.routing = .ok [] →
      TickRules ports request request.plan inv doomed final err)
    (fresh : request.plan.validate ports.routing = .ok [] → world.checkpoints = [] →
      ∀ emission : Emission,
      emission.key = .started →
      Ensures (announce ports request request.plan (fun _ => .fresh ports request) emission)
      world (Kept inv err))
    (save : Saves ports request request.plan final rest err) (results : List NativeNodeResult) :
    Ensures (start ports request results) world (Kept rest err) := by
  refine ensures_evaluate (fun _ _ => refused) fun _ _ => ?_
  refine ensures_evaluate (fun _ _ => refused) fun _ native => ensures_read ?_
  refine ensures_guard (fun _ => refused) fun first => ?_
  have valid := validate_of_assertNative native
  refine ensures_then (fresh valid (not_not.mp first) _ rfl) fun _ _ kept => ?_
  exact tickAndSave_keeps (rules valid) (valid_of_validate valid).distinct save results kept

/-- Taking up a checkpoint replaces the state in memory, and returns the plan that it runs. -/
lemma ensures_loadState {α : Type} {state : NativeRunState} {next : ExecutionPlan → NativeM α}
    {post : Except Fault α → NativeWorld → Prop}
    (raised : ∀ fault, post (.error fault) { world with state })
    (returned : Ensures (next state.effectivePlan) { world with state } post) :
    Ensures (loadState ports request state >>= next) world post := by
  have spec : Ensures (loadState ports request state) world fun outcome after =>
      after = { world with state } ∧ ∀ plan, outcome = .ok plan → plan = state.effectivePlan := by
    apply ensures_modifyState
    -- A plan that is not read back as it was stored is refused.
    iterate 2 refine ensures_guard (fun _ => ⟨rfl, by simp⟩) fun reread => ?_
    refine ensures_evaluate (fun _ _ => ⟨rfl, by simp⟩) fun _ _ => ?_
    refine ensures_guard (fun _ => ⟨rfl, by simp⟩) fun _ => ?_
    refine ensures_evaluate (fun _ _ => ⟨rfl, by simp⟩) fun _ _ => ?_
    iterate 3 refine ensures_guard (fun _ => ⟨rfl, by simp⟩) fun _ => ?_
    exact ⟨rfl, fun _ same => (Except.ok.inj same).symm.trans (not_not.mp reread)⟩
  refine ensures_sequence spec ?_ ?_
  · rintro fault _ ⟨rfl, _⟩
    exact raised fault
  · rintro plan _ ⟨rfl, same⟩
    rwa [same plan rfl]

/-- Advancing a run keeps what the tick on its last checkpoint keeps. -/
lemma advance_keeps (refused : err world)
    (missed : ∀ state ∈ world.checkpoints, err { world with state })
    (ended : ∀ state ∈ world.checkpoints, state.status ≠ .running → rest { world with state })
    (loaded : ∀ state, world.checkpoints.getLast? = some state → state.status = .running →
      ∃ inv doomed final, state.effectivePlan.nodeIds.Nodup ∧
      TickRules ports request state.effectivePlan inv doomed final err ∧
      inv { world with state } ∧ Saves ports request state.effectivePlan final rest err)
    (results : List NativeNodeResult) :
    Ensures (advance ports request results) world (Kept rest err) := by
  refine ensures_evaluate (fun _ _ => refused) fun _ _ => ensures_read ?_
  cases last : world.checkpoints.getLast? with
  | none => exact refused
  | some state =>
    have saved := List.mem_of_getLast? last
    refine ensures_loadState (fun _ => missed state saved) ?_
    split
    · rename_i running
      obtain ⟨inv, doomed, final, distinct, rules, holds, save⟩ := loaded state last running
      exact tickAndSave_keeps rules distinct save results holds
    · rename_i idle
      exact ended state saved idle

lemma Resumption.mem_of_base {resumption : Resumption} {checkpoints : List NativeRunState}
    {revision : Nat} {state : NativeRunState}
    (based : resumption.base checkpoints = some (revision, state)) : state ∈ checkpoints := by
  unfold Resumption.base at based
  grind

def NativeRunState.receipted (state : NativeRunState) (ports : NativePorts)
    (command : SignedWorkflowCommand) : NativeRunState :=
  { state with
    lastCommandId := command.commandId, lastCommandFingerprint := ports.fingerprint command }

/-- Resuming a run keeps what the command and the tick on the checkpoint that it is based on
keep. -/
lemma resume_keeps {resumption : Resumption} (applied : ExecutionPlan → NativeWorld → Prop)
    (refused : err world)
    (missed : ∀ state ∈ world.checkpoints, ∀ after, Quiet { world with state } after → err after)
    (ended : ∀ state ∈ world.checkpoints, ∀ after, Quiet { world with state } after → rest after)
    (loaded : ∀ revision state, resumption.base world.checkpoints = some (revision, state) →
      ∀ after, Quiet { world with state } after →
      Ensures (applyCommand ports request state.effectivePlan resumption.command)
        after (Commanded applied err)) (results : List NativeNodeResult)
    (ticked : ∀ plan world, applied plan world → ∃ final : NativeWorld → Prop,
      Ensures (tick ports request plan results) world (Kept final err) ∧
      ∀ world, final world → Ensures (saveCheckpoint ports request plan)
        { world with state := world.state.receipted ports resumption.command } (Kept rest err)) :
    Ensures (resume ports request resumption results) world (Kept rest err) := by
  refine ensures_evaluate (fun _ _ => refused) fun _ _ => ensures_read ?_
  cases base : resumption.base world.checkpoints with
  | none => exact refused
  | some based =>
    obtain ⟨revision, state⟩ := based
    have saved := Resumption.mem_of_base base
    refine ensures_loadState (fun _ => missed state saved _ (.refl _)) ?_
    refine ensures_readClock fun _ read quiet => ?_
    have raised : err read := missed state saved read quiet
    refine ensures_evaluate (fun _ _ => raised) fun _ _ => ?_
    split
    · refine ensures_guard (fun _ => raised) fun _ => ?_
      exact ended state saved read quiet
    · refine ensures_guard (fun _ => raised) fun _ => ?_
      refine ensures_sequence (loaded revision state base read quiet) (fun _ _ => id) ?_
      intro plan commanded kept
      obtain ⟨final, run, save⟩ := ticked plan commanded kept
      refine ensures_then run ?_
      exact fun _ after kept => ensures_modifyState (save after kept)

/-- Surroundings that let everything pass, and whose clock stands still. -/
def permissivePorts : NativePorts where
  clock _ := 1
  uuid drawn := decimal drawn
  alive _ := true
  routing _ := none
  planHash plan := plan.planId
  validateOutput _ _ := .ok ()
  authorizeDelegation _ _ _ _ := (true, [])
  authorizeCommand _ _ _ _ := (true, [])
  declinedProvider _ _ _ := none
  grant _ _ _ _ := .ok ()
  authorizeSideEffect _ _ _ := .ok (.ok [])
  ledger _ _ := none
  submit _ commandId := .ok (.ok commandId)
  storable _ := .ok ()
  verifyCheckpoint _ _ := .ok ()
  verify _ _ _ _ _ := .ok ()
  fingerprint command := command.commandId
  replacement _ _ := .error ⟨.valueError, "native_replacement_plan_required"⟩

def plainCommand (commandId commandType stepId : String) : SignedWorkflowCommand :=
  { commandId := text commandId, commandType := text commandType, tenantId := "t",
    workflowId := "w",
    runId := "r", stepId := text stepId, checkpointId := "k", expectedRevision := 1,
    planHash := "p",
    policyVersion := "v", actorId := "o", actorRoles := [], payload := [],
    issuedAt := 1, expiresAt := 2,
    nonce := "n", keyId := "key", signature := "s" }

def plainRequest (plan : ExecutionPlan) : NativeGraphRequest :=
  { plan, runId := "r", controlTaskId := "c" }

/-- The result of a node whose attempt such surroundings named by a number. -/
def plainResult (nodeId : String) (drawn : Nat) (fencingToken : Int) (status : String) :
    NativeNodeResult :=
  let attemptId := attemptIdOf (decimal drawn)
  let commandId := "ncmd:r:" ++ text nodeId ++ ":" ++ attemptId
  { resultId := attemptId, commandId, hubTaskId := commandId, tenantId := "t", workflowId := "w",
    runId := "r", nodeId := text nodeId, attemptId, fencingToken, status := text status }

end Ananta
