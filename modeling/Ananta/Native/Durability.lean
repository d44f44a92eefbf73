import Ananta.Native.Calls

/-! What a Native run has saved: a call adds one checkpoint or none, and what was completed is not
done again. -/

namespace Ananta

open Call List NativeRunState

variable {ports : NativePorts} {request : NativeGraphRequest} {plan : ExecutionPlan}
  {before world : NativeWorld} {origin state : NativeRunState}

/-- A state in which what another one has completed or skipped still is, with the same results. -/
structure NativeRunState.BuildsOn (state origin : NativeRunState) : Prop where
  completed : origin.completed ⊆ state.completed
  skipped : origin.skipped ⊆ state.skipped
  results : ∀ nodeId ∈ origin.completed, state.nodeResults.get? nodeId =
    origin.nodeResults.get? nodeId

lemma NativeRunState.BuildsOn.refl (state : NativeRunState) : state.BuildsOn state :=
  ⟨fun _ => id, fun _ => id, fun _ _ => rfl⟩

/-- While a plan is run, nothing that was completed is in flight. -/
structure Built (origin : NativeRunState) (plan : ExecutionPlan) (state : NativeRunState) :
    Prop extends state.BuildsOn origin where
  effective : state.effectivePlan = plan
  distinct : plan.nodeIds.Nodup
  apart : ∀ nodeId ∈ state.completed, state.running.get? nodeId = none

section

variable (built : Built origin plan state)
include built

lemma Built.finished {nodeId : Str} (pending : nodeId ∉ state.completed) (value : Value)
    (references : List (Str × Str)) :
    Built origin plan (state.finished nodeId value references) := by
  obtain ⟨⟨completed, skipped, results⟩, effective, distinct, apart⟩ := built
  refine ⟨⟨?_, skipped, ?_⟩, effective, distinct, ?_⟩ <;> grind
    [NativeRunState.finished, get?_erase, get?_set]

lemma Built.released (nodeId : Str) : Built origin plan (state.released nodeId) :=
  { built with apart := by grind [NativeRunState.released, get?_erase, built.apart] }

lemma Built.delegated {nodeId : Str} (pending : nodeId ∉ state.completed) (task : RunningTask) :
    Built origin plan (state.delegated nodeId task) :=
  { built with apart := by grind [NativeRunState.delegated, get?_set, built.apart] }

lemma Built.stored (request : NativeGraphRequest) : Built origin plan (state.stored request) :=
  { built with apart := by grind [NativeRunState.stored, get?_sorted, built.apart] }

lemma Built.emptied : Built origin plan { state with running := .empty } :=
  { built with apart := fun _ _ => rfl }

end

lemma not_completed {node : ExecutionNode} (free : Dispatchable plan state node) :
    node.nodeId ∉ state.completed :=
  fun done => free.pending (by simp [terminal, done])

/-- Whatever is handed out, nothing is saved. -/
def Unsaved (before : NativeWorld) (_ : List (Str × Str)) (saved : List NativeRunState) : Prop :=
  saved = before.checkpoints

/-- One state is saved that builds on another one, or none. -/
def Extended (origin : NativeRunState) (before after : NativeWorld) : Prop :=
  after.checkpoints = before.checkpoints ∨
    ∃ state, after.checkpoints = before.checkpoints ++ [state] ∧
      Built origin state.effectivePlan state

abbrev Failed (before after : NativeWorld) : Prop := after.checkpoints = before.checkpoints

/-- A tick builds on the state that it starts from. -/
lemma tick_built : StateRules plan request (Built origin plan) (Built origin plan)
    (Unsaved before) where
  doom built := built
  sequence _ built := { built with }
  sequenceDoomed _ built := { built with }
  emptied built := built.emptied
  broken _ built := { built with }
  attempt _ built := { built with }
  hand _ _ _ _ kept := kept
  accept {_ result _ _} built returned :=
    { built.finished (fun done => by cases (built.apart _ done).symm.trans returned.running)
      _ result.artifactRefs.entries with }
  release built _ := built.released _
  lose _ built _ := ⟨{ built.released _ with }, fun _ => { built.released _ with }⟩
  skip built free := { built with skipped := built.skipped.trans (Finset.subset_insert _ _) }
  finish value references built free := built.finished (not_completed free) value references
  unmerge _ built _ := { built.released _ with }
  gate built _ _ := { built with }
  pause built := { built with }
  wait built := { built with }
  delegate task built free := built.delegated (not_completed free) task
  complete built := { built with }

/-- So does a command, whichever plan it leads to. -/
lemma command_built (command : SignedWorkflowCommand) :
    CommandStateRules ports plan command (Built origin plan) (Built origin plan)
      (Built origin) where
  sequenceDoomed _ built := { built with }
  sequence _ built := { built with }
  cancel built := built.emptied
  emptied built := built.emptied
  broken _ built := { built with }
  resume built := { built with }
  reject built _ _ := { built with }
  approve built _ := { built with }
  pause built := { built with }
  enter built := built
  stop built := { built with }
  retry built := { built with }
  edit _ _ _ built _ _ _ _ native :=
    { built with
      effective := rfl, distinct := (valid_of_validate (validate_of_assertNative native)).distinct }

/-- Saving what was built on a checkpoint. -/
lemma save_built : Saves ports request plan (Upheld (Built origin plan) (Unsaved before))
    (Extended origin before) (Failed before) :=
  fun holds => saveCheckpoint_saved.mono fun outcome after saved => by
    obtain ⟨built, unsaved⟩ := holds
    cases outcome with
    | error _ => exact saved.2.1.trans unsaved
    | ok _ =>
      obtain ⟨_, sequence, same, appended⟩ := saved
      have kept : Built origin plan after.state := by
        rw [same]
        exact { built with }
      have stored := kept.stored request
      exact .inr ⟨_, unsaved ▸ appended, by rwa [stored.effective]⟩

/-- The checkpoint that a call takes up. -/
def NativeCall.base (checkpoints : List NativeRunState) : NativeCall → Option NativeRunState
  | .start _ => none
  | .advance _ => checkpoints.getLast?
  | .resume resumption _ => (resumption.base checkpoints).map (·.2)

/-- What holds between calls. -/
def Reloads (world : NativeWorld) : Prop :=
  ∀ state ∈ world.checkpoints, Built state state.effectivePlan state

/-- A call saves a state that builds on the one it took up, or none, and none where it raises. -/
lemma Reloads.extended (reloads : Reloads before) (call : NativeCall) :
    Ensures (call.run ports request) before
    (Kept (Extended ((call.base before.checkpoints).getD (.fresh ports request)) before)
      (Failed before)) := by
  have here : Failed before before := rfl
  -- A tick saves nothing: only the end of a call does.
  have rules : ∀ origin plan,
    TickRules ports request plan (Upheld (Built origin plan) (Unsaved before))
      _ _ (Failed before) :=
    fun _ _ => tick_built.tickRules fun kept => kept.2
  cases call with
  | start results =>
    refine start_keeps here (fun _ => rules _ _) (fun valid _ emission _ => ?_) save_built results
    exact tick_built.announce (fun kept => kept.2)
      ⟨.refl _, rfl, (valid_of_validate valid).distinct, fun _ _ => rfl⟩ here
  | advance results =>
    refine advance_keeps here (fun _ _ => here) (fun _ _ _ => .inl here)
      (fun state last _ => ?_) results
    have built := reloads state (mem_of_getLast? last)
    rw [NativeCall.base, last]
    exact ⟨_, _, _, built.distinct, rules state _, ⟨built, here⟩, save_built⟩
  | resume resumption results =>
    refine resume_keeps (fun plan => Upheld (Built _ plan) (Unsaved before))
      here (fun _ _ _ quiet => quiet.checkpoints)
      (fun _ _ _ quiet => .inl quiet.checkpoints) (fun revision state based after quiet => ?_)
        results fun plan after applied =>
        ⟨_, tick_keeps (rules _ plan) applied applied.1.distinct results, fun _ kept =>
          save_built ⟨{ kept.1 with }, kept.2⟩⟩
    refine applyCommand_keeps
      ((command_built resumption.command).commandRules (Unsaved before) (fun kept => kept.2)
      (fun kept => kept.2) fun kept => kept.2) ⟨?_, quiet.checkpoints⟩
    rw [quiet.state, NativeCall.base, based]
    exact reloads state (Resumption.mem_of_base based)

/-- A call that raises, or whose process dies at an effect, leaves what a run has saved as it was. A
call that returns saves one state at most, and that one builds on the checkpoint that the call took
up. -/
theorem native_call_saves_once (ports : NativePorts) (request : NativeGraphRequest)
    (calls : List NativeCall) (call : NativeCall) :
    let world := (nativeMachine ports request).after (nativeMachine ports request).initial calls
    let stepped := (nativeMachine ports request).step world call
    stepped.2.checkpoints = world.checkpoints ∨
      stepped.1 = .ok () ∧ ∃ state, stepped.2.checkpoints = world.checkpoints ++ [state] ∧
        ∀ origin ∈ call.base world.checkpoints, state.BuildsOn origin := by
  intro world stepped
  have reloads : Reloads world := by
    refine (nativeMachine ports request).after_of_step Reloads (fun before call reloads => ?_)
      calls _ fun _ impossible => by cases impossible
    obtain same | ⟨state, appended, built⟩ := holds_after (reloads.extended call) fun _ => .inl
    · exact fun state saved => reloads state (same ▸ saved)
    · intro other saved
      rcases mem_append.mp (appended ▸ saved) with old | new
      · exact reloads other old
      · rw [mem_singleton.mp new]
        exact { built with toBuildsOn := .refl state }
  have extended : Kept _ _ stepped.1 stepped.2 := reloads.extended call
  obtain ⟨outcome, after⟩ := stepped
  cases outcome with
  | error _ => exact .inl extended
  | ok _ =>
    obtain same | ⟨state, appended, built⟩ := extended
    · exact .inl same
    · refine .inr ⟨rfl, state, appended, fun origin taken => ?_⟩
      rw [Option.mem_def.mp taken] at built
      exact built.toBuildsOn

end Ananta
