import Ananta.Native.Freshness

/-! Whole runs emit no event twice, as long as every command and every call finds the run in
order. -/

namespace Ananta

open List Call

variable {ports : NativePorts} {request : NativeGraphRequest} {plan : ExecutionPlan}
  {gates : Str → Prop}
variable {used : List Str} {base world after : NativeWorld} {state : NativeRunState}
  {command : SignedWorkflowCommand}

def HasRejection (failed : Dict Str Str) : Prop :=
  ∃ nodeId, failed.get? nodeId = some (text "native_approval_rejected")

def Watch.rejecting (gates : Str → Prop) (used : List Str) : Watch :=
  ⟨gates, used, fun _ => False, fun _ failed => HasRejection failed⟩

/-- Between calls the run may have been completed, or a gate may have been rejected. -/
def Watch.rest (gates : Str → Prop) (used : List Str) : Watch :=
  ⟨gates, used, (· = .completed), fun status failed => status ≠ .running ∧ HasRejection failed⟩

lemma Tracked.live (tracked : Tracked ports (.rest gates used) request plan world)
    (unfinished : world.state.status ≠ .completed)
    (unrejected : ¬ (world.state.status ≠ .running ∧ HasRejection world.state.failed)) :
    Tracked ports (.live gates used) request plan world :=
  tracked.changed (tracked.stillTo ⟨rfl, fun _ => id, unfinished, unrejected⟩ rfl)

lemma Keeping.rest (keeping : Keeping ports (.behind gates used) request plan base world) :
    Keeping ports (.rest gates used) request plan base world :=
  keeping.changed (keeping.1.stillTo ⟨rfl, fun _ => id, id, fun fact => fact.elim⟩ rfl)

section

/-- What a command leads to: a state that its plan is run in, or a failed run with a rejected
gate. -/
def Answered (ports : NativePorts) (gates : Str → Prop) (used : List Str)
    (request : NativeGraphRequest) (base : NativeWorld) (plan : ExecutionPlan)
    (world : NativeWorld) : Prop :=
  Keeping ports (.live gates used) request plan base world ∨
    world.state.status = .failed ∧ Keeping ports (.rest gates used) request plan base world

variable (ports gates used command) in
/-- What is known of a command that was not given before, of a state that it may be given in. -/
structure NewCommand : Prop where
  unnamed : ¬ gates command.commandId
  plain : colonPoint ∉ command.commandId
  new : command.commandId ∉ used
  replaced : ∀ moment replacement, ports.replacement moment command = .ok replacement →
    ∀ gateId ∈ replacement.gateIds, gates gateId

variable (fresh : NewCommand ports gates used command)

lemma passedOn_command (state after : NativeRunState) :
    PassedOn (.live gates used) (.live gates (command.commandId :: used)) state after :=
  ⟨rfl, subset_cons_self _ _, id, id⟩

/-- A rejected gate fails the run. -/
lemma failRules_fresh :
    FailRules ports request plan
      (Keeping ports (.rejecting gates (command.commandId :: used)) request plan base)
      (Answered ports gates (command.commandId :: used) request base plan)
      (Since request base) where
  raised holds := holds.2
  quiet holds quiet := ⟨holds.1.quiet quiet, holds.2.quiet quiet⟩
  abandon _ holds _ := holds.elsewhere rfl
  emptied holds := holds.changed (holds.1.onwardTo ⟨rfl, fun _ => id, id, id⟩ rfl
    subset_rfl subset_rfl (fun _ fact => fact.imp_right .inl) (nofun) fun _ runs => absurd rfl runs)
  broken {world} reason emission holds key := by
    have passed : PassedOn (.rejecting gates (command.commandId :: used))
        (.rest gates (command.commandId :: used)) world.state (world.state.broken reason) :=
      ⟨rfl, fun _ => id, fun impossible => impossible.elim, fun fact => ⟨nofun, fact⟩⟩
    refine ((holds.fail passed key).and (announce_effect _ _)).mono fun outcome after both => ?_
    cases outcome with
    | error _ => exact both.1
    | ok _ =>
      obtain ⟨sequence, same⟩ := both.2.state
      exact .inr ⟨by rw [same]; rfl, both.1⟩

include fresh

variable {watch : Watch} {update : NativeRunState → NativeRunState} {emission : Emission}
    {event : CommandEvent}

lemma NewCommand.known (named : watch.gates = gates)
    (given : watch.used = command.commandId :: used) (event : CommandEvent) (state : NativeRunState)
    (extent : Extent) :
    Known ports watch state extent (.command event command.commandId) :=
  ⟨by rw [given]; exact mem_cons_self, by rw [named]; exact fresh.unnamed, fresh.plain⟩

section

variable (keeping : Keeping ports (.live gates used) request plan base world)
include keeping

/-- A command that is announced for the first time. -/
lemma NewCommand.announce {successor : ExecutionPlan}
    (key : emission.key = .command event command.commandId) (named : watch.gates = gates)
    (given : watch.used = command.commandId :: used)
    (leads : Leads ports (.live gates used)
      watch request successor world world (update world.state)) :
    Ensures (Ananta.announce ports request successor update emission) world
      (Kept (Keeping ports watch request successor base) (Since request base)) := by
  refine announce_tracked keeping.1 keeping.2 (keeping.1.unused ?_) leads fun wider _ => ?_
  · rw [key]
    exact fresh_command fresh.unnamed fresh.plain fresh.new
  · rw [key]
    exact fresh.known named given event _ wider

/-- A command that leaves the nodes and gates where they are. -/
lemma NewCommand.still (key : emission.key = .command event command.commandId)
    (same : ∀ state : NativeRunState, ((update state).effectivePlan, (update state).eventSequence,
        (update state).approvedGates, (update state).skipped, (update state).completed,
          (update state).openGates,
        (update state).running) =
      (state.effectivePlan, state.eventSequence, state.approvedGates, state.skipped,
        state.completed, state.openGates, state.running)) :
    Ensures (Ananta.announce ports request plan update emission) world
      (Kept (Answered ports gates (command.commandId :: used) request base plan)
        (Since request base)) :=
  (fresh.announce keeping key rfl rfl (keeping.1.stillTo (passedOn_command _ _) (same _))).onward
    fun _ kept => .inl kept

/-- Approving a gate keeps it known. -/
lemma NewCommand.approve {gateId : Str} (key : emission.key = .command .granted command.commandId) :
    Ensures (Ananta.announce ports request plan (·.approved gateId) emission) world
      (Kept (Keeping ports (.live gates (command.commandId :: used)) request plan base)
        (Since request base)) := by
  refine fresh.announce keeping key rfl rfl
    (keeping.1.onwardTo (passedOn_command _ _) rfl subset_rfl subset_rfl ?_
    (fun _ _ => id) keeping.1.tasks.pending)
  intro other fact
  show other ∈ insert gateId world.state.approvedGates ∨
    (world.state.openGates.erase gateId).get? other ≠ none ∨ _
  rw [Finset.mem_insert, get?_erase]
  grind

/-- Replacing the plan keeps to the names that its gates may have. -/
lemma NewCommand.edit {replacement : ExecutionPlan} {moment : Nat} {revision : Int}
    (presented : ports.replacement moment command = .ok replacement)
    (safe : assertSafePlanEdit plan replacement world.state = .ok ())
    (native : assertNative ports.routing replacement "native_replacement_plan_invalid" = .ok ())
    (key : emission.key = .command .planEdited command.commandId) :
    Ensures (Ananta.announce ports request replacement (fun state => { state with
      planRevision := revision, effectivePlan := replacement }) emission) world
      (Kept (Keeping ports (.live gates (command.commandId :: used)) request replacement base)
        (Since request base)) := by
  have valid := validate_of_assertNative native
  have tenant : replacement.tenantId = plan.tenantId := by
    simp only [assertSafePlanEdit, ok_iff, not_or, not_not] at safe
    obtain ⟨_, ⟨same, _⟩, _⟩ := safe
    exact same
  refine fresh.announce keeping key rfl rfl
    ⟨rfl, rfl, le_rfl, rfl, ⟨(valid_of_validate valid).distinct, ?_, ?_⟩, { keeping.1.tasks with },
      rfl,
    ⟨subset_rfl, subset_rfl, fun _ => id, fun _ _ runs => .inl runs, subset_cons_self _ _, rfl,
      id⟩⟩
  · rw [tenant]
    exact keeping.1.names.tenant
  · exact fun node listed gated =>
      fresh.replaced moment replacement presented _ (gate_of_validate valid listed gated)

end

/-- Every command emits under a new key. -/
lemma NewCommand.commandRules (apart : Distinguishing ports request) :
    CommandRules ports request plan command (Keeping ports (.live gates used) request plan base)
      (Keeping ports (.rejecting gates (command.commandId :: used)) request plan base)
      (Answered ports gates (command.commandId :: used) request base) (Since request base) where
  raised holds := holds.2
  cancel _ := (tickRules_fresh apart).toCancelRules
  fail := failRules_fresh
  resume _ holds _ key := fresh.still holds key fun _ => rfl
  reject {world gateId} _ holds _ _ key := by
    refine fresh.announce holds key rfl rfl (holds.1.onwardTo ⟨rfl, subset_cons_self _ _, id,
      fun impossible => impossible.elim⟩ rfl subset_rfl subset_rfl
        (fun _ _ => .inr (.inr ⟨command.stepId, ?_⟩))
      (fun _ _ => id) holds.1.tasks.pending)
    show (world.state.failed.set command.stepId "native_approval_rejected").get? command.stepId = _
    exact get?_set_self _ _ _
  approve {world gateId} emission holds _ key := by
    refine ((fresh.approve holds key).and (announce_effect _ _)).mono fun outcome after both => ?_
    cases outcome with
    | error _ => exact both.1
    | ok _ =>
      refine ⟨.inl both.1, fun resumed again => ?_⟩
      have announced : Ensures (Ananta.announce ports request plan id resumed) after
          (Kept (Keeping ports (.live gates (command.commandId :: used)) request plan base)
            (Since request base)) := by
        refine announce_tracked both.1.1 both.1.2 ?_ (both.1.1.stillTo (passedOn_live _ _) rfl)
          fun wider _ => ?_
        · rw [again]
          refine both.2.unused holds.1.names.tenant
            (holds.1.unused (fresh_command fresh.unnamed fresh.plain fresh.new)) fun repeated => ?_
          rw [key] at repeated
          exact nomatch EmissionKey.collides_of_render repeated
        · rw [again]
          exact fresh.known rfl rfl _ _ wider
      exact announced.onward fun _ kept => .inl kept
  pause _ holds key := fresh.still holds key fun _ => rfl
  stop _ holds _ key := fresh.still holds key fun _ => rfl
  retry _ holds _ _ key := fresh.still holds key fun _ => rfl
  edit replacement _ holds _ _ presented safe native key :=
    (fresh.edit holds presented safe native key).onward fun _ kept =>
      ⟨.inl kept, .inl (kept.changed (kept.1.stillTo (passedOn_live _ _) rfl))⟩

end

variable (ports request gates used) in
/-- What holds between calls: nothing was emitted twice, and a checkpoint behind which no event was
filed knows of every event of the run. -/
structure Rested (world : NativeWorld) : Prop where
  repeats : world.repeats = []
  empty : world.checkpoints = [] → request.length world = 0 → ∀ key, ¬ request.HasKey world key
  behind : ∀ state ∈ world.checkpoints, state.eventSequence ≤ request.length world
  known : ∀ state ∈ world.checkpoints, state.eventSequence = request.length world →
    Tracked ports (.rest gates used) request state.effectivePlan { world with state }

lemma Rested.refl (rested : Rested ports request gates used world) (state : NativeRunState) :
    Since request world { world with state } := ⟨rested.repeats, rfl, .inl rfl, le_rfl⟩

/-- A call that saves nothing leaves what held before, also where one more command was given. -/
lemma Rested.since {more : List Str} (rested : Rested ports request gates used base)
    (since : Since request base world) (given : used ⊆ more) :
    Rested ports request gates more world := by
  have longer := since.log.elim (fun same => (length_congr same).ge) le_of_lt
  refine ⟨since.repeats, fun none zero key has => ?_, fun state saved => ?_,
    fun state saved whole => ?_⟩
  · rcases since.log with same | less
    · refine rested.empty (since.saved ▸ none) ((length_congr same).symm.trans zero) key ?_
      rwa [NativeGraphRequest.HasKey, ← same]
    · exact absurd less (by have := @length_nonneg request base; omega)
  · exact (rested.behind state (since.saved ▸ saved)).trans longer
  · rw [since.saved] at saved
    have least := rested.behind state saved
    have same := since.log.resolve_right (by omega)
    have tracked := rested.known state saved (by rw [whole, length_congr same])
    have leads : Leads ports (.rest gates used)
      (.rest gates more) request state.effectivePlan _ _ state :=
      tracked.stillTo ⟨rfl, given, id, id⟩ rfl
    exact tracked.changed { leads with
      events := same, saved := since.saved, drawn := since.drawn,
      tasks := leads.tasks.mono since.drawn }

/-- The state as it is stored knows of the same events. -/
lemma Tracked.stored (tracked : Tracked ports (.rest gates used) request plan world) :
    Leads ports (.rest gates used)
      (.rest gates used) request plan world world (world.state.stored request) := by
  refine tracked.onwardTo ⟨rfl, fun _ => id, id, id⟩ rfl subset_rfl subset_rfl
    ?_ ?_ ?_
  · intro gateId fact
    rw [NativeRunState.stored, get?_sorted]
    exact fact.imp_right .inl
  · intro nodeId task runs
    rwa [NativeRunState.stored, get?_sorted] at runs
  · intro nodeId runs
    rw [NativeRunState.stored, get?_sorted] at runs
    exact tracked.tasks.pending nodeId runs

/-- The event of a checkpoint is known once the checkpoint is there. -/
lemma OfferedNew.checkpointed {event : CanonicalWorkflowEvent} {checkpoints : List NativeRunState}
    (effect : OfferedNew request world event (.ok ()) after)
    (tracked : Tracked ports (.rest gates used) request plan world)
    (own : event.logKey = request.logKey)
    (named : event.dedupeKey =
      EmissionKey.render request.runId (.checkpoint (world.checkpoints.length + 1)))
    (repeats : world.repeats = []) (more : checkpoints.length = world.checkpoints.length + 1) :
    Tracked ports (.rest gates used) request plan { after with checkpoints } := by
  -- The checkpoint is set in advance, which the emission does not notice.
  let ahead : NativeWorld := { world with checkpoints }
  have before : Tracked ports (.rest gates used) request plan ahead :=
    { tracked with
      traced := fun key has => (tracked.traced key has).carry (.refl _ _ _)
        ⟨le_rfl, by show _ ≤ checkpoints.length; rw [more]; exact Nat.le_succ _, le_rfl⟩ }
  have aside : OfferedNew request ahead event (.ok ()) { after with checkpoints } := by
    cases effect with
    | filed admits quiet =>
      exact .filed admits { quiet with checkpoints := rfl }
  have begins : Since request ahead ahead := ⟨repeats, rfl, .inl rfl, le_rfl⟩
  refine (aside.tracked before own (fun wider behind => ?_) begins).1
  rw [named]
  have saved : checkpoints.length ≤ wider.saved := behind.saved
  exact .inl ⟨_, rfl, by omega, by omega⟩

/-- A checkpoint is the last one, and knows of every event of the run. -/
lemma saveCheckpoint_rested
    (behind : ∀ state ∈ base.checkpoints, state.eventSequence ≤ request.length base)
    (keeping : Keeping ports (.rest gates used) request plan base world) :
    Ensures (saveCheckpoint ports request plan)
      world (Kept (Rested ports request gates used) (Since request base)) := by
  obtain ⟨tracked, since⟩ := keeping
  apply ensures_read
  have own (emission : Emission) :=
    @logKey_offered ports request world plan emission tracked.names.tenant
  have unused := tracked.unused (fresh_checkpoint (Int.lt_succ _))
  refine ensures_sequence (emit_effect _) (fun fault after effect => ?_) fun _ emitted effect => ?_
  all_goals have offered := effect.new (own _) (by rwa [dedupeKey_offered])
  · exact (offered.since (own _) since).1
  obtain ⟨grown, longer⟩ := offered.since (own _) since
  refine ensures_readClock fun _ read quiet => ensures_getState ?_
  have further := grown.quiet quiet
  refine ensures_evaluate (fun _ _ => further) fun _ _ => ?_
  refine ensures_effect (fun _ _ later => further.quiet later) fun after later => ?_
  have saved := (further.quiet later).saved
  have last := quiet.trans later
  let checkpoints := after.checkpoints ++ [read.state.stored request]
  have whole : Tracked ports (.rest gates used) request plan { after with checkpoints } := by
    have known := @OfferedNew.checkpointed ports request plan gates used world emitted _ checkpoints
      offered tracked (own _)
      dedupeKey_offered since.repeats (by simp [checkpoints, saved, since.saved])
    exact known.quiet { last with checkpoints := rfl }
  have number := (length_congr last.events).trans (longer rfl)
  -- The event of this checkpoint makes the log longer than older ones know.
  have older : ∀ state ∈ after.checkpoints, state.eventSequence < request.length after := by
    intro state member
    have least := behind state (saved ▸ member)
    have longest := since.log.elim (fun same => (length_congr same).ge) le_of_lt
    omega
  have stored : read.state.stored request = after.state.stored request := by rw [later.state]
  show Rested ports request gates used { after with checkpoints }
  refine ⟨(further.quiet later).repeats, fun none => ?_, fun state member => ?_,
    fun state member whole' => ?_⟩
  · exact absurd none (by simp [checkpoints])
  · rcases mem_append.mp member with old | new
    · exact (older state old).le
    · rw [mem_singleton.mp new, stored]
      exact whole.sequence.le
  · rcases mem_append.mp member with old | new
    · exact absurd whole' (older state old).ne
    · rw [mem_singleton.mp new, stored]
      show Tracked ports _ request after.state.effectivePlan _
      rw [whole.effective]
      exact whole.changed whole.stored

variable (ports request gates) in
/-- What a call needs for its events to be new: the names of gates are kept to, no command has the
name of a gate, no event was filed behind the checkpoint that is taken up, and a command finds the
run neither completed nor rejected. -/
def NativeCall.Regular (world : NativeWorld) :
    NativeCall → Prop
  | .start _ => (∀ gateId ∈ request.plan.gateIds, gates gateId) ∧
      (world.checkpoints = [] → request.length world = 0)
  | .advance _ => ∀ state, world.checkpoints.getLast? = some state → state.status = .running →
      state.eventSequence = request.length world
  | .resume resumption _ =>
      ¬ gates resumption.command.commandId ∧ colonPoint ∉ resumption.command.commandId ∧
      (∀ moment replacement, ports.replacement moment resumption.command = .ok replacement →
        ∀ gateId ∈ replacement.gateIds, gates gateId) ∧
      ∀ revision state, resumption.base world.checkpoints = some (revision, state) →
        state.eventSequence = request.length world ∧ state.status ≠ .completed ∧
          ¬ HasRejection state.failed

def NativeCall.given : NativeCall → List Str
  | .start _ | .advance _ => []
  | .resume resumption _ => [resumption.command.commandId]

section

variable (apart : Distinguishing ports request) (rested : Rested ports request gates used world)
  (results : List NativeNodeResult)
include apart rested

/-- Starting a run emits nothing twice. -/
lemma start_rested (regular : (NativeCall.start results).Regular ports request gates world) :
    Ensures (start ports request results)
      world (Kept (Rested ports request gates used) (Since request world)) := by
  refine start_keeps (rested.refl _) (fun _ => tickRules_fresh apart)
    (fun valid first emission key => ?_)
    (fun kept => saveCheckpoint_rested rested.behind kept.rest) results
  have none := rested.empty first (regular.2 first)
  let begun : NativeWorld := { world with state := .fresh ports request }
  have tracked : Tracked ports (.live gates used) request request.plan begun :=
    ⟨rfl, ⟨(valid_of_validate valid).distinct, rfl, fun node listed gated =>
      regular.1 _ (gate_of_validate valid listed gated)⟩,
      ⟨nofun, fun _ runs => absurd rfl runs, nofun,
        nofun⟩, (regular.2 first).symm, fun key has => absurd has (none key)⟩
  have leads := tracked.stillTo (passedOn_live _ _) rfl
  refine announce_tracked tracked (rested.refl _)
    (none _) ⟨rfl, rfl, le_rfl, rfl, leads.names, leads.tasks, rfl, leads.carries⟩ fun wider _ => ?_
  rw [key]
  trivial

/-- Advancing a run emits nothing twice. -/
lemma advance_rested (regular : (NativeCall.advance results).Regular ports request gates world) :
    Ensures (advance ports request results)
      world (Kept (Rested ports request gates used) (Since request world)) := by
  refine advance_keeps (rested.refl world.state) (fun state _ => rested.refl state)
    (fun state _ _ => rested.since (rested.refl state) fun _ => id)
    (fun state last running => ?_) results
  have tracked := rested.known state (mem_of_getLast? last) (regular state last running)
  refine ⟨_, _, _, tracked.names.distinct, tickRules_fresh apart,
    ⟨tracked.live ?_ ?_, rested.refl state⟩, fun kept =>
      saveCheckpoint_rested rested.behind kept.rest⟩
  · exact fun ended => nomatch running.symm.trans ended
  · exact fun fact => fact.1 running

/-- A command emits nothing twice, and neither does the tick behind it. -/
lemma resume_rested (resumption : Resumption) (new : resumption.command.commandId ∉ used)
    (regular : (NativeCall.resume resumption results).Regular ports request gates world) :
    Ensures (resume ports request resumption results) world
      (Kept (Rested ports request gates (resumption.command.commandId :: used))
        (Since request world)) := by
  obtain ⟨unnamed, plain, replaced, based⟩ := regular
  refine resume_keeps (Answered ports gates (resumption.command.commandId :: used) request world)
    (rested.refl world.state) (fun state _ after quiet => (rested.refl state).quiet quiet)
    (fun state _ after quiet => rested.since ((rested.refl state).quiet quiet)
      (subset_cons_self _ _))
    (fun revision state base after quiet => ?_) results fun plan world answered => ?_
  · obtain ⟨whole, unfinished, unrejected⟩ := based revision state base
    have tracked := (rested.known state (Resumption.mem_of_base base) whole).live unfinished
      fun fact => unrejected fact.2
    exact applyCommand_keeps (NewCommand.commandRules ⟨unnamed, plain, new, replaced⟩ apart)
      ⟨tracked.quiet quiet, (rested.refl state).quiet quiet⟩
  · refine ⟨Keeping ports (.rest gates (resumption.command.commandId :: used)) request plan _, ?_,
      fun after kept =>
      saveCheckpoint_rested rested.behind (kept.changed (kept.1.stillTo
        ⟨rfl, fun _ => id, fun ended => ended, fun fact => fact⟩ rfl))⟩
    rcases answered with live | ⟨failed, kept⟩
    · exact (tick_keeps (tickRules_fresh apart) live live.1.names.distinct results).onward
        fun _ kept => kept.rest
    · exact ifRunning_keeps kept fun running => nomatch failed.symm.trans running

/-- A call that finds the run in order emits nothing twice. -/
lemma call_rested (call : NativeCall)
    (new : ∀ commandId ∈ call.given, commandId ∉ used)
    (regular : call.Regular ports request gates world) :
    Rested ports request gates (call.given ++ used)
      ((nativeMachine ports request).step world call).2 := by
  have kept : Ensures (call.run ports request) world
      (Kept (Rested ports request gates (call.given ++ used)) (Since request world)) := by
    cases call with
    | start results => exact start_rested apart rested results regular
    | advance results => exact advance_rested apart rested results regular
    | resume resumption results =>
        exact resume_rested apart rested results resumption (new _ mem_cons_self) regular
  exact holds_after kept fun _ kept => rested.since kept (subset_append_right _ _)

/-- From a run in order, any calls that find it in order emit nothing twice. -/
lemma rested_after (calls : List NativeCall) (distinct : (calls.flatMap NativeCall.given).Nodup)
    (new : ∀ commandId ∈ calls.flatMap NativeCall.given, commandId ∉ used)
    (regular : (nativeMachine ports request).Throughout
      (fun world call => call.Regular ports request gates world) world calls) :
    ((nativeMachine ports request).after world calls).repeats = [] := by
  -- The commands given so far grow with each call, so that the induction is over the calls with the
  -- world generalised.
  induction calls generalizing world used with
  | nil => exact rested.repeats
  | cons call calls next =>
    rw [flatMap_cons, nodup_append] at distinct
    simp only [flatMap_cons, mem_append] at new
    refine next (call_rested apart rested call (fun _ given => new _ (.inl given)) regular.1)
      distinct.2.1 ?_ regular.2
    grind

end

/-- A run with different commands emits no two events under one dedupe key, as long as every call
finds it in order. -/
theorem native_events_fresh (ports : NativePorts) (request : NativeGraphRequest)
    (gates : Str → Prop) (apart : Distinguishing ports request) (calls : List NativeCall)
    (distinct : (calls.flatMap NativeCall.given).Nodup)
    (regular : (nativeMachine ports request).Throughout
      (fun world call => call.Regular ports request gates world)
      (nativeMachine ports request).initial calls) :
    ((nativeMachine ports request).after (nativeMachine ports request).initial calls).repeats =
    [] :=
  have begins : Rested ports request gates [] (nativeMachine ports request).initial :=
    ⟨rfl, fun _ _ _ has => (nomatch has), fun _ impossible => (nomatch impossible),
      fun _ impossible => nomatch impossible⟩
  rested_after apart begins calls distinct (fun _ _ impossible => nomatch impossible) regular

def gatedPlan : ExecutionPlan :=
  { tenantId := "t", planId := "p", workflowId := "w", policyVersion := "v",
    nodes := [{ nodeId := "a", gateId := "g" }], gates := [{ gateId := "g" }] }

/-- Surroundings that let everything pass, and whose clock goes on by one second at every
reading. -/
def tickingPorts : NativePorts :=
  { permissivePorts with clock := fun moment => .ofInt (moment + 1) }

lemma tickingPorts_distinguishing (request : NativeGraphRequest) :
    Distinguishing tickingPorts request where
  distinct left right same := by
    have equal := decimal_inj (Int.natCast_nonneg left) (Int.natCast_nonneg right) same
    omega
  plain drawn := isWord_decimal drawn
  operations named issued :=
    absurd (by simpa [tickingPorts, permissivePorts] using issued) named.symm
  bound impossible := nomatch impossible

theorem native_events_fresh_approved :
    let machine := nativeMachine tickingPorts (plainRequest gatedPlan)
    let world := machine.after machine.initial
      [.start [], .resume { command := plainCommand "m" "approve" "a" } []]
    world.checkpoints.length = 2 ∧ world.submitted.length = 1 ∧ world.repeats = [] := by
  intro machine world
  refine ⟨by decide +kernel, by decide +kernel,
    native_events_fresh tickingPorts (plainRequest gatedPlan) (· = "g")
    (tickingPorts_distinguishing _) _ (by decide) ?_⟩
  refine ⟨⟨by decide, fun _ => rfl⟩,
    ⟨by decide, by decide, fun _ _ impossible => (nomatch impossible), ?_⟩, trivial⟩
  intro revision state based
  -- The command is based on the only checkpoint.
  have unfinished : ∀ state ∈ (machine.after machine.initial [.start []]).checkpoints,
      state.eventSequence =
        (plainRequest gatedPlan).length (machine.after machine.initial [.start []]) ∧
        state.status = .waitingForApproval ∧ state.failed.entries = [] := by decide +kernel
  obtain ⟨whole, waiting, unfailed⟩ := unfinished state (Resumption.mem_of_base based)
  refine ⟨whole, by rw [waiting]; decide, ?_⟩
  rintro ⟨nodeId, rejected⟩
  have listed := get?_eq_some_iff.mp rejected
  rw [unfailed] at listed
  exact nomatch listed

/-- A rejected gate is asked for once more when its node is retried, and the second request is in
conflict with the first. -/
theorem retried_gate_asked_twice :
    let machine := nativeMachine tickingPorts (plainRequest gatedPlan)
    let world := machine.after machine.initial
      [.start [], .resume { command := plainCommand "m" "reject" "a" } []]
    let (outcome, after) :=
  machine.step world (.resume { command := plainCommand "n" "retry" "a" } [])
    outcome = .error (eventConflict "dedupe_key_payload_conflict") ∧
      after.repeats = [text "native:r:g:requested"] := by
  decide +kernel

end Ananta
