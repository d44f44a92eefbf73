import Ananta.Native.Calls
import Ananta.Native.Keys

/-! No two events of a Native run are emitted under one dedupe key, as long as no rejected gate is
asked for again. -/

namespace Ananta

open Finset NativeGraphRequest Call

def NativeGraphRequest.logKey (request : NativeGraphRequest) : LogKey :=
  (request.plan.tenantId, request.runId)

/-- The number of events of a run. -/
def NativeGraphRequest.length (request : NativeGraphRequest) (world : NativeWorld) : Int :=
  (world.events.log request.logKey).length

def NativeGraphRequest.HasKey (request : NativeGraphRequest) (world : NativeWorld)
    (key : Str) : Prop :=
  (world.events.dedupe.get? (request.logKey, key)).isSome

/-- What the run needs of its surroundings: identifiers that differ and are plain words, operations
that belong to one node, and records of side effects that belong to the run. -/
structure Distinguishing (ports : NativePorts) (request : NativeGraphRequest) : Prop where
  distinct : Function.Injective ports.uuid
  plain : ∀ drawn, IsWord (ports.uuid drawn)
  operations : ∀ {moment other node second token fencing operationId}, operationId ≠ [] →
    ports.authorizeSideEffect moment node token = .ok (.ok operationId) →
    ports.authorizeSideEffect other second fencing = .ok (.ok operationId) →
      node.nodeId = second.nodeId
  bound : ∀ {moment operationId record}, ports.ledger moment operationId = some record →
    record.operationId = operationId ∧ record.tenantId = request.plan.tenantId ∧
      record.runId = request.runId

variable {ports : NativePorts} {request : NativeGraphRequest}

/-- An operation was authorized for a node. -/
def IssuedFor (ports : NativePorts) (operationId nodeId : Str) : Prop :=
  ∃ moment node token, node.nodeId = nodeId ∧
    ports.authorizeSideEffect moment node token = .ok (.ok operationId)

lemma Distinguishing.isWord_attempt (apart : Distinguishing ports request) (drawn : Nat) :
    IsWord (attemptIdOf (ports.uuid drawn)) := by
  refine ⟨by simp [attemptIdOf, text], fun point member => ?_⟩
  rcases List.mem_append.mp member with lead | rest
  · have fine : IsWord "att-" := by decide +kernel
    exact fine.solid point lead
  · exact (apart.plain drawn).solid point rest

lemma Distinguishing.attempt_inj (apart : Distinguishing ports request) {one two : Nat}
    (same : attemptIdOf (ports.uuid one) = attemptIdOf (ports.uuid two)) : one = two :=
  apart.distinct (List.append_cancel_left same)

variable {world after : NativeWorld} {event stored : CanonicalWorkflowEvent}

/-- Filing an event under a key adds that key. -/
lemma hasKey_filed
    (filed : after.events = world.events.filed event stored) (own : event.logKey = request.logKey)
    (key : Str) :
    request.HasKey after key ↔ key = event.dedupeKey ∨ request.HasKey world key := by
  unfold HasKey
  rw [filed, InMemoryEventStore.filed, get?_set, own]
  by_cases same : key = event.dedupeKey
  · simp [same]
  · simp [same]

lemma length_filed (filed : after.events = world.events.filed event stored)
    (own : event.logKey = request.logKey) : request.length after = request.length world + 1 := by
  unfold length
  rw [filed, log_filed, if_pos own.symm, own]
  simp

/-- What is known apart from the state: the names of gates, the commands given so far, and how the
status and the failed nodes tell that the run was completed, or that a gate was rejected. -/
structure Watch where
  gates : Str → Prop
  used : List Str
  ended : RunStatus → Prop
  rejected : RunStatus → Dict Str Str → Prop

/-- How many identifiers were drawn, checkpoints saved and events filed. -/
structure Extent where
  drawn : Nat
  saved : Nat
  length : Int

def NativeWorld.extent (world : NativeWorld) (request : NativeGraphRequest) : Extent :=
  ⟨world.drawn, world.checkpoints.length, request.length world⟩

structure Extent.Within (extent wider : Extent) : Prop where
  drawn : extent.drawn ≤ wider.drawn
  saved : extent.saved ≤ wider.saved
  length : extent.length ≤ wider.length

/-- One more event was filed, and possibly more happened since. -/
def NativeWorld.Behind (world : NativeWorld) (request : NativeGraphRequest)
    (wider : Extent) : Prop :=
  Extent.Within ⟨world.drawn, world.checkpoints.length, request.length world + 1⟩ wider

section

variable (ports) (watch : Watch)

/-- What the state tells about the keys under which the run may have emitted an event. -/
def Known (state : NativeRunState) (extent : Extent) : EmissionKey → Prop
  | .started => True
  | .completed => watch.ended state.status
  | .failed sequence => 0 ≤ sequence ∧ sequence ≤ extent.length
  | .checkpoint revision => 0 ≤ revision ∧ revision ≤ extent.saved
  | .attempt event _ attemptId =>
      (∃ drawn < extent.drawn, attemptId = attemptIdOf (ports.uuid drawn)) ∧
      (event ≠ .delegated → ∀ nodeId task, state.running.get? nodeId = some task →
        task.attemptId ≠ attemptId)
  | .node .routeSkipped nodeId => nodeId ∈ state.skipped
  | .node .merged nodeId | .node .checkpointNode nodeId => nodeId ∈ state.completed
  | .gate _ gateId => watch.gates gateId ∧
      (gateId ∈ state.approvedGates ∨ state.openGates.get? gateId ≠ none ∨
        watch.rejected state.status state.failed)
  | .command _ commandId => commandId ∈ watch.used ∧ ¬ watch.gates commandId ∧
      colonPoint ∉ commandId

def Explained (request : NativeGraphRequest) (state : NativeRunState) (extent : Extent)
    (key : Str) : Prop :=
  (∃ emitted, key = EmissionKey.render request.runId emitted ∧
    Known ports watch state extent emitted) ∨
    ∃ operationId revision, key = sideEffectKey operationId revision ∧ operationId ≠ [] ∧
      ∃ nodeId ∈ state.completed, IssuedFor ports operationId nodeId

structure TasksApart (state : NativeRunState) (drawn : Nat) : Prop where
  named : ∀ nodeId task, state.running.get? nodeId = some task →
    ∃ earlier < drawn, task.attemptId = attemptIdOf (ports.uuid earlier)
  pending : ∀ nodeId, state.running.get? nodeId ≠ none → nodeId ∉ state.completed
  issued : ∀ nodeId task, state.running.get? nodeId = some task →
    task.operationId = [] ∨ IssuedFor ports task.operationId nodeId
  apart : ∀ one two first second, state.running.get? one = some first →
    state.running.get? two = some second →
    first.attemptId = second.attemptId → one = two

structure NamesKept (request : NativeGraphRequest) (plan : ExecutionPlan) : Prop where
  distinct : plan.nodeIds.Nodup
  tenant : plan.tenantId = request.plan.tenantId
  gated : ∀ node ∈ plan.nodes, node.gateId ≠ [] → watch.gates node.gateId

/-- The state knows of every event of the run. -/
structure Tracked (request : NativeGraphRequest) (plan : ExecutionPlan)
    (world : NativeWorld) : Prop where
  effective : world.state.effectivePlan = plan
  names : NamesKept watch request plan
  tasks : TasksApart ports world.state world.drawn
  sequence : world.state.eventSequence = request.length world
  traced : ∀ key, request.HasKey world key →
    Explained ports watch request world.state (world.extent request) key

/-- A change of the state after which the same keys are known. -/
structure Carries (next : Watch) (drawn : Nat) (state after : NativeRunState) : Prop where
  skipped : state.skipped ⊆ after.skipped
  completed : state.completed ⊆ after.completed
  approved : ∀ gateId, gateId ∈ state.approvedGates ∨ state.openGates.get? gateId ≠ none ∨
      watch.rejected state.status state.failed →
    gateId ∈ after.approvedGates ∨ after.openGates.get? gateId ≠ none ∨
      next.rejected after.status after.failed
  running : ∀ nodeId task, after.running.get? nodeId = some task →
    state.running.get? nodeId = some task ∨
    ∀ earlier < drawn, task.attemptId ≠ attemptIdOf (ports.uuid earlier)
  used : watch.used ⊆ next.used
  gates : next.gates = watch.gates
  ended : watch.ended state.status → next.ended after.status

end

variable {plan : ExecutionPlan} {watch next : Watch} {state other : NativeRunState}
  {extent wider : Extent} {key : EmissionKey} {base : NativeWorld}

/-- A known key stays known through a change, while the world goes on. -/
lemma Known.carry (known : Known ports watch state extent key)
    (carries : Carries ports watch next extent.drawn state other) (within : extent.Within wider) :
    Known ports next other wider key := by
  rcases key with _ | _ | _ | _ | ⟨event, nodeId, attemptId⟩ | ⟨_ | _ | _, nodeId⟩ | ⟨_,
    gateId⟩ | ⟨_, commandId⟩
  · trivial
  · exact carries.ended known
  · exact ⟨known.1, known.2.trans within.length⟩
  · exact ⟨known.1, known.2.trans (by exact_mod_cast within.saved)⟩
  · obtain ⟨⟨earlier, before, named⟩, idle⟩ := known
    refine ⟨⟨earlier, before.trans_le within.drawn, named⟩, fun differs other task runs => ?_⟩
    rcases carries.running other task runs with old | new
    · exact idle differs other task old
    · rw [named]
      exact new earlier before
  · exact carries.skipped known
  · exact carries.completed known
  · exact carries.completed known
  · exact ⟨by rw [carries.gates]; exact known.1, carries.approved gateId known.2⟩
  · exact ⟨carries.used known.1, by rw [carries.gates]; exact known.2⟩

variable {name : Str} {drawn : Nat} {successor : ExecutionPlan}

lemma Explained.carry (explained : Explained ports watch request state extent name)
    (carries : Carries ports watch next extent.drawn state other) (within : extent.Within wider) :
    Explained ports next request other wider name := by
  rcases explained with ⟨emitted, rfl, known⟩ | ⟨operationId, revision, rfl, named, nodeId, done,
    issued⟩
  · exact .inl ⟨emitted, rfl, known.carry carries within⟩
  · exact .inr ⟨operationId, revision, rfl, named, nodeId, carries.completed done, issued⟩

lemma Carries.refl (watch : Watch) (drawn : Nat) (state : NativeRunState) :
    Carries ports watch watch drawn state state :=
  ⟨subset_rfl, subset_rfl, fun _ => id, fun _ _ runs => .inl runs, fun _ => id, rfl, id⟩

lemma TasksApart.mono {later : Nat} (tasks : TasksApart ports state drawn) (more : drawn ≤ later) :
    TasksApart ports state later :=
  { tasks with
    named := fun nodeId task runs => by
      obtain ⟨earlier, before, named⟩ := tasks.named nodeId task runs
      exact ⟨earlier, before.trans_le more, named⟩ }

lemma TasksApart.fewer (tasks : TasksApart ports state drawn)
    (fewer : ∀ nodeId task, other.running.get? nodeId = some task →
      state.running.get? nodeId = some task) (pending : ∀ nodeId, other.running.get? nodeId ≠ none →
        nodeId ∉ other.completed) :
    TasksApart ports other drawn :=
  ⟨fun nodeId task runs => tasks.named nodeId task (fewer nodeId task runs), pending,
    fun nodeId task runs => tasks.issued nodeId task (fewer nodeId task runs),
    fun one two first second runs also => tasks.apart one two first second (fewer _ _ runs)
      (fewer _ _ also)⟩

/-- Using up readings and identifiers keeps the events of the run explained. -/
lemma Tracked.quiet (tracked : Tracked ports watch request plan world) (quiet : Quiet world after) :
    Tracked ports watch request plan after := by
  have same : request.length after = request.length world := by
    unfold length
    rw [quiet.events]
  refine ⟨by rw [quiet.state]; exact tracked.effective, tracked.names, ?_, ?_, fun key has => ?_⟩
  · rw [quiet.state]
    exact tracked.tasks.mono quiet.drawn
  · rw [quiet.state, same]
    exact tracked.sequence
  · have had : request.HasKey world key := by rwa [HasKey, quiet.events] at has
    rw [quiet.state]
    exact (tracked.traced key had).carry (.refl watch _ _)
      ⟨quiet.drawn, (congrArg List.length quiet.checkpoints.symm).le, same.symm.le⟩

variable (ports watch state extent) in
/-- A key under which no event can be known to have been emitted. -/
def Fresh (key : EmissionKey) : Prop :=
  ∀ emitted, Known ports watch state extent emitted → ¬ emitted.Collides key

lemma Tracked.unused (tracked : Tracked ports watch request plan world)
    (fresh : Fresh ports watch world.state (world.extent request) key) :
    ¬ request.HasKey world (key.render request.runId) := by
  intro has
  rcases tracked.traced _ has with ⟨emitted, same, known⟩ | ⟨operationId, revision, same, _⟩
  · exact fresh emitted known (EmissionKey.collides_of_render same.symm)
  · exact sideEffectKey_ne_render _ _ _ _ same.symm

/-- What an earlier point of a call and a later one have in common. -/
structure Since (request : NativeGraphRequest) (base world : NativeWorld) : Prop where
  repeats : world.repeats = []
  saved : world.checkpoints = base.checkpoints
  log : world.events = base.events ∨ request.length base < request.length world
  drawn : base.drawn ≤ world.drawn

lemma Since.quiet (since : Since request base world) (quiet : Quiet world after) :
    Since request base after := by
  refine ⟨by rw [quiet.repeats, since.repeats], by rw [quiet.checkpoints, since.saved], ?_,
    since.drawn.trans quiet.drawn⟩
  rw [length, length, quiet.events]
  exact since.log

inductive OfferedNew (request : NativeGraphRequest) (world : NativeWorld)
    (event : CanonicalWorkflowEvent) : Except Fault Unit → NativeWorld → Prop where
  | refused {fault : Fault} {after : NativeWorld} (quiet : Quiet world after) :
      OfferedNew request world event (.error fault) after
  | filed {stored : CanonicalWorkflowEvent} {after : NativeWorld}
      (admits : Admits world.events event world.state.eventSequence stored)
      (quiet : Quiet { world.sequenced stored.sequence with
        events := world.events.filed event stored } after) :
      OfferedNew request world event (.ok ()) after

variable {outcome : Except Fault Unit} {emission : Emission}

lemma OfferEffect.new (effect : OfferEffect world event outcome after)
    (own : event.logKey = request.logKey) (unused : ¬ request.HasKey world event.dedupeKey) :
    OfferedNew request world event outcome after := by
  cases effect with
  | refused quiet => exact .refused quiet
  | repeated known _ => exact absurd (by rwa [HasKey, ← own]) unused
  | filed admits quiet => exact .filed admits quiet

/-- A state that is led to from an earlier point of a call, since which nothing was filed or saved:
it runs a plan, tells its tasks apart, and knows what was known before. -/
structure Leads (ports : NativePorts) (watch next : Watch) (request : NativeGraphRequest)
    (plan : ExecutionPlan) (origin world : NativeWorld) (state : NativeRunState) : Prop where
  events : world.events = origin.events
  saved : world.checkpoints = origin.checkpoints
  drawn : origin.drawn ≤ world.drawn
  effective : state.effectivePlan = plan
  names : NamesKept next request plan
  tasks : TasksApart ports state world.drawn
  sequence : state.eventSequence = origin.state.eventSequence
  carries : Carries ports watch next origin.drawn origin.state state

lemma length_congr (same : after.events = world.events) :
    request.length after = request.length world := by
  unfold length
  rw [same]

variable {origin : NativeWorld}

/-- A change that no event tells. -/
lemma Tracked.changed (tracked : Tracked ports watch request plan origin)
    (leads : Leads ports watch next request successor origin world state) :
    Tracked ports next request successor { world with state } := by
  have same : request.length { world with state } = request.length origin :=
    length_congr leads.events
  refine { leads with
    sequence := by rw [leads.sequence, tracked.sequence, same], traced := fun key has => ?_ }
  have had : request.HasKey origin key := by rwa [HasKey, ← leads.events]
  exact (tracked.traced key had).carry leads.carries
    ⟨leads.drawn, (congrArg List.length leads.saved.symm).le, same.symm.le⟩

/-- An event under a new key lengthens the log, or was refused. -/
lemma OfferedNew.since (effect : OfferedNew request world event outcome after)
    (own : event.logKey = request.logKey) (since : Since request base world) :
    Since request base after ∧
      (outcome = .ok () → request.length after = request.length world + 1) := by
  cases effect with
  | refused quiet => exact ⟨since.quiet quiet, nofun⟩
  | @filed stored _ admits quiet =>
    have longer := @length_filed request world after event stored quiet.events own
    refine ⟨⟨quiet.repeats.trans since.repeats, quiet.checkpoints.trans since.saved, .inr ?_,
      since.drawn.trans quiet.drawn⟩, fun _ => longer⟩
    rcases since.log with same | less
    · have equal : request.length world = request.length base := length_congr same
      omega
    · omega

/-- An event under a new key that the state explains. -/
lemma OfferedNew.tracked
    (effect : OfferedNew request world event outcome after)
    (tracked : Tracked ports watch request plan world) (own : event.logKey = request.logKey)
    (explained : ∀ wider, world.Behind request wider →
      Explained ports watch request world.state wider event.dedupeKey)
    (since : Since request base world) :
    Kept (fun after => Tracked ports watch request plan after ∧ Since request base after)
      (Since request base) outcome after := by
  have grown := effect.since own since
  cases effect with
  | refused quiet => exact grown.1
  | @filed stored _ admits quiet =>
    -- The world just behind the event, before anything else is used up.
    let filed : NativeWorld :=
      { world.sequenced stored.sequence with events := world.events.filed event stored }
    have longer := @length_filed request world filed event stored rfl own
    have number : stored.sequence = request.length world + 1 := by
      rw [admits.parsed, own]
      rfl
    have kept : Tracked ports watch request plan filed := by
      refine ⟨tracked.effective, tracked.names, { tracked.tasks with }, number.trans longer.symm,
        fun key has => ?_⟩
      rcases (@hasKey_filed request world filed event stored rfl own key).mp has with rfl | old
      · exact explained (filed.extent request) ⟨le_rfl, le_rfl, longer.symm.le⟩
      · have onward : Carries ports watch watch world.drawn world.state filed.state :=
          { Carries.refl watch world.drawn world.state with }
        exact Explained.carry (tracked.traced key old) onward
          ⟨le_rfl, le_rfl, by show request.length world ≤ request.length filed; omega⟩
    exact ⟨kept.quiet quiet, grown.1⟩

lemma logKey_offered (tenant : plan.tenantId = request.plan.tenantId) :
    (world.offered ports request plan emission).logKey = request.logKey := by
  show (plan.tenantId, request.runId) = _
  rw [tenant]
  rfl

lemma dedupeKey_offered :
    (world.offered ports request plan emission).dedupeKey = emission.key.render request.runId :=
  EmissionKey.strip_render _ _

/-- A key that was not used before is not used by an emission under another one. -/
lemma OfferEffect.unused
    (effect : OfferEffect world (origin.offered ports request plan emission) outcome after)
    (tenant : plan.tenantId = request.plan.tenantId) (unused : ¬ request.HasKey world name)
    (differs : name ≠ emission.key.render request.runId) : ¬ request.HasKey after name := by
  cases effect with
  | refused quiet => rwa [HasKey, quiet.events]
  | repeated _ quiet => rwa [HasKey, quiet.events]
  | filed _ quiet =>
    rw [hasKey_filed quiet.events (logKey_offered tenant), dedupeKey_offered]
    exact not_or.mpr ⟨differs, unused⟩

/-- An announcement under a new key that the next state knows of. -/
lemma announce_tracked {update : NativeRunState → NativeRunState}
    (tracked : Tracked ports watch request plan origin) (since : Since request base world)
    (unused : ¬ request.HasKey world (emission.key.render request.runId))
    (leads : Leads ports watch next request successor origin world (update world.state))
    (known : ∀ wider, world.Behind request wider →
      Known ports next (update world.state) wider emission.key) :
    Ensures (announce ports request successor update emission) world
      (Kept (fun after => Tracked ports next request successor after ∧ Since request base after)
        (Since request base)) :=
  (announce_effect update emission).mono fun outcome after effect => by
    have own := @logKey_offered ports request world successor emission leads.names.tenant
    refine (effect.new own ?_).tracked (tracked.changed leads) own (fun wider behind => ?_)
      { since with }
    · rwa [dedupeKey_offered]
    · rw [dedupeKey_offered]
      exact .inl ⟨_, rfl, known wider behind⟩

/-- A failure under the number of the next event is new. -/
lemma fresh_failed {sequence : Int} (beyond : extent.length < sequence)
    (nonneg : 0 ≤ extent.length) : Fresh ports watch state extent (.failed sequence) := by
  intro emitted known collides
  cases collides with
  | same => exact absurd known.2 (not_le.mpr beyond)
  | failures digits =>
    have equal := decimal_inj known.1 (nonneg.trans beyond.le) digits
    exact absurd known.2 (by omega)

/-- The checkpoint after the saved ones is new. -/
lemma fresh_checkpoint {revision : Int} (beyond : (extent.saved : Int) < revision) :
    Fresh ports watch state extent (.checkpoint revision) := by
  intro emitted known collides
  cases collides with
  | same => exact absurd known.2 (not_le.mpr beyond)
  | checkpoints digits =>
    have equal := decimal_inj known.1 (by omega) digits
    exact absurd known.2 (by omega)

variable {nodeId : Str}

/-- An event of an attempt that is not known of any node is new. -/
lemma fresh_attempt (apart : Distinguishing ports request) {event : AttemptEvent} {attemptId : Str}
    (word : IsWord attemptId)
    (new : ∀ other, ¬ Known ports watch state extent (.attempt event other attemptId)) :
    Fresh ports watch state extent (.attempt event nodeId attemptId) := by
  intro emitted known collides
  cases collides with
  | same => exact new _ known
  | @attempts _ other _ one _ joined =>
    -- The names of attempts have no colon, so that they stand behind the last one.
    obtain ⟨drawn, _, named⟩ := known.1
    have plain : IsWord one := by
      rw [named]
      exact apart.isWord_attempt drawn
    have equal : one = attemptId := by
      refine (@eq_of_last_colon other nodeId one attemptId plain word ?_).2
      simpa [text, colonPoint] using joined
    rw [equal] at known
    exact new _ known
  | retryOf => exact known.2.2 (by simp [text, colonPoint])

lemma fresh_node {event : NodeEvent} (new : ¬ Known ports watch state extent (.node event nodeId)) :
    Fresh ports watch state extent (.node event nodeId) := by
  intro emitted known collides
  cases collides with
  | same => exact new known

lemma fresh_gate {event : GateEvent} {gateId : Str} (named : watch.gates gateId)
    (new : ¬ Known ports watch state extent (.gate event gateId)) :
    Fresh ports watch state extent (.gate event gateId) := by
  intro emitted known collides
  cases collides with
  | same => exact new known
  | pauseOf => exact known.2.1 named

/-- An event of a command that was not given before is new. -/
lemma fresh_command {event : CommandEvent} {commandId : Str} (unnamed : ¬ watch.gates commandId)
    (plain : colonPoint ∉ commandId) (new : commandId ∉ watch.used) :
    Fresh ports watch state extent (.command event commandId) := by
  intro emitted known collides
  cases collides with
  | same => exact new known.1
  | ofRetry => exact plain (by simp [text, colonPoint])
  | ofPause => exact unnamed known.1

lemma fresh_completed (new : ¬ watch.ended state.status) :
    Fresh ports watch state extent .completed := by
  intro emitted known collides
  cases collides with
  | same => exact new known

variable {gates : Str → Prop} {used : List Str}

/-- While a plan is run, it was not completed, and no gate was rejected. -/
def Watch.live (gates : Str → Prop) (used : List Str) : Watch :=
  ⟨gates, used, fun _ => False, fun _ _ => False⟩

def Watch.behind (gates : Str → Prop) (used : List Str) : Watch :=
  ⟨gates, used, (· = .completed), fun _ _ => False⟩

/-- What a tick keeps: the state knows of every event, and none was repeated. -/
def Keeping (ports : NativePorts) (watch : Watch) (request : NativeGraphRequest)
    (plan : ExecutionPlan) (base world : NativeWorld) : Prop :=
  Tracked ports watch request plan world ∧ Since request base world

variable {node : ExecutionNode} {task : RunningTask} {result : NativeNodeResult}

/-- A change of what the keys do not depend on. -/
lemma Keeping.elsewhere (keeping : Keeping ports watch request plan base world)
    (same : (after.state, after.events, after.drawn, after.checkpoints, after.repeats) =
      (world.state, world.events, world.drawn, world.checkpoints, world.repeats)) :
    Keeping ports watch request plan base after := by
  obtain ⟨⟨effective, names, tasks, sequence, traced⟩, repeats, saved, log, drawn⟩ := keeping
  obtain ⟨_, _, _, _, _, _, _, _, _, _⟩ := after
  obtain ⟨rfl, rfl, rfl, rfl, rfl⟩ := same
  exact ⟨⟨effective, names, tasks, sequence, traced⟩, repeats, saved, log, drawn⟩

/-- What is known of gates, commands and the end of a run is passed on. -/
structure PassedOn (watch next : Watch) (state after : NativeRunState) : Prop where
  gates : next.gates = watch.gates
  used : watch.used ⊆ next.used
  ended : watch.ended state.status → next.ended after.status
  rejected : watch.rejected state.status state.failed → next.rejected after.status after.failed

lemma passedOn_live (state after : NativeRunState) :
    PassedOn (.live gates used) (.live gates used) state after :=
  ⟨rfl, fun _ => id, id, id⟩

/-- A change of the state that takes nothing back. -/
lemma Tracked.onwardTo (tracked : Tracked ports watch request plan world)
    (passed : PassedOn watch next world.state state)
    (same : (state.effectivePlan, state.eventSequence) =
      (world.state.effectivePlan, world.state.eventSequence))
    (skipped : world.state.skipped ⊆ state.skipped)
    (completed : world.state.completed ⊆ state.completed)
    (answered : ∀ gateId, gateId ∈ world.state.approvedGates ∨
      world.state.openGates.get? gateId ≠ none →
      gateId ∈ state.approvedGates ∨ state.openGates.get? gateId ≠ none ∨
      next.rejected state.status state.failed)
    (fewer : ∀ nodeId task, state.running.get? nodeId = some task →
      world.state.running.get? nodeId = some task)
    (pending : ∀ nodeId, state.running.get? nodeId ≠ none → nodeId ∉ state.completed) :
    Leads ports watch next request plan world world state := by
  simp only [Prod.mk.injEq] at same
  refine ⟨rfl, rfl, le_rfl, same.1.trans tracked.effective,
    { tracked.names with gated := by rw [passed.gates]; exact tracked.names.gated },
    tracked.tasks.fewer fewer pending, same.2,
    ⟨skipped, completed, fun gateId fact => ?_, fun nodeId task runs =>
      .inl (fewer nodeId task runs), passed.used, passed.gates, passed.ended⟩⟩
  rcases fact with approved | opened | rejected
  · exact answered gateId (.inl approved)
  · exact answered gateId (.inr opened)
  · exact .inr (.inr (passed.rejected rejected))

/-- A change that leaves all nodes where they are. -/
lemma Tracked.stillTo (tracked : Tracked ports watch request plan world)
    (passed : PassedOn watch next world.state state)
    (same : (state.effectivePlan, state.eventSequence, state.approvedGates, state.skipped,
      state.completed, state.openGates, state.running) =
      (world.state.effectivePlan, world.state.eventSequence, world.state.approvedGates,
        world.state.skipped, world.state.completed, world.state.openGates, world.state.running)) :
    Leads ports watch next request plan world world state := by
  simp only [Prod.mk.injEq] at same
  obtain ⟨effective, sequence, approved, skipped, completed, opened, running⟩ := same
  refine tracked.onwardTo passed (by rw [effective, sequence]) (by rw [skipped]) (by rw [completed])
    (by rw [approved, opened]; exact fun _ fact => fact.imp_right .inl)
    (by rw [running]; exact fun _ _ => id) ?_
  rw [running, completed]
  exact tracked.tasks.pending

/-- A node that is done with or fails stops running. -/
lemma Tracked.released (tracked : Tracked ports (.live gates used) request plan world)
    (nodeId : Str) (same :
      (state.effectivePlan, state.eventSequence, state.approvedGates, state.skipped,
        state.openGates, state.running) =
      (world.state.effectivePlan, world.state.eventSequence, world.state.approvedGates,
        world.state.skipped, world.state.openGates, world.state.running.erase nodeId))
    (completed : state.completed = world.state.completed ∨
      state.completed = insert nodeId world.state.completed) :
    Leads ports (.live gates used) (.live gates used) request plan world world state := by
  simp only [Prod.mk.injEq] at same
  obtain ⟨effective, sequence, approved, skipped, opened, running⟩ := same
  refine tracked.onwardTo (passedOn_live _ _) (by rw [effective, sequence]) (by rw [skipped]) ?_
    (by rw [approved, opened]; exact fun _ fact => fact.imp_right .inl) ?_ ?_
  · grind
  · simp_all
  · rw [running]
    intro other runs
    rw [get?_erase] at runs
    split at runs
    · exact absurd rfl runs
    · have pending := tracked.tasks.pending other runs
      grind

/-- Handing a node out under an attempt that was drawn since. -/
lemma Tracked.delegated (apart : Distinguishing ports request) {earlier : NativeWorld}
    (tracked : Tracked ports (.live gates used) request plan earlier)
    (kept : Tracked ports (.live gates used) request plan world)
    (free : Dispatchable plan world.state node)
    (state : world.state = earlier.state.attempted node.nodeId)
    (events : world.events = earlier.events) (saved : world.checkpoints = earlier.checkpoints)
    (drawn : earlier.drawn < world.drawn)
    (named : task.attemptId = attemptIdOf (ports.uuid earlier.drawn))
    (issued : task.operationId = [] ∨ IssuedFor ports task.operationId node.nodeId) :
    Leads ports (.live gates used) (.live gates used) request plan earlier world
      (world.state.delegated node.nodeId task) := by
  have running : world.state.running = earlier.state.running := by rw [state]; rfl
  have old : ∀ nodeId other, earlier.state.running.get? nodeId = some other →
      task.attemptId ≠ other.attemptId := by
    intro nodeId other runs same
    obtain ⟨before, less, name⟩ := tracked.tasks.named nodeId other runs
    rw [named, name] at same
    exact absurd (apart.attempt_inj same) (by omega)
  -- Every running task is the new one, or ran before.
  have split : ∀ nodeId other, (world.state.delegated node.nodeId task).running.get? nodeId =
      some other →
      nodeId = node.nodeId ∧ other = task ∨ nodeId ≠ node.nodeId ∧
        earlier.state.running.get? nodeId = some other := by
    intro nodeId other runs
    change (world.state.running.set node.nodeId task).get? nodeId = some other at runs
    rw [get?_set, running] at runs
    split at runs
    · rename_i same
      exact .inl ⟨same, (Option.some.inj runs).symm⟩
    · rename_i differs
      exact .inr ⟨differs, runs⟩
  refine ⟨events, saved, drawn.le, kept.effective, tracked.names, ⟨?_, ?_, ?_, ?_⟩,
    by rw [state]; rfl, ⟨by rw [state]; exact subset_rfl, by rw [state]; exact subset_rfl,
      by rw [state]; exact fun _ => id, ?_, fun _ => id, rfl, id⟩⟩
  · intro nodeId other runs
    rcases split nodeId other runs with ⟨_, rfl⟩ | ⟨_, before⟩
    · exact ⟨earlier.drawn, drawn, named⟩
    · obtain ⟨first, less, name⟩ := tracked.tasks.named nodeId other before
      exact ⟨first, less.trans drawn, name⟩
  · intro nodeId runs
    obtain ⟨other, found⟩ := Option.ne_none_iff_exists'.mp runs
    rcases split nodeId other found with ⟨rfl, _⟩ | ⟨_, before⟩
    · have pending := free.pending
      simp only [NativeRunState.terminal, mem_union, not_or] at pending
      exact pending.1.1
    · have pending := tracked.tasks.pending nodeId (by simp [before])
      rwa [state]
  · intro nodeId other runs
    rcases split nodeId other runs with ⟨rfl, rfl⟩ | ⟨_, before⟩
    · exact issued
    · exact tracked.tasks.issued nodeId other before
  · intro one two first second runs also same
    rcases split one first runs with ⟨rfl, rfl⟩ | ⟨_, before⟩ <;>
      rcases split two second also with ⟨rfl, rfl⟩ | ⟨_, other⟩
    · rfl
    · exact absurd same (old two second other)
    · exact absurd same.symm (old one first before)
    · exact tracked.tasks.apart one two first second before other same
  · intro nodeId other runs
    rcases split nodeId other runs with ⟨_, rfl⟩ | ⟨_, before⟩
    · refine .inr fun index less same => ?_
      rw [named] at same
      exact absurd (apart.attempt_inj same) (by omega)
    · exact .inl before

variable {operationId : Str} {update : NativeRunState → NativeRunState}

lemma Keeping.changed (keeping : Keeping ports watch request plan base world)
    (leads : Leads ports watch next request successor world world state) :
    Keeping ports next request successor base { world with state } :=
  ⟨keeping.1.changed leads, keeping.2.repeats, keeping.2.saved, keeping.2.log, keeping.2.drawn⟩

lemma length_nonneg : 0 ≤ request.length world := Int.natCast_nonneg _

lemma Leads.settled
    (leads : Leads ports (.live gates used) (.live gates used) request plan origin world state) :
    Leads ports (.live gates used) (.behind gates used) request plan origin world state := by
  obtain ⟨events, saved, drawn, effective, names, tasks, sequence, carries⟩ := leads
  exact ⟨events, saved, drawn, effective, { names with }, tasks, sequence,
    { carries with ended := fun impossible => impossible.elim }⟩

/-- The operation of a node that is not completed has no event yet. -/
lemma Tracked.unissued (apart : Distinguishing ports request)
    (tracked : Tracked ports watch request plan world) {revision : Int}
    (pending : nodeId ∉ world.state.completed) (issued : IssuedFor ports operationId nodeId)
    (named : operationId ≠ []) (has : request.HasKey world (sideEffectKey operationId revision)) :
    False := by
  rcases tracked.traced _ has with ⟨emitted, same, _⟩ | ⟨other, _, same, _, done, completed, second⟩
  · exact sideEffectKey_ne_render _ _ _ _ same
  · obtain rfl := operation_of_sideEffectKey same
    obtain ⟨_, _, _, rfl, first⟩ := issued
    obtain ⟨_, _, _, rfl, second⟩ := second
    exact pending (by rwa [apart.operations named first second])

/-- A run that fails does so under the number of the next event. -/
lemma Keeping.fail (keeping : Keeping ports watch request plan base world) {reason : Str}
    (passed : PassedOn watch next world.state (world.state.broken reason))
    (key : emission.key = .failed (world.state.eventSequence + 1)) :
    Ensures (Ananta.announce ports request plan (·.broken reason) emission) world
      (Kept (Keeping ports next request plan base) (Since request base)) := by
  have number := keeping.1.sequence
  have nonneg := @length_nonneg request world
  refine announce_tracked keeping.1 keeping.2 (keeping.1.unused ?_) (keeping.1.stillTo passed rfl)
    fun wider behind => ?_
  · rw [key, number]
    exact fresh_failed (Int.lt_succ _) nonneg
  · rw [key, number]
    exact ⟨by omega, behind.length⟩

section

variable (keeping : Keeping ports (.live gates used) request plan base world)
include keeping

/-- An emission that leaves all nodes where they are. -/
lemma Keeping.announce
    (fresh : Fresh ports (.live gates used) world.state (world.extent request) emission.key)
    (leads : Leads ports (.live gates used)
      (.live gates used) request plan world world (update world.state))
    (known : ∀ wider, world.Behind request wider →
      Known ports (.live gates used) (update world.state) wider emission.key) :
    Ensures (announce ports request plan update emission) world
      (Kept (Keeping ports (.live gates used) request plan base) (Since request base)) :=
  announce_tracked keeping.1 keeping.2 (keeping.1.unused fresh) leads known

/-- A node that is completed without an attempt. -/
lemma Keeping.finish
    (free : Dispatchable plan world.state node) {event : NodeEvent}
    (completes : event ≠ .routeSkipped) {value : Value} {references : List (Str × Str)}
    (key : emission.key = .node event node.nodeId) :
    Ensures (Ananta.announce ports request plan (·.finished node.nodeId value references) emission)
      world (Kept (Keeping ports (.live gates used) request plan base) (Since request base)) := by
  have pending := free.pending
  simp only [NativeRunState.terminal, mem_union, not_or] at pending
  refine keeping.announce ?_ (keeping.1.released _ rfl (.inr rfl)) fun wider _ => ?_
  · rw [key]
    refine fresh_node fun known => ?_
    cases event with
    | routeSkipped => exact completes rfl
    | merged | checkpointNode => exact pending.1.1 known
  · rw [key]
    cases event with
    | routeSkipped => exact absurd rfl completes
    | merged | checkpointNode => exact mem_insert_self _ _

lemma Keeping.settled : Keeping ports (.behind gates used) request plan base world :=
  keeping.changed (keeping.1.stillTo (passedOn_live _ _) rfl).settled

variable (apart : Distinguishing ports request)
include apart

/-- An event about the side effect of a node that was just completed. -/
lemma emitSideEffect_tracked
    (unused : operationId ≠ [] →
      ∀ revision, ¬ request.HasKey world (sideEffectKey operationId revision))
    (done : nodeId ∈ world.state.completed)
    (issued : operationId = [] ∨ IssuedFor ports operationId nodeId) :
    Ensures (emitSideEffectIfPresent ports request result operationId) world
      (Kept (Keeping ports (.live gates used) request plan base) (Since request base)) := by
  apply ensures_read
  split
  · exact keeping
  rename_i named
  split
  · exact keeping.2
  rename_i record found
  obtain ⟨operation, tenant, run⟩ := apart.bound found
  refine ensures_guard (fun _ => keeping.2) fun _ => ?_
  refine ensures_evaluate (fun _ _ => keeping.2) fun _ _ => ?_
  refine (offer_effect _).mono fun outcome after effect => ?_
  have own : (sideEffectEvent request record result).logKey = request.logKey := by
    show (record.tenantId, record.runId) = _
    rw [tenant, run]
    rfl
  have key : (sideEffectEvent request record result).dedupeKey =
      sideEffectKey operationId record.revision := by
    rw [← operation]
    exact strip_sideEffectKey _ _
  refine (effect.new own ?_).tracked keeping.1 own (fun wider _ => ?_) keeping.2
  · rw [key]
    exact unused named record.revision
  · rw [key]
    exact .inr ⟨operationId, record.revision, rfl, named, nodeId, done, issued.resolve_left named⟩

/-- The attempt of a result that is taken. -/
lemma Keeping.attempt (returned :
    Returned plan request world.state result task node) :
    task.attemptId = result.attemptId ∧
    (∃ drawn < world.drawn, result.attemptId = attemptIdOf (ports.uuid drawn)) ∧
      IsWord result.attemptId := by
  have same : result.attemptId = task.attemptId := by
    have bound := returned.bound
    simp only [assertResultBinding, ok_iff, not_or, not_not] at bound
    obtain ⟨_, _, _, _, _, _, _, attempt, _⟩ := bound
    exact attempt
  obtain ⟨drawn, less, named⟩ := keeping.1.tasks.named _ _ returned.running
  rw [same]
  refine ⟨rfl, ⟨drawn, less, named⟩, ?_⟩
  rw [named]
  exact apart.isWord_attempt drawn

/-- An event that ends a running attempt. -/
lemma Keeping.endAttempt (returned :
    Returned plan request world.state result task node) {event : AttemptEvent}
    (ends : event ≠ .delegated) (key : emission.key = .attempt event result.nodeId result.attemptId)
    (leads : Leads ports (.live gates used)
      (.live gates used) request plan world world (update world.state))
    (erased : (update world.state).running = world.state.running.erase result.nodeId) :
    Ensures (Ananta.announce ports request plan update emission) world
      (Kept (Keeping ports (.live gates used) request plan base) (Since request base)) := by
  obtain ⟨same, ⟨drawn, less, named⟩, word⟩ := keeping.attempt apart returned
  refine keeping.announce ?_ leads fun wider more => ?_
  · rw [key]
    exact fresh_attempt apart word fun _ known => known.2 ends _ _ returned.running same
  · rw [key]
    refine ⟨⟨drawn, less.trans_le more.drawn, named⟩, fun _ other second runs equal => ?_⟩
    -- Another running task has another attempt.
    rw [erased, get?_erase] at runs
    split at runs
    · cases runs
    · rename_i differs
      exact differs (keeping.1.tasks.apart _ _ _ _ runs returned.running (equal.trans same.symm))

end

/-- Every change of a tick emits under a new key. -/
lemma tickRules_fresh (apart : Distinguishing ports request) :
    TickRules ports request plan (Keeping ports (.live gates used) request plan base)
      (Keeping ports (.live gates used) request plan base)
      (Keeping ports (.behind gates used) request plan base)
      (Since request base) where
  raised holds := holds.2
  quiet holds quiet := ⟨holds.1.quiet quiet, holds.2.quiet quiet⟩
  abandon _ holds _ := holds.elsewhere rfl
  emptied holds := holds.changed (holds.1.onwardTo (passedOn_live _ _) rfl subset_rfl subset_rfl
    (fun _ fact => fact.imp_right .inl) (by rintro _ _ ⟨⟩) fun _ runs => absurd rfl runs)
  broken _ _ holds key := holds.fail (passedOn_live _ _) key
  doom holds := holds
  settle holds := holds.settled
  calm holds quiet := ⟨holds.1.quiet quiet, holds.2.quiet quiet⟩
  own _ holds _ := holds.elsewhere rfl
  claim {_ world node _ outcome _} _ _ _ _ _ _ holds _ := by
    have attempted : Keeping ports (.live gates used) request plan base
        { world with state := world.state.attempted node.nodeId } :=
          holds.changed (holds.1.stillTo (passedOn_live _ _) rfl)
    cases outcome with
    | error fault => exact { holds.2 with }
    | ok claim =>
      show if claim.acquired = true then _ else _
      split
      · exact attempted.elsewhere rfl
      · exact holds.elsewhere rfl
  hand _ _ holds _ _ _ := holds.elsewhere rfl
  accept {world result task node} emission holds returned key := by
    -- An accepted result emits twice: for the node, then for its side effect.
    have pending := holds.1.tasks.pending result.nodeId (by simp [returned.running])
    have issued := holds.1.tasks.issued _ _ returned.running
    have taken : Ensures (announce ports request plan (·.accepted result) emission) world
        (Kept (Keeping ports (.live gates used) request plan base) (Since request base)) :=
      holds.endAttempt apart returned (by decide) key (holds.1.released _ rfl (.inr rfl)) rfl
    have unused : task.operationId ≠ [] →
      ∀ revision, ¬ request.HasKey world (sideEffectKey task.operationId revision) :=
      fun named revision has => holds.1.unissued apart pending (issued.resolve_left named) named has
    refine ensures_sequence (taken.and (announce_effect _ _))
      (fun _ _ raised => raised.1) fun _ after both => ?_
    obtain ⟨sequence, same⟩ := both.2.state
    refine emitSideEffect_tracked both.1 apart (fun named revision => ?_) ?_ issued
    · exact both.2.unused holds.1.names.tenant (unused named revision)
        (sideEffectKey_ne_render _ _ _ _)
    · rw [same]
      exact mem_insert_self _ _
  release emission holds returned _ key :=
    holds.endAttempt apart returned (by decide) key (holds.1.released _ rfl (.inl rfl)) rfl
  lose failure emission holds returned _ key :=
    (holds.endAttempt apart returned (by decide) key (holds.1.released _ rfl (.inl rfl)) rfl).onward
      fun _ kept => ⟨kept, fun _ => kept⟩
  skip {world node} emission holds free key := by
    have pending := free.pending
    simp only [NativeRunState.terminal, mem_union, not_or] at pending
    refine holds.announce ?_ ?_ fun wider _ => ?_
    · rw [key]
      exact fresh_node pending.1.2
    · exact holds.1.onwardTo (passedOn_live _ _) rfl (subset_insert _ _)
        subset_rfl (fun _ fact => fact.imp_right .inl) (fun _ _ => id) holds.1.tasks.pending
    · rw [key]
      exact mem_insert_self _ _
  merge value references emission holds listed mergeable key :=
    holds.finish (.of_mergeable listed mergeable) (by decide) key
  unmerge reason holds listed mergeable := holds.changed (holds.1.released _ rfl (.inl rfl))
  checkpoint value references emission holds free _ key := holds.finish free (by decide) key
  gate {world node} emission holds free gated unapproved unopened key := by
    have named := holds.1.names.gated node free.listed gated
    -- A gate that is neither approved nor open has never been announced.
    have new : ∀ event, ¬ Known ports (.live gates used) world.state (world.extent request)
      (.gate event node.gateId) :=
      fun event known => known.2.elim unapproved fun others =>
        others.elim (fun unsettled => unsettled unopened) id
    have opened : Ensures (announce ports request plan (·.gated node.gateId node.nodeId) emission)
        world (Kept (Keeping ports (.live gates used) request plan base) (Since request base)) := by
      refine holds.announce ?_ ?_ fun wider _ => ?_
      · rw [key]
        exact fresh_gate named (new _)
      · refine holds.1.onwardTo (passedOn_live _ _) rfl subset_rfl subset_rfl
          (fun gateId fact => fact.imp_right fun unsettled => .inl ?_)
          (fun _ _ => id) holds.1.tasks.pending
        show (world.state.openGates.set node.gateId node.nodeId).get? gateId ≠ none
        rw [get?_set]
        split
        · simp
        · exact unsettled
      · rw [key]
        refine ⟨named, .inr (.inl ?_)⟩
        show (world.state.openGates.set node.gateId node.nodeId).get? node.gateId ≠ none
        simp
    -- The pause that may follow names the same gate under another event.
    refine (opened.and (announce_effect _ _)).mono fun outcome after both => ?_
    cases outcome with
    | error _ => exact both.1
    | ok _ =>
      refine ⟨both.1, fun pause paused => ?_⟩
      obtain ⟨sequence, same⟩ := both.2.state
      refine announce_tracked both.1.1 both.1.2 ?_ (both.1.1.stillTo (passedOn_live _ _) rfl)
        fun wider _ => ?_
      · rw [paused]
        refine both.2.unused holds.1.names.tenant (holds.1.unused (fresh_gate named (new .paused)))
          fun repeated => ?_
        rw [key] at repeated
        cases EmissionKey.collides_of_render repeated
      · rw [paused, same]
        refine ⟨named, .inr (.inl ?_)⟩
        show (world.state.openGates.set node.gateId node.nodeId).get? node.gateId ≠ none
        simp
  wait holds := holds.changed (holds.1.stillTo (passedOn_live _ _) rfl)
  delegate {earlier world node task} emission before holds free _ state events drawn named
    issued key := by
    obtain ⟨moment, issued⟩ := issued
    refine announce_tracked before.1 holds.2 ?_ (before.1.delegated apart holds.1 free state events
      (holds.2.saved.trans before.2.saved.symm) drawn named (.inr ⟨moment, node, _, rfl, issued⟩))
        fun wider more => ?_
    · rw [HasKey, events, key]
      refine before.1.unused
        (fresh_attempt apart (by rw [named]; exact apart.isWord_attempt _) fun other known => ?_)
      obtain ⟨index, less, same⟩ := known.1
      rw [named] at same
      exact absurd (apart.attempt_inj same) (ne_of_gt less)
    · rw [key]
      exact ⟨⟨earlier.drawn, drawn.trans_le more.drawn, named⟩, fun ends => absurd rfl ends⟩
  complete {world} emission holds _ key := by
    refine announce_tracked holds.1 holds.2 (holds.1.unused ?_) ?_ fun wider _ => ?_
    · rw [key]
      exact fresh_completed id
    · have still : Leads ports (.live gates used) (.live gates used) request plan world world
          { world.state with status := .completed } := holds.1.stillTo (passedOn_live _ _) rfl
      exact still.settled
    · rw [key]
      rfl

end Ananta
