import Ananta.Events.Log
import Ananta.Native.Orchestrator

/-! What the smallest operations of a Native run do, whether they return or raise. -/

namespace Ananta

open Call

variable {ports : NativePorts} {request : NativeGraphRequest} {plan : ExecutionPlan}
variable {world after : NativeWorld} {α β : Type}

/-- Only clock readings, identifiers and effects were used up. -/
structure Quiet (world after : NativeWorld) : Prop where
  state : after.state = world.state
  events : after.events = world.events
  ownership : after.ownership = world.ownership
  submitted : after.submitted = world.submitted
  checkpoints : after.checkpoints = world.checkpoints
  repeats : after.repeats = world.repeats
  refusals : after.refusals = world.refusals
  drawn : world.drawn ≤ after.drawn

lemma Quiet.refl (world : NativeWorld) : Quiet world world :=
  ⟨rfl, rfl, rfl, rfl, rfl, rfl, rfl, le_rfl⟩

lemma Quiet.trans {last : NativeWorld} (first : Quiet world after) (second : Quiet after last) :
    Quiet world last where
  state := second.state.trans first.state
  events := second.events.trans first.events
  ownership := second.ownership.trans first.ownership
  submitted := second.submitted.trans first.submitted
  checkpoints := second.checkpoints.trans first.checkpoints
  repeats := second.repeats.trans first.repeats
  refusals := second.refusals.trans first.refusals
  drawn := first.drawn.trans second.drawn

variable {post : Except Fault α → NativeWorld → Prop}

lemma ensures_getState {next : NativeRunState → NativeM α}
    (returned : Ensures (next world.state) world post) :
    Ensures (getState >>= next) world post := returned

variable {next : Unit → NativeM α} {call : OwnershipM β}

lemma ensures_modifyState {update : NativeRunState → NativeRunState}
    (returned : Ensures (next ()) { world with state := update world.state } post) :
    Ensures (modifyState update >>= next) world post := returned

lemma ensures_clock {next : Float64 → NativeM α}
    (returned : Ensures (next (ports.clock world.moment)) { world with moment := world.moment + 1 }
      post) :
    Ensures (readClock ports >>= next) world post := returned

lemma ensures_readClock {next : Float64 → NativeM α}
    (returned : ∀ now after, Quiet world after → Ensures (next now) after post) :
    Ensures (readClock ports >>= next) world post :=
  ensures_clock (returned _ _ ⟨rfl, rfl, rfl, rfl, rfl, rfl, rfl, le_rfl⟩)

lemma ensures_drawUuid {next : Str → NativeM α}
    (returned : Ensures (next (ports.uuid world.drawn)) { world with drawn := world.drawn + 1 }
      post) :
    Ensures (drawUuid ports >>= next) world post := returned

section

variable (ended : ∀ fault after, Quiet world after → post (.error fault) after)
include ended

lemma ensures_effect (returned : ∀ after, Quiet world after → Ensures (next ()) after post) :
    Ensures (effect ports >>= next) world post := by
  have quiet : Quiet world { world with effects := world.effects + 1 } :=
    ⟨rfl, rfl, rfl, rfl, rfl, rfl, rfl, le_rfl⟩
  exact ensures_guard (fun _ => ended _ _ quiet) fun _ => returned _ quiet

omit ended in
/-- A call on the ownership store changes that store only, unless the process ended before it. -/
lemma onOwnership_effect : Ensures (onOwnership ports call) world fun outcome after =>
      (∃ fault, outcome = .error fault ∧ Quiet world after) ∨
      ∃ middle ownership, Quiet world middle ∧ call world.ownership = (outcome, ownership) ∧
        after = { middle with ownership } := by
  refine ensures_effect (fun fault after quiet => .inl ⟨fault, rfl, quiet⟩) fun after quiet => ?_
  refine .inr ⟨after, _, quiet, ?_, rfl⟩
  rw [← quiet.ownership]
  rfl

/-- A call on the ownership store is followed through the store. -/
lemma ensures_onOwnership {next : β → NativeM α}
    (raised : ∀ fault ownership after, Quiet world after →
      call world.ownership = (.error fault, ownership) →
      post (.error fault) { after with ownership })
    (returned : ∀ value ownership after, Quiet world after →
      call world.ownership = (.ok value, ownership) →
      Ensures (next value) { after with ownership } post) :
    Ensures (onOwnership ports call >>= next) world post := by
  refine ensures_sequence onOwnership_effect (fun fault after effect => ?_)
    fun value after effect => ?_
  · grind
  grind

/-- A claim is followed through the store, and a refused one is noted. -/
lemma ensures_claimOwnership {claimed : ClaimRequest} {now : Float64} {uuid : Str}
    {next : OwnershipClaim → NativeM α} (raised : ∀ fault ownership after, Quiet world after →
      claim claimed now uuid world.ownership = (.error fault, ownership) →
      post (.error fault) { after with ownership, refusals := fault.message :: after.refusals })
    (returned : ∀ value ownership after, Quiet world after →
      claim claimed now uuid world.ownership = (.ok value, ownership) →
      Ensures (next value) { after with ownership } post) :
    Ensures (claimOwnership ports claimed now uuid >>= next) world post := by
  have spec : Ensures (claimOwnership ports claimed now uuid) world fun outcome after =>
      (∃ fault, outcome = .error fault ∧ Quiet world after) ∨
      ∃ middle ownership, Quiet world middle ∧
        claim claimed now uuid world.ownership = (outcome, ownership) ∧ after = match outcome with
          | .ok _ => { middle with ownership }
          | .error fault => { middle with
              ownership, refusals := fault.message :: middle.refusals } := by
    refine ensures_effect (fun fault after quiet => .inl ⟨fault, rfl, quiet⟩) fun middle quiet => ?_
    refine ensures_noting ?_
    rw [← quiet.ownership]
    refine ensures_focus ?_
    unfold Ensures
    rcases ran : claim claimed now uuid middle.ownership with ⟨fault | value, ownership⟩
    · exact .inr ⟨middle, ownership, quiet, rfl, rfl⟩
    · exact .inr ⟨middle, ownership, quiet, rfl, rfl⟩
  refine ensures_sequence spec (fun fault after effect => ?_) fun value after effect => ?_
  · grind
  grind

end

def NativeRunState.sequenced (state : NativeRunState) (sequence : Int) : NativeRunState :=
  { state with eventSequence := sequence }

def NativeWorld.sequenced (world : NativeWorld) (sequence : Int) : NativeWorld :=
  { world with state := world.state.sequenced sequence }

inductive OfferEffect (world : NativeWorld) (event : CanonicalWorkflowEvent) :
    Except Fault Unit → NativeWorld → Prop where
  | refused {fault : Fault} {after : NativeWorld} (quiet : Quiet world after) :
      OfferEffect world event (.error fault) after
  -- The log already holds an event under the key, so that nothing is filed.
  | repeated {outcome : Except Fault Unit} {after : NativeWorld} {sequence : Int}
      (known : (world.events.dedupe.get? (event.logKey, event.dedupeKey)).isSome)
      (quiet : Quiet { world.sequenced sequence with repeats := event.dedupeKey :: world.repeats }
        after) :
      OfferEffect world event outcome after
  | filed {stored : CanonicalWorkflowEvent} {after : NativeWorld}
      (admits : Admits world.events event world.state.eventSequence stored)
      (quiet : Quiet { world.sequenced stored.sequence with
        events := world.events.filed event stored } after) :
      OfferEffect world event (.ok ()) after

variable {event : CanonicalWorkflowEvent} {outcome : Except Fault Unit}

/-- An append that returns under a new key has filed its event. -/
lemma append_new {store last : InMemoryEventStore} {stored : CanonicalWorkflowEvent}
    {expected : Int} (fresh : store.dedupe.get? (event.logKey, event.dedupeKey) = none)
    (run : appendEvent event expected store = (.ok stored, last)) :
    Admits store event expected stored ∧ last = store.filed event stored := by
  have spec : Ensures (appendEvent event expected) store fun outcome last =>
      ∀ stored, outcome = .ok stored → Admits store event expected stored ∧
        last = store.filed event stored := by
    refine ensures_evaluate (fun _ _ _ returned => nomatch returned) fun _ checked =>
      ensures_read ?_
    have valid := CanonicalWorkflowEvent.assertValid_eq_ok.mp checked
    rw [fresh]
    refine ensures_evaluate (fun _ _ _ returned => nomatch returned) fun stored admitted => ?_
    have admits := (admitted_eq_ok valid fresh).mp admitted
    refine ensures_write ?_
    rw [admits.canonical.clone]
    rintro _ ⟨⟩
    exact ⟨admits, rfl⟩
  rw [Ensures, run] at spec
  exact spec stored rfl

/-- An append either files its event under a new key, or leaves the log alone. -/
lemma appendNative_effect (event : CanonicalWorkflowEvent) :
    Ensures (appendNative ports event) world fun outcome after =>
      (∃ fault, outcome = .error fault ∧ Quiet world after) ∨
      ((world.events.dedupe.get? (event.logKey, event.dedupeKey)).isSome ∧
        ∃ sequence, Quiet (world.sequenced sequence) after) ∨
      ∃ stored, outcome = .ok () ∧ Admits world.events event world.state.eventSequence stored ∧
        Quiet { world.sequenced stored.sequence with events := world.events.filed event stored }
          after := by
  refine ensures_effect (fun fault after quiet => .inl ⟨fault, rfl, quiet⟩) fun middle quiet =>
    ensures_getState ?_
  have effect := append_effect world.events ⟨event, world.state.eventSequence⟩
  change AppendEffect world.events ⟨event, world.state.eventSequence⟩
    (appendEvent event world.state.eventSequence world.events).1
    (appendEvent event world.state.eventSequence world.events).2 at effect
  refine ensures_bind (fun fault last run => ?_) fun stored last run => ?_
  all_goals
    simp only [focus, quiet.state, quiet.events, Prod.mk.injEq] at run
    obtain ⟨outcome, rfl⟩ := run
  · rw [outcome] at effect
    generalize (appendEvent event world.state.eventSequence world.events).2 = store at effect
    cases effect with
    | kept => exact .inl ⟨fault, rfl, rfl, rfl, quiet.ownership, quiet.submitted, quiet.checkpoints,
        quiet.repeats, quiet.refusals, quiet.drawn⟩
  · -- A returned event was filed just now, or the log knew its key.
    cases found : world.events.dedupe.get? (event.logKey, event.dedupeKey) with
    | none =>
      obtain ⟨admits, filed⟩ := append_new found (Prod.ext outcome rfl)
      exact .inr (.inr ⟨stored, rfl, admits, rfl, filed, quiet.ownership, quiet.submitted,
        quiet.checkpoints, quiet.repeats, quiet.refusals, quiet.drawn⟩)
    | some duplicate =>
      refine .inr (.inl ⟨rfl, stored.sequence, rfl, ?_, quiet.ownership, quiet.submitted,
        quiet.checkpoints, quiet.repeats, quiet.refusals, quiet.drawn⟩)
      generalize appendEvent event world.state.eventSequence world.events = stepped at effect
      obtain ⟨_, _⟩ := stepped
      cases effect with
      | kept => rfl
      | filed admits => rw [admits.freshKey] at found; cases found

/-- An event is filed, refused, or noted as a repetition. -/
lemma offer_effect (event : CanonicalWorkflowEvent) :
    Ensures (do noteRepeat event; appendNative ports event : NativeM Unit)
      world (OfferEffect world event) := by
  show Ensures (appendNative ports event)
    (if (world.events.dedupe.get? (event.logKey, event.dedupeKey)).isSome then
    { world with repeats := event.dedupeKey :: world.repeats } else world) _
  split
  · rename_i known
    refine (appendNative_effect event).mono fun outcome after effect => ?_
    rcases effect with ⟨fault, _, quiet⟩ | ⟨_, sequence, quiet⟩ | ⟨stored, _, admits, _⟩
    · exact .repeated known quiet
    · exact .repeated known quiet
    · rw [admits.freshKey] at known
      cases known
  · rename_i known
    refine (appendNative_effect event).mono fun outcome after effect => ?_
    rcases effect with ⟨fault, rfl, quiet⟩ | ⟨dup, _⟩ | ⟨stored, rfl, admits, quiet⟩
    · exact .refused quiet
    · exact absurd dup known
    · exact .filed admits quiet

/-- What was used up before an event is offered does not matter. -/
lemma OfferEffect.of_quiet {middle : NativeWorld}
    (quiet : Quiet world middle) (effect : OfferEffect middle event outcome after) :
    OfferEffect world event outcome after := by
  cases effect with
  | refused later => exact .refused (quiet.trans later)
  | @repeated _ _ sequence known later =>
    refine @OfferEffect.repeated _ _ _ _ sequence (by rwa [← quiet.events]) (Quiet.trans ?_ later)
    exact { quiet with
      state := by simp only [NativeWorld.sequenced, quiet.state],
      repeats := by simp only [quiet.repeats] }
  | filed admits later =>
    rw [quiet.events, quiet.state] at admits
    refine .filed admits (Quiet.trans ?_ later)
    exact { quiet with
      state := by simp only [NativeWorld.sequenced, quiet.state],
      events := by simp only [quiet.events] }

def NativeWorld.offered (world : NativeWorld) (ports : NativePorts) (request : NativeGraphRequest)
    (plan : ExecutionPlan) (emission : Emission) : CanonicalWorkflowEvent :=
  nativeEvent request plan emission (ports.clock world.moment) (ports.uuid world.drawn)

/-- An emission offers one event. -/
lemma emit_effect (emission : Emission) : Ensures (emit ports request plan emission) world
      (OfferEffect world (world.offered ports request plan emission)) := by
  have quiet : Quiet world { world with moment := world.moment + 1, drawn := world.drawn + 1 } :=
    ⟨rfl, rfl, rfl, rfl, rfl, rfl, rfl, Nat.le_succ _⟩
  refine ensures_clock (ensures_drawUuid ?_)
  refine ensures_evaluate (fun _ _ => .refused quiet) fun _ _ => ?_
  exact (offer_effect _).mono fun _ _ effect => effect.of_quiet quiet

lemma announce_effect (update : NativeRunState → NativeRunState) (emission : Emission) :
    Ensures (announce ports request plan update emission) world
      (OfferEffect { world with state := update world.state }
        (world.offered ports request plan emission)) :=
  ensures_modifyState (emit_effect emission)

lemma OfferEffect.state (effect : OfferEffect world event outcome after) :
    ∃ sequence, after.state = world.state.sequenced sequence := by
  cases effect with
  | refused quiet => exact ⟨world.state.eventSequence, quiet.state⟩
  | repeated _ quiet => exact ⟨_, quiet.state⟩
  | filed _ quiet => exact ⟨_, quiet.state⟩

end Ananta
