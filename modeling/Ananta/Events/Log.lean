import Ananta.Events.EventLaws
import Ananta.Events.Store

/-! Every log of the in-memory store is numbered without gaps and only ever grows. -/

namespace Ananta

open List CanonicalWorkflowEvent

variable {store : InMemoryEventStore} {event stored : CanonicalWorkflowEvent}
  {expectedSequence : Int}

/-- What an event has to meet to be filed, and the form it is filed in. -/
structure Admits (store : InMemoryEventStore) (event : CanonicalWorkflowEvent)
    (expectedSequence : Int) (stored : CanonicalWorkflowEvent) : Prop where
  valid : event.Valid 0
  freshKey : store.dedupe.get? (event.logKey, event.dedupeKey) = none
  freshId : store.eventIds.get? (event.logKey, event.eventId) = none
  expected : expectedSequence = (store.log event.logKey).length
  parsed : stored = { event with sequence := (store.log event.logKey).length + 1 }.parsed
  canonical : stored.Canonical

/-- An event is admitted exactly under the next sequence number and an unused identifier. -/
lemma admitted_eq_ok (valid : event.Valid 0)
    (freshKey : store.dedupe.get? (event.logKey, event.dedupeKey) = none) :
    admitted store event expectedSequence = .ok stored ↔
      Admits store event expectedSequence stored := by
  have sequenced := withSequence_ok valid
    (show (1 : Int) ≤ (store.log event.logKey).length + 1 by omega)
  simp only [admitted, ok_iff, sequenced, not_not, Bool.not_eq_true, Option.isSome_eq_false_iff,
    Option.isNone_iff_eq_none, Except.ok.injEq, exists_eq_left']
  constructor
  · rintro ⟨_, freshId, _, expected, cloned⟩
    obtain ⟨canonical, same⟩ := canonical_of_clone cloned
    exact ⟨valid, freshKey, freshId, expected, same, canonical⟩
  · rintro ⟨_, _, freshId, expected, same, canonical⟩
    refine ⟨(), freshId, (), expected, clone_eq_ok.mpr ⟨?_, same⟩⟩
    rw [← same]
    exact canonical.toValid

inductive AppendEffect (store : InMemoryEventStore) (call : AppendCall) :
    Except Fault CanonicalWorkflowEvent → InMemoryEventStore → Prop where
  | kept {outcome : Except Fault CanonicalWorkflowEvent} : AppendEffect store call outcome store
  | filed {stored : CanonicalWorkflowEvent}
      (admits : Admits store call.event call.expectedSequence stored) :
      AppendEffect store call (.ok stored) (store.filed call.event stored)

/-- An append files its event or leaves the store alone. -/
lemma append_effect (store : InMemoryEventStore) (call : AppendCall) :
    AppendEffect store call (eventMachine.step store call).1 (eventMachine.step store call).2 := by
  refine Call.ensures_evaluate (fun _ _ => .kept) fun _ checked => ?_
  have valid := assertValid_eq_ok.mp checked
  apply Call.ensures_read
  cases found : store.dedupe.get? (call.event.logKey, call.event.dedupeKey) with
  | some duplicate => exact .kept
  | none =>
    refine Call.ensures_evaluate (fun _ _ => .kept) fun stored admits => ?_
    have admits := (admitted_eq_ok valid found).mp admits
    -- What was just filed is canonical, so cloning it for the caller cannot raise any more.
    rw [admits.canonical.clone]
    exact .filed admits

/-- What every run keeps of the logs. -/
structure Logged (store : InMemoryEventStore) : Prop where
  canonical : ∀ key, ∀ event ∈ store.log key, event.Canonical
  numbered : ∀ key, (store.log key).map (·.sequence) =
    (range (store.log key).length).map fun i : Nat => (i : Int) + 1

lemma logged_empty : Logged .empty := ⟨by simp [InMemoryEventStore.log, InMemoryEventStore.empty],
  by simp [InMemoryEventStore.log, InMemoryEventStore.empty]⟩

lemma log_filed (store : InMemoryEventStore) (event stored : CanonicalWorkflowEvent)
    (key : LogKey) : (store.filed event stored).log key =
      if key = event.logKey then store.log event.logKey ++ [stored] else store.log key := by
  simp only [InMemoryEventStore.log, InMemoryEventStore.filed, get?_set]
  split <;> rfl

/-- Filing an admitted event keeps what is known of the logs. -/
lemma Admits.logged (admits : Admits store event expectedSequence stored) (logged : Logged store) :
    Logged (store.filed event stored) := by
  have next : stored.sequence = (store.log event.logKey).length + 1 := by rw [admits.parsed]; rfl
  constructor <;> intro key <;> rw [log_filed] <;> split
  · intro other member
    rcases mem_append.mp member with earlier | last
    · exact logged.canonical _ other earlier
    · rw [mem_singleton.mp last]
      exact admits.canonical
  · exact logged.canonical key
  · -- The new event takes the number after the last one.
    rw [map_append, logged.numbered, length_append, length_singleton, range_succ,
      map_append, map_singleton, map_singleton, next]
  · exact logged.numbered key

lemma step_logged (logged : Logged store) (call : AppendCall) :
    Logged (eventMachine.step store call).2 := by
  have effect := append_effect store call
  generalize eventMachine.step store call = stepped at effect ⊢
  obtain ⟨_, _⟩ := stepped
  cases effect with
  | kept => exact logged
  | filed admits => exact admits.logged logged

lemma after_logged (calls : List AppendCall) :
    Logged (eventMachine.after eventMachine.initial calls) :=
  eventMachine.after_of_step Logged (fun _ call logged => step_logged logged call)
    calls _ logged_empty

/-- Further appends only add to the end of a log. -/
lemma log_grows (key : LogKey) (store : InMemoryEventStore) (calls : List AppendCall) :
    store.log key <+: (eventMachine.after store calls).log key := by
  refine eventMachine.after_of_step (fun reached => store.log key <+: reached.log key)
    ?_ calls store (prefix_refl _)
  intro reached call extended
  have effect := append_effect reached call
  generalize (eventMachine.step reached call).1 = outcome at effect
  generalize (eventMachine.step reached call).2 = after at effect ⊢
  cases effect with
  | kept => exact extended
  | @filed stored admits =>
    rw [log_filed]
    grind

lemma append_raised {call : AppendCall} {fault : Fault}
    (raised : (eventMachine.step store call).1 = .error fault) :
    (eventMachine.step store call).2 = store := by
  have effect := append_effect store call
  rw [raised] at effect
  generalize (eventMachine.step store call).2 = after at effect ⊢
  cases effect
  rfl

/-- Canonical events are cloned as they are. -/
lemma mapM_clone {events : List CanonicalWorkflowEvent}
    (canonical : ∀ event ∈ events, event.Canonical) : events.mapM (·.clone) = .ok events := by
  induction events with
  | nil => rfl
  | cons event rest ih =>
    simp only [mapM_cons, ok_iff]
    exact ⟨event, (canonical event (by simp)).clone, rest,
      ih fun other member => canonical other (by simp [member]), rfl⟩

/-- Listing a log from its start returns it as it is stored. -/
lemma Logged.listEvents (logged : Logged store) {tenantId runId : Str}
    (tenant : IsCanonicalIdentity tenantId) (run : IsCanonicalIdentity runId) :
    store.listEvents tenantId runId 0 none = .ok (store.log (tenantId, runId)) := by
  -- Every sequence number is positive, so nothing is filtered out.
  have whole : (store.log (tenantId, runId)).filter (0 < ·.sequence) =
      store.log (tenantId, runId) := by
    refine filter_eq_self.mpr fun event member => ?_
    have positive := (logged.canonical _ event member).sequence
    simpa using Int.lt_of_lt_of_le Int.zero_lt_one positive
  simp only [InMemoryEventStore.listEvents, bind_eq_ok, requireCanonicalIdentity_eq_ok]
  refine ⟨tenantId, ⟨tenant, rfl⟩, runId, ⟨run, rfl⟩, ?_⟩
  rw [whole]
  exact mapM_clone (logged.canonical _)

/-- An append whose dedupe key and event identifier have no white space around them. -/
def AppendCall.Trimmed (call : AppendCall) : Prop :=
  strip call.event.dedupeKey = call.event.dedupeKey ∧ strip call.event.eventId = call.event.eventId

/-- The indexes hold what the logs hold, and no log holds a key or an identifier twice. -/
structure Indexed (store : InMemoryEventStore) : Prop where
  keys : ∀ key, ∀ event ∈ store.log key, (store.dedupe.get? (key, event.dedupeKey)).isSome
  identifiers : ∀ key, ∀ event ∈ store.log key, (store.eventIds.get? (key, event.eventId)).isSome
  distinctKeys : ∀ key, ((store.log key).map (·.dedupeKey)).Nodup
  distinctIds : ∀ key, ((store.log key).map (·.eventId)).Nodup

lemma indexed_empty : Indexed .empty := by
  constructor <;> simp [InMemoryEventStore.log, InMemoryEventStore.empty]

/-- An index that every event of a log is found in stays so when it takes up the event that is
filed. -/
lemma index_filed {index : Dict (LogKey × Str) CanonicalWorkflowEvent}
    {label : CanonicalWorkflowEvent → Str} {entry : Str} (same : label stored = entry)
    (held : ∀ key, ∀ other ∈ store.log key, (index.get? (key, label other)).isSome) :
    ∀ key, ∀ other ∈ (store.filed event stored).log key,
      ((index.set (event.logKey, entry) stored).get? (key, label other)).isSome := by
  intro key other member
  rw [get?_set]
  split
  · rfl
  · rw [log_filed] at member
    grind

/-- Filing an event under a label that its log does not hold keeps the labels of each log
distinct. -/
lemma distinct_filed {label : CanonicalWorkflowEvent → Str}
    (distinct : ∀ key, ((store.log key).map label).Nodup)
    (fresh : ∀ other ∈ store.log event.logKey, label other ≠ label stored) (key : LogKey) :
    (((store.filed event stored).log key).map label).Nodup := by
  rw [log_filed]
  split
  · rw [map_append, map_singleton, ← concat_eq_append]
    refine (nodup_concat _ _).mpr ⟨?_, distinct _⟩
    simp_all
  · exact distinct key

/-- Filing an event under trimmed names keeps the indexes in step with the logs. -/
lemma Admits.indexed (admits : Admits store event expectedSequence stored) (indexed : Indexed store)
    (trimmedKey : strip event.dedupeKey = event.dedupeKey)
    (trimmedId : strip event.eventId = event.eventId) : Indexed (store.filed event stored) := by
  -- The stored names are those that the indexes were asked for.
  have key : stored.dedupeKey = event.dedupeKey := by
    rw [admits.parsed]
    show strip (orElse event.dedupeKey event.eventId) = event.dedupeKey
    rw [orElse_of_ne admits.valid.dedupeKey, trimmedKey]
  have identifier : stored.eventId = event.eventId := by
    rwa [admits.parsed]
  refine ⟨index_filed key indexed.keys, index_filed rfl indexed.identifiers,
    distinct_filed indexed.distinctKeys ?_, distinct_filed indexed.distinctIds ?_⟩
  · intro other member same
    have held := indexed.keys _ other member
    rw [same, key, admits.freshKey] at held
    cases held
  · intro other member same
    have held := indexed.identifiers _ other member
    rw [same, identifier, admits.freshId] at held
    cases held

/-- Runs under trimmed names keep the indexes in step with the logs. -/
lemma after_indexed {calls : List AppendCall} (trimmed : ∀ call ∈ calls, call.Trimmed) :
    Indexed (eventMachine.after eventMachine.initial calls) := by
  refine eventMachine.after_of_each AppendCall.Trimmed Indexed ?_ trimmed _ indexed_empty
  intro store call indexed names
  have effect := append_effect store call
  generalize eventMachine.step store call = stepped at effect ⊢
  obtain ⟨_, _⟩ := stepped
  cases effect with
  | kept => exact indexed
  | filed admits => exact admits.indexed indexed names.1 names.2

/-- In every run each log is listed with the sequence numbers from one on, a listed event stays
listed as it is, and an append that raises changes nothing. Where no dedupe key and no event
identifier has white space around it, no log lists one of them twice. -/
theorem canonical_event_log (calls : List AppendCall) :
    let store := eventMachine.after eventMachine.initial calls
    (∀ tenantId runId, IsCanonicalIdentity tenantId → IsCanonicalIdentity runId →
      ∃ events, store.listEvents tenantId runId 0 none = .ok events ∧
        events.map (·.sequence) = (range events.length).map (fun i : Nat => (i : Int) + 1) ∧
        (∀ later, ∃ further, (eventMachine.after store later).listEvents tenantId runId 0 none =
          .ok (events ++ further)) ∧
        ((∀ call ∈ calls, call.Trimmed) →
          (events.map (·.dedupeKey)).Nodup ∧ (events.map (·.eventId)).Nodup)) ∧
    (∀ call fault, (eventMachine.step store call).1 = .error fault →
      (eventMachine.step store call).2 = store) := by
  intro store
  have logged : Logged store := after_logged calls
  refine ⟨fun tenantId runId tenant run => ?_, fun call fault raised => append_raised raised⟩
  refine ⟨store.log (tenantId, runId), logged.listEvents tenant run, logged.numbered _, ?_, ?_⟩
  · intro later
    have reached := eventMachine.after_of_step Logged (fun _ call logged => step_logged logged call)
      later store logged
    obtain ⟨further, extended⟩ := log_grows (tenantId, runId) store later
    exact ⟨further, by rw [reached.listEvents tenant run, extended]⟩
  · intro trimmed
    have indexed := after_indexed trimmed
    exact ⟨indexed.distinctKeys _, indexed.distinctIds _⟩

/-- An event of one run with the given dedupe key and identifier. -/
def sampleEvent (dedupeKey eventId : Str) : CanonicalWorkflowEvent where
  tenantId := "tenant"
  workflowId := "workflow"
  runId := "run"
  eventType := "step"
  correlationId := "correlation"
  causationId := "causation"
  dedupeKey := dedupeKey
  occurredAt := 1
  eventId := eventId

/-- Two appends under different names are listed under both. -/
theorem canonical_event_log_trimmed : ∃ events, (eventMachine.after eventMachine.initial
      [⟨sampleEvent "a" "e", 0⟩, ⟨sampleEvent "b" "f", 1⟩]).listEvents
        "tenant" "run" 0 none = .ok events ∧
      (events.map (·.dedupeKey)).Nodup ∧ (events.map (·.eventId)).Nodup := by
  have named : ∀ name, requireCanonicalIdentity name "" = .ok name → IsCanonicalIdentity name :=
    fun _ checked =>
    (requireCanonicalIdentity_eq_ok.mp checked).1
  obtain ⟨events, listed, _, _, distinct⟩ := (canonical_event_log
    [⟨sampleEvent "a" "e", 0⟩, ⟨sampleEvent "b" "f", 1⟩]).1 "tenant" "run"
      (named _ (by decide +kernel)) (named _ (by decide +kernel))
  refine ⟨events, listed, distinct ?_⟩
  unfold AppendCall.Trimmed
  decide +kernel

/-- Two appends that differ in white space only list one dedupe key twice, and likewise one
identifier. -/
theorem event_log_repeats : ((eventMachine.after eventMachine.initial
      [⟨sampleEvent "a" "e", 0⟩, ⟨sampleEvent "a " "f", 1⟩]).listEvents
        "tenant" "run" 0 none).map (·.map (·.dedupeKey)) = .ok ["a", "a"] ∧
    ((eventMachine.after eventMachine.initial
      [⟨sampleEvent "a" "e ", 0⟩, ⟨sampleEvent "b" "e ", 1⟩]).listEvents
        "tenant" "run" 0 none).map (·.map (·.eventId)) = .ok ["e", "e"] := by
  decide +kernel

end Ananta
