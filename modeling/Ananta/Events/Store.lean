import Ananta.Events.Event
import Ananta.Library.Dict
import Ananta.Library.Machine

/-! The in-memory store of canonical workflow events. -/

namespace Ananta

abbrev LogKey := Str × Str

def CanonicalWorkflowEvent.logKey (event : CanonicalWorkflowEvent) : LogKey :=
  (event.tenantId, event.runId)

/-- The state of an `InMemoryEventStore`. -/
structure InMemoryEventStore where
  events : Dict LogKey (List CanonicalWorkflowEvent)
  dedupe : Dict (LogKey × Str) CanonicalWorkflowEvent
  eventIds : Dict (LogKey × Str) CanonicalWorkflowEvent

namespace InMemoryEventStore

/-- A store before any call. -/
def empty : InMemoryEventStore := ⟨Dict.empty, Dict.empty, Dict.empty⟩

def log (store : InMemoryEventStore) (key : LogKey) : List CanonicalWorkflowEvent :=
  (store.events.get? key).getD []

/-- The store after an event was filed in the form it was re-parsed to. -/
def filed (store : InMemoryEventStore) (event stored : CanonicalWorkflowEvent) :
    InMemoryEventStore :=
  { events := store.events.set event.logKey (store.log event.logKey ++ [stored])
    -- The dedupe index takes the caller's key, and the other index the stored identifier.
    dedupe := store.dedupe.set (event.logKey, event.dedupeKey) stored
    eventIds := store.eventIds.set (event.logKey, stored.eventId) stored }

/-- `list_events`. -/
def listEvents (store : InMemoryEventStore) (tenantId runId : Str) (afterSequence : Int)
    (limit : Option Int) : Except Fault (List CanonicalWorkflowEvent) := do
  let validatedTenantId ← requireCanonicalIdentity tenantId "tenant_id"
  let validatedRunId ← requireCanonicalIdentity runId "run_id"
  let values := (store.log (validatedTenantId, validatedRunId)).filter (afterSequence < ·.sequence)
  let values := match limit with
    | some limit => values.take (max 0 limit).toNat
    | none => values
  values.mapM (·.clone)

end InMemoryEventStore

def eventConflict (reason : String) : Fault := ⟨.optimisticConcurrencyError, reason⟩

/-- The conflict of an append that expected another end of the log. -/
def sequenceConflict (expectedSequence current : Int) : Fault :=
  eventConflict ("event_sequence_conflict:expected=" ++ toString expectedSequence ++ ":actual=" ++
    toString current)

/-- The answer to an event whose dedupe key is known. -/
def redelivered (duplicate event : CanonicalWorkflowEvent) :
    Except Fault CanonicalWorkflowEvent := do
  let known ← duplicate.contentHash
  let offered ← event.contentHash
  raiseIf (known ≠ offered) (eventConflict "dedupe_key_payload_conflict")
  duplicate.clone

/-- The form in which an event with a new dedupe key is stored. -/
def admitted (store : InMemoryEventStore) (event : CanonicalWorkflowEvent)
    (expectedSequence : Int) : Except Fault CanonicalWorkflowEvent := do
  raiseIf (store.eventIds.get? (event.logKey, event.eventId)).isSome
    (eventConflict "event_id_payload_conflict")
  let current := (store.log event.logKey).length
  raiseIf (expectedSequence ≠ current) (sequenceConflict expectedSequence current)
  let sequenced ← event.withSequence (current + 1)
  sequenced.clone

/-- `InMemoryEventStore.append`. -/
def appendEvent (event : CanonicalWorkflowEvent) (expectedSequence : Int) :
    Call Fault InMemoryEventStore CanonicalWorkflowEvent := do
  event.assertValid true
  let store ← Call.read
  match store.dedupe.get? (event.logKey, event.dedupeKey) with
  | some duplicate => redelivered duplicate event
  | none =>
    let stored ← admitted store event expectedSequence
    Call.write fun store => store.filed event stored
    stored.clone

structure AppendCall where
  event : CanonicalWorkflowEvent
  expectedSequence : Int

def eventMachine : Machine InMemoryEventStore AppendCall (Except Fault CanonicalWorkflowEvent) where
  initial := .empty
  step store call := appendEvent call.event call.expectedSequence store

end Ananta
