import Ananta.Events.Sqlite

/-! The SQLAlchemy store of canonical workflow events and its transactional outbox. -/

namespace Ananta

/-- `WORKFLOW_EVENT_TOPIC`. -/
def workflowEventTopic : Str := "workflow.runtime.events"

/-- The unit separator `"\x1f"`. -/
def unitSeparator : CodePoint := 0x1f

def colon : CodePoint := 0x3a

/-- `"\x1f".join`. -/
def framed (parts : List Str) : Str := List.intercalate [unitSeparator] parts

/-- `stable_row_id`. -/
def stableRowId (space : String) (parts : List Str) : Except Fault Str := do
  let digest ← sha256Text (framed (text space :: parts))
  return text space ++ "-" ++ digest

namespace CanonicalWorkflowEvent

variable (event : CanonicalWorkflowEvent)

/-- The run of an event and its dedupe key, with a colon between them. -/
def deliveryKey : Str := event.runId ++ colon :: event.dedupeKey

/-- `workflow_event_delivery_dedupe_key`. -/
def workflowEventDeliveryDedupeKey : Except Fault Str := do
  event.assertValid false
  return event.deliveryKey

/-- `workflow_event_outbox_id`. -/
def workflowEventOutboxId : Except Fault Str := do
  let deliveryKey ← event.workflowEventDeliveryDedupeKey
  stableRowId "wfro" [event.tenantId, workflowEventTopic, deliveryKey]

end CanonicalWorkflowEvent

/-- A row of `WorkflowRuntimeEventDB`. -/
structure WorkflowRuntimeEventRow where
  (id tenantId workflowId runId : Str)
  sequence : Int
  (eventId eventType dedupeKey contentHash : Str)
  occurredAt : Float64
  -- The JSON column keeps the order of keys and turns tuples into lists, as re-parsing does anyway.
  canonicalEvent : CanonicalWorkflowEvent

def WorkflowRuntimeEventRow.logKey (row : WorkflowRuntimeEventRow) : LogKey :=
  (row.tenantId, row.runId)

/-- A row of `WorkflowRuntimeOutboxDB`, without the columns that only its delivery uses. -/
structure WorkflowRuntimeOutboxRow where
  (id tenantId aggregateId topic dedupeKey : Str)
  availableAt : Float64
  createdAt : Float64
  payload : CanonicalWorkflowEvent

/-- `_event_row`. -/
def eventRow (event : CanonicalWorkflowEvent) : Except Fault WorkflowRuntimeEventRow := do
  let id ← stableRowId "wfre" [event.tenantId, event.runId, event.eventId]
  let contentHash ← event.contentHash
  return {
    id
    tenantId := event.tenantId
    workflowId := event.workflowId
    runId := event.runId
    sequence := event.sequence
    eventId := event.eventId
    eventType := event.eventType
    dedupeKey := event.dedupeKey
    contentHash
    occurredAt := event.occurredAt
    canonicalEvent := event }

/-- `_event_outbox_row`. -/
def eventOutboxRow (event : CanonicalWorkflowEvent) (topic : Str) :
    Except Fault WorkflowRuntimeOutboxRow := do
  let id ← stableRowId "wfro" [event.tenantId, topic, event.deliveryKey]
  return {
    id
    tenantId := event.tenantId
    aggregateId := event.runId
    topic
    dedupeKey := event.deliveryKey
    availableAt := event.occurredAt
    createdAt := event.occurredAt
    payload := event }

/-- `_same_event_or_raise`. -/
def sameEventOrRaise (row : WorkflowRuntimeEventRow) (candidate : CanonicalWorkflowEvent) :
    Except Fault CanonicalWorkflowEvent := do
  let offered ← candidate.contentHash
  raiseIf (row.contentHash ≠ offered) (eventConflict "dedupe_key_payload_conflict")
  row.canonicalEvent.fromMapping

/-- How a `SQLAlchemyEventStore` was set up. -/
structure OutboxSetup where
  publishToOutbox : Bool := true
  outboxTopic : Str := workflowEventTopic

/-- The two tables that a `SQLAlchemyEventStore` writes. -/
structure SqlAlchemyEventStore where
  events : List WorkflowRuntimeEventRow
  outbox : List WorkflowRuntimeOutboxRow

namespace SqlAlchemyEventStore

variable (store : SqlAlchemyEventStore) (event : CanonicalWorkflowEvent)

def rowsOf (key : LogKey) : List WorkflowRuntimeEventRow :=
  store.events.filter (·.logKey = key)

/-- `COALESCE(MAX(sequence), 0)` over the rows of one log. -/
def currentSequence (key : LogKey) : Int :=
  ((store.rowsOf key).map (·.sequence)).foldl max 0

/-- The row of a log with a dedupe key. -/
def duplicate : Option WorkflowRuntimeEventRow :=
  (store.rowsOf event.logKey).find? (·.dedupeKey = event.dedupeKey)

/-- An event row violates the primary key or a unique constraint of its table. -/
def refusesEvent (row : WorkflowRuntimeEventRow) : Bool :=
  store.events.any fun other => other.logKey == row.logKey && (other.sequence == row.sequence ||
    other.dedupeKey == row.dedupeKey || other.eventId == row.eventId) || other.id == row.id

/-- An outbox row violates the primary key or the unique constraint of its table. -/
def refusesDelivery (row : WorkflowRuntimeOutboxRow) : Bool :=
  store.outbox.any fun other => other.tenantId == row.tenantId && other.topic == row.topic &&
    other.dedupeKey == row.dedupeKey || other.id == row.id

def withOwnOutbox : SqlAlchemyEventStore :=
  { store with outbox := store.outbox.filter fun row =>
      row.tenantId == event.tenantId && row.aggregateId == event.runId }

/-- `session.flush()` of the new rows, which raises `IntegrityError` when a constraint is
violated. -/
def flush (row : WorkflowRuntimeEventRow)
    (delivery : Option WorkflowRuntimeOutboxRow) : Option SqlAlchemyEventStore :=
  if store.refusesEvent row || delivery.any store.refusesDelivery then none
  else some { events := store.events ++ [row], outbox := store.outbox ++ delivery.toList }

/-- The stored form of a new event and the rows that are written for it. -/
def planned (setup : OutboxSetup) (store : SqlAlchemyEventStore) (event : CanonicalWorkflowEvent)
    (expectedSequence : Int) :
    Except Fault (CanonicalWorkflowEvent × WorkflowRuntimeEventRow × Option
      WorkflowRuntimeOutboxRow) := do
  let current := store.currentSequence event.logKey
  raiseIf (expectedSequence ≠ current) (sequenceConflict expectedSequence current)
  let stored ← event.withSequence (current + 1)
  let row ← eventRow stored
  if setup.publishToOutbox then
    let delivery ← eventOutboxRow stored setup.outboxTopic
    return (stored, row, some delivery)
  else
    return (stored, row, none)

/-- `_resolve_append_integrity`, which reads the tables as they were before the transaction. -/
def resolveAppendIntegrity (expectedSequence : Int) : Except Fault CanonicalWorkflowEvent :=
  match store.duplicate event with
  | some row => sameEventOrRaise row event
  | none => do
    raiseIf ((store.rowsOf event.logKey).any (·.eventId == event.eventId))
      (eventConflict "event_id_payload_conflict")
    .error (sequenceConflict expectedSequence (store.currentSequence event.logKey))

end SqlAlchemyEventStore

/-- `SQLAlchemyEventStore.append`, whose transaction is rolled back when it raises. -/
def appendPublished (setup : OutboxSetup) (event : CanonicalWorkflowEvent)
    (expectedSequence : Int) : Call Fault SqlAlchemyEventStore CanonicalWorkflowEvent := do
  event.assertValid true
  bindTexts [event.tenantId, event.runId, event.dedupeKey]
  let store ← Call.read
  match store.duplicate event with
  | some row => sameEventOrRaise row event
  | none =>
    let (stored, row, delivery) ← store.planned setup event expectedSequence
    match store.flush row delivery with
    | none => store.resolveAppendIntegrity event expectedSequence
    | some flushed =>
      let result ← stored.fromMapping
      Call.write fun _ => flushed
      return result

def publishingMachine (setup : OutboxSetup) :
    Machine SqlAlchemyEventStore AppendCall (Except Fault CanonicalWorkflowEvent) where
  initial := ⟨[], []⟩
  step store call := appendPublished setup call.event call.expectedSequence store

end Ananta
