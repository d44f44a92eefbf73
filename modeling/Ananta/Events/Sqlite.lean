import Ananta.Events.Store

/-! The SQLite store of canonical workflow events. -/

namespace Ananta

namespace Value

mutual

/-- What `json.loads` reads back from the JSON text of a value: lists for tuples, and sorted
keys. -/
def reloaded : Value → Value
  | .dict fields => .dict (sortFields (reloadedFields fields))
  | .list items => .list (reloadedItems items)
  | .tuple items => .list (reloadedItems items)
  | .none => .none
  | .bool value => .bool value
  | .int value => .int value
  | .float value => .float value
  | .str value => .str value
  | .object identity => .object identity

def reloadedItems : List Value → List Value
  | [] => []
  | item :: rest => reloaded item :: reloadedItems rest

def reloadedFields : Fields → Fields
  | [] => []
  | (key, value) :: rest => (key, reloaded value) :: reloadedFields rest

end

end Value

def CanonicalWorkflowEvent.reloaded (event : CanonicalWorkflowEvent) : CanonicalWorkflowEvent :=
  { event with payload := Value.sortFields (Value.reloadedFields event.payload) }

/-- A row of `workflow_runtime_events`, whose JSON column is represented by the event read back from
it. -/
structure EventRow where
  tenantId : Str
  runId : Str
  sequence : Int
  (workflowId dedupeKey eventId contentHash : Str)
  eventJson : CanonicalWorkflowEvent
  occurredAt : Float64

def EventRow.logKey (row : EventRow) : LogKey := (row.tenantId, row.runId)

/-- The rows of a `SQLiteEventStore`, in the order of their insertion. -/
abbrev SqliteEventStore := List EventRow

def bindTexts (values : List Str) : Except Fault Unit :=
  values.forM fun value =>
    raiseIf (¬ Encodable value) (Fault.mk .unicodeEncodeError "surrogates not allowed")

namespace SqliteEventStore

variable (rows : SqliteEventStore)

def rowsOf (key : LogKey) : List EventRow := rows.filter (·.logKey = key)

/-- `COALESCE(MAX(sequence), 0)` over the rows of one log. -/
def currentSequence (key : LogKey) : Int :=
  ((rowsOf rows key).map (·.sequence)).foldl max 0

/-- `INSERT`, refused by the primary key and the two unique constraints. -/
def insert (row : EventRow) : Except Fault SqliteEventStore := do
  raiseIf ((rowsOf rows row.logKey).any fun other =>
      other.sequence == row.sequence || other.dedupeKey == row.dedupeKey ||
        other.eventId == row.eventId)
    ⟨.integrityError, "UNIQUE constraint failed"⟩
  return rows ++ [row]

/-- The row of an event, with the values that are computed when it is inserted. -/
def rowFor (stored : CanonicalWorkflowEvent) : Except Fault EventRow := do
  let contentHash ← stored.contentHash
  let eventJson ← canonicalJson (.dict stored.toDict)
  bindTexts [stored.workflowId, eventJson]
  return {
    tenantId := stored.tenantId
    runId := stored.runId
    sequence := stored.sequence
    workflowId := stored.workflowId
    dedupeKey := stored.dedupeKey
    eventId := stored.eventId
    contentHash
    eventJson := stored.reloaded
    occurredAt := stored.occurredAt }

/-- `list_events`, for numbers that fit into the sixty-four bits of a column. -/
def listEvents (tenantId runId : Str) (afterSequence : Int)
    (limit : Option Int) : Except Fault (List CanonicalWorkflowEvent) := do
  let validatedTenantId ← requireCanonicalIdentity tenantId "tenant_id"
  let validatedRunId ← requireCanonicalIdentity runId "run_id"
  bindTexts [validatedTenantId, validatedRunId]
  let selected := ((rowsOf rows (validatedTenantId, validatedRunId)).filter
    (afterSequence < ·.sequence)).insertionSort (·.sequence ≤ ·.sequence)
  let selected := match limit with
    | some limit => selected.take (max 0 limit).toNat
    | none => selected
  selected.mapM (·.eventJson.fromMapping)

/-- The answer to an event whose dedupe key is known. -/
def redelivered (duplicate : EventRow) (event : CanonicalWorkflowEvent) :
    Except Fault CanonicalWorkflowEvent := do
  let offered ← event.contentHash
  raiseIf (duplicate.contentHash ≠ offered) (eventConflict "dedupe_key_payload_conflict")
  duplicate.eventJson.fromMapping

/-- The event with a new dedupe key as it is stored, and the rows with it. -/
def admitted (event : CanonicalWorkflowEvent) (expectedSequence : Int) :
    Except Fault (CanonicalWorkflowEvent × SqliteEventStore) := do
  bindTexts [event.eventId]
  raiseIf ((rowsOf rows event.logKey).any (·.eventId == event.eventId))
    (eventConflict "event_id_payload_conflict")
  let current := currentSequence rows event.logKey
  raiseIf (expectedSequence ≠ current) (sequenceConflict expectedSequence current)
  let stored ← event.withSequence (current + 1)
  let row ← rowFor stored
  let inserted ← insert rows row
  return (stored, inserted)

end SqliteEventStore

/-- `SQLiteEventStore.append`, whose transaction is rolled back when it raises. -/
def appendRow (event : CanonicalWorkflowEvent) (expectedSequence : Int) :
    Call Fault SqliteEventStore CanonicalWorkflowEvent := do
  event.assertValid true
  bindTexts [event.tenantId, event.runId, event.dedupeKey]
  let rows ← Call.read
  match (SqliteEventStore.rowsOf rows event.logKey).find? (·.dedupeKey = event.dedupeKey) with
  | some duplicate => SqliteEventStore.redelivered duplicate event
  | none =>
    let (stored, inserted) ← SqliteEventStore.admitted rows event expectedSequence
    Call.write fun _ => inserted
    return stored

def sqliteMachine : Machine SqliteEventStore AppendCall (Except Fault CanonicalWorkflowEvent) where
  initial := []
  step rows call := appendRow call.event call.expectedSequence rows

end Ananta
