import Ananta.Events.Log
import Ananta.Events.Reload

/-! The in-memory and the SQLite event store answer alike where re-parsing an event changes
nothing. -/

namespace Ananta

open CanonicalWorkflowEvent Call List

/-- Two events that Python's `==` takes for equal, since it ignores the order of dictionary keys. -/
def CanonicalWorkflowEvent.Same (left right : CanonicalWorkflowEvent) : Prop :=
  left.reloaded = right.reloaded

/-- Two outcomes that raise the same exception or return values that are the same. -/
inductive Agree {α : Type} (same : α → α → Prop) : Except Fault α → Except Fault α → Prop where
  | raised (fault : Fault) : Agree same (.error fault) (.error fault)
  | returned {left right : α} (equal : same left right) : Agree same (.ok left) (.ok right)

variable {store : InMemoryEventStore} {rows : SqliteEventStore}
  {event stored : CanonicalWorkflowEvent} {row : EventRow} {expectedSequence : Int}

/-- An event that is stored as it was handed over: trimmed, redacted, and writable as JSON and as
SQL. -/
structure CanonicalWorkflowEvent.Conforming (event : CanonicalWorkflowEvent) : Prop where
  unchanged : event.parsed = event
  plain : (Value.dict event.content).Plain
  eventId : Encodable event.eventId

namespace CanonicalWorkflowEvent.Conforming

section

variable (conforming : event.Conforming)
include conforming

lemma sequenced (sequence : Int) : { event with sequence }.Conforming where
  unchanged := congrArg (fun parsed : CanonicalWorkflowEvent => { parsed with sequence })
    conforming.unchanged
  plain := conforming.plain
  eventId := conforming.eventId

lemma hashed : ∃ digest, event.contentHash = .ok digest := by
  obtain ⟨rendered, written, encodable⟩ := canonicalJson_plain conforming.plain
  obtain ⟨digest, hashed, _⟩ := sha256Text_ok encodable
  exact ⟨digest, bind_eq_ok.mpr ⟨rendered, written, hashed⟩⟩

lemma columns : Encodable event.tenantId ∧ Encodable event.workflowId ∧
    Encodable event.runId ∧ Encodable event.dedupeKey := by
  have plain := conforming.plain
  simp only [content, Value.Plain, Value.PlainFields] at plain
  simp_all

lemma written :
    ∃ rendered, canonicalJson (.dict event.toDict) = .ok rendered ∧ Encodable rendered := by
  refine canonicalJson_plain ?_
  have plain := conforming.plain
  simp only [content, Value.Plain, Value.PlainFields, encodable_text, true_and] at plain
  simp only [toDict, Value.Plain, Value.PlainFields, encodable_text, true_and, conforming.eventId]
  exact plain

end

end CanonicalWorkflowEvent.Conforming

lemma bindTexts_ok {values : List Str} (encodable : ∀ value ∈ values, Encodable value) :
    bindTexts values = .ok () :=
  forM_eq_ok.mpr fun value member => raiseIf_eq_ok.mpr (not_not.mpr (encodable value member))

structure RowOf (stored : CanonicalWorkflowEvent) (row : EventRow) : Prop where
  logKey : row.logKey = stored.logKey
  sequence : row.sequence = stored.sequence
  dedupeKey : row.dedupeKey = stored.dedupeKey
  eventId : row.eventId = stored.eventId
  contentHash : stored.contentHash = .ok row.contentHash
  eventJson : row.eventJson = stored.reloaded

/-- Every log is held by the rows of the other store, and the indexes hold exactly what the logs
do. -/
structure Mirrors (store : InMemoryEventStore) (rows : SqliteEventStore) : Prop where
  logged : Logged store
  held : ∀ key, Forall₂ RowOf (store.log key) (SqliteEventStore.rowsOf rows key)
  keys : ∀ key name, store.dedupe.get? (key, name) = (store.log key).find? (·.dedupeKey = name)
  identifiers : ∀ key name, store.eventIds.get? (key, name) =
    (store.log key).find? (·.eventId = name)

lemma mirrors_empty : Mirrors .empty [] where
  logged := logged_empty
  held _ := .nil
  keys _ _ := rfl
  identifiers _ _ := rfl

/-- Searching related lists for related elements finds related elements. -/
lemma find_related {α β : Type} {related : α → β → Prop} {left : List α} {right : List β}
    (all : Forall₂ related left right) (wanted : α → Bool) (sought : β → Bool)
    (same : ∀ first second, related first second → wanted first = sought second) :
    Option.Rel related (left.find? wanted) (right.find? sought) := by
  induction all with
  | nil => exact .none
  | @cons first second _ _ pair _ ih =>
    rw [find?_cons, find?_cons, same first second pair]
    split
    · exact .some pair
    · exact ih

/-- The greatest of the numbers from one to a bound is the bound. -/
lemma foldl_max_range (count : Nat) :
    ((range count).map fun i : Nat => (i : Int) + 1).foldl max 0 = count := by
  induction count with
  | zero => rfl
  | succ count ih =>
    rw [range_succ, map_append, foldl_append, ih]
    show max (count : Int) (count + 1) = ((count + 1 : Nat) : Int)
    omega

/-- The row of a conforming event can be written, and holds the event. -/
lemma rowFor_ok (conforming : stored.Conforming) :
    ∃ row, SqliteEventStore.rowFor stored = .ok row ∧ RowOf stored row := by
  obtain ⟨digest, hashed⟩ := conforming.hashed
  obtain ⟨rendered, written, encodable⟩ := conforming.written
  have bound : bindTexts [stored.workflowId, rendered] = .ok () :=
    bindTexts_ok (by simpa using ⟨conforming.columns.2.1, encodable⟩)
  simp only [SqliteEventStore.rowFor, ok_iff]
  exact ⟨_, ⟨digest, hashed, rendered, written, (), bound, rfl⟩, rfl, rfl, rfl, rfl, hashed, rfl⟩

/-- An index that mirrors the logs still does when it takes up the event that is filed. -/
lemma index_exact {index : Dict (LogKey × Str) CanonicalWorkflowEvent}
    {label : CanonicalWorkflowEvent → Str} (fresh : index.get? (event.logKey, label stored) = none)
    (exact : ∀ key name, index.get? (key, name) = (store.log key).find? (label · = name))
    (key : LogKey) (name : Str) : (index.set (event.logKey, label stored) stored).get? (key, name) =
      ((store.filed event stored).log key).find? (label · = name) := by
  rw [get?_set, log_filed]
  by_cases own : key = event.logKey
  · subst own
    rw [if_pos rfl, find?_append, ← exact]
    by_cases wanted : name = label stored
    · -- The log held no event of this name, so the search runs on to the new one.
      subst wanted
      rw [if_pos rfl, fresh]
      simp
    · rw [if_neg (by simp [wanted])]
      simp [Ne.symm wanted]
  · rw [if_neg (by simp [own]), if_neg own, exact]

/-- Appending a row extends the rows of its own log and of no other. -/
lemma rowsOf_append (rows : SqliteEventStore) (row : EventRow) (key : LogKey) :
    SqliteEventStore.rowsOf (rows ++ [row]) key =
      if key = row.logKey then SqliteEventStore.rowsOf rows row.logKey ++ [row]
      else SqliteEventStore.rowsOf rows key := by
  split
  · rename_i same
    subst same
    simp [SqliteEventStore.rowsOf]
  · rename_i other
    simp [SqliteEventStore.rowsOf, Ne.symm other]

/-- Both stores compare a redelivered event with the same hash and return the same stored event. -/
lemma redelivered_related (canonical : stored.Canonical) (holds : RowOf stored row)
    (conforming : event.Conforming) :
    Agree Same (redelivered stored event) (SqliteEventStore.redelivered row event) := by
  obtain ⟨digest, hashed⟩ := conforming.hashed
  unfold redelivered SqliteEventStore.redelivered
  rw [bind_of_ok holds.contentHash, bind_of_ok hashed, bind_of_ok hashed]
  by_cases conflict : row.contentHash ≠ digest
  · rw [bind_of_raised conflict, bind_of_raised conflict]
    exact .raised _
  · rw [bind_of_passed conflict, bind_of_passed conflict, canonical.clone, holds.eventJson,
      canonical.fromMapping]
    exact .returned (reloaded_reloaded stored).symm

/-- The rows of canonical events are parsed to those events as they are read back. -/
lemma mapM_fromMapping {events : List CanonicalWorkflowEvent} {selected : List EventRow}
    (held : Forall₂ RowOf events selected) (canonical : ∀ event ∈ events, event.Canonical) :
    selected.mapM (·.eventJson.fromMapping) = .ok (events.map (·.reloaded)) := by
  induction held with
  | nil => rfl
  | @cons event row rest others holds _ ih =>
    rw [forall_mem_cons] at canonical
    rw [mapM_cons, holds.eventJson, bind_of_ok canonical.1.fromMapping, bind_of_ok (ih canonical.2)]
    rfl

/-- The store has an event under the dedupe key and with the content of a valid one. -/
structure Remembers (store : InMemoryEventStore)
    (event stored : CanonicalWorkflowEvent) : Prop where
  valid : event.Valid 0
  known : store.dedupe.get? (event.logKey, event.dedupeKey) = some stored
  contentHash : stored.contentHash = event.contentHash

/-- What is remembered is never forgotten. -/
lemma Remembers.after (remembers : Remembers store event stored) (later : List AppendCall) :
    Remembers (eventMachine.after store later) event stored := by
  refine eventMachine.after_of_step (Remembers · event stored) ?_ later store remembers
  intro reached call remembers
  have effect := append_effect reached call
  generalize eventMachine.step reached call = stepped at effect ⊢
  obtain ⟨_, _⟩ := stepped
  cases effect with
  | kept => exact remembers
  | filed admits =>
    refine { remembers with known := ?_ }
    show (reached.dedupe.set _ _).get? _ = some stored
    -- A key that is filed was unknown before, so it is not this one.
    rw [get?_set, if_neg, remembers.known]
    intro same
    have fresh := admits.freshKey
    rw [← same, remembers.known] at fresh
    cases fresh

/-- An event that is remembered is answered with what was stored for it. -/
lemma Remembers.redelivered (remembers : Remembers store event stored)
    (conforming : event.Conforming) (canonical : stored.Canonical) (expectedSequence : Int) :
    (eventMachine.step store ⟨event, expectedSequence⟩).1 = .ok stored := by
  obtain ⟨digest, hashed⟩ := conforming.hashed
  show (appendEvent event expectedSequence store).1 = _
  unfold appendEvent
  rw [run_evaluate (assertValid_eq_ok.mpr remembers.valid), run_read,
    remembers.known]
  show Ananta.redelivered stored event = _
  rw [Ananta.redelivered, bind_of_ok (remembers.contentHash.trans hashed), bind_of_ok hashed,
    bind_of_passed (by simp), canonical.clone]

section

variable (mirrors : Mirrors store rows)
include mirrors

/-- The rows of a log carry the sequence numbers of its events. -/
lemma Mirrors.sequences (key : LogKey) :
    (SqliteEventStore.rowsOf rows key).map (·.sequence) =
      (range (store.log key).length).map fun i : Nat => (i : Int) + 1 := by
  rw [← mirrors.logged.numbered]
  have held := mirrors.held key
  generalize store.log key = events at held
  generalize SqliteEventStore.rowsOf rows key = selected at held
  induction held with
  | nil => rfl
  | cons pair _ ih => rw [map_cons, map_cons, ih, pair.sequence]

lemma Mirrors.currentSequence (key : LogKey) :
    SqliteEventStore.currentSequence rows key = (store.log key).length := by
  rw [SqliteEventStore.currentSequence, mirrors.sequences, foldl_max_range]

/-- A log holds an identifier exactly when one of its rows does. -/
lemma Mirrors.any_eventId (key : LogKey) (name : Str) :
    (SqliteEventStore.rowsOf rows key).any (·.eventId == name) =
      (store.eventIds.get? (key, name)).isSome := by
  have found := find_related (mirrors.held key) (fun event => decide (event.eventId = name))
    (fun row => row.eventId == name) fun _ _ pair => by rw [pair.eventId, Bool.beq_eq_decide_eq]
  rw [mirrors.identifiers, ← isSome_find?]
  generalize (store.log key).find? _ = kept at found
  generalize (SqliteEventStore.rowsOf rows key).find? _ = held at found
  cases found <;> rfl

section

variable (admits : Admits store event expectedSequence stored) (own : stored.logKey = event.logKey)
  (key : stored.dedupeKey = event.dedupeKey) (identifier : stored.eventId = event.eventId)
  (holds : RowOf stored row)
include admits own key identifier holds

/-- The stores still mirror each other after both took up an event and its row. -/
lemma Mirrors.filed : Mirrors (store.filed event stored) (rows ++ [row]) where
  logged := admits.logged mirrors.logged
  held name := by
    rw [log_filed, rowsOf_append, holds.logKey, own]
    split
    · exact rel_append (mirrors.held _) (.cons holds .nil)
    · exact mirrors.held name
  keys := by
    have fresh := admits.freshKey
    show ∀ key name, (store.dedupe.set (event.logKey, event.dedupeKey) stored).get? (key, name) = _
    rw [← key] at fresh ⊢
    exact index_exact fresh mirrors.keys
  identifiers := by
    have fresh := admits.freshId
    rw [← identifier] at fresh
    exact index_exact fresh mirrors.identifiers

/-- No constraint of the table refuses the row of an event that the in-memory store admits. -/
lemma Mirrors.insert_ok : SqliteEventStore.insert rows row = .ok (rows ++ [row]) := by
  refine bind_eq_ok.mpr ⟨(), raiseIf_eq_ok.mpr ?_, rfl⟩
  rw [Bool.not_eq_true, any_eq_false, holds.logKey, own]
  intro other member
  -- The new number is one more than the last, and the two names were looked up and not found.
  have number : other.sequence ≠ row.sequence := by
    have listed : other.sequence ∈ (SqliteEventStore.rowsOf rows event.logKey).map (·.sequence) :=
      mem_map_of_mem member
    rw [mirrors.sequences] at listed
    obtain ⟨i, small, same⟩ := mem_map.mp listed
    have next : stored.sequence = (store.log event.logKey).length + 1 := by rw [admits.parsed]; rfl
    rw [mem_range] at small
    rw [← same, holds.sequence, next]
    omega
  have freshKey : other.dedupeKey ≠ row.dedupeKey := by
    have found := find_related (mirrors.held event.logKey)
      (fun event => decide (event.dedupeKey = stored.dedupeKey))
      (fun row => decide (row.dedupeKey = stored.dedupeKey)) fun _ _ pair => by rw [pair.dedupeKey]
    rw [← mirrors.keys, key, admits.freshKey] at found
    generalize unfound : (SqliteEventStore.rowsOf rows event.logKey).find? _ = result at found
    cases found
    simpa [holds.dedupeKey, key] using find?_eq_none.mp unfound other member
  have freshId : other.eventId ≠ row.eventId := by
    have unknown := mirrors.any_eventId event.logKey event.eventId
    rw [admits.freshId, Option.isSome_none, any_eq_false] at unknown
    simpa [holds.eventId, identifier] using unknown other member
  simp [number, freshKey, freshId]

end

/-- Both stores refuse a new event for the same reason, or take it up in the same form. -/
lemma admitted_related (conforming : event.Conforming)
    (valid : event.Valid 0) (freshKey : store.dedupe.get? (event.logKey, event.dedupeKey) = none)
    (expectedSequence : Int) :
    (∃ fault, admitted store event expectedSequence = .error fault ∧
      SqliteEventStore.admitted rows event expectedSequence = .error fault) ∨
    ∃ stored row, Admits store event expectedSequence stored ∧
      SqliteEventStore.admitted rows event expectedSequence = .ok (stored, rows ++ [row]) ∧
      Mirrors (store.filed event stored) (rows ++ [row]) := by
  have bound : bindTexts [event.eventId] = .ok () :=
    bindTexts_ok (by simpa using conforming.eventId)
  unfold SqliteEventStore.admitted
  rw [bind_of_ok bound, mirrors.any_eventId, mirrors.currentSequence]
  by_cases known : (store.eventIds.get? (event.logKey, event.eventId)).isSome
  · exact .inl ⟨_, bind_of_raised known _, bind_of_raised known _⟩
  rw [bind_of_passed known]
  by_cases unexpected : expectedSequence ≠ (store.log event.logKey).length
  · exact .inl ⟨_, (bind_of_passed known _).trans (bind_of_raised unexpected _),
      bind_of_raised unexpected _⟩
  rw [bind_of_passed unexpected]
  -- Re-parsing changes nothing, so both stores keep the event with its new number.
  have sequenced := conforming.sequenced ((store.log event.logKey).length + 1)
  have positive : (1 : Int) ≤ (store.log event.logKey).length + 1 := by omega
  have admits : Admits store event expectedSequence
      { event with sequence := (store.log event.logKey).length + 1 } :=
    ⟨valid, freshKey, by simpa using known, not_not.mp unexpected, sequenced.unchanged.symm,
      { valid with sequence := positive, unchanged := sequenced.unchanged }⟩
  obtain ⟨row, computed, holds⟩ := rowFor_ok sequenced
  refine .inr ⟨_, row, admits, ?_, mirrors.filed admits rfl rfl rfl holds⟩
  rw [bind_of_ok (withSequence_ok valid positive), bind_of_ok computed,
    bind_of_ok (mirrors.insert_ok admits rfl rfl rfl holds)]
  rfl

/-- An append of a conforming event is answered alike by stores that mirror each other, which still
do. -/
lemma step_mirrors (call : AppendCall) (conforming : call.event.Conforming) :
    Agree Same (eventMachine.step store call).1 (sqliteMachine.step rows call).1 ∧
      Mirrors (eventMachine.step store call).2 (sqliteMachine.step rows call).2 := by
  show Agree _ (appendEvent call.event call.expectedSequence store).1
      (appendRow call.event call.expectedSequence rows).1 ∧
    Mirrors (appendEvent call.event call.expectedSequence store).2
      (appendRow call.event call.expectedSequence rows).2
  unfold appendEvent appendRow
  cases checked : call.event.assertValid true with
  | error fault => exact ⟨.raised fault, mirrors⟩
  | ok _ =>
    have valid := assertValid_eq_ok.mp checked
    obtain ⟨tenant, _, run, key⟩ := conforming.columns
    have bound : bindTexts [call.event.tenantId, call.event.runId, call.event.dedupeKey] = .ok () :=
      bindTexts_ok (by simpa using ⟨tenant, run, key⟩)
    rw [run_evaluate rfl, run_evaluate rfl, run_evaluate bound, run_read,
      run_read]
    -- Both look the dedupe key up, and find the event and its row or neither.
    have found := find_related (mirrors.held call.event.logKey)
      (fun event => decide (event.dedupeKey = call.event.dedupeKey))
      (fun row => decide (row.dedupeKey = call.event.dedupeKey))
        fun _ _ pair => by rw [pair.dedupeKey]
    rw [← mirrors.keys] at found
    generalize known : store.dedupe.get? (call.event.logKey, call.event.dedupeKey) =
      duplicate at found ⊢
    generalize (SqliteEventStore.rowsOf rows call.event.logKey).find? _ = held at found ⊢
    cases found with
    | @some stored row holds =>
      rw [mirrors.keys] at known
      have canonical := mirrors.logged.canonical _ stored (mem_of_find?_eq_some known)
      dsimp only
      rw [run_lift, run_lift]
      exact ⟨redelivered_related canonical holds conforming, mirrors⟩
    | none =>
      dsimp only
      rcases admitted_related mirrors conforming valid known call.expectedSequence with
        ⟨fault, raised, refused⟩ | ⟨stored, row, admits, taken, filed⟩
      · rw [run_evaluate_raised raised, run_evaluate_raised refused]
        exact ⟨.raised fault, mirrors⟩
      · rw [run_evaluate ((admitted_eq_ok valid known).mpr admits), run_evaluate taken,
          run_write, run_write]
        refine ⟨?_, filed⟩
        rw [admits.canonical.clone]
        exact .returned rfl

lemma Mirrors.ordered (key : LogKey) :
    (SqliteEventStore.rowsOf rows key).Pairwise (·.sequence ≤ ·.sequence) := by
  rw [← pairwise_map (f := fun row : EventRow => row.sequence) (R := (· ≤ ·)), mirrors.sequences,
    pairwise_map]
  exact pairwise_lt_range.imp (by omega)

/-- Stores that mirror each other list the same events. -/
lemma Mirrors.listEvents {tenantId runId : Str}
    (tenant : Encodable tenantId) (run : Encodable runId) (afterSequence : Int)
    (limit : Option Int) :
    Agree (Forall₂ Same)
      (store.listEvents tenantId runId afterSequence limit)
      (SqliteEventStore.listEvents rows tenantId runId afterSequence limit) := by
  unfold InMemoryEventStore.listEvents SqliteEventStore.listEvents
  cases tenantChecked : requireCanonicalIdentity tenantId "tenant_id" with
  | error fault => exact .raised fault
  | ok validatedTenantId =>
  cases runChecked : requireCanonicalIdentity runId "run_id" with
  | error fault => exact .raised fault
  | ok validatedRunId =>
  obtain ⟨_, rfl⟩ := requireCanonicalIdentity_eq_ok.mp tenantChecked
  obtain ⟨_, rfl⟩ := requireCanonicalIdentity_eq_ok.mp runChecked
  have bound : bindTexts [validatedTenantId, validatedRunId] = .ok () :=
    bindTexts_ok (by simpa using ⟨tenant, run⟩)
  rw [bind_of_ok rfl, bind_of_ok rfl, bind_of_ok rfl, bind_of_ok rfl, bind_of_ok bound]
  -- What is selected is sorted already, so the events and the rows stay side by side.
  have sorted := ((mirrors.ordered (validatedTenantId, validatedRunId)).sublist
    (filter_sublist (p := (afterSequence < ·.sequence)))).insertionSort_eq
  rw [sorted]
  have held : Forall₂ RowOf
      ((store.log (validatedTenantId, validatedRunId)).filter (afterSequence < ·.sequence))
      ((SqliteEventStore.rowsOf rows (validatedTenantId, validatedRunId)).filter
        (afterSequence < ·.sequence)) :=
    rel_filter (fun _ _ pair => by simp [pair.sequence]) (mirrors.held _)
  have canonical : ∀ event ∈ (store.log (validatedTenantId, validatedRunId)).filter
      (afterSequence < ·.sequence), event.Canonical := fun event member =>
    mirrors.logged.canonical _ event (mem_of_mem_filter member)
  have agree : ∀ {events selected}, Forall₂ RowOf events selected →
      (∀ event ∈ events, event.Canonical) → Agree (Forall₂ Same)
        (events.mapM (·.clone)) (selected.mapM (·.eventJson.fromMapping)) := by
    intro events selected held canonical
    rw [mapM_clone canonical, mapM_fromMapping held canonical]
    refine .returned (forall₂_map_right_iff.mpr (forall₂_same.mpr fun event _ => ?_))
    exact (reloaded_reloaded event).symm
  cases limit with
  | none => exact agree held canonical
  | some limit =>
    exact agree (forall₂_take _ held) fun event member => canonical event (mem_of_mem_take member)

/-- What an append returns is remembered as its event. -/
lemma append_remembers (conforming : event.Conforming)
    (expectedSequence : Int) : Ensures (appendEvent event expectedSequence) store
      fun outcome after => ∀ stored, outcome = .ok stored → Remembers after event stored := by
  refine ensures_evaluate (fun _ _ _ impossible => by cases impossible) fun _ checked => ?_
  have valid := assertValid_eq_ok.mp checked
  apply ensures_read
  cases known : store.dedupe.get? (event.logKey, event.dedupeKey) with
  | some duplicate =>
    intro stored returned
    rw [mirrors.keys] at known
    have canonical := mirrors.logged.canonical _ duplicate (mem_of_find?_eq_some known)
    rw [← mirrors.keys] at known
    change redelivered duplicate event = .ok stored at returned
    simp only [redelivered, ok_iff, not_not, canonical.clone, Except.ok.injEq] at returned
    obtain ⟨hash, hashed, offered, computed, _, same, rfl⟩ := returned
    exact ⟨valid, known, by rw [hashed, computed, same]⟩
  | none =>
    refine ensures_evaluate (fun _ _ _ impossible => by cases impossible) fun stored taken => ?_
    have admits := (admitted_eq_ok valid known).mp taken
    intro result returned
    change stored.clone = .ok result at returned
    rw [admits.canonical.clone, Except.ok.injEq] at returned
    subst returned
    refine ⟨valid, ?_, ?_⟩
    · show (store.dedupe.set (event.logKey, event.dedupeKey) stored).get? _ = some stored
      rw [get?_set, if_pos rfl]
    · rw [admits.parsed, (conforming.sequenced _).unchanged]
      rfl

end

lemma run_mirrors {calls : List AppendCall} (conforming : ∀ call ∈ calls, call.event.Conforming) :
    Forall₂ (Agree Same) (eventMachine.answers eventMachine.initial calls)
      (sqliteMachine.answers sqliteMachine.initial calls) ∧
    Mirrors (eventMachine.after eventMachine.initial calls)
      (sqliteMachine.after sqliteMachine.initial calls) :=
  eventMachine.run_related sqliteMachine (·.event.Conforming) Mirrors _
    (fun _ _ call mirrors fits => step_mirrors mirrors call fits) conforming _ _ mirrors_empty

/-- Where every appended event is stored as it was handed over, both stores answer every run alike,
list the same events after it, and return what they stored for an event that was accepted before. -/
theorem stores_interchangeable (calls : List AppendCall)
    (conforming : ∀ call ∈ calls, call.event.Conforming) :
    let store := eventMachine.after eventMachine.initial calls
    let rows := sqliteMachine.after sqliteMachine.initial calls
    Forall₂ (Agree Same) (eventMachine.answers eventMachine.initial calls)
      (sqliteMachine.answers sqliteMachine.initial calls) ∧
    (∀ tenantId runId afterSequence limit, Encodable tenantId → Encodable runId →
      Agree (Forall₂ Same)
        (store.listEvents tenantId runId afterSequence limit)
        (SqliteEventStore.listEvents rows tenantId runId afterSequence limit)) ∧
    (∀ earlier call later stored, calls = earlier ++ call :: later →
      (eventMachine.step (eventMachine.after eventMachine.initial earlier) call).1 = .ok stored →
      ∀ expectedSequence, (eventMachine.step store ⟨call.event, expectedSequence⟩).1 = .ok stored ∧
        ∃ copy, (sqliteMachine.step rows ⟨call.event, expectedSequence⟩).1 = .ok copy ∧
          stored.Same copy) := by
  intro store rows
  obtain ⟨answers, mirrors⟩ := run_mirrors conforming
  refine ⟨answers, fun _ _ _ _ tenant run => mirrors.listEvents tenant run _ _, ?_⟩
  intro earlier call later stored split accepted expectedSequence
  have own := conforming call (by rw [split]; simp)
  have first : ∀ other ∈ earlier, other.event.Conforming := fun other member =>
    conforming other (by rw [split]; simp [member])
  -- What the accepted append returned is remembered up to the end of the run.
  have remembers : Remembers store call.event stored := by
    have remembered := append_remembers (run_mirrors first).2 own call.expectedSequence
      stored accepted
    have reached : store = eventMachine.after
        (eventMachine.step (eventMachine.after eventMachine.initial earlier) call).2 later := by
      show eventMachine.after eventMachine.initial calls = _
      rw [split, Machine.after_append, Machine.after_cons]
    rw [reached]
    exact Remembers.after remembered later
  have known := remembers.known
  rw [mirrors.keys] at known
  have canonical := mirrors.logged.canonical _ stored (mem_of_find?_eq_some known)
  have answered := remembers.redelivered own canonical expectedSequence
  refine ⟨answered, ?_⟩
  -- The other store answers the same append alike.
  have agree := (step_mirrors mirrors ⟨call.event, expectedSequence⟩ own).1
  rw [answered] at agree
  generalize (sqliteMachine.step _ _).1 = outcome at agree ⊢
  cases agree with
  | returned same => exact ⟨_, rfl, same⟩

/-- The sample event is stored as it is handed over. -/
lemma sampleEvent_conforming : (sampleEvent "a" "e").Conforming where
  unchanged := by
    simp only [sampleEvent, parsed, mk.injEq, true_and]
    decide +kernel
  plain := by
    simp [sampleEvent, content, Value.Plain, Value.PlainFields]
    decide +kernel
  eventId := by decide +kernel

/-- Both stores answer two deliveries of the sample event alike. -/
theorem stores_interchangeable_sample : (sampleEvent "a" "e").Conforming ∧ Forall₂ (Agree Same)
      (eventMachine.answers eventMachine.initial
        [⟨sampleEvent "a" "e", 0⟩, ⟨sampleEvent "a" "e", 0⟩])
      (sqliteMachine.answers sqliteMachine.initial
        [⟨sampleEvent "a" "e", 0⟩, ⟨sampleEvent "a" "e", 0⟩]) :=
  ⟨sampleEvent_conforming, (stores_interchangeable _ (by simp [sampleEvent_conforming])).1⟩

/-- The sample event with a payload entry that is redacted when it is stored. -/
def tokenEvent : CanonicalWorkflowEvent :=
  { sampleEvent "a" "e" with payload := [("token", .str "x")] }

/-- The in-memory store refuses the second delivery of an event with a redacted entry, which SQLite
accepts. -/
theorem stores_diverge :
    (eventMachine.answers eventMachine.initial [⟨tokenEvent, 0⟩, ⟨tokenEvent, 1⟩]).map
      (·.map (·.sequence)) = [.ok 1, .error (eventConflict "dedupe_key_payload_conflict")] ∧
    (sqliteMachine.answers sqliteMachine.initial [⟨tokenEvent, 0⟩, ⟨tokenEvent, 1⟩]).map
      (·.map (·.sequence)) = [.ok 1, .ok 1] := by
  decide +kernel

end Ananta
