import Ananta.Events.EventLaws
import Ananta.Events.Outbox

/-! Which events share a delivery key, and that other runs' outbox rows do not matter where none
do. -/

namespace Ananta

open List CanonicalWorkflowEvent Call

/-- A run that continues another one after a colon, where the dedupe keys make up for the
difference. -/
def CanonicalWorkflowEvent.Overlaps (left right : CanonicalWorkflowEvent) : Prop :=
  ∃ middle, left.runId = right.runId ++ colon :: middle ∧
    right.dedupeKey = middle ++ colon :: left.dedupeKey

def NoOverlap (events : List CanonicalWorkflowEvent) : Prop :=
  ∀ left ∈ events, ∀ right ∈ events, left.tenantId = right.tenantId → ¬ left.Overlaps right

/-- Two texts have the same digest only when they are the same. -/
def NoCollision (left right : Str) : Prop :=
  ∀ digest, sha256Text left = .ok digest → sha256Text right = .ok digest → left = right

variable {left right : CanonicalWorkflowEvent}

/-- Delivery keys coincide for events of one run with one dedupe key, and for overlapping events. -/
lemma deliveryKey_eq_iff : left.deliveryKey = right.deliveryKey ↔
    (left.runId = right.runId ∧ left.dedupeKey = right.dedupeKey) ∨ left.Overlaps right ∨
      right.Overlaps left := by
  unfold deliveryKey Overlaps
  constructor
  · intro same
    -- One of the runs begins the other, and what is left of the longer one is empty or begins with
    -- a colon.
    rcases append_eq_append_iff.mp same with ⟨rest, longer, tail⟩ | ⟨rest, longer, tail⟩
    all_goals
      cases rest with
      | nil => simp_all
      | cons head middle =>
        simp_all
  grind

lemma CanonicalWorkflowEvent.Overlaps.run_ne (overlaps : left.Overlaps right) :
    left.runId ≠ right.runId := by
  obtain ⟨middle, run, _⟩ := overlaps
  intro same
  have := congrArg length (same.symm.trans run)
  simp at this

/-- What stands before the first separator and what stands after it can be told apart. -/
lemma append_separator_inj {α : Type} {separator : α} {first second before after : List α}
    (leftFree : separator ∉ first) (rightFree : separator ∉ before)
    (same : first ++ separator :: second = before ++ separator :: after) :
    first = before ∧ second = after := by
  induction first generalizing before with
  | nil =>
    cases before with
    | nil => exact ⟨rfl, (cons.inj same).2⟩
    | cons other others => exact absurd (cons.inj same).1 (ne_of_not_mem_cons rightFree)
  | cons point rest ih =>
    cases before with
    | nil => exact absurd (cons.inj same).1.symm (ne_of_not_mem_cons leftFree)
    | cons other others =>
      grind

lemma IsCanonicalIdentity.separator_notMem {value : Str} (canonical : IsCanonicalIdentity value) :
    unitSeparator ∉ value := by
  intro member
  have large := (canonical.printable _ member).1
  exact absurd large (by decide)

def CanonicalWorkflowEvent.outboxText (event : CanonicalWorkflowEvent) (topic : Str) : Str :=
  framed ["wfro", event.tenantId, topic, event.deliveryKey]

/-- The framed text determines the tenant and the delivery key. -/
lemma outboxText_inj {topic : Str} (leftTenant : IsCanonicalIdentity left.tenantId)
    (rightTenant : IsCanonicalIdentity right.tenantId)
    (same : left.outboxText topic = right.outboxText topic) :
    left.tenantId = right.tenantId ∧ left.deliveryKey = right.deliveryKey := by
  -- The tenant ends at the next separator, and the topic is the same for both.
  have tails := @append_cancel_left _ (text "wfro" ++ [unitSeparator]) _ _
    (show "wfro" ++ [unitSeparator] ++ (left.tenantId ++ unitSeparator :: (topic ++
        unitSeparator :: left.deliveryKey)) = "wfro" ++ [unitSeparator] ++ (right.tenantId ++
        unitSeparator :: (topic ++ unitSeparator :: right.deliveryKey)) by
      simpa [outboxText, framed, intercalate, intersperse] using same)
  obtain ⟨tenant, rest⟩ :=
    append_separator_inj leftTenant.separator_notMem rightTenant.separator_notMem tails
  exact ⟨tenant, by simpa using rest⟩

lemma stableRowId_eq_ok {space : String} {parts : List Str} {id : Str} :
    stableRowId space parts = .ok id ↔
      ∃ digest, sha256Text (framed (text space :: parts)) = .ok digest ∧
      id = text space ++ "-" ++ digest := by
  simp only [stableRowId, ok_iff]

/-- The outbox rows of two events have different identifiers unless their framed texts coincide. -/
lemma outboxText_eq_of_id {topic id : Str}
    (free : NoCollision (left.outboxText topic) (right.outboxText topic))
    (first : stableRowId "wfro" [left.tenantId, topic, left.deliveryKey] = .ok id)
    (second : stableRowId "wfro" [right.tenantId, topic, right.deliveryKey] = .ok id) :
    left.outboxText topic = right.outboxText topic := by
  obtain ⟨digest, hashed, rfl⟩ := stableRowId_eq_ok.mp first
  obtain ⟨other, computed, same⟩ := stableRowId_eq_ok.mp second
  rw [← append_cancel_left same] at computed
  exact free digest hashed computed

/-- Valid events share a delivery key or an outbox identifier exactly when their delivery keys
coincide. -/
lemma sharesIdentity_iff (leftValid : left.Valid 1) (rightValid : right.Valid 1)
    (free : NoCollision (left.outboxText workflowEventTopic)
      (right.outboxText workflowEventTopic)) :
    ((∃ key, left.workflowEventDeliveryDedupeKey = .ok key ∧
        right.workflowEventDeliveryDedupeKey = .ok key) ∨
      ∃ id, left.workflowEventOutboxId = .ok id ∧ right.workflowEventOutboxId = .ok id) ↔
    left.deliveryKey = right.deliveryKey := by
  have keyed : ∀ {event : CanonicalWorkflowEvent}, event.Valid 1 →
      event.workflowEventDeliveryDedupeKey = .ok event.deliveryKey := fun valid =>
    bind_eq_ok.mpr ⟨(), assertValid_eq_ok.mpr valid, rfl⟩
  have identified : ∀ {event : CanonicalWorkflowEvent}, event.Valid 1 →
      event.workflowEventOutboxId =
      stableRowId "wfro" [event.tenantId, workflowEventTopic, event.deliveryKey] := fun valid =>
    bind_of_ok (keyed valid) _
  rw [keyed leftValid, keyed rightValid, identified leftValid, identified rightValid]
  constructor
  · rintro (⟨key, first, second⟩ | ⟨id, first, second⟩)
    · exact Except.ok.inj (first.trans second.symm)
    · exact (outboxText_inj leftValid.tenantId rightValid.tenantId
        (outboxText_eq_of_id free first second)).2
  · intro same
    exact .inl ⟨_, rfl, congrArg Except.ok same.symm⟩

/-- An outbox row that was written for an event. -/
structure DeliveryOf (subject : Str) (event : CanonicalWorkflowEvent)
    (row : WorkflowRuntimeOutboxRow) : Prop where
  tenantId : row.tenantId = event.tenantId
  aggregateId : row.aggregateId = event.runId
  topic : row.topic = subject
  dedupeKey : row.dedupeKey = event.deliveryKey
  id : stableRowId "wfro" [event.tenantId, subject, event.deliveryKey] = .ok row.id

variable {setup : OutboxSetup} {store : SqlAlchemyEventStore} {event : CanonicalWorkflowEvent}
  {expectedSequence : Int}

/-- The delivery that is planned for an event is its own. -/
lemma planned_delivery {stored : CanonicalWorkflowEvent} {row : WorkflowRuntimeEventRow}
    {delivery : Option WorkflowRuntimeOutboxRow}
    (plan : store.planned setup event expectedSequence = .ok (stored, row, delivery)) :
    ∀ published ∈ delivery, DeliveryOf setup.outboxTopic event published := by
  intro published member
  simp only [SqlAlchemyEventStore.planned, bind_eq_ok] at plan
  obtain ⟨_, _, sequenced, numbered, row', _, rest⟩ := plan
  -- The sequence number has no part in the identity of a delivery.
  simp only [withSequence, ok_iff] at numbered
  obtain ⟨_, _, rfl⟩ := numbered
  split at rest
  · simp only [ok_iff, eventOutboxRow] at rest
    obtain ⟨_, ⟨id, named, rfl⟩, same⟩ := rest
    obtain ⟨_, _, rfl⟩ := same
    cases member
    exact ⟨rfl, rfl, rfl, rfl, named⟩
  · cases rest
    cases member

/-- An append adds no outbox row but that of its own event. -/
lemma append_deliveries (setup : OutboxSetup) (store : SqlAlchemyEventStore) (call : AppendCall) :
    Ensures (appendPublished setup call.event call.expectedSequence) store fun _ after =>
      ∀ row ∈ after.outbox, row ∈ store.outbox ∨
        call.event.Valid 0 ∧ DeliveryOf setup.outboxTopic call.event row := by
  refine ensures_evaluate (fun _ _ _ member => .inl member) fun _ checked => ?_
  have valid := assertValid_eq_ok.mp checked
  refine ensures_evaluate (fun _ _ _ member => .inl member) fun _ _ => ?_
  apply ensures_read
  cases store.duplicate call.event with
  | some row => exact fun _ member => .inl member
  | none =>
    refine ensures_evaluate (fun _ _ _ member => .inl member) fun (stored, row, delivery) plan => ?_
    dsimp only
    cases flushed : store.flush row delivery with
    | none => exact fun _ member => .inl member
    | some after =>
      refine ensures_evaluate (fun _ _ _ member => .inl member) fun result _ => ?_
      simp only [SqlAlchemyEventStore.flush, Option.ite_none_left_eq_some,
        Option.some.injEq] at flushed
      obtain ⟨_, rfl⟩ := flushed
      intro published member
      rcases mem_append.mp member with earlier | new
      · exact .inl earlier
      · exact .inr ⟨valid, planned_delivery plan published (Option.mem_toList.mp new)⟩

/-- Every outbox row was written for a valid event of the run. -/
lemma after_deliveries (setup : OutboxSetup) (calls : List AppendCall) :
    ∀ row ∈ ((publishingMachine setup).after (publishingMachine setup).initial calls).outbox,
      ∃ call ∈ calls, call.event.Valid 0 ∧ DeliveryOf setup.outboxTopic call.event row := by
  refine (publishingMachine setup).after_of_each (· ∈ calls) (fun store => ∀ row ∈ store.outbox,
    ∃ call ∈ calls, call.event.Valid 0 ∧ DeliveryOf setup.outboxTopic call.event row) ?_
    (fun _ => id) _ (by simp [publishingMachine])
  intro store call delivered listed row member
  rcases append_deliveries setup store call row member with earlier | ⟨valid, delivery⟩
  · exact delivered row earlier
  · exact ⟨call, listed, valid, delivery⟩

/-- The outbox rows are consulted only for whether they refuse the delivery of the event. -/
lemma append_answer_eq {other : SqlAlchemyEventStore} (events : other.events = store.events)
    (refused : ∀ row, DeliveryOf setup.outboxTopic event row →
      other.refusesDelivery row = store.refusesDelivery row) :
    (appendPublished setup event expectedSequence other).1 =
      (appendPublished setup event expectedSequence store).1 := by
  -- Everything else is read from the event rows, which are the same.
  obtain ⟨rows, outbox⟩ := other
  obtain ⟨rows, kept⟩ := store
  cases events
  unfold appendPublished
  cases event.assertValid true with
  | error fault => rfl
  | ok _ =>
  cases bindTexts [event.tenantId, event.runId, event.dedupeKey] with
  | error fault => rfl
  | ok _ =>
  rw [run_evaluate rfl, run_evaluate rfl, run_read, run_evaluate rfl,
    run_evaluate rfl, run_read]
  have duplicate : SqlAlchemyEventStore.duplicate ⟨rows, outbox⟩ event =
    SqlAlchemyEventStore.duplicate ⟨rows, kept⟩ event := rfl
  have plan : SqlAlchemyEventStore.planned setup ⟨rows, outbox⟩ event expectedSequence =
    SqlAlchemyEventStore.planned setup ⟨rows, kept⟩ event expectedSequence := rfl
  rw [duplicate, plan]
  cases SqlAlchemyEventStore.duplicate ⟨rows, kept⟩ event with
  | some row => rfl
  | none =>
  dsimp only
  cases planned : SqlAlchemyEventStore.planned setup ⟨rows, kept⟩ event expectedSequence with
  | error fault => rfl
  | ok plan =>
  obtain ⟨stored, row, delivery⟩ := plan
  have refuses : delivery.any (SqlAlchemyEventStore.refusesDelivery ⟨rows, outbox⟩) =
      delivery.any (SqlAlchemyEventStore.refusesDelivery ⟨rows, kept⟩) := by
    cases delivery with
    | none => rfl
    | some published => exact refused published (planned_delivery planned published rfl)
  rw [run_evaluate rfl, run_evaluate rfl]
  rw [SqlAlchemyEventStore.flush, SqlAlchemyEventStore.flush, refuses]
  have refusesEvent : SqlAlchemyEventStore.refusesEvent ⟨rows, outbox⟩ row =
    SqlAlchemyEventStore.refusesEvent ⟨rows, kept⟩ row := rfl
  rw [refusesEvent]
  generalize (SqlAlchemyEventStore.refusesEvent ⟨rows, kept⟩ row || _) = violated
  cases violated with
  | true => rfl
  | false => cases stored.fromMapping <;> rfl

/-- Where no events overlap, no outbox row of another run refuses a delivery. -/
lemma refusesDelivery_own {calls : List AppendCall} (apart : NoOverlap (calls.map (·.event)))
    (free : ∀ first ∈ calls, ∀ second ∈ calls,
      NoCollision (first.event.outboxText setup.outboxTopic)
      (second.event.outboxText setup.outboxTopic))
    (written : ∀ row ∈ store.outbox, ∃ call ∈ calls, call.event.Valid 0 ∧
      DeliveryOf setup.outboxTopic call.event row)
    {call : AppendCall} (listed : call ∈ calls) (valid : call.event.Valid 0)
    {row : WorkflowRuntimeOutboxRow} (delivery : DeliveryOf setup.outboxTopic call.event row) :
    (store.withOwnOutbox call.event).refusesDelivery row = store.refusesDelivery row := by
  rw [SqlAlchemyEventStore.refusesDelivery, SqlAlchemyEventStore.refusesDelivery,
    SqlAlchemyEventStore.withOwnOutbox, any_filter, Bool.eq_iff_iff, any_eq_true, any_eq_true]
  refine exists_congr fun other => and_congr_right fun member => ?_
  rw [Bool.and_eq_true, and_iff_right_iff_imp]
  intro refuses
  obtain ⟨earlier, known, earlierValid, published⟩ := written other member
  -- Either way of refusing means that the two delivery keys coincide within one tenant.
  have shared : earlier.event.tenantId = call.event.tenantId ∧
      earlier.event.deliveryKey = call.event.deliveryKey := by
    simp only [Bool.or_eq_true, Bool.and_eq_true, beq_iff_eq] at refuses
    rcases refuses with ⟨⟨tenant, _⟩, key⟩ | identified
    · rw [published.tenantId, delivery.tenantId] at tenant
      rw [published.dedupeKey, delivery.dedupeKey] at key
      exact ⟨tenant, key⟩
    · have named := published.id
      rw [identified] at named
      exact outboxText_inj earlierValid.tenantId valid.tenantId
        (outboxText_eq_of_id (free earlier known call listed) named delivery.id)
  have run : earlier.event.runId = call.event.runId := by
    have events : ∀ {call : AppendCall}, call ∈ calls → call.event ∈ calls.map (·.event) :=
      fun member => mem_map_of_mem member
    rcases deliveryKey_eq_iff.mp shared.2 with ⟨run, _⟩ | overlaps | overlaps
    · exact run
    · exact absurd overlaps (apart _ (events known) _ (events listed) shared.1)
    · exact absurd overlaps (apart _ (events listed) _ (events known) shared.1.symm)
  simp [published.tenantId, published.aggregateId, shared.1, run]

/-- Two events of one tenant share a delivery key or an outbox identifier across runs or dedupe keys
exactly when they overlap. Where no two appended events overlap, the answer to an append does not
depend on the outbox rows of other runs. -/
theorem outbox_identity (left right : CanonicalWorkflowEvent) (setup : OutboxSetup)
    (calls : List AppendCall) : (left.Valid 1 → right.Valid 1 → left.tenantId = right.tenantId →
      NoCollision (left.outboxText workflowEventTopic) (right.outboxText workflowEventTopic) →
      ((((∃ key, left.workflowEventDeliveryDedupeKey = .ok key ∧
            right.workflowEventDeliveryDedupeKey = .ok key) ∨
          ∃ id, left.workflowEventOutboxId = .ok id ∧ right.workflowEventOutboxId = .ok id) →
        left.runId = right.runId ∧ left.dedupeKey = right.dedupeKey) ↔
      ¬ left.Overlaps right ∧ ¬ right.Overlaps left)) ∧
    (NoOverlap (calls.map (·.event)) →
      (∀ first ∈ calls, ∀ second ∈ calls, NoCollision (first.event.outboxText setup.outboxTopic)
        (second.event.outboxText setup.outboxTopic)) →
      ∀ earlier call later, calls = earlier ++ call :: later →
        let store := (publishingMachine setup).after (publishingMachine setup).initial earlier
        ((publishingMachine setup).step store call).1 =
          ((publishingMachine setup).step (store.withOwnOutbox call.event) call).1) := by
  constructor
  · intro leftValid rightValid tenant free
    rw [sharesIdentity_iff leftValid rightValid free, deliveryKey_eq_iff]
    constructor
    · intro determined
      exact ⟨fun overlaps => overlaps.run_ne (determined (.inr (.inl overlaps))).1,
        fun overlaps => overlaps.run_ne (determined (.inr (.inr overlaps))).1.symm⟩
    simp_all
  · intro apart free earlier call later split store
    have listed : call ∈ calls := by rw [split]; simp
    have written : ∀ row ∈ store.outbox, ∃ call ∈ calls, call.event.Valid 0 ∧
        DeliveryOf setup.outboxTopic call.event row := by
      intro row member
      obtain ⟨other, known, delivered⟩ := after_deliveries setup earlier row member
      exact ⟨other, by rw [split]; simp [known], delivered⟩
    by_cases valid : call.event.Valid 0
    · have events : (store.withOwnOutbox call.event).events = store.events := rfl
      exact (append_answer_eq events fun row delivery =>
        refusesDelivery_own apart free written listed valid delivery).symm
    · -- An invalid event is refused before the tables are read.
      cases checked : call.event.assertValid true with
      | ok _ => exact absurd (assertValid_eq_ok.mp checked) valid
      | error fault =>
        show (appendPublished setup call.event call.expectedSequence store).1 =
          (appendPublished setup call.event call.expectedSequence
            (store.withOwnOutbox call.event)).1
        rw [appendPublished, run_evaluate_raised checked, run_evaluate_raised checked]

def deliveredEvent (runId dedupeKey : Str) : CanonicalWorkflowEvent where
  tenantId := "t"
  workflowId := "w"
  runId := runId
  eventType := "step"
  correlationId := "c"
  causationId := "c"
  dedupeKey := dedupeKey
  sequence := 1
  occurredAt := 1
  eventId := "e"

/-- Events of two runs whose keys do not overlap share no delivery identity, and neither is refused
for the other. -/
theorem outbox_identity_apart :
    let left := deliveredEvent "a" "c"
    let right := deliveredEvent "b" "c"
    ¬ ((∃ key, left.workflowEventDeliveryDedupeKey = .ok key ∧
      right.workflowEventDeliveryDedupeKey = .ok key) ∨
      ∃ id, left.workflowEventOutboxId = .ok id ∧ right.workflowEventOutboxId = .ok id) ∧
    let store := (publishingMachine {}).after (publishingMachine {}).initial [⟨left, 0⟩]
    ((publishingMachine {}).step store ⟨right, 0⟩).1 =
      ((publishingMachine {}).step (store.withOwnOutbox right) ⟨right, 0⟩).1 := by
  intro left right
  have differ : sha256Text (left.outboxText workflowEventTopic) ≠
      sha256Text (right.outboxText workflowEventTopic) := by
    decide +kernel
  have apart : ∀ first ∈ [left, right], ∀ second ∈ [left, right], ¬ first.Overlaps second := by
    simp only [forall_mem_cons, not_mem_nil, false_implies, implies_true, and_true]
    refine ⟨⟨?_, ?_⟩, ?_, ?_⟩ <;> rintro ⟨middle, overlaps, _⟩ <;>
      exact absurd (congrArg length overlaps) (by simp [left, right, deliveredEvent, text])
  have free : NoCollision (left.outboxText workflowEventTopic)
    (right.outboxText workflowEventTopic) :=
    fun _ first second => absurd (first.trans second.symm) differ
  have valid : ∀ event : CanonicalWorkflowEvent, event.assertValid false = .ok () →
    event.Valid 1 := fun event checked =>
    CanonicalWorkflowEvent.assertValid_eq_ok.mp checked
  have identity := outbox_identity left right {} [⟨left, 0⟩, ⟨right, 0⟩]
  refine ⟨fun shared => ?_,
    identity.2 (fun first listed second known _ => apart first listed second known) ?_ [_] _ [] rfl⟩
  · have same := (identity.1 (valid left (by decide +kernel)) (valid right (by decide +kernel))
      rfl free).mpr
      ⟨apart left (by simp) right (by simp), apart right (by simp) left (by simp)⟩ shared
    exact absurd same.1 (by decide)
  · simp only [forall_mem_cons, not_mem_nil, false_implies, implies_true, and_true]
    exact ⟨⟨fun _ _ _ => rfl, free⟩, fun digest first second => (free digest second first).symm,
      fun _ _ _ => rfl⟩

/-- The events of two runs share their delivery identity, and the one that is appended second is
refused although its log is empty. -/
theorem outbox_identity_shared :
    let left := deliveredEvent "a:b" "c"
    let right := deliveredEvent "a" "b:c"
    left.assertValid false = .ok () ∧ right.assertValid false = .ok () ∧ left.runId ≠ right.runId ∧
    left.workflowEventDeliveryDedupeKey = .ok "a:b:c" ∧
    right.workflowEventDeliveryDedupeKey = .ok "a:b:c" ∧
    left.workflowEventOutboxId = right.workflowEventOutboxId ∧
    ((publishingMachine {}).answers (publishingMachine {}).initial [⟨left, 0⟩, ⟨right, 0⟩]).map
      (·.map (·.sequence)) = [.ok 1, .error (sequenceConflict 0 0)] := by
  intro left right
  have first : left.workflowEventDeliveryDedupeKey = .ok "a:b:c" := by decide +kernel
  have second : right.workflowEventDeliveryDedupeKey = .ok "a:b:c" := by decide +kernel
  refine ⟨by decide +kernel, by decide +kernel, by decide +kernel, first, second,
    ?_, by decide +kernel⟩
  rfl

end Ananta
