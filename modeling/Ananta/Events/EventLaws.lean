import Ananta.Events.Event

/-! What the check of an event accepts, and that re-parsing a re-parsed event changes nothing. -/

namespace Ananta

/-- The texts that `require_canonical_identity` returns unchanged. -/
structure IsCanonicalIdentity (value : Str) : Prop where
  nonempty : value ≠ []
  trimmed : strip value = value
  short : value.length ≤ defaultIdentityMaxLength
  printable : ∀ point ∈ value, 32 ≤ point.val ∧ point.val ≠ 127

/-- Exactly the canonical identities are returned, unchanged. -/
lemma requireCanonicalIdentity_eq_ok {value result : Str} {fieldName : String} :
    requireCanonicalIdentity value fieldName = .ok result ↔ IsCanonicalIdentity value ∧
      result = value := by
  -- Each guard contributes its negation.
  simp only [requireCanonicalIdentity, ok_iff, not_not, not_lt, Bool.not_eq_true, List.any_eq_false,
    Bool.or_eq_false_iff, decide_eq_false_iff_not, beq_eq_false_iff_ne]
  constructor
  · rintro ⟨_, nonempty, _, trimmed, _, short, _, printable, rfl⟩
    exact ⟨⟨nonempty, trimmed.symm, short, printable⟩, rfl⟩
  · rintro ⟨⟨nonempty, trimmed, short, printable⟩, rfl⟩
    exact ⟨(), nonempty, (), trimmed.symm, (), short, (), printable, rfl⟩

namespace CanonicalWorkflowEvent

/-- What `validate` demands of an event whose sequence number is at least the given one. -/
structure Valid (event : CanonicalWorkflowEvent) (least : Int) : Prop where
  tenantId : IsCanonicalIdentity event.tenantId
  workflowId : IsCanonicalIdentity event.workflowId
  runId : IsCanonicalIdentity event.runId
  eventType : event.eventType ≠ []
  correlationId : event.correlationId ≠ []
  causationId : event.causationId ≠ []
  dedupeKey : event.dedupeKey ≠ []
  eventId : event.eventId ≠ []
  schema : event.schema = canonicalWorkflowEventSchema
  sequence : least ≤ event.sequence
  attempt : 0 ≤ event.attempt
  occurredAt : ¬ event.occurredAt ≤ 0

/-- An identity has no issues exactly when it is canonical. -/
lemma identityIssues_eq_nil {fieldName : String} {value : Str} :
    identityIssues fieldName value = [] ↔ IsCanonicalIdentity value := by
  unfold identityIssues
  cases checked : requireCanonicalIdentity value fieldName with
  | ok result => simpa using (requireCanonicalIdentity_eq_ok.mp checked).1
  | error fault =>
    simp only [List.cons_ne_nil, false_iff]
    intro canonical
    rw [requireCanonicalIdentity_eq_ok.mpr ⟨canonical, rfl⟩] at checked
    cases checked

lemma requiredIssues_eq_nil {fieldName : String} {value : Str} :
    requiredIssues fieldName value = [] ↔ value ≠ [] := by
  unfold requiredIssues
  split <;> simp_all

variable {event : CanonicalWorkflowEvent}

/-- The check of an event accepts exactly the valid ones. -/
lemma assertValid_eq_ok {allowUnsequenced : Bool} :
    event.assertValid allowUnsequenced = .ok () ↔
      event.Valid (if allowUnsequenced then 0 else 1) := by
  -- No issue is reported exactly when each part of the list is empty.
  rw [assertValid, raiseIf_eq_ok, not_not]
  simp only [validate, List.append_eq_nil_iff, identityIssues_eq_nil, requiredIssues_eq_nil,
    ite_eq_right_iff, List.cons_ne_nil, imp_false, not_lt]
  constructor
  · rintro ⟨⟨⟨⟨⟨⟨⟨⟨⟨⟨⟨tenant, workflow⟩, run⟩, kind⟩, correlation⟩, causation⟩, dedupe⟩,
      identifier⟩, schema⟩, sequence⟩, attempt⟩, occurred⟩
    exact ⟨tenant, workflow, run, kind, correlation, causation, dedupe, identifier,
      not_not.mp schema, sequence, attempt, occurred⟩
  · rintro ⟨tenant, workflow, run, kind, correlation, causation, dedupe, identifier, schema,
      sequence,
      attempt, occurred⟩
    simp_all

lemma withSequence_ok (valid : event.Valid 0) {sequence : Int}
    (positive : 1 ≤ sequence) : event.withSequence sequence = .ok { event with sequence } := by
  have kept : { event with sequence }.Valid 1 := { valid with sequence := positive }
  simp only [withSequence, ok_iff]
  exact ⟨(), assertValid_eq_ok.mpr kept, trivial⟩

/-- An event that re-parsing leaves as it is. -/
structure Canonical (event : CanonicalWorkflowEvent) : Prop extends event.Valid 1 where
  unchanged : event.parsed = event

/-- Re-parsing yields the parsed fields when they are valid, and raises otherwise. -/
lemma clone_eq_ok {result : CanonicalWorkflowEvent} :
    event.clone = .ok result ↔ event.parsed.Valid 1 ∧ result = event.parsed := by
  simp only [clone, fromMapping, ok_iff]
  constructor
  · rintro ⟨_, valid, rfl⟩
    exact ⟨assertValid_eq_ok.mp valid, rfl⟩
  · rintro ⟨valid, rfl⟩
    exact ⟨(), assertValid_eq_ok.mpr valid, rfl⟩

lemma orElse_of_ne {first second : Str} (present : first ≠ []) : orElse first second = first :=
  if_neg present

lemma orElse_strip (value : Str) {default : Str} (trimmed : strip default = default)
    (present : default ≠ []) :
    strip (orElse (strip value) default) = orElse (strip value) default ∧
      orElse (strip value) default ≠ [] := by
  unfold orElse
  split
  · exact ⟨trimmed, present⟩
  · exact ⟨strip_strip _, by assumption⟩

/-- Re-parsed fields that are valid are not changed by re-parsing them again. -/
lemma parsed_canonical (valid : event.parsed.Valid 1) : event.parsed.Canonical := by
  refine ⟨valid, ?_⟩
  have actor : strip event.parsed.actor = event.parsed.actor ∧ event.parsed.actor ≠ [] :=
    orElse_strip _ (by decide) (by decide)
  have dedupe : strip (orElse event.parsed.dedupeKey event.parsed.eventId) =
      event.parsed.dedupeKey := by
    rw [orElse_of_ne valid.dedupeKey]
    exact strip_strip _
  have schema : orElse event.parsed.schema canonicalWorkflowEventSchema = event.parsed.schema := by
    rw [valid.schema]
    decide
  have payload : redactFields event.parsed.payload = event.parsed.payload :=
    redactFields_redactFields _
  rw [parsed, dedupe, schema, payload, orElse_of_ne actor.2, actor.1, orElse_of_ne actor.2]
  simp only [parsed, strip_strip]

lemma Canonical.clone (canonical : event.Canonical) : event.clone = .ok event :=
  clone_eq_ok.mpr ⟨by rw [canonical.unchanged]; exact canonical.toValid, canonical.unchanged.symm⟩

lemma canonical_of_clone {result : CanonicalWorkflowEvent} (cloned : event.clone = .ok result) :
    result.Canonical ∧ result = event.parsed := by
  obtain ⟨valid, rfl⟩ := clone_eq_ok.mp cloned
  exact ⟨parsed_canonical valid, rfl⟩

end CanonicalWorkflowEvent

end Ananta
