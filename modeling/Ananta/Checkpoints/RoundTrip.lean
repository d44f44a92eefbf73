import Ananta.Checkpoints.Copy

/-! What is left of a checkpoint when it is read back from a copy of its mapping. -/

namespace Ananta

namespace WorkflowState

variable {state : WorkflowState} {upcaster : Upcaster}

/-- What `assert_safe` establishes. -/
structure Safe (state : WorkflowState) : Prop where
  schema : state.schema = workflowStateSchema
  businessData : redactFields state.businessData = state.businessData
  runtimeMetadata : redactFields state.runtimeMetadata = state.runtimeMetadata
  given : ∀ reference ∈ state.secretRefs ++ state.artifactRefs ++ state.openGates,
    strip reference ≠ []
  located : ∀ reference ∈ state.secretRefs, "://" <:+: reference

lemma containsSensitiveKeys_dict {fields : Fields} :
    ¬ containsSensitiveKeys (.dict fields) = true ↔ redactFields fields = fields := by
  simp [containsSensitiveKeys, redactJson]

lemma assertSafe_eq_ok {result : Unit} : state.assertSafe = .ok result ↔ state.Safe := by
  simp only [assertSafe, ok_iff, not_or, containsSensitiveKeys_dict, not_exists, not_and, not_not,
    ne_eq]
  constructor
  · rintro ⟨_, schema, _, ⟨businessData, runtimeMetadata⟩, _, given, located⟩
    exact ⟨schema, businessData, runtimeMetadata, given, located⟩
  · intro safe
    exact ⟨(), safe.schema, (), ⟨safe.businessData, safe.runtimeMetadata⟩, (), safe.given,
      safe.located⟩

/-- What is left of a state when it is read back from a copy. -/
def kept (copy : JsonCopy) (state : WorkflowState) : WorkflowState :=
  { state with
    businessData := copy.fields state.businessData
    runtimeMetadata := copy.fields state.runtimeMetadata
    secretRefs := cleanTuple state.secretRefs
    artifactRefs := cleanTuple state.artifactRefs
    openGates := cleanTuple state.openGates }

/-- References as they are read back: trimmed, distinct and sorted. -/
structure Clean (state : WorkflowState) : Prop where
  secretRefs : cleanTuple state.secretRefs = state.secretRefs
  artifactRefs : cleanTuple state.artifactRefs = state.artifactRefs
  openGates : cleanTuple state.openGates = state.openGates

lemma kept_exact_iff : state.kept .exact = state ↔ state.Clean := by
  constructor
  · intro same
    exact ⟨congrArg secretRefs same, congrArg artifactRefs same, congrArg openGates same⟩
  · rintro ⟨secretRefs, artifactRefs, openGates⟩
    simp only [kept, secretRefs, artifactRefs, openGates]
    rfl

lemma solid_location : ∀ point ∈ text "://", isSpace point = false := by
  have each : (text "://").all (fun point => !isSpace point) = true := by decide
  simpa using each

/-- What is read back is safe. -/
lemma Safe.kept (safe : state.Safe) (copy : JsonCopy) : (state.kept copy).Safe := by
  refine ⟨safe.schema, ?_, ?_, fun reference member => ?_, fun reference member => ?_⟩
  · exact (copy.redact _).trans (congrArg copy.fields safe.businessData)
  · exact (copy.redact _).trans (congrArg copy.fields safe.runtimeMetadata)
  · have cleaned : ∀ values : List Str, reference ∈ cleanTuple values → strip reference ≠ [] := by
      intro values member
      obtain ⟨given, raw, _, rfl⟩ := mem_cleanTuple.mp member
      rwa [strip_strip]
    simp only [WorkflowState.kept, List.mem_append] at member
    rcases member with (member | member) | member <;> exact cleaned _ member
  · obtain ⟨_, raw, listed, rfl⟩ := mem_cleanTuple.mp member
    exact infix_strip solid_location (safe.located raw listed)

lemma fields_distinct : (state.fields.map Prod.fst).Nodup := by
  show [text "schema", text "business_data", text "runtime_metadata", text "secret_refs",
    text "artifact_refs", "open_gates"].Nodup
  decide

/-- Reading the copy of a safe state back. -/
lemma Safe.fromMapping (safe : state.Safe) (copy : JsonCopy) :
    WorkflowState.fromMapping upcaster (copy.fields state.fields) = .ok (state.kept copy) := by
  have read : ∀ {key : String} {value : Value}, (text key, value) ∈ state.fields →
      payloadGet (copy.fields state.fields) key = copy.value value := fun listed =>
    payloadGet_of_mem (copy.distinct fields_distinct) (copy.member listed)
  have schema := safe.schema ▸ textAt_of_str ((read (.head _)).trans (copy.str _))
  have businessData : fieldsAt (copy.fields state.fields) "business_data" =
      .ok (copy.fields state.businessData) := by
    refine fieldsAt_of_dict ((read (.tail _ (.head _))).trans ?_)
    rw [copy.dict, safe.businessData]
  have runtimeMetadata : fieldsAt (copy.fields state.fields) "runtime_metadata" =
      .ok (copy.fields state.runtimeMetadata) := by
    refine fieldsAt_of_dict ((read (.tail _ (.tail _ (.head _)))).trans ?_)
    rw [copy.dict, safe.runtimeMetadata]
  have references : ∀ {key : String} {values : List Str}, (text key, Value.list (values.map .str)) ∈
      state.fields → textsAt (copy.fields state.fields) key = .ok values := fun listed =>
    textsAt_of_list ((read listed).trans (copy.texts _))
  have secretRefs : textsAt (copy.fields state.fields) "secret_refs" = .ok state.secretRefs :=
    references (by simp [fields])
  have artifactRefs : textsAt (copy.fields state.fields) "artifact_refs" = .ok state.artifactRefs :=
    references (by simp [fields])
  have openGates : textsAt (copy.fields state.fields) "open_gates" = .ok state.openGates :=
    references (by simp [fields])
  rw [WorkflowState.fromMapping, bind_of_ok (upcastForLoading_current schema),
    bind_of_ok businessData, bind_of_ok runtimeMetadata, bind_of_ok secretRefs,
      bind_of_ok artifactRefs, bind_of_ok openGates, schema]
  have same : (⟨copy.fields state.businessData, copy.fields state.runtimeMetadata,
      cleanTuple state.secretRefs, cleanTuple state.artifactRefs, cleanTuple state.openGates,
      orElse workflowStateSchema workflowStateSchema⟩ : WorkflowState) = state.kept copy := by
    rw [orElse, if_neg (by decide)]
    simp only [WorkflowState.kept, safe.schema]
  have passed : (state.kept copy).assertSafe = .ok () := assertSafe_eq_ok.mpr (safe.kept copy)
  rw [same, bind_of_ok passed]
  rfl

/-- A clean state that was read back is written as the same text. -/
lemma Clean.dumps_kept (clean : state.Clean) (copy : JsonCopy) :
    (Value.dict (state.kept copy).fields).dumps = (Value.dict state.fields).dumps := by
  have businessData := copy.dumps (redactFields state.businessData)
  have runtimeMetadata := copy.dumps (redactFields state.runtimeMetadata)
  rw [← copy.redact] at businessData runtimeMetadata
  simp only [Value.dumps, Value.dumpsFields_eq_map, fields, kept, clean.secretRefs,
    clean.artifactRefs, clean.openGates, List.map_cons, List.map_nil]
    at businessData runtimeMetadata ⊢
  rw [businessData, runtimeMetadata]

end WorkflowState

namespace SignedCheckpoint

variable {checkpoint : SignedCheckpoint} {upcaster : Upcaster}

/-- What the checks of a checkpoint establish. -/
structure Sound (checkpoint : SignedCheckpoint) : Prop where
  current : checkpoint.schema = signedCheckpointSchema
  safe : checkpoint.state.Safe
  dated : checkpoint.createdAt ≠ .negativeZero

lemma sound_of_assertStructure {result : Unit} (passed : checkpoint.assertStructure = .ok result) :
    checkpoint.Sound := by
  simp only [assertStructure, ok_iff, ne_eq, not_not] at passed
  obtain ⟨_, schema, _, _, _, numbers, safe⟩ := passed
  refine ⟨schema, WorkflowState.assertSafe_eq_ok.mp safe, fun zero => numbers (.inr (.inr ?_))⟩
  rw [zero]
  decide +kernel

/-- The signed mapping of a checkpoint whose state is safe. -/
lemma signingPayload_eq_ok {payload : Fields} : checkpoint.signingPayload = .ok payload ↔
      checkpoint.state.Safe ∧ payload = checkpoint.unsignedFields checkpoint.state.fields := by
  simp only [signingPayload, WorkflowState.toDict, ok_iff]
  constructor
  · rintro ⟨_, ⟨_, safe, rfl⟩, rfl⟩
    exact ⟨WorkflowState.assertSafe_eq_ok.mp safe, rfl⟩
  · rintro ⟨safe, rfl⟩
    exact ⟨_, ⟨(), WorkflowState.assertSafe_eq_ok.mpr safe, rfl⟩, rfl⟩

/-- The whole mapping of a checkpoint. -/
def fields (checkpoint : SignedCheckpoint) : Fields :=
  checkpoint.unsignedFields checkpoint.state.fields ++
    [(text "signature", .str checkpoint.signature)]

lemma toDict_eq_ok {mapping : Fields} :
    checkpoint.toDict = .ok mapping ↔ checkpoint.state.Safe ∧ mapping = checkpoint.fields := by
  simp only [toDict, ok_iff, signingPayload_eq_ok]
  constructor
  · rintro ⟨_, ⟨safe, rfl⟩, rfl⟩
    exact ⟨safe, rfl⟩
  · rintro ⟨safe, rfl⟩
    exact ⟨_, ⟨safe, rfl⟩, rfl⟩

lemma fields_distinct : (checkpoint.fields.map Prod.fst).Nodup := by
  show [text "schema", text "checkpoint_id", text "tenant_id", text "workflow_id", text "run_id",
    text "task_id", "plan_hash", "policy_version", "runtime_id", "runtime_version", "state",
    "revision", "fencing_token", "created_at", "key_id", "signature"].Nodup
  decide +kernel

/-- What is left of a checkpoint when it is read back from a copy. -/
def kept (copy : JsonCopy) (checkpoint : SignedCheckpoint) : SignedCheckpoint :=
  { checkpoint with state := checkpoint.state.kept copy }

/-- Reading the copy of a checkpoint back. -/
lemma fromMapping_kept (sound : checkpoint.Sound) (copy : JsonCopy) :
    fromMapping upcaster (copy.fields checkpoint.fields) = .ok (checkpoint.kept copy) := by
  obtain ⟨current, safe, dated⟩ := sound
  have read : ∀ {key : String} {value : Value}, (text key, value) ∈ checkpoint.fields →
      payloadGet (copy.fields checkpoint.fields) key = copy.value value := fun listed =>
    payloadGet_of_mem (copy.distinct fields_distinct) (copy.member listed)
  have texts : ∀ {key : String} {value : Str}, (text key, Value.str value) ∈ checkpoint.fields →
      textAt (copy.fields checkpoint.fields) key = value := fun listed =>
    textAt_of_str ((read listed).trans (copy.str _))
  have schema : textAt (copy.fields checkpoint.fields) "schema" = signedCheckpointSchema :=
    current ▸ texts (by simp [fields, unsignedFields])
  have state : fieldsAt (copy.fields checkpoint.fields) "state" =
    .ok (copy.fields checkpoint.state.fields) :=
    fieldsAt_of_dict ((read (by simp [fields, unsignedFields])).trans (copy.dict _))
  have revision : intAt (copy.fields checkpoint.fields) "revision" = .ok checkpoint.revision :=
    intAt_of_int ((read (by simp [fields, unsignedFields])).trans (copy.int _))
  have fencingToken : intAt (copy.fields checkpoint.fields) "fencing_token" =
    .ok checkpoint.fencingToken :=
    intAt_of_int ((read (by simp [fields, unsignedFields])).trans (copy.int _))
  have createdAt : floatAt (copy.fields checkpoint.fields) "created_at" =
    .ok checkpoint.createdAt :=
    (floatAt_of_float ((read (by simp [fields, unsignedFields])).trans (copy.float _))).trans
      (congrArg _ (if_neg dated))
  rw [fromMapping, bind_of_ok (upcastForLoading_current schema), bind_of_ok state,
    bind_of_ok (safe.fromMapping copy), bind_of_ok revision, bind_of_ok fencingToken,
      bind_of_ok createdAt, schema, orElse, if_neg (by decide)]
  rw [pure_eq_ok, kept, SignedCheckpoint.mk.injEq]
  refine ⟨?_, ?_, ?_, ?_, ?_, ?_, ?_, ?_, ?_, rfl, rfl, rfl, rfl, ?_, ?_, current⟩
  all_goals exact (texts (by simp [fields, unsignedFields])).symm

end SignedCheckpoint

end Ananta
