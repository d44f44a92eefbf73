import Ananta.Checkpoints.RoundTrip
import Ananta.Security.IssuingLaws

/-! Signatures of checkpoints and envelopes after they were stored and read back. -/

namespace Ananta

open SignedCheckpoint

def VerificationKeyRing.ReadsText (keyRing : VerificationKeyRing) : Prop :=
  ∀ space left right keyId signature contractId,
    canonicalJson (.dict left) = canonicalJson (.dict right) →
    keyRing.verify space left keyId signature contractId =
      keyRing.verify space right keyId signature contractId

/-- `HmacKeyRing`, for some function of a key and a message as its authentication code. -/
structure HmacKeyRing where
  code : List UInt8 → List UInt8 → Str
  keys : Dict Str (List UInt8)
  activeKeyId : Str
  revokedKeys : List Str := []
  revokedContracts : List Str := []

namespace HmacKeyRing

variable (ring : HmacKeyRing)

/-- `_signature`. -/
def signature (key : List UInt8) (space : Str) (payload : Fields) : Except Fault Str := do
  let rendered ← canonicalJson (.dict payload)
  match encodeUtf8 (space ++ "\n" ++ rendered) with
  | some message => .ok (ring.code key message)
  | none => .error ⟨.unicodeEncodeError, "surrogates not allowed"⟩

/-- `sign`. -/
def sign (space : Str) (payload : Fields) (keyId : Str) : Except Fault (Str × Str) := do
  let selected := orElse keyId ring.activeKeyId
  raiseIf (selected ∈ ring.revokedKeys) (signatureError "active_signing_key_revoked")
  match ring.keys.get? selected with
  | none => .error (signatureError "signing_key_unknown")
  | some key => do
    let signature ← ring.signature key space payload
    return (selected, signature)

/-- `verify`. -/
def verify (space : Str) (payload : Fields) (keyId signature contractId : Str) :
    Except Fault Unit := do
  raiseIf (contractId ∈ ring.revokedContracts) (signatureError "signed_contract_revoked")
  raiseIf (keyId ∈ ring.revokedKeys) (signatureError "signing_key_revoked")
  match ring.keys.get? keyId with
  | none => .error (signatureError "signing_key_unknown")
  | some key => do
    let expected ← ring.signature key space payload
    raiseIf (expected ≠ signature) (signatureError "signature_invalid")

def keyRing : SigningKeyRing where
  signatureAlgorithm := "hmac-sha256"
  verify := ring.verify
  activeKeyId := ring.activeKeyId
  sign := ring.sign

lemma readsText : ring.keyRing.ReadsText := by
  intro space left right keyId signature contractId same
  show ring.verify _ _ _ _ _ = ring.verify _ _ _ _ _
  simp only [verify, HmacKeyRing.signature, same]

end HmacKeyRing

namespace SignedCheckpoint

variable {checkpoint : SignedCheckpoint} {upcaster : Upcaster}

def readBack (upcaster : Upcaster) (backend : CheckpointBackend) (checkpoint : SignedCheckpoint) :
    Except Fault SignedCheckpoint := do
  let mapping ← checkpoint.toDict
  fromMapping upcaster (backend.copy.fields mapping)

lemma issued_eq {keyRing : SigningKeyRing} {request : CheckpointRequest}
    (issued : issue keyRing request = .ok checkpoint) :
    checkpoint.state = request.state ∧ checkpoint.Sound := by
  simp only [issue, ok_iff] at issued
  obtain ⟨_, _, _, structured, _, _, _, _, rfl⟩ := issued
  exact ⟨rfl, { sound_of_assertStructure structured with }⟩

lemma readBack_eq (sound : checkpoint.Sound) (backend : CheckpointBackend) :
    checkpoint.readBack upcaster backend = .ok (checkpoint.kept backend.copy) := by
  rw [readBack, bind_of_ok (toDict_eq_ok.mpr ⟨sound.safe, rfl⟩)]
  exact fromMapping_kept sound backend.copy

lemma clone_eq (sound : checkpoint.Sound) :
    checkpoint.clone upcaster = .ok (checkpoint.kept .exact) := by
  rw [clone, bind_of_ok (toDict_eq_ok.mpr ⟨sound.safe, rfl⟩)]
  exact fromMapping_kept sound .exact

lemma kept_exact_iff : checkpoint.kept .exact = checkpoint ↔ checkpoint.state.Clean := by
  rw [← WorkflowState.kept_exact_iff]
  constructor
  · exact fun same => congrArg state same
  · intro same
    rw [kept, same]

/-- The signed mapping tells the references apart. -/
lemma clean_of_signingPayload (safe : checkpoint.state.Safe)
    (same : (checkpoint.kept .exact).signingPayload = checkpoint.signingPayload) :
    checkpoint.state.Clean := by
  have left : (checkpoint.kept .exact).signingPayload =
      .ok ((checkpoint.kept .exact).unsignedFields (checkpoint.state.kept .exact).fields) :=
    signingPayload_eq_ok.mpr ⟨safe.kept .exact, rfl⟩
  have right := signingPayload_eq_ok.mpr ⟨safe, rfl⟩
  rw [left, right, Except.ok.injEq] at same
  have states : (checkpoint.state.kept .exact).fields = checkpoint.state.fields := by
    simpa [unsignedFields, kept] using same
  have texts : ∀ {left right : List Str}, left.map Value.str = right.map Value.str → left = right :=
    fun equal => List.map_injective_iff.mpr (fun _ _ => Value.str.inj) equal
  simp only [WorkflowState.fields, WorkflowState.kept, List.cons.injEq, Prod.mk.injEq,
    Value.list.injEq, true_and, and_true] at states
  exact ⟨texts states.2.2.1, texts states.2.2.2.1, texts states.2.2.2.2⟩

/-- A clean checkpoint that was read back verifies as before. -/
lemma verify_kept {keyRing : VerificationKeyRing} (reads : keyRing.ReadsText)
    (clean : checkpoint.state.Clean) (copy : JsonCopy) {bindings : CheckpointBindings}
    {minFencingToken : Int}
    (verified : checkpoint.verify keyRing bindings minFencingToken = .ok ()) :
    (checkpoint.kept copy).verify keyRing bindings minFencingToken = .ok () := by
  simp only [verify, bind_eq_ok, signingPayload_eq_ok] at verified ⊢
  obtain ⟨_, structured, _, bound, _, current, payload, ⟨safe, rfl⟩, accepted⟩ := verified
  refine ⟨(), ?_, (), bound, (), current, _, ⟨safe.kept copy, rfl⟩, ?_⟩
  · simp only [assertStructure, bind_eq_ok, WorkflowState.assertSafe_eq_ok] at structured ⊢
    obtain ⟨_, schema, _, required, _, numbers, _⟩ := structured
    exact ⟨(), schema, (), required, (), numbers, safe.kept copy⟩
  · refine (reads _ _ _ _ _ _ ?_).trans accepted
    -- The two payloads differ in the order of the keys of the state at most.
    have same := clean.dumps_kept copy
    simp only [canonicalJson, Value.dumps, Value.dumpsFields_eq_map, unsignedFields, kept,
      List.map_cons, List.map_nil] at same ⊢
    rw [same]

end SignedCheckpoint

/-- Signatures survive persistence as long as the references of the signed state are clean. Exactly
then a checkpoint is read back with the payload that was signed, and from every store it verifies as
before. An envelope is read back with the payload that was signed unless it was issued at the
negative zero. -/
theorem signatures_survive_persistence (parser : EndpointParser) (upcaster : Upcaster) :
    (∀ keyRing request checkpoint, issue keyRing request = .ok checkpoint →
      ((∃ reread, checkpoint.clone upcaster = .ok reread ∧
        reread.signingPayload = checkpoint.signingPayload) ↔ request.state.Clean) ∧
      (request.state.Clean → checkpoint.clone upcaster = .ok checkpoint ∧
        ∀ backend, ∃ reread, checkpoint.readBack upcaster backend = .ok reread ∧
          ∀ verifier : VerificationKeyRing, verifier.ReadsText → ∀ bindings minFencingToken,
            checkpoint.verify verifier bindings minFencingToken = .ok () →
            reread.verify verifier bindings minFencingToken = .ok ())) ∧
    ∀ keyRing request envelope,
      RuntimeAuthorizationEnvelope.issue (normalizeProviderEndpointIdentity parser)
        keyRing request = .ok envelope →
      let reads := RuntimeAuthorizationEnvelope.fromMapping
        (normalizeProviderEndpointIdentity parser) upcaster envelope.toDict
      ((∃ reread, reads = .ok reread ∧ reread.signingPayload = envelope.signingPayload) ↔
        request.now ≠ .negativeZero) ∧ (request.now ≠ .negativeZero → reads = .ok envelope) := by
  refine ⟨fun keyRing request checkpoint issued => ?_, fun keyRing request envelope issued => ?_⟩
  · obtain ⟨same, sound⟩ := issued_eq issued
    have cloned : checkpoint.clone upcaster = .ok (checkpoint.kept .exact) := clone_eq sound
    rw [← same]
    refine ⟨⟨?_, fun clean => ?_⟩, fun clean => ⟨?_, fun backend => ?_⟩⟩
    · rintro ⟨reread, read, payload⟩
      rw [cloned] at read
      cases read
      exact clean_of_signingPayload sound.safe payload
    · exact ⟨_, cloned, congrArg _ (kept_exact_iff.mpr clean)⟩
    · rw [cloned, kept_exact_iff.mpr clean]
    · exact ⟨_, readBack_eq sound backend, fun verifier reads bindings minimum verified =>
        verify_kept reads clean backend.copy verified⟩
  · intro reads
    obtain ⟨issuedAt, expiresAt⟩ := RuntimeAuthorizationEnvelope.dates_of_issue issued
    have read := RuntimeAuthorizationEnvelope.fromMapping_toDict upcaster
      (RuntimeAuthorizationEnvelope.normalized_of_issue issued)
    rw [issuedAt, show envelope.expiresAt.orZero = envelope.expiresAt from if_neg expiresAt] at read
    have whole (signed : request.now ≠ .negativeZero) : reads = .ok envelope := by
      rw [show reads = _ from read, show request.now.orZero = request.now from if_neg signed,
        ← issuedAt]
    refine ⟨⟨?_, fun signed => ⟨_, whole signed, rfl⟩⟩, whole⟩
    -- The sign that was lost stands in the payload.
    rintro ⟨reread, same, payload⟩ zero
    cases read.symm.trans same
    have times : request.now.orZero = request.now := by
      simpa [RuntimeAuthorizationEnvelope.signingPayload, issuedAt] using payload
    rw [zero] at times
    exact absurd times (by decide +kernel)

def echoRing : HmacKeyRing :=
  { code := fun _ message => message.map fun byte => ⟨byte.toNat, by have := byte.toNat_lt; omega⟩
    keys := Dict.empty.set "k" [], activeKeyId := "k" }

def gateRequest (openGates : List Str) : CheckpointRequest :=
  { tenantId := "t", workflowId := "w", runId := "r", taskId := "n", planHash := "p",
    policyVersion := "v", runtimeId := "native", runtimeVersion := "1", state := { openGates },
    revision := 1, fencingToken := 1, now := 1, checkpointId := "c", generatedId := [] }

theorem signatures_survive_persistence_sorted :
    ∃ checkpoint, issue echoRing.keyRing (gateRequest ["a", "b"]) = .ok checkpoint ∧
      checkpoint.clone (fun _ _ => .ok []) = .ok checkpoint := by
  have returned : (issue echoRing.keyRing (gateRequest ["a", "b"])).isOk = true := by
    decide +kernel
  cases issued : issue echoRing.keyRing (gateRequest ["a", "b"]) with
  | error fault =>
    rw [issued] at returned
    cases returned
  | ok checkpoint =>
    have survives := (signatures_survive_persistence (fun _ => none) (fun _ _ => .ok [])).1
      _ _ _ issued
    exact ⟨checkpoint, rfl, (survives.2 ⟨rfl, rfl, by decide⟩).1⟩

/-- How a checkpoint verifies when it is issued and after it was read back. -/
def verdicts (ring : HmacKeyRing) (request : CheckpointRequest) :
    Except Fault (Except Fault Unit × Except Fault Unit) := do
  let bindings : CheckpointBindings :=
    ⟨request.tenantId, request.workflowId, request.runId, request.taskId, request.planHash,
      request.policyVersion⟩
  let checkpoint ← issue ring.keyRing request
  let reread ← checkpoint.clone fun _ _ => .ok []
  return (checkpoint.verify ring.keyRing.toVerificationKeyRing bindings 0,
    reread.verify ring.keyRing.toVerificationKeyRing bindings 0)

theorem signature_lost_by_sorting : verdicts echoRing (gateRequest ["b", "a"]) =
      .ok (.ok (), .error (signatureError "signature_invalid")) := by
  decide +kernel

end Ananta
