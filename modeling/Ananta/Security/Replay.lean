import Ananta.Library.Machine
import Ananta.Security.Command

/-! One-shot acceptance of signed contracts through a store of consumed nonces. -/

namespace Ananta

open List

/-- The state of an `InMemoryReplayNonceStore`: the expiry of each consumed nonce of a tenant. -/
abbrev ReplayNonceStore := Dict (Str × Str) Float64

/-- `InMemoryReplayNonceStore.consume` at a reading of the clock. -/
def consume (values : ReplayNonceStore) (now : Float64) (tenantId nonce : Str)
    (expiresAt : Float64) : Bool × ReplayNonceStore :=
  let kept := values.filter fun _ expiry => now < expiry
  if (kept.get? (tenantId, nonce)).isSome then (false, kept)
  else (true, kept.set (tenantId, nonce) expiresAt)

def consumeOrRaise (now : Float64) (tenantId nonce : Str) (expiresAt : Float64) (reason : String) :
    Call Fault ReplayNonceStore Unit := fun values =>
  match consume values now tenantId nonce expiresAt with
  | (true, after) => (.ok (), after)
  | (false, after) => (.error (signatureError reason), after)

/-- The arguments of `authorize`, with the readings of the clock inside `verify` and inside
`consume`. -/
structure AuthorizeCall where
  envelope : RuntimeAuthorizationEnvelope
  bindings : EnvelopeBindings
  tool : Str := []
  artifact : Str := []
  requestedBudget : Fields := []
  writing : Bool := false
  hubRevalidator : Option (RuntimeAuthorizationEnvelope → Bool) := none
  verifyAt : Float64
  consumeAt : Float64

/-- The checks of `authorize` that do not touch the nonce store. -/
def assertScope (call : AuthorizeCall) : Except Fault Unit := do
  raiseIf (call.tool ≠ [] ∧ call.tool ∉ call.envelope.allowedTools)
    (signatureError "authorization_tool_denied")
  raiseIf (call.artifact ≠ [] ∧ call.artifact ∉ call.envelope.allowedArtifacts)
    (signatureError "authorization_artifact_denied")
  let requested ← normalizeBudgets call.requestedBudget
  requested.forM fun field =>
    match (call.envelope.budgets.find? (·.1 = field.1)).map (·.2) with
    | none => .error (signatureError "authorization_budget_exceeded")
    | some budget => raiseIf (budget.Below field.2) (signatureError "authorization_budget_exceeded")

/-- `AuthorizationVerifier.authorize`. -/
def authorize (policy : EndpointPolicy) (keyRing : VerificationKeyRing) (consumeNonce : Bool)
    (call : AuthorizeCall) : Call Fault ReplayNonceStore Unit := do
  call.envelope.verify policy keyRing call.bindings call.verifyAt
  assertScope call
  if consumeNonce then
    consumeOrRaise call.consumeAt call.envelope.tenantId call.envelope.nonce call.envelope.expiresAt
      "authorization_replay_detected"
  raiseIf (call.writing ∧
    call.hubRevalidator.all (fun revalidates => revalidates call.envelope = false))
    (signatureError "authorization_hub_revalidation_failed")

/-- The arguments of `verify_once`, with the readings of the clock inside `verify` and inside
`consume`. -/
structure VerifyOnceCall where
  command : SignedWorkflowCommand
  bindings : CommandBindings
  verifyAt : Float64
  consumeAt : Float64

/-- `WorkflowCommandVerifier.verify_once`. -/
def verifyOnce (keyRing : VerificationKeyRing) (call : VerifyOnceCall) :
    Call Fault ReplayNonceStore Unit := do
  call.command.verify keyRing call.bindings call.verifyAt
  consumeOrRaise call.consumeAt call.command.tenantId call.command.nonce call.command.expiresAt
    "workflow_command_replay_detected"

inductive ReplayCall where
  | authorize (call : AuthorizeCall)
  | verifyOnce (call : VerifyOnceCall)

namespace ReplayCall

/-- The reading of the clock inside `verify`. -/
def verifyAt : ReplayCall → Float64
  | .authorize call => call.verifyAt
  | .verifyOnce call => call.verifyAt

/-- The reading of the clock inside `consume`. -/
def consumeAt : ReplayCall → Float64
  | .authorize call => call.consumeAt
  | .verifyOnce call => call.consumeAt

def nonceKey : ReplayCall → Str × Str
  | .authorize call => (call.envelope.tenantId, call.envelope.nonce)
  | .verifyOnce call => (call.command.tenantId, call.command.nonce)

def expiresAt : ReplayCall → Float64
  | .authorize call => call.envelope.expiresAt
  | .verifyOnce call => call.command.expiresAt

end ReplayCall

/-- The two verifiers on one nonce store, as a machine that answers one call at a time. -/
def replayMachine (policy : EndpointPolicy) (envelopes commands : VerificationKeyRing) :
    Machine ReplayNonceStore ReplayCall (Except Fault Unit) where
  initial := Dict.empty
  step values
    | .authorize call => authorize policy envelopes true call values
    | .verifyOnce call => verifyOnce commands call values

section

variable (policy : EndpointPolicy) (envelopes commands : VerificationKeyRing)

/-- What a call can answer and do to the store. -/
inductive ReplayEffect (values : ReplayNonceStore) (call : ReplayCall) :
    Except Fault Unit → ReplayNonceStore → Prop where
  | refused {fault : Fault} : ReplayEffect values call (.error fault) values
  | consumed {outcome : Except Fault Unit} (fresh : ¬ call.expiresAt ≤ call.verifyAt)
      (unseen : outcome = .ok () →
        (consume values call.consumeAt call.nonceKey.1 call.nonceKey.2 call.expiresAt).1 = true) :
      ReplayEffect values call outcome
        (consume values call.consumeAt call.nonceKey.1 call.nonceKey.2 call.expiresAt).2

lemma envelope_fresh {policy : EndpointPolicy} {envelopes : VerificationKeyRing}
    {envelope : RuntimeAuthorizationEnvelope} {bindings : EnvelopeBindings}
    {now : Float64} (verified : envelope.verify policy envelopes bindings now = .ok ()) :
    ¬ envelope.expiresAt ≤ now := by
  simp only [RuntimeAuthorizationEnvelope.verify, ok_iff] at verified
  obtain ⟨_, _, _, _, _, _, _, fresh, _⟩ := verified
  exact fresh

lemma command_fresh {commands : VerificationKeyRing} {command : SignedWorkflowCommand}
    {bindings : CommandBindings} {now : Float64}
    (verified : command.verify commands bindings now = .ok ()) : ¬ command.expiresAt ≤ now := by
  simp only [SignedWorkflowCommand.verify, ok_iff] at verified
  obtain ⟨_, _, _, _, _, fresh, _⟩ := verified
  exact fresh

lemma consumeOrRaise_ensures (values : ReplayNonceStore) (now : Float64) (tenantId nonce : Str)
    (expiresAt : Float64) (reason : String) :
    Call.Ensures (consumeOrRaise now tenantId nonce expiresAt reason) values fun outcome after =>
      after = (consume values now tenantId nonce expiresAt).2 ∧
        (outcome = .ok () → (consume values now tenantId nonce expiresAt).1 = true) := by
  unfold Call.Ensures consumeOrRaise
  grind

/-- A call refuses its contract before it consumes the nonce, or consumes it. -/
lemma replay_effect (values : ReplayNonceStore) (call : ReplayCall) :
    ReplayEffect values call ((replayMachine policy envelopes commands).step values call).1
      ((replayMachine policy envelopes commands).step values call).2 := by
  cases call with
  | authorize call =>
    refine Call.ensures_evaluate (fun _ _ => .refused) fun _ verified => ?_
    refine Call.ensures_evaluate (fun _ _ => .refused) fun _ _ => ?_
    refine Call.ensures_sequence (consumeOrRaise_ensures values _ _ _ _ _) ?_ ?_
    · rintro fault after ⟨rfl, _⟩
      exact .consumed (envelope_fresh verified) (nofun)
    · -- What the hub says afterwards does not give the nonce back.
      rintro _ after ⟨rfl, unseen⟩
      exact .consumed (envelope_fresh verified) (fun _ => unseen rfl)
  | verifyOnce call =>
    refine Call.ensures_evaluate (fun _ _ => .refused) fun _ verified => ?_
    refine (consumeOrRaise_ensures values _ _ _ _ _).mono ?_
    rintro outcome after ⟨rfl, unseen⟩
    exact .consumed (command_fresh verified) unseen

end

/-- The successive readings of the clock do not decrease. -/
def Ordered (calls : List ReplayCall) : Prop :=
  (calls.flatMap fun call => [call.verifyAt, call.consumeAt]).Pairwise (· ≤ ·)

/-- A contract that is presented before it expires has not expired when its nonce is consumed
either. -/
def ReplayCall.Timely (call : ReplayCall) : Prop :=
  ¬ call.expiresAt ≤ call.verifyAt → call.consumeAt < call.expiresAt

def acceptances (machine : Machine ReplayNonceStore ReplayCall (Except Fault Unit))
    (values : ReplayNonceStore) (nonceKey : Str × Str) (expiresAt : Float64)
    (calls : List ReplayCall) : Nat :=
  (calls.zip (machine.answers values calls)).countP fun (call, answer) =>
    call.nonceKey = nonceKey ∧ call.expiresAt = expiresAt ∧ answer = .ok ()

variable {policy : EndpointPolicy} {envelopes commands : VerificationKeyRing}
  {values : ReplayNonceStore}
  {nonceKey : Str × Str} {expiresAt : Float64} {call : ReplayCall} {rest : List ReplayCall}

lemma Ordered.cons (ordered : Ordered (call :: rest)) : call.verifyAt ≤ call.consumeAt ∧
    (∀ later ∈ rest, call.consumeAt ≤ later.verifyAt) ∧ Ordered rest := by
  simp only [Ordered, flatMap_cons, cons_append, nil_append, pairwise_cons,
    mem_cons, forall_eq_or_imp] at ordered
  obtain ⟨⟨within, _⟩, between, others⟩ := ordered
  exact ⟨within, fun later member => between _ (mem_flatMap.mpr ⟨later, member, by simp⟩), others⟩

/-- An entry that has not expired outlives every consumption, and its nonce is refused. -/
lemma consume_known {now : Float64} (known : values.get? nonceKey = some expiresAt)
    (alive : now < expiresAt) (key : Str × Str) (expiry : Float64) :
    (consume values now key.1 key.2 expiry).2.get? nonceKey = some expiresAt ∧
      (key = nonceKey → (consume values now key.1 key.2 expiry).1 = false) := by
  have kept :
      (values.filter fun _ expiry => decide (now < expiry)).get? nonceKey = some expiresAt := by
    rw [get?_filter, known]
    simp [alive]
  unfold consume
  dsimp only
  split
  · exact ⟨kept, fun _ => rfl⟩
  · rename_i absent
    have other : nonceKey ≠ (key.1, key.2) := by
      rintro rfl
      rw [kept] at absent
      exact absent rfl
    exact ⟨(get?_set_ne _ other _).trans kept, fun same => absurd same.symm other⟩

/-- A contract of which the store knows the nonce, or which has expired by a reading of the
clock. -/
def Spent (values : ReplayNonceStore) (nonceKey : Str × Str) (expiresAt floor : Float64) : Prop :=
  values.get? nonceKey = some expiresAt ∨ expiresAt ≤ floor

/-- A spent contract stays spent under every call. -/
lemma Spent.step {floor below : Float64} (spent : Spent values nonceKey expiresAt floor)
    (number : below < expiresAt) (early : floor ≤ call.verifyAt)
    (within : call.verifyAt ≤ call.consumeAt) :
    Spent ((replayMachine policy envelopes commands).step values call).2 nonceKey expiresAt
      call.consumeAt := by
  rcases spent with known | expired
  · -- Only a reading at which the contract has expired can purge its entry.
    by_cases alive : call.consumeAt < expiresAt
    · have effect := replay_effect policy envelopes commands values call
      generalize (replayMachine policy envelopes commands).step values call = stepped at effect ⊢
      obtain ⟨_, _⟩ := stepped
      cases effect with
      | refused => exact .inl known
      | consumed => exact .inl (consume_known known alive call.nonceKey call.expiresAt).1
    · exact .inr (Float64.le_of_not_lt within number alive)
  · exact .inr (Float64.le_trans (Float64.le_trans expired early) within)

/-- A spent contract is not accepted. -/
lemma Spent.refused {floor : Float64} (spent : Spent values call.nonceKey call.expiresAt floor)
    (early : floor ≤ call.verifyAt) (timely : call.Timely) :
    ((replayMachine policy envelopes commands).step values call).1 ≠ .ok () := by
  intro accepted
  have effect := replay_effect policy envelopes commands values call
  rw [accepted] at effect
  generalize ((replayMachine policy envelopes commands).step values call).2 = after at effect
  cases effect with
  | consumed fresh unseen =>
    rcases spent with known | expired
    · have seen := (consume_known known (timely fresh) call.nonceKey call.expiresAt).2 rfl
      rw [unseen rfl] at seen
      cases seen
    · exact fresh (Float64.le_trans expired early)

/-- A contract that was accepted had not expired when it was verified, and is spent. -/
lemma spent_of_accepted
    (accepted : ((replayMachine policy envelopes commands).step values call).1 = .ok ()) :
    ¬ call.expiresAt ≤ call.verifyAt ∧
      Spent ((replayMachine policy envelopes commands).step values call).2 call.nonceKey
        call.expiresAt call.consumeAt := by
  have effect := replay_effect policy envelopes commands values call
  rw [accepted] at effect
  generalize ((replayMachine policy envelopes commands).step values call).2 = after at effect ⊢
  cases effect with
  | consumed fresh unseen =>
    have unseen := unseen rfl
    refine ⟨fresh, .inl ?_⟩
    unfold consume at unseen ⊢
    dsimp only at unseen ⊢
    split at unseen
    · cases unseen
    simp_all

/-- A spent contract is never accepted again. -/
lemma Spent.acceptances_eq_zero {floor below : Float64} {calls : List ReplayCall}
    (spent : Spent values nonceKey expiresAt floor) (number : below < expiresAt)
    (early : ∀ call ∈ calls, floor ≤ call.verifyAt) (ordered : Ordered calls)
    (timely : ∀ call ∈ calls, call.Timely) :
    acceptances (replayMachine policy envelopes commands) values nonceKey expiresAt calls = 0 := by
  induction calls generalizing values floor with
  | nil => rfl
  | cons call rest ih =>
    obtain ⟨within, between, others⟩ := ordered.cons
    rw [forall_mem_cons] at early timely
    rw [acceptances, Machine.answers, zip_cons_cons, countP_cons, if_neg]
    · exact ih (spent.step number early.1 within) between others timely.2
    · simp only [decide_eq_true_eq, not_and]
      rintro rfl rfl
      exact spent.refused early.1 timely.1

/-- Two verifiers that share a nonce store accept each signed contract at most once, whatever the
clock does, as long as no nonce is consumed at a reading at which its contract has expired. -/
theorem one_shot_authorization (policy : EndpointPolicy) (envelopes commands : VerificationKeyRing)
    (calls : List ReplayCall) (ordered : Ordered calls) (timely : ∀ call ∈ calls, call.Timely)
    (nonceKey : Str × Str) (expiresAt : Float64) :
    let machine := replayMachine policy envelopes commands
    acceptances machine machine.initial nonceKey expiresAt calls ≤ 1 := by
  intro machine
  generalize machine.initial = values
  -- The first acceptance spends the contract for the rest of the run.
  induction calls generalizing values with
  | nil => exact Nat.zero_le 1
  | cons call rest ih =>
    obtain ⟨_, between, others⟩ := ordered.cons
    rw [forall_mem_cons] at timely
    rw [acceptances, Machine.answers, zip_cons_cons, countP_cons]
    by_cases accepted : call.nonceKey = nonceKey ∧ call.expiresAt = expiresAt ∧
        (machine.step values call).1 = .ok ()
    · rw [if_pos (decide_eq_true accepted)]
      obtain ⟨rfl, rfl, accepted⟩ := accepted
      have ⟨fresh, spent⟩ := spent_of_accepted accepted
      have none : acceptances machine (machine.step values call).2 call.nonceKey call.expiresAt
        rest = 0 :=
        spent.acceptances_eq_zero (timely.1 fresh) between others timely.2
      rw [acceptances] at none
      rw [none]
    · rw [if_neg (by simpa using accepted)]
      exact ih others timely.2 _

def sampleEnvelope : RuntimeAuthorizationEnvelope where
  envelopeId := "envelope"
  tenantId := "tenant"
  workflowId := "workflow"
  runId := "run"
  stepId := "step"
  planHash := "plan"
  policyVersion := "policy"
  allowedTools := []
  allowedArtifacts := []
  budgets := []
  issuedAt := 1
  expiresAt := 2
  nonce := "nonce"
  keyId := "key"
  signature := "signature"

def sampleUse (verifyAt consumeAt : Float64) : ReplayCall :=
  .authorize {
    envelope := sampleEnvelope
    bindings := ⟨"tenant", "workflow", "run", "step", "plan", "policy"⟩
    verifyAt
    consumeAt }

def trustingKeyRing : VerificationKeyRing := ⟨"hmac-sha256", fun _ _ _ _ _ => .ok ()⟩

/-- The sample envelope is accepted once in three uses, the last of which comes after its end. -/
theorem one_shot_authorization_sample :
    let calls := [sampleUse 1 1, sampleUse 1 1, sampleUse 3 3]
    Ordered calls ∧ (∀ call ∈ calls, call.Timely) ∧
      let machine := replayMachine (fun _ _ => none) trustingKeyRing trustingKeyRing
      acceptances machine machine.initial ("tenant", "nonce") 2 calls ≤ 1 := by
  intro calls
  have ordered : Ordered calls := by
    unfold Ordered
    decide +kernel
  have timely : ∀ call ∈ calls, call.Timely := by
    unfold ReplayCall.Timely
    decide +kernel
  exact ⟨ordered, timely, one_shot_authorization _ _ _ _ ordered timely _ _⟩

/-- The second use verifies the envelope before it expires and consumes the nonce after the store
forgot it. -/
theorem envelope_accepted_twice : Ordered [sampleUse 1 1, sampleUse 1 3] ∧
    let machine := replayMachine (fun _ _ => none) trustingKeyRing trustingKeyRing
    machine.answers machine.initial [sampleUse 1 1, sampleUse 1 3] = [.ok (), .ok ()] := by
  constructor
  · unfold Ordered
    decide +kernel
  · decide +kernel

end Ananta
