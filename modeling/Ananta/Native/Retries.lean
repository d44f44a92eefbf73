import Ananta.Native.Calls
import Ananta.Ownership.RetryBudget

/-! The attempts that a Native run counts for its nodes, and the retries that the ownership store
counts for the run. -/

namespace Ananta

open List NativeRunState Call

variable {ports : NativePorts} {request : NativeGraphRequest} {plan : ExecutionPlan}
  {base world after : NativeWorld}
variable {state next : NativeRunState}

def budgetRefusals : List String := ["retry_budget_exhausted", "retry_budget_maximum_mismatch"]

variable {fault : Fault}

lemma assertValid_unbudgeted {record : ExecutionOwnership}
    (refused : record.assertValid = .error fault) : fault.message ∉ budgetRefusals := by
  unfold ExecutionOwnership.assertValid raiseIf at refused
  split_ifs at refused <;> cases refused <;> decide

/-- A step with a record is claimed again, and the budget of its run is used up or was declared with
another maximum. -/
def BudgetMet (claimed : ClaimRequest) (store : OwnershipStore) : Prop :=
  store.current.get? claimed.key ≠ none ∧ (claimed.maximumRetries ≤ store.used claimed.run ∨
    ∃ configured ∈ store.retryMaximum.get? claimed.run, configured ≠ claimed.maximumRetries)

/-- Nothing is refused for the sake of the budget without reason. -/
def BudgetFair (claimed : ClaimRequest) (store : OwnershipStore) {α : Type}
    (outcome : Except Fault α) (_ : OwnershipStore) : Prop :=
  ∀ fault, outcome = .error fault → fault.message ∈ budgetRefusals → BudgetMet claimed store

variable {claimed : ClaimRequest} {store last : OwnershipStore}

lemma budgetFair_raise {α : Type}
    (other : fault.message ∉ budgetRefusals) :
    BudgetFair claimed store (.error fault : Except Fault α) last := by
  rintro _ ⟨⟩ budget
  exact absurd budget other

lemma budgetFair_ok {α : Type} {value : α} :
    BudgetFair claimed store (.ok value : Except Fault α) last :=
  nofun

/-- A claim is refused for the sake of the budget only where the budget is met. -/
lemma claim_budgetFair (claimed : ClaimRequest) (clock : Float64) (uuid : Str)
    (store : OwnershipStore) :
    Ensures (claim claimed clock uuid) store (BudgetFair claimed store) := by
  have writes : ∀ {record : ExecutionOwnership} {granted : OwnershipClaim} {last : OwnershipStore},
      Ensures (do record.assertValid; saveOwnership claimed.key record; return granted :
        OwnershipM OwnershipClaim) last (BudgetFair claimed store) := by
    intro record granted last
    refine ensures_evaluate (fun fault refused => budgetFair_raise (assertValid_unbudgeted refused))
      fun _ _ => ?_
    rw [saveOwnership, bind_assoc]
    refine ensures_evaluate (fun fault refused => budgetFair_raise (assertValid_unbudgeted refused))
      fun _ _ => ?_
    exact ensures_write budgetFair_ok
  refine ensures_evaluate (fun fault refused => budgetFair_raise ?_) fun _ _ => ensures_read ?_
  · unfold validateLease raiseIf at refused
    split_ifs at refused <;> cases refused
    decide
  cases found : store.current.get? claimed.key with
  | none => exact writes
  | some current =>
    refine ensures_guard (fun _ => budgetFair_raise (by decide)) fun _ => ?_
    split
    · exact budgetFair_ok
    split
    · exact budgetFair_ok
    -- The budget is charged before the record is written.
    have known : store.current.get? claimed.key ≠ none := by simp [found]
    have charges : Ensures
        (consumeRetry claimed.tenantId claimed.runId (attemptIdOf uuid) "hub_task"
        claimed.maximumRetries) store (BudgetFair claimed store) := by
      refine ensures_guard (fun _ => budgetFair_raise (by decide)) fun _ => ensures_read ?_
      refine ensures_guard (fun other _ _ _ => ⟨known, .inr other⟩) fun _ => ?_
      split
      · exact ensures_guard (fun _ => budgetFair_raise (by decide)) fun _ => budgetFair_ok
      · exact ensures_guard (fun spent _ _ _ => ⟨known, .inl spent⟩) fun _ =>
          ensures_write budgetFair_ok
    refine ensures_sequence charges (fun fault _ fair => ?_) fun _ _ _ => writes
    rintro _ ⟨⟩
    exact fair fault rfl

/-- What a claim charges: at most one retry, for a step that has a record, and against the maximum
that it declares. -/
structure ClaimCharge (claimed : ClaimRequest) (store : OwnershipStore)
    (outcome : Except Fault OwnershipClaim) (last : OwnershipStore) : Prop where
  maximum : ∀ configured ∈ last.retryMaximum.get? claimed.run,
    configured = claimed.maximumRetries ∨ configured ∈ store.retryMaximum.get? claimed.run
  used : last.used claimed.run ≤ store.used claimed.run ∨
    last.used claimed.run = store.used claimed.run + 1 ∧ store.current.get? claimed.key ≠ none
  known : ∀ key ∈ last.current.keys, key = claimed.key ∨ key ∈ store.current.keys
  declined : ∀ claim, outcome = .ok claim → claim.acquired = false → last = store

lemma ClaimEffect.charge {clock : Float64} {uuid : Str}
    {outcome : Except Fault OwnershipClaim}
    (effect : ClaimEffect claimed clock uuid store outcome last) :
    ClaimCharge claimed store outcome last := by
  have written : ∀ {earlier : OwnershipStore} {record : ExecutionOwnership},
      earlier.current = store.current →
      ∀ key ∈ (earlier.saved claimed.key record).current.keys, key = claimed.key ∨
        key ∈ store.current.keys := by
    intro earlier record same key listed
    change key ∈ (earlier.current.set claimed.key record).keys at listed
    rw [Dict.mem_keys, get?_set] at listed
    split at listed
    · exact .inl ‹_›
    · exact .inr (by rwa [Dict.mem_keys, ← same])
  have charging : (store.charged claimed.run (attemptIdOf uuid)
      "hub_task" (store.used claimed.run + 1)
      claimed.maximumRetries).retryMaximum.get? claimed.run = some claimed.maximumRetries :=
    get?_set_self _ _ _
  have counting : (store.charged claimed.run (attemptIdOf uuid)
      "hub_task" (store.used claimed.run + 1)
      claimed.maximumRetries).used claimed.run = store.used claimed.run +
        1 := (used_charged _ _).trans (if_pos rfl)
  -- Only a recovery charges, also one that is refused afterwards.
  cases effect with
  | kept _ => exact ⟨fun _ declared => .inr declared, .inl le_rfl, fun _ listed => .inr listed,
      fun _ _ _ => rfl⟩
  | began _ absent _ =>
    exact ⟨fun _ declared => .inr declared, .inl le_rfl,
      written rfl, by rintro _ ⟨⟩ impossible; cases impossible⟩
  | recovered recovers settled _ =>
    have known : store.current.get? claimed.key ≠ none := by simp [recovers.found]
    rcases settled with ⟨_, rfl⟩ | ⟨_, rfl⟩
    · exact ⟨fun _ declared => .inr declared, .inl le_rfl,
        written rfl, by rintro _ ⟨⟩ impossible; cases impossible⟩
    · exact ⟨fun _ declared => .inl (Option.some.inj (declared.symm.trans charging)),
        .inr ⟨counting, known⟩, written rfl, by rintro _ ⟨⟩ impossible; cases impossible⟩
  | wasted wasted =>
    obtain ⟨current, recovers, _⟩ := wasted
    exact ⟨fun _ declared => .inl (Option.some.inj (declared.symm.trans charging)),
      .inr ⟨counting, by simp [recovers.found]⟩, fun _ listed => .inr listed, by simp⟩

section

def NativeRunState.attemptsOf (state : NativeRunState) (nodeId : Str) : Int :=
  (state.attempts.get? nodeId).getD 0

/-- A sum over the nodes that are handed out, of what goes beyond the first attempt. -/
def ExecutionPlan.beyondFirst (plan : ExecutionPlan) (attempts : ExecutionNode → Int) : Int :=
  ((plan.nodes.filter (·.IsTask)).map fun node => max 0 (attempts node - 1)).sum

def NativeRunState.retries (plan : ExecutionPlan) (state : NativeRunState) : Int :=
  plan.beyondFirst fun node => state.attemptsOf node.nodeId

def ExecutionPlan.nodeRetries (plan : ExecutionPlan) : Int :=
  plan.beyondFirst fun node => (plan.budgetOf node).maxAttempts

def ExecutionPlan.planRetries (plan : ExecutionPlan) : Int := max 0 (plan.budget.maxAttempts - 1)

variable {fewer more : ExecutionNode → Int}

lemma beyondFirst_mono (atMost : ∀ node ∈ plan.nodes, fewer node ≤ more node) :
    plan.beyondFirst fewer ≤ plan.beyondFirst more := by
  refine sum_le_sum fun node listed => ?_
  have least := atMost node (mem_of_mem_filter listed)
  omega

/-- One more attempt of a node that was attempted is one more retry. -/
lemma beyondFirst_lt (atMost : ∀ node ∈ plan.nodes, fewer node ≤ more node)
    {node : ExecutionNode} (listed : node ∈ plan.nodes) (task : node.IsTask)
    (attempted : 1 ≤ fewer node) (less : fewer node < more node) :
    plan.beyondFirst fewer < plan.beyondFirst more := by
  refine sum_lt_sum _ _ (fun other member => ?_) ⟨node, ?_, ?_⟩
  · have least := atMost other (mem_of_mem_filter member)
    omega
  · exact mem_filter.mpr ⟨listed, by simpa using task⟩
  · omega

variable (request plan state)

/-- What a state counts stays within the budgets of the nodes, and a node that failed was attempted
as often as its budget allows. -/
structure AttemptsKept : Prop where
  capped : ∀ node ∈ plan.nodes, 0 ≤ state.attemptsOf node.nodeId ∧
    state.attemptsOf node.nodeId ≤ (plan.budgetOf node).maxAttempts
  underway : ∀ node ∈ plan.nodes, state.running.get? node.nodeId ≠ none →
    1 ≤ state.attemptsOf node.nodeId
  spent : ∀ node ∈ plan.nodes, node.nodeType ≠ "merge" → state.failed.get? node.nodeId ≠ none →
    state.attemptsOf node.nodeId = (plan.budgetOf node).maxAttempts

def TurnsLeft : Prop :=
  ∀ node ∈ plan.nodes, node.nodeId ∉ state.terminal → state.running.get? node.nodeId = none →
    state.attemptsOf node.nodeId < (plan.budgetOf node).maxAttempts

/-- As long as the run goes on, every node that waits for its turn has an attempt left. -/
def AttemptsLeft : Prop := state.status = .running → TurnsLeft plan state

/-- The store has counted no retry that the state does not count, and has no record of a node that
was not attempted. -/
structure StoreAgrees (ownership : OwnershipStore) : Prop where
  used : ownership.used (plan.tenantId, request.runId) ≤ state.retries plan
  begun : ∀ key ∈ ownership.current.keys, InRun (plan.tenantId, request.runId) key →
    1 ≤ state.attemptsOf key.2.2

variable {request plan state} {nodeId : Str}

/-- A node that waits before and after a change has an attempt left as before. -/
lemma AttemptsLeft.still (left : AttemptsLeft plan state)
    (going : next.status = .running → state.status = .running)
    (attempts : next.attempts = state.attempts)
    (waits : ∀ node ∈ plan.nodes, node.nodeId ∉ next.terminal →
      next.running.get? node.nodeId = none →
      node.nodeId ∉ state.terminal ∧ state.running.get? node.nodeId = none ∨
        state.attemptsOf node.nodeId < (plan.budgetOf node).maxAttempts) :
    AttemptsLeft plan next := by
  intro goes node listed pending idle
  rw [attemptsOf, attempts]
  rcases waits node listed pending idle with ⟨before, rested⟩ | fewer
  · exact left (going goes) node listed before rested
  · exact fewer

lemma AttemptsLeft.ended (left : AttemptsLeft plan state) (status : next.status = state.status)
    (attempts : next.attempts = state.attempts)
    (running : next.running = state.running.erase nodeId)
    (terminal : ∀ other, other ∉ next.terminal → other ∉ state.terminal ∧ other ≠ nodeId) :
    AttemptsLeft plan next := by
  refine left.still (by rw [status]; exact id) attempts fun node _ pending idle => .inl ?_
  simp_all

lemma attemptsOf_attempted (nodeId other : Str) :
    (state.attempted nodeId).attemptsOf other = if other = nodeId then state.attemptsOf nodeId + 1
      else state.attemptsOf other := by
  simp only [attemptsOf, attempted, get?_set]
  split <;> simp

lemma attemptsOf_le_attempted (nodeId other : Str) :
    state.attemptsOf other ≤ (state.attempted nodeId).attemptsOf other := by
  rw [attemptsOf_attempted]
  split
  · rename_i same
    rw [same]
    omega
  · rfl

variable (kept : AttemptsKept plan state)
include kept

/-- Where nothing is attempted, run or failed any more than before, the counts stay. -/
lemma AttemptsKept.still (attempts : next.attempts = state.attempts)
    (running : ∀ nodeId, next.running.get? nodeId ≠ none → state.running.get? nodeId ≠ none)
    (failed : next.failed = state.failed) : AttemptsKept plan next := by
  have same : next.attemptsOf = state.attemptsOf := by
    funext nodeId
    rw [attemptsOf, attempts]
    rfl
  refine ⟨?_, fun node listed runs => ?_, ?_⟩
  · rw [same]
    exact kept.capped
  · rw [same]
    exact kept.underway node listed (running node.nodeId runs)
  · rw [same, failed]
    exact kept.spent

/-- A node that fails after its last attempt is accounted for, and so is a merge node. -/
lemma AttemptsKept.lost {failure : Str}
    (spent : ∀ node ∈ plan.nodes, node.nodeId = nodeId → node.nodeType ≠ "merge" →
      state.attemptsOf nodeId = (plan.budgetOf node).maxAttempts) :
    AttemptsKept plan (state.lost nodeId failure) := by
  refine ⟨kept.capped, fun node listed runs => kept.underway node listed ?_,
    fun node listed kind failed => ?_⟩
  · change (state.running.erase nodeId).get? node.nodeId ≠ none at runs
    exact fun idle => runs (by simp [idle])
  · change (state.failed.set nodeId failure).get? node.nodeId ≠ none at failed
    rw [get?_set] at failed
    by_cases same : node.nodeId = nodeId
    · rw [same]
      exact spent node listed same kind
    · rw [if_neg same] at failed
      exact kept.spent node listed kind failed

/-- An attempt of a node that has one left is counted. -/
lemma AttemptsKept.attempted
    (left : ∀ node ∈ plan.nodes, node.nodeId = nodeId →
      state.attemptsOf nodeId < (plan.budgetOf node).maxAttempts) :
    AttemptsKept plan (state.attempted nodeId) := by
  have more := @attemptsOf_le_attempted state nodeId
  refine ⟨fun node listed => ⟨(kept.capped node listed).1.trans (more _), ?_⟩,
    fun node listed runs => (kept.underway node listed runs).trans (more _),
      fun node listed kind failed => ?_⟩
  · rw [attemptsOf_attempted]
    split
    · rename_i same
      exact left node listed same
    · exact (kept.capped node listed).2
  · have all := kept.spent node listed kind failed
    by_cases same : node.nodeId = nodeId
    · have fewer := left node listed same
      rw [same] at all
      omega
    · rwa [attemptsOf_attempted, if_neg same]

end

section

variable (request plan base world)

/-- What is known wherever a call raises: no claim was refused for the sake of the budget, and the
store has the maximum of the plan, if any. -/
structure Unrefused : Prop where
  clean : ∀ reason ∈ world.refusals, reason ∉ budgetRefusals
  maximum : ∀ configured ∈ world.ownership.retryMaximum.get? (plan.tenantId, request.runId),
    configured = plan.planRetries
  saved : world.checkpoints = base.checkpoints

/-- The run and the store agree in what they count. -/
structure OnAccount : Prop
    extends Unrefused request plan base world where
  distinct : plan.nodeIds.Nodup
  effective : world.state.effectivePlan = plan
  kept : AttemptsKept plan world.state
  agrees : StoreAgrees request plan world.state world.ownership

/-- The run and the store agree, and a waiting node has an attempt left. -/
def WithinBudget : Prop :=
  OnAccount request plan base world ∧ AttemptsLeft plan world.state

variable {request plan base world} {ownership : OwnershipStore} {event : CanonicalWorkflowEvent}
  {outcome : Except Fault Unit} {node : ExecutionNode}

lemma OfferEffect.beside (effect : OfferEffect world event outcome after) :
    after.ownership = world.ownership ∧ after.refusals = world.refusals := by
  cases effect with
  | refused quiet | repeated _ quiet | filed _ quiet => exact ⟨quiet.ownership, quiet.refusals⟩

section

variable (account : OnAccount request plan base world)
include account

/-- A change of anything else leaves the counts alone. -/
lemma OnAccount.beside (same : (after.refusals, after.ownership, after.checkpoints, after.state) =
      (world.refusals, world.ownership, world.checkpoints, world.state)) :
    OnAccount request plan base after := by
  simp only [Prod.mk.injEq] at same
  obtain ⟨⟨clean, maximum, saved⟩, distinct, effective, kept, agrees⟩ := account
  refine ⟨⟨?_, ?_, ?_⟩, distinct, ?_, ?_, ?_⟩ <;> simp only [same] <;> assumption

lemma OnAccount.quiet (quiet : Quiet world after) : OnAccount request plan base after :=
  account.beside (by rw [quiet.refusals, quiet.ownership, quiet.checkpoints, quiet.state])

/-- A change of the store that charges nothing. -/
lemma OnAccount.own (chargeless : Chargeless world.ownership ownership) :
    OnAccount request plan base { world with ownership } := by
  refine ⟨{ account with maximum := ?_ }, account.distinct, account.effective, account.kept,
    ⟨?_, fun key listed inRun => ?_⟩⟩
  · rw [chargeless.maximum]
    exact account.maximum
  · rw [OwnershipStore.used, chargeless.used]
    exact account.agrees.used
  · refine account.agrees.begun key ?_ inRun
    rw [Dict.mem_keys, Option.isSome_iff_ne_none] at listed ⊢
    exact fun absent => listed ((chargeless.known key).mpr absent)

/-- A change of the state that attempts nothing. -/
lemma OnAccount.moved (kept : AttemptsKept plan state)
    (same : (state.attempts, state.effectivePlan) =
      (world.state.attempts, world.state.effectivePlan)) :
    OnAccount request plan base { world with state } := by
  simp only [Prod.mk.injEq] at same
  have counts : state.attemptsOf = world.state.attemptsOf := by
    funext nodeId
    rw [attemptsOf, same.1]
    rfl
  refine ⟨{ account with }, account.distinct, same.2.trans account.effective, kept, ⟨?_, ?_⟩⟩
  · show _ ≤ plan.beyondFirst fun node => state.attemptsOf node.nodeId
    rw [counts]
    exact account.agrees.used
  · rw [counts]
    exact account.agrees.begun

/-- Offering an event leaves the counts alone. -/
lemma OfferEffect.onAccount (effect : OfferEffect world event outcome after) :
    OnAccount request plan base after := by
  obtain ⟨sequence, same⟩ := effect.state
  have kept : AttemptsKept plan (world.state.sequenced sequence) :=
    account.kept.still rfl (fun _ => id) rfl
  exact (account.moved kept rfl).beside
    (by rw [effect.beside.1, effect.beside.2, effect.outside.2, same])

end

variable (request plan base) in
/-- A call that leaves the counts within the budgets wherever it returns. -/
abbrev StaysWithin (call : NativeM Unit) (world : NativeWorld) : Prop :=
  Ensures call world (Kept (WithinBudget request plan base) (Unrefused request plan base))

lemma OfferEffect.withinBudget (effect : OfferEffect world event outcome after)
    (holds : WithinBudget request plan base world) :
    Kept (WithinBudget request plan base) (Unrefused request plan base) outcome after := by
  have still := effect.onAccount holds.1
  cases outcome with
  | error _ => exact still.toUnrefused
  | ok _ =>
    obtain ⟨last, same⟩ := effect.state
    refine ⟨still, ?_⟩
    rw [same]
    exact holds.2

variable {update : NativeRunState → NativeRunState} {emission : Emission}

/-- An announcement of a change that leads to an account in which the waiting nodes have attempts
left. -/
lemma announce_onAccount
    (account : OnAccount request plan base { world with state := update world.state })
    (left : AttemptsLeft plan (update world.state)) :
    StaysWithin request plan base (announce ports request plan update emission) world :=
  (announce_effect update emission).mono fun _ _ effect => effect.withinBudget ⟨account, left⟩

/-- A claim of a waiting node is not refused for the sake of the budget, and is counted on both
sides. -/
lemma WithinBudget.claim (fits : plan.nodeRetries ≤ plan.planRetries) {start : NativeWorld}
    {now : Float64} {uuid : Str} {outcome : Except Fault OwnershipClaim}
    (began : WithinBudget request plan base start) (ready : start.state.status = .running)
    (found : Dispatchable plan start.state node) (task : node.IsTask)
    (untouched : world.state.attempts.get? node.nodeId = start.state.attempts.get? node.nodeId)
    (holds : WithinBudget request plan base world)
    (claimed : Ananta.claim (claimRequest request plan node now) now uuid world.ownership =
      (outcome, ownership)) :
    ClaimTaken (WithinBudget request plan base) (OnAccount request plan base)
    (Unrefused request plan base) node.nodeId world ownership outcome := by
  obtain ⟨account, left⟩ := holds
  have fewer : ∀ other ∈ plan.nodes, other.nodeId = node.nodeId →
      world.state.attemptsOf node.nodeId < (plan.budgetOf other).maxAttempts := by
    intro other listed same
    rw [attemptsOf, untouched, ← same]
    exact began.2 ready other listed (by rw [same]; exact found.pending)
      (by rw [same]; exact found.idle)
  have charge := (claim_cases (claimRequest request plan node now) now uuid world.ownership)
  have fair := claim_budgetFair (claimRequest request plan node now) now uuid world.ownership
  rw [Ensures, claimed] at charge fair
  have charge := charge.charge
  have known : world.ownership.current.get? (claimRequest request plan node now).key ≠ none →
      1 ≤ world.state.attemptsOf node.nodeId := fun record =>
    account.agrees.begun (claimRequest request plan node now).key
      (by rwa [Dict.mem_keys, Option.isSome_iff_ne_none]) rfl
  -- A node that is claimed again has a retry left, and so has the run.
  have unmet : ¬ BudgetMet (claimRequest request plan node now) world.ownership := by
    rintro ⟨record, spent | ⟨configured, declared, differs⟩⟩
    · have room : world.state.retries plan < plan.nodeRetries :=
        beyondFirst_lt (fun other listed => (account.kept.capped other listed).2)
          found.listed task (known record) (fewer node found.listed rfl)
      change plan.planRetries ≤ world.ownership.used (plan.tenantId, request.runId) at spent
      have used := account.agrees.used
      omega
    · exact differs (account.maximum configured declared)
  have maximum : ∀ configured ∈ ownership.retryMaximum.get? (plan.tenantId, request.runId),
    configured = plan.planRetries :=
    fun configured declared =>
      (charge.maximum configured declared).elim id (account.maximum configured)
  cases outcome with
  | error fault =>
    refine ⟨fun reason listed => ?_, maximum, account.saved⟩
    rcases mem_cons.mp listed with rfl | before
    · exact fun budget => unmet (fair fault rfl budget)
    · exact account.clean reason before
  | ok granted =>
    show if granted.acquired = true then _ else _
    split
    · have more := @attemptsOf_le_attempted world.state node.nodeId
      refine ⟨{ account with maximum := maximum }, account.distinct, account.effective,
        account.kept.attempted fewer, ⟨?_, ?_⟩⟩
      · have used := account.agrees.used
        have mono : world.state.retries plan ≤ (world.state.attempted node.nodeId).retries plan :=
          beyondFirst_mono fun other _ => more other.nodeId
        rcases charge.used with same | ⟨charged, record⟩
        · exact same.trans (used.trans mono)
        · have grown : world.state.retries plan <
              (world.state.attempted node.nodeId).retries plan := by
            refine beyondFirst_lt (fun other _ => more other.nodeId)
              found.listed task (known record) ?_
            rw [attemptsOf_attempted, if_pos rfl]
            omega
          change ownership.used (plan.tenantId, request.runId) =
            world.ownership.used (plan.tenantId, request.runId) + 1 at charged
          grind
      · intro key listed inRun
        rcases charge.known key listed with same | before
        · rw [same]
          show 1 ≤ (world.state.attempted node.nodeId).attemptsOf node.nodeId
          rw [attemptsOf_attempted, if_pos rfl]
          have least := (account.kept.capped node found.listed).1
          omega
        · exact (account.agrees.begun key before inRun).trans (more _)
    · rename_i declined
      have same : ownership = world.ownership :=
        charge.declined granted rfl (by simpa using declined)
      rw [same]
      exact ⟨account, left⟩

lemma eq_of_nodeId (distinct : plan.nodeIds.Nodup) {other : ExecutionNode}
    (listed : node ∈ plan.nodes) (also : other ∈ plan.nodes) (same : other.nodeId = node.nodeId) :
    other = node :=
  inj_on_of_nodup_map distinct also listed same

section

variable (holds : WithinBudget request plan base world)
include holds

/-- An announcement of a change that attempts nothing. -/
lemma WithinBudget.announce (kept : AttemptsKept plan (update world.state))
    (same : ((update world.state).attempts, (update world.state).effectivePlan) =
      (world.state.attempts, world.state.effectivePlan))
    (left : AttemptsLeft plan (update world.state)) :
    StaysWithin request plan base (Ananta.announce ports request plan update emission) world :=
  announce_onAccount (holds.1.moved kept same) left

/-- A change that leaves all nodes where they are, and with which the run goes on only where they
have attempts left. -/
lemma WithinBudget.still
    (same : ((update world.state).attempts, (update world.state).effectivePlan,
      (update world.state).failed,
        (update world.state).running, (update world.state).skipped,
          (update world.state).completed) =
      (world.state.attempts, world.state.effectivePlan, world.state.failed, world.state.running,
        world.state.skipped, world.state.completed))
    (turns : (update world.state).status = .running → TurnsLeft plan world.state) :
    StaysWithin request plan base (Ananta.announce ports request plan update emission) world := by
  simp only [Prod.mk.injEq] at same
  obtain ⟨attempts, effective, failed, running, skipped, completed⟩ := same
  refine holds.announce (holds.1.kept.still attempts (by rw [running]; exact fun _ => id) failed)
    (by rw [attempts, effective]) fun goes => ?_
  unfold TurnsLeft attemptsOf terminal
  rw [attempts, running, failed, skipped, completed]
  exact turns goes

/-- A node that is completed leaves its count as it is. -/
lemma WithinBudget.finish {nodeId : Str}
    (same : ((update world.state).attempts, (update world.state).effectivePlan,
      (update world.state).status,
        (update world.state).failed, (update world.state).running, (update world.state).skipped,
        (update world.state).completed) =
      (world.state.attempts, world.state.effectivePlan, world.state.status, world.state.failed,
        world.state.running.erase nodeId, world.state.skipped,
          insert nodeId world.state.completed)) :
    StaysWithin request plan base (Ananta.announce ports request plan update emission) world := by
  simp only [Prod.mk.injEq] at same
  obtain ⟨attempts, effective, status, failed, running, skipped, completed⟩ := same
  refine holds.announce (holds.1.kept.still attempts ?_ failed) (by rw [attempts, effective])
    (holds.2.ended status attempts running ?_)
  · simp_all
  · intro other pending
    simp only [terminal, completed, skipped, failed, Finset.mem_union, Finset.mem_insert,
      not_or] at pending ⊢
    exact ⟨⟨⟨pending.1.1.2, pending.1.2⟩, pending.2⟩, pending.1.1.1⟩

/-- An event about a side effect leaves the counts alone. -/
lemma emitSideEffect_withinBudget {result : NativeNodeResult} {operationId : Str} :
    StaysWithin request plan base (emitSideEffectIfPresent ports request result operationId)
      world := by
  apply ensures_read
  have raised := holds.1.toUnrefused
  split
  · exact holds
  split
  · exact raised
  refine ensures_guard (fun _ => raised) fun _ => ?_
  refine ensures_evaluate (fun _ _ => raised) fun _ _ => ?_
  exact (offer_effect _).mono fun _ _ effect => effect.withinBudget holds

end

variable (request plan base) in
def RunsWithin (chosen : ExecutionPlan) (world : NativeWorld) : Prop :=
  chosen = plan ∧ WithinBudget request plan base world

lemma Call.Ensures.runsWithin {call : NativeM Unit}
    (kept : Ensures call world
      (Kept (WithinBudget request plan base) (Unrefused request plan base))) :
    Ensures call world (Kept (RunsWithin request plan base plan) (Unrefused request plan base)) :=
  kept.onward fun _ holds => ⟨rfl, holds⟩

variable (fits : plan.nodeRetries ≤ plan.planRetries)
include fits

/-- A tick keeps the counts within the budgets. -/
lemma tickRules_withinBudget :
    TickRules ports request plan (WithinBudget request plan base) (OnAccount request plan base)
      (WithinBudget request plan base) (Unrefused request plan base) where
  raised account := account.toUnrefused
  quiet account quiet := account.quiet quiet
  abandon _ account chargeless := account.own chargeless
  emptied account := account.moved (account.kept.still rfl (fun _ runs => absurd rfl runs) rfl) rfl
  broken _ _ account _ := announce_onAccount
    (account.moved (account.kept.still rfl (fun _ => id) rfl) rfl) (by rintro ⟨⟩)
  doom holds := holds.1
  settle holds := holds
  calm holds quiet := ⟨holds.1.quiet quiet, by rw [quiet.state]; exact holds.2⟩
  own _ holds chargeless := ⟨holds.1.own chargeless, holds.2⟩
  claim _ began ready found task untouched holds claimed :=
    began.claim fits ready found task untouched holds claimed
  hand _ _ account _ _ _ :=
    ⟨{ account with }, account.distinct, account.effective, account.kept, account.agrees⟩
  accept _ holds returned _ := by
    refine ensures_then (holds.finish rfl) fun _ last kept => ?_
    exact emitSideEffect_withinBudget kept
  release {world result _ node} _ holds returned fewer _ := by
    refine holds.announce (holds.1.kept.still rfl ?_ rfl) rfl (holds.2.still (id) rfl ?_)
    · intro other runs idle
      change (world.state.running.erase result.nodeId).get? other ≠ none at runs
      rw [get?_erase] at runs
      exact runs (by simp [idle])
    · intro other listed pending idle
      change (world.state.running.erase result.nodeId).get? other.nodeId = none at idle
      rw [get?_erase] at idle
      by_cases same : other.nodeId = result.nodeId
      · -- The node itself is released only because it has an attempt left.
        obtain ⟨member, named⟩ := mem_of_nodeNamed returned.named
        rw [eq_of_nodeId holds.1.distinct member listed (same.trans named.symm), named]
        refine .inr (lt_of_le_of_lt ?_ fewer)
        cases found : world.state.attempts.get? result.nodeId <;> simp [attemptsOf, found]
      · rw [if_neg same] at idle
        exact .inl ⟨pending, idle⟩
  lose {world result _ node} failure emission holds returned spent _ := by
    obtain ⟨member, named⟩ := mem_of_nodeNamed returned.named
    have all : world.state.attemptsOf result.nodeId = (plan.budgetOf node).maxAttempts := by
      have begun := holds.1.kept.underway node member (by simp [named, returned.running])
      have capped := (holds.1.kept.capped node member).2
      rw [named] at begun capped
      cases found : world.state.attempts.get? result.nodeId with
      | none => simp [attemptsOf, found] at begun
      | some count =>
        simp only [attemptsOf, found, Option.getD_some] at spent capped ⊢
        omega
    have kept : AttemptsKept plan (world.state.lost result.nodeId failure) :=
      holds.1.kept.lost fun other listed same _ => by
      rwa [eq_of_nodeId holds.1.distinct member listed (same.trans named.symm)]
    have left : AttemptsLeft plan (world.state.lost result.nodeId failure) :=
      holds.2.ended rfl rfl rfl fun other pending => by
      simp only [terminal, lost, Finset.mem_union, mem_toFinset, Dict.mem_keys,
        get?_set, not_or] at pending ⊢
      split at pending
      · simp at pending
      · exact ⟨pending, ‹_›⟩
    exact (holds.announce kept rfl left).onward fun _ lost => ⟨lost.1, fun _ => lost⟩
  skip {world node} _ holds _ _ := by
    refine holds.announce (holds.1.kept.still rfl (fun _ => id) rfl) rfl
      (holds.2.still (id) rfl fun other _ pending idle => .inl ⟨fun ended => pending ?_, idle⟩)
    simp only [terminal, bypassed, Finset.mem_union, Finset.mem_insert] at ended ⊢
    tauto
  merge _ _ _ holds _ _ _ := holds.finish rfl
  unmerge {world node} reason holds listed mergeable :=
    holds.1.moved (holds.1.kept.lost fun other also same kind => by
    rw [eq_of_nodeId holds.1.distinct listed also same] at kind
    exact absurd mergeable.1 kind) rfl
  checkpoint _ _ _ holds _ _ _ := holds.finish rfl
  gate _ holds _ _ _ _ _ := (holds.still rfl fun goes => holds.2 goes).onward fun _ kept =>
    ⟨kept, fun _ _ => kept.still rfl (by rintro ⟨⟩)⟩
  wait holds := ⟨holds.1.moved (holds.1.kept.still rfl (fun _ runs => runs) rfl) rfl, by rintro ⟨⟩⟩
  delegate {earlier world node task} _ before account free _ same _ _ _ _ _ := by
    have counts : ∀ nodeId, world.state.attemptsOf nodeId =
        if nodeId = node.nodeId then earlier.state.attemptsOf node.nodeId + 1
          else earlier.state.attemptsOf nodeId := by
      intro nodeId
      rw [same]
      exact attemptsOf_attempted _ _
    refine announce_onAccount (account.moved { account.kept with underway := ?_ } rfl) ?_
    · intro other listed runs
      change (world.state.running.set node.nodeId task).get? other.nodeId ≠ none at runs
      show 1 ≤ world.state.attemptsOf other.nodeId
      rw [get?_set] at runs
      split at runs
      · rename_i equal
        have least := (before.1.kept.capped node free.listed).1
        rw [counts, if_pos equal]
        omega
      · exact account.kept.underway other listed runs
    · intro goes other listed pending idle
      change (world.state.running.set node.nodeId task).get? other.nodeId = none at idle
      rw [get?_set] at idle
      split at idle
      · cases idle
      · rename_i differs
        show world.state.attemptsOf other.nodeId < _
        rw [counts, if_neg differs]
        rw [same] at goes pending idle
        exact before.2 goes other listed pending idle
  complete _ holds _ _ := holds.still rfl (by rintro ⟨⟩)

/-- The commands that may set a run going without another attempt of a node that failed. -/
def goingCommands : List Str := ["approve", "resume", "pause"]

/-- A command that sets a waiting run going keeps the counts within the budgets. -/
lemma commandRules_withinBudget {command : SignedWorkflowCommand}
    (kind : command.commandType ∈ goingCommands) : CommandRules ports request plan command
      (fun world => WithinBudget request plan base world ∧ TurnsLeft plan world.state)
      (OnAccount request plan base)
      (RunsWithin request plan base) (Unrefused request plan base) := by
  have other : ∀ name, name ∉ goingCommands → command.commandType ≠ name :=
    fun name unlisted same => unlisted (same ▸ kind)
  have rules := @tickRules_withinBudget ports request plan base fits
  exact
    { raised := fun holds => holds.1.1.toUnrefused
      cancel := fun impossible => absurd impossible (other _ (by decide))
      fail := { rules.toCancelRules with
        broken := fun reason emission account key =>
          (rules.broken reason emission account key).runsWithin }
      resume := fun _ holds _ _ => (holds.1.still rfl fun _ => holds.2).runsWithin
      reject := fun _ _ impossible => absurd impossible (other _ (by decide))
      approve := fun _ holds _ _ => (holds.1.still rfl fun _ => holds.2).onward fun _ kept =>
        ⟨⟨rfl, kept⟩, fun _ _ => (kept.still rfl fun goes => kept.2 goes).runsWithin⟩
      pause := fun _ holds _ => (holds.1.still rfl fun impossible => by cases impossible).runsWithin
      stop := fun _ _ impossible => absurd impossible (other _ (by decide))
      retry := fun _ _ impossible => absurd impossible (other _ (by decide))
      edit := fun _ _ _ impossible => by
        simp only [mem_cons, not_mem_nil, or_false] at impossible
        exact impossible.elim (fun same => absurd same (other _ (by decide))) fun same =>
          absurd same (other _ (by decide)) }

end

variable (ports request) in
/-- The store agrees with the state that the next call takes up: the last one saved, or a fresh one
before the first. -/
structure NativeWorld.Agrees (world : NativeWorld) : Prop where
  first : world.checkpoints = [] →
    StoreAgrees request request.plan (.fresh ports request) world.ownership
  last : ∀ state ∈ world.checkpoints.getLast?,
    StoreAgrees request request.plan state world.ownership

variable (ports request) in
/-- What holds between calls, where the store agrees with the last checkpoint unless a call that
raised came between. -/
structure Accounts (agreed : Bool) (world : NativeWorld) : Prop where
  clean : ∀ reason ∈ world.refusals, reason ∉ budgetRefusals
  maximum : ∀ configured ∈ world.ownership.retryMaximum.get? (request.plan.tenantId, request.runId),
    configured = request.plan.planRetries
  saved : ∀ state ∈ world.checkpoints, request.plan.nodeIds.Nodup ∧
    state.effectivePlan = request.plan ∧
    AttemptsKept request.plan state ∧ AttemptsLeft request.plan state
  agrees : agreed = true → world.Agrees ports request

/-- Whether the store is known to agree after a call: it is when a checkpoint was saved at the end
of the call. -/
def NativeWorld.agreesAfter (world : NativeWorld) (agreed : Bool) (later : NativeWorld) : Bool :=
  agreed || decide (world.checkpoints.length < later.checkpoints.length)

variable {agreed : Bool}

lemma Accounts.unrefused (accounts : Accounts ports request agreed world) {later : NativeWorld}
    (quiet : Quiet { world with state } later) : Unrefused request request.plan world later := by
  refine ⟨?_, ?_, quiet.checkpoints⟩
  · rw [quiet.refusals]
    exact accounts.clean
  · rw [quiet.ownership]
    exact accounts.maximum

lemma Resumption.getLast?_of_base {resumption : Resumption} {checkpoints : List NativeRunState}
    {revision : Nat} (based : resumption.base checkpoints = some (revision, state))
    (newest : revision = checkpoints.length) :
    checkpoints.getLast? = some state := by
  unfold Resumption.base at based
  rw [getLast?_eq_getElem?]
  grind

/-- After a call that raises, the store may have counted an attempt that no checkpoint counts. -/
lemma Accounts.onward (accounts : Accounts ports request agreed base)
    (unrefused : Unrefused request request.plan base world) : Accounts ports request false world :=
  { unrefused with
    saved := by rw [unrefused.saved]; exact accounts.saved
    agrees := fun impossible => absurd impossible Bool.false_ne_true }

/-- A call that only takes up a checkpoint changes nothing that is accounted for. -/
lemma Accounts.quiet (accounts : Accounts ports request agreed world) {later : NativeWorld}
    (quiet : Quiet { world with state } later) :
    Accounts ports request (world.agreesAfter agreed later) later := by
  have same : later.checkpoints = world.checkpoints := quiet.checkpoints
  refine { accounts.onward (accounts.unrefused quiet) with agrees := fun known => ?_ }
  rw [NativeWorld.agreesAfter, same] at known
  obtain ⟨first, last⟩ := accounts.agrees (by simpa using known)
  constructor <;> rw [same, quiet.ownership] <;> assumption

/-- A saved state is within its budgets as the one in memory is, and the store agrees with it. -/
lemma saveCheckpoint_accounts (accounts : Accounts ports request agreed base)
    (flag : NativeWorld → Bool) (holds : WithinBudget request request.plan base world) :
    Ensures (saveCheckpoint ports request request.plan) world
      (Kept (fun later => Accounts ports request (flag later) later)
        (Unrefused request request.plan base)) := by
  apply ensures_read
  refine ensures_sequence (emit_effect _) (fun _ _ effect => (effect.onAccount holds.1).toUnrefused)
    fun _ emitted effect => ?_
  have account := effect.onAccount holds.1
  have left : AttemptsLeft request.plan emitted.state := by
    obtain ⟨last, same⟩ := effect.state
    rw [same]
    exact holds.2
  refine ensures_readClock fun _ read quiet => ensures_getState ?_
  have still := account.quiet quiet
  refine ensures_evaluate (fun _ _ => still.toUnrefused) fun _ _ => ?_
  refine ensures_effect (fun _ _ later => (still.quiet later).toUnrefused) fun last later => ?_
  have final := still.quiet later
  refine { final with saved := fun state member => ?_, agrees := fun _ =>
    ⟨fun impossible => ?_, fun state newest => ?_⟩ }
  · rcases mem_append.mp member with old | new
    · exact accounts.saved state (final.saved ▸ old)
    · rw [mem_singleton.mp new]
      refine ⟨still.distinct, still.effective, still.kept.still rfl (fun nodeId runs => ?_) rfl, ?_⟩
      · rwa [stored, get?_sorted] at runs
      · rw [← quiet.state] at left
        refine left.still (id) rfl fun node _ pending idle => .inl ⟨pending, ?_⟩
        rwa [stored, get?_sorted] at idle
  · exact absurd impossible (append_ne_nil_of_right_ne_nil _ (cons_ne_nil _ _))
  · -- What is stored counts the same attempts as the state in memory.
    obtain rfl := Option.some.inj (getLast?_concat.symm.trans newest)
    show StoreAgrees request request.plan _ last.ownership
    rw [later.ownership]
    exact ⟨still.agrees.used, still.agrees.begun⟩

variable (ports request) in
/-- A store that is not known to agree has counted no more than the state that a call takes up, and
a command that sets the run going finds an attempt left for every waiting node. -/
def NativeCall.Accounted (agreed : Bool) (world : NativeWorld) :
    NativeCall → Prop
  | .start _ => agreed = true ∨ (world.checkpoints = [] →
      StoreAgrees request request.plan (.fresh ports request) world.ownership)
  | .advance _ => agreed = true ∨ ∀ state ∈ world.checkpoints.getLast?,
      StoreAgrees request request.plan state world.ownership
  | .resume resumption _ => resumption.command.commandType ∈ goingCommands ∧
      ∀ based ∈ resumption.base world.checkpoints, TurnsLeft request.plan based.2 ∧
        (agreed = true ∧ based.1 = world.checkpoints.length ∨
          StoreAgrees request request.plan based.2 world.ownership)

variable (ports request) in
/-- Every call of a run is accounted for, where a call that raises leaves open whether the store
agrees. -/
def AccountedRun (agreed : Bool) (world : NativeWorld) :
    List NativeCall → Prop
  | [] => True
  | call :: rest =>
    let answered := (nativeMachine ports request).step world call
    call.Accounted ports request agreed world ∧
      AccountedRun (answered.1.isOk && world.agreesAfter agreed answered.2) answered.2 rest

section

variable (fits : request.plan.nodeRetries ≤ request.plan.planRetries)
include fits

section

variable (accounts : Accounts ports request agreed world) (results : List NativeNodeResult)
include accounts

/-- Starting a run keeps what holds between calls. -/
lemma start_accounts (agrees : world.checkpoints = [] →
      StoreAgrees request request.plan (.fresh ports request) world.ownership) :
    Ensures (start ports request results) world
      (Kept (fun later => Accounts ports request (world.agreesAfter agreed later) later)
        (Unrefused request request.plan world)) := by
  refine start_keeps (accounts.unrefused (.refl _)) (fun _ => tickRules_withinBudget fits)
    (fun valid first emission _ => ?_)
    (fun holds => saveCheckpoint_accounts accounts _ holds) results
  have none : ∀ nodeId, (fresh ports request).attemptsOf nodeId = 0 := fun _ => rfl
  have left : TurnsLeft request.plan (.fresh ports request) := by
    intro node listed _ _
    exact Int.lt_of_lt_of_le Int.zero_lt_one (attempts_of_validate valid listed)
  refine announce_onAccount
    ⟨{ accounts with saved := rfl }, (valid_of_validate valid).distinct, rfl,
      ⟨fun node listed => ⟨?_, ?_⟩,
      fun _ _ runs => absurd rfl runs, fun _ _ _ failed => absurd rfl failed⟩, agrees first⟩
        fun _ => left
  · exact (none _).ge
  · exact (none _).le.trans (Int.le_of_lt (left node listed (Finset.notMem_empty _) rfl))

/-- Advancing a run keeps what holds between calls. -/
lemma advance_accounts (agrees : ∀ state ∈ world.checkpoints.getLast?,
      StoreAgrees request request.plan state world.ownership) :
    Ensures (advance ports request results) world
      (Kept (fun later => Accounts ports request (world.agreesAfter agreed later) later)
        (Unrefused request request.plan world)) := by
  refine advance_keeps (accounts.unrefused (.refl _))
    (fun state _ => accounts.unrefused (.refl { world with state }))
    (fun state _ _ => accounts.quiet (.refl { world with state })) (fun state last _ => ?_) results
  obtain ⟨distinct, effective, kept, left⟩ := accounts.saved state (mem_of_getLast? last)
  rw [effective]
  exact ⟨_, _, _, distinct, tickRules_withinBudget fits,
    ⟨⟨{ accounts with saved := rfl }, distinct, effective, kept, agrees state last⟩, left⟩,
    fun holds => saveCheckpoint_accounts accounts _ holds⟩

/-- Setting a waiting run going keeps what holds between calls. -/
lemma resume_accounts (resumption : Resumption)
    (agrees : (NativeCall.resume resumption results).Accounted ports request agreed world) :
    Ensures (resume ports request resumption results) world
      (Kept (fun later => Accounts ports request (world.agreesAfter agreed later) later)
        (Unrefused request request.plan world)) := by
  refine resume_keeps (RunsWithin request request.plan world) (accounts.unrefused (.refl _))
    (fun state _ after quiet => accounts.unrefused quiet)
    (fun state _ after quiet => accounts.quiet quiet)
    (fun revision state based after quiet => ?_) results fun chosen middle runs => ?_
  · obtain ⟨distinct, effective, kept, left⟩ := accounts.saved state (Resumption.mem_of_base based)
    obtain ⟨turns, known⟩ := agrees.2 (revision, state) based
    have store : StoreAgrees request request.plan state world.ownership :=
      known.elim (fun newest =>
        (accounts.agrees newest.1).last state (Resumption.getLast?_of_base based newest.2)) id
    rw [effective]
    have account : OnAccount request request.plan world { world with state } :=
      ⟨{ accounts with saved := rfl }, distinct, effective, kept, store⟩
    exact applyCommand_keeps (commandRules_withinBudget fits agrees.1)
      ⟨⟨account.quiet quiet, by rwa [quiet.state]⟩, by rwa [quiet.state]⟩
  · obtain ⟨rfl, holds⟩ := runs
    refine ⟨_, tick_keeps (tickRules_withinBudget fits) holds holds.1.distinct results,
      fun last within => ?_⟩
    exact saveCheckpoint_accounts accounts _
      ⟨within.1.moved (within.1.kept.still rfl (fun _ runs => runs) rfl) rfl, within.2⟩

/-- A call that is accounted for keeps what holds between calls. -/
lemma call_accounts (call : NativeCall) (agrees : call.Accounted ports request agreed world) :
    let answered := (nativeMachine ports request).step world call
    Accounts ports request (answered.1.isOk && world.agreesAfter agreed answered.2) answered.2 := by
  have kept : Ensures (call.run ports request) world
      (Kept (fun later => Accounts ports request (world.agreesAfter agreed later) later)
        (Unrefused request request.plan world)) := by
    cases call with
    | start results =>
      exact start_accounts fits accounts results
        (agrees.elim (fun known => (accounts.agrees known).first) id)
    | advance results =>
      exact advance_accounts fits accounts results
        (agrees.elim (fun known => (accounts.agrees known).last) id)
    | resume resumption results => exact resume_accounts fits accounts results resumption agrees
  unfold Ensures at kept
  dsimp only [nativeMachine]
  cases outcome : (call.run ports request world).1 <;> rw [outcome] at kept
  · exact accounts.onward kept
  · exact kept

end

/-- A run whose calls are accounted for keeps what holds between calls. -/
lemma run_accounts {calls : List NativeCall} (accounts : Accounts ports request agreed world)
    (accounted : AccountedRun ports request agreed world calls) :
    ∃ known, Accounts ports request known ((nativeMachine ports request).after world calls) := by
  induction calls generalizing agreed world with
  | nil => exact ⟨agreed, accounts⟩
  | cons call rest ih => exact ih (call_accounts fits accounts call accounted.1) accounted.2

end

/-- Where the budgets of the nodes fit into the budget of the plan, and every call behind one that
raised finds the store in agreement with the state that it takes up, no claim is refused for the
sake of the retry budget, and every node that failed was attempted as often as its own budget
allows. -/
theorem native_retries_granted (ports : NativePorts) (request : NativeGraphRequest)
    (calls : List NativeCall) (fits : request.plan.nodeRetries ≤ request.plan.planRetries)
    (accounted : AccountedRun ports request true (nativeMachine ports request).initial calls) :
    let world := (nativeMachine ports request).after (nativeMachine ports request).initial calls
    (∀ reason ∈ world.refusals, reason ≠ "retry_budget_exhausted" ∧
      reason ≠ "retry_budget_maximum_mismatch") ∧
      ∀ state ∈ world.checkpoints, ∀ node ∈ state.effectivePlan.nodes, node.nodeType ≠ "merge" →
        state.failed.get? node.nodeId ≠ none →
        state.attemptsOf node.nodeId = (state.effectivePlan.budgetOf node).maxAttempts := by
  intro world
  -- An empty store agrees with the fresh state.
  have initially : Accounts ports request true (nativeMachine ports request).initial := by
    refine
    { clean := by simp [nativeMachine]
      maximum := by simp [nativeMachine, OwnershipStore.empty]
      saved := by simp [nativeMachine]
      agrees := fun _ => ⟨fun _ =>
        ⟨?_, fun key listed => absurd listed not_mem_nil⟩, by simp [nativeMachine]⟩ }
    exact sum_nonneg fun retries listed => by
      obtain ⟨node, _, rfl⟩ := mem_map.mp listed
      exact le_max_left ..
  obtain ⟨_, accounts⟩ := run_accounts fits initially accounted
  refine ⟨fun reason listed => ?_, fun state saved node listed kind failed => ?_⟩
  · simpa [budgetRefusals] using accounts.clean reason listed
  · obtain ⟨_, effective, kept, _⟩ := accounts.saved state saved
    rw [effective] at listed ⊢
    exact kept.spent node listed kind failed

/-- Two nodes, each of which may be attempted twice. -/
def doublePlan : ExecutionPlan :=
  { tenantId := "t", planId := "p", workflowId := "w", policyVersion := "v",
    nodes := [{ nodeId := "a" }, { nodeId := "b" }], budget := { maxAttempts := 2 } }

/-- The first of them alone. -/
def singlePlan : ExecutionPlan := { doublePlan with nodes := doublePlan.nodes.take 1 }

theorem native_retries_granted_twice :
    let machine := nativeMachine permissivePorts (plainRequest singlePlan)
    let calls := [.start [], .advance [plainResult "a" 1 1 "failed"],
      .advance [plainResult "a" 5 2 "failed"]]
    let world := machine.after machine.initial calls
    world.refusals = [] ∧ ∃ state ∈ world.checkpoints, state.failed.get? "a" ≠ none ∧
      state.attemptsOf "a" = 2 := by
  intro machine calls world
  have granted := native_retries_granted permissivePorts (plainRequest singlePlan) calls (by decide)
    ⟨.inl rfl, .inl (by decide +kernel), .inl (by decide +kernel), trivial⟩
  refine ⟨by decide +kernel, ?_⟩
  have failed : ∃ state ∈ world.checkpoints, state.effectivePlan = singlePlan ∧
      state.failed.get? "a" ≠ none := by
    decide +kernel
  obtain ⟨state, saved, effective, lost⟩ := failed
  refine ⟨state, saved, lost, ?_⟩
  have all := granted.2 state saved { nodeId := "a" } (by rw [effective]; decide) (by decide) lost
  rw [effective] at all
  exact all

/-- Two nodes that fail once each use up more retries than the plan allows the run. -/
theorem second_retry_refused :
    let machine := nativeMachine permissivePorts (plainRequest doublePlan)
    let failures := [plainResult "a" 1 1 "failed", plainResult "b" 3 1 "failed"]
    (machine.step (machine.after machine.initial [.start []]) (.advance failures)).1 =
      .error ⟨.invalidTransitionError, "retry_budget_exhausted"⟩ := by
  decide +kernel

end Ananta
