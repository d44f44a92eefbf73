import Ananta.Library.Machine
import Ananta.Plan.Plan

/-! Leases for semantic compute tasks: which of them exclude each other, and how they are fenced. -/

namespace Ananta

open List

structure LeaseScope where
  tenantId : Str
  sessionId : Str
  epoch : Int
  (taskType audience role executorId : Str)
  deriving DecidableEq

structure ResourceBudget where
  (cpuMs memoryBytes artifactBytes : Int)
  deriving DecidableEq

/-- `LeaseRequest`, whose budget names the three known resources or is refused. -/
structure LeaseRequest extends LeaseScope where
  (ownerSubject contractId contractDigest : Str)
  sequenceStart : Int
  sequenceEnd : Int
  resourceBudget : Option ResourceBudget
  ttlSeconds : Int
  deadlineAt : Int

inductive LeaseStatus where
  | active | revoked | expired
  deriving DecidableEq

/-- `SemanticComputeLeaseDB`, where a lease is a row in the order of issue, and readings of the
clock are whole. -/
structure ComputeLease extends LeaseScope where
  (id ownerSubject contractId contractDigest : Str)
  (sequenceStart sequenceEnd fencingToken : Int)
  resourceBudget : ResourceBudget
  scopeKey : Str
  activeScopeKey : Option Str
  status : LeaseStatus
  (expiresAt deadlineAt version : Int)
  deriving DecidableEq

/-- The rows of the leases, of the fences of the scopes, and of the receipts of schedules. -/
structure LeaseTables where
  leases : List ComputeLease := []
  fences : Dict Str Int := Dict.empty
  receipts : Dict (Str × Str × Str × Str) Str := Dict.empty

/-- The digest of a text, the rows that an unordered query answers with, and the tolerance for other
clocks. -/
structure LeasePorts where
  digest : Str → Str
  first : List ComputeLease → Option ComputeLease
  first_mem : ∀ {leases lease}, first leases = some lease → lease ∈ leases
  first_none : ∀ {leases}, first leases = none → leases = []
  limited : Nat → List ComputeLease → List ComputeLease
  clockSkew : Int

variable (ports : LeasePorts)

/-- The predicate of the queries for a scope, where a validator is asked for by its executor. -/
def LeaseScope.Covers (scope other : LeaseScope) : Prop :=
  other.tenantId = scope.tenantId ∧ other.sessionId = scope.sessionId ∧ other.epoch = scope.epoch ∧
    other.taskType = scope.taskType ∧ other.audience = scope.audience ∧ other.role = scope.role ∧
    (scope.role = "validator" → other.executorId = scope.executorId)
  deriving Decidable

/-- `scope_key`. -/
def LeaseScope.scopeKey (scope : LeaseScope) : Str :=
  let fields := [scope.tenantId, scope.sessionId, decimal scope.epoch, scope.taskType,
    scope.audience, scope.role] ++
    if scope.role = "validator" then [scope.executorId] else []
  ports.digest (fields.intersperse [codePoint (Char.ofNat 0)]).flatten

/-- `_active_key`. -/
def activeKey (scopeKey : Str) (sequenceStart sequenceEnd : Int) : Str :=
  ports.digest (scopeKey ++ ":" ++ decimal sequenceStart ++ ":" ++ decimal sequenceEnd)

/-- Two ranges have a sequence in common. -/
def Overlap (start stop otherStart otherStop : Int) : Prop := otherStart ≤ stop ∧ start ≤ otherStop
  deriving Decidable

def LeaseRequest.MeetsActive (request : LeaseRequest) (lease : ComputeLease) : Prop :=
  request.Covers lease.toLeaseScope ∧ lease.status = .active ∧
    Overlap request.sequenceStart request.sequenceEnd lease.sequenceStart lease.sequenceEnd
  deriving Decidable

def ComputeLease.Current (lease : ComputeLease) (now : Int) : Prop :=
  now + ports.clockSkew < lease.expiresAt ∧ now < lease.deadlineAt
  deriving Decidable

/-- `_expire_row`. -/
def ComputeLease.expired (lease : ComputeLease) : ComputeLease :=
  { lease with status := .expired, activeScopeKey := none, version := lease.version + 1 }

def changeWhere (condition : ComputeLease → Bool) (change : ComputeLease → ComputeLease)
    (leases : List ComputeLease) : List ComputeLease :=
  leases.map fun lease => if condition lease then change lease else lease

/-- `_validate_request`. -/
def LeaseRequest.validated (request : LeaseRequest) (now : Int) : Except String ResourceBudget :=
  if request.sequenceStart < 0 ∨ request.sequenceEnd < request.sequenceStart
    then .error "sequence_range_invalid"
  else if ¬ (0 < request.ttlSeconds ∧ request.ttlSeconds ≤ 300) then .error "lease_ttl_invalid"
  else if request.deadlineAt ≤ now - ports.clockSkew then .error "deadline_expired"
  else if request.role ∉ [text "primary", text "validator", text "standby"]
    then .error "role_invalid"
  else if request.taskType ∉ [text "visual_extract", text "visual_validate", text "speech_features",
    "speech_validate"] then .error "task_type_invalid"
  else match request.resourceBudget with
    | none => .error "resource_budget_invalid"
    | some budget => .ok budget

/-- The last token of a scope, where validators may have been fenced by another scope before. -/
def lastToken (tables : LeaseTables) (request : LeaseRequest) : Int :=
  match tables.fences.get? (request.scopeKey ports) with
  | some last => last
  | none =>
    if request.role = "validator" then
      ((tables.leases.filter fun lease => request.Covers lease.toLeaseScope).map
        (·.fencingToken)).foldl max 0
    else 0

def LeaseRequest.issued (request : LeaseRequest) (id : Str) (budget : ResourceBudget)
    (token now : Int) : ComputeLease :=
  let scopeKey := request.scopeKey ports
  { request with
    id
    fencingToken := token
    resourceBudget := budget
    scopeKey
    activeScopeKey := some (activeKey ports scopeKey request.sequenceStart request.sequenceEnd)
    status := .active
    expiresAt := min (now + request.ttlSeconds) request.deadlineAt
    version := 1 }

/-- `_acquire_in_session`, where the database refuses a row whose keys are taken already for a
reason of the caller. -/
def acquireInSession (tables : LeaseTables) (request : LeaseRequest) (id : Str)
    (budget : ResourceBudget) (now : Int) (taken : String) : Except String LeaseTables :=
  let token := lastToken ports tables request + 1
  let lease := request.issued ports id budget token now
  let rows : Except String (List ComputeLease) :=
    match ports.first (tables.leases.filter fun lease => request.MeetsActive lease) with
    | none => .ok tables.leases
    | some active =>
      if active.Current ports now then .error "lease_overlap"
      else .ok (changeWhere (·.id = active.id) (·.expired) tables.leases)
  match rows with
  | .error reason => .error reason
  | .ok rows =>
    if ∃ row ∈ rows, row.id = id ∨ row.activeScopeKey = lease.activeScopeKey then .error taken
    else .ok { tables with
      leases := rows ++ [lease], fences := tables.fences.set lease.scopeKey token }

structure LeaseHandle where
  leaseId : Str
  fencingToken : Int
  expectedVersion : Int

/-- The `WHERE` clause of a change that compares and swaps. -/
def LeaseHandle.fits (handle : LeaseHandle) (lease : ComputeLease) : Bool :=
  lease.id = handle.leaseId ∧ lease.status = .active ∧ lease.fencingToken = handle.fencingToken ∧
    lease.version = handle.expectedVersion

/-- A request of a schedule, with the identifier that its lease is given. -/
structure ScheduledRequest where
  request : LeaseRequest
  id : Str

/-- A call, with the reading of the clock that it goes by, and whether the audit and the database
let it commit. -/
inductive LeaseOperation where
  | acquire (request : LeaseRequest) (id : Str) (started : Int)
  | scheduleOnce (tenantId ownerSubject contractId keyDigest requestDigest : Str)
      (requests : List ScheduledRequest) (expiresAt started : Int) (contractCurrent : Bool)
  | renew (handle : LeaseHandle) (ttlSeconds : Int)
  | revoke (handle : LeaseHandle)
  | reduce (tenantId ownerSubject : Str) (handle : LeaseHandle) (budget : Option ResourceBudget)
      (expiresAt : Option Int)
  | revokeContractActive (tenantId ownerSubject contractId : Str)
  | expireDue (limit : Nat)

/-- `acquire`. -/
def acquire (tables : LeaseTables) (now : Int) (request : LeaseRequest) (id : Str) (started : Int) :
    Except String LeaseTables := do
  let budget ← request.validated ports started
  acquireInSession ports tables request id budget now "lease_overlap"

/-- The leases of a schedule, one after another. -/
def acquireEach (now started : Int) : LeaseTables → List ScheduledRequest →
    Except String LeaseTables
  | tables, [] => .ok tables
  | tables, scheduled :: rest => do
    let budget ← scheduled.request.validated ports started
    let tables ← acquireInSession ports tables scheduled.request scheduled.id budget now
      "schedule_commit_conflict"
    acquireEach now started tables rest

/-- `schedule_once`. -/
def scheduleOnce (tables : LeaseTables) (now : Int)
    (tenantId ownerSubject contractId keyDigest requestDigest : Str)
    (requests : List ScheduledRequest) (expiresAt started : Int) (contractCurrent : Bool) :
    Except String LeaseTables := do
  let key := (tenantId, ownerSubject, contractId, keyDigest)
  raiseIf (requests = [] ∨ 4 < requests.length) "schedule_roles_invalid"
  raiseIf (expiresAt ≤ started) "schedule_receipt_expired"
  requests.forM fun scheduled => do
    discard (scheduled.request.validated ports started)
    raiseIf (scheduled.request.tenantId ≠ tenantId ∨ scheduled.request.ownerSubject ≠ ownerSubject ∨
      scheduled.request.contractId ≠ contractId) "schedule_scope_mismatch"
  match tables.receipts.get? key with
  | some digest => if digest = requestDigest then return tables else .error "idempotency_conflict"
  | none =>
    raiseIf (contractCurrent = false) "stale_contract_authority"
    let tables ← acquireEach ports now started tables requests
    return { tables with receipts := tables.receipts.set key requestDigest }

def compareAndSwap (tables : LeaseTables) (handle : LeaseHandle)
    (change : ComputeLease → ComputeLease) : Except String LeaseTables :=
  if (tables.leases.filter handle.fits).length = 1 then
    .ok { tables with leases := changeWhere handle.fits change tables.leases }
  else .error "lease_cas_conflict"

/-- `renew`. -/
def renew (tables : LeaseTables) (now : Int) (handle : LeaseHandle) (ttlSeconds : Int) :
    Except String LeaseTables :=
  if ¬ (0 < ttlSeconds ∧ ttlSeconds ≤ 300) then .error "lease_ttl_invalid"
  else match tables.leases.find? (·.id = handle.leaseId) with
    | none => .error "lease_not_found"
    | some current =>
      if current.Current ports now then
        compareAndSwap tables handle fun lease =>
          { lease with
            expiresAt := min (now + ttlSeconds) current.deadlineAt,
            version := handle.expectedVersion + 1 }
      else .error "lease_expired"

def ComputeLease.revoked (lease : ComputeLease) : ComputeLease :=
  { lease with status := .revoked, activeScopeKey := none, version := lease.version + 1 }

/-- `revoke`. -/
def revoke (tables : LeaseTables) (handle : LeaseHandle) : Except String LeaseTables :=
  match tables.leases.find? (·.id = handle.leaseId) with
  | none => .error "lease_not_found"
  | some current =>
    match compareAndSwap tables handle (·.revoked) with
    | .ok tables => .ok tables
    | .error reason =>
      if current.status = .revoked ∧ current.fencingToken = handle.fencingToken then .ok tables
        else .error reason

/-- `reduce`. -/
def reduce (tables : LeaseTables) (now : Int) (tenantId ownerSubject : Str) (handle : LeaseHandle)
    (budget : Option ResourceBudget) (expiresAt : Option Int) : Except String LeaseTables :=
  match budget with
  | none => .error "resource_budget_invalid"
  | some budget =>
    if budget.cpuMs < 1 ∨ budget.memoryBytes < 1 ∨ budget.artifactBytes < 1
      then .error "resource_budget_invalid"
    else match tables.leases.find? fun lease =>
        lease.id = handle.leaseId ∧ lease.tenantId = tenantId ∧
          lease.ownerSubject = ownerSubject with
      | none => .error "lease_not_found"
      | some current =>
        let expiry := expiresAt.getD current.expiresAt
        if current.status ≠ .active ∨ current.expiresAt ≤ now + ports.clockSkew
          then .error "lease_not_authorized"
        else if current.resourceBudget.cpuMs < budget.cpuMs ∨
          current.resourceBudget.memoryBytes < budget.memoryBytes ∨
          current.resourceBudget.artifactBytes <
            budget.artifactBytes then .error "lease_expansion_forbidden"
        else if current.expiresAt < expiry ∨ expiry ≤ now then .error "lease_expansion_forbidden"
        else compareAndSwap tables handle fun lease =>
          { lease with
            resourceBudget := budget, expiresAt := expiry, version := handle.expectedVersion + 1 }

/-- `revoke_contract_active`. -/
def revokeContractActive (tables : LeaseTables) (tenantId ownerSubject contractId : Str) :
    LeaseTables :=
  { tables with
    leases := changeWhere (fun lease => lease.tenantId = tenantId ∧
      lease.ownerSubject = ownerSubject ∧ lease.contractId = contractId ∧
      lease.status = .active) (·.revoked) tables.leases }

/-- `expire_due`. -/
def expireDue (tables : LeaseTables) (now : Int) (limit : Nat) : Except String LeaseTables :=
  if 1 ≤ limit ∧ limit ≤ 1000 then
    let due := ports.limited limit (tables.leases.filter fun lease =>
      lease.status = .active ∧ lease.expiresAt ≤ now + ports.clockSkew)
    .ok { tables with
      leases := changeWhere (fun lease => lease.id ∈ due.map (·.id)) (·.expired) tables.leases }
  else .error "limit_invalid"

/-- Make a call. -/
def LeaseOperation.run (tables : LeaseTables) (now : Int) : LeaseOperation →
    Except String LeaseTables
  | .acquire request id started => Ananta.acquire ports tables now request id started
  | .scheduleOnce tenantId ownerSubject contractId keyDigest requestDigest requests expiresAt
      started contractCurrent =>
    Ananta.scheduleOnce ports tables now tenantId ownerSubject contractId keyDigest requestDigest
      requests expiresAt started contractCurrent
  | .renew handle ttlSeconds => Ananta.renew ports tables now handle ttlSeconds
  | .revoke handle => Ananta.revoke tables handle
  | .reduce tenantId ownerSubject handle budget expiresAt =>
    Ananta.reduce ports tables now tenantId ownerSubject handle budget expiresAt
  | .revokeContractActive tenantId ownerSubject contractId =>
    .ok (Ananta.revokeContractActive tables tenantId ownerSubject contractId)
  | .expireDue limit => Ananta.expireDue ports tables now limit

/-- A call at some time, and whether the audit and the database let it commit. -/
structure TimedOperation where
  operation : LeaseOperation
  now : Int
  commits : Bool := true

/-- The repository as a machine, with the last reading of its clock. -/
def leaseAuthority : Machine (LeaseTables × Int) TimedOperation (Except String Unit) where
  initial := ({}, 0)
  step state call :=
    match call.operation.run ports state.1 call.now with
    | .error reason => (.error reason, state.1, call.now)
    | .ok later => if call.commits then (.ok (), later, call.now)
        else (.error "semantic_audit_unavailable", state.1, call.now)

structure LeasedResult where
  leaseId : Str
  contractDigest : Str
  fencingToken : Int
  sessionId : Str
  epoch : Int
  taskType : Str
  audience : Str
  sequence : Option Int := none

/-- `authorize_result`. -/
def authorizeResult (leases : List ComputeLease) (now : Int) (result : LeasedResult) :
    Except String ComputeLease :=
  match leases.find? (·.id = result.leaseId) with
  | none => .error "lease_not_found"
  | some lease =>
    if ¬ (lease.contractDigest = result.contractDigest ∧ lease.fencingToken = result.fencingToken ∧
      lease.sessionId = result.sessionId ∧ lease.epoch = result.epoch ∧
        lease.taskType = result.taskType ∧
      lease.audience = result.audience) then .error "lease_binding_mismatch"
    else if lease.status ≠ .active ∨ lease.expiresAt ≤ now + ports.clockSkew ∨
      lease.deadlineAt ≤ now then
      .error "lease_not_authorized"
    else if ∃ sequence ∈ result.sequence,
      ¬ (lease.sequenceStart ≤ sequence ∧ sequence ≤ lease.sequenceEnd) then
      .error "lease_sequence_mismatch"
    else .ok lease

section

variable {ports} {tables altered : LeaseTables} {leases : List ComputeLease} {now before : Int}
  {lease other : ComputeLease}

def ComputeLease.Live (ports : LeasePorts) (lease : ComputeLease) (now : Int) : Prop :=
  lease.status = .active ∧ lease.Current ports now

/-- Results are authorized for live leases. -/
lemma live_of_authorizeResult {result : LeasedResult}
    (authorized : authorizeResult ports leases now result = .ok lease) :
    lease ∈ leases ∧ lease.Live ports now := by
  unfold authorizeResult at authorized
  split at authorized
  · cases authorized
  · simp only [ite_eq_ok, Except.ok.injEq, ne_eq, not_or, not_not, not_le] at authorized
    obtain ⟨_, ⟨active, fresh, timely⟩, _, rfl⟩ := authorized
    exact ⟨mem_of_find?_eq_some ‹_›, active, fresh, timely⟩

lemma ComputeLease.Live.earlier (live : lease.Live ports now) (ordered : before ≤ now) :
    lease.Live ports before := by
  obtain ⟨active, fresh, timely⟩ := live
  exact ⟨active, by omega, by omega⟩

lemma LeaseScope.Covers.symm {scope another : LeaseScope} (covers : scope.Covers another) :
    another.Covers scope := by
  obtain ⟨tenant, session, epoch, task, audience, role, executor⟩ := covers
  exact ⟨tenant.symm, session.symm, epoch.symm, task.symm, audience.symm, role.symm,
    fun validator => (executor (role ▸ validator)).symm⟩

lemma LeaseScope.Covers.scopeKey {scope another : LeaseScope} (covers : scope.Covers another) :
    another.scopeKey ports = scope.scopeKey ports := by
  obtain ⟨tenant, session, epoch, task, audience, role, executor⟩ := covers
  unfold LeaseScope.scopeKey
  simp_all

def ComputeLease.Meets (lease other : ComputeLease) : Prop :=
  lease.Covers other.toLeaseScope ∧
    Overlap lease.sequenceStart lease.sequenceEnd other.sequenceStart other.sequenceEnd

/-- What holds between calls: live leases do not meet, and the tokens of a scope grow up to its
fence. -/
structure LeaseTables.Sound (ports : LeasePorts) (tables : LeaseTables) (now : Int) : Prop where
  exclusive : tables.leases.Pairwise fun lease other => lease.Meets other →
    ¬ (lease.Live ports now ∧ other.Live ports now)
  ordered : tables.leases.Pairwise fun lease other => lease.scopeKey = other.scopeKey →
    lease.fencingToken < other.fencingToken
  fenced : ∀ lease ∈ tables.leases, lease.scopeKey = lease.toLeaseScope.scopeKey ports ∧
    ∃ last, tables.fences.get? lease.scopeKey = some last ∧ lease.fencingToken ≤ last
  distinct : tables.leases.Pairwise (·.id ≠ ·.id)

lemma LeaseTables.Sound.later (sound : tables.Sound ports before) (ordered : before ≤ now) :
    tables.Sound ports now :=
  { sound with
    exclusive := sound.exclusive.imp fun apart meets both =>
      apart meets ⟨both.1.earlier ordered, both.2.earlier ordered⟩ }

/-- A change that leaves the scope and the token of a lease alone and makes it live no longer than
it was. -/
structure Lessens (ports : LeasePorts) (now : Int) (lease changed : ComputeLease) : Prop where
  id : changed.id = lease.id
  scope : changed.toLeaseScope = lease.toLeaseScope
  start : changed.sequenceStart = lease.sequenceStart
  stop : changed.sequenceEnd = lease.sequenceEnd
  token : changed.fencingToken = lease.fencingToken
  key : changed.scopeKey = lease.scopeKey
  live : changed.Live ports now → lease.Live ports now

/-- Such changes keep what holds between calls. -/
lemma LeaseTables.Sound.changed (sound : tables.Sound ports now) {condition : ComputeLease → Bool}
    {change : ComputeLease → ComputeLease}
    (lessens : ∀ lease ∈ tables.leases, condition lease → Lessens ports now lease (change lease)) :
    LeaseTables.Sound ports { tables with leases := changeWhere condition change tables.leases }
      now := by
  have each : ∀ lease ∈ tables.leases, Lessens ports now lease (if condition lease then change lease
      else lease) := by
    intro lease listed
    split
    · exact lessens lease listed ‹_›
    · exact ⟨rfl, rfl, rfl, rfl, rfl, rfl, id⟩
  refine ⟨?_, ?_, ?_, ?_⟩
  · rw [changeWhere, pairwise_map]
    refine sound.exclusive.imp_of_mem fun {lease other} listed also apart meets both => ?_
    obtain ⟨covers, overlap⟩ := meets
    have first := each lease listed
    have second := each other also
    rw [first.scope, second.scope] at covers
    rw [first.start, first.stop, second.start, second.stop] at overlap
    exact apart ⟨covers, overlap⟩ ⟨first.live both.1, second.live both.2⟩
  · rw [changeWhere, pairwise_map]
    refine sound.ordered.imp_of_mem fun {lease other} listed also grows same => ?_
    rw [(each lease listed).key, (each other also).key] at same
    rw [(each lease listed).token, (each other also).token]
    exact grows same
  · intro changed member
    obtain ⟨lease, listed, rfl⟩ := mem_map.mp member
    rw [(each lease listed).key, (each lease listed).scope, (each lease listed).token]
    exact sound.fenced lease listed
  · rw [changeWhere, pairwise_map]
    refine sound.distinct.imp_of_mem fun {lease other} listed also differ => ?_
    rwa [(each lease listed).id, (each other also).id]

lemma Lessens.inactive {changed : ComputeLease} (scope : changed.toLeaseScope = lease.toLeaseScope)
    (same : changed.id = lease.id ∧ changed.sequenceStart = lease.sequenceStart ∧
      changed.sequenceEnd = lease.sequenceEnd ∧
      changed.fencingToken = lease.fencingToken ∧ changed.scopeKey = lease.scopeKey)
    (status : changed.status ≠ .active) :
    Lessens ports now lease changed :=
  ⟨same.1, scope, same.2.1, same.2.2.1, same.2.2.2.1, same.2.2.2.2, fun live =>
    absurd live.1 status⟩

def LeaseRequest.Unmixed (ports : LeasePorts) (request : LeaseRequest) (leases : List ComputeLease)
    (now : Int) : Prop :=
  (∀ lease ∈ leases, request.MeetsActive lease → lease.Current ports now) ∨
    ∀ lease ∈ leases, request.MeetsActive lease → ¬ lease.Current ports now
  deriving Decidable

section

variable {request : LeaseRequest} {id : Str} {budget : ResourceBudget} {taken : String}
  (granted : acquireInSession ports tables request id budget now taken = .ok altered)
  (unmixed : request.Unmixed ports tables.leases now)
include granted unmixed

/-- What a granted request leads to. -/
lemma acquireInSession_spec :
    ∃ condition token, altered.leases = changeWhere condition (·.expired) tables.leases ++
      [request.issued ports id budget token now] ∧
      altered.fences = tables.fences.set (request.scopeKey ports) token ∧
        token = lastToken ports tables request + 1 ∧
      (∀ lease ∈ changeWhere condition (·.expired) tables.leases, lease.id ≠ id) ∧
      ∀ lease ∈ tables.leases, request.MeetsActive lease → ¬ lease.Current ports now := by
  unfold acquireInSession at granted
  dsimp only at granted
  cases found : ports.first (tables.leases.filter request.MeetsActive) with
  | none =>
    rw [found] at granted
    dsimp only at granted
    split at granted
    · cases granted
    · rename_i fresh
      cases granted
      refine ⟨fun _ => false, _, ?_, rfl, rfl, fun lease listed same => ?_,
        fun lease listed meets => ?_⟩
      · simp [changeWhere]
      · exact fresh ⟨lease, by simpa [changeWhere] using listed, .inl same⟩
      · have empty := ports.first_none found
        simp_all
  | some active =>
    rw [found] at granted
    dsimp only at granted
    obtain ⟨listed, meets⟩ := mem_filter.mp (ports.first_mem found)
    by_cases current : active.Current ports now
    · rw [if_pos current] at granted
      cases granted
    · rw [if_neg current] at granted
      dsimp only at granted
      split at granted
      · cases granted
      · rename_i fresh
        cases granted
        refine ⟨_, _, rfl, rfl, rfl, fun lease listed same => fresh ⟨lease, listed, .inl same⟩,
          unmixed.resolve_left fun all => ?_⟩
        exact current (all active listed (of_decide_eq_true meets))

/-- A granted request keeps what holds between calls. -/
lemma LeaseTables.Sound.acquired (sound : tables.Sound ports now) : altered.Sound ports now := by
  obtain ⟨condition, token, leases, fences, next, fresh, none⟩ :=
    acquireInSession_spec granted unmixed
  have changed : LeaseTables.Sound ports
    { tables with leases := changeWhere condition (·.expired) tables.leases } now :=
    sound.changed fun _ _ _ => .inactive rfl ⟨rfl, rfl, rfl, rfl, rfl⟩ nofun
  -- A lease that is live and meets the new one would have been found.
  have dead : ∀ lease ∈ changeWhere condition (·.expired) tables.leases,
      lease.Meets (request.issued ports id budget token now) → ¬ lease.Live ports now := by
    intro lease listed meets live
    obtain ⟨old, member, rfl⟩ := mem_map.mp listed
    split at live
    · exact nomatch live.1
    · rename_i same
      rw [if_neg same] at meets
      exact none old member ⟨meets.1.symm, live.1, meets.2.2, meets.2.1⟩ live.2
  have behind : ∀ lease ∈ changeWhere condition (·.expired) tables.leases,
      lease.scopeKey = request.scopeKey ports → lease.fencingToken < token := by
    intro lease listed same
    obtain ⟨_, last, found, least⟩ := changed.fenced lease listed
    rw [same] at found
    have known : lastToken ports tables request = last := by
      rw [lastToken]
      simp only [show tables.fences.get? (request.scopeKey ports) = some last from found]
    omega
  refine ⟨?_, ?_, ?_, ?_⟩
  · rw [leases, pairwise_append]
    refine ⟨changed.exclusive, pairwise_singleton .., fun lease listed new only meets both => ?_⟩
    simp_all
  · rw [leases, pairwise_append]
    refine ⟨changed.ordered, pairwise_singleton .., fun lease listed new only same => ?_⟩
    rw [mem_singleton.mp only] at same ⊢
    exact behind lease listed same
  · intro lease listed
    rw [leases, mem_append] at listed
    rw [fences]
    rcases listed with old | new
    · obtain ⟨key, last, found, least⟩ := changed.fenced lease old
      refine ⟨key, ?_⟩
      rw [get?_set]
      grind
    · rw [mem_singleton.mp new]
      exact ⟨rfl, token, get?_set_self .., le_rfl⟩
  · rw [leases, pairwise_append]
    refine ⟨changed.distinct, pairwise_singleton .., fun lease listed new only => ?_⟩
    rw [mem_singleton.mp only]
    exact fresh lease listed

def ScheduledRequest.Apart (scheduled another : ScheduledRequest) : Prop :=
  scheduled.request.Covers another.request.toLeaseScope → ¬ Overlap scheduled.request.sequenceStart
    scheduled.request.sequenceEnd another.request.sequenceStart another.request.sequenceEnd
  deriving Decidable

/-- A granted request does not mix what the others of its schedule meet. -/
lemma LeaseRequest.Unmixed.acquired {another : LeaseRequest}
    (also : another.Unmixed ports tables.leases now)
    (apart : ScheduledRequest.Apart ⟨request, id⟩ ⟨another, id⟩) :
    another.Unmixed ports altered.leases now := by
  obtain ⟨condition, token, leases, _⟩ := acquireInSession_spec granted unmixed
  -- Whatever the other request meets now, it met before.
  have before : ∀ lease ∈ altered.leases, another.MeetsActive lease → lease ∈ tables.leases := by
    intro lease listed meets
    rw [leases, mem_append] at listed
    rcases listed with old | new
    · obtain ⟨row, member, rfl⟩ := mem_map.mp old
      split at meets
      · exact nomatch meets.2.1
      · rename_i same
        rwa [if_neg same]
    · rw [mem_singleton.mp new] at meets
      exact absurd ⟨meets.2.2.2, meets.2.2.1⟩ (apart meets.1.symm)
  exact also.imp (fun all lease listed meets => all lease (before lease listed meets) meets)
    (fun all lease listed meets => all lease (before lease listed meets) meets)

end

/-- A schedule keeps what holds between calls. -/
lemma LeaseTables.Sound.acquiredEach {started : Int} :
    ∀ {requests : List ScheduledRequest} {tables : LeaseTables},
    tables.Sound ports now → acquireEach ports now started tables requests = .ok altered →
      (∀ scheduled ∈ requests, scheduled.request.Unmixed ports tables.leases now) →
      requests.Pairwise ScheduledRequest.Apart → altered.Sound ports now
  | [], _, sound, granted, _, _ => by
    cases granted
    exact sound
  | scheduled :: rest, tables, sound, granted, unmixed, apart => by
    rw [acquireEach, bind_eq_ok] at granted
    obtain ⟨budget, _, granted⟩ := granted
    obtain ⟨next, first, others⟩ := bind_eq_ok.mp granted
    rw [forall_mem_cons] at unmixed
    rw [pairwise_cons] at apart
    refine acquiredEach (sound.acquired first unmixed.1) others (fun another listed => ?_) apart.2
    exact unmixed.1.acquired first (unmixed.2 another listed) (apart.1 another listed)

/-- A change that compares and swaps goes by its condition. -/
lemma LeaseTables.Sound.swapped (sound : tables.Sound ports now) {handle : LeaseHandle}
    {change : ComputeLease → ComputeLease}
    (swapped : compareAndSwap tables handle change = .ok altered)
    (lessens : ∀ lease ∈ tables.leases, lease.id = handle.leaseId → lease.status = .active →
      Lessens ports now lease (change lease)) : altered.Sound ports now := by
  simp only [compareAndSwap, ite_eq_ok, Except.ok.injEq] at swapped
  obtain ⟨_, rfl⟩ := swapped
  refine sound.changed fun lease listed condition => ?_
  simp only [LeaseHandle.fits, decide_eq_true_eq] at condition
  exact lessens lease listed condition.1 condition.2.1

/-- The calls that acquire meet only active leases that are all current, or none is. -/
def LeaseOperation.Unmixed (ports : LeasePorts) (tables : LeaseTables) (now : Int) :
    LeaseOperation → Prop
  | .acquire request _ _ => request.Unmixed ports tables.leases now
  | .scheduleOnce _ _ _ _ _ requests _ _ _ =>
    (∀ scheduled ∈ requests, scheduled.request.Unmixed ports tables.leases now) ∧
      requests.Pairwise ScheduledRequest.Apart
  | _ => True

lemma LeaseTables.Sound.same (sound : tables.Sound ports before) (listed : lease ∈ tables.leases)
    (also : other ∈ tables.leases) (same : lease.id = other.id) : lease = other := by
  by_contra differ
  have symmetric : Std.Symm fun lease other : ComputeLease => lease.id ≠ other.id :=
    ⟨fun _ _ apart => apart.symm⟩
  exact sound.distinct.forall listed also differ same

/-- Every call that succeeds keeps what holds between calls. -/
lemma LeaseTables.Sound.run {operation : LeaseOperation} (sound : tables.Sound ports now)
    (succeeded : operation.run ports tables now = .ok altered)
    (unmixed : operation.Unmixed ports tables now) :
    altered.Sound ports now := by
  cases operation with
  | acquire request id started =>
    obtain ⟨budget, _, granted⟩ := bind_eq_ok.mp succeeded
    exact sound.acquired granted unmixed
  | scheduleOnce tenantId ownerSubject contractId keyDigest requestDigest requests expiresAt started
      contractCurrent =>
    simp only [LeaseOperation.run, scheduleOnce, ok_iff] at succeeded
    obtain ⟨_, _, _, _, _, _, succeeded⟩ := succeeded
    split at succeeded
    · split at succeeded <;> cases succeeded
      exact sound
    · simp only [ok_iff] at succeeded
      obtain ⟨_, _, next, granted, rfl⟩ := succeeded
      have kept := sound.acquiredEach granted unmixed.1 unmixed.2
      exact { kept with }
  | renew handle ttlSeconds =>
    simp only [LeaseOperation.run, renew, ite_eq_ok] at succeeded
    obtain ⟨_, succeeded⟩ := succeeded
    split at succeeded
    · cases succeeded
    · rename_i current found
      obtain ⟨fresh, succeeded⟩ := ite_eq_ok.2.mp succeeded
      refine sound.swapped succeeded fun lease listed named active =>
        ⟨rfl, rfl, rfl, rfl, rfl, rfl, fun _ => ?_⟩
      -- The lease that is swapped is the one whose expiry was checked.
      have known : current.id = handle.leaseId := by simpa using find?_some found
      rw [sound.same listed (mem_of_find?_eq_some found) (named.trans known.symm)] at active ⊢
      exact ⟨active, fresh⟩
  | revoke handle =>
    unfold LeaseOperation.run revoke at succeeded
    dsimp only at succeeded
    split at succeeded
    · cases succeeded
    · split at succeeded
      · rename_i swapped
        cases succeeded
        exact sound.swapped swapped fun _ _ _ _ =>
          .inactive rfl ⟨rfl, rfl, rfl, rfl, rfl⟩ fun same => by cases same
      grind
  | reduce tenantId ownerSubject handle budget expiresAt =>
    unfold LeaseOperation.run reduce at succeeded
    dsimp only at succeeded
    split at succeeded
    · cases succeeded
    · obtain ⟨_, succeeded⟩ := ite_eq_ok.1.mp succeeded
      split at succeeded
      · cases succeeded
      · rename_i current found
        simp only [ite_eq_ok] at succeeded
        obtain ⟨_, _, shorter, succeeded⟩ := succeeded
        refine sound.swapped succeeded fun lease listed named active =>
          ⟨rfl, rfl, rfl, rfl, rfl, rfl, fun live => ?_⟩
        have known : current.id = handle.leaseId := by
          have named := find?_some found
          simp only [decide_eq_true_eq] at named
          exact named.1
        have same := sound.same listed (mem_of_find?_eq_some found) (named.trans known.symm)
        obtain ⟨_, timely, due⟩ := live
        dsimp only at timely due
        exact ⟨active, by rw [same]; omega, due⟩
  | revokeContractActive tenantId ownerSubject contractId =>
    cases succeeded
    exact sound.changed fun _ _ _ =>
      .inactive rfl ⟨rfl, rfl, rfl, rfl, rfl⟩ fun same => by cases same
  | expireDue limit =>
    simp only [LeaseOperation.run, expireDue, ite_eq_ok, Except.ok.injEq] at succeeded
    obtain ⟨_, rfl⟩ := succeeded
    exact sound.changed fun _ _ _ =>
      .inactive rfl ⟨rfl, rfl, rfl, rfl, rfl⟩ fun same => by cases same

/-- What the condition of a call asks for: the clock does not go back, and nothing mixed is met. -/
def TimedOperation.Orderly (ports : LeasePorts) (state : LeaseTables × Int)
    (call : TimedOperation) : Prop :=
  state.2 ≤ call.now ∧ call.operation.Unmixed ports state.1 call.now

/-- Every call keeps what holds between calls. -/
lemma LeaseTables.Sound.step {state : LeaseTables × Int} {call : TimedOperation}
    (sound : state.1.Sound ports state.2) (orderly : call.Orderly ports state) :
    ((leaseAuthority ports).step state call).2.1.Sound ports
      ((leaseAuthority ports).step state call).2.2 := by
  have current := sound.later orderly.1
  unfold leaseAuthority
  dsimp only
  split
  · exact current
  · rename_i altered succeeded
    split
    · exact current.run succeeded orderly.2
    · exact current

/-- Leases for which results are authorized at one time do not meet, and the tokens of a scope grow
with each lease. -/
theorem semantic_leases_exclude (ports : LeasePorts) (calls : List TimedOperation)
    (orderly : (leaseAuthority ports).Throughout (fun state call => call.Orderly ports state)
      (leaseAuthority ports).initial calls) :
    (∀ now, ((leaseAuthority ports).after (leaseAuthority ports).initial calls).2 ≤ now →
      ∀ result another lease other,
        authorizeResult ports
          ((leaseAuthority ports).after (leaseAuthority ports).initial calls).1.leases now result =
            .ok lease →
        authorizeResult ports
          ((leaseAuthority ports).after (leaseAuthority ports).initial calls).1.leases now another =
            .ok other →
        lease.Meets other → lease = other) ∧
      ((leaseAuthority ports).after (leaseAuthority ports).initial calls).1.leases.Pairwise
        fun earlier later => earlier.Covers later.toLeaseScope →
          earlier.fencingToken < later.fencingToken := by
  have sound : LeaseTables.Sound ports
      ((leaseAuthority ports).after (leaseAuthority ports).initial calls).1
      ((leaseAuthority ports).after (leaseAuthority ports).initial calls).2 :=
    (leaseAuthority ports).after_of_throughout _ (fun state => state.1.Sound ports state.2)
      (fun _ _ sound orderly => sound.step orderly)
        calls _ ⟨.nil, .nil, fun _ none => absurd none not_mem_nil, .nil⟩ orderly
  generalize (leaseAuthority ports).after (leaseAuthority ports).initial calls = state at sound
  refine ⟨fun now later result another lease other first second meets => ?_, ?_⟩
  · obtain ⟨listed, live⟩ := live_of_authorizeResult first
    obtain ⟨also, alive⟩ := live_of_authorizeResult second
    by_contra differ
    have symmetric : Std.Symm fun lease other : ComputeLease =>
        lease.Meets other → ¬ (lease.Live ports now ∧ other.Live ports now) :=
      ⟨fun _ _ apart meets both => apart ⟨meets.1.symm, meets.2.2, meets.2.1⟩ both.symm⟩
    exact (sound.later later).exclusive.forall listed also differ meets ⟨live, alive⟩
  · refine sound.ordered.imp_of_mem fun {earlier later} listed also grows covers => grows ?_
    rw [(sound.fenced earlier listed).1, (sound.fenced later also).1, covers.scopeKey]

/-- A port whose digest is the text itself, and whose queries answer in the order of issue. -/
def plainPorts : LeasePorts where
  digest := id
  first := head?
  first_mem := mem_of_mem_head?
  first_none := head?_eq_none_iff.mp
  limited := take
  clockSkew := 5

def rangeRequest (sequenceStart sequenceEnd ttlSeconds : Int) : LeaseRequest where
  tenantId := "tenant"
  sessionId := "session"
  epoch := 1
  taskType := "visual_extract"
  audience := "audience"
  role := "primary"
  executorId := "executor"
  ownerSubject := "owner"
  contractId := "contract"
  contractDigest := "digest"
  sequenceStart
  sequenceEnd
  resourceBudget := some ⟨1, 1, 1⟩
  ttlSeconds
  deadlineAt := 1000

def acquireRange (sequenceStart sequenceEnd ttlSeconds : Int) (id : String) (now : Int) :
    TimedOperation :=
  ⟨.acquire (rangeRequest sequenceStart sequenceEnd ttlSeconds) (text id) now, now, true⟩

def rangeResult (id : String) (fencingToken : Int) : LeasedResult where
  leaseId := text id
  contractDigest := "digest"
  fencingToken
  sessionId := "session"
  epoch := 1
  taskType := "visual_extract"
  audience := "audience"

/-- Two ranges side by side, and one of them again after it has expired. -/
theorem semantic_leases_exclude_neighbours :
    ((leaseAuthority plainPorts).after (leaseAuthority plainPorts).initial
      [acquireRange 1 5 10 "a" 100, acquireRange 6 10 300 "b" 100,
        acquireRange 1 5 300 "c" 200]).1.leases.Pairwise
        fun earlier later => earlier.Covers later.toLeaseScope →
          earlier.fencingToken < later.fencingToken :=
  (semantic_leases_exclude plainPorts _ (by
    simp only [Machine.Throughout, TimedOperation.Orderly, acquireRange, LeaseOperation.Unmixed]
    decide +kernel)).2

/-- One expired lease that is found first hides another that is live, and the range of both is
leased once more. -/
theorem expired_lease_hides_live :
    let leases := ((leaseAuthority plainPorts).after (leaseAuthority plainPorts).initial
      [acquireRange 1 5 10 "a" 100, acquireRange 6 10 300 "b" 100,
        acquireRange 1 10 300 "c" 200]).1.leases
    ∃ lease other, authorizeResult plainPorts leases 200 (rangeResult "b" 2) = .ok lease ∧
      authorizeResult plainPorts leases 200 (rangeResult "c" 3) = .ok other ∧ lease.Meets other ∧
        lease.id ≠ other.id := by
  refine ⟨(rangeRequest 6 10 300).issued plainPorts (text "b") ⟨1, 1, 1⟩ 2 100,
    (rangeRequest 1 10 300).issued plainPorts (text "c") ⟨1, 1, 1⟩ 3 200, ?_⟩
  unfold ComputeLease.Meets
  decide +kernel

end

end Ananta
