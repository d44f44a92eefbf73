import Ananta.Library.Machine
import Ananta.Python.Float
import Ananta.Python.Text

/-! Leases of the Hub's tasks, which are read back from the last events of a task. -/

namespace Ananta

open List

/-- `LeaseInfo`. -/
structure LeaseInfo where
  agentUrl : Str
  leaseUntil : Float64
  idempotencyKey : Str
  deriving DecidableEq

/-- An event in the history of a task: a claim, or one of another type. -/
inductive TaskEvent where
  | claimed (lease : LeaseInfo)
  | other (eventType : Str)
  deriving DecidableEq

/-- A call of `claim_task`, with its two readings of the clock, and whether the gates and the status
of the task let it pass. -/
structure ClaimCall where
  agentUrl : Str
  requestedLease : Int
  idempotencyKey : Str := []
  started : Float64
  checked : Float64
  admitted : Bool := true

/-- `validate_lease_duration`. -/
def validateLeaseDuration (leaseSeconds : Int) : Int := max 10 (min leaseSeconds 3600)

def ClaimCall.lease (call : ClaimCall) : LeaseInfo where
  agentUrl := call.agentUrl
  leaseUntil := call.started + .ofInt (validateLeaseDuration call.requestedLease)
  idempotencyKey := call.idempotencyKey

def TaskEvent.running (now : Float64) : TaskEvent → Option LeaseInfo
  | .claimed lease => if now < lease.leaseUntil then some lease else none
  | .other _ => none

/-- `extract_active_lease`. -/
def extractActiveLease (now : Float64) (history : List TaskEvent) : Option LeaseInfo :=
  history.reverse.findSome? (TaskEvent.running now)

/-- `can_claim_task`. -/
def canClaimTask (now : Float64) (history : List TaskEvent) (agentUrl : Str) : Except Str Unit :=
  match extractActiveLease now history with
  | none => .ok ()
  | some lease => if lease.agentUrl = agentUrl then .ok () else .error "task_already_leased"

/-- `append_task_history_event`. -/
def appendHistory (history : List TaskEvent) (event : TaskEvent) : List TaskEvent :=
  (history ++ [event]).rtake 200

/-- `claim_task`. -/
def claimTask (history : List TaskEvent) (call : ClaimCall) :
    Except Str LeaseInfo × List TaskEvent :=
  if call.admitted then
    match canClaimTask call.checked history call.agentUrl with
    | .error reason => (.error reason, history)
    | .ok () => (.ok call.lease, appendHistory history (.claimed call.lease))
  else
    (.error "claim_state_changed_or_recovery_gate_closed", history)

/-- An operation on a task: a claim, or one that notes another event, which some services do without
dropping old ones. -/
inductive LeaseCall where
  | claim (call : ClaimCall)
  | note (eventType : Str) (bounded : Bool) (now : Float64)

def leaseMachine : Machine (List TaskEvent) LeaseCall (Except Str LeaseInfo) where
  initial := []
  step history
    | .claim call => claimTask history call
    | .note eventType bounded _ =>
      (.error [], if bounded then appendHistory history (.other eventType)
        else history ++ [.other eventType])

/-- The reading of the clock that an operation goes by. -/
def LeaseCall.now : LeaseCall → Float64
  | .claim call => call.checked
  | .note _ _ now => now

def pushedOut (history : List TaskEvent) : List TaskEvent := history.take (history.length - 199)

/-- No running lease is among the events that one more event pushes out. -/
def LeaseCall.Spares (history : List TaskEvent) (call : LeaseCall) : Prop :=
  ∀ event ∈ pushedOut history, event.running call.now = none
  deriving Decidable

variable {history : List TaskEvent} {lease : LeaseInfo} {call : LeaseCall} {now : Float64}

/-- A lease is held: behind its event there are claims of the same agent only. -/
def Held (lease : LeaseInfo) (history : List TaskEvent) : Prop :=
  ∃ front back, history = front ++ .claimed lease :: back ∧
    ∀ later, .claimed later ∈ back → later.agentUrl = lease.agentUrl

section

variable (held : Held lease history)
include held

/-- While a lease is held and running, an active lease of its agent is found. -/
lemma Held.active (running : now < lease.leaseUntil) :
    ∃ found, extractActiveLease now history = some found ∧ found.agentUrl = lease.agentUrl := by
  obtain ⟨front, back, rfl, same⟩ := held
  unfold extractActiveLease
  rw [reverse_append, reverse_cons, append_assoc, findSome?_append]
  cases found : back.reverse.findSome? (TaskEvent.running now) with
  | none =>
    refine ⟨lease, ?_, rfl⟩
    simp [TaskEvent.running, running]
  | some newer =>
    refine ⟨newer, rfl, ?_⟩
    obtain ⟨event, listed, here⟩ := exists_of_findSome?_eq_some found
    cases event with
    | other _ => cases here
    | claimed later =>
      -- What an event yields is its own lease.
      simp only [TaskEvent.running] at here
      simp_all

/-- A claim of another agent is refused as long as the lease is running. -/
lemma Held.refused {call : ClaimCall} (running : call.checked < lease.leaseUntil)
    (other : call.agentUrl ≠ lease.agentUrl) : ∃ reason,
      claimTask history call = (.error reason, history) := by
  obtain ⟨found, active, owner⟩ := held.active running
  have denied : canClaimTask call.checked history call.agentUrl = .error "task_already_leased" := by
    rw [canClaimTask, active]
    exact if_neg fun same => other (same.symm.trans owner)
  unfold claimTask
  rw [denied]
  split
  · exact ⟨_, rfl⟩
  · exact ⟨_, rfl⟩

/-- One more event behind a held lease, where the event of the lease is not pushed out. -/
lemma Held.appended (event : TaskEvent)
    (same : ∀ later, event = .claimed later → later.agentUrl = lease.agentUrl)
    (spares : .claimed lease ∉ pushedOut history) : Held lease (appendHistory history event) := by
  obtain ⟨front, back, rfl, others⟩ := held
  have grown : ∀ later, .claimed later ∈ back ++ [event] → later.agentUrl = lease.agentUrl := by
    intro later listed
    rcases mem_append.mp listed with old | new
    · exact others later old
    · exact same later (mem_singleton.mp new).symm
  -- The events that are dropped are some of those in front.
  unfold pushedOut at spares
  generalize dropped : (front ++ .claimed lease :: back).length - 199 = count at spares
  have fits : count ≤ front.length := by
    by_contra more
    refine spares ?_
    rw [take_append, mem_append]
    right
    obtain ⟨rest, split⟩ : ∃ rest, count - front.length = rest + 1 :=
      ⟨count - front.length - 1, by omega⟩
    rw [split]
    exact .head _
  refine ⟨front.drop count, back ++ [event], ?_, grown⟩
  have total : (front ++ .claimed lease :: back ++ [event]).length - 200 = count := by
    rw [length_append, length_singleton]
    omega
  unfold appendHistory rtake
  rw [total, append_assoc, cons_append, drop_append_of_le_length fits]

/-- An operation that spares the running leases keeps a lease held as long as it is running. -/
lemma Held.step (running : call.now < lease.leaseUntil) (spares : call.Spares history) :
    Held lease (leaseMachine.step history call).2 := by
  have kept : .claimed lease ∉ pushedOut history := by
    intro listed
    have none := spares _ listed
    rw [TaskEvent.running, if_pos running] at none
    cases none
  cases call with
  | claim call =>
    by_cases owner : call.agentUrl = lease.agentUrl
    · show Held lease (claimTask history call).2
      unfold claimTask
      split
      · split
        · exact held
        · dsimp only
          exact held.appended (.claimed call.lease) (fun later same => by cases same; exact owner)
            kept
      · exact held
    · obtain ⟨_, refused⟩ := held.refused running owner
      show Held lease (claimTask history call).2
      rwa [refused]
  | note eventType bounded now =>
    cases bounded with
    | true =>
      dsimp only [leaseMachine]
      rw [if_pos rfl]
      exact held.appended (.other eventType) nofun kept
    | false =>
      obtain ⟨front, back, rfl, others⟩ := held
      refine ⟨front, back ++ [.other eventType], by simp [leaseMachine], fun later listed => ?_⟩
      exact others later (by simpa using listed)

end

end Ananta
