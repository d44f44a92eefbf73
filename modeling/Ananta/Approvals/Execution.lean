import Ananta.Library.Machine
import Ananta.Python.Float

/-! One-shot grants: the tool runs once if the calls that execute a grant do not overlap and the
tool returns. -/

namespace Ananta

inductive ApprovalStatus where
  | pending
  | granted
  | denied
  | expired
  | superseded
  | consumed
  deriving DecidableEq

/-- What a call does next: `consume_request` does what `execute_granted_tool_call` does behind the
tool. -/
inductive GrantStage where
  | check
  | run
  | select (executed : Bool)
  | update (executed : Bool)
  | commit (executed : Bool)
  | ended
  deriving DecidableEq

/-- The row of a request, whether an update of it is not committed yet, and how often the tool was
invoked. -/
structure GrantState where
  status : ApprovalStatus := .granted
  expiresAt : Option Float64 := none
  locked : Bool := false
  invocations : Nat := 0
  calls : List GrantStage := []

/-- A call starts, or goes on at a reading of the clock, where the payload may be lost and the tool
may raise. -/
inductive GrantStep where
  | executeGrantedToolCall
  | consumeRequest
  | goOn (index : Nat) (now : Float64) (works : Bool)

variable (state : GrantState)

/-- One statement of a call under way, or its tool call: the row and the count behind it, and what
comes next. -/
def GrantState.advance (now : Float64) (works : Bool) : GrantStage → GrantState × GrantStage
  | .check =>
    let expired := ∃ expiresAt ∈ state.expiresAt, expiresAt < now
    (state, if state.status = .granted ∧ ¬ expired ∧ works then .run else .ended)
  | .run => ({ state with invocations := state.invocations + 1 }, if works then .select true
      else .ended)
  | .select executed => (state, if state.status = .granted then .update executed else .ended)
  | .update executed =>
    -- An update waits for one that is not committed, and finds what that one leaves.
    if state.locked then (state, .update executed)
    else if state.status = .granted then ({ state with locked := true }, .commit executed)
    else (state, .ended)
  | .commit _ => ({ state with status := .consumed, locked := false }, .ended)
  | .ended => (state, .ended)

def grantMachine (expiresAt : Option Float64) : Machine GrantState GrantStep Unit where
  initial := { expiresAt }
  step state input := ((), match input with
    | .executeGrantedToolCall => { state with calls := state.calls ++ [.check] }
    | .consumeRequest => { state with calls := state.calls ++ [.select false] }
    | .goOn index now works =>
      match state.calls[index]? with
      | some stage =>
        let (later, next) := state.advance now works stage
        { later with calls := state.calls.set index next }
      | none => state)

/-- Whether a call is about to invoke the tool. -/
@[grind] def GrantStage.ahead : GrantStage → Nat
  | .run => 1
  | _ => 0

/-- Whether a call has invoked the tool, and has not ended. -/
@[grind] def GrantStage.behind : GrantStage → Nat
  | .select executed | .update executed | .commit executed => executed.toNat
  | _ => 0

/-- The calls that are about to invoke the tool. -/
def GrantState.ahead : Nat := (state.calls.map GrantStage.ahead).sum

/-- The calls that have invoked the tool, and have not ended. -/
def GrantState.behind : Nat := (state.calls.map GrantStage.behind).sum

/-- No call checks the grant while another one is between its check and its end, and the tool
returns. -/
def OneAtATime : GrantStep → Prop
  | .goOn index _ works => ∀ stage ∈ state.calls[index]?,
    (stage = .check → state.ahead = 0 ∧ state.behind = 0) ∧ (stage = .run → works = true)
  | _ => True

/-- The tool is invoked once by one call, behind which the grant is consumed before that call
ends. -/
structure GrantState.Once : Prop where
  status : state.status = .granted ∨ state.status = .consumed
  ahead : state.ahead + state.invocations ≤ 1
  alone : state.ahead + state.behind ≤ 1
  spent : state.invocations = 1 → state.status = .consumed ∨ state.behind = 1

/-- A call goes on to another stage. -/
lemma sum_set_add (weight : GrantStage → Nat) (next : GrantStage) :
    ∀ {calls : List GrantStage} {index : Nat} {stage : GrantStage}, calls[index]? = some stage →
      ((calls.set index next).map weight).sum + weight stage = (calls.map weight).sum + weight next
  | first :: rest, 0, stage, found => by
    cases found
    simp only [List.set_cons_zero, List.map_cons, List.sum_cons]
    omega
  | first :: rest, index + 1, stage, found => by
    have others := sum_set_add weight next (show rest[index]? = some stage from found)
    simp only [List.set_cons_succ, List.map_cons, List.sum_cons]
    omega

/-- One step of calls that do not overlap. -/
lemma GrantState.Once.step {expiresAt : Option Float64} {state : GrantState} {input : GrantStep}
    (once : state.Once) (apart : OneAtATime state input) :
    ((grantMachine expiresAt).step state input).2.Once := by
  obtain ⟨status, ahead, alone, spent⟩ := once
  cases input with
  | executeGrantedToolCall | consumeRequest =>
    constructor <;> simpa [grantMachine, GrantState.ahead, GrantState.behind, GrantStage.ahead,
      GrantStage.behind]
  | goOn index now works =>
    dsimp only [grantMachine]
    split
    · rename_i stage found
      have leads := fun next => sum_set_add GrantStage.ahead next found
      have follows := fun next => sum_set_add GrantStage.behind next found
      obtain ⟨checked, returned⟩ := apart stage found
      unfold GrantState.ahead at ahead alone checked
      unfold GrantState.behind at alone spent checked
      -- Whatever the next stage is, the calls are counted by what the call in hand was and becomes.
      have made : ∀ next status invocations locked, (status = .granted ∨ status = .consumed) →
          (∀ leads follows, leads + stage.ahead = (state.calls.map GrantStage.ahead).sum +
            next.ahead →
            follows + stage.behind = (state.calls.map GrantStage.behind).sum + next.behind →
            leads + invocations ≤ 1 ∧ leads + follows ≤ 1 ∧
              (invocations = 1 → status = .consumed ∨ follows = 1)) →
          GrantState.Once ⟨status, state.expiresAt, locked, invocations,
            state.calls.set index next⟩ := by
        intro next status invocations locked either counted
        obtain ⟨first, second, third⟩ := counted _ _ (leads next) (follows next)
        exact ⟨either, first, second, third⟩
      cases stage <;> dsimp only [GrantState.advance]
      case check =>
        -- Nobody is between check and end, so that a grant that was used is consumed by now.
        split
        · refine made .run _ _ _ status fun leads follows => ?_
          grind
        · refine made .ended _ _ _ status fun leads follows => ?_
          grind
      case run =>
        rw [returned rfl]
        refine made (.select true) _ _ _ status fun leads follows => ?_
        grind
      case select executed =>
        split
        · refine made (.update executed) _ _ _ status fun leads follows => ?_
          grind
        · refine made .ended _ _ _ status fun leads follows => ?_
          grind
      case update executed =>
        split
        · refine made (.update executed) _ _ _ status fun leads follows => ?_
          grind
        · split
          · refine made (.commit executed) _ _ _ status fun leads follows => ?_
            grind
          · refine made .ended _ _ _ status fun leads follows => ?_
            grind
      case commit executed =>
        refine made .ended _ _ _ (.inr rfl) fun leads follows => ?_
        grind
      case ended =>
        refine made .ended _ _ _ status fun leads follows => ?_
        grind
    · exact ⟨status, ahead, alone, spent⟩

/-- As long as the calls that execute a grant do not overlap and its tool returns, the tool is
invoked once at most. -/
theorem grant_executed_once (expiresAt : Option Float64) (steps : List GrantStep)
    (apart : (grantMachine expiresAt).Throughout OneAtATime
      (grantMachine expiresAt).initial steps) :
    ((grantMachine expiresAt).after (grantMachine expiresAt).initial steps).invocations ≤
      1 := by
  have initially : GrantState.Once { expiresAt } := by
    constructor <;> simp [GrantState.ahead, GrantState.behind]
  have once := (grantMachine expiresAt).after_of_throughout OneAtATime GrantState.Once
    (fun _ _ once apart => once.step apart) steps _ initially apart
  exact Nat.le_trans (Nat.le_add_left ..) once.ahead

/-- A second call that starts when the first one has ended finds the grant consumed. -/
theorem grant_executed_once_again : ((grantMachine none).after (grantMachine none).initial
      ([.executeGrantedToolCall, .goOn 0 1 true, .goOn 0 1 true, .goOn 0 1 true, .goOn 0 1 true,
        .goOn 0 1 true,
        .executeGrantedToolCall, .goOn 1 2 true, .goOn 1 2 true])).invocations ≤ 1 :=
  grant_executed_once none _ (by
    simp [Machine.Throughout, OneAtATime, grantMachine, GrantState.advance, GrantState.ahead,
      GrantState.behind, GrantStage.ahead, GrantStage.behind])

/-- Two calls that both check the grant before one of them consumes it invoke the tool twice. -/
theorem grant_executed_twice : ((grantMachine none).after (grantMachine none).initial
      [.executeGrantedToolCall, .executeGrantedToolCall, .goOn 0 1 true, .goOn 1 1 true,
        .goOn 0 1 true, .goOn 1 1 true]).invocations = 2 := by
  decide

end Ananta
