import Ananta.Plan.Plan

/-! Routing conditions evaluated against the state of a run, and the merge of branch results. -/

namespace Ananta

namespace Value

def numberUnits : Value → Option Int
  | .bool value => some (if value then Float64.unitsPerOne else 0)
  | .int value => some (value * Float64.unitsPerOne)
  | .float .negativeZero => some 0
  | .float (.finite units _) => some units
  | _ => Option.none

mutual

/-- Python's `==`, which compares numbers across their types. -/
def equal : Value → Value → Bool
  | .none, .none => true
  | .str left, .str right => left = right
  | .object left, .object right => left = right
  | .list left, .list right => equalItems left right
  | .tuple left, .tuple right => equalItems left right
  | .dict left, .dict right => left.length = right.length && equalFields left right
  | .float (.infinity left), .float (.infinity right) => left = right
  | left, right =>
    match left.numberUnits, right.numberUnits with
    | some left, some right => left = right
    | _, _ => false

def equalItems : List Value → List Value → Bool
  | [], [] => true
  | left :: lefts, right :: rights => equal left right && equalItems lefts rights
  | _, _ => false

def equalFields : Fields → Fields → Bool
  | [], _ => true
  | (key, left) :: lefts, rights =>
    (match rights.find? (·.1 = key) with
      | some (_, right) => equal left right
      | Option.none => false) && equalFields lefts rights

end

/-- The class of a value, as far as `type(left) is type(right)` compares it. -/
def typeTag : Value → Nat
  | .none => 0
  | .bool _ => 1
  | .int _ => 2
  | .float _ => 3
  | .str _ => 4
  | .list _ => 5
  | .tuple _ => 6
  | .dict _ => 7
  | .object _ => 8

end Value

/-- `ConditionResult`. -/
structure ConditionResult where
  value : Option Bool
  reasonCode : String
  deriving DecidableEq

namespace ConditionResult

/-- `matches`. -/
def matched (result : ConditionResult) : Bool := result.value = some true

def cutOff (result : ConditionResult) : Bool :=
  result.reasonCode = "condition_depth_exceeded" || result.reasonCode =
    "condition_node_limit_exceeded"

/-- The result of `all` or `any` over the results of the children. -/
def combined (all : Bool) (results : List ConditionResult) : ConditionResult :=
  match results.find? (·.cutOff) with
  | some cut => cut
  | none =>
    if all then
      if results.any (·.value = some false) then ⟨some false, "condition_all_false"⟩
      else if results.any (·.value = none) then ⟨none, "condition_all_unknown"⟩
      else ⟨some true, "condition_all_true"⟩
    else if results.any (·.value = some true) then ⟨some true, "condition_any_true"⟩
    else if results.any (·.value = none) then ⟨none, "condition_any_unknown"⟩
    else ⟨some false, "condition_any_false"⟩

/-- The result of `not` over the result of the child. -/
def negated (result : ConditionResult) : ConditionResult :=
  match result.value with
  | some value => ⟨some (!value), "condition_not_evaluated"⟩
  | none => if result.cutOff then result else ⟨none, "condition_not_unknown"⟩

end ConditionResult

/-- The default `maximum_depth`. -/
def maximumConditionDepth : Nat := 16

/-- The default `maximum_nodes`. -/
def maximumConditionNodes : Int := 256

/-- Whether a character may start a segment of a field path. -/
def isLetter (point : CodePoint) : Bool :=
  (0x41 ≤ point.val && point.val ≤ 0x5A) || (0x61 ≤ point.val && point.val ≤ 0x7A)

def isSegment : Str → Bool
  | [] => false
  | first :: rest => isLetter first && rest.all fun point =>
      isLetter point || (0x30 ≤ point.val && point.val ≤ 0x39) || point = codePoint '_' || point =
        codePoint '-'

/-- `_resolve` of the segments of a field path. -/
def resolveField : Value → List Str → Option Value
  | current, [] => some current
  | .dict fields, segment :: rest =>
    match fields.find? (·.1 = segment) with
    | some (_, next) => resolveField next rest
    | none => none
  | _, _ :: _ => none

/-- The result of a comparison, where nothing that is not a number is compared with itself. -/
def compared (operator : Str) (actual expected : Value) : ConditionResult :=
  if operator = "in" then
    match expected with
    | .list items =>
      if items.any (·.typeTag ≠ actual.typeTag) then ⟨none, "condition_type_mismatch"⟩
      else ⟨some (items.any (actual.equal ·)), "condition_in_evaluated"⟩
    | _ => ⟨none, "condition_in_collection_required"⟩
  else if actual.typeTag ≠ expected.typeTag then ⟨none, "condition_type_mismatch"⟩
  else if operator = "eq" then ⟨some (actual.equal expected), "condition_eq_evaluated"⟩
  else ⟨some (!actual.equal expected), "condition_ne_evaluated"⟩

def comparison (state : Fields) (fields : Fields) (operator : Str) : ConditionResult :=
  let name := match fieldOf fields "field" with
    | some value => if value.truthy then strip value.toStr else []
    | none => []
  let segments := name.splitOn (codePoint '.')
  if ["eq", "ne", "in", "exists"].all fun known => operator ≠ text known
    then ⟨none, "condition_operator_invalid"⟩
  else if segments.all isSegment = false then ⟨none, "condition_field_invalid"⟩
  else if operator = "exists" then
    ⟨some (resolveField (.dict state) segments).isSome, "condition_exists_evaluated"⟩
  else
    match resolveField (.dict state) segments, fieldOf fields "value" with
    | none, _ => ⟨none, "condition_field_unknown"⟩
    | some _, none => ⟨none, "condition_value_required"⟩
    | some actual, some expected => compared operator actual expected

mutual

/-- `_evaluate`, together with the number of conditions that may still be looked at. -/
def evaluateAt (maximumDepth : Nat) (state : Fields) : Value → Nat → Int → ConditionResult × Int
  | .dict fields, depth, remaining =>
    if maximumDepth < depth then (⟨none, "condition_depth_exceeded"⟩, remaining)
    else if remaining - 1 < 0 then (⟨none, "condition_node_limit_exceeded"⟩, remaining - 1)
    else
      let operator := conditionOperator fields
      if operator = "always" then (⟨some true, "condition_always"⟩, remaining - 1)
      else if operator = "all" ∨ operator = "any" then
        match evaluateChildren maximumDepth state fields (depth + 1) (remaining - 1) with
        | (some results, left) => (.combined (operator = "all") results, left)
        | (none, left) => (⟨none, "condition_children_required"⟩, left)
      else if operator = "not" then
        match evaluateChild maximumDepth state fields (depth + 1) (remaining - 1) with
        | (some result, left) => (result.negated, left)
        | (none, left) => (⟨none, "condition_child_required"⟩, left)
      else (comparison state fields operator, remaining - 1)
  | _, _, remaining => (⟨none, "condition_mapping_required"⟩, remaining)

/-- The result of the condition under `condition`, if it is a mapping. -/
def evaluateChild (maximumDepth : Nat) (state : Fields) :
    Fields → Nat → Int → Option ConditionResult × Int
  | [], _, remaining => (none, remaining)
  | (key, value) :: rest, depth, remaining =>
    if key = "condition" then
      match value with
      | .dict fields =>
        let (result, left) := evaluateAt maximumDepth state (.dict fields) depth remaining
        (some result, left)
      | _ => (none, remaining)
    else evaluateChild maximumDepth state rest depth remaining

/-- The results of the conditions under `conditions`, if there are any. -/
def evaluateChildren (maximumDepth : Nat) (state : Fields) :
    Fields → Nat → Int → Option (List ConditionResult) × Int
  | [], _, remaining => (none, remaining)
  | (key, value) :: rest, depth, remaining =>
    if key = "conditions" then
      match value with
      | .list (first :: others) =>
        let (results, left) := evaluateItems maximumDepth state (first :: others) depth remaining
        (some results, left)
      | _ => (none, remaining)
    else evaluateChildren maximumDepth state rest depth remaining

/-- The results of a list of conditions, which share one bound. -/
def evaluateItems (maximumDepth : Nat) (state : Fields) : List Value → Nat → Int →
    List ConditionResult × Int
  | [], _, remaining => ([], remaining)
  | item :: rest, depth, remaining =>
    let (result, left) := evaluateAt maximumDepth state item depth remaining
    let (results, last) := evaluateItems maximumDepth state rest depth left
    (result :: results, last)

end

/-- `DeclarativeConditionEvaluator.evaluate` with the bounds of its evaluator. -/
def evaluateWithin (maximumDepth : Nat) (maximumNodes : Int) (condition : Value) (state : Fields) :
    ConditionResult :=
  (evaluateAt maximumDepth state condition 0 maximumNodes).1

/-- `evaluate` of an evaluator with the default bounds. -/
def evaluateCondition (condition : Value) (state : Fields) : ConditionResult :=
  evaluateWithin maximumConditionDepth maximumConditionNodes condition state

/-- `BranchResult`, with its status as a truth value. -/
structure BranchResult where
  nodeId : Str
  completed : Bool
  value : Value

/-- `MergeResult`, where a failed one has no value. -/
structure MergeResult where
  value : Option Value
  failedBranches : List Str
  reasonCode : Str

/-- `DeterministicMergeService.merge`. -/
def mergeBranches (results : List BranchResult) (strategy partialFailure : Str) :
    Except Fault MergeResult := do
  raiseIf (strategy ≠ "ordered-by-node-id" ∧ strategy ≠ "object-by-node-id")
    ⟨.valueError, "merge_strategy_unsupported"⟩
  raiseIf (partialFailure ≠ "fail" ∧ partialFailure ≠ "omit")
    ⟨.valueError, "merge_partial_failure_policy_invalid"⟩
  let ordered := results.insertionSort fun left right => left.nodeId ≤ right.nodeId
  raiseIf (¬ (ordered.map (·.nodeId)).Nodup) ⟨.valueError, "merge_duplicate_branch"⟩
  let failed := (ordered.filter (·.completed = false)).map (·.nodeId)
  let successful := ordered.filter (·.completed)
  if failed ≠ [] ∧ partialFailure = "fail" then
    return ⟨none, failed, "merge_branch_failed"⟩
  else
    let value := if strategy = "ordered-by-node-id" then .list (successful.map (·.value))
      else .dict (successful.map fun result => (result.nodeId, result.value))
    return ⟨some value, failed, if failed = [] then "merge_complete" else "merge_partial"⟩

end Ananta
