import Ananta.Python.Values

/-! Routing conditions of plan edges, and the check of their shape. -/

namespace Ananta

variable (fields : Fields)

/-- `fields.get(key)` of a mapping. -/
def fieldOf (key : String) : Option Value :=
  (fields.find? (·.1 = text key)).map (·.2)

/-- `CONDITION_OPERATORS`. -/
def conditionOperators : List String := ["always", "all", "any", "not", "eq", "ne", "in", "exists"]

/-- `str(condition.get("op") or "").strip()`. -/
def conditionOperator : Str :=
  match fieldOf fields "op" with
  | some value => if value.truthy then strip value.toStr else []
  | none => []

def namesField : Bool :=
  match fieldOf fields "field" with
  | some (.str name) => strip name ≠ []
  | _ => false

def comparisonIssues (operator : Str) (path : String) : List ContractIssue :=
  (if namesField fields then []
    else [{ code := "condition_field_required", path := path ++ ".field" }]) ++
  (if operator ≠ "exists" ∧ fieldOf fields "value" = none then
    [{ code := "condition_value_required", path := path ++ ".value" }] else [])

mutual

/-- `_validate_condition`. -/
def conditionIssues : Value → String → List ContractIssue
  | .dict fields, path =>
    let operator := conditionOperator fields
    if conditionOperators.all fun name => operator ≠ text name then
      [{ code := "condition_operator_invalid", path := path ++ ".op", message := operator }]
    else if operator = "all" ∨ operator = "any" then childrenIssues fields (path ++ ".conditions")
    else if operator = "not" then childIssues fields (path ++ ".condition")
    else if operator = "always" then []
    else comparisonIssues fields operator path
  | _, path => [{ code := "condition_mapping_required", path }]

/-- The issues of the condition under `condition`, where a missing one is no mapping. -/
def childIssues : Fields → String → List ContractIssue
  | [], path => [{ code := "condition_mapping_required", path }]
  | (key, value) :: rest, path =>
    if key = "condition" then conditionIssues value path else childIssues rest path

/-- The issues of the conditions under `conditions`, of which there has to be one. -/
def childrenIssues : Fields → String → List ContractIssue
  | [], path => [{ code := "condition_children_required", path }]
  | (key, value) :: rest, path =>
    if key = "conditions" then listedIssues value path else childrenIssues rest path

def listedIssues : Value → String → List ContractIssue
  | .list (first :: rest), path => itemIssues (first :: rest) 0 path
  | _, path => [{ code := "condition_children_required", path }]

def itemIssues : List Value → Nat → String → List ContractIssue
  | [], _, _ => []
  | item :: rest, position, path =>
    conditionIssues item (path ++ "[" ++ toString position ++ "]") ++ itemIssues rest (position + 1)
      path

end

end Ananta
