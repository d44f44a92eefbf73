import Ananta.Library.Kleene
import Ananta.Native.Information

/-! What a routing condition means, whatever the bounds of its evaluation, that the evaluator
computes it within them, and that a merge does not depend on the order of its branches. -/

namespace Ananta

open List ConditionResult

/-- What a condition says of a state, how many mappings are looked at for it, and how deep they are
nested. -/
structure Meaning where
  value : Option Bool
  (visits levels : Nat)

/-- The meaning of a mapping, over those of the conditions below it. -/
def Meaning.over (value : Option Bool) (parts : List Meaning) : Meaning :=
  ⟨value, (parts.map (·.visits)).sum + 1, (parts.map (·.levels)).foldr max 0 + 1⟩

variable (state : Fields)

mutual

/-- A condition in strong Kleene logic, where what is malformed or not known is unknown. -/
def meaningOf : Value → Meaning
  | .dict fields =>
    let operator := conditionOperator fields
    if operator = "always" then .over (some true) []
    else if operator = "all" ∨ operator = "any" then
      let parts := partsOf fields
      .over (parts.bind fun parts => Kleene.fold (operator = "all") (parts.map (·.value)))
        (parts.getD [])
    else if operator = "not" then
      let part := partOf fields
      .over (part.bind fun part => part.value.map (!·)) part.toList
    else .over (comparison state fields operator).value []
  | _ => ⟨none, 0, 0⟩

def partOf : Fields → Option Meaning
  | [] => none
  | (key, value) :: rest =>
    if key = "condition" then
      match value with
      | .dict fields => some (meaningOf (.dict fields))
      | _ => none
    else partOf rest

def partsOf : Fields → Option (List Meaning)
  | [] => none
  | (key, value) :: rest =>
    if key = "conditions" then
      match value with
      | .list (first :: others) => some (meaningsOf (first :: others))
      | _ => none
    else partsOf rest

def meaningsOf : List Value → List Meaning
  | [] => []
  | item :: rest => meaningOf item :: meaningsOf rest

end

variable (maximumDepth depth : Nat) (remaining : Int)

/-- What is computed of some meanings from some depth on: the meanings within the bounds, and
nothing beyond them. -/
def Computes (parts : List Meaning) (outcome : List ConditionResult × Int) : Prop :=
  depth ≤ maximumDepth + 1 → 0 ≤ remaining →
    if depth + (parts.map (·.levels)).foldr max 0 ≤ maximumDepth + 1 ∧
      (parts.map (·.visits)).sum ≤ remaining then
      outcome.1.find? (·.cutOff) = none ∧ outcome.1.map (·.value) = parts.map (·.value) ∧
        outcome.2 = remaining - (parts.map (·.visits)).sum
    else ∃ cut, outcome.1.find? (·.cutOff) = some cut ∧ cut.value = none

abbrev ComputesOne (meaning : Meaning) (outcome : ConditionResult × Int) : Prop :=
  Computes maximumDepth depth remaining [meaning] ([outcome.1], outcome.2)

/-- What is computed below a mapping, if it has anything there. -/
inductive ComputesBelow {α β : Type} (computes : α → β × Int → Prop) : Option α → Option β × Int →
    Prop where
  | none : ComputesBelow computes none (none, remaining)
  | some {part : α} {outcome : β} {left : Int} (computed : computes part (outcome, left)) :
    ComputesBelow computes (some part) (some outcome, left)

variable {maximumDepth depth remaining} {left last : Int} {value : Option Bool}
  {parts : List Meaning} {result : ConditionResult} {results : List ConditionResult}

lemma Computes.nil : Computes maximumDepth depth remaining [] ([], remaining) :=
  fun shallow counted => by simpa using ⟨shallow, counted⟩

/-- What comes behind a condition matters only where that one was within the bounds. -/
lemma Computes.cons {first : Meaning}
    (head : ComputesOne maximumDepth depth remaining first (result, left))
    (tail : Computes maximumDepth depth left parts (results, last)) :
    Computes maximumDepth depth remaining (first :: parts) (result :: results, last) := by
  intro shallow counted
  have here := head shallow counted
  have later := tail shallow
  simp only [map_cons, map_nil, foldr_cons, foldr_nil, sum_cons, sum_nil, find?_cons, find?_nil,
    cons.injEq] at here later ⊢
  cases cut : result.cutOff <;> grind

/-- A mapping is computed from what is computed below it. -/
lemma Computes.over (inside : ¬ depth > maximumDepth) (enough : ¬ remaining - 1 < 0)
    (below : Computes maximumDepth (depth + 1) (remaining - 1) parts (results, left))
    (uncut : results.find? (·.cutOff) = none → results.map (·.value) = parts.map (·.value) →
      result.cutOff = false ∧ result.value = value)
    (cut : ∀ cut ∈ results.find? (·.cutOff), cut.value = none → result = cut) :
    ComputesOne maximumDepth depth remaining (.over value parts) (result, left) := by
  intro _ _
  have deeper := below (by omega) (by omega)
  simp only [Meaning.over, map_cons, map_nil, foldr_cons, foldr_nil, sum_cons, sum_nil, find?_cons,
    find?_nil] at deeper ⊢
  split at deeper
  · obtain ⟨none, same, counted⟩ := deeper
    obtain ⟨whole, equal⟩ := uncut none same
    rw [if_pos (by omega), whole, equal]
    exact ⟨rfl, rfl, by omega⟩
  · obtain ⟨first, found, unknown⟩ := deeper
    rw [if_neg (by omega), cut first found unknown, find?_some found]
    exact ⟨first, rfl, unknown⟩

lemma combined_value (all : Bool) (uncut : results.find? (·.cutOff) = none) :
    (combined all results).cutOff = false ∧
      (combined all results).value = Kleene.fold all (results.map (·.value)) := by
  unfold combined
  rw [uncut, Kleene.fold_eq]
  have member : ∀ value, value ∈ results.map (·.value) ↔ results.any (·.value = value) := by simp
  simp only [member]
  cases all <;> simp only [Bool.false_eq_true, if_false, if_true, Bool.not_false,
    Bool.not_true] <;> split_ifs <;> exact ⟨rfl, rfl⟩

lemma comparison_uncut (fields : Fields) (operator : Str) :
    (comparison state fields operator).cutOff = false := by
  unfold comparison
  dsimp only
  split_ifs <;> [rfl; rfl; rfl; split <;> [rfl; rfl; exact compared_cutOff ..]]

lemma beyond_computes (fields : Fields) (cut : result.cutOff = true ∧ result.value = none)
    (exceeds : depth > maximumDepth ∨ remaining - 1 < 0) :
    ComputesOne maximumDepth depth remaining (meaningOf state (.dict fields)) (result, left) := by
  obtain ⟨value, parts, mapping⟩ : ∃ value parts, meaningOf state (.dict fields) =
      .over value parts := by
    unfold meaningOf
    dsimp only
    split_ifs <;> exact ⟨_, _, rfl⟩
  intro _ _
  rw [mapping, if_neg (by simp only [Meaning.over, map_cons, foldr_cons, sum_cons]; omega)]
  exact ⟨result, by simp [cut.1], cut.2⟩

variable (maximumDepth)

mutual

/-- The evaluation of a condition computes its meaning. -/
lemma evaluateAt_computes : ∀ (condition : Value) (depth : Nat) (remaining : Int),
    ComputesOne maximumDepth depth remaining (meaningOf state condition)
      (evaluateAt maximumDepth state condition depth remaining)
  | .dict fields, depth, remaining => by
    obtain ⟨child, children⟩ := evaluateBelow_computes fields (depth + 1) (remaining - 1)
    unfold evaluateAt
    split
    · exact beyond_computes state fields ⟨rfl, rfl⟩ (.inl ‹_›)
    split
    · exact beyond_computes state fields ⟨rfl, rfl⟩ (.inr ‹_›)
    have leaf : ∀ {result value}, result.cutOff = false ∧ result.value = value →
        ComputesOne maximumDepth depth remaining (.over value []) (result, remaining - 1) :=
      fun equal => .over ‹_› ‹_› .nil (fun _ _ => equal) fun _ impossible => by cases impossible
    unfold meaningOf
    dsimp only
    split
    · exact leaf ⟨rfl, rfl⟩
    split
    · generalize partsOf state fields = parts, evaluateChildren _ _ fields _ _ =
        outcome at children ⊢
      cases children with
      | none => exact leaf ⟨rfl, rfl⟩
      | some below =>
        refine .over ‹_› ‹_› below (fun uncut same => ?_)
          fun cut found _ => by rw [combined, Option.mem_def.mp found]
        rw [Option.getD_some] at same
        rw [Option.bind_some, ← same]
        exact combined_value _ uncut
    split
    · generalize partOf state fields = part, evaluateChild _ _ fields _ _ = outcome at child ⊢
      cases child with
      | none => exact leaf ⟨rfl, rfl⟩
      | @some part result left below =>
        refine .over ‹_› ‹_› below (fun uncut same => ?_) fun cut found unknown => ?_
        · simp only [find?_cons, Option.toList_some, map_cons, map_nil, cons.injEq] at uncut same
          rw [negated, Option.bind_some, ← same.1]
          cases result.value <;> grind [cutOff]
        · simp only [find?_cons] at found
          grind [negated]
    · exact leaf ⟨comparison_uncut .., rfl⟩
  | .none, _, _ | .bool _, _, _ | .int _, _, _ | .float _, _, _ | .str _, _, _ | .list _, _,
      _ | .tuple _, _, _ | .object _, _, _ => by
    intro shallow counted
    unfold evaluateAt meaningOf
    simpa [cutOff] using ⟨shallow, counted⟩

lemma evaluateBelow_computes : ∀ (fields : Fields) (depth : Nat) (remaining : Int),
    ComputesBelow remaining (ComputesOne maximumDepth depth remaining) (partOf state fields)
        (evaluateChild maximumDepth state fields depth remaining) ∧
      ComputesBelow remaining (Computes maximumDepth depth remaining) (partsOf state fields)
        (evaluateChildren maximumDepth state fields depth remaining)
  | [], _, _ => ⟨.none, .none⟩
  | (key, value) :: rest, depth, remaining => by
    obtain ⟨child, children⟩ := evaluateBelow_computes rest depth remaining
    unfold evaluateChild evaluateChildren partOf partsOf
    constructor <;> split
    · cases value with
      | dict fields => exact .some (evaluateAt_computes _ depth remaining)
      | _ => exact .none
    · exact child
    · cases value with
      | list items =>
        cases items with
        | nil => exact .none
        | cons first others => exact .some (evaluateItems_computes _ depth remaining)
      | _ => exact .none
    · exact children

lemma evaluateItems_computes : ∀ (items : List Value) (depth : Nat) (remaining : Int),
    Computes maximumDepth depth remaining (meaningsOf state items)
      (evaluateItems maximumDepth state items depth remaining)
  | [], _, _ => .nil
  | item :: rest, depth, remaining => .cons (evaluateAt_computes item depth remaining)
      (evaluateItems_computes rest depth _)

end

/-- The evaluator computes strong Kleene logic within its bounds, and leaves everything beyond them
unknown. -/
theorem evaluation_kleene (maximumDepth maximumNodes : Nat) (condition : Value) (state : Fields) :
    (evaluateWithin maximumDepth maximumNodes condition state).value =
      if (meaningOf state condition).levels ≤ maximumDepth + 1 ∧
        (meaningOf state condition).visits ≤ maximumNodes then
        (meaningOf state condition).value else none := by
  have computed := evaluateAt_computes state maximumDepth condition 0 maximumNodes (Nat.zero_le _)
    (Int.natCast_nonneg _)
  simp only [map_cons, map_nil, foldr_cons, foldr_nil, sum_cons, sum_nil, Nat.zero_add,
    Nat.add_zero, Nat.max_zero, Nat.cast_le]
    at computed
  unfold evaluateWithin
  split at computed
  · rw [if_pos ‹_›]
    simpa using computed.2.1
  · rw [if_neg ‹_›]
    obtain ⟨cut, found, unknown⟩ := computed
    rwa [mem_singleton.mp (mem_of_find?_eq_some found)] at unknown

/-- A merge makes the same of its branches in whatever order they come. -/
theorem merge_any_order {count : Nat} (results : Fin count → BranchResult)
    (order : Equiv.Perm (Fin count)) (strategy partialFailure : Str) :
    mergeBranches (ofFn (results ∘ order)) strategy partialFailure = mergeBranches (ofFn results)
      strategy partialFailure := by
  unfold mergeBranches
  have shuffled := order.ofFn_comp_perm results
  generalize ofFn (results ∘ order) = given, ofFn results = other at shuffled ⊢
  have sorted := ((perm_insertionSort (fun left right => left.nodeId ≤ right.nodeId) _).trans
    shuffled).trans (perm_insertionSort (fun left right => left.nodeId ≤ right.nodeId) _).symm
  have names := (sorted.map (·.nodeId)).nodup_iff
  by_cases distinct : ((other.insertionSort fun left right => left.nodeId ≤ right.nodeId).map
    (·.nodeId)).Nodup
  · -- Branches of different names can be sorted in one way only.
    rw [sorted.eq_of_pairwise
      (fun left right listed kept le ge => inj_on_of_nodup_map distinct (sorted.mem_iff.mp listed)
        kept
      (le_antisymm le ge)) (pairwise_insertionSort _ _) (pairwise_insertionSort _ _)]
  · simp only [names, distinct, not_false_eq_true, raiseIf, if_true]
    rfl

end Ananta
