import Ananta.Native.Evaluator

/-! What a routing condition says for certain stays so when more becomes known about the state. -/

namespace Ananta

open List

mutual

/-- No part of a condition asks whether a field exists. -/
def ExistsFree : Value → Prop
  | .dict fields => conditionOperator fields ≠ "exists" ∧ ExistsFreeFields fields
  | _ => True

def ExistsFreeFields : Fields → Prop
  | [] => True
  | (key, value) :: rest =>
    (if key = "condition" then ExistsFree value
      else if key = "conditions" then match value with
        | .list items => ExistsFreeItems items
        | _ => True
      else True) ∧ ExistsFreeFields rest

def ExistsFreeItems : List Value → Prop
  | [] => True
  | item :: rest => ExistsFree item ∧ ExistsFreeItems rest

end

namespace Value

/-- A number is equal to whatever has as many units. -/
lemma equal_iff_of_units {left right : Value} {units : Int}
    (known : left.numberUnits = some units) :
    left.equal right = true ↔ right.numberUnits = some units := by
  unfold equal
  -- Nothing but a number has units, and an infinity has none.
  split <;> try cases known
  rw [known]
  cases right.numberUnits <;> simp [eq_comm]

lemma equal_trans_of_units {left middle right : Value} {units : Int}
    (known : left.numberUnits = some units) (first : left.equal middle = true)
    (second : middle.equal right = true) : left.equal right = true := by
  have between := (equal_iff_of_units known).mp first
  exact (equal_iff_of_units known).mpr ((equal_iff_of_units between).mp second)

mutual

/-- Equality carries over from value to value, also across the types of numbers. -/
lemma equal_trans : ∀ left middle right : Value, left.equal middle = true →
    middle.equal right = true →
    left.equal right = true
  | .bool _, _, _, first, second | .int _, _, _, first, second =>
      equal_trans_of_units rfl first second
  | .float number, middle, right, first, second => by
    cases number with
    | negativeZero | finite => exact equal_trans_of_units rfl first second
    | nan => cases middle <;> simp [equal, numberUnits] at first
    | infinity negative =>
      -- An infinity is equal to itself alone.
      have same : middle = .float (.infinity negative) := by
        cases middle with
        | float number => cases number <;> simp_all [equal, numberUnits]
        | _ => simp [equal, numberUnits] at first
      rwa [← same]
  | .none, middle, right, first, second => by
    cases middle with
    | none => exact second
    | _ => simp [equal, numberUnits] at first
  | .str value, middle, right, first, second => by
    cases middle with
    | str other => rwa [show value = other by simpa [equal] using first]
    | _ => simp [equal, numberUnits] at first
  | .object identity, middle, right, first, second => by
    cases middle with
    | object other => rwa [show identity = other by simpa [equal] using first]
    | _ => simp [equal, numberUnits] at first
  | .list lefts, middle, right, first, second => by
    cases middle with
    | list middles =>
      cases right with
      | list rights => exact equalItems_trans lefts middles rights first second
      | _ => simp [equal, numberUnits] at second
    | _ => simp [equal, numberUnits] at first
  | .tuple lefts, middle, right, first, second => by
    cases middle with
    | tuple middles =>
      cases right with
      | tuple rights => exact equalItems_trans lefts middles rights first second
      | _ => simp [equal, numberUnits] at second
    | _ => simp [equal, numberUnits] at first
  | .dict lefts, middle, right, first, second => by
    cases middle with
    | dict middles =>
      cases right with
      | dict rights =>
        simp only [equal, Bool.and_eq_true, decide_eq_true_eq] at first second ⊢
        exact ⟨first.1.trans second.1, equalFields_trans lefts middles rights first.2 second.2⟩
      | _ => simp [equal, numberUnits] at second
    | _ => simp [equal, numberUnits] at first

lemma equalItems_trans : ∀ lefts middles rights : List Value, equalItems lefts middles = true →
    equalItems middles rights = true → equalItems lefts rights = true
  | [], middles, _, first, second => by cases middles <;> simp_all [equalItems]
  | left :: lefts, [], _, first, _ => by simp [equalItems] at first
  | left :: lefts, middle :: middles, [], _, second => by simp [equalItems] at second
  | left :: lefts, middle :: middles, right :: rights, first, second => by
    simp only [equalItems, Bool.and_eq_true] at first second ⊢
    exact ⟨equal_trans left middle right first.1 second.1,
      equalItems_trans lefts middles rights first.2 second.2⟩

lemma equalFields_trans : ∀ lefts middles rights : Fields, equalFields lefts middles = true →
    equalFields middles rights = true → equalFields lefts rights = true
  | [], _, _, _, _ => by simp [equalFields]
  | (key, left) :: lefts, middles, rights, first, second => by
    simp only [equalFields, Bool.and_eq_true] at first ⊢
    refine ⟨?_, equalFields_trans lefts middles rights first.2 second⟩
    -- The field of the second dictionary under the key has its counterpart in the third one.
    cases found : middles.find? (·.1 = key) with
    | none => simp [found] at first
    | some field =>
      obtain ⟨other, middle⟩ := field
      obtain rfl : other = key := by simpa using find?_some found
      simp only [found] at first
      have here : (match rights.find? (·.1 = other) with
          | some (_, right) => equal middle right
          | Option.none => false) = true := by
        have member := mem_of_find?_eq_some found
        clear found first
        induction middles with
        | nil => cases member
        | cons field rest ih =>
          simp only [equalFields, Bool.and_eq_true] at second
          rcases mem_cons.mp member with rfl | later
          · exact second.1
          · exact ih second.2 later
      cases there : rights.find? (·.1 = other) with
      | none => simp [there] at here
      | some field =>
        simp only [there] at here ⊢
        exact equal_trans left middle field.2 first.1 here

end

/-- Two values that no comparison tells apart: the same one, or equal ones of one type. -/
def Alike (value other : Value) : Prop :=
  other = value ∨ value.equal other = true ∧ other.equal value = true ∧
    other.typeTag = value.typeTag

end Value

lemma compared_alike {operator : Str} {value other : Value} (alike : value.Alike other)
    (expected : Value) : compared operator other expected = compared operator value expected := by
  rcases alike with rfl | ⟨there, back, type⟩
  · rfl
  · -- Whatever one of them is equal to, the other one is equal to as well.
    have same : other.equal = value.equal := by
      funext item
      exact Bool.eq_iff_iff.mpr ⟨Value.equal_trans _ _ _ there, Value.equal_trans _ _ _ back⟩
    unfold compared
    rw [same, type]

/-- Every field path that resolves in a state resolves in another one to an equal value of the same
type. -/
def Extends (other state : Fields) : Prop :=
  ∀ (name : Str) (value : Value), (name.splitOn (codePoint '.')).all isSegment →
    resolveField (.dict state) (name.splitOn (codePoint '.')) = some value →
    ∃ found, resolveField (.dict other) (name.splitOn (codePoint '.')) = some found ∧
      value.Alike found

namespace ConditionResult

/-- A result that keeps what another one says for certain, where only equal ones are cut off. -/
def Sharpens (other result : ConditionResult) : Prop :=
  other = result ∨ other.cutOff = false ∧ result.cutOff = false ∧
    ∀ value, result.value = some value → other.value = some value

lemma Sharpens.value {sharp result : ConditionResult} (sharpens : sharp.Sharpens result)
    {value : Bool} (known : result.value = some value) : sharp.value = some value := by
  rcases sharpens with rfl | ⟨_, _, kept⟩
  · exact known
  · exact kept value known

lemma Sharpens.negated {sharp result : ConditionResult} (sharpens : sharp.Sharpens result) :
    sharp.negated.Sharpens result.negated := by
  rcases sharpens with rfl | ⟨cut, also, kept⟩
  · exact .inl rfl
  · refine .inr ⟨?_, ?_, ?_⟩ <;> grind [ConditionResult.negated, cutOff]

/-- Certain results decide about a list as soon as less certain ones do. -/
lemma Sharpens.combined (all : Bool) {sharper results : List ConditionResult}
    (each : Forall₂ Sharpens sharper results) :
    (combined all sharper).Sharpens (combined all results) := by
  have first : sharper.find? (·.cutOff) = results.find? (·.cutOff) := by
    induction each with
    | nil => rfl
    | cons head _ ih =>
      rcases head with rfl | ⟨cut, also, _⟩
      · rw [find?_cons, find?_cons, ih]
      · rw [find?_cons, find?_cons, cut, also, ih]
  -- What is certain of one of them stays, and only what was uncertain becomes certain.
  have kept : ∀ value, (results.any (·.value = some value) → sharper.any (·.value = some value)) ∧
      ∀ value, sharper.any (·.value = value) → results.any (·.value = value) ∨
        results.any (·.value = none) := by
    clear first
    induction each with
    | nil => simp
    | @cons _ result _ _ head _ ih =>
      simp only [any_cons, Bool.or_eq_true, decide_eq_true_eq]
      refine fun value => ⟨Or.imp head.value (ih value).1, fun other =>
        Or.rec (fun same => ?_) fun later => ?_⟩
      · cases said : result.value with
        | none => exact .inr (.inl rfl)
        | some found => exact .inl (.inl ((head.value said).symm.trans same))
      · exact ((ih value).2 other later).imp .inr .inr
  unfold ConditionResult.combined
  rw [first]
  split
  · exact .inl rfl
  · obtain ⟨yes, new⟩ := kept true
    have no := (kept false).1
    have unknown := new none
    have := new (some true)
    have := new (some false)
    refine .inr ⟨?_, ?_, ?_⟩ <;> cases all <;> grind [cutOff]

end ConditionResult

open ConditionResult

/-- Two evaluations that are related, and have looked at as many conditions. -/
def InStep {α : Type} (relation : α → α → Prop) (sharper plain : α × Int) : Prop :=
  ∃ sharp result left, relation sharp result ∧ sharper = (sharp, left) ∧ plain = (result, left)

lemma InStep.of {α : Type} {relation : α → α → Prop} {sharp result : α} {left : Int}
    (related : relation sharp result) : InStep relation (sharp, left) (result, left) :=
  ⟨_, _, _, related, rfl, rfl⟩

lemma compared_cutOff (operator : Str) (actual expected : Value) :
    (compared operator actual expected).cutOff = false := by
  unfold compared
  grind [cutOff]

section

variable (maximumDepth : Nat) {state other : Fields}

/-- A comparison that is certain finds the same answer in the state that extends the other one. -/
lemma comparison_sharpens (known : Extends other state) {fields : Fields} {operator : Str}
    (free : operator ≠ "exists") :
    (comparison other fields operator).Sharpens (comparison state fields operator) := by
  unfold comparison
  extract_lets name segments
  split
  · exact .inl rfl
  · by_cases valid : segments.all isSegment = false
    · rw [if_pos valid, if_pos valid]
      exact .inl rfl
    · rw [if_neg valid, if_neg valid]
      cases found : resolveField (.dict state) segments with
      | some value =>
        obtain ⟨also, resolved, alike⟩ := known name value (by simpa using valid) found
        rw [resolved]
        cases fieldOf fields "value" with
        | none => exact .inl rfl
        | some expected => exact .inl (compared_alike alike expected)
      | none =>
        refine .inr ⟨?_, rfl, by simp⟩
        split <;> [rfl; rfl; exact compared_cutOff ..]

mutual

/-- More knowledge of the state sharpens the result of a condition, at the same cost. -/
lemma evaluateAt_sharpens (known : Extends other state) (depth : Nat) (remaining : Int) :
    ∀ condition, ExistsFree condition →
      InStep Sharpens (evaluateAt maximumDepth other condition depth remaining)
        (evaluateAt maximumDepth state condition depth remaining)
  | .dict fields, free => by
    have below := evaluateFields_sharpens known (depth + 1) (remaining - 1) fields free.2
    unfold evaluateAt
    split
    · exact .of (.inl rfl)
    · split
      · exact .of (.inl rfl)
      · dsimp only
        split
        · exact .of (.inl rfl)
        · split
          · obtain ⟨_, _, _, related, sharp, plain⟩ := below.2
            rw [sharp, plain]
            cases related with
            | none => exact .of (.inl rfl)
            | some each => exact .of (.combined _ each)
          · split
            · obtain ⟨_, _, _, related, sharp, plain⟩ := below.1
              rw [sharp, plain]
              cases related with
              | none => exact .of (.inl rfl)
              | some child => exact .of child.negated
            · exact .of (comparison_sharpens known free.1)
  | .none, _ | .bool _, _ | .int _, _ | .float _, _ | .str _, _ | .list _, _
  | .tuple _, _ | .object _, _ =>
    .of (.inl rfl)

/-- The same for what stands below a mapping. -/
lemma evaluateFields_sharpens (known : Extends other state) (depth : Nat) (remaining : Int) :
    ∀ fields, ExistsFreeFields fields →
      InStep (Option.Rel Sharpens) (evaluateChild maximumDepth other fields depth remaining)
          (evaluateChild maximumDepth state fields depth remaining) ∧
        InStep (Option.Rel (Forall₂ Sharpens))
          (evaluateChildren maximumDepth other fields depth remaining)
          (evaluateChildren maximumDepth state fields depth remaining)
  | [], _ => ⟨.of .none, .of .none⟩
  | (key, value) :: rest, free => by
    unfold ExistsFreeFields at free
    obtain ⟨free, others⟩ := free
    have later := evaluateFields_sharpens known depth remaining rest others
    unfold evaluateChild evaluateChildren
    constructor <;> split
    · rw [if_pos ‹_›] at free
      split
      · obtain ⟨_, _, _, related, sharp, plain⟩ := evaluateAt_sharpens known depth remaining _ free
        rw [sharp, plain]
        exact .of (.some related)
      · exact .of .none
    · exact later.1
    · rename_i named
      rw [if_neg (by rw [named]; decide), if_pos named] at free
      split
      · obtain ⟨_, _, _, related, sharp, plain⟩ :=
          evaluateItems_sharpens known depth remaining _ free
        rw [sharp, plain]
        exact .of (.some related)
      · exact .of .none
    · exact later.2

/-- The same for a list of conditions, of which each leaves the rest the same bound. -/
lemma evaluateItems_sharpens (known : Extends other state) (depth : Nat) (remaining : Int) :
    ∀ items, ExistsFreeItems items →
      InStep (Forall₂ Sharpens) (evaluateItems maximumDepth other items depth remaining)
        (evaluateItems maximumDepth state items depth remaining)
  | [], _ => .of .nil
  | item :: rest, free => by
    obtain ⟨_, _, left, first, sharp, plain⟩ :=
      evaluateAt_sharpens known depth remaining item free.1
    obtain ⟨_, _, _, others, sharper, results⟩ :=
      evaluateItems_sharpens known depth left rest free.2
    rw [evaluateItems, evaluateItems, sharp, plain]
    dsimp only
    rw [sharper, results]
    exact .of (.cons first others)

end

end

/-- More knowledge of the state does not change what a condition says for certain. -/
theorem evaluation_monotone (maximumDepth : Nat) (maximumNodes : Int) (condition : Value)
    (free : ExistsFree condition) (state other : Fields) (known : Extends other state)
    (value : Bool) (certain : (evaluateWithin maximumDepth maximumNodes condition state).value =
      some value) : (evaluateWithin maximumDepth maximumNodes condition other).value =
        some value := by
  obtain ⟨_, _, _, sharpens, sharp, plain⟩ :=
    evaluateAt_sharpens maximumDepth known 0 maximumNodes condition free
  rw [evaluateWithin, plain] at certain
  rw [evaluateWithin, sharp]
  exact sharpens.value certain

/-- Whether the field `a` is a value. -/
def equalsField (value : Value) : Value :=
  .dict [("op", .str "eq"), ("field", .str "a"), ("value", value)]

/-- The zeros are equal floats, and a further field changes nothing. -/
theorem evaluation_monotone_equal :
    (evaluateWithin 4 5 (equalsField (.float 0))
      [("a", .float .negativeZero), ("b", .int 2)]).value = some true := by
  refine evaluation_monotone 4 5 (.dict _)
    ⟨by decide +kernel, by simp [ExistsFreeFields, ExistsFree]⟩
    [("a", .float 0)] _ (fun name value _ found => ?_) true (by decide +kernel)
  have equal : (Value.float 0).Alike (.float .negativeZero) := .inr (by decide +kernel)
  cases segments : name.splitOn (codePoint '.') with
  | nil => exact absurd segments (splitOn_ne_nil _ _)
  | cons first rest =>
    rw [segments] at found
    by_cases same : "a" = first
    · cases rest <;> simp_all [resolveField]
    · simp_all [resolveField]

/-- An equal number of another type is not compared at all. -/
theorem equal_number_mismatched :
    (Value.int 1).equal (.float 1) = true ∧
      (evaluateWithin 4 5 (equalsField (.int 1)) [("a", .int 1)]).value = some true ∧
      evaluateWithin 4 5 (equalsField (.int 1)) [("a", .float 1)] =
        ⟨none, "condition_type_mismatch"⟩ := by
  decide +kernel

end Ananta
