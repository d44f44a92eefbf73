import Mathlib

/-! Machines that answer inputs one at a time, and what every run of them preserves. -/

namespace Ananta

/-- A state, and how each input changes it and is answered. -/
structure Machine (σ ι ο : Type) where
  initial : σ
  step : σ → ι → ο × σ

namespace Machine

variable {σ ι ο : Type} (machine : Machine σ ι ο)

/-- The state after a sequence of inputs. -/
def after (state : σ) : List ι → σ
  | [] => state
  | input :: rest => after (machine.step state input).2 rest

/-- The answers to a sequence of inputs. -/
def answers (state : σ) : List ι → List ο
  | [] => []
  | input :: rest => (machine.step state input).1 :: answers (machine.step state input).2 rest

/-- Some run from the initial state ends in this state. -/
def Reachable (state : σ) : Prop :=
  ∃ inputs, machine.after machine.initial inputs = state

/-- Every input of a run meets a condition in the state it is applied to. -/
def Throughout (condition : σ → ι → Prop) (state : σ) : List ι → Prop
  | [] => True
  | input :: rest =>
    condition state input ∧ Throughout condition (machine.step state input).2 rest

@[simp] lemma after_nil (state : σ) : machine.after state [] = state := rfl

@[simp] lemma after_cons (state : σ) (input : ι) (rest : List ι) :
    machine.after state (input :: rest) = machine.after (machine.step state input).2 rest := rfl

/-- Running two sequences in turn runs their concatenation. -/
lemma after_append (state : σ) (first second : List ι) :
    machine.after state (first ++ second) = machine.after (machine.after state first) second := by
  induction first generalizing state with
  | nil => rfl
  | cons input rest ih => exact ih _

/-- The answers to two sequences in turn. -/
lemma answers_append (state : σ) (first second : List ι) :
    machine.answers state (first ++ second) = machine.answers state first ++
      machine.answers (machine.after state first) second := by
  induction first generalizing state with
  | nil => rfl
  | cons input rest ih => exact congrArg (_ :: ·) (ih _)

variable {machine : Machine σ ι ο} {state : σ} {inputs : List ι}

/-- One more input leads from a reachable state to a reachable state. -/
lemma Reachable.step (reached : machine.Reachable state)
    (input : ι) : machine.Reachable (machine.step state input).2 := by
  obtain ⟨inputs, rfl⟩ := reached
  exact ⟨inputs ++ [input], machine.after_append _ _ _⟩

/-- A reachable state stays reachable under any further inputs. -/
lemma Reachable.after (reached : machine.Reachable state)
    (inputs : List ι) : machine.Reachable (machine.after state inputs) := by
  obtain ⟨earlier, rfl⟩ := reached
  exact ⟨earlier ++ inputs, machine.after_append _ _ _⟩

/-- A property kept by every conditioned step is kept by every conditioned run. -/
lemma after_of_throughout (condition : σ → ι → Prop) (property : σ → Prop)
    (kept : ∀ state input, property state → condition state input →
      property (machine.step state input).2) :
    ∀ (inputs : List ι) (state : σ), property state →
      machine.Throughout condition state inputs → property (machine.after state inputs) := by
  -- Each input is applied to the state the earlier ones left behind.
  intro inputs
  induction inputs with
  | nil => exact fun _ holds _ => holds
  | cons input rest ih =>
    intro state holds conditions
    exact ih _ (kept state input holds conditions.1) conditions.2

/-- A property kept by every step on some inputs is kept by every run on such inputs. -/
lemma after_of_each (condition : ι → Prop) (property : σ → Prop)
    (kept : ∀ state input, property state → condition input → property (machine.step state input).2)
    (each : ∀ input ∈ inputs, condition input) (state : σ) (holds : property state) :
    property (machine.after state inputs) := by
  induction inputs generalizing state with
  | nil => exact holds
  | cons input rest ih =>
    rw [List.forall_mem_cons] at each
    exact ih each.2 _ (kept state input holds each.1)

/-- A property kept by every step is kept by every run. -/
lemma after_of_step (property : σ → Prop)
    (kept : ∀ state input, property state → property (machine.step state input).2)
    (inputs : List ι) (state : σ) (holds : property state) :
    property (machine.after state inputs) :=
  machine.after_of_each (fun _ => True) property (fun state input holds _ => kept state input holds)
    (fun _ _ => trivial) state holds

/-- Two machines that stay related under some inputs answer every run of such inputs in related
ways. -/
lemma run_related {τ π : Type} (other : Machine τ ι π) (condition : ι → Prop)
    (related : σ → τ → Prop) (agree : ο → π → Prop)
    (kept : ∀ state mirror input, related state mirror → condition input →
      agree (machine.step state input).1 (other.step mirror input).1 ∧
        related (machine.step state input).2 (other.step mirror input).2)
    (each : ∀ input ∈ inputs, condition input) (state : σ) (mirror : τ)
    (holds : related state mirror) :
    List.Forall₂ agree (machine.answers state inputs) (other.answers mirror inputs) ∧
      related (machine.after state inputs) (other.after mirror inputs) := by
  -- Both machines take each input in the states that the earlier ones left them in.
  induction inputs generalizing state mirror with
  | nil => exact ⟨.nil, holds⟩
  | cons input rest ih =>
    rw [List.forall_mem_cons] at each
    obtain ⟨first, next⟩ := kept state mirror input holds each.1
    obtain ⟨others, last⟩ := ih each.2 _ _ next
    exact ⟨.cons first others, last⟩

/-- A property of a run and the state it ends in, kept by one more input, holds of every run. -/
lemma after_of_history (property : List ι → σ → Prop) (initially : property [] machine.initial)
    (kept : ∀ inputs input, property inputs (machine.after machine.initial inputs) →
      property (inputs ++ [input]) (machine.step (machine.after machine.initial inputs) input).2)
    (inputs : List ι) : property inputs (machine.after machine.initial inputs) := by
  -- The last input is taken in the state that the earlier ones lead to.
  induction inputs using List.reverseRecOn with
  | nil => exact initially
  | append_singleton inputs input ih =>
    rw [machine.after_append]
    exact kept inputs input ih

/-- A property that fails before a run and holds after it was brought about by one of its steps. -/
lemma exists_change (property : σ → Prop) (inputs : List ι) (state : σ) (fails : ¬ property state)
    (holds : property (machine.after state inputs)) :
    ∃ first input rest, inputs = first ++ input :: rest ∧ ¬ property (machine.after state first) ∧
      property (machine.step (machine.after state first) input).2 := by
  -- The first input either brings the property about or leaves the change to the rest.
  induction inputs generalizing state with
  | nil => exact absurd holds fails
  | cons input rest ih =>
    by_cases changed : property (machine.step state input).2
    · exact ⟨[], input, rest, rfl, fails, changed⟩
    · obtain ⟨first, changing, last, split, before, after⟩ := ih _ changed holds
      exact ⟨input :: first, changing, last, by rw [split]; rfl, before, after⟩

/-- A property that holds initially and is kept by every step holds in every reachable state. -/
lemma reachable_of_step (property : σ → Prop) (initially : property machine.initial)
    (kept : ∀ state input, property state → property (machine.step state input).2)
    (reached : machine.Reachable state) : property state := by
  obtain ⟨inputs, rfl⟩ := reached
  exact machine.after_of_step property kept inputs _ initially

end Machine

end Ananta
