import Mathlib

/-! Lists whose elements carry consecutive numbers. -/

namespace Ananta

open List

/-- The elements are numbered one after another from some number on. -/
def Consecutive {α : Type} (number : α → Nat) (start : Nat) (values : List α) : Prop :=
  values.map number = range' start values.length

namespace Consecutive

variable {α : Type} {number : α → Nat} {start : Nat} {values : List α} {value : α}

lemma nil : Consecutive number start [] := rfl

lemma cons_iff {rest : List α} :
    Consecutive number start (value :: rest) ↔ number value = start ∧
      Consecutive number (start + 1) rest := by
  simp only [Consecutive, map_cons, length_cons, range'_succ, cons.injEq]

section

variable (numbered : Consecutive number start values)
include numbered

/-- The next number continues the list. -/
lemma append (next : number value = start + values.length) :
    Consecutive number start (values ++ [value]) := by
  rw [Consecutive, map_append, numbered, length_append, length_singleton, range'_concat]
  simp [next]

/-- What is left after the first elements is numbered from there on. -/
lemma drop (count : Nat) : Consecutive number (start + count) (values.drop count) := by
  rw [Consecutive, map_drop, numbered, length_drop, drop_range', Nat.mul_one]

/-- The elements above a number are those behind it. -/
lemma filter_lt (bound : Nat) :
    values.filter (bound < number ·) = values.drop (bound + 1 - start) := by
  induction values generalizing start with
  | nil => simp
  | cons value rest ih =>
    obtain ⟨first, others⟩ := cons_iff.mp numbered
    rw [filter_cons, ih others]
    by_cases above : bound < number value
    · rw [if_pos (decide_eq_true above), Nat.sub_eq_zero_of_le (by omega : bound + 1 ≤ start),
        Nat.sub_eq_zero_of_le (by omega : bound + 1 ≤ start + 1)]
      rfl
    · rw [if_neg (by simpa using above), show bound + 1 - start = (bound + 1 - (start + 1)) +
        1 by omega]
      rfl

/-- The highest number is the last one. -/
lemma foldl_max (least : Nat) :
    (values.map number).foldl max least = if values = []
      then least else max least (start + values.length - 1) := by
  induction values generalizing start least with
  | nil => rfl
  | cons value rest ih =>
    obtain ⟨first, others⟩ := cons_iff.mp numbered
    rw [map_cons, foldl_cons, ih others, if_neg (cons_ne_nil value rest), length_cons]
    split
    · rename_i empty
      rw [empty, first]
      simp
    · omega

/-- The lowest number is the first one. -/
lemma min? : (values.map number).min? = if values = [] then none else some start := by
  cases values with
  | nil => rfl
  | cons value rest =>
    obtain ⟨first, others⟩ := cons_iff.mp numbered
    rw [if_neg (cons_ne_nil value rest), min?_eq_some_iff]
    refine ⟨by simp [first], fun other listed => ?_⟩
    rw [numbered, mem_range'_1] at listed
    exact listed.1

/-- Every number of the range is that of an element. -/
lemma exists_number {wanted : Nat} (least : start ≤ wanted)
    (most : wanted < start + values.length) : ∃ value ∈ values, number value = wanted := by
  have mapped : wanted ∈ values.map number := by
    rw [numbered, mem_range'_1]
    exact ⟨least, most⟩
  exact mem_map.mp mapped

/-- Sorting by the numbers changes nothing. -/
lemma mergeSort_eq : (values.mergeSort fun left right => number left ≤ number right) = values := by
  refine mergeSort_of_pairwise ?_
  have ordered : (values.map number).Pairwise (· ≤ ·) := by
    rw [numbered]
    exact pairwise_le_range'
  rw [pairwise_map] at ordered
  exact ordered.imp fun le => decide_eq_true le

end

end Consecutive

end Ananta
