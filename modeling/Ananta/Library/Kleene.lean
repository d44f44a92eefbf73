import Mathlib

/-! Strong Kleene logic: what is unknown lies between what is false and what is true. -/

namespace Ananta.Kleene

/-- The lesser of two values. -/
def conj : Option Bool → Option Bool → Option Bool
  | some false, _ | _, some false => some false
  | some true, some true => some true
  | _, _ => none

/-- The greater of two values. -/
def disj : Option Bool → Option Bool → Option Bool
  | some true, _ | _, some true => some true
  | some false, some false => some false
  | _, _ => none

/-- The least of some values, or the greatest of them. -/
def fold (all : Bool) (values : List (Option Bool)) : Option Bool :=
  if all then values.foldr conj (some true) else values.foldr disj (some false)

/-- One value decides about all of them, and otherwise an unknown one leaves them unknown. -/
lemma fold_eq (all : Bool) (values : List (Option Bool)) :
    fold all values = if some (!all) ∈ values then some (!all)
      else if none ∈ values then none else some all := by
  induction values with
  | nil => cases all <;> rfl
  | cons first rest ih =>
    unfold fold at ih ⊢
    cases all <;> simp only [Bool.false_eq_true, if_false, if_true, List.foldr_cons, Bool.not_false,
      Bool.not_true] at ih ⊢ <;>
      rw [ih] <;> rcases first
        with _ | _ | _ <;> simp only [List.mem_cons] <;> split_ifs <;> simp_all [conj, disj]

end Ananta.Kleene
