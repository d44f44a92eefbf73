import Mathlib

/-! Binary64 numbers, read as whole multiples of the smallest positive one. -/

namespace Ananta

/-- Dividing by a power of two, rounded to the nearest whole number and to the even one on ties. -/
def roundAt (shift magnitude : Nat) : Nat :=
  let quotient := magnitude / 2 ^ shift
  let remainder := magnitude % 2 ^ shift
  -- Above the midpoint rounds up, and the midpoint itself rounds to the even neighbour.
  if 2 ^ shift < 2 * remainder ∨ (2 * remainder = 2 ^ shift ∧ quotient % 2 = 1) then quotient + 1
  else quotient

def excessBits (magnitude : Nat) : Nat :=
  magnitude.log2 - 52

/-- The nearest magnitude whose significand has at most fifty-three bits. -/
def roundMagnitude (magnitude : Nat) : Nat :=
  roundAt (excessBits magnitude) magnitude * 2 ^ excessBits magnitude

variable {shift magnitude : Nat}

/-- A multiple of the divisor is divided without rounding. -/
lemma roundAt_of_dvd (divides : 2 ^ shift ∣ magnitude) :
    roundAt shift magnitude * 2 ^ shift = magnitude := by
  -- No remainder is left, so neither rounding condition applies.
  have remainder := Nat.mod_eq_zero_of_dvd divides
  have exact : ¬ (2 ^ shift < 2 * 0 ∨ (2 * 0 = 2 ^ shift ∧ magnitude / 2 ^ shift % 2 = 1)) := by
    omega
  simp only [roundAt, remainder, if_neg exact]
  exact Nat.div_mul_cancel divides

/-- A significand of fifty-three bits at any scale is its own rounding. -/
lemma roundMagnitude_of_significand {significand : Nat} (fits : significand ≤ 2 ^ 53) :
    roundMagnitude (significand * 2 ^ shift) = significand * 2 ^ shift := by
  -- The scale already supplies every low bit that rounding could remove.
  apply roundAt_of_dvd
  rcases Nat.eq_zero_or_pos significand with zero | positive
  · simp [zero]
  have logarithm : (significand * 2 ^ shift).log2 = significand.log2 + shift := by
    have nonzero : significand ≠ 0 := by omega
    rw [Nat.log2_eq_iff (Nat.mul_ne_zero nonzero (Nat.ne_of_gt (Nat.two_pow_pos shift)))]
    refine ⟨?_, ?_⟩
    · rw [Nat.pow_add]
      exact Nat.mul_le_mul_right _ (Nat.log2_self_le nonzero)
    · rw [Nat.add_right_comm, Nat.pow_add]
      exact Nat.mul_lt_mul_of_pos_right Nat.lt_log2_self (Nat.two_pow_pos shift)
  unfold excessBits
  rw [logarithm]
  rcases Nat.lt_or_ge significand (2 ^ 53) with below | full
  · have small := (Nat.log2_lt (by omega)).mpr below
    exact Nat.dvd_mul_left_of_dvd (Nat.pow_dvd_pow 2 (by omega)) significand
  · -- The one excess bit of a full significand is itself a power of two.
    have whole : significand = 2 ^ 53 := by omega
    subst whole
    rw [Nat.log2_two_pow, ← Nat.pow_add]
    exact Nat.pow_dvd_pow 2 (by omega)

/-- Rounding leaves at most fifty-three bits. -/
lemma roundAt_excess_le (magnitude : Nat) : roundAt (excessBits magnitude) magnitude ≤ 2 ^ 53 := by
  -- Dividing by the excess leaves fewer than fifty-three bits and a half, before rounding up.
  have bound : magnitude < 2 ^ (53 + excessBits magnitude) := by
    refine Nat.lt_of_lt_of_le Nat.lt_log2_self ?_
    exact Nat.pow_le_pow_right (by decide) (by unfold excessBits; omega)
  have quotient : magnitude / 2 ^ excessBits magnitude < 2 ^ 53 := by
    rwa [Nat.div_lt_iff_lt_mul (Nat.two_pow_pos _), ← Nat.pow_add]
  unfold roundAt
  dsimp only
  split <;> omega

lemma roundMagnitude_idempotent (magnitude : Nat) :
    roundMagnitude (roundMagnitude magnitude) = roundMagnitude magnitude :=
  roundMagnitude_of_significand (roundAt_excess_le magnitude)

/-- A positive magnitude never rounds to zero. -/
lemma roundMagnitude_pos (positive : 0 < magnitude) : 0 < roundMagnitude magnitude := by
  -- The leading bit always survives the division by the excess.
  have power : 2 ^ excessBits magnitude ≤ magnitude := by
    refine Nat.le_trans (Nat.pow_le_pow_right (by decide) (Nat.sub_le _ 52)) ?_
    exact Nat.log2_self_le (by omega)
  have quotient := Nat.div_pos power (Nat.two_pow_pos _)
  have rounded : 0 < roundAt (excessBits magnitude) magnitude := by
    unfold roundAt
    dsimp only
    split <;> omega
  exact Nat.mul_pos rounded (Nat.two_pow_pos _)

def roundUnits (units : Int) : Int :=
  units.sign * roundMagnitude units.natAbs

lemma roundUnits_pos {units : Int} (positive : 0 < units) : 0 < roundUnits units := by
  have magnitude := roundMagnitude_pos (Int.natAbs_pos.mpr (by omega : units ≠ 0))
  unfold roundUnits
  rw [Int.sign_eq_one_of_pos positive]
  omega

/-- Rounding a rounded number of units changes nothing. -/
lemma roundUnits_idempotent (units : Int) : roundUnits (roundUnits units) = roundUnits units := by
  -- The sign and the magnitude are rounded separately.
  rcases eq_or_ne units 0 with rfl | nonzero
  · rfl
  have magnitude := roundMagnitude_pos (Int.natAbs_pos.mpr nonzero)
  have sign : (units.sign * roundMagnitude units.natAbs).sign = units.sign := by
    rw [Int.sign_mul, Int.sign_sign, Int.sign_eq_one_of_pos (Int.natCast_pos.mpr magnitude),
      mul_one]
  have size : (units.sign * roundMagnitude units.natAbs).natAbs = roundMagnitude units.natAbs := by
    rw [Int.natAbs_mul, Int.natAbs_sign_of_ne_zero nonzero, one_mul, Int.natAbs_natCast]
  simp only [roundUnits, sign, size, roundMagnitude_idempotent]

/-- The magnitude at which a finite number overflows, in units of `2 ^ -1074`. -/
@[irreducible] def overflowUnits : Nat := 2 ^ 2098

/-- A number of units that binary64 represents without rounding. -/
def Representable (units : Int) : Prop :=
  roundUnits units = units ∧ units.natAbs < overflowUnits
  deriving Decidable

/-- A Python float: not a number, an infinity, the negative zero, or a finite multiple of `2 ^
-1074`. -/
inductive Float64 where
  | nan
  | infinity (negative : Bool)
  | negativeZero
  | finite (units : Int) (exact : Representable units)
  deriving DecidableEq

namespace Float64

/-- The float nearest to a whole number of units, or an infinity past the largest one. -/
def ofUnits (units : Int) : Float64 :=
  if bounded : (roundUnits units).natAbs < overflowUnits then
    .finite (roundUnits units) ⟨roundUnits_idempotent units, bounded⟩
  else .infinity (roundUnits units < 0)

@[irreducible] def unitsPerOne : Int := 2 ^ 1074

/-- The float nearest to an integer. -/
def ofInt (value : Int) : Float64 :=
  ofUnits (value * unitsPerOne)

instance (value : Nat) : OfNat Float64 value := ⟨ofInt value⟩

/-- Addition, rounded once from the exact sum. -/
def add : Float64 → Float64 → Float64
  | .nan, _ => .nan
  | _, .nan => .nan
  -- Opposite infinities have no sum.
  | .infinity left, .infinity right => if left = right then .infinity left else .nan
  | .infinity negative, _ => .infinity negative
  | _, .infinity negative => .infinity negative
  -- The negative zero changes no summand, not even a zero.
  | .negativeZero, right => right
  | left, .negativeZero => left
  | .finite left _, .finite right _ => ofUnits (left + right)

instance : Add Float64 := ⟨add⟩

/-- The place of a float in the order, where the zeros share one and the infinities lie beyond the
finite floats. -/
def place : Float64 → Option Int
  | .nan => none
  | .infinity negative => some (if negative then -overflowUnits else overflowUnits)
  | .negativeZero => some 0
  | .finite units _ => some units

/-- The comparison `<`, which is false as soon as one side is not a number. -/
def Below (left right : Float64) : Prop := ∃ low ∈ left.place, ∃ high ∈ right.place, low < high

/-- The comparison `<=`, which is false as soon as one side is not a number. -/
def AtMost (left right : Float64) : Prop := ∃ low ∈ left.place, ∃ high ∈ right.place, low ≤ high

instance : LT Float64 := ⟨Below⟩
instance : LE Float64 := ⟨AtMost⟩

instance (left right : Float64) : Decidable (left < right) :=
  inferInstanceAs (Decidable (∃ low ∈ left.place, _))

instance (left right : Float64) : Decidable (left ≤ right) :=
  inferInstanceAs (Decidable (∃ low ∈ left.place, _))

/-- `math.isfinite`. -/
def IsFinite : Float64 → Prop
  | .nan | .infinity _ => False
  | _ => True

instance : DecidablePred IsFinite
  | .nan => .isFalse id
  | .infinity _ => .isFalse id
  | .negativeZero | .finite _ _ => .isTrue trivial

lemma not_lt_self (value : Float64) : ¬ value < value := by
  rintro ⟨low, here, high, there, less⟩
  rw [Option.mem_unique here there] at less
  exact lt_irrefl _ less

lemma zero_eq : (0 : Float64) = .finite 0 (by decide +kernel) := by
  decide +kernel

variable {value left right middle : Float64}

lemma overflowUnits_pos : 0 < overflowUnits := by
  unfold overflowUnits
  positivity

lemma lt_def : left < right ↔ ∃ low ∈ left.place, ∃ high ∈ right.place, low < high := Iff.rfl

lemma le_def : left ≤ right ↔ ∃ low ∈ left.place, ∃ high ∈ right.place, low ≤ high := Iff.rfl

/-- The positive floats are the positive finite ones and one infinity. -/
lemma zero_lt_iff :
    0 < value ↔ value = .infinity false ∨ ∃ units exact, value = .finite units exact ∧
      0 < units := by
  -- Comparing with zero reads the sign of the place.
  have positive := overflowUnits_pos
  rw [zero_eq, lt_def]
  cases value with
  | nan => simp [place]
  | infinity negative => cases negative <;> simp [place, positive]
  | negativeZero => simp [place]
  | finite units exact => simp [place, exact]

lemma not_le_zero_iff (finite : IsFinite value) : ¬ value ≤ 0 ↔ 0 < value := by
  rw [zero_eq, lt_def, le_def]
  cases value with
  | nan => exact finite.elim
  | infinity negative => exact finite.elim
  | negativeZero => simp [place]
  | finite units exact => simp [place]

/-- A finite sum has a finite second term. -/
lemma isFinite_right (finite : IsFinite (left + right)) : IsFinite right := by
  change IsFinite (add left right) at finite
  cases right with
  | nan => cases left <;> exact finite.elim
  | negativeZero => trivial
  | finite => trivial
  | infinity negative =>
    cases left with
    | nan => exact finite.elim
    | negativeZero => exact finite.elim
    | finite => exact finite.elim
    | infinity other =>
      rw [add] at finite
      split at finite <;> exact finite.elim

/-- A sum with a second term above zero is not the negative zero. -/
lemma add_ne_negativeZero (above : ¬ right ≤ 0) : left + right ≠ .negativeZero := by
  change add left right ≠ .negativeZero
  cases right with
  | nan => cases left <;> simp [add]
  | infinity negative =>
    cases left with
    | infinity other =>
      rw [add]
      split <;> simp
    | _ => simp [add]
  | negativeZero => exact absurd (by decide +kernel) above
  | finite units exact =>
    cases left with
    | finite =>
      -- Rounding a whole number of units never gives the negative zero.
      rw [add, ofUnits]
      split <;> simp
    | _ => simp [add]

/-- The finite sum of positive floats is positive. -/
lemma zero_lt_add (leftPositive : 0 < left) (rightPositive : 0 < right)
    (bounded : IsFinite (left + right)) : 0 < left + right := by
  -- A finite sum has finite terms, and rounding keeps the sign of their exact sum.
  change IsFinite (add left right) at bounded
  rw [zero_lt_iff] at leftPositive rightPositive ⊢
  rcases leftPositive with rfl | ⟨leftUnits, leftExact, rfl, leftPositive⟩
  · exact absurd bounded (by
      rcases rightPositive with rfl | ⟨_, _, rfl, _⟩ <;> simp [add, IsFinite])
  rcases rightPositive with rfl | ⟨rightUnits, rightExact, rfl, rightPositive⟩
  · exact absurd bounded (by simp [add, IsFinite])
  have rounded := roundUnits_pos (Int.add_pos leftPositive rightPositive)
  simp only [add] at bounded ⊢
  by_cases fits : (roundUnits (leftUnits + rightUnits)).natAbs < overflowUnits
  · exact .inr ⟨_, _, dif_pos fits, rounded⟩
  · rw [ofUnits, dif_neg fits] at bounded
    exact bounded.elim

lemma le_trans (first : left ≤ middle) (second : middle ≤ right) : left ≤ right := by
  obtain ⟨low, here, high, there, first⟩ := first
  obtain ⟨low', here', high', there', second⟩ := second
  rw [Option.mem_unique there here'] at first
  exact ⟨low, here, high', there', first.trans second⟩

lemma lt_of_le_of_lt (first : left ≤ middle) (second : middle < right) : left < right := by
  obtain ⟨low, here, high, there, first⟩ := first
  obtain ⟨low', here', high', there', second⟩ := second
  rw [Option.mem_unique there here'] at first
  exact ⟨low, here, high', there', first.trans_lt second⟩

/-- Floats that have been compared with something are numbers, and numbers can be compared. -/
lemma le_of_not_lt {low below : Float64} (number : low ≤ left) (other : below < right)
    (above : ¬ left < right) : right ≤ left := by
  obtain ⟨_, _, place, here, _⟩ := number
  obtain ⟨_, _, place', there, _⟩ := other
  exact ⟨place', there, place, here, not_lt.mp fun less => above ⟨place, here, place', there, less⟩⟩

end Float64

end Ananta
