import Ananta.Python.Float
import Ananta.Python.Text

/-! Decimal text of floats: the shortest digits that read back as the same number. -/

namespace Ananta

open List

namespace Float64

def ofRatio (numerator denominator : Nat) : Float64 :=
  let scaled := 4 * numerator / denominator
  -- Two guard bits and a final bit for any discarded remainder decide every tie exactly.
  let guarded := if 4 * numerator % denominator = 0 then scaled else 2 * (scaled / 2) + 1
  let shift := max 2 (guarded.log2 - 52)
  ofUnits (roundAt shift guarded * 2 ^ (shift - 2))

/-- The float nearest to `digits * 10 ^ exponent`. -/
def ofDecimal (digits : Nat) (exponent : Int) : Float64 :=
  if 0 ≤ exponent then ofUnits (digits * 10 ^ exponent.toNat * 2 ^ 1074)
  else ofRatio (digits * 2 ^ 1074) (10 ^ (-exponent).toNat)

def decimalExponent (units : Nat) : Int :=
  if 2 ^ 1074 ≤ units then Nat.log 10 (units / 2 ^ 1074)
  else -(Nat.log 10 ((2 ^ 1074 - 1) / units) + 1 : Nat)

/-- The number of times `10 ^ exponent` fits into a number of units, and what it leaves, doubled. -/
def decimalParts (units : Nat) (exponent : Int) : Nat × Nat × Nat :=
  let numerator := units * 10 ^ (-exponent).toNat
  let denominator := 2 ^ 1074 * 10 ^ exponent.toNat
  (numerator / denominator, 2 * (numerator % denominator), denominator)

/-- The decimal of a given precision that reads back as the float, if one exists. -/
def decimalCandidate (units precision : Nat) : Option (Nat × Int) :=
  let exponent := decimalExponent units - precision + 1
  let (digits, doubled, whole) := decimalParts units exponent
  let readsBack (digits : Nat) : Bool := ofDecimal digits exponent = ofUnits units
  -- Of the two neighbours, the closer one is preferred, and the even one on ties.
  if readsBack digits ∧ readsBack (digits + 1) then
    if doubled < whole ∨ (doubled = whole ∧ digits % 2 = 0) then some (digits, exponent)
    else some (digits + 1, exponent)
  else if readsBack digits then some (digits, exponent)
  else if readsBack (digits + 1) then some (digits + 1, exponent)
  else none

/-- The fewest decimal digits that read back as the float; seventeen always suffice. -/
def shortestDecimal (units : Nat) : Nat × Int :=
  ((range 17).findSome? fun extra => decimalCandidate units (extra + 1)).getD (0, 0)

def digitsText (value : Nat) : Str :=
  (Nat.toDigits 10 value).map codePoint

/-- The text of a positive finite float: positional in a middle range, scientific outside it. -/
def positiveText (units : Nat) : Str :=
  let (value, exponent) := shortestDecimal units
  -- The position of the decimal point relative to the first digit.
  let point : Int := exponent + (digitsText value).length
  -- Rounding up to a power of ten leaves zeros that carry no precision.
  let digits := (digitsText value).rdropWhile (· = codePoint '0')
  if point ≤ -4 ∨ 16 < point then
    let mantissa := digits.take 1 ++ if digits.length = 1 then [] else text "." ++ digits.drop 1
    let power := digitsText (point - 1).natAbs
    let sign := if point - 1 < 0 then text "-" else text "+"
    -- The exponent is written with at least two digits.
    mantissa ++ text "e" ++ sign ++ (if power.length < 2 then text "0" else []) ++ power
  else if point ≤ 0 then
    "0." ++ replicate (-point).toNat (codePoint '0') ++ digits
  else if (digits.length : Int) ≤ point then
    digits ++ replicate (point - digits.length).toNat (codePoint '0') ++ ".0"
  else digits.take point.toNat ++ "." ++ digits.drop point.toNat

/-- `float.__repr__` of a finite float, and nothing for the others. -/
def finiteText : Float64 → Option Str
  | .nan => none
  | .infinity _ => none
  | .negativeZero => some (text "-0.0")
  | .finite units _ =>
    if units = 0 then some (text "0.0")
    else if units < 0 then some ("-" ++ positiveText units.natAbs)
    else some (positiveText units.natAbs)

/-- Exactly the finite floats have a decimal text. -/
lemma finiteText_isSome (value : Float64) : (finiteText value).isSome ↔ IsFinite value := by
  cases value with
  | nan => simp [finiteText, IsFinite]
  | infinity negative => simp [finiteText, IsFinite]
  | negativeZero => simp [finiteText, IsFinite]
  | finite units exact =>
    simp only [finiteText, IsFinite, iff_true]
    split
    · rfl
    · split <;> rfl

/-- The decimal text of a positive float is encodable. -/
lemma encodable_positiveText (units : Nat) : Encodable (positiveText units) := by
  -- Every part is a literal, a run of zeros, or a piece of a digit string.
  have digits : ∀ value, Encodable (digitsText value) := fun value => encodable_characters _
  have zeros : ∀ count, Encodable (replicate count (codePoint '0')) := by
    intro count point member
    rw [eq_of_mem_replicate member]
    decide
  have kept : ∀ value, Encodable ((digitsText value).rdropWhile (· = codePoint '0')) := fun value =>
    (digits value).sublist ( rdropWhile_prefix _ _).sublist
  have taken : ∀ value count,
      Encodable (((digitsText value).rdropWhile (· = codePoint '0')).take count) :=
        fun value count =>
    (kept value).sublist (take_sublist _ _)
  have dropped : ∀ value count,
      Encodable (((digitsText value).rdropWhile (· = codePoint '0')).drop count) :=
        fun value count =>
    (kept value).sublist (drop_sublist _ _)
  unfold positiveText
  simp only []
  split_ifs <;> simp [digits, zeros, kept, taken, dropped, -drop_one]

/-- The decimal text of a float is encodable. -/
lemma encodable_finiteText {value : Float64} {rendered : Str}
    (written : finiteText value = some rendered) : Encodable rendered := by
  cases value with
  | nan => cases written
  | infinity negative => cases written
  | negativeZero =>
    rw [← Option.some.inj written]
    exact encodable_text _
  | finite units exact =>
    simp only [finiteText] at written
    split at written
    · rw [← Option.some.inj written]
      exact encodable_text _
    · split at written
      · rw [← Option.some.inj written, encodable_append]
        exact ⟨encodable_text _, encodable_positiveText _⟩
      · rw [← Option.some.inj written]
        exact encodable_positiveText _

end Float64

end Ananta
