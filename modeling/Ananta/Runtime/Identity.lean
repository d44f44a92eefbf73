import Ananta.Runtime.Serialization

/-! The texts and times that the runtime accepts as identities and timestamps. -/

namespace Ananta

open List

/-- The texts matched by `_OWNERSHIP_ID_RE` and `_IDENTITY_RE`. -/
def IsIdentity (value : Str) : Prop :=
  match value with
  | [] => False
  | first :: rest =>
    isAlphanumeric first ∧ rest.length ≤ 255 ∧
      rest.all fun point => isAlphanumeric point || point ∈ text "_.:/-"

instance : DecidablePred IsIdentity
  | [] => inferInstanceAs (Decidable False)
  | _ :: _ => inferInstanceAs (Decidable (_ ∧ _ ∧ _))

def IsTimestamp (value : Float64) : Prop := value.IsFinite ∧ ¬ value ≤ 0
  deriving Decidable

lemma IsTimestamp.add {left right : Float64} (first : IsTimestamp left) (second : IsTimestamp right)
    (finite : (left + right).IsFinite) : IsTimestamp (left + right) :=
  ⟨finite, (Float64.not_le_zero_iff finite).mpr (Float64.zero_lt_add
    ((Float64.not_le_zero_iff first.1).mp first.2) ((Float64.not_le_zero_iff second.1).mp second.2)
      finite)⟩

/-- The code points of identities are printable ASCII. -/
lemma identityPoint_printable {point : CodePoint}
    (accepted : (isAlphanumeric point || decide (point ∈ text "_.:/-")) = true) :
    0x20 < point.val ∧ point.val < 0x7F := by
  rw [Bool.or_eq_true, decide_eq_true_eq] at accepted
  rcases accepted with letter | mark
  · simp only [isAlphanumeric, Bool.or_eq_true, decide_eq_true_eq] at letter
    omega
  · have marks : (text "_.:/-").all fun point => 0x20 < point.val ∧ point.val < 0x7F := by decide
    exact of_decide_eq_true (List.all_eq_true.mp marks point mark)

/-- Every code point of an identity is printable ASCII. -/
lemma IsIdentity.printable {value : Str} (identity : IsIdentity value) :
    ∀ point ∈ value, 0x20 < point.val ∧ point.val < 0x7F := by
  cases value with
  | nil => simp
  | cons first rest =>
    obtain ⟨letter, _, others⟩ := identity
    rw [forall_mem_cons]
    exact ⟨identityPoint_printable (by rw [letter, Bool.true_or]),
      fun point member => identityPoint_printable (all_eq_true.mp others point member)⟩

lemma encodable_of_printable {value : Str}
    (printable : ∀ point ∈ value, 0x20 < point.val ∧ point.val < 0x7F) : Encodable value := by
  intro point member
  have small := (printable point member).2
  simp only [isSurrogate, decide_eq_false_iff_not]
  omega

namespace IsIdentity

variable {value : Str} (identity : IsIdentity value)
include identity

lemma encodable : Encodable value := encodable_of_printable identity.printable

lemma ne_nil : value ≠ [] := by
  rintro rfl
  exact identity

lemma strip_eq : strip value = value := by
  refine strip_eq_self fun point member => ?_
  obtain ⟨large, small⟩ := identity.printable point member
  simp only [isSpace, Bool.or_eq_false_iff, decide_eq_false_iff_not, beq_eq_false_iff_ne]
  omega

lemma zero_not_mem : (0 : CodePoint) ∉ value := by
  intro member
  exact absurd (identity.printable 0 member).1 (by decide)

end IsIdentity

private lemma isAlphanumeric_of_isLowerHex {point : CodePoint} (digit : isLowerHex point = true) :
    isAlphanumeric point = true := by
  simp only [isLowerHex, isAlphanumeric, Bool.or_eq_true, decide_eq_true_eq] at digit ⊢
  omega

lemma IsSha256.encodable {value : Str} (digest : IsSha256 value) : Encodable value := by
  refine encodable_of_printable fun point member => identityPoint_printable ?_
  rw [isAlphanumeric_of_isLowerHex (all_eq_true.mp digest.2 point member), Bool.true_or]

/-- A short alphanumeric lead followed by at most a digest makes an identity. -/
lemma isIdentity_digest {first : CodePoint} {rest digits : Str}
    (leads : isAlphanumeric first = true) (short : rest.length ≤ 190)
    (plain : rest.all (fun point => isAlphanumeric point || point ∈ text "_.:/-"))
    (bounded : digits.length ≤ 64) (hexadecimal : digits.all isLowerHex) :
    IsIdentity (first :: rest ++ "-" ++ digits) := by
  refine ⟨leads, ?_, ?_⟩
  · show (rest ++ "-" ++ digits).length ≤ 255
    have width : (text "-").length = 1 := by decide
    simp only [length_append, width]
    omega
  · show (rest ++ "-" ++ digits).all _
    simp only [all_append, plain, Bool.true_and, Bool.and_eq_true]
    refine ⟨by decide, all_eq_true.mpr fun point member => ?_⟩
    rw [isAlphanumeric_of_isLowerHex (all_eq_true.mp hexadecimal point member), Bool.true_or]

end Ananta
