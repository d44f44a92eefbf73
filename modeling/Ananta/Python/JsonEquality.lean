import Ananta.Python.Json

/-! Equality of structured values can be decided. -/

namespace Ananta.Value

mutual

/-- Whether two values are built alike. -/
def same : Value → Value → Bool
  | .none, .none => true
  | .bool left, .bool right => left == right
  | .int left, .int right => left == right
  | .float left, .float right => left == right
  | .str left, .str right => left == right
  | .list left, .list right => sameItems left right
  | .tuple left, .tuple right => sameItems left right
  | .dict left, .dict right => sameFields left right
  | .object left, .object right => left == right
  | _, _ => false

def sameItems : List Value → List Value → Bool
  | [], [] => true
  | left :: lefts, right :: rights => same left right && sameItems lefts rights
  | _, _ => false

def sameFields : Fields → Fields → Bool
  | [], [] => true
  | (key, left) :: lefts, (other, right) :: rights =>
    key == other && (same left right && sameFields lefts rights)
  | _, _ => false

end

mutual

lemma same_iff : ∀ left right : Value, same left right = true ↔ left = right
  | .none, right | .bool _, right | .int _, right | .float _, right | .str _, right
  | .object _, right => by
    cases right <;> simp [same]
  | .list items, right | .tuple items, right => by cases right <;> simp [same, sameItems_iff items]
  | .dict fields, right => by cases right <;> simp [same, sameFields_iff fields]

lemma sameItems_iff : ∀ left right : List Value, sameItems left right = true ↔ left = right
  | [], right => by cases right <;> simp [sameItems]
  | item :: rest, right => by cases right <;> simp [sameItems, same_iff item, sameItems_iff rest]

lemma sameFields_iff : ∀ left right : Fields, sameFields left right = true ↔ left = right
  | [], right => by cases right <;> simp [sameFields]
  | (key, value) :: rest, right => by
    cases right <;> simp [sameFields, same_iff value, sameFields_iff rest, Prod.ext_iff, and_assoc]

end

instance : DecidableEq Value := fun left right => decidable_of_iff _ (same_iff left right)

end Ananta.Value
