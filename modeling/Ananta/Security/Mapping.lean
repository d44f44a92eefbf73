import Ananta.Security.Command

/-! Typed fields of the mappings that signed contracts are read from. -/

namespace Ananta

open List

namespace Value

/-- `float`, where the texts of floats are left out. -/
def toFloat : Value → Except Fault Float64
  | .float value => .ok value
  | .bool value => .ok (if value then 1 else 0)
  | .int value =>
    match Float64.ofInt value with
    | .finite units exact => .ok (.finite units exact)
    | _ => .error ⟨.overflowError, "int too large to convert to float"⟩
  | .str _ => .error ⟨.valueError, "could not convert string to float"⟩
  | _ => .error ⟨.typeError, "float() argument must be a string or a real number"⟩

def iterated : Value → Except Fault (List Str)
  | .list items | .tuple items => .ok (items.map toStr)
  | .str value => .ok (value.map fun point => [point])
  | .dict fields => .ok (fields.map (·.1))
  | _ => .error ⟨.typeError, "object is not iterable"⟩

/-- `dict`, where sequences of pairs are left out. -/
def toFields : Value → Except Fault Fields
  | .dict fields => .ok fields
  | _ => .error ⟨.typeError, "object is not a mapping"⟩

end Value

section

variable (raw : Fields) (key : String)

/-- `str(raw.get(key) or "")`. -/
def textAt : Str := if (payloadGet raw key).truthy then (payloadGet raw key).toStr else []

/-- `int(raw.get(key) or 0)`. -/
def intAt : Except Fault Int := if (payloadGet raw key).truthy
    then (payloadGet raw key).toInt else .ok 0

/-- `float(raw.get(key) or 0)`. -/
def floatAt : Except Fault Float64 :=
  if (payloadGet raw key).truthy then (payloadGet raw key).toFloat else .ok 0

/-- `dict(raw.get(key) or {})`. -/
def fieldsAt : Except Fault Fields :=
  if (payloadGet raw key).truthy then (payloadGet raw key).toFields else .ok []

/-- The texts of `raw.get(key) or ()`. -/
def textsAt : Except Fault (List Str) :=
  if (payloadGet raw key).truthy then (payloadGet raw key).iterated else .ok []

end

variable {raw : Fields} {key : String}

/-- A key of a mapping is found under its value. -/
lemma payloadGet_of_mem {value : Value} (distinct : (raw.map Prod.fst).Nodup)
    (member : (text key, value) ∈ raw) : payloadGet raw key = value := by
  induction raw with
  | nil => cases member
  | cons field rest ih =>
    rw [map_cons, nodup_cons] at distinct
    unfold payloadGet
    rw [find?_cons]
    rcases mem_cons.mp member with rfl | later
    · simp
    · -- The first field is another one, because no key occurs twice.
      have other : field.1 ≠ text key := by
        intro same
        rw [same] at distinct
        exact distinct.1 (mem_map_of_mem later)
      simp only [other, decide_false]
      exact ih distinct.2 later

lemma payloadGet_absent (absent : text key ∉ raw.map Prod.fst) : payloadGet raw key = .none := by
  rw [payloadGet, find?_eq_none.mpr]
  · rfl
  grind

lemma textAt_of_str {value : Str} (found : payloadGet raw key = .str value) :
    textAt raw key = value := by
  rw [textAt, found]
  cases value <;> rfl

lemma intAt_of_int {value : Int} (found : payloadGet raw key = .int value) :
    intAt raw key = .ok value := by
  rw [intAt, found]
  split
  · rfl
  · rename_i zero
    -- Only zero is false among the integers, and zero is also the default.
    have same : value = 0 := by
      by_contra other
      apply zero
      unfold Value.truthy
      split <;> simp_all
    rw [same]

/-- `value or 0`, which loses the sign of a zero. -/
def Float64.orZero (value : Float64) : Float64 := if value = .negativeZero then 0 else value

lemma floatAt_of_float {value : Float64} (found : payloadGet raw key = .float value) :
    floatAt raw key = .ok value.orZero := by
  rw [floatAt, found, Value.truthy, Float64.orZero]
  cases value with
  | nan => simp [Float64.place, Value.toFloat]
  | infinity negative =>
    cases negative <;> simp [Float64.place, Float64.overflowUnits_pos.ne', Value.toFloat]
  | negativeZero => simp [Float64.place]
  | finite units exact =>
    by_cases zero : units = 0
    · simp [Float64.place, zero, Float64.zero_eq]
    · simp [Float64.place, zero, Value.toFloat]

lemma fieldsAt_of_dict {fields : Fields} (found : payloadGet raw key = .dict fields) :
    fieldsAt raw key = .ok fields := by
  rw [fieldsAt, found]
  cases fields <;> rfl

lemma textsAt_of_list {values : List Str} (found : payloadGet raw key = .list (values.map .str)) :
    textsAt raw key = .ok values := by
  rw [textsAt, found]
  cases values with
  | nil => rfl
  | cons value rest =>
    have texts : ((value :: rest).map Value.str).map Value.toStr = value :: rest := by
      rw [map_map]
      exact map_id _
    exact congrArg Except.ok texts

/-- What the registry of upcasters makes of a mapping with another schema than the current one. -/
abbrev Upcaster := (contractType : String) → Fields → Except Fault Fields

/-- `upcast_runtime_contract_for_loading`. -/
def upcastForLoading (upcaster : Upcaster) (contractType : String) (target : Str) (raw : Fields) :
    Except Fault Fields :=
  if textAt raw "schema" = [] ∨ textAt raw "schema" = target then .ok raw
    else upcaster contractType raw

lemma upcastForLoading_current {upcaster : Upcaster} {contractType : String} {target : Str}
    (current : textAt raw "schema" = target) :
    upcastForLoading upcaster contractType target raw = .ok raw := if_pos (.inr current)

end Ananta
