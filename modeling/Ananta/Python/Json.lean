import Ananta.Python.FloatText

/-! Structured Python values and the deterministic JSON text written for them. -/

namespace Ananta

/-- The values a payload is built from, with one constructor for objects JSON does not know. -/
inductive Value where
  | none
  | bool (value : Bool)
  | int (value : Int)
  | float (value : Float64)
  | str (value : Str)
  | list (items : List Value)
  | tuple (items : List Value)
  | dict (fields : List (Str × Value))
  | object (identity : Nat)

/-- The entries of a mapping, in the order in which they were written. -/
abbrev Fields := List (Str × Value)

inductive JsonFault where
  | outOfRange
  | notSerializable
  deriving DecidableEq

namespace Value

def hexDigit (value : Nat) : CodePoint :=
  if value < 10 then Fin.ofNat 0x110000 (0x30 + value) else Fin.ofNat 0x110000 (0x57 + value)

def escapePoint (point : CodePoint) : Str :=
  if point = codePoint '"' then "\\\""
  else if point = codePoint '\\' then "\\\\"
  else if point = codePoint '\n' then "\\n"
  else if point = codePoint '\r' then "\\r"
  else if point = codePoint '\t' then "\\t"
  else if point.val = 0x8 then "\\b"
  else if point.val = 0xC then "\\f"
  -- The remaining controls are escaped by number, and everything else stands for itself.
  else if point.val < 0x20 then "\\u00" ++ [hexDigit (point.val / 16), hexDigit (point.val % 16)]
  else [point]

/-- A JSON string literal. -/
def quote (value : Str) : Str :=
  "\"" ++ value.flatMap escapePoint ++ "\""

def commaSeparated : List Str → Str
  | [] => []
  | [part] => part
  | part :: rest => part ++ "," ++ commaSeparated rest

def sortFields {α : Type} (fields : List (Str × α)) : List (Str × α) :=
  fields.insertionSort fun left right => left.1 ≤ right.1

def objectText (fields : List (Str × Except JsonFault Str)) : Except JsonFault Str := do
  -- The first fault in key order is the one reported.
  let parts ← (sortFields fields).mapM fun (key, rendered) => do
    let body ← rendered
    return quote key ++ ":" ++ body
  return "\x7b" ++ commaSeparated parts ++ "\x7d"

mutual

/-- `json.dumps` with sorted keys, compact separators, raw Unicode, and no special floats. -/
def dumps : Value → Except JsonFault Str
  | .none => .ok "null"
  | .bool value => .ok (if value then "true" else "false")
  | .int value => .ok (decimal value)
  | .float value =>
    match value.finiteText with
    | some rendered => .ok rendered
    | Option.none => .error .outOfRange
  | .str value => .ok (quote value)
  | .list items => do return "[" ++ commaSeparated (← dumpsItems items) ++ "]"
  | .tuple items => do return "[" ++ commaSeparated (← dumpsItems items) ++ "]"
  | .dict fields => objectText (dumpsFields fields)
  | .object _ => .error .notSerializable

def dumpsItems : List Value → Except JsonFault (List Str)
  | [] => .ok []
  | item :: rest => do return (← dumps item) :: (← dumpsItems rest)

def dumpsFields : Fields → List (Str × Except JsonFault Str)
  | [] => []
  | (key, value) :: rest => (key, dumps value) :: dumpsFields rest

end

end Value

end Ananta
