import Ananta.Python.JsonEquality
import Ananta.Runtime.Fault

/-! What Python's own conversions make of a structured value. -/

namespace Ananta

namespace Value

/-- Whether Python takes a value for true. -/
def truthy : Value → Bool
  | .none | .bool false | .int 0 | .str [] | .list [] | .tuple [] | .dict [] => false
  | .float value => value.place ≠ some 0
  | _ => true

def reprPoint (mark point : CodePoint) : Str :=
  if point = mark ∨ point = codePoint '\\' then [codePoint '\\', point]
  else if point = codePoint '\n' then "\\n"
  else if point = codePoint '\r' then "\\r"
  else if point = codePoint '\t' then "\\t"
  else if point.val < 0x20 ∨ point.val = 0x7F then
    "\\x" ++ [hexDigit (point.val / 16), hexDigit (point.val % 16)]
  else [point]

/-- `repr` of a text, which prefers single quotes. -/
def reprText (value : Str) : Str :=
  let mark := if codePoint '\'' ∈ value ∧ codePoint '"' ∉ value then codePoint '"'
    else codePoint '\''
  [mark] ++ value.flatMap (reprPoint mark) ++ [mark]

/-- Parts separated by a comma and a blank. -/
def listed : List Str → Str
  | [] => []
  | [part] => part
  | part :: rest => part ++ ", " ++ listed rest

mutual

/-- `repr`. -/
def repr : Value → Str
  | .none => "None"
  | .bool value => if value then "True" else "False"
  | .int value => decimal value
  | .float value =>
    match value, value.finiteText with
    | _, some rendered => rendered
    | .infinity true, Option.none => "-inf"
    | .infinity false, Option.none => "inf"
    | _, Option.none => "nan"
  | .str value => reprText value
  | .list items => "[" ++ listed (reprItems items) ++ "]"
  | .tuple [item] => "(" ++ repr item ++ ",)"
  | .tuple items => "(" ++ listed (reprItems items) ++ ")"
  | .dict fields => "\x7b" ++ listed (reprFields fields) ++ "\x7d"
  | .object identity => "<object " ++ decimal identity ++ ">"

/-- `repr` of each item. -/
def reprItems : List Value → List Str
  | [] => []
  | item :: rest => repr item :: reprItems rest

/-- `repr` of each field. -/
def reprFields : Fields → List Str
  | [] => []
  | (key, value) :: rest => (reprText key ++ ": " ++ repr value) :: reprFields rest

end

/-- `str`. -/
def toStr : Value → Str
  | .str value => value
  | value => value.repr

mutual

/-- Whether a value can be looked up in a set. -/
def hashable : Value → Bool
  | .list _ | .dict _ => false
  | .tuple items => hashableItems items
  | _ => true

def hashableItems : List Value → Bool
  | [] => true
  | item :: rest => hashable item && hashableItems rest

end

mutual

def unhashableName : Value → String
  | .dict _ => "dict"
  | .tuple items => unhashableNames items
  | _ => "list"

/-- The name of the class of the first of some values that cannot be looked up. -/
def unhashableNames : List Value → String
  | [] => "list"
  | item :: rest => if item.hashable then unhashableNames rest else unhashableName item

end

/-- `value in names`, where `names` is a set of texts. -/
def memberOf (value : Value) (names : List String) : Except Fault Bool :=
  if value.hashable then .ok (names.any fun name => value = .str (text name))
  else .error ⟨.typeError, "unhashable type: '" ++ unhashableName value ++ "'"⟩

/-- The zeros of the sets of decimal digits that Unicode knows. -/
def digitZeros : List Nat :=
  [0x30, 0x660, 0x6F0, 0x7C0, 0x966, 0x9E6, 0xA66, 0xAE6, 0xB66, 0xBE6, 0xC66, 0xCE6, 0xD66,
    0xDE6, 0xE50, 0xED0, 0xF20, 0x1040, 0x1090, 0x17E0, 0x1810, 0x1946, 0x19D0, 0x1A80, 0x1A90,
    0x1B50, 0x1BB0, 0x1C40, 0x1C50, 0xA620, 0xA8D0, 0xA900, 0xA9D0, 0xA9F0, 0xAA50, 0xABF0,
    0xFF10, 0x104A0, 0x10D30, 0x11066, 0x110F0, 0x11136, 0x111D0, 0x112F0, 0x11450, 0x114D0,
    0x11650, 0x116C0, 0x11730, 0x118E0, 0x11950, 0x11C50, 0x11D50, 0x11DA0, 0x16A60, 0x16AC0,
    0x16B50, 0x1D7CE, 0x1D7D8, 0x1D7E2, 0x1D7EC, 0x1D7F6, 0x1E140, 0x1E2F0, 0x1E950, 0x1FBF0]

def digitOf (point : CodePoint) : Option Nat :=
  (digitZeros.find? fun first => first ≤ point.val ∧ point.val < first + 10).map (point.val - ·)

def digitsValue (digits : Str) : Nat :=
  digits.foldl (fun total digit => 10 * total + (digitOf digit).getD 0) 0

/-- `int` of a text: an optional sign and decimal digits between blanks. -/
def textInt (value : Str) : Except Fault Int :=
  let body := strip value
  let signed := body.head? = some (codePoint '-') ∨ body.head? = some (codePoint '+')
  -- Single underscores may stand between the digits.
  let parts := (if signed then body.tail else body).splitOn (codePoint '_')
  if [] ∉ parts ∧ parts.flatten.all fun point => (digitOf point).isSome then
    .ok (if body.head? = some (codePoint '-') then - (digitsValue parts.flatten : Int)
      else digitsValue parts.flatten)
  else .error ⟨.valueError, "invalid literal for int() with base 10"⟩

/-- `int` of a float, which truncates it. -/
def floatInt : Float64 → Except Fault Int
  | .finite units _ => .ok (units.tdiv Float64.unitsPerOne)
  | .negativeZero => .ok 0
  | .nan => .error ⟨.valueError, "cannot convert float NaN to integer"⟩
  | .infinity _ => .error ⟨.overflowError, "cannot convert float infinity to integer"⟩

/-- `int`. -/
def toInt : Value → Except Fault Int
  | .int value => .ok value
  | .bool value => .ok (if value then 1 else 0)
  | .float value => floatInt value
  | .str value => textInt value
  | _ => .error ⟨.typeError,
      "int() argument must be a string, a bytes-like object or a real number"⟩

end Value

end Ananta
