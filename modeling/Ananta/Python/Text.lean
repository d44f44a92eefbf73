import Mathlib

/-! Text as Python keeps it: code point sequences, trimming, case folding, and UTF-8. -/

namespace Ananta

open List

/-- One position of a Python string, where lone surrogates are admitted. -/
abbrev CodePoint := Fin 0x110000

/-- A Python string is a finite sequence of code points. -/
abbrev Str := List CodePoint

-- Named once, so that no definition proves them for itself.
instance : LawfulBEq CodePoint := inferInstance

instance : LawfulBEq Str := inferInstance

instance : LawfulBEq (Str × Str) := inferInstance

instance codePoints : NeZero 0x110000 := ⟨by decide⟩

def codePoint (character : Char) : CodePoint :=
  -- Every Unicode scalar value is a code point, so the reduction never wraps.
  Fin.ofNat 0x110000 character.toNat

/-- The Python string written by a Lean literal. -/
def text (literal : String) : Str :=
  literal.toList.map codePoint

instance : Coe String Str := ⟨text⟩

/-- `first or second` on texts. -/
def orElse (first second : Str) : Str := if first = [] then second else first

variable (point : CodePoint)

/-- The code points that `str.strip` removes from both ends. -/
def isSpace : Bool :=
  let code := point.val
  -- The ASCII controls and separators counted as white space, then the Unicode ones.
  (0x9 ≤ code ∧ code ≤ 0xD) || (0x1C ≤ code ∧ code ≤ 0x20) || code == 0x85 || code == 0xA0 ||
    code == 0x1680 || (0x2000 ≤ code ∧ code ≤ 0x200A) || code == 0x2028 || code == 0x2029 ||
    code == 0x202F || code == 0x205F || code == 0x3000

/-- `str.strip`: the text without white space at either end. -/
def strip (value : Str) : Str :=
  value.rdropWhile isSpace |>.dropWhile isSpace

/-- Trimming a trimmed text changes nothing. -/
@[simp] lemma strip_strip (value : Str) : strip (strip value) = strip value := by
  -- The last code point kept by the right trim survives the left trim, unless nothing is left.
  have right : (strip value).rdropWhile isSpace = strip value := by
    rw [rdropWhile_eq_self_iff]
    intro nonempty
    have suffix : strip value <:+ value.rdropWhile isSpace := dropWhile_suffix _
    have whole : value.rdropWhile isSpace ≠ [] := by
      intro empty
      exact nonempty (by simp [strip, empty])
    have kept := rdropWhile_last_not isSpace value whole
    obtain ⟨lead, split⟩ := suffix
    have same : (strip value).getLast nonempty = (value.rdropWhile isSpace).getLast whole := by
      simp only [← split, getLast_append_of_ne_nil _ nonempty]
    simpa [same] using kept
  -- The left trim already stopped at its first kept code point.
  unfold strip at right ⊢
  rw [right, dropWhile_idempotent]

lemma strip_eq_self {value : Str} (solid : ∀ point ∈ value, isSpace point = false) :
    strip value = value := by
  -- Neither trim finds anything to remove.
  have right : value.rdropWhile isSpace = value :=
    rdropWhile_eq_self_iff.mpr fun nonempty => by simp [solid _ (getLast_mem nonempty)]
  rw [strip, right, dropWhile_eq_self_iff]
  intro nonempty
  simp [solid _ (getElem_mem nonempty)]

def isSurrogate : Bool :=
  0xD800 ≤ point.val ∧ point.val ≤ 0xDFFF

def surrogate : CodePoint := ⟨0xD800, by decide⟩

def Encodable (value : Str) : Prop :=
  ∀ point ∈ value, isSurrogate point = false

-- The text is scanned, rather than the whole code point range.
instance (value : Str) : Decidable (Encodable value) :=
  decidableBAll (fun point => isSurrogate point = false) value

@[simp] lemma encodable_nil : Encodable [] := by
  simp [Encodable]

@[simp] lemma encodable_cons {point : CodePoint} {rest : Str} :
    Encodable (point :: rest) ↔ isSurrogate point = false ∧ Encodable rest := by
  simp [Encodable]

@[simp] lemma encodable_append {left right : Str} :
    Encodable (left ++ right) ↔ Encodable left ∧ Encodable right := by
  simp only [Encodable, mem_append, or_imp, forall_and]

/-- No ordinary character is a surrogate. -/
lemma isSurrogate_codePoint (character : Char) : isSurrogate (codePoint character) = false := by
  -- A character is a Unicode scalar value, which leaves the surrogate range out.
  have bounded : character.toNat < 0x110000 := by
    rcases character.valid with low | high
    · exact Nat.lt_trans low (by decide)
    · exact high.2
  have scalar : character.toNat < 0xD800 ∨ 0xDFFF < character.toNat := by
    rcases character.valid with low | high
    · exact .inl low
    · exact .inr high.1
  have value : (codePoint character).val = character.toNat := Nat.mod_eq_of_lt bounded
  simp only [isSurrogate, value, decide_eq_false_iff_not]
  omega

lemma encodable_characters (characters : List Char) : Encodable (characters.map codePoint) := by
  intro point member
  obtain ⟨character, _, rfl⟩ := mem_map.mp member
  exact isSurrogate_codePoint character

@[simp] lemma encodable_text (literal : String) : Encodable (text literal) :=
  encodable_characters literal.toList

lemma encodable_flatMap {value : Str} {expand : CodePoint → Str}
    (each : ∀ point ∈ value, Encodable (expand point)) : Encodable (value.flatMap expand) := by
  intro point member
  obtain ⟨source, inside, expanded⟩ := mem_flatMap.mp member
  exact each source inside point expanded

lemma Encodable.sublist {value part : Str} (encodable : Encodable value)
    (sublist : part.Sublist value) : Encodable part :=
  fun point member => encodable point (sublist.subset member)

def utf8Bytes : List UInt8 :=
  let code := point.val
  -- The leading byte announces how many continuation bytes follow.
  if code < 0x80 then [UInt8.ofNat code]
  else if code < 0x800 then
    [UInt8.ofNat (0xC0 + code / 0x40), UInt8.ofNat (0x80 + code % 0x40)]
  else if code < 0x10000 then
    [UInt8.ofNat (0xE0 + code / 0x1000), UInt8.ofNat (0x80 + code / 0x40 % 0x40),
      UInt8.ofNat (0x80 + code % 0x40)]
  else
    [UInt8.ofNat (0xF0 + code / 0x40000), UInt8.ofNat (0x80 + code / 0x1000 % 0x40),
      UInt8.ofNat (0x80 + code / 0x40 % 0x40), UInt8.ofNat (0x80 + code % 0x40)]

/-- `str.encode("utf-8")`, which refuses a text holding a surrogate. -/
def encodeUtf8 (value : Str) : Option (List UInt8) :=
  if Encodable value then some (value.flatMap utf8Bytes) else none

/-- ASCII letters and digits. -/
def isAlphanumeric : Bool :=
  let code := point.val
  (0x30 ≤ code ∧ code ≤ 0x39) || (0x41 ≤ code ∧ code ≤ 0x5A) || (0x61 ≤ code ∧ code ≤ 0x7A)

def isLowerHex : Bool :=
  let code := point.val
  (0x30 ≤ code ∧ code ≤ 0x39) || (0x61 ≤ code ∧ code ≤ 0x66)

/--
The part of `str.lower` that is visible in ASCII.

Beyond the ASCII capitals, two code points lower to ASCII letters.
These are the Kelvin sign and the dotted capital I, whose dot becomes a combining mark.
Every other code point lowers to code points outside ASCII and is left alone here.
-/
def lowerPoint : Str :=
  if 0x41 ≤ point.val ∧ point.val ≤ 0x5A then [point + 0x20]
  else if point.val = 0x212A then [codePoint 'k']
  else if point.val = 0x130 then [codePoint 'i', 0x307]
  else [point]

/-- `str.lower`, as far as comparison with an ASCII text can observe it. -/
def lower (value : Str) : Str :=
  value.flatMap lowerPoint

/-- The decimal digits of an integer, as `str` writes them. -/
def decimal (value : Int) : Str :=
  text (toString value)

end Ananta
