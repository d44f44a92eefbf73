import Ananta.Python.JsonLaws
import Ananta.Python.Sha256
import Ananta.Runtime.Fault

/-! Deterministic serialization for signed and hashed contracts. -/

namespace Ananta

/-- `canonical_json`: sorted keys, compact separators, raw Unicode, no special floats. -/
def canonicalJson (value : Value) : Except Fault Str :=
  match value.dumps with
  | .ok rendered => .ok rendered
  | .error .outOfRange => .error ⟨.valueError, "Out of range float values are not JSON compliant"⟩
  | .error .notSerializable => .error ⟨.typeError, "Object is not JSON serializable"⟩

/-- `hashlib.sha256(value.encode("utf-8")).hexdigest()`. -/
def sha256Text (value : Str) : Except Fault Str :=
  match encodeUtf8 value with
  | some bytes => .ok (Sha256.hexdigest bytes)
  | none => .error ⟨.unicodeEncodeError, "surrogates not allowed"⟩

/-- `sha256_json`: the digest of the canonical text. -/
def sha256Json (value : Value) : Except Fault Str := do
  sha256Text (← canonicalJson value)

lemma canonicalJson_plain {value : Value} (plain : value.Plain) :
    ∃ rendered, canonicalJson value = .ok rendered ∧ Encodable rendered := by
  obtain ⟨rendered, written, encodable⟩ := Value.dumps_plain plain
  exact ⟨rendered, by simp only [canonicalJson, written], encodable⟩

/-- A value with an encodable canonical text is plain. -/
lemma plain_of_canonicalJson {value : Value} {rendered : Str}
    (written : canonicalJson value = .ok rendered) (encodable : Encodable rendered) :
    value.Plain := by
  unfold canonicalJson at written
  split at written
  · rename_i dumped
    cases written
    exact Value.plain_of_dumps dumped encodable
  · cases written
  · cases written

lemma sha256Text_eq_ok {value digest : Str} : sha256Text value = .ok digest ↔
      Encodable value ∧ digest = Sha256.hexdigest (value.flatMap utf8Bytes) := by
  unfold sha256Text encodeUtf8
  grind

/-- A digest is sixty-four lower-case hexadecimal digits. -/
def IsSha256 (value : Str) : Prop :=
  value.length = 64 ∧ value.all isLowerHex
  deriving Decidable

lemma isSha256_of_sha256Text {value digest : Str} (hashed : sha256Text value = .ok digest) :
    IsSha256 digest := by
  obtain ⟨_, rfl⟩ := sha256Text_eq_ok.mp hashed
  exact ⟨Sha256.hexdigest_length _, List.all_eq_true.mpr (Sha256.hexdigest_lowerHex _)⟩

lemma sha256Text_ok {value : Str} (encodable : Encodable value) :
    ∃ digest, sha256Text value = .ok digest ∧ IsSha256 digest := by
  have hashed := sha256Text_eq_ok.mpr ⟨encodable, rfl⟩
  exact ⟨_, hashed, isSha256_of_sha256Text hashed⟩

end Ananta
