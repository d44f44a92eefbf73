import Ananta.Python.Text

/-! The SHA-256 digest of a byte string and its hexadecimal text. -/

namespace Ananta.Sha256

def roundConstants : List UInt32 :=
  [0x428a2f98, 0x71374491, 0xb5c0fbcf, 0xe9b5dba5, 0x3956c25b, 0x59f111f1, 0x923f82a4, 0xab1c5ed5,
    0xd807aa98, 0x12835b01, 0x243185be, 0x550c7dc3, 0x72be5d74, 0x80deb1fe, 0x9bdc06a7, 0xc19bf174,
    0xe49b69c1, 0xefbe4786, 0x0fc19dc6, 0x240ca1cc, 0x2de92c6f, 0x4a7484aa, 0x5cb0a9dc, 0x76f988da,
    0x983e5152, 0xa831c66d, 0xb00327c8, 0xbf597fc7, 0xc6e00bf3, 0xd5a79147, 0x06ca6351, 0x14292967,
    0x27b70a85, 0x2e1b2138, 0x4d2c6dfc, 0x53380d13, 0x650a7354, 0x766a0abb, 0x81c2c92e, 0x92722c85,
    0xa2bfe8a1, 0xa81a664b, 0xc24b8b70, 0xc76c51a3, 0xd192e819, 0xd6990624, 0xf40e3585, 0x106aa070,
    0x19a4c116, 0x1e376c08, 0x2748774c, 0x34b0bcb5, 0x391c0cb3, 0x4ed8aa4a, 0x5b9cca4f, 0x682e6ff3,
    0x748f82ee, 0x78a5636f, 0x84c87814, 0x8cc70208, 0x90befffa, 0xa4506ceb, 0xbef9a3f7, 0xc67178f2]

/-- The eight words carried from block to block. -/
structure Chain where
  (a b c d e f g h : UInt32)

/-- The words before the first block. -/
def initial : Chain :=
  ⟨0x6a09e667, 0xbb67ae85, 0x3c6ef372, 0xa54ff53a, 0x510e527f, 0x9b05688c, 0x1f83d9ab, 0x5be0cd19⟩

def rotate (word count : UInt32) : UInt32 :=
  (word >>> count) ||| (word <<< (32 - count))

/-- The message schedule, latest word first, extended by a number of words. -/
def extend : Nat → List UInt32 → List UInt32
  | 0, words => words
  | count + 1, words =>
    let recent := words.getD 1 0
    let distant := words.getD 14 0
    let small1 := rotate recent 17 ^^^ rotate recent 19 ^^^ (recent >>> 10)
    let small0 := rotate distant 7 ^^^ rotate distant 18 ^^^ (distant >>> 3)
    extend count ((small1 + words.getD 6 0 + small0 + words.getD 15 0) :: words)

/-- One round, mixing a schedule word and its constant into the chain. -/
def mix (chain : Chain) (word constant : UInt32) : Chain :=
  let big1 := rotate chain.e 6 ^^^ rotate chain.e 11 ^^^ rotate chain.e 25
  let choice := (chain.e &&& chain.f) ^^^ (~~~chain.e &&& chain.g)
  let first := chain.h + big1 + choice + constant + word
  let big0 := rotate chain.a 2 ^^^ rotate chain.a 13 ^^^ rotate chain.a 22
  let majority := (chain.a &&& chain.b) ^^^ (chain.a &&& chain.c) ^^^ (chain.b &&& chain.c)
  ⟨first + (big0 + majority), chain.a, chain.b, chain.c, chain.d + first, chain.e, chain.f, chain.g⟩

/-- All sixty-four rounds of one block, added back onto the chain. -/
def compress (chain : Chain) (block : List UInt32) : Chain :=
  let words := (extend 48 block.reverse).reverse
  let mixed := (words.zip roundConstants).foldl
    (fun chain (word, constant) => mix chain word constant) chain
  ⟨chain.a + mixed.a, chain.b + mixed.b, chain.c + mixed.c, chain.d + mixed.d,
    chain.e + mixed.e, chain.f + mixed.f, chain.g + mixed.g, chain.h + mixed.h⟩

variable (message : List UInt8)

/-- The message followed by one set bit, zeros to a whole block, and its bit length. -/
def pad : List UInt8 :=
  let zeros := (119 - message.length % 64) % 64
  let length := (List.range 8).map fun i =>
    UInt8.ofNat (message.length * 8 / 2 ^ (56 - 8 * i) % 256)
  message ++ [0x80] ++ List.replicate zeros 0 ++ length

def words (bytes : List UInt8) : List UInt32 :=
  (List.range (bytes.length / 4)).map fun i =>
    ((bytes.drop (4 * i)).take 4).foldl (fun word byte => word * 256 + byte.toUInt32) 0

/-- The final chain of a message. -/
def digest : Chain :=
  let stream := words (pad message)
  (List.range (stream.length / 16)).foldl
    (fun chain i => compress chain ((stream.drop (16 * i)).take 16)) initial

def wordText (word : UInt32) : Str :=
  (List.range 8).map fun i =>
    let nibble := word.toNat / 16 ^ (7 - i) % 16
    if nibble < 10 then Fin.ofNat 0x110000 (0x30 + nibble) else Fin.ofNat 0x110000 (0x57 + nibble)

/-- `hashlib.sha256(message).hexdigest()`. -/
def hexdigest : Str :=
  let chain := digest message
  [chain.a, chain.b, chain.c, chain.d, chain.e, chain.f, chain.g, chain.h].flatMap wordText

lemma wordText_lowerHex (word : UInt32) : ∀ point ∈ wordText word, isLowerHex point := by
  have digits : ∀ nibble < 16, isLowerHex
      (if nibble < 10 then Fin.ofNat 0x110000 (0x30 + nibble)
        else Fin.ofNat 0x110000 (0x57 + nibble)) := by
    decide
  intro point member
  obtain ⟨position, _, rfl⟩ := List.mem_map.mp member
  exact digits _ (Nat.mod_lt _ (by decide))

@[simp] lemma wordText_length (word : UInt32) : (wordText word).length = 8 := by
  simp [wordText]

@[simp] lemma hexdigest_length : (hexdigest message).length = 64 := by
  simp [hexdigest]

lemma hexdigest_lowerHex : ∀ point ∈ hexdigest message, isLowerHex point := by
  intro point member
  obtain ⟨word, _, inside⟩ := List.mem_flatMap.mp member
  exact wordText_lowerHex word point inside

end Ananta.Sha256
