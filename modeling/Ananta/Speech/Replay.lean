import Ananta.Library.Window
import Ananta.Native.Keys
import Ananta.Security.Mapping

/-! The verifier of speech evidence messages accepts every sequence number once, across epochs and
restarts. -/

namespace Ananta

open List

/-- `MESSAGE_TYPES`. -/
inductive EvidenceType where
  | inventory
  | diff
  | offer
  | chunk
  | chunkAck
  | resolution
  | receipt
  | revocation
  | revocationAck
  deriving DecidableEq

def evidenceTypes : List (String × EvidenceType) :=
  [("inventory", .inventory), ("diff", .diff), ("offer", .offer), ("chunk", .chunk),
    ("chunk_ack", .chunkAck), ("resolution", .resolution), ("receipt", .receipt),
    ("revocation", .revocation), ("revocation_ack", .revocationAck)]

def EvidenceType.traffic (messageType : EvidenceType) : Str :=
  if messageType = .chunk then "evidence_bulk" else "control"

/-- `SUPPORTED_PROTOCOL_VERSIONS`. -/
def evidenceVersions : List Str :=
  ["ananta.speech-evidence-sync.v1", "ananta.speech-evidence-sync.v2"]

/-- `SpeechEvidenceHeader`, of the one signature algorithm. -/
structure EvidenceHeader where
  protocolVersion : Str
  messageType : EvidenceType
  (messageId sessionId pairId senderId audienceId : Str)
  (epoch sequence consentVersion : Int)
  keyId : Str
  issuedAtMs : Int
  expiresAtMs : Int
  payloadDigest : Str
  signatureB64 : Str
  deriving DecidableEq

def replayReasons : List String := ["speech_evidence_sequence_stale", "speech_evidence_replayed"]

/-- How the validators of payloads call what is wrong with a subject. -/
inductive PayloadFlaw where
  | invalid | inconsistent | mismatch | duplicate | oversized | required | forbidden | missing
  | unsupported | field

/-- The last word of a reason. -/
def PayloadFlaw.word : PayloadFlaw → String
  | .invalid => "invalid"
  | .inconsistent => "inconsistent"
  | .mismatch => "mismatch"
  | .duplicate => "duplicate"
  | .oversized => "oversized"
  | .required => "required"
  | .forbidden => "forbidden"
  | .missing => "missing"
  | .unsupported => "unsupported"
  | .field => "field"

/-- The reason that a validator gives for a flaw of a subject, such as
`speech_evidence_groups_invalid`. -/
def payloadReason (subject : String) (flaw : PayloadFlaw) : String :=
  "speech_evidence_" ++ subject ++ ("_" ++ flaw.word)

/-- The validators have reasons of their own, as their last words tell. -/
lemma payloadReason_not_mem (subject : String) (flaw : PayloadFlaw) :
    payloadReason subject flaw ∉ replayReasons := by
  intro listed
  have ending : ("_" ++ flaw.word).toList <:+ (payloadReason subject flaw).toList :=
    ⟨("speech_evidence_" ++ subject).toList, String.toList_append.symm⟩
  have apart : ∀ reason ∈ replayReasons, ¬ ("_" ++ flaw.word).toList <:+ reason.toList := by
    cases flaw <;> decide +kernel
  exact apart _ listed ending

/-- What a call asks of the key directory, the signature and digest functions and the payload
validators. -/
structure EvidencePorts where
  b64decode : Str → Option (List UInt8)
  resolve : EvidenceHeader → Option Nat
  signed : Nat → List UInt8 → EvidenceHeader → Bool
  canonicalSha256 : Value → Option Str
  validatePayload : EvidenceHeader → Value → Except (String × PayloadFlaw) Unit

/-- `MAX_SEQUENCE`. -/
def maxSequence : Int := 9007199254740991

/-- `_TOP_LEVEL_FIELDS`. -/
def evidenceFields : List Str :=
  ["protocol_version", "message_type", "message_id", "session_id", "pair_id", "sender_id",
    "audience_id", "epoch", "sequence", "consent_version", "key_id", "issued_at_ms",
      "expires_at_ms", "payload_digest", "payload", "signature_algorithm",
    "signature_b64"].map text

/-- `_ID_RE`. -/
def isEvidenceIdentifier : Str → Bool
  | [] => false
  | first :: rest =>
    isAlphanumeric first && rest.length ≤ 127 && rest.all fun point => isAlphanumeric point ||
      point ∈ text "._:-"

/-- `_identifier`. -/
def evidenceIdentifier (value : Value) (reason : String) : Except String Str :=
  match value with
  | .str name => do
    raiseIf (["/", "file:", "data:", "~"].any (fun start => (text start).isPrefixOf name) ∨
      ".." <:+: name ∨ codePoint '\\' ∈ name) "speech_evidence_private_path_forbidden"
    raiseIf (isEvidenceIdentifier name = false) reason
    pure name
  | _ => .error reason

/-- `_digest`. -/
def evidenceDigest (value : Value) (reason : String) : Except String Str :=
  match value with
  | .str digest => if digest.length = 64 ∧ digest.all isLowerHex then .ok digest else .error reason
  | _ => .error reason

/-- `_integer`. -/
def evidenceInteger (value : Value) (low high : Int) (reason : String) : Except String Int :=
  match value with
  | .int number => if low ≤ number ∧ number ≤ high then .ok number else .error reason
  | _ => .error reason

/-- `_mapping`. -/
def evidenceMapping (value : Value) (reason : String) : Except String Fields :=
  match value with
  | .dict fields => .ok fields
  | _ => .error reason

/-- `_signature_bytes`. -/
def signatureBytes (ports : EvidencePorts) (value : Str) : Except String (List UInt8) :=
  match ports.b64decode value with
  | some decoded =>
    if value ≠ [] ∧ value.length ≤ 100000 ∧ decoded.length = 64 then .ok decoded
    else .error "speech_evidence_signature_invalid"
  | none => .error "speech_evidence_signature_invalid"

/-- `parse_header`. -/
def parseHeader (ports : EvidencePorts) (raw : Fields) : Except String EvidenceHeader := do
  raiseIf (∃ field ∈ raw, field.1 ∉ evidenceFields) "speech_evidence_unknown_field"
  raiseIf (∃ name ∈ evidenceFields, name ∉ raw.map Prod.fst)
    "speech_evidence_required_field_missing"
  let protocolVersion := textAt raw "protocol_version"
  raiseIf (protocolVersion ∉ evidenceVersions) "speech_evidence_version_unsupported"
  let messageType ← (evidenceTypes.find? fun row => text row.1 = textAt raw "message_type").elim
    (.error "speech_evidence_type_unsupported") fun row => .ok row.2
  raiseIf (payloadGet raw "signature_algorithm" ≠ .str "Ed25519")
    "speech_evidence_signature_algorithm_unsupported"
  let messageId ← evidenceIdentifier (payloadGet raw "message_id")
    "speech_evidence_message_id_invalid"
  let sessionId ← evidenceIdentifier (payloadGet raw "session_id") "speech_evidence_session_invalid"
  let pairId ← evidenceIdentifier (payloadGet raw "pair_id") "speech_evidence_pair_invalid"
  let senderId ← evidenceIdentifier (payloadGet raw "sender_id") "speech_evidence_sender_invalid"
  let audienceId ← evidenceIdentifier (payloadGet raw "audience_id")
    "speech_evidence_audience_invalid"
  let epoch ← evidenceInteger (payloadGet raw "epoch") 1 (2 ^ 31 - 1)
    "speech_evidence_epoch_invalid"
  let sequence ← evidenceInteger (payloadGet raw "sequence")
    1 maxSequence "speech_evidence_sequence_invalid"
  let consentVersion ←
    evidenceInteger (payloadGet raw "consent_version") 1 (2 ^ 31 - 1)
      "speech_evidence_consent_version_invalid"
  let keyId ← evidenceIdentifier (payloadGet raw "key_id") "speech_evidence_key_id_invalid"
  let issuedAtMs ← evidenceInteger (payloadGet raw "issued_at_ms")
    1 maxSequence "speech_evidence_issued_at_invalid"
  let expiresAtMs ← evidenceInteger (payloadGet raw "expires_at_ms")
    1 maxSequence "speech_evidence_expiry_invalid"
  let payloadDigest ← evidenceDigest (payloadGet raw "payload_digest")
    "speech_evidence_payload_digest_invalid"
  let signatureB64 := textAt raw "signature_b64"
  let _ ← signatureBytes ports signatureB64
  raiseIf (senderId = audienceId) "speech_evidence_reflection_detected"
  let payload ← evidenceMapping (payloadGet raw "payload") "speech_evidence_payload_invalid"
  raiseIf (payloadGet payload "traffic_class" ≠ .str messageType.traffic)
    "speech_evidence_traffic_class_invalid"
  pure { protocolVersion, messageType, messageId, sessionId, pairId, senderId, audienceId, epoch,
         sequence, consentVersion, keyId, issuedAtMs, expiresAtMs, payloadDigest, signatureB64 }

/-- The context in which sequence numbers are counted. -/
structure ReplayKey where
  (sessionId pairId senderId : Str)
  epoch : Int
  messageClass : Str
  deriving DecidableEq

def ReplayKey.parts (key : ReplayKey) : List Str :=
  [key.sessionId, key.pairId, key.senderId, decimal key.epoch, key.messageClass]

/-- `_replay_key`. -/
def ReplayKey.encoded (key : ReplayKey) : Str := [(0 : CodePoint)].intercalate key.parts

/-- The context of a message. -/
def EvidenceHeader.replayKey (header : EvidenceHeader) : ReplayKey :=
  ⟨header.sessionId, header.pairId, header.senderId, header.epoch, header.messageType.traffic⟩

/-- The limits of a window, as its constructor admits them. -/
structure ReplayPolicy where
  width : Nat
  maximum : Nat
  valid : (32 ≤ width ∧ width ≤ 4096) ∧ 1 ≤ maximum ∧ maximum ≤ 100000

/-- `format(value, "x")`. -/
def hexText (value : Nat) : Str :=
  if value = 0 then "0" else (Nat.digits 16 value).reverse.map Value.hexDigit

/-- The value of a hexadecimal digit. -/
def nibble (point : CodePoint) : Nat := if point.val < 0x61 then point.val - 0x30
    else point.val - 0x57

/-- `int(value, 16)`, on the digits that `format` writes. -/
def hexNat (value : Str) : Option Nat :=
  if value ≠ [] ∧ value.all isLowerHex
    then some (value.foldl (fun total point => 16 * total + nibble point) 0) else none

/-- What a window saves: the highest number and the hexadecimal bitmap of each context. -/
structure ReplaySnapshot where
  version : Int
  width : Nat
  entries : Dict Str (Int × Str)

/-- `snapshot`. -/
def ReplayPolicy.snapshot (policy : ReplayPolicy) (entries : Dict Str Window) : ReplaySnapshot :=
  ⟨1, policy.width, entries.map fun _ window => (window.highest, hexText window.bitmap)⟩

/-- The window of one saved context, if it is valid. -/
def ReplayPolicy.restoredEntry (policy : ReplayPolicy) (raw : Int × Str) : Option Window :=
  if 1 ≤ raw.1 ∧ raw.1 ≤ maxSequence then
    (hexNat raw.2).bind fun bitmap => if 0 < bitmap ∧ bitmap < 1 <<< policy.width
      then some ⟨raw.1, bitmap⟩ else none
  else none

/-- `_restore`. -/
def ReplayPolicy.restore (policy : ReplayPolicy) (saved : Option ReplaySnapshot) :
    Dict Str Window :=
  match saved with
  | none => .empty
  | some value =>
    if value.version ≠ 1 ∨ value.width ≠ policy.width ∨
      policy.maximum < value.entries.entries.length then .empty
    else value.entries.filterMap policy.restoredEntry

/-- `check`. -/
def ReplayPolicy.check (policy : ReplayPolicy) (entries : Dict Str Window) (key : ReplayKey)
    (sequence : Int) : Option String :=
  match entries.get? key.encoded with
  | none => none
  | some window =>
    if window.highest < sequence then none
    else if policy.width ≤ (window.highest - sequence).toNat
      then some "speech_evidence_sequence_stale"
    else if window.bitmap &&& (1 <<< (window.highest - sequence).toNat) ≠ 0
      then some "speech_evidence_replayed"
    else none

/-- The entry of a context with one more sequence number. -/
def ReplayPolicy.marked (policy : ReplayPolicy) (entries : Dict Str Window) (key : ReplayKey)
    (sequence : Int) : Window :=
  match entries.get? key.encoded with
  | none => ⟨sequence, 1⟩
  | some window => window.mark policy.width sequence

/-- `commit`: the context becomes the latest one, and the oldest ones make room. -/
def ReplayPolicy.commit (policy : ReplayPolicy) (entries : Dict Str Window) (key : ReplayKey)
    (sequence : Int) : Dict Str Window :=
  ((entries.erase key.encoded).set key.encoded (policy.marked entries key sequence)).newest
    policy.maximum

def retains (sessionId pairId : Str) (minimumEpoch : Int) (encoded : Str) : Except String Bool :=
  match encoded.splitOn 0 with
  | [rawSession, rawPair, _, rawEpoch, _] =>
    if rawSession = sessionId ∧ rawPair = pairId then
      match Value.textInt rawEpoch with
      | .ok epoch => .ok (minimumEpoch ≤ epoch)
      | .error fault => .error fault.message
    else .ok true
  | _ => .error "not enough values to unpack"

/-- `advance_epoch`, up to saving. -/
def advanceEpoch (entries : Dict Str Window) (sessionId pairId : Str) (minimumEpoch : Int) :
    Except String (Dict Str Window) := do
  raiseIf (minimumEpoch < 1) "speech_replay_epoch_invalid"
  entries.keys.forM fun encoded => discard (retains sessionId pairId minimumEpoch encoded)
  pure (entries.filter fun encoded _ =>
    retains sessionId pairId minimumEpoch encoded matches .ok true)

/-- One call of `verify`: what `parse_bounded_message` made of the message, what is expected, and
the clock. -/
structure EvidenceCall where
  ports : EvidencePorts
  raw : Except String Fields
  now : Int
  (expectedSessionId expectedPairId expectedAudienceId : Str)
  expectedEpoch : Int
  expectedConsentVersion : Int

def EvidenceCall.header (call : EvidenceCall) : Except String EvidenceHeader := do
  parseHeader call.ports (← call.raw)

/-- The checks before the replay window. -/
def EvidenceCall.bindings (call : EvidenceCall) (header : EvidenceHeader) : Except String Unit := do
  raiseIf (header.sessionId ≠ call.expectedSessionId ∨ header.pairId ≠ call.expectedPairId)
    "speech_evidence_wrong_pair"
  raiseIf (header.audienceId ≠ call.expectedAudienceId) "speech_evidence_wrong_audience"
  raiseIf (header.epoch ≠ call.expectedEpoch) "speech_evidence_epoch_stale"
  raiseIf (header.consentVersion ≠ call.expectedConsentVersion) "speech_evidence_consent_stale"
  -- `MAX_CLOCK_SKEW_MS` and `MAX_MESSAGE_TTL_MS`.
  raiseIf (header.expiresAtMs ≤ call.now ∨ call.now + 30000 < header.issuedAtMs)
    "speech_evidence_expired"
  raiseIf (header.issuedAtMs + 600000 < header.expiresAtMs) "speech_evidence_ttl_invalid"

/-- The checks behind the replay window. -/
def EvidenceCall.authenticates (call : EvidenceCall) (header : EvidenceHeader) :
    Except String Unit := do
  let raw ← call.raw
  let publicKey ← (call.ports.resolve header).elim (.error "speech_evidence_key_unknown") .ok
  let signature ← signatureBytes call.ports header.signatureB64
  raiseIf (call.ports.signed publicKey signature header = false) "speech_evidence_signature_invalid"
  let payload ← evidenceMapping (payloadGet raw "payload") "speech_evidence_payload_invalid"
  let digest ← (call.ports.canonicalSha256 (.dict payload)).elim
    (.error "Out of range float values are not JSON compliant") .ok
  raiseIf (digest ≠ header.payloadDigest) "speech_evidence_payload_digest_mismatch"
  (call.ports.validatePayload header (.dict payload)).mapError fun flaw =>
    payloadReason flaw.1 flaw.2

/-- `verify`: the accepted header, and the entries of the window with its sequence number. -/
def EvidenceCall.verify (call : EvidenceCall) (policy : ReplayPolicy) (entries : Dict Str Window) :
    Except String (EvidenceHeader × Dict Str Window) := do
  let header ← call.header
  call.bindings header
  match policy.check entries header.replayKey header.sequence with
  | some reason => .error reason
  | none => do
    call.authenticates header
    pure (header, policy.commit entries header.replayKey header.sequence)

/-- The window in memory, and what its port has saved last. -/
structure ReplayState where
  entries : Dict Str Window
  saved : Option ReplaySnapshot

/-- What happens to a verifier. -/
inductive EvidenceInput where
  | verify (call : EvidenceCall)
  | advanceEpoch (sessionId pairId : Str) (minimumEpoch : Int)
  | restart

def evidenceVerifier (policy : ReplayPolicy) :
    Machine ReplayState EvidenceInput (Except String (Option EvidenceHeader)) where
  initial := ⟨policy.restore none, none⟩
  step state
    | .verify call => match call.verify policy state.entries with
      | .ok (header, entries) => (.ok (some header), ⟨entries, some (policy.snapshot entries)⟩)
      | .error reason => (.error reason, state)
    | .advanceEpoch sessionId pairId minimumEpoch =>
        match advanceEpoch state.entries sessionId pairId minimumEpoch with
      | .ok entries => (.ok none, ⟨entries, some (policy.snapshot entries)⟩)
      | .error reason => (.error reason, state)
    | .restart => (.ok none, { state with entries := policy.restore state.saved })

def acceptedHeader : Except String (Option EvidenceHeader) → Option EvidenceHeader
  | .ok header => header
  | .error _ => none

def acceptedHeaders (policy : ReplayPolicy) (inputs : List EvidenceInput) : List EvidenceHeader :=
  ((evidenceVerifier policy).answers (evidenceVerifier policy).initial inputs).filterMap
    acceptedHeader

/-- After an epoch has begun for a pair, only that epoch and later ones are expected for it. -/
def EvidenceInput.Rises : EvidenceInput → EvidenceInput → Prop
  | .advanceEpoch sessionId pairId minimumEpoch, .verify call =>
    call.expectedSessionId = sessionId → call.expectedPairId = pairId →
      minimumEpoch ≤ call.expectedEpoch
  | _, _ => True

variable {digit : Nat}

lemma nibble_hexDigit (small : digit < 16) : nibble (Value.hexDigit digit) = digit := by
  decide +revert

lemma isLowerHex_hexDigit (small : digit < 16) : isLowerHex (Value.hexDigit digit) = true := by
  decide +revert

/-- A bitmap is read back as it was written. -/
lemma hexNat_hexText {value : Nat} (pos : 0 < value) : hexNat (hexText value) = some value := by
  have small : ∀ digit ∈ Nat.digits 16 value, digit < 16 :=
    fun digit => Nat.digits_lt_base (by decide)
  have nonempty : Nat.digits 16 value ≠ [] := Nat.digits_ne_nil_iff_ne_zero.mpr pos.ne'
  have each : ∀ point ∈ (Nat.digits 16 value).reverse.map Value.hexDigit,
      isLowerHex point = true := by
    intro point listed
    obtain ⟨digit, member, rfl⟩ := mem_map.mp listed
    exact isLowerHex_hexDigit (small digit (mem_reverse.mp member))
  rw [hexText, if_neg pos.ne', hexNat, if_pos ⟨by simpa using nonempty, all_eq_true.mpr each⟩]
  congr 1
  calc
    ((Nat.digits 16 value).reverse.map Value.hexDigit).foldl
        (fun total point => 16 * total + nibble point) 0
    _ = (Nat.digits 16 value).foldr
        (fun digit total => 16 * total + nibble (Value.hexDigit digit)) 0 := by
      rw [foldl_map, foldl_reverse]
    _ = (Nat.digits 16 value).foldr (fun digit total => digit + 16 * total) 0 := by
      refine foldr_ext _ _ _ fun digit member total => ?_
      rw [nibble_hexDigit (small digit member), Nat.add_comm]
    _ = value := by
      exact (Nat.ofDigits_eq_foldr 16 _).symm.trans (Nat.ofDigits_digits 16 value)

/-- An epoch is read back as it was written. -/
lemma textInt_decimal {value : Int} (nonneg : 0 ≤ value) :
    Value.textInt (decimal value) = .ok value := by
  have written := decimal_of_nonneg nonneg
  have digit : ∀ point ∈ decimal value, 0x30 ≤ point.val ∧ point.val ≤ 0x39 := by
    intro point listed
    rw [written] at listed
    obtain ⟨character, member, rfl⟩ := mem_map.mp listed
    have isDigit := Nat.isDigit_of_mem_toDigits (by decide) (by decide) member
    rw [val_codePoint]
    simpa [Char.isDigit, UInt32.le_iff_toNat_le] using isDigit
  have nonempty : decimal value ≠ [] := by
    rw [written]
    simp [Nat.toDigits_ne_nil]
  -- Digits are neither blanks, signs nor underscores.
  have solid : strip (decimal value) = decimal value := by
    have blank : ∀ point ∈ decimal value, ¬ isSpace point = true := by
      intro point listed
      have range := digit point listed
      unfold isSpace
      simp
      omega
    rw [strip, rdropWhile_eq_self_iff.mpr fun whole => blank _ (getLast_mem whole)]
    cases listed : decimal value with
    | nil => rfl
    | cons point rest => exact dropWhile_cons_of_neg (blank point (listed ▸ mem_cons_self ..))
  have unsigned : ∀ sign : CodePoint, sign.val < 0x30 → (decimal value).head? ≠ some sign := by
    intro sign low first
    have range := digit sign (mem_of_head? first)
    omega
  have parts : (decimal value).splitOn (codePoint '_') = [decimal value] := by
    have whole : ∀ part ∈ [decimal value], codePoint '_' ∉ part := by
      intro part listed underscore
      rw [mem_singleton.mp listed] at underscore
      exact absurd (digit _ underscore).2 (by decide)
    simpa using splitOn_intercalate _ whole (cons_ne_nil _ _)
  have reads : ∀ point ∈ decimal value, Value.digitOf point = some (point.val - 0x30) := by
    intro point listed
    have range := digit point listed
    rw [Value.digitOf, Value.digitZeros, find?_cons_of_pos (by simp; omega)]
    rfl
  unfold Value.textInt
  dsimp only
  rw [solid, if_neg (not_or.mpr ⟨unsigned _ (by decide), unsigned _ (by decide)⟩),
    if_neg (unsigned _ (by decide)), parts, flatten_singleton,
      if_pos ⟨by simpa using nonempty.symm, all_eq_true.mpr fun point listed => by
      rw [reads point listed]; rfl⟩]
  congr 1
  have total : Value.digitsValue (decimal value) = value.toNat := by
    rw [Value.digitsValue, foldl_ext _ (fun total point => 10 * total + (point.val - 0x30))
      _ fun total point listed => by
      rw [reads point listed]; rfl]
    rw [written, foldl_map]
    simp only [val_codePoint]
    exact Nat.ofDigitChars_toDigits (by decide) (by decide)
  omega

variable {key other : ReplayKey}

structure ReplayKey.Valid (key : ReplayKey) : Prop where
  parts : ∀ part ∈ key.parts, (0 : CodePoint) ∉ part
  epoch : 0 ≤ key.epoch

lemma ReplayKey.Valid.splitOn (valid : key.Valid) : key.encoded.splitOn 0 = key.parts :=
  splitOn_intercalate 0 valid.parts (cons_ne_nil _ _)

/-- Distinct contexts are encoded in distinct ways. -/
lemma ReplayKey.Valid.inj (valid : key.Valid) (valid' : other.Valid)
    (same : key.encoded = other.encoded) : key = other := by
  have parts := valid.splitOn
  rw [same, valid'.splitOn] at parts
  obtain ⟨_, _, _, _, _⟩ := key
  simp only [ReplayKey.parts, cons.injEq, and_true] at parts
  obtain ⟨rfl, rfl, rfl, epoch, rfl⟩ := parts
  cases decimal_inj valid'.epoch valid.epoch epoch
  rfl

/-- The beginning of an epoch retains the other pairs, and the epoch and later ones. -/
lemma ReplayKey.Valid.retains (valid : key.Valid) (sessionId pairId : Str) (minimumEpoch : Int) :
    retains sessionId pairId minimumEpoch key.encoded =
      .ok (key.sessionId = sessionId ∧ key.pairId = pairId → minimumEpoch ≤ key.epoch) := by
  unfold Ananta.retains
  rw [valid.splitOn, ReplayKey.parts]
  dsimp only
  rw [textInt_decimal valid.epoch]
  grind

variable {ports : EvidencePorts}

variable {name : Str} {value : Value} {reason : String}

lemma zero_not_mem_identifier (valid : isEvidenceIdentifier name = true) :
    (0 : CodePoint) ∉ name := by
  intro zero
  cases name with
  | nil => cases zero
  | cons first rest =>
    simp only [isEvidenceIdentifier, Bool.and_eq_true, all_eq_true] at valid
    rcases mem_cons.mp zero with same | later
    · rw [← same] at valid
      exact absurd valid.1.1 (by decide)
    · exact absurd (valid.2 _ later) (by decide)

lemma evidenceIdentifier_spec (valid : evidenceIdentifier value reason = .ok name) :
    (0 : CodePoint) ∉ name := by
  unfold evidenceIdentifier at valid
  split at valid
  · simp only [ok_iff] at valid
    obtain ⟨_, _, _, matched, rfl⟩ := valid
    exact zero_not_mem_identifier (Bool.eq_true_of_not_eq_false matched)
  · cases valid

lemma evidenceInteger_spec {low high number : Int}
    (valid : evidenceInteger value low high reason = .ok number) :
    low ≤ number ∧ number ≤ high := by
  unfold evidenceInteger at valid
  grind

lemma EvidenceType.zero_not_mem_traffic (messageType : EvidenceType) :
    (0 : CodePoint) ∉ messageType.traffic := by
  cases messageType <;> decide

lemma zero_not_mem_decimal (value : Int) : (0 : CodePoint) ∉ decimal value := by
  intro zero
  rcases mem_decimal zero with sign | ⟨digit, isDigit, same⟩
  · exact absurd sign (by decide)
  · have code := congrArg Fin.val same
    rw [val_codePoint] at code
    have low : 48 ≤ digit.toNat := by
      simp [Char.isDigit, UInt32.le_iff_toNat_le] at isDigit
      exact isDigit.1
    omega

/-- A header that has been read has a valid context and sequence number. -/
lemma parseHeader_spec {raw : Fields} {header : EvidenceHeader}
    (parsed : parseHeader ports raw = .ok header) :
    header.replayKey.Valid ∧ 1 ≤ header.sequence ∧ header.sequence ≤ maxSequence := by
  simp only [parseHeader, ok_iff] at parsed
  obtain ⟨_, _, _, _, _, _, messageType, _, _, _, _, _, sessionId, session, pairId, pair, senderId,
    sender, _, _, epoch, epochs, sequence, sequences, _, _, _, _, _, _, _, _, _, _, _, _, _, _, _,
      _, _, _, rfl⟩ := parsed
  refine ⟨⟨?_, ?_⟩, evidenceInteger_spec sequences⟩
  · simp only [ReplayKey.parts, EvidenceHeader.replayKey, forall_mem_cons]
    exact ⟨evidenceIdentifier_spec session, evidenceIdentifier_spec pair,
      evidenceIdentifier_spec sender, zero_not_mem_decimal _, EvidenceType.zero_not_mem_traffic _,
        forall_mem_nil _⟩
  · exact zero_le_one.trans (evidenceInteger_spec epochs).1

variable {policy : ReplayPolicy} {accepted : List EvidenceHeader} {entries : Dict Str Window}
  {sequence : Int}

/-- A sequence number has been accepted in a context. -/
def SeenIn (accepted : List EvidenceHeader) (key : ReplayKey) (number : Int) : Prop :=
  ∃ header ∈ accepted, header.replayKey = key ∧ header.sequence = number

/-- The entries of a window represent what has been accepted in their contexts. -/
structure Contexts (policy : ReplayPolicy) (accepted : List EvidenceHeader)
    (entries : Dict Str Window) : Prop where
  valid : ∀ header ∈ accepted, header.replayKey.Valid ∧ 1 ≤ header.sequence ∧
    header.sequence ≤ maxSequence
  known : ∀ encoded window, entries.get? encoded = some window →
    ∃ header ∈ accepted, header.replayKey.encoded = encoded
  tracked : ∀ key window, key.Valid → entries.get? key.encoded = some window →
    window.Tracks policy.width (SeenIn accepted key)

variable {keys : List ReplayKey}

section

variable (contexts : Contexts policy accepted entries)
include contexts

/-- There are as many entries as contexts at most. -/
lemma Contexts.length_le
    (used : ∀ header ∈ accepted, header.replayKey ∈ keys) :
    entries.entries.length ≤ keys.length := by
  have listed : entries.keys ⊆ keys.map ReplayKey.encoded := by
    intro encoded member
    obtain ⟨window, found⟩ := Option.isSome_iff_exists.mp (Dict.mem_keys.mp member)
    obtain ⟨header, accepted, rfl⟩ := contexts.known encoded window found
    exact mem_map_of_mem (used header accepted)
  have length := (subperm_of_subset entries.distinct listed).length_le
  simpa using length

/-- Entries that represent something are restored as they were saved. -/
lemma Contexts.restore (few : entries.entries.length ≤ policy.maximum) :
    policy.restore (some (policy.snapshot entries)) = entries := by
  have wide : 0 < policy.width := lt_of_lt_of_le (by decide) policy.valid.1.1
  have each : ∀ entry ∈ entries.entries,
      (policy.restoredEntry (entry.2.highest, hexText entry.2.bitmap)).map (entry.1, ·) =
        some entry := by
    rintro ⟨encoded, window⟩ listed
    have found := get?_eq_some_iff.mpr listed
    obtain ⟨header, member, rfl⟩ := contexts.known encoded window found
    have tracks := contexts.tracked _ window (contexts.valid header member).1 found
    obtain ⟨top, counted, _, highest⟩ := tracks.top
    have range := (contexts.valid top counted).2
    rw [highest] at range
    unfold ReplayPolicy.restoredEntry
    rw [if_pos range, hexNat_hexText (tracks.pos wide), Option.bind_some, Nat.one_shiftLeft,
      if_pos ⟨tracks.pos wide, tracks.bounded⟩]
    rfl
  unfold ReplayPolicy.restore ReplayPolicy.snapshot
  dsimp only
  rw [if_neg (by simpa [Dict.map] using few)]
  refine Dict.ext ?_
  simp only [Dict.filterMap, Dict.map, filterMap_map]
  calc entries.entries.filterMap _
    _ = entries.entries.filterMap some := filterMap_congr each
    _ = entries.entries := filterMap_some

/-- The window refuses what has been accepted, and what lies too far below. -/
lemma Contexts.check_iff (valid : key.Valid)
    (present : entries.get? key.encoded = none → ∀ header ∈ accepted, header.replayKey ≠ key) :
    policy.check entries key sequence ≠ none ↔
      SeenIn accepted key sequence ∨ ∃ number, SeenIn accepted key number ∧
        sequence + policy.width ≤ number := by
  unfold ReplayPolicy.check
  split
  · rename_i absent
    refine iff_of_false (fun some => some rfl) ?_
    rintro (⟨header, member, same, _⟩ | ⟨_, ⟨header, member, same, _⟩, _⟩)
    · exact present absent header member same
    · exact present absent header member same
  · rename_i window found
    have tracks := contexts.tracked key window valid found
    split
    · refine iff_of_false (fun some => some rfl) ?_
      rintro (seen | ⟨number, seen, far⟩)
      · exact absurd (tracks.most _ seen) (by omega)
      · exact absurd (tracks.most _ seen) (by omega)
    · split
      · exact iff_of_true nofun (.inr ⟨window.highest, tracks.top, by omega⟩)
      · have bit := tracks.bits (window.highest - sequence).toNat (by omega)
        have same : window.highest - ((window.highest - sequence).toNat : Int) = sequence := by
          omega
        rw [same] at bit
        have none : ¬ ∃ number, SeenIn accepted key number ∧ sequence + policy.width ≤ number := by
          rintro ⟨number, seen, far⟩
          exact absurd (tracks.most _ seen) (by omega)
        rw [or_iff_left none, ← bit, Nat.one_shiftLeft, Nat.and_two_pow]
        cases window.bitmap.testBit (window.highest - sequence).toNat <;> simp

omit contexts in
lemma check_mem (refused : policy.check entries key sequence = some reason) :
    reason ∈ replayReasons := by
  unfold ReplayPolicy.check at refused
  repeat' split at refused
  all_goals cases refused
  all_goals decide

/-- A sequence number that has been checked is committed to its context. -/
lemma Contexts.commit {header : EvidenceHeader}
    (few : keys.length ≤ policy.maximum)
    (used : ∀ other ∈ accepted ++ [header], other.replayKey ∈ keys)
    (valid : header.replayKey.Valid ∧ 1 ≤ header.sequence ∧ header.sequence ≤ maxSequence)
    (present : entries.get? header.replayKey.encoded = none →
      ∀ other ∈ accepted, other.replayKey ≠ header.replayKey)
    (passed : policy.check entries header.replayKey header.sequence = none) :
    Contexts policy (accepted ++ [header])
      (policy.commit entries header.replayKey header.sequence) ∧
      ∀ encoded, (policy.commit entries header.replayKey header.sequence).get? encoded = none →
        encoded ≠ header.replayKey.encoded ∧ entries.get? encoded = none := by
  have wide : 0 < policy.width := lt_of_lt_of_le (by decide) policy.valid.1.1
  have seen : ∀ key number, SeenIn (accepted ++ [header]) key number ↔
      SeenIn accepted key number ∨ header.replayKey = key ∧ header.sequence = number := by
    intro key number
    simp only [SeenIn, mem_append, mem_singleton, or_and_right, exists_or, exists_eq_left]
  have tracks : (policy.marked entries header.replayKey header.sequence).Tracks policy.width
      (SeenIn (accepted ++ [header]) header.replayKey) := by
    unfold ReplayPolicy.marked
    split
    · rename_i absent
      refine (Window.tracks_first wide header.sequence).congr fun number => ?_
      rw [seen, or_iff_right]
      · simp [eq_comm]
      · rintro ⟨other, member, same, _⟩
        exact present absent other member same
    · rename_i window found
      have old := contexts.tracked _ window valid.1 found
      -- A number too far behind the highest one would not have passed.
      have near : window.highest - header.sequence < policy.width := by
        by_contra far
        have above : header.sequence + policy.width ≤ window.highest := by
          omega
        exact (contexts.check_iff valid.1 present).mpr (.inr ⟨window.highest, old.top, above⟩)
          passed
      refine (old.mark near).congr fun number => ?_
      rw [seen, eq_comm (a := number)]
      simp
  unfold ReplayPolicy.commit
  generalize policy.marked entries header.replayKey header.sequence = window at tracks ⊢
  generalize written : (entries.erase header.replayKey.encoded).set header.replayKey.encoded
    window = later
  have lookup : ∀ encoded, later.get? encoded = if encoded = header.replayKey.encoded
      then some window else entries.get? encoded := by
    intro encoded
    rw [← written, get?_set]
    split
    · rfl
    · rename_i differs
      rw [get?_erase, if_neg differs]
  have next : Contexts policy (accepted ++ [header]) later := by
    refine ⟨?_, fun encoded other found => ?_, fun key other keyValid found => ?_⟩
    · exact forall_mem_append.mpr ⟨contexts.valid, forall_mem_singleton.mpr valid⟩
    · rw [lookup] at found
      split at found
      · rename_i same
        exact ⟨header, mem_append_right _ (mem_singleton_self _), same.symm⟩
      · obtain ⟨old, member, same⟩ := contexts.known encoded other found
        exact ⟨old, mem_append_left _ member, same⟩
    · rw [lookup] at found
      split at found
      · rename_i same
        cases found
        cases keyValid.inj valid.1 same
        exact tracks
      · refine (contexts.tracked key other keyValid found).congr fun number => ?_
        grind
  have all : later.newest policy.maximum = later := by
    have short := (next.length_le used).trans few
    refine Dict.ext ?_
    simp only [Dict.newest, Nat.sub_eq_zero_of_le short, drop_zero]
  grind

end

variable {inputs : List EvidenceInput} {input : EvidenceInput} {state : ReplayState}
  {call : EvidenceCall} {header : EvidenceHeader}

/-- The context belongs to an epoch that is over. -/
def ReplayKey.Dropped (key : ReplayKey) (inputs : List EvidenceInput) : Prop :=
  ∃ minimumEpoch, .advanceEpoch key.sessionId key.pairId minimumEpoch ∈ inputs ∧
    key.epoch < minimumEpoch

lemma ReplayKey.Dropped.append (dropped : key.Dropped inputs) : key.Dropped (inputs ++ [input]) :=
  dropped.imp fun _ both => ⟨mem_append_left _ both.1, both.2⟩

/-- What holds of a verifier after a run: its window has forgotten nothing but epochs that are
over. -/
structure Replays (policy : ReplayPolicy) (inputs : List EvidenceInput)
    (accepted : List EvidenceHeader) (state : ReplayState) : Prop where
  contexts : Contexts policy accepted state.entries
  missed : ∀ header ∈ accepted, state.entries.get? header.replayKey.encoded = none →
    header.replayKey.Dropped inputs
  restored : policy.restore state.saved = state.entries
  once : accepted.Pairwise fun earlier later =>
    ¬ (earlier.replayKey = later.replayKey ∧ earlier.sequence = later.sequence)

variable {later : Dict Str Window}

lemma EvidenceCall.verify_spec (verified : call.verify policy entries = .ok (header, later)) :
    call.header = .ok header ∧ call.bindings header = .ok () ∧
      policy.check entries header.replayKey header.sequence = none ∧
      later = policy.commit entries header.replayKey header.sequence := by
  simp only [EvidenceCall.verify, bind_eq_ok] at verified
  obtain ⟨read, parsed, _, bound, rest⟩ := verified
  split at rest
  · cases rest
  · rename_i passed
    simp only [ok_iff, Prod.mk.injEq] at rest
    obtain ⟨_, _, rfl, rfl⟩ := rest
    exact ⟨parsed, bound, passed, rfl⟩

lemma EvidenceCall.header_spec (read : call.header = .ok header) :
    header.replayKey.Valid ∧ 1 ≤ header.sequence ∧ header.sequence ≤ maxSequence := by
  obtain ⟨_, _, parsed⟩ := bind_eq_ok.mp read
  exact parseHeader_spec parsed

section

variable (replays : Replays policy inputs accepted state)
include replays

/-- The context of a message that is expected has not been dropped. -/
lemma Replays.present (rises : ∀ earlier ∈ inputs, earlier.Rises (.verify call))
    (bound : call.bindings header = .ok ())
    (absent : state.entries.get? header.replayKey.encoded = none) :
    ∀ other ∈ accepted, other.replayKey ≠ header.replayKey := by
  intro other member same
  simp only [EvidenceCall.bindings, ok_iff, not_or, not_not] at bound
  obtain ⟨_, ⟨session, pair⟩, _, _, _, epoch, _⟩ := bound
  rw [← same] at absent
  obtain ⟨minimumEpoch, began, past⟩ := replays.missed other member absent
  rw [same] at began past
  have least := rises _ began session.symm pair.symm
  change header.epoch < minimumEpoch at past
  omega

lemma Replays.same : Replays policy (inputs ++ [input]) accepted state :=
  { replays with missed := fun header member absent =>
    (replays.missed header member absent).append }

/-- Every accepted message is counted. -/
lemma Replays.verified
    (rises : ∀ earlier ∈ inputs, earlier.Rises (.verify call)) (few : keys.length ≤ policy.maximum)
    (used : ∀ other ∈ accepted ++ [header], other.replayKey ∈ keys)
    (verified : call.verify policy state.entries = .ok (header, later)) :
    Replays policy (inputs ++ [.verify call])
      (accepted ++ [header]) ⟨later, some (policy.snapshot later)⟩ := by
  obtain ⟨read, bound, passed, rfl⟩ := EvidenceCall.verify_spec verified
  have valid := EvidenceCall.header_spec read
  have present := replays.present rises bound
  obtain ⟨contexts, kept⟩ := replays.contexts.commit few used valid present passed
  refine ⟨contexts, ?_, contexts.restore ((contexts.length_le used).trans few), ?_⟩
  · intro other member absent
    obtain ⟨differs, old⟩ := kept _ absent
    rcases mem_append.mp member with before | new
    · exact (replays.missed other before old).append
    · rw [mem_singleton.mp new] at differs
      exact absurd rfl differs
  · refine pairwise_append.mpr
      ⟨replays.once, pairwise_singleton _ _, fun earlier member other new same => ?_⟩
    rw [mem_singleton.mp new] at same
    exact (replays.contexts.check_iff valid.1 present).mpr (.inl ⟨earlier, member, same⟩) passed

/-- The beginning of an epoch drops what it is meant to drop. -/
lemma Replays.advanced {sessionId pairId : Str} {minimumEpoch : Int}
    (few : keys.length ≤ policy.maximum) (used : ∀ other ∈ accepted, other.replayKey ∈ keys)
    (advanced : advanceEpoch state.entries sessionId pairId minimumEpoch = .ok later) :
    Replays policy (inputs ++ [.advanceEpoch sessionId pairId minimumEpoch])
      accepted ⟨later, some (policy.snapshot later)⟩ := by
  simp only [advanceEpoch, ok_iff] at advanced
  obtain ⟨_, _, _, _, rfl⟩ := advanced
  generalize filtered : state.entries.filter
    (fun encoded _ => retains sessionId pairId minimumEpoch encoded matches .ok true) = later
  have kept : ∀ encoded window, later.get? encoded = some window →
      state.entries.get? encoded = some window := by
    intro encoded window found
    rw [← filtered, get?_filter, Option.filter_eq_some_iff] at found
    exact found.1
  have contexts : Contexts policy accepted later :=
    ⟨replays.contexts.valid, fun encoded window found =>
      replays.contexts.known encoded window (kept _ _ found),
      fun key window valid found => replays.contexts.tracked key window valid (kept _ _ found)⟩
  refine ⟨contexts, fun header member absent => ?_,
    contexts.restore ((contexts.length_le used).trans few), replays.once⟩
  cases found : state.entries.get? header.replayKey.encoded with
  | none => exact (replays.missed header member found).append
  | some window =>
    rw [← filtered, get?_filter, found, (replays.contexts.valid header member).1.retains] at absent
    by_cases own : header.replayKey.sessionId = sessionId ∧ header.replayKey.pairId = pairId
    · refine ⟨minimumEpoch, ?_, ?_⟩
      · simp_all
      · by_contra least
        simp [own, not_lt.mp least] at absent
    · simp [own] at absent

/-- One input keeps the verifier exact. -/
lemma Replays.step (rises : ∀ earlier ∈ inputs, earlier.Rises input)
    (few : keys.length ≤ policy.maximum)
    (used : ∀ other ∈ accepted ++ (acceptedHeader
      ((evidenceVerifier policy).step state input).1).toList, other.replayKey ∈ keys) :
    Replays policy (inputs ++ [input])
    (accepted ++ (acceptedHeader ((evidenceVerifier policy).step state input).1).toList)
    ((evidenceVerifier policy).step state input).2 := by
  cases input with
  | verify call =>
    simp only [evidenceVerifier] at used ⊢
    cases verified : call.verify policy state.entries with
    | ok result =>
      rw [verified] at used
      exact replays.verified rises few used verified
    | error reason =>
      simp only [acceptedHeader, Option.toList_none, append_nil]
      exact replays.same
  | advanceEpoch sessionId pairId minimumEpoch =>
    simp only [evidenceVerifier] at used ⊢
    cases advanced : advanceEpoch state.entries sessionId pairId minimumEpoch with
    | ok later =>
      rw [advanced] at used
      simp only [acceptedHeader, Option.toList_none, append_nil] at used ⊢
      exact replays.advanced few used advanced
    | error reason =>
      simp only [acceptedHeader, Option.toList_none, append_nil]
      exact replays.same
  | restart =>
    -- The window comes back as it was.
    simp only [evidenceVerifier, acceptedHeader, Option.toList_none, append_nil, replays.restored]
    exact replays.same

end

lemma acceptedHeaders_append (policy : ReplayPolicy) (inputs : List EvidenceInput)
    (input : EvidenceInput) :
    acceptedHeaders policy (inputs ++ [input]) = acceptedHeaders policy inputs ++
      (acceptedHeader ((evidenceVerifier policy).step
        ((evidenceVerifier policy).after (evidenceVerifier policy).initial inputs)
          input).1).toList := by
  rw [acceptedHeaders, Machine.answers_append, filterMap_append]
  congr 1

/-- A run keeps the verifier exact, as long as it has room for its contexts and epochs rise. -/
lemma replays_after (few : keys.length ≤ policy.maximum)
    (used : ∀ header ∈ acceptedHeaders policy inputs, header.replayKey ∈ keys)
    (rising : inputs.Pairwise EvidenceInput.Rises) :
    Replays policy inputs (acceptedHeaders policy inputs)
      ((evidenceVerifier policy).after (evidenceVerifier policy).initial inputs) := by
  induction inputs using reverseRecOn with
  | nil => exact ⟨⟨nofun, nofun, nofun⟩, nofun, rfl, .nil⟩
  | append_singleton inputs input ih =>
    rw [acceptedHeaders_append] at used ⊢
    rw [Machine.after_append]
    obtain ⟨before, _, rises⟩ := pairwise_append.mp rising
    have past := ih (fun header member => used header (mem_append_left _ member)) before
    exact past.step (fun earlier member => rises earlier member input (mem_singleton_self _))
      few used

/-- The checks behind the window have reasons of their own. -/
lemma EvidenceCall.authenticates_ne (read : call.header = .ok header)
    (listed : reason ∈ replayReasons) : call.authenticates header ≠ .error reason := by
  have other : ∀ raised ∉ replayReasons, raised ≠ reason :=
    fun raised foreign same => foreign (same ▸ listed)
  have found : ∀ {α : Type} (value : Option α) (raised : String), raised ∉ replayReasons →
      value.elim (Except.error raised) Except.ok ≠ .error reason := by
    intro α value raised foreign
    cases value with
    | none => exact fun same => other raised foreign (Except.error.inj same)
    | some value => simp
  obtain ⟨raw, given, _⟩ := bind_eq_ok.mp read
  unfold EvidenceCall.authenticates
  rw [bind_of_ok given]
  refine bind_ne_error (found _ _ (by decide)) fun publicKey _ =>
    bind_ne_error ?_ fun signature _ => ?_
  · unfold signatureBytes
    split
    · split
      · simp
      · exact fun same => other _ (by decide) (Except.error.inj same)
    · exact fun same => other _ (by decide) (Except.error.inj same)
  refine bind_ne_error (raiseIf_ne_error (other _ (by decide))) fun _ _ =>
    bind_ne_error ?_ fun payload _ => ?_
  · unfold evidenceMapping
    split
    · simp
    · exact fun same => other _ (by decide) (Except.error.inj same)
  refine bind_ne_error (found _ _ (by decide)) fun digest _ =>
    bind_ne_error (raiseIf_ne_error (other _ (by decide))) fun _ _ => ?_
  cases call.ports.validatePayload header (.dict payload) with
  | ok _ => simp [Except.mapError]
  | error flaw =>
    exact fun same => other _ (payloadReason_not_mem flaw.1 flaw.2) (Except.error.inj same)

/-- A message that is expected is refused for a replay reason by the window alone. -/
lemma EvidenceCall.refused_iff (read : call.header = .ok header)
    (bound : call.bindings header = .ok ()) :
    (∃ reason ∈ replayReasons, ((evidenceVerifier policy).step state (.verify call)).1 =
      .error reason) ↔ policy.check state.entries header.replayKey header.sequence ≠ none := by
  have verify : call.verify policy state.entries =
    match policy.check state.entries header.replayKey header.sequence with
      | some reason => .error reason
      | none => call.authenticates header >>= fun _ =>
        pure (header, policy.commit state.entries header.replayKey header.sequence) := by
    rw [EvidenceCall.verify, bind_of_ok read, bind_of_ok bound]
  have step : ((evidenceVerifier policy).step state (.verify call)).1 =
      (call.verify policy state.entries).map (some ·.1) := by
    simp only [evidenceVerifier]
    cases call.verify policy state.entries <;> rfl
  rw [step, verify]
  cases checked : policy.check state.entries header.replayKey header.sequence with
  | some reason => exact iff_of_true ⟨reason, check_mem checked, rfl⟩ nofun
  | none =>
    refine iff_of_false ?_ (fun some => some rfl)
    rintro ⟨reason, listed, failed⟩
    have fine := EvidenceCall.authenticates_ne read listed
    cases outcome : call.authenticates header with
    | ok _ => simp [outcome, Except.map, bind, Except.bind, pure, Except.pure] at failed
    | error raised =>
      rw [outcome] at fine failed
      exact fine (congrArg _ (Except.error.inj failed))

/-- No sequence number is accepted twice, and one is refused as replayed only if it was accepted or
lies below the window. -/
theorem evidence_replay_exact (policy : ReplayPolicy) (inputs : List EvidenceInput)
    (keys : List ReplayKey) (few : keys.length ≤ policy.maximum)
    (used : ∀ header ∈ acceptedHeaders policy inputs, header.replayKey ∈ keys)
    (rising : inputs.Pairwise EvidenceInput.Rises) :
    (acceptedHeaders policy inputs).Pairwise (fun earlier later =>
      ¬ (earlier.replayKey = later.replayKey ∧ earlier.sequence = later.sequence)) ∧
    ∀ call header, (∀ earlier ∈ inputs, earlier.Rises (.verify call)) → call.header = .ok header →
      call.bindings header = .ok () →
      ((∃ reason ∈ replayReasons, ((evidenceVerifier policy).step
          ((evidenceVerifier policy).after (evidenceVerifier policy).initial inputs)
          (.verify call)).1 = .error reason) ↔
        (∃ earlier ∈ acceptedHeaders policy inputs,
          earlier.replayKey = header.replayKey ∧ earlier.sequence = header.sequence) ∨
        ∃ earlier ∈ acceptedHeaders policy inputs,
          earlier.replayKey = header.replayKey ∧
            header.sequence + policy.width ≤ earlier.sequence) := by
  have replays := replays_after few used rising
  refine ⟨replays.once, fun call header rises read bound => ?_⟩
  rw [EvidenceCall.refused_iff read bound,
    replays.contexts.check_iff (EvidenceCall.header_spec read).1 (replays.present rises bound)]
  refine or_congr_right ⟨?_, ?_⟩
  · rintro ⟨_, ⟨earlier, member, same, rfl⟩, far⟩
    exact ⟨earlier, member, same, far⟩
  · rintro ⟨earlier, member, same, far⟩
    exact ⟨_, ⟨earlier, member, same, rfl⟩, far⟩

/-- A key directory and validators that accept everything. -/
def plainEvidencePorts : EvidencePorts where
  b64decode _ := some (replicate 64 0)
  resolve _ := some 0
  signed _ _ _ := true
  canonicalSha256 _ := some (replicate 64 (codePoint '0'))
  validatePayload _ _ := .ok ()

/-- An inventory with a sequence number. -/
def sampleEvidence (sequence : Int) : EvidenceCall where
  ports := plainEvidencePorts
  raw := .ok ([("protocol_version", "ananta.speech-evidence-sync.v1"),
    ("message_type", "inventory"), ("message_id", "message"), ("session_id", "session"),
    ("pair_id", "pair"), ("sender_id", "sender"), ("audience_id", "audience"), ("key_id", "key"),
    ("signature_algorithm", "Ed25519"), ("signature_b64", "AA")].map
      (fun field => (text field.1, .str (text field.2))) ++
    [("epoch", 2), ("sequence", sequence), ("consent_version", 1), ("issued_at_ms", 1),
      ("expires_at_ms", 100)].map (fun field => (text field.1, .int field.2)) ++
    [(text "payload_digest", .str (replicate 64 (codePoint '0'))),
      (text "payload", .dict [(text "traffic_class", .str (text "control"))])])
  now := 10
  expectedSessionId := text "session"
  expectedPairId := text "pair"
  expectedAudienceId := text "audience"
  expectedEpoch := 2
  expectedConsentVersion := 1

def sampleHeader (sequence : Int) : EvidenceHeader :=
  ⟨"ananta.speech-evidence-sync.v1", .inventory, "message", "session", "pair", "sender",
    "audience", 2, sequence, 1, "key", 1, 100, replicate 64 (codePoint '0'), "AA"⟩

/-- A message is refused as replayed after an epoch has begun and the verifier has been
restarted. -/
theorem evidence_replay_exact_restart :
    ∃ reason ∈ replayReasons,
      ((evidenceVerifier ⟨32, 1, by decide⟩).step ((evidenceVerifier ⟨32, 1, by decide⟩).after
      (evidenceVerifier ⟨32, 1, by decide⟩).initial
      [.verify (sampleEvidence 5), .advanceEpoch (text "session") (text "pair") 2, .restart])
        (.verify (sampleEvidence 5))).1 = .error reason := by
  have headers : acceptedHeaders ⟨32, 1, by decide⟩
      [.verify (sampleEvidence 5), .advanceEpoch (text "session") (text "pair") 2, .restart] =
        [sampleHeader 5] := by
    decide +kernel
  refine ((evidence_replay_exact ⟨32, 1, by decide⟩
    [.verify (sampleEvidence 5), .advanceEpoch (text "session") (text "pair") 2, .restart]
      [(sampleHeader 5).replayKey]
    (by decide) ?_ ?_).2 (sampleEvidence 5) (sampleHeader 5) ?_ (by decide +kernel)
      (by decide +kernel)).mpr (.inl ?_)
  · simp_all
  · exact .cons (fun _ _ => trivial)
      (.cons (fun input later => by rw [mem_singleton.mp later]; trivial) (pairwise_singleton _ _))
  · intro earlier listed
    simp only [mem_cons, not_mem_nil, or_false] at listed
    rcases listed with rfl | rfl | rfl
    · trivial
    · exact fun _ _ => le_rfl
    · trivial
  · exact ⟨_, mem_singleton_self _, rfl, rfl⟩

end Ananta
