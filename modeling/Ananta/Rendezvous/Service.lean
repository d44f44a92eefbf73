import Ananta.Library.Dict
import Ananta.Library.Machine
import Ananta.Runtime.Serialization

/-! The public rendezvous service: sessions of two devices, their fences, and the signals between
them. -/

namespace Ananta

section

/-- Whether a device takes part in a session at the moment. -/
inductive RuntimeState where
  | active | parked
  deriving DecidableEq

structure Member where
  (accountId peerId subjectHash deviceId fingerprint publicKey capabilityHash : Str)
  mediaVersion : Int
  runtime : RuntimeState := .active

/-- A row of `participants`. -/
structure Guest where
  id : Str
  member : Member
  revokedAt : Option Int := none

inductive SignalType where
  | offer | answer | iceCandidate
  deriving DecidableEq

/-- A row of `signals`. -/
structure Signal where
  (id senderId recipientId : Str)
  signalType : SignalType
  payload : Str
  sequence : Nat
  securityEpoch : Int
  sentAt : Int
  deriving DecidableEq

/-- A row of `key_confirmations`. -/
structure Confirmation where
  epoch : Int
  (senderPeerId recipientPeerId packageId tag : Str)
  expiresAt : Int

/-- A row of `sessions`, with the rows of the other tables that belong to it and are deleted with
it. -/
structure PairSession where
  id : Str
  owner : Member
  oidcIssuer : Str
  inviteCode : Str
  expiresAt : Int
  revokedAt : Option Int := none
  securityEpoch : Int := 1
  version : Int
  lookupHash : Str
  requestHash : Str
  guests : List Guest := []
  signals : List Signal := []
  confirmations : List Confirmation := []

/-- The sessions by their identifiers, and when the capabilities of owners were retired. -/
structure PairStore where
  sessions : Dict Str PairSession := Dict.empty
  retired : Dict Str Int := Dict.empty

structure CreateRequest where
  (accountId peerId subjectHash deviceId fingerprint publicKey oidcIssuer title : Str)
  permissions : List Bool
  requestedExpiresAt : Option Int
  mediaVersion : Int
  deriving DecidableEq

inductive KeyError where
  | invalid | unsupported

def KeyError.reason : KeyError → String
  | .invalid => "device_key_invalid"
  | .unsupported => "device_key_algorithm_unsupported"

/-- The digests, the reading of keys, and the configuration. -/
structure PairPorts where
  peerDigest : Str → Str → Str
  spkiFingerprint : Str → Except KeyError Str
  capabilityDigest : Str → Str → Str → Str → Str
  lookupDigest : Str → Str → Str → Str
  requestDigest : CreateRequest → Str
  subjectHash : Str → Str → Str
  packageId : PairSession → Member → Member → Str
  upper : Str → Str
  sessionMaxDuration : Int

/-- `_CAPABILITY_TOMBSTONE_TTL_SECONDS`. -/
def PairPorts.tombstoneTtl (ports : PairPorts) : Int := max ports.sessionMaxDuration (24 * 60 * 60)

variable (ports : PairPorts)

/-- `is_canonical_account_id` and `is_device_peer_id`: a digest behind a mark. -/
def isMarked (mark : String) (value : Str) : Bool :=
  value.take 5 = text mark ∧ IsSha256 (value.drop 5)

/-- `is_membership_capability`. -/
def isMembershipCapability (value : Str) : Bool :=
  value.length = 43 ∧ value.all fun point => isAlphanumeric point || point ∈ text "_-"

/-- `_is_protocol_identifier`. -/
def isProtocolIdentifier (value : Str) : Bool :=
  match value with
  | [] => false
  | first :: rest =>
    isAlphanumeric first && rest.length ≤ 127 && rest.all fun point => isAlphanumeric point ||
      point ∈ text "._:@-"

def PairSession.Live (session : PairSession) (now : Int) : Prop := session.revokedAt = none ∧
    now < session.expiresAt
  deriving Decidable

end

section

variable (ports : PairPorts)

/-- `_memberships`: the owner, and the guests that are not revoked, by their identifiers. -/
def PairSession.memberships (session : PairSession) : List (Option Str × Member) :=
  (none, session.owner) ::
    (session.guests.filter (·.revokedAt = none)).map fun guest => (some guest.id, guest.member)

/-- The checks of one membership in `_validated_strict_memberships`. -/
def Member.check (version : Int) (member : Member) : Except String Unit := do
  raiseIf (¬ isMarked "oidc:" member.accountId) "account_identity_binding_invalid"
  raiseIf (version = 1 ∧ member.peerId ≠ member.accountId) "peer_identity_binding_invalid"
  raiseIf (version = 2 ∧ (¬ isMarked "peer:" member.peerId ∨
    member.peerId ≠ "peer:" ++ ports.peerDigest member.accountId member.fingerprint))
      "peer_identity_binding_invalid"
  raiseIf (version = 2 ∧ ¬ IsSha256 member.capabilityHash) "membership_capability_binding_invalid"
  let actual ← (ports.spkiFingerprint member.publicKey).mapError KeyError.reason
  raiseIf (actual ≠ lower member.fingerprint) "device_key_substitution"

/-- `_validated_strict_memberships`. -/
def strictMemberships (session : PairSession) (requirePair : Bool) :
    Except String (List (Option Str × Member)) := do
  let members := session.memberships
  raiseIf (requirePair ∧ members.length ≠ 2) "strict_pair_membership_incomplete"
  raiseIf (2 < members.length) "strict_pair_cardinality_exceeded"
  members.forM fun member => member.2.check ports session.version
  raiseIf (∃ guest ∈ members.tail, session.owner.peerId = guest.2.peerId)
    "peer_identity_must_be_distinct"
  raiseIf (∃ guest ∈ members.tail, session.owner.fingerprint = guest.2.fingerprint)
    "device_key_must_be_distinct"
  return members

/-- Who calls: an account, the peer that it asks for, and its capability. -/
structure Caller where
  (accountId peerId capability : Str)

/-- `_resolve_authenticated_membership`. -/
def resolveMembership (session : PairSession) (caller : Caller) (ownerRequired : Bool := false) :
    Except String (Option Str × Member) := do
  let members ← strictMemberships ports session false
  let ofAccount := members.filter (·.2.accountId = caller.accountId)
  let peerId := strip caller.peerId
  raiseIf (ofAccount.isEmpty) "forbidden"
  raiseIf (session.version = 2 ∧ peerId = []) "local_peer_id_required"
  match ofAccount.find? fun member => member.2.peerId = if session.version = 1 then caller.accountId
    else peerId with
  | none => .error "forbidden"
  | some member =>
    raiseIf (session.version = 1 ∧ peerId ≠ [] ∧ peerId ≠ member.2.peerId) "forbidden"
    raiseIf (session.version = 2 ∧ caller.capability = []) "membership_capability_required"
    raiseIf (session.version = 2 ∧
      (¬ isMembershipCapability caller.capability ∨ member.2.capabilityHash ≠
      ports.capabilityDigest session.id caller.accountId peerId caller.capability))
        "membership_capability_invalid"
    raiseIf (ownerRequired ∧ member.1 ≠ none) "forbidden"
    return member

/-- The session of an identifier, if there is one and it meets a condition. -/
def sessionWhere (sessions : Dict Str PairSession) (id : Str) (reason : String)
    (condition : PairSession → Bool) (otherwise : String) : Except String PairSession :=
  match sessions.get? id with
  | none => .error reason
  | some session => if condition session then .ok session else .error otherwise

end

variable (session : PairSession)

/-- `_invalidate_pair_runtime_locked`, for one generation or several. -/
def PairSession.invalidated (times : Nat := 1) : PairSession :=
  { session with
    securityEpoch := session.securityEpoch + times, signals := [], confirmations := [] }

def Member.IsOf (member other : Member) : Prop := member.accountId = other.accountId ∧
    member.peerId = other.peerId
  deriving Decidable

/-- `_active_memberships_for_peer_locked`, for one session: how many of its memberships are active
for a device. -/
def PairSession.activeRows (now : Int) (device : Member) : Nat :=
  if session.version = 2 ∧ session.Live now then
    (session.memberships.filter fun member => member.2.IsOf device ∧
      member.2.runtime = .active).length
  else 0

def PairSession.parked (device : Member) : PairSession :=
  { session with
    owner := if session.owner.IsOf device then { session.owner with runtime := .parked }
      else session.owner
    guests := session.guests.map fun guest =>
      if guest.member.IsOf device ∧ guest.revokedAt = none
        then { guest with member := { guest.member with runtime := .parked } }
      else guest }

/-- `_write_membership_runtime_locked`. -/
def PairSession.withRuntime (state : RuntimeState) : Option Str → PairSession
  | none => { session with owner := { session.owner with runtime := state } }
  | some id => { session with guests := session.guests.map fun guest =>
      if guest.id = id ∧ guest.revokedAt = none
        then { guest with member := { guest.member with runtime := state } }
      else guest }

/-- How many memberships of a device are parked in another session when the device turns to a state
in a session. -/
def PairSession.losses (other : PairSession) (sessionId : Str) (device : Member)
    (state : RuntimeState) (now : Int) : Nat :=
  if state = .active ∧ other.id ≠ sessionId then other.activeRows now device else 0

def PairSession.yielded (other : PairSession) (sessionId : Str) (device : Member)
    (state : RuntimeState) (now : Int) : PairSession :=
  let losses := other.losses sessionId device state now
  if 0 < losses then (other.parked device).invalidated losses else other

/-- `_set_membership_runtime_locked`, which writes the session that it is given. -/
def setMembershipRuntimeLocked (sessions : Dict Str PairSession) (session : PairSession)
    (member : Option Str × Member) (state : RuntimeState) (now : Int) :
    Except String (Dict Str PairSession) := do
  raiseIf (session.version ≠ 2) "runtime_state_requires_identity_v2"
  let targetChanged : Bool := member.2.runtime ≠ state
  let changed := targetChanged || sessions.values.any (0 < ·.losses session.id member.2 state now)
  let target := if targetChanged then session.withRuntime state member.1 else session
  return (sessions.map fun _ other => other.yielded session.id member.2 state now).set session.id
    (if changed then target.invalidated else target)

section

variable (ports : PairPorts) (store : PairStore) (now : Int)

/-- What the calls answer. -/
inductive PairReply where
  | session (id : Str) (idempotent : Bool)
  | joined (participantId : Str) (idempotent : Bool)
  | runtime (peerId : Str)
  | left (peerId : Str) (idempotent : Bool)
  | revoked (peerId : Str)
  | confirmed (expiresAt : Int) (idempotent : Bool)
  | pushed (signal : Signal)
  | polled (signals : List Signal) (cursor cursorFloor : Nat) (truncated : Bool)
  | cleaned
  deriving DecidableEq

/-- The device of a caller of `create_session` or `join_session`. -/
structure DeviceArgs where
  (userId userSub deviceId fingerprint publicKey oidcIssuer capability : Str)

/-- The arguments without white space around them. -/
def DeviceArgs.normalized (args : DeviceArgs) : DeviceArgs :=
  { args with
    userSub := strip args.userSub
    deviceId := strip args.deviceId
    fingerprint := lower (strip args.fingerprint)
    publicKey := strip args.publicKey
    oidcIssuer := strip args.oidcIssuer
    capability := strip args.capability }

def DeviceArgs.check (args : DeviceArgs) : Except String Unit := do
  raiseIf (args.deviceId = [] ∨ args.fingerprint = [] ∨ args.publicKey = [])
    "device_identity_required"
  raiseIf (¬ isProtocolIdentifier args.deviceId) "device_identity_invalid"
  let actual ← (ports.spkiFingerprint args.publicKey).mapError KeyError.reason
  raiseIf (actual ≠ args.fingerprint) "device_key_substitution"

def DeviceArgs.member (args : DeviceArgs) (version mediaVersion : Int) (capabilityHash : Str) :
    Member where
  accountId := args.userId
  peerId := if version = 2 then "peer:" ++ ports.peerDigest args.userId args.fingerprint
    else args.userId
  subjectHash := ports.subjectHash args.oidcIssuer args.userSub
  deviceId := args.deviceId
  fingerprint := args.fingerprint
  publicKey := args.publicKey
  capabilityHash
  mediaVersion

/-- The arguments of `create_session`, with the identifier and the free invite code that it
draws. -/
structure CreateArgs extends DeviceArgs where
  title : Str
  permissions : List (Option Bool)
  requestedExpiresAt : Option Int
  version : Int
  media : Except String Int
  sid : Str
  code : Str

/-- The permissions of a session: chat unless it is refused, and what else is granted but remote
control. -/
def normalizedPermissions (permissions : List (Option Bool)) : List Bool :=
  [(permissions.getD 0 none).getD true, (permissions.getD 1 none).getD false,
    (permissions.getD 2 none).getD false, (permissions.getD 3 none).getD false]

/-- What `create_session` makes of its arguments: the new session, and the request that is bound to
it. -/
def CreateArgs.prepared (raw : CreateArgs) : Except String (PairSession × CreateRequest) := do
  let args := raw.toDeviceArgs.normalized
  raiseIf (¬ isMarked "oidc:" args.userId ∨ args.userSub = [] ∨ args.oidcIssuer = [])
    "oidc_identity_required"
  raiseIf (raw.version ≠ 1 ∧ raw.version ≠ 2) "identity_binding_version_unsupported"
  let mediaVersion ← raw.media
  raiseIf (mediaVersion ≠ 0 ∧ raw.version ≠ 2) "public_media_identity_binding_v2_required"
  raiseIf (raw.version = 2 ∧ args.capability = []) "membership_capability_required"
  raiseIf (raw.version = 2 ∧ ¬ isMembershipCapability args.capability)
    "membership_capability_invalid"
  args.check ports
  raiseIf (∃ requested ∈ raw.requestedExpiresAt, requested ≤ now) "session_expiry_invalid"
  let latest := now + ports.sessionMaxDuration
  let peerId := (args.member ports raw.version mediaVersion []).peerId
  let bound (digest : Str) : Str := if raw.version = 2 then digest else []
  let owner := args.member ports raw.version mediaVersion
    (bound (ports.capabilityDigest raw.sid args.userId peerId args.capability))
  let request : CreateRequest :=
    { accountId := args.userId, peerId, subjectHash := owner.subjectHash, deviceId := args.deviceId
      fingerprint := args.fingerprint, publicKey := args.publicKey
      oidcIssuer := args.oidcIssuer.rdropWhile (· = codePoint '/')
      title := (if raw.title = [] then text "Rendezvous Session" else raw.title).take 120
      permissions := normalizedPermissions raw.permissions,
      requestedExpiresAt := raw.requestedExpiresAt, mediaVersion }
  return ({ id := raw.sid, owner, oidcIssuer := args.oidcIssuer, inviteCode := raw.code
            expiresAt := (raw.requestedExpiresAt.map (min · latest)).getD latest,
            version := raw.version
            lookupHash := bound (ports.lookupDigest args.userId peerId args.capability)
            requestHash := bound (ports.requestDigest request) }, request)

/-- `create_session`, within its transaction. -/
def createSession (args : CreateArgs) : Except String (PairReply × PairStore) := do
  let (session, _) ← args.prepared ports now
  let capability := strip args.capability
  raiseIf (session.lookupHash ≠ [] ∧ (store.retired.get? session.lookupHash).isSome)
    "membership_capability_retired"
  match store.sessions.values.find? fun row => session.lookupHash ≠ [] ∧
    row.lookupHash = session.lookupHash with
  | some existing =>
    raiseIf (¬ existing.Live now) "membership_capability_retired"
    raiseIf (¬ (existing.requestHash = session.requestHash ∧ existing.version = 2 ∧
      existing.owner.mediaVersion = session.owner.mediaVersion ∧ existing.owner.capabilityHash =
        ports.capabilityDigest existing.id session.owner.accountId session.owner.peerId capability))
      "membership_capability_conflict"
    let sessions ← setMembershipRuntimeLocked store.sessions existing (none, existing.owner)
      .active now
    return (.session existing.id true, { store with sessions })
  | none =>
    raiseIf ((store.sessions.get? session.id).isSome) "UNIQUE constraint failed: sessions.id"
    raiseIf (∃ row ∈ store.sessions.values, row.inviteCode = session.inviteCode)
      "UNIQUE constraint failed: sessions.invite_code"
    let placed : Except String (Dict Str PairSession) :=
      if session.version = 2
        then setMembershipRuntimeLocked store.sessions session (none, session.owner) .active now
      else .ok (store.sessions.set session.id session)
    let sessions ← placed
    return (.session session.id false, { store with sessions })

/-- The arguments of `join_session`, with the identifier that it draws. -/
structure JoinArgs extends DeviceArgs where
  inviteCode : Str
  expectedSessionId : Str
  expectedVersion : Option Int
  media : Except String Int
  participantId : Str

/-- The session that an invite code leads to, after the checks of `join_session`. -/
def JoinArgs.target (raw : JoinArgs) : Except String (PairSession × Member) := do
  let args := raw.toDeviceArgs.normalized
  let version := raw.expectedVersion.getD 1
  let mediaVersion ← raw.media
  raiseIf (mediaVersion ≠ 0 ∧ version ≠ 2) "public_media_identity_binding_v2_required"
  raiseIf (¬ isMarked "oidc:" args.userId ∨ args.userSub = [] ∨ args.oidcIssuer = [])
    "oidc_identity_required"
  args.check ports
  let code := ports.upper (strip raw.inviteCode)
  match store.sessions.values.find? fun row => row.inviteCode = code ∧ row.inviteCode ≠ [] with
  | none => .error "invalid_invite_code"
  | some session =>
    raiseIf (raw.expectedSessionId ≠ [] ∧ session.id ≠ raw.expectedSessionId) "session_not_found"
    raiseIf (session.revokedAt ≠ none) "session_revoked"
    raiseIf (session.expiresAt < now) "session_expired"
    raiseIf (session.oidcIssuer ≠ args.oidcIssuer) "oidc_issuer_mismatch"
    raiseIf (session.version ≠ version) "identity_binding_version_mismatch"
    let hash := if version = 2 then ports.capabilityDigest session.id args.userId
      (args.member ports version mediaVersion []).peerId args.capability else []
    let member := args.member ports version mediaVersion hash
    raiseIf (version = 1 ∧ args.userId = session.owner.accountId) "peer_identity_must_be_distinct"
    raiseIf (args.fingerprint = session.owner.fingerprint) "device_key_must_be_distinct"
    raiseIf (member.peerId = session.owner.peerId) "peer_identity_must_be_distinct"
    return (session, member)

/-- `_activate_joined_v2_membership_locked`, which writes the session that it is given. -/
def activateJoined (sessions : Dict Str PairSession) (session : PairSession) (peerId : Str) :
    Except String (Dict Str PairSession) :=
  if session.version ≠ 2 then .ok (sessions.set session.id session)
  else match session.memberships.find? (·.2.peerId = peerId) with
    | none => .error "joined membership not found"
    | some member => setMembershipRuntimeLocked sessions session member .active now

/-- `join_session`, within its transaction. -/
def joinSession (args : JoinArgs) : Except String (PairReply × PairStore) := do
  let (session, member) ← args.target ports store now
  let capability := strip args.capability
  let lacks : Except String Unit := do
    raiseIf (session.version = 2 ∧ capability = []) "membership_capability_required"
    raiseIf (session.version = 2 ∧ ¬ isMembershipCapability capability)
      "membership_capability_invalid"
  match session.guests.find? fun guest => guest.revokedAt = none ∧
    guest.member.peerId = member.peerId ∧
      (session.version = 1 → guest.member.deviceId = member.deviceId) with
  | some guest =>
    raiseIf (¬ (guest.member.subjectHash = member.subjectHash ∧
      guest.member.accountId = member.accountId ∧
      guest.member.deviceId = member.deviceId ∧ guest.member.fingerprint = member.fingerprint ∧
      guest.member.publicKey = member.publicKey)) "device_identity_conflict"
    lacks
    raiseIf (session.version = 2 ∧ guest.member.capabilityHash ≠ member.capabilityHash)
      "membership_capability_invalid"
    raiseIf (guest.member.mediaVersion ≠ member.mediaVersion) "public_media_capability_conflict"
    let sessions ← activateJoined now store.sessions session member.peerId
    return (.joined guest.id true, { store with sessions })
  | none =>
    raiseIf (∃ guest ∈ session.guests, guest.revokedAt = none) "session_full"
    lacks
    let joined := { session with
      guests := session.guests ++ [{ id := args.participantId, member }]
      securityEpoch := session.securityEpoch + 1
      confirmations := [] }
    let sessions ← activateJoined now store.sessions joined member.peerId
    return (.joined args.participantId false, { store with sessions })

variable (sessionId : Str) (caller : Caller)

/-- `set_membership_runtime`. -/
def setMembershipRuntime (state : RuntimeState) :
    Except String (PairReply × PairStore) := do
  let session ← sessionWhere store.sessions sessionId "session_not_found" (·.Live now)
    "session_inactive"
  let member ← resolveMembership ports session caller
  let sessions ← setMembershipRuntimeLocked store.sessions session member state now
  return (.runtime member.2.peerId, { store with sessions })

/-- `_retired_guest_peer_for_capability`. -/
def retiredGuest (session : PairSession) (caller : Caller) : Option Str :=
  let peerId := strip caller.peerId
  if session.version = 2 then
    if peerId = [] ∨ ¬ isMembershipCapability caller.capability then none
    else (session.guests.find? fun guest => guest.revokedAt ≠ none ∧
      guest.member.accountId = caller.accountId ∧
      guest.member.peerId = peerId ∧ guest.member.capabilityHash =
        ports.capabilityDigest session.id caller.accountId peerId caller.capability).map
          (·.member.peerId)
  else if peerId ≠ [] ∧ peerId ≠ caller.accountId then none
  else (session.guests.find? fun guest => guest.revokedAt ≠ none ∧
    guest.member.accountId = caller.accountId).map (·.member.accountId)

/-- `leave_session`. -/
def leaveSession : Except String (PairReply × PairStore) := do
  let session ← sessionWhere store.sessions sessionId "session_not_found" (·.revokedAt = none)
    "session_revoked"
  raiseIf (session.expiresAt ≤ now) "session_expired"
  match resolveMembership ports session caller with
  | .error reason =>
    match retiredGuest ports session caller with
    | some peerId => .ok (.left peerId true, store)
    | none => .error reason
  | .ok (none, _) => .error "owner_must_end_session"
  | .ok (some id, member) =>
    let guests := session.guests.map fun guest =>
      if guest.id = id ∧ guest.revokedAt = none then { guest with revokedAt := some now } else guest
    return (.left member.peerId false,
      { store with
        sessions := store.sessions.set session.id
          ({ session with guests } : PairSession).invalidated })

/-- `revoke_session`, where the empty invite codes of two revoked sessions violate the unique
index. -/
def revokeSession : Except String (PairReply × PairStore) := do
  let session ← sessionWhere store.sessions sessionId "session_not_found" (fun _ => true) ""
  let actor ← resolveMembership ports session caller true
  raiseIf (∃ row ∈ store.sessions.values, row.id ≠ session.id ∧ row.inviteCode = [])
    "UNIQUE constraint failed: sessions.invite_code"
  let retired := if session.lookupHash = [] ∨ (store.retired.get? session.lookupHash).isSome
    then store.retired
    else store.retired.set session.lookupHash now
  return (.revoked actor.2.peerId,
    { sessions := store.sessions.set session.id
        { session with revokedAt := some now, inviteCode := [], signals := [], confirmations := [] }
      retired })

/-- `_require_pair_runtime_active` and `_require_transport_ready_locked`. -/
def requireReady (session : PairSession) (members : List (Option Str × Member)) (confirmed : Bool) :
    Except String Unit := do
  let peerIds := members.map (·.2.peerId)
  let directions : List (Str × Str) :=
    ((session.confirmations.filter fun row => row.epoch = session.securityEpoch ∧
      now < row.expiresAt ∧
    row.senderPeerId ∈ peerIds ∧ row.recipientPeerId ∈ peerIds).map fun row =>
      (row.senderPeerId, row.recipientPeerId)).dedup
  raiseIf (session.version = 2 ∧ ¬ (members.length = 2 ∧ members.all (·.2.runtime = .active)))
    "pair_runtime_not_ready"
  raiseIf (session.version = 2 ∧ confirmed ∧ ¬ (directions.length = 2 ∧
    ∀ direction ∈ directions, direction.1 ≠ direction.2 ∧ (direction.2, direction.1) ∈ directions))
      "pair_runtime_not_ready"

/-- The arguments of `put_key_confirmation`, whose tag was read as some number of bytes. -/
structure ConfirmationArgs where
  sessionId : Str
  sender : Caller
  recipientPeerId : Str
  packageId : Str
  epoch : Int
  tag : Str
  tagBytes : Option Nat

/-- `put_key_confirmation`. -/
def putKeyConfirmation (args : ConfirmationArgs) : Except String (PairReply × PairStore) := do
  let packageId := lower (strip args.packageId)
  raiseIf (args.tagBytes = none) "confirmation_tag_invalid"
  raiseIf (args.tagBytes ≠ some 32 ∨ ¬ IsSha256 packageId) "confirmation_invalid"
  let session ← sessionWhere store.sessions args.sessionId "session_not_found" (·.Live now)
    "session_inactive"
  let members ← strictMemberships ports session true
  let sender ← resolveMembership ports session args.sender
  requireReady now session members false
  raiseIf (sender.2.peerId ≠ args.sender.peerId) "forbidden"
  match members.find? (·.2.peerId = args.recipientPeerId) with
  | none => .error "forbidden"
  | some recipient =>
    raiseIf (recipient.2.peerId = sender.2.peerId) "forbidden"
    raiseIf (args.epoch ≠ session.securityEpoch) "epoch_mismatch"
    raiseIf (ports.packageId session recipient.2 sender.2 ≠ packageId)
      "key_package_binding_mismatch"
    let same (row : Confirmation) : Bool := row.epoch = args.epoch ∧
      row.senderPeerId = sender.2.peerId ∧ row.recipientPeerId = recipient.2.peerId
    let expiresAt := min session.expiresAt (now + 5 * 60)
    let row : Confirmation :=
      { epoch := args.epoch, senderPeerId := sender.2.peerId, recipientPeerId := recipient.2.peerId,
        packageId, tag := strip args.tag, expiresAt }
    let existing := (session.confirmations.find? same).filter (now < ·.expiresAt)
    raiseIf (∃ old ∈ existing, ¬ (old.packageId = packageId ∧ old.tag = strip args.tag))
      "key_confirmation_conflict"
    return (.confirmed expiresAt existing.isSome,
      { store with sessions := store.sessions.set session.id { session with
          confirmations := session.confirmations.filter (fun old => ¬ same old) ++ [row] } })

/-- A caller's session whose transport is ready for its epoch, with the pair and the caller's own
membership. -/
def readySession (securityEpoch : Option Int) :
    Except String (PairSession × List (Option Str × Member) × (Option Str × Member)) := do
  let session ← sessionWhere store.sessions sessionId "forbidden" (·.Live now) "forbidden"
  let members ← strictMemberships ports session true
  let member ← resolveMembership ports session caller
  raiseIf (session.version = 2 ∧ securityEpoch = none) "signal_epoch_required"
  raiseIf (∃ epoch ∈ securityEpoch, epoch ≠ session.securityEpoch) "epoch_mismatch"
  requireReady now session members true
  return (session, members, member)

/-- The signals of an epoch for a recipient. -/
def PairSession.queue (recipientId : Str) : List Signal :=
  session.signals.filter fun signal => signal.recipientId = recipientId ∧
    signal.securityEpoch = session.securityEpoch

def newestSequence (signals : List Signal) : Nat := (signals.map (·.sequence)).foldl max 0

def oldestSequence (signals : List Signal) : Nat := (signals.map (·.sequence)).min?.getD 0

/-- The arguments of `push_signal`, with the payload as JSON and the identifier that it draws. -/
structure SignalArgs where
  sessionId : Str
  sender : Caller
  recipientId : Str
  signalType : Option SignalType
  payload : Option Str
  securityEpoch : Option Int
  id : Str

/-- `push_signal`. -/
def pushSignal (args : SignalArgs) : Except String (PairReply × PairStore) := do
  match args.signalType, args.payload with
  | none, _ => .error "invalid_signal_type"
  | _, none => .error "signal_payload_invalid"
  | some signalType, some payload =>
    let (session, members, sender) ← readySession ports store now args.sessionId args.sender
      args.securityEpoch
    raiseIf (sender.2.peerId ≠ args.sender.peerId) "forbidden"
    raiseIf ((∀ member ∈ members, member.2.peerId ≠ args.recipientId) ∨
      args.recipientId = args.sender.peerId) "recipient_not_authorized"
    let queue := session.queue args.recipientId
    raiseIf (256 ≤ queue.length) "signal_queue_full"
    let cursor := newestSequence queue
    raiseIf (2 ^ 63 - 1 ≤ cursor) "signal_sequence_exhausted"
    let signal : Signal :=
      { id := args.id, senderId := args.sender.peerId, recipientId := args.recipientId, signalType,
        payload, sequence := cursor + 1, securityEpoch := session.securityEpoch, sentAt := now }
    return (.pushed signal,
      { store with
        sessions := store.sessions.set session.id
          { session with signals := session.signals ++ [signal] } })

/-- `poll_signals`. -/
def pollSignals (since : Int) (securityEpoch : Option Int) :
    Except String (PairReply × PairStore) := do
  raiseIf (since < 0 ∨ 2 ^ 63 - 1 < since) "signal_cursor_invalid"
  let (session, _, requester) ← readySession ports store now sessionId caller securityEpoch
  let queue := session.queue requester.2.peerId
  let newest := newestSequence queue
  raiseIf ((newest : Int) < since) "signal_cursor_ahead"
  let cursorFloor := oldestSequence queue - 1
  let signals := (queue.filter (since < ·.sequence)).mergeSort fun left right =>
    left.sequence ≤ right.sequence
  -- The last signal that was acknowledged is kept, because the next sequence goes by it.
  let kept := session.signals.filter fun signal => ¬ (signal.recipientId = requester.2.peerId ∧
    signal.securityEpoch = session.securityEpoch ∧ 0 < since ∧ signal.sequence < since)
  return (.polled signals newest cursorFloor (since < cursorFloor),
    { store with sessions := store.sessions.set session.id { session with signals := kept } })

/-- `_cleanup_expired`, once its interval has passed. -/
def cleanupExpired : PairStore :=
  let ended (session : PairSession) : Bool := session.revokedAt ≠ none ∨ session.expiresAt ≤ now
  let kept := store.retired.filter fun _ retiredAt => now - ports.tombstoneTtl < retiredAt
  { sessions := store.sessions.filter fun _ session => !ended session
    retired := store.sessions.values.foldl (fun retired session =>
      if ended session ∧ session.lookupHash ≠ [] ∧ (retired.get? session.lookupHash).isNone then
        retired.set session.lookupHash now
      else retired) kept }

inductive PairCall where
  | createSession (args : CreateArgs)
  | joinSession (args : JoinArgs)
  | setMembershipRuntime (sessionId : Str) (caller : Caller) (state : RuntimeState)
  | leaveSession (sessionId : Str) (caller : Caller)
  | revokeSession (sessionId : Str) (caller : Caller)
  | putKeyConfirmation (args : ConfirmationArgs)
  | pushSignal (args : SignalArgs)
  | pollSignals (sessionId : Str) (caller : Caller) (since : Int) (securityEpoch : Option Int)
  | cleanupExpired

def PairCall.run : PairCall → Except String (PairReply × PairStore)
  | .createSession args => Ananta.createSession ports store now args
  | .joinSession args => Ananta.joinSession ports store now args
  | .setMembershipRuntime sessionId caller state =>
      Ananta.setMembershipRuntime ports store now sessionId caller state
  | .leaveSession sessionId caller => Ananta.leaveSession ports store now sessionId caller
  | .revokeSession sessionId caller => Ananta.revokeSession ports store now sessionId caller
  | .putKeyConfirmation args => Ananta.putKeyConfirmation ports store now args
  | .pushSignal args => Ananta.pushSignal ports store now args
  | .pollSignals sessionId caller since securityEpoch =>
    Ananta.pollSignals ports store now sessionId caller since securityEpoch
  | .cleanupExpired => .ok (.cleaned, Ananta.cleanupExpired ports store now)

end

/-- The service as a machine, whose calls come with a reading of the clock. -/
def rendezvous (ports : PairPorts) : Machine PairStore (Int × PairCall)
    (Except String PairReply) where
  initial := {}
  step store input :=
    match input.2.run ports store input.1 with
    | .ok (reply, store) => (.ok reply, store)
    | .error reason => (.error reason, store)

variable {ports : PairPorts} {store later : PairStore} {now : Int} {reply : PairReply}
  {reason : String}

lemma step_of_ok (call : PairCall) (ran : call.run ports store now = .ok (reply, later)) :
    (rendezvous ports).step store (now, call) = (.ok reply, later) := by
  simp only [rendezvous, ran]

lemma step_of_error (call : PairCall) (ran : call.run ports store now = .error reason) :
    (rendezvous ports).step store (now, call) = (.error reason, store) := by
  simp only [rendezvous, ran]

lemma refused_iff {call : PairCall} : ((rendezvous ports).step store (now, call)).1 =
    .error reason ↔ call.run ports store now = .error reason := by
  rcases ran : call.run ports store now with _ | ⟨_, _⟩
  · simp [step_of_error call ran]
  · simp [step_of_ok call ran]

lemma answered_iff {call : PairCall} : ((rendezvous ports).step store (now, call)).1 = .ok reply ↔
    ∃ later, call.run ports store now = .ok (reply, later) := by
  rcases ran : call.run ports store now with _ | ⟨_, _⟩
  · simp [step_of_error call ran]
  · simp [step_of_ok call ran]

end Ananta
