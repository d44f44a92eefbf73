import Ananta.Rendezvous.Fences

/-! A capability of an owner opens one session, and is not taken again until its tombstone is
gone. -/

namespace Ananta

open List

variable {ports : PairPorts} {sessions : Dict Str PairSession} {store altered : PairStore}
  {now : Int} {session : PairSession} {reply : PairReply}

/-- What a session is known by when its capability is presented again. -/
structure PairCard where
  (id lookupHash requestHash : Str)
  version : Int
  expiresAt : Int
  revokedAt : Option Int
  mediaVersion : Int
  capabilityHash : Str

def PairSession.card (session : PairSession) : PairCard where
  id := session.id
  lookupHash := session.lookupHash
  requestHash := session.requestHash
  version := session.version
  expiresAt := session.expiresAt
  revokedAt := session.revokedAt
  mediaVersion := session.owner.mediaVersion
  capabilityHash := session.owner.capabilityHash

def cards (sessions : Dict Str PairSession) (id : Str) : Option PairCard :=
  (sessions.get? id).map PairSession.card

lemma cards_of {id : Str} (stored : sessions.get? id = some session) :
    cards sessions id = some session.card :=
  congrArg (Option.map PairSession.card) stored

lemma cards_set (id other : Str) :
    cards (sessions.set id session) other = if other = id then some session.card
      else cards sessions other := by
  unfold cards
  rw [get?_set]
  split <;> rfl

lemma card_parked (device : Member) (times : Nat) :
    ((session.parked device).invalidated times).card = session.card := by
  unfold PairSession.card PairSession.invalidated PairSession.parked
  split <;> rfl

variable {written : Dict Str PairSession}

/-- Setting a runtime changes no card but that of the session it writes. -/
lemma cards_setRuntime {member : Option Str × Member} {state : RuntimeState}
    (set : setMembershipRuntimeLocked sessions session member state now = .ok written)
    (other : Str) :
    cards written other = if other = session.id then some session.card
      else cards sessions other := by
  simp only [setMembershipRuntimeLocked, ok_iff] at set
  obtain ⟨_, _, rfl⟩ := set
  have target : ∀ changed moved : Bool,
    (if changed then (if moved then session.withRuntime state member.1 else session).invalidated
      else if moved then session.withRuntime state member.1 else session).card = session.card := by
    intro changed moved
    have runtime : (session.withRuntime state member.1).card = session.card := by
      cases member.1 <;> rfl
    cases changed <;> cases moved <;> first | rfl | exact runtime
  rw [cards_set, target]
  split
  · rfl
  · unfold cards
    rw [get?_map, Option.map_map]
    congr 1
    funext old
    unfold PairSession.yielded Function.comp
    dsimp only
    split
    · exact card_parked member.2 _
    · rfl

section

variable (stored : sessions.get? session.id = some session)
include stored

/-- Writing the card that is stored changes no card. -/
lemma cards_kept (set : ∀ other, cards written other = if other = session.id then some session.card
    else cards sessions other) : cards written = cards sessions := by
  funext other
  rw [set]
  split
  · rename_i equal
    rw [equal, cards_of stored]
  · rfl

lemma cards_written {written : PairSession}
    (same : written.card = session.card) :
    cards (sessions.set session.id written) = cards sessions :=
  cards_kept stored fun other => by rw [cards_set, same]

lemma cards_activated {joined : PairSession} {peerId : Str}
    (activated : activateJoined now sessions joined peerId = .ok written)
    (same : joined.card = session.card) : cards written = cards sessions := by
  have id : joined.id = session.id := congrArg PairCard.id same
  unfold activateJoined at activated
  split at activated
  · cases activated
    rw [id]
    exact cards_written stored same
  · split at activated
    · cases activated
    · exact cards_kept stored fun other => by rw [cards_setRuntime activated, id, same]

end

/-- What a call can do to the cards and the tombstones. -/
inductive Recorded (ports : PairPorts) (store later : PairStore) (now : Int)
    (call : PairCall) : Prop where
  | same (cards_eq : cards later.sessions = cards store.sessions)
      (retired : later.retired = store.retired)
  | opened (args : CreateArgs) (session : PairSession) (request : CreateRequest)
      (made : call = .createSession args)
      (prepared : args.prepared ports now = .ok (session, request))
      (absent : cards store.sessions session.id = none)
      (unknown : session.lookupHash ≠ [] → store.retired.get? session.lookupHash = none ∧
        ∀ id card, cards store.sessions id = some card → card.lookupHash ≠ session.lookupHash)
      (cards_eq : ∀ id, cards later.sessions id = if id = session.id then some session.card
        else cards store.sessions id)
      (retired : later.retired = store.retired)
  | revoked (id : Str) (card : PairCard) (stored : cards store.sessions id = some card)
      (cards_eq : ∀ other, cards later.sessions other =
        if other = id then some { card with revokedAt := some now } else cards store.sessions other)
      (retired : later.retired = if card.lookupHash = [] ∨
        (store.retired.get? card.lookupHash).isSome then store.retired
        else store.retired.set card.lookupHash now)
  | swept (cards_eq : ∀ id, cards later.sessions id =
        (cards store.sessions id).filter fun card => card.revokedAt = none ∧ now < card.expiresAt)
      (kept : ∀ hash retiredAt, later.retired.get? hash = some retiredAt →
        store.retired.get? hash = some retiredAt ∨
          (retiredAt = now ∧ ∃ id card, cards store.sessions id = some card ∧
          card.lookupHash = hash ∧ ¬ (card.revokedAt = none ∧ now < card.expiresAt)))
      (held : ∀ hash, later.retired.get? hash = none →
        ∀ retiredAt, store.retired.get? hash = some retiredAt →
        retiredAt ≤ now - ports.tombstoneTtl)
      (added : ∀ id card, cards store.sessions id = some card → card.lookupHash ≠ [] →
        ¬ (card.revokedAt = none ∧ now < card.expiresAt) →
          (later.retired.get? card.lookupHash).isSome)

/-- The tombstones after those of some sessions were added: an old one stays as it is. -/
lemma get?_tombstones (ended : PairSession → Bool) (hash : Str) :
    ∀ (rows : List PairSession) (retired : Dict Str Int),
    (rows.foldl (fun retired session => if ended session ∧ session.lookupHash ≠ [] ∧
      (retired.get? session.lookupHash).isNone then retired.set session.lookupHash now else retired)
        retired).get? hash =
      (retired.get? hash).or (if ∃ row ∈ rows, ended row ∧ row.lookupHash ≠ [] ∧
        row.lookupHash = hash then some now else none)
  | [], retired => by simp
  | row :: rest, retired => by
    rw [foldl_cons, get?_tombstones ended hash rest]
    by_cases adds : ended row ∧ row.lookupHash ≠ [] ∧ (retired.get? row.lookupHash).isNone
    · rw [if_pos adds, get?_set]
      split
      · simp_all
      · rename_i differ
        simp only [exists_mem_cons_iff, Ne.symm differ, and_false, false_or]
    · rw [if_neg adds]
      cases known : retired.get? hash with
      | some retiredAt => rfl
      | none =>
        have skips : ¬ (ended row ∧ row.lookupHash ≠ [] ∧ row.lookupHash = hash) := by
          rintro ⟨gone, nonempty, rfl⟩
          exact adds ⟨gone, nonempty, by rw [known]; rfl⟩
        simp only [exists_mem_cons_iff, skips, false_or]

lemma recorded_cleanup :
    Recorded ports store (cleanupExpired ports store now) now .cleanupExpired := by
  have live : ∀ session : PairSession,
      (!decide (session.revokedAt ≠ none ∨ session.expiresAt ≤ now)) = true ↔
      session.card.revokedAt = none ∧ now < session.card.expiresAt := by
    intro session
    simp [PairSession.card]
  have known : ∀ hash, (cleanupExpired ports store now).retired.get? hash = _ :=
    fun hash => get?_tombstones _ hash _ _
  simp only [get?_filter] at known
  -- A tombstone is kept from before, or written for a session that ended.
  refine .swept (fun id => ?_) (fun hash retiredAt found => ?_)
    (fun hash absent retiredAt found => ?_) fun id card stored nonempty ended => ?_
  · show ((store.sessions.filter _).get? id).map PairSession.card = _
    rw [get?_filter, cards]
    cases store.sessions.get? id with
    | none => rfl
    | some session =>
      grind
  · rw [known] at found
    rcases Option.or_eq_some_iff.mp found with old | ⟨_, new⟩
    · exact .inl (Option.filter_eq_some_iff.mp old).1
    · split at new
      · rename_i row
        obtain ⟨session, listed, ended, _, same⟩ := row
        obtain ⟨id, stored⟩ := mem_values.mp listed
        refine .inr ⟨(Option.some.inj new).symm, id, session.card, cards_of stored, same,
          fun alive => ?_⟩
        · have still := (live session).mpr alive
          simp_all
      · cases new
  · grind
  · rw [known]
    obtain ⟨session, found, rfl⟩ := Option.map_eq_some_iff.mp stored
    have row : ∃ row ∈ store.sessions.values, decide (row.revokedAt ≠ none ∨ row.expiresAt ≤ now) =
        true ∧ row.lookupHash ≠ [] ∧ row.lookupHash = session.card.lookupHash := by
      refine ⟨session, mem_values.mpr ⟨id, found⟩, ?_, nonempty, rfl⟩
      by_contra alive
      exact ended ((live session).mp (by simpa using alive))
    rw [if_pos row]
    simp

/-- Every call that succeeds does one of these things. -/
lemma Sound.recorded (sound : Sound store.sessions now) {call : PairCall}
    (succeeded : call.run ports store now = .ok (reply, altered)) :
    Recorded ports store altered now call := by
  cases call with
  | createSession args =>
    simp only [PairCall.run, Ananta.createSession, ok_iff] at succeeded
    obtain ⟨⟨session, request⟩, prepared, _, unretired, created⟩ := succeeded
    split at created
    · rename_i existing found
      simp only [ok_iff, Prod.mk.injEq] at created
      obtain ⟨_, _, _, _, written, set, _, rfl⟩ := created
      exact .same (cards_kept (sound.stored (mem_of_find?_eq_some found)).1 (cards_setRuntime set))
        rfl
    · rename_i unknown
      simp only [ok_iff, Prod.mk.injEq, Option.not_isSome_iff_eq_none] at created
      obtain ⟨_, absent, _, _, written, set, _, rfl⟩ := created
      -- Neither a tombstone nor a stored session has the capability.
      refine .opened args session request rfl prepared ?_
        (fun nonempty => ⟨?_, fun id card stored same => ?_⟩) (fun id => ?_) rfl
      · rw [cards, absent]
        rfl
      · simpa [nonempty] using unretired
      · obtain ⟨row, held, rfl⟩ := Option.map_eq_some_iff.mp stored
        have skipped := find?_eq_none.mp unknown row (mem_values.mpr ⟨id, held⟩)
        simp only [decide_eq_true_eq] at skipped
        exact skipped ⟨nonempty, same⟩
      · split at set
        · exact cards_setRuntime set id
        · cases set
          exact cards_set session.id id
  | joinSession args =>
    simp only [PairCall.run, Ananta.joinSession, bind_eq_ok] at succeeded
    obtain ⟨⟨session, member⟩, target, joined⟩ := succeeded
    obtain ⟨stored, _⟩ := sound.stored (JoinArgs.target_spec target).1
    split at joined
    · simp only [ok_iff, Prod.mk.injEq] at joined
      obtain ⟨_, _, _, _, _, _, _, _, _, activated, _, rfl⟩ := joined
      exact .same (cards_activated stored activated rfl) rfl
    · simp only [ok_iff, Prod.mk.injEq] at joined
      obtain ⟨_, _, _, _, _, activated, _, rfl⟩ := joined
      exact .same (cards_activated stored activated rfl) rfl
  | setMembershipRuntime sessionId caller state =>
    simp only [PairCall.run, Ananta.setMembershipRuntime, ok_iff, Prod.mk.injEq] at succeeded
    obtain ⟨session, found, _, _, _, set, _, rfl⟩ := succeeded
    obtain ⟨stored, rfl, _⟩ := sound.found found
    exact .same (cards_kept stored (cards_setRuntime set)) rfl
  | leaveSession sessionId caller =>
    simp only [PairCall.run, Ananta.leaveSession, bind_eq_ok] at succeeded
    obtain ⟨session, found, _, _, left⟩ := succeeded
    obtain ⟨stored, rfl, _⟩ := sound.found found
    split at left
    · split at left
      · cases left
        exact .same rfl rfl
      · cases left
    · cases left
    · cases left
      exact .same (cards_written stored rfl) rfl
  | revokeSession sessionId caller =>
    simp only [PairCall.run, Ananta.revokeSession, ok_iff, Prod.mk.injEq] at succeeded
    obtain ⟨session, found, _, _, _, _, _, rfl⟩ := succeeded
    obtain ⟨stored, rfl, _⟩ := sound.found found
    exact .revoked session.id session.card (cards_of stored)
      (fun other => cards_set session.id other) rfl
  | putKeyConfirmation args =>
    simp only [PairCall.run, Ananta.putKeyConfirmation, bind_eq_ok] at succeeded
    obtain ⟨_, _, _, _, session, found, _, _, _, _, _, _, _, _, put⟩ := succeeded
    obtain ⟨stored, _, _⟩ := sound.found found
    split at put
    · cases put
    · simp only [ok_iff, Prod.mk.injEq] at put
      obtain ⟨_, _, _, _, _, _, _, _, _, rfl⟩ := put
      exact .same (cards_written stored rfl) rfl
  | pushSignal args =>
    obtain ⟨session, _, stored, _, _, rfl, _⟩ := pushSignal_spec succeeded
    exact .same (cards_written (sound.own stored) rfl) rfl
  | pollSignals sessionId caller since securityEpoch =>
    obtain ⟨session, _, stored, _, _, _, _, _, rfl⟩ := pollSignals_spec succeeded
    exact .same (cards_written (sound.own stored) rfl) rfl
  | cleanupExpired =>
    cases succeeded
    exact recorded_cleanup

/-- Calls that fail change nothing. -/
lemma Sound.step_recorded {input : Int × PairCall} (sound : Sound store.sessions input.1) :
    Recorded ports store ((rendezvous ports).step store input).2 input.1 input.2 := by
  unfold rendezvous
  dsimp only
  split
  · rename_i succeeded
    exact sound.recorded succeeded
  · exact .same rfl rfl

section

structure PairPorts.CollisionFree (ports : PairPorts) : Prop where
  lookup : ∀ {accountId peerId capability accountId' peerId' capability'},
    ports.lookupDigest accountId peerId capability =
      ports.lookupDigest accountId' peerId' capability' →
      accountId = accountId' ∧ peerId = peerId' ∧ capability = capability'
  lookup_ne : ∀ accountId peerId capability, ports.lookupDigest accountId peerId capability ≠ []
  request : Function.Injective ports.requestDigest

def CreateArgs.Presents (ports : PairPorts) (args : CreateArgs)
    (accountId peerId capability : Str) : Prop :=
  args.version = 2 ∧ args.userId = accountId ∧
    "peer:" ++ ports.peerDigest args.userId (lower (strip args.fingerprint)) = peerId ∧
      strip args.capability = capability

variable {args : CreateArgs} {request : CreateRequest} {inputs : List (Int × PairCall)}

/-- What a call that passes the checks asks for. -/
lemma CreateArgs.prepared_spec (prepared : args.prepared ports now = .ok (session, request)) :
    session.revokedAt = none ∧ session.version = args.version ∧
      (args.version ≠ 2 → session.lookupHash = []) ∧
      ∀ {accountId peerId capability}, args.Presents ports accountId peerId capability →
        session.lookupHash = ports.lookupDigest accountId peerId capability ∧
          session.requestHash = ports.requestDigest request ∧
        session.owner.accountId = accountId ∧ session.owner.peerId = peerId ∧
          session.owner.mediaVersion = request.mediaVersion ∧
        session.owner.capabilityHash =
          ports.capabilityDigest session.id accountId peerId capability := by
  simp only [CreateArgs.prepared, ok_iff, Prod.mk.injEq] at prepared
  obtain ⟨_, _, _, _, _, _, _, _, _, _, _, _, _, _, _, _, rfl, rfl⟩ := prepared
  refine ⟨rfl, rfl, fun first => if_neg first, ?_⟩
  rintro _ _ _ ⟨second, rfl, rfl, rfl⟩
  simp only [DeviceArgs.member, DeviceArgs.normalized, if_pos second, and_self]

/-- A call that passed the checks passes them again, as long as the session that it asked for is not
expired. -/
lemma CreateArgs.prepared_again {again : Int}
    (prepared : args.prepared ports now = .ok (session, request)) (live : again < session.expiresAt)
    (sid code : Str) :
    ∃ next, ({ args with sid, code } : CreateArgs).prepared ports again = .ok (next, request) := by
  simp only [CreateArgs.prepared, ok_iff, Prod.mk.injEq] at prepared ⊢
  obtain ⟨_, identity, _, version, media, advertised, _, bound, _, required, _, valid, _, device, _,
    _, rfl, rfl⟩ := prepared
  refine ⟨_, (), identity, (), version, media, advertised, (), bound, (), required, (), valid, _,
    device, (), ?_, rfl, rfl⟩
  rintro ⟨requested, given, past⟩
  rw [Option.mem_def.mp given] at live
  simp only [Option.map_some, Option.getD_some] at live
  omega

/-- Every card is that of the call that opened its session, no two have one capability, and none of
them is retired. -/
structure CardsKept (ports : PairPorts) (inputs : List (Int × PairCall))
    (store : PairStore) : Prop where
  made : ∀ id card, cards store.sessions id = some card → card.lookupHash ≠ [] →
    ∃ time args session request,
    (time, PairCall.createSession args) ∈ inputs ∧
      args.prepared ports time = .ok (session, request) ∧
      card = { session.card with revokedAt := card.revokedAt }
  unique : ∀ id other card rival, cards store.sessions id = some card →
    cards store.sessions other = some rival →
    card.lookupHash ≠ [] → card.lookupHash = rival.lookupHash → id = other
  unretired : ∀ id card, cards store.sessions id = some card → card.lookupHash ≠ [] →
    card.revokedAt = none → store.retired.get? card.lookupHash = none

lemma CardsKept.step {call : PairCall} (kept : CardsKept ports inputs store)
    (recorded : Recorded ports store altered now call) :
    CardsKept ports (inputs ++ [(now, call)]) altered := by
  have longer : ∀ {input}, input ∈ inputs → input ∈ inputs ++ [(now, call)] :=
    fun listed => mem_append_left _ listed
  have made : ∀ id card, cards store.sessions id = some card → card.lookupHash ≠ [] →
      ∃ time args session request,
      (time, PairCall.createSession args) ∈ inputs ++ [(now, call)] ∧
        args.prepared ports time = .ok (session, request) ∧
        card = { session.card with revokedAt := card.revokedAt } := by
    intro id card stored nonempty
    obtain ⟨time, args, session, request, listed, rest⟩ := kept.made id card stored nonempty
    exact ⟨time, args, session, request, longer listed, rest⟩
  cases recorded with
  | same cards_eq retired => exact ⟨by rwa [cards_eq], by rw [cards_eq]; exact kept.unique, by
      rw [cards_eq, retired]; exact kept.unretired⟩
  | opened args session request made' prepared absent unknown cards_eq retired =>
    refine ⟨fun id card stored nonempty => ?_,
      fun id other card rival stored also nonempty same => ?_,
        fun id card stored nonempty unrevoked => ?_⟩
    · rw [cards_eq] at stored
      split at stored
      · cases stored
        exact ⟨now, args, session, request, by rw [made']; simp, prepared, rfl⟩
      · exact made id card stored nonempty
    · rw [cards_eq] at stored also
      split at stored
      · rename_i first
        cases stored
        split at also
        · rename_i second
          rw [first, second]
        · exact absurd same.symm ((unknown nonempty).2 other rival also)
      · split at also
        · cases also
          rw [same] at nonempty
          exact absurd same ((unknown nonempty).2 id card stored)
        · exact kept.unique id other card rival stored also nonempty same
    · rw [cards_eq] at stored
      rw [retired]
      split at stored
      · cases stored
        exact (unknown nonempty).1
      · exact kept.unretired id card stored nonempty unrevoked
  | revoked id card stored cards_eq retired =>
    -- A card that is stored afterwards was stored before, up to its revocation.
    have before : ∀ {other written}, cards altered.sessions other = some written →
        ∃ old, cards store.sessions other = some old ∧
        written = { old with revokedAt := written.revokedAt } ∧ (other ≠ id → written = old) := by
      intro other written found
      rw [cards_eq] at found
      split at found
      · rename_i same
        cases found
        exact ⟨card, same ▸ stored, rfl, fun differ => absurd same differ⟩
      · exact ⟨written, found, rfl, fun _ => rfl⟩
    refine ⟨fun other written found nonempty => ?_,
      fun other another written rival found also nonempty same => ?_,
        fun other written found nonempty unrevoked => ?_⟩
    · obtain ⟨old, held, equal, _⟩ := before found
      rw [equal] at nonempty
      grind
    · obtain ⟨old, held, equal, _⟩ := before found
      obtain ⟨former, known, equal', _⟩ := before also
      rw [equal] at nonempty same
      rw [equal'] at same
      exact kept.unique other another old former held known nonempty same
    · obtain ⟨old, held, _, others⟩ := before found
      have differ : other ≠ id := by
        rintro rfl
        rw [cards_eq, if_pos rfl] at found
        cases found
        cases unrevoked
      rw [others differ] at unrevoked nonempty ⊢
      have none := kept.unretired other old held nonempty unrevoked
      rw [retired]
      split
      · exact none
      · rwa [get?_set, if_neg fun same =>
          differ (kept.unique other id old card held stored nonempty same)]
  | swept cards_eq stones _ _ =>
    have before : ∀ {id card}, cards altered.sessions id = some card →
        cards store.sessions id = some card ∧ (card.revokedAt = none ∧ now < card.expiresAt) := by
      intro id card found
      rw [cards_eq] at found
      obtain ⟨stored, live⟩ := Option.filter_eq_some_iff.mp found
      exact ⟨stored, of_decide_eq_true live⟩
    refine ⟨fun id card found => made id card (before found).1,
      fun id other card rival found also =>
      kept.unique id other card rival (before found).1 (before also).1,
        fun id card found nonempty unrevoked => ?_⟩
    obtain ⟨stored, live⟩ := before found
    by_contra stone
    obtain ⟨retiredAt, known⟩ := Option.ne_none_iff_exists'.mp stone
    rcases stones _ _ known with old | ⟨_, other, rival, held, same, ended⟩
    · cases (kept.unretired id card stored nonempty unrevoked).symm.trans old
    · rw [kept.unique id other card rival stored held nonempty same.symm, held] at stored
      cases stored
      exact ended live

lemma cardsKept_after (ordered : inputs.Pairwise (·.1 ≤ ·.1)) :
    CardsKept ports inputs ((rendezvous ports).after (rendezvous ports).initial inputs) := by
  refine (rendezvous ports).after_of_history (fun inputs store => inputs.Pairwise (·.1 ≤ ·.1) →
    CardsKept ports inputs store)
    (fun _ => ⟨nofun, nofun, nofun⟩) (fun inputs input kept ordered => ?_) inputs ordered
  obtain ⟨earlier, _, before⟩ := pairwise_append.mp ordered
  have sound : Sound ((rendezvous ports).after (rendezvous ports).initial inputs).sessions
    input.1 :=
    sound_after earlier fun old listed => before old listed input (mem_singleton_self _)
  exact (kept earlier).step sound.step_recorded

/-- From some time on a capability is held back, by an ended session or by a tombstone, for as long
as tombstones last. -/
structure Retired (ports : PairPorts) (hash : Str) (since : Int) (store : PairStore)
    (now : Int) : Prop where
  since_le : since ≤ now
  stones : ∀ retiredAt, store.retired.get? hash = some retiredAt → since ≤ retiredAt
  held : (∃ id card, cards store.sessions id = some card ∧ card.lookupHash = hash ∧
      ¬ (card.revokedAt = none ∧ now < card.expiresAt)) ∨
    (store.retired.get? hash).isSome ∨ since + ports.tombstoneTtl ≤ now

variable {hash : Str} {since before : Int}

lemma Retired.later (retired : Retired ports hash since store before) (ordered : before ≤ now) :
    Retired ports hash since store now := by
  refine ⟨retired.since_le.trans ordered, retired.stones, ?_⟩
  rcases retired.held with ⟨id, card, stored, same, ended⟩ | stone | past
  · exact .inl ⟨id, card, stored, same, fun live => ended ⟨live.1, ordered.trans_lt live.2⟩⟩
  · exact .inr (.inl stone)
  · exact .inr (.inr (past.trans ordered))

lemma Retired.step {call : PairCall} (retired : Retired ports hash since store now)
    (nonempty : hash ≠ []) (recorded : Recorded ports store altered now call) :
    Retired ports hash since altered now := by
  obtain ⟨since_le, stones, held⟩ := retired
  cases recorded with
  | same cards_eq same =>
    rw [← cards_eq] at held
    rw [← same] at held stones
    exact ⟨since_le, stones, held⟩
  | opened args session request made prepared absent unknown cards_eq same =>
    refine ⟨since_le, by rwa [same], ?_⟩
    rw [same]
    refine held.imp ?_ id
    rintro ⟨id, card, stored, equal, ended⟩
    refine ⟨id, card, ?_, equal, ended⟩
    rw [cards_eq, if_neg, stored]
    rintro rfl
    cases absent.symm.trans stored
  | revoked id card stored cards_eq same =>
    refine ⟨since_le, fun retiredAt known => ?_, ?_⟩
    · rw [same] at known
      split at known
      · exact stones retiredAt known
      · rw [get?_set] at known
        grind
    · rcases held with ⟨other, old, known, equal, ended⟩ | stone | past
      · refine .inl ⟨other, if other = id then { card with revokedAt := some now }
          else old, ?_, ?_, ?_⟩
        · rw [cards_eq]
          split
          · rfl
          · exact known
        · split
          · rename_i same
            rw [same, stored] at known
            cases known
            exact equal
          · exact equal
        · split
          · exact fun live => by cases live.1
          · exact ended
      · refine .inr (.inl ?_)
        rw [same]
        split
        · exact stone
        · rw [get?_set]
          split
          · rfl
          · exact stone
      · exact .inr (.inr past)
  | swept cards_eq kept dropped added =>
    refine ⟨since_le, fun retiredAt known => ?_, ?_⟩
    · grind
    · rcases held with ⟨id, card, stored, rfl, ended⟩ | stone | past
      -- The sweep drops the ended session and leaves its tombstone.
      · exact .inr (.inl (added id card stored nonempty ended))
      · rcases found : altered.retired.get? hash with _ | _
        · obtain ⟨retiredAt, known⟩ := Option.isSome_iff_exists.mp stone
          grind
        · exact .inr (.inl rfl)
      · exact .inr (.inr past)

lemma Retired.after (nonempty : hash ≠ []) : ∀ {more : List (Int × PairCall)} {store : PairStore}
    {before : Int},
    Retired ports hash since store before → Sound store.sessions before →
      more.Pairwise (·.1 ≤ ·.1) →
      (∀ input ∈ more, before ≤ input.1) → (∀ input ∈ more, input.1 ≤ now) → before ≤ now →
      Retired ports hash since ((rendezvous ports).after store more) now
  | [], _, _, retired, _, _, _, _, latest => retired.later latest
  | input :: rest, store, _, retired, sound, ordered, start, latest, _ => by
    rw [pairwise_cons] at ordered
    rw [forall_mem_cons] at start latest
    have current := sound.later start.1
    rw [Machine.after_cons]
    exact Retired.after nonempty ((retired.later start.1).step nonempty current.step_recorded)
      (current.step input.2).sound ordered.2 ordered.1 latest.2 latest.1

variable (kept : CardsKept ports inputs store)
  (stored : store.sessions.get? session.id = some session)
include kept stored

/-- The row that is found for a capability is the one that holds it. -/
lemma CardsKept.find (nonempty : hash ≠ []) (same : session.lookupHash = hash) :
    (store.sessions.values.find? fun row => hash ≠ [] ∧ row.lookupHash = hash) = some session := by
  have listed := mem_values.mpr ⟨_, stored⟩
  rcases found : store.sessions.values.find? fun row => hash ≠ [] ∧
    row.lookupHash = hash with _ | row
  · exact absurd (decide_eq_true (And.intro nonempty same)) (find?_eq_none.mp found session listed)
  · have named := find?_some found
    simp only [decide_eq_true_eq] at named
    obtain ⟨id, known⟩ := mem_values.mp (mem_of_find?_eq_some found)
    have equal := kept.unique id session.id row.card session.card (cards_of known) (cards_of stored)
      (by rwa [show row.card.lookupHash = hash from named.2]) (named.2.trans same.symm)
    rw [equal, stored] at known
    exact found.trans known.symm

omit stored in
/-- A capability that is held back is refused until its tombstone is gone. -/
lemma Retired.refused (retired : Retired ports hash since store now)
    (sound : Sound store.sessions now) (nonempty : hash ≠ [])
    (early : now < since + ports.tombstoneTtl)
    (presents : ∀ session request, args.prepared ports now = .ok (session, request) →
      session.lookupHash = hash) :
    ∃ reason, createSession ports store now args = .error reason := by
  rcases created : createSession ports store now args with reason | ⟨reply, later⟩
  · exact ⟨reason, rfl⟩
  · simp only [Ananta.createSession, ok_iff] at created
    obtain ⟨⟨session, request⟩, prepared, _, unretired, created⟩ := created
    have same := presents session request prepared
    rw [same] at unretired created
    rcases retired.held with ⟨id, card, stored, equal, ended⟩ | stone | past
    · obtain ⟨row, known, rfl⟩ := Option.map_eq_some_iff.mp stored
      obtain ⟨rfl, _⟩ := sound.keyed known
      rw [kept.find known nonempty equal] at created
      simp only [ok_iff] at created
      obtain ⟨_, alive, _⟩ := created
      exact absurd (not_not.mp alive) ended
    · exact absurd ⟨nonempty, stone⟩ unretired
    · omega

/-- What a call that presents the capability of a session has to name. -/
def PairSession.Matches (session : PairSession) (ports : PairPorts) (next : PairSession)
    (capability : Str) : Prop :=
  session.requestHash = next.requestHash ∧ session.version = 2 ∧
    session.owner.mediaVersion = next.owner.mediaVersion ∧
    session.owner.capabilityHash =
      ports.capabilityDigest session.id next.owner.accountId next.owner.peerId capability
  deriving Decidable

variable (nonempty : session.lookupHash ≠ [])
include nonempty

/-- What a call that presents the capability of a live session is answered. -/
lemma CardsKept.answer {next : PairSession} (live : session.Live now)
    (prepared : args.prepared ports now = .ok (next, request))
    (same : next.lookupHash = session.lookupHash) :
    (((rendezvous ports).step store (now, .createSession args)).1 = .ok (.session session.id true) ↔
      session.Matches ports next (strip args.capability)) ∧
      (((rendezvous ports).step store (now, .createSession args)).1 ≠
        .ok (.session session.id true) →
        ((rendezvous ports).step store (now, .createSession args)).1 =
          .error "membership_capability_conflict" ∧
          ((rendezvous ports).step store (now, .createSession args)).2 = store) := by
  have unretired : store.retired.get? next.lookupHash = none := by
    rw [same]
    exact kept.unretired session.id session.card (cards_of stored) nonempty live.1
  -- One session per capability: the search finds this one.
  have found := kept.find stored (same ▸ nonempty) same.symm
  have run : createSession ports store now args =
    if session.Matches ports next (strip args.capability) then
      (setMembershipRuntimeLocked store.sessions session (none, session.owner) .active now).map
        fun sessions =>
        (.session session.id true, { store with sessions })
          else .error "membership_capability_conflict" := by
    unfold Ananta.createSession
    rw [bind_of_ok prepared]
    dsimp only
    rw [bind_of_passed (by rw [unretired]; simp), found]
    dsimp only
    rw [bind_of_passed (not_not.mpr live)]
    split
    · rename_i matching
      unfold PairSession.Matches at matching
      rw [bind_of_passed (not_not.mpr matching)]
      cases setMembershipRuntimeLocked store.sessions session (none, session.owner)
        .active now <;> rfl
    · rename_i differs
      unfold PairSession.Matches at differs
      rw [bind_of_raised differs]
  by_cases matching : session.Matches ports next (strip args.capability)
  · have set : ∃ written, setMembershipRuntimeLocked store.sessions session (none, session.owner)
        .active now = .ok written := by
      unfold setMembershipRuntimeLocked
      rw [bind_of_passed (not_not.mpr matching.2.1)]
      exact ⟨_, rfl⟩
    obtain ⟨written, set⟩ := set
    rw [if_pos matching, set] at run
    rw [step_of_ok (.createSession args) run]
    exact ⟨iff_of_true rfl matching, fun other => absurd rfl other⟩
  · rw [if_neg matching] at run
    rw [step_of_error (.createSession args) run]
    grind

/-- A session that a step has revoked leaves a tombstone of that time. -/
lemma CardsKept.revoked {input : Int × PairCall} {ended : PairSession}
    (sound : Sound store.sessions input.1) (unrevoked : session.revokedAt = none)
    (found : ((rendezvous ports).step store input).2.sessions.get? session.id = some ended)
    (gone : ended.revokedAt ≠ none) :
    Retired ports session.lookupHash input.1 ((rendezvous ports).step store input).2 input.1 := by
  have card := cards_of stored
  have written := cards_of found
  -- No other change of the card revokes the session.
  have differ :
      cards ((rendezvous ports).step store input).2.sessions session.id ≠ some session.card := by
    intro same
    have equal := congrArg PairCard.revokedAt (Option.some.inj (written.symm.trans same))
    exact gone (equal.trans unrevoked)
  cases (sound.step_recorded : Recorded ports ..) with
  | same cards_eq retired => exact absurd (cards_eq ▸ card) differ
  | opened args opened request made prepared absent unknown cards_eq retired =>
    grind
  | revoked id old known cards_eq retired =>
    by_cases same : session.id = id
    · rw [← same, card] at known
      cases known
      have none := kept.unretired session.id session.card card nonempty unrevoked
      have fresh : ¬ (session.card.lookupHash = [] ∨
          (store.retired.get? session.card.lookupHash).isSome) := by
        rw [none]
        exact not_or.mpr ⟨nonempty, by simp⟩
      rw [if_neg fresh] at retired
      have stone : ((rendezvous ports).step store input).2.retired.get? session.lookupHash =
          some input.1 := by
        rw [retired]
        exact get?_set_self ..
      refine ⟨le_rfl, fun retiredAt known => ?_, .inr (.inl ?_)⟩
      · cases stone.symm.trans known
        exact le_rfl
      · rw [stone]
        rfl
    · rw [cards_eq, if_neg same] at differ
      exact absurd card differ
  | swept cards_eq _ _ _ =>
    simp_all

end

/-- A capability has one session at most, leads back to it while it is live, and is refused for a
time after it has ended. -/
theorem owner_capability_once (ports : PairPorts) (free : ports.CollisionFree)
    (accountId peerId capability : Str) (inputs more : List (Int × PairCall)) (now : Int)
    (args : CreateArgs) (presents : args.Presents ports accountId peerId capability)
    (ordered : (inputs ++ (more ++ [(now, PairCall.createSession args)])).Pairwise (·.1 ≤ ·.1)) :
    let store := (rendezvous ports).after (rendezvous ports).initial inputs
    let hash := ports.lookupDigest accountId peerId capability
    (∀ id other session another, store.sessions.get? id = some session →
      store.sessions.get? other = some another →
        session.lookupHash = hash → another.lookupHash = hash → id = other) ∧
      (∀ id session, store.sessions.get? id = some session → session.lookupHash = hash →
        session.Live now →
        ∃ time first opened request, (time, PairCall.createSession first) ∈ inputs ∧
          first.Presents ports accountId peerId capability ∧
            first.prepared ports time = .ok (opened, request) ∧
          (∀ sid code, ((rendezvous ports).step store
            (now, .createSession { first with sid, code })).1 = .ok (.session id true)) ∧
          ((((rendezvous ports).step store (now, .createSession args)).1 = .ok (.session id true) ↔
              ∃ next, args.prepared ports now = .ok (next, request)) ∧
            (((rendezvous ports).step store (now, .createSession args)).1 ≠ .ok (.session id true) →
              ∃ reason, (rendezvous ports).step store (now, .createSession args) =
                (.error reason, store)))) ∧
      ∀ id session since, store.sessions.get? id = some session → session.lookupHash = hash →
        session.revokedAt = none → now < since + ports.tombstoneTtl →
        (since = session.expiresAt ∧
          (∀ input ∈ more ++ [(now, .createSession args)], since ≤ input.1) ∨
          ∃ input rest revoked, more = input :: rest ∧ since = input.1 ∧
            ((rendezvous ports).step store input).2.sessions.get? id = some revoked ∧
              revoked.revokedAt ≠ none) →
        ∃ reason, ((rendezvous ports).step ((rendezvous ports).after store more)
          (now, .createSession args)).1 = .error reason := by
  intro store hash
  obtain ⟨past, future, between⟩ := pairwise_append.mp ordered
  obtain ⟨onward, _, last⟩ := pairwise_append.mp future
  have latest : ∀ input ∈ inputs, input.1 ≤ now := fun input listed =>
    between input listed (now, PairCall.createSession args) (by simp)
  have kept : CardsKept ports inputs store := cardsKept_after past
  have nonempty : hash ≠ [] := free.lookup_ne accountId peerId capability
  refine ⟨fun id other session another stored also first second => ?_,
    fun id session stored same live => ?_,
      fun id session since stored same unrevoked early ended => ?_⟩
  · exact kept.unique id other session.card another.card (cards_of stored) (cards_of also)
      (fun empty => nonempty (first.symm.trans empty)) (first.trans second.symm)
  · obtain ⟨rfl, _⟩ := (sound_after past latest).keyed stored
    have filled := same ▸ nonempty
    obtain ⟨time, first, opened, request, listed, prepared, card⟩ :=
      kept.made session.id session.card (cards_of stored) filled
    have origin := card
    simp only [PairSession.card, PairCard.mk.injEq] at origin
    obtain ⟨sameId, sameLookup, sameRequest, sameVersion, sameExpiry, _, sameMedia,
      sameCapability⟩ := origin
    obtain ⟨_, version, unbound, bound⟩ := CreateArgs.prepared_spec prepared
    have second : first.version = 2 := by
      by_contra other
      exact filled (sameLookup.trans (unbound other))
    have presented : first.Presents ports accountId peerId capability := by
      have lookup := (bound ⟨second, rfl, rfl, rfl⟩).1
      obtain ⟨account, peer, cap⟩ := free.lookup (lookup.symm.trans (sameLookup.symm.trans same))
      exact ⟨second, account, peer, cap⟩
    obtain ⟨_, hashed, _, _, media, capabilityHash⟩ := bound presented
    -- A call whose request is that of the first one is led back to the session.
    have back : ∀ {call : CreateArgs} {next}, call.Presents ports accountId peerId capability →
        call.prepared ports now = .ok (next, request) →
        ((rendezvous ports).step store (now, .createSession call)).1 =
          .ok (.session session.id true) := by
      intro call next presents again
      obtain ⟨lookup, hashed', account, peer, media', _⟩ :=
        (CreateArgs.prepared_spec again).2.2.2 presents
      refine (kept.answer stored filled live again (lookup.trans same.symm)).1.mpr ⟨?_, ?_, ?_, ?_⟩
      · rw [sameRequest, hashed, hashed']
      · rw [sameVersion, version, second]
      · rw [sameMedia, media, media']
      · rw [sameCapability, capabilityHash, account, peer, presents.2.2.2, ← sameId]
    have failed : ∀ {reason}, args.prepared ports now = .error reason →
        (rendezvous ports).step store (now, .createSession args) = (.error reason, store) := by
      intro reason unprepared
      refine step_of_error _ ?_
      rw [PairCall.run, createSession, unprepared]
      rfl
    refine ⟨time, first, opened, request, listed, presented, prepared, fun sid code => ?_,
      ⟨fun answered => ?_, ?_⟩, fun other => ?_⟩
    · obtain ⟨next, again⟩ := CreateArgs.prepared_again prepared (sameExpiry ▸ live.2) sid code
      exact back presented again
    · rcases again : args.prepared ports now with reason | ⟨next, asked⟩
      · rw [failed again] at answered
        cases answered
      · obtain ⟨lookup, hashed', _⟩ := (CreateArgs.prepared_spec again).2.2.2 presents
        have matching := (kept.answer stored filled live again (lookup.trans same.symm)).1.mp
          answered
        have equal := free.request
          (hashed'.symm.trans (matching.1.symm.trans (sameRequest.trans hashed)))
        exact ⟨next, by rw [equal]⟩
    · rintro ⟨next, again⟩
      exact back presents again
    · rcases again : args.prepared ports now with reason | ⟨next, asked⟩
      · exact ⟨reason, failed again⟩
      · have lookup := ((CreateArgs.prepared_spec again).2.2.2 presents).1
        obtain ⟨answer, state⟩ :=
          (kept.answer stored filled live again (lookup.trans same.symm)).2 other
        exact ⟨_, Prod.ext answer state⟩
  · have filled := same ▸ nonempty
    have soundAt : ∀ {reading}, (∀ input ∈ inputs, input.1 ≤ reading) →
      Sound store.sessions reading := sound_after past
    obtain ⟨rfl, _⟩ := (soundAt latest).keyed stored
    have bound : ∀ input ∈ more, input.1 ≤ now :=
      fun input listed => last input listed _ (mem_singleton_self _)
    have retired : Retired ports hash since ((rendezvous ports).after store more) now := by
      rcases ended with ⟨rfl, expired⟩ | ⟨input, rest, gone, rfl, rfl, found, revoked⟩
      · have start : ∀ {reading}, session.expiresAt ≤ reading →
            Retired ports hash session.expiresAt store reading := by
          intro reading due
          have card := cards_of stored
          refine ⟨due, fun retiredAt stone => ?_,
            .inl ⟨session.id, session.card, card, same, fun live => ?_⟩⟩
          · rw [← same] at stone
            cases (kept.unretired session.id session.card card filled unrevoked).symm.trans stone
          · exact absurd live.2 (not_lt.mpr due)
        cases more with
        | nil => exact start (expired _ (mem_singleton_self _))
        | cons input rest =>
          have first : ∀ old ∈ inputs, old.1 ≤ input.1 :=
            fun old listed => between old listed input (by simp)
          have since : ∀ later ∈ input :: rest, input.1 ≤ later.1 :=
            forall_mem_cons.mpr ⟨le_rfl, (pairwise_cons.mp onward).1⟩
          exact (start (expired input (by simp))).after nonempty (soundAt first) onward since bound
            (bound input (mem_cons_self ..))
      · have first : ∀ old ∈ inputs, old.1 ≤ input.1 :=
          fun old listed => between old listed input (by simp)
        have after := kept.revoked stored filled (soundAt first) unrevoked found revoked
        rw [same] at after
        rw [pairwise_cons] at onward
        rw [forall_mem_cons] at bound
        exact after.after nonempty ((soundAt first).step input.2).sound onward.2 onward.1
          bound.2 bound.1
    have whole := pairwise_append.mpr
      ⟨past, onward, fun old listed later also => between old listed later (mem_append_left _ also)⟩
    have readings := forall_mem_append.mpr ⟨latest, bound⟩
    have reached : CardsKept ports (inputs ++ more) _ := cardsKept_after whole
    have sound : Sound ((rendezvous ports).after _ (inputs ++ more)).sessions now :=
      sound_after whole readings
    rw [Machine.after_append] at reached sound
    obtain ⟨reason, failed⟩ :=
      retired.refused reached sound nonempty early fun next request prepared =>
      ((CreateArgs.prepared_spec prepared).2.2.2 presents).1
    exact ⟨reason, by rw [step_of_error (.createSession args) failed]⟩

/-- A text for each value, as long as the number of the value. -/
noncomputable def unary {α : Type} [Countable α] (value : α) : Str :=
  replicate ((exists_injective_nat α).choose value + 1) 0

lemma unary_injective {α : Type} [Countable α] {value other : α}
    (same : unary value = unary other) : value = other := by
  have lengths := congrArg length same
  simp only [unary, length_replicate, Nat.add_right_cancel_iff] at lengths
  exact (exists_injective_nat α).choose_spec lengths

noncomputable def unaryPairPorts : PairPorts :=
  { plainPairPorts with
    lookupDigest := fun accountId peerId capability => unary (accountId, peerId, capability)
    requestDigest := fun request =>
      unary (request.accountId, request.peerId, request.subjectHash, request.deviceId,
        request.fingerprint, request.publicKey, request.oidcIssuer, request.title,
          request.permissions,
      request.requestedExpiresAt, request.mediaVersion) }

lemma unaryPairPorts_collisionFree : unaryPairPorts.CollisionFree where
  lookup same := by
    have equal := unary_injective same
    simpa only [Prod.mk.injEq] using equal
  lookup_ne _ _ _ := nofun
  request left right same := by
    have equal := unary_injective same
    cases left
    cases right
    simpa only [Prod.mk.injEq, CreateRequest.mk.injEq] using equal

/-- The arguments of the sample device for a session that lasts. -/
def sampleCreateArgs (sid : String) : CreateArgs :=
  { sampleDevice 'a' with
    title := "title", permissions := [], requestedExpiresAt := none, version := 2,
    media := .ok 0, sid := text sid
    code := text sid }

/-- The session that a device has created, and has not been revoked, keeps its capability from being
taken again. -/
theorem owner_capability_once_expired :
    ∃ session, ((rendezvous unaryPairPorts).after (rendezvous unaryPairPorts).initial
      [(1, sampleCreate "one")]).sessions.get? "one" = some session ∧ session.expiresAt = 3601 ∧
      ∃ reason, ((rendezvous unaryPairPorts).step ((rendezvous unaryPairPorts).after
        ((rendezvous unaryPairPorts).after (rendezvous unaryPairPorts).initial
          [(1, sampleCreate "one")])
        [(4000, .cleanupExpired)]) (5000, .createSession (sampleCreateArgs "two"))).1 =
          .error reason := by
  obtain ⟨session, stored, same, unrevoked, expiry⟩ : ∃ session, ((rendezvous unaryPairPorts).after
      (rendezvous unaryPairPorts).initial [(1, sampleCreate "one")]).sessions.get? "one" =
        some session ∧
      session.lookupHash = unaryPairPorts.lookupDigest (sampleDevice 'a').userId
        ("peer:" ++ (sampleDevice 'a').fingerprint) (sampleDevice 'a').capability ∧
      session.revokedAt = none ∧ session.expiresAt = 3601 :=
    ⟨_, rfl, rfl, rfl, rfl⟩
  have once := owner_capability_once unaryPairPorts unaryPairPorts_collisionFree
    (sampleDevice 'a').userId
    ("peer:" ++ (sampleDevice 'a').fingerprint)
    (sampleDevice 'a').capability [(1, sampleCreate "one")]
    [(4000, .cleanupExpired)] 5000 (sampleCreateArgs "two")
      ⟨rfl, rfl, by decide +kernel, by decide +kernel⟩ (by decide)
  exact ⟨session, stored, expiry,
    once.2.2 "one" session 3601 stored same unrevoked (by decide) (.inl ⟨expiry.symm, by decide⟩)⟩

end Ananta
