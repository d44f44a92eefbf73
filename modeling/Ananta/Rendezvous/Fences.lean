import Ananta.Rendezvous.Service

/-! One active runtime for each device, and no transport that outlives the epoch of its session. -/

namespace Ananta

open List PairSession

variable {ports : PairPorts} {sessions : Dict Str PairSession} {store : PairStore}
  {now before : Int}
  {session earlier : PairSession} {quiet : Prop} {member : Option Str × Member}
    {accountId peerId : Str}

lemma sessionWhere_spec {id : Str} {reason otherwise : String} {condition : PairSession → Bool}
    (found : sessionWhere sessions id reason condition otherwise = .ok session) :
    sessions.get? id = some session ∧ condition session := by
  unfold sessionWhere at found
  split at found
  · cases found
  · rename_i stored
    split at found
    · cases found
      exact ⟨stored, ‹_›⟩
    · cases found

lemma strictMemberships_spec {requirePair : Bool} {members : List (Option Str × Member)}
    (strict : strictMemberships ports session requirePair = .ok members) :
    members = session.memberships := by
  simp only [strictMemberships, ok_iff] at strict
  obtain ⟨_, _, _, _, _, _, _, _, _, _, same⟩ := strict
  exact same

lemma resolveMembership_spec {caller : Caller} {ownerRequired : Bool}
    (resolved : resolveMembership ports session caller ownerRequired = .ok member) :
    member ∈ session.memberships ∧
      (session.version = 2 → member.2.peerId = strip caller.peerId) := by
  simp only [resolveMembership, bind_eq_ok] at resolved
  obtain ⟨members, strict, _, _, _, _, resolved⟩ := resolved
  split at resolved
  · cases resolved
  · rename_i found
    simp only [ok_iff] at resolved
    obtain ⟨_, _, _, _, _, _, _, _, rfl⟩ := resolved
    have listed := mem_of_mem_filter (mem_of_find?_eq_some found)
    rw [strictMemberships_spec strict] at listed
    refine ⟨listed, fun second => ?_⟩
    have named := find?_some found
    simpa [second] using named

def PairSession.ActiveFor (session : PairSession) (accountId peerId : Str) : Prop :=
  ∃ member ∈ session.memberships, member.2.runtime = .active ∧ member.2.accountId = accountId ∧
    member.2.peerId = peerId

def PairSession.Between (session : PairSession) (senderId recipientId : Str) : Prop :=
  senderId ≠ recipientId ∧ (∃ member ∈ session.memberships, member.2.peerId = senderId) ∧
    ∃ member ∈ session.memberships, member.2.peerId = recipientId

/-- A session has one guest at most, and keeps only what its members sent in its epoch. -/
structure PairSession.Fenced (session : PairSession) : Prop where
  single : session.guests.Pairwise fun guest other => guest.revokedAt ≠ none ∨
    other.revokedAt ≠ none
  distinct : ∀ guest ∈ session.guests, guest.revokedAt = none →
    guest.member.peerId ≠ session.owner.peerId
  signals : ∀ signal ∈ session.signals, signal.securityEpoch = session.securityEpoch ∧
    session.Between signal.senderId signal.recipientId
  confirmations : ∀ row ∈ session.confirmations, row.epoch = session.securityEpoch ∧
    session.Between row.senderPeerId row.recipientPeerId

/-- How a session comes after another: fenced off by a new epoch, or with the same members and,
after a quiet call, signals. -/
structure PairSession.Follows (quiet : Prop) (session earlier : PairSession) : Prop where
  id : session.id = earlier.id
  version : session.version = earlier.version
  expiresAt : session.expiresAt = earlier.expiresAt
  revoked : session.revokedAt = none → earlier.revokedAt = none
  fence : (earlier.securityEpoch < session.securityEpoch ∧ session.signals = []) ∨
    (session.securityEpoch = earlier.securityEpoch ∧ session.memberships = earlier.memberships ∧
      (quiet → session.revokedAt = none → session.signals = earlier.signals))

lemma PairSession.Follows.refl (session : PairSession) : session.Follows quiet session :=
  ⟨rfl, rfl, rfl, fun unrevoked => unrevoked, .inr ⟨rfl, rfl, fun _ _ => rfl⟩⟩

lemma PairSession.Follows.live (follows : session.Follows quiet earlier) (live : session.Live now) :
    earlier.Live now :=
  ⟨follows.revoked live.1, follows.expiresAt ▸ live.2⟩

/-- A change of the memberships that keeps their devices, and is fenced off by new epochs. -/
structure PairSession.Reshapes (session earlier : PairSession) : Prop where
  id : session.id = earlier.id
  version : session.version = earlier.version
  expiresAt : session.expiresAt = earlier.expiresAt
  revokedAt : session.revokedAt = earlier.revokedAt
  epoch : session.securityEpoch = earlier.securityEpoch
  peer : session.owner.peerId = earlier.owner.peerId
  guests : ∃ change : Guest → Guest, session.guests = earlier.guests.map change ∧
    ∀ guest, (change guest).member.peerId = guest.member.peerId ∧
      (guest.revokedAt ≠ none → (change guest).revokedAt ≠ none)

lemma PairSession.Reshapes.follows (reshapes : session.Reshapes earlier) {base : PairSession}
    (follows : earlier.Follows quiet base) {times : Nat} (some : 0 < times) :
    (session.invalidated times).Follows quiet base := by
  refine ⟨reshapes.id.trans follows.id, reshapes.version.trans follows.version,
    reshapes.expiresAt.trans follows.expiresAt, fun unrevoked =>
      follows.revoked (reshapes.revokedAt ▸ unrevoked), .inl ⟨?_, rfl⟩⟩
  have later : base.securityEpoch ≤ earlier.securityEpoch := by
    rcases follows.fence with new | same
    · exact new.1.le
    · exact same.1.ge
  dsimp only [invalidated]
  rw [reshapes.epoch]
  omega

lemma PairSession.Reshapes.fenced (reshapes : session.Reshapes earlier) (fenced : earlier.Fenced)
    (times : Nat) : (session.invalidated times).Fenced := by
  obtain ⟨change, mapped, kept⟩ := reshapes.guests
  refine ⟨?_, ?_, nofun, nofun⟩
  · dsimp only [invalidated]
    rw [mapped, pairwise_map]
    exact fenced.single.imp fun either => either.imp (kept _).2 (kept _).2
  · intro guest listed unrevoked
    dsimp only [invalidated] at listed ⊢
    rw [mapped] at listed
    obtain ⟨old, known, rfl⟩ := mem_map.mp listed
    rw [(kept old).1, reshapes.peer]
    refine fenced.distinct old known ?_
    by_contra revoked
    exact (kept old).2 revoked unrevoked

lemma PairSession.Reshapes.refl (session : PairSession) : session.Reshapes session :=
  ⟨rfl, rfl, rfl, rfl, rfl, rfl, fun guest => guest, (map_id _).symm,
    fun _ => ⟨rfl, fun revoked => revoked⟩⟩

lemma reshapes_parked (session : PairSession) (device : Member) :
    (session.parked device).Reshapes session := by
  refine ⟨rfl, rfl, rfl, rfl, rfl, ?_, _, rfl, fun guest => ?_⟩
  · unfold parked
    split <;> rfl
  · split
    · exact ⟨rfl, id⟩
    · exact ⟨rfl, id⟩

lemma reshapes_withRuntime (session : PairSession) (state : RuntimeState) (ref : Option Str) :
    (session.withRuntime state ref).Reshapes session := by
  cases ref with
  | none => exact ⟨rfl, rfl, rfl, rfl, rfl, rfl, id, (map_id _).symm, fun _ => ⟨rfl, id⟩⟩
  | some id =>
    refine ⟨rfl, rfl, rfl, rfl, rfl, rfl, _, rfl, fun guest => ?_⟩
    split
    · exact ⟨rfl, fun revoked => revoked⟩
    · exact ⟨rfl, fun revoked => revoked⟩

lemma mem_memberships : member ∈ session.memberships ↔
    member = (none, session.owner) ∨ ∃ guest ∈ session.guests, guest.revokedAt = none ∧
      member = (some guest.id, guest.member) := by
  simp only [memberships, mem_cons, mem_map, mem_filter, decide_eq_true_eq, and_assoc,
    eq_comm (b := member)]

lemma PairSession.Fenced.unique (fenced : session.Fenced) {guest other : Guest}
    (listed : guest ∈ session.guests) (also : other ∈ session.guests)
    (unrevoked : guest.revokedAt = none) (still : other.revokedAt = none) : guest = other := by
  by_contra differ
  have symmetric : Std.Symm fun guest other : Guest => guest.revokedAt ≠ none ∨
    other.revokedAt ≠ none := ⟨fun _ _ => Or.symm⟩
  exact (fenced.single.forall listed also differ).elim (· unrevoked) (· still)

lemma PairSession.Fenced.pair (fenced : session.Fenced) : session.memberships.length ≤ 2 := by
  have single := fenced.single.filter (·.revokedAt = none)
  rw [memberships, length_cons, length_map]
  have each : ∀ guest ∈ session.guests.filter (·.revokedAt = none), guest.revokedAt = none :=
    fun guest listed =>
    of_decide_eq_true (mem_filter.mp listed).2
  generalize session.guests.filter (·.revokedAt = none) = guests at single each
  match guests with
  | [] => exact Nat.le_succ 1
  | [_] => exact le_rfl
  | first :: second :: _ =>
    rw [pairwise_cons] at single
    rcases single.1 second (mem_cons_self ..) with revoked | revoked
    · exact absurd (each first (mem_cons_self ..)) revoked
    · exact absurd (each second (mem_cons_of_mem _ (mem_cons_self ..))) revoked

/-- Parking takes the device out of the session, and activates none. -/
lemma activeFor_parked {device : Member}
    (active : (session.parked device).ActiveFor accountId peerId) :
    session.ActiveFor accountId peerId ∧
      ¬ (accountId = device.accountId ∧ peerId = device.peerId) := by
  obtain ⟨member, listed, runtime, rfl, rfl⟩ := active
  rcases mem_memberships.mp listed with rfl | ⟨guest, known, unrevoked, rfl⟩
  · dsimp only [parked] at runtime ⊢
    split at runtime
    · cases runtime
    · rename_i other
      rw [if_neg other]
      exact ⟨⟨_, mem_memberships.mpr (.inl rfl), runtime, rfl, rfl⟩, other⟩
  · obtain ⟨old, stored, rfl⟩ := mem_map.mp known
    split at runtime
    · cases runtime
    · rename_i other
      rw [if_neg other] at unrevoked ⊢
      refine ⟨⟨_, mem_memberships.mpr (.inr ⟨old, stored, unrevoked, rfl⟩), runtime, rfl, rfl⟩,
        fun same => other ⟨same, unrevoked⟩⟩

/-- Writing the state of a membership activates no other device. -/
lemma activeFor_withRuntime {state : RuntimeState} (fenced : session.Fenced)
    (listed : member ∈ session.memberships)
    (active : (session.withRuntime state member.1).ActiveFor accountId peerId) :
    session.ActiveFor accountId peerId ∨
      (state = .active ∧ accountId = member.2.accountId ∧ peerId = member.2.peerId) := by
  obtain ⟨written, member', runtime, rfl, rfl⟩ := active
  rcases mem_memberships.mp listed with rfl | ⟨guest, known, unrevoked, rfl⟩
  · rcases mem_memberships.mp member' with rfl | ⟨other, stored, still, rfl⟩
    · exact .inr ⟨runtime, rfl, rfl⟩
    · exact .inl ⟨_, mem_memberships.mpr (.inr ⟨other, stored, still, rfl⟩), runtime, rfl, rfl⟩
  · rcases mem_memberships.mp member' with rfl | ⟨other, stored, still, rfl⟩
    · exact .inl ⟨_, mem_memberships.mpr (.inl rfl), runtime, rfl, rfl⟩
    · obtain ⟨old, held, rfl⟩ := mem_map.mp stored
      split at runtime
      · rename_i same
        rw [if_pos same]
        refine .inr ⟨runtime, ?_⟩
        -- There is one guest only that is not revoked.
        rw [fenced.unique held known same.2 unrevoked]
        exact ⟨rfl, rfl⟩
      · rename_i other
        rw [if_neg other] at still ⊢
        exact .inl ⟨_, mem_memberships.mpr (.inr ⟨old, held, still, rfl⟩), runtime, rfl, rfl⟩

/-- What holds between calls: every session is fenced, and no device is active in two live
sessions. -/
structure Sound (sessions : Dict Str PairSession) (now : Int) : Prop where
  keyed : ∀ {id session}, sessions.get? id = some session → session.id = id ∧ session.Fenced
  exclusive : ∀ {id other session another}, sessions.get? id = some session →
    sessions.get? other = some another →
    id ≠ other → session.version = 2 → another.version = 2 → session.Live now → another.Live now →
    ∀ accountId peerId, ¬ (session.ActiveFor accountId peerId ∧ another.ActiveFor accountId peerId)

lemma Sound.later (sound : Sound sessions before) (ordered : before ≤ now) :
    Sound sessions now := by
  refine ⟨sound.keyed, fun stored also differ first second live alive => ?_⟩
  exact sound.exclusive stored also differ first second ⟨live.1, ordered.trans_lt live.2⟩
    ⟨alive.1, ordered.trans_lt alive.2⟩

/-- What a call, quiet or not, does to the sessions: it keeps what holds between calls, and every
session that stays follows. -/
structure Fences (quiet : Prop) (sessions later : Dict Str PairSession) (now : Int) : Prop where
  sound : Sound later now
  follows : ∀ {id earlier session}, sessions.get? id = some earlier → later.get? id = some session →
    session.Follows quiet earlier

section

variable {later : Dict Str PairSession} {state : RuntimeState} {id : Str}
  (sound : Sound sessions now)
include sound

lemma Sound.own (stored : sessions.get? id = some session) :
    sessions.get? session.id = some session := by
  rwa [(sound.keyed stored).1]

lemma Sound.found {reason otherwise : String} {condition : PairSession → Bool}
    (found : sessionWhere sessions id reason condition otherwise = .ok session) :
    sessions.get? session.id = some session ∧ id = session.id ∧ session.Fenced := by
  obtain ⟨stored, _⟩ := sessionWhere_spec found
  obtain ⟨rfl, fenced⟩ := sound.keyed stored
  exact ⟨stored, rfl, fenced⟩

/-- Changes that activate no device for which another session is active keep what holds between
calls. -/
lemma Sound.changed
    (keyed : ∀ {id session}, later.get? id = some session → session.id = id ∧ session.Fenced)
    (follows : ∀ {id earlier session}, sessions.get? id = some earlier →
      later.get? id = some session → session.Follows quiet earlier) (target : Str)
    (device : Str → Str → Prop)
    (activates : ∀ {id session}, later.get? id = some session → session.version = 2 →
      ∀ {accountId peerId},
      session.ActiveFor accountId peerId → (id = target ∧ device accountId peerId) ∨
        ∃ earlier, sessions.get? id = some earlier ∧ earlier.ActiveFor accountId peerId)
    (clear : ∀ {id session}, later.get? id = some session → session.version = 2 → session.Live now →
      id ≠ target →
      ∀ {accountId peerId}, device accountId peerId → ¬ session.ActiveFor accountId peerId) :
    Fences quiet sessions later now := by
  refine ⟨⟨keyed, fun {id other session another} stored also differ first second live alive
    accountId peerId both => ?_⟩, follows⟩
  rcases activates stored first both.1 with ⟨same, chosen⟩ | ⟨old, known, active⟩
  · exact clear also second alive (fun equal => differ (same.trans equal.symm)) chosen both.2
  · rcases activates also second both.2 with ⟨same, chosen⟩ | ⟨former, found, activated⟩
    · exact clear stored first live (fun equal => differ (equal.trans same.symm)) chosen both.1
    · have one := follows known stored
      have two := follows found also
      exact sound.exclusive known found differ (one.version ▸ first) (two.version ▸ second)
        (one.live live) (two.live alive) accountId peerId ⟨active, activated⟩

/-- Writing a session that follows what is stored, and activates nobody, keeps what holds between
calls. -/
lemma Sound.put (named : session.id = id) (fenced : session.Fenced)
    (follows : ∀ {earlier}, sessions.get? id = some earlier → session.Follows quiet earlier)
    (idle : session.version = 2 → ∀ {accountId peerId}, session.ActiveFor accountId peerId →
      ∃ earlier, sessions.get? id = some earlier ∧ earlier.ActiveFor accountId peerId) :
    Fences quiet sessions (sessions.set id session) now := by
  refine sound.changed (fun {id written} found => ?_) (fun {id old written} known found => ?_) []
    (fun _ _ => False)
    (fun {id written} found second {accountId peerId} active => .inr ?_) (fun _ _ _ _ => nofun)
  all_goals rw [get?_set] at found; split at found
  · cases found
    rename_i same
    exact ⟨same ▸ named, fenced⟩
  · exact sound.keyed found
  · cases found
    rename_i same
    exact follows (same ▸ known)
  · cases known.symm.trans found
    exact .refl _
  · cases found
    rename_i same
    exact same ▸ idle second active
  · exact ⟨written, found, active⟩

/-- Writing one session that follows the stored one, and activates nobody, keeps what holds between
calls. -/
lemma Sound.written (stored : sessions.get? earlier.id = some earlier)
    (follows : session.Follows quiet earlier) (fenced : session.Fenced)
    (idle : session.version = 2 → ∀ {accountId peerId}, session.ActiveFor accountId peerId →
      earlier.ActiveFor accountId peerId) :
    Fences quiet sessions (sessions.set earlier.id session) now :=
  sound.put follows.id fenced (fun known => by cases stored.symm.trans known; exact follows)
    fun second _ _ active => ⟨earlier, stored, idle second active⟩

/-- Setting a runtime parks the device elsewhere, and keeps what holds between calls. -/
lemma Sound.setRuntime
    (written : setMembershipRuntimeLocked sessions session member state now = .ok later)
    (listed : member ∈ session.memberships) (fenced : session.Fenced)
    (follows : ∀ earlier, sessions.get? session.id = some earlier → session.Follows quiet earlier)
    (idle : ∀ {accountId peerId}, session.ActiveFor accountId peerId →
      (∃ earlier, sessions.get? session.id = some earlier ∧ earlier.ActiveFor accountId peerId) ∨
        (state = .active ∧ accountId = member.2.accountId ∧ peerId = member.2.peerId)) :
    Fences quiet sessions later now := by
  simp only [setMembershipRuntimeLocked, ok_iff] at written
  obtain ⟨_, _, rfl⟩ := written
  generalize sets : (decide (member.2.runtime ≠ state) || _) = changed
  generalize reshaped :
    (if decide (member.2.runtime ≠ state) = true then session.withRuntime state member.1
      else session) = target
  -- The row is written only when it changes.
  have reshapes : target.Reshapes session := by
    rw [← reshaped]
    split
    · exact reshapes_withRuntime session state member.1
    · exact .refl session
  have written : ∀ {accountId peerId},
      (if changed = true then target.invalidated else target).ActiveFor accountId peerId →
      target.ActiveFor accountId peerId := by
    intro accountId peerId active
    split at active
    · exact active
    · exact active
  -- Any other session is parked, with a new epoch, or stays as it is.
  have others : ∀ {id other},
      (sessions.map fun _ other => other.yielded session.id member.2 state now).get? id =
        some other →
      ∃ old, sessions.get? id = some old ∧
        ((∃ times, 0 < times ∧ other = (old.parked member.2).invalidated times) ∨
        (other = old ∧ old.losses session.id member.2 state now = 0)) := by
    intro id other found
    rw [get?_map] at found
    obtain ⟨old, stored, rfl⟩ := Option.map_eq_some_iff.mp found
    refine ⟨old, stored, ?_⟩
    unfold yielded
    dsimp only
    split
    · rename_i positive
      exact .inl ⟨_, positive, rfl⟩
    · rename_i none
      exact .inr ⟨rfl, Nat.eq_zero_of_not_pos none⟩
  refine sound.changed (fun {id written} found => ?_) (fun {id old written} known found => ?_)
    session.id
    (fun accountId peerId => state = .active ∧ accountId = member.2.accountId ∧
      peerId = member.2.peerId)
    (fun {id written'} found _ {accountId peerId} active => ?_)
    (fun {id written'} found second live differ accountId peerId chosen active => ?_)
  -- Each part is first about the session itself, then about another one.
  all_goals rw [get?_set] at found; split at found
  · rename_i same
    cases found
    split
    · exact ⟨reshapes.id.trans same.symm, reshapes.fenced fenced 1⟩
    simp_all
  · obtain ⟨old, stored, ⟨times, _, rfl⟩ | ⟨rfl, _⟩⟩ := others found
    · exact ⟨(sound.keyed stored).1,
        (reshapes_parked old member.2).fenced (sound.keyed stored).2 times⟩
    · exact sound.keyed stored
  · rename_i same
    cases found
    rw [same] at known
    split
    · exact reshapes.follows (follows old known) Nat.one_pos
    simp_all
  · obtain ⟨earlier, stored, ⟨times, positive, rfl⟩ | ⟨rfl, _⟩⟩ := others found
    · cases known.symm.trans stored
      exact (reshapes_parked old member.2).follows (.refl old) positive
    · cases known.symm.trans stored
      exact .refl _
  · cases found
    have either : session.ActiveFor accountId peerId ∨
        (state = .active ∧ accountId = member.2.accountId ∧ peerId = member.2.peerId) := by
      have now := written active
      rw [← reshaped] at now
      split at now
      · exact activeFor_withRuntime fenced listed now
      · exact .inl now
    grind
  · obtain ⟨old, stored, ⟨times, _, rfl⟩ | ⟨rfl, _⟩⟩ := others found
    · exact .inr ⟨old, stored, (activeFor_parked active).1⟩
    · exact .inr ⟨_, stored, active⟩
  · exact absurd ‹id = session.id› differ
  · obtain ⟨old, stored, ⟨times, _, rfl⟩ | ⟨rfl, none⟩⟩ := others found
    · exact (activeFor_parked active).2 chosen.2
    · have elsewhere := (sound.keyed stored).1 ▸ differ
      rw [losses, if_pos ⟨chosen.1, elsewhere⟩, activeRows, if_pos ⟨second, live⟩,
        length_eq_zero_iff, filter_eq_nil_iff] at none
      obtain ⟨row, member', runtime, account, peer⟩ := active
      refine none row member' ?_
      rw [decide_eq_true_eq]
      exact ⟨⟨account.trans chosen.2.1, peer.trans chosen.2.2⟩, runtime⟩

lemma Sound.fences : Fences quiet sessions sessions now :=
  ⟨sound, fun known found => by cases known.symm.trans found; exact .refl _⟩

lemma Sound.stored (listed : session ∈ sessions.values) :
    sessions.get? session.id = some session ∧ session.Fenced := by
  obtain ⟨key, found⟩ := mem_values.mp listed
  obtain ⟨rfl, fenced⟩ := sound.keyed found
  exact ⟨found, fenced⟩

lemma Sound.setStored {written : Dict Str PairSession}
    (set : setMembershipRuntimeLocked sessions session member state now = .ok written)
    (stored : sessions.get? session.id = some session) (listed : member ∈ session.memberships) :
    Fences quiet sessions written now :=
  sound.setRuntime set listed (sound.keyed stored).2
    (fun earlier known => by cases stored.symm.trans known; exact .refl _)
    fun active => .inl ⟨session, stored, active⟩

end

variable {later : PairStore} {reply : PairReply} {state : RuntimeState} {args : JoinArgs}
  {securityEpoch : Option Int} {sessionId : Str} {caller : Caller}

lemma JoinArgs.target_spec {member : Member}
    (found : args.target ports store now = .ok (session, member)) :
    session ∈ store.sessions.values ∧ member.peerId ≠ session.owner.peerId := by
  simp only [JoinArgs.target, bind_eq_ok] at found
  obtain ⟨_, _, _, _, _, _, _, _, found⟩ := found
  split at found
  · cases found
  · simp only [ok_iff, Prod.mk.injEq] at found
    grind

/-- Without a guest there is nobody to send anything to. -/
lemma PairSession.Fenced.alone (fenced : session.Fenced)
    (alone : ∀ guest ∈ session.guests, guest.revokedAt ≠ none) : session.signals = [] := by
  refine eq_nil_iff_forall_not_mem.mpr fun signal listed => ?_
  obtain ⟨_, differ, ⟨sender, first, sent⟩, recipient, second, received⟩ :=
    fenced.signals signal listed
  rcases mem_memberships.mp first with rfl | ⟨guest, known, unrevoked, _⟩
  · rcases mem_memberships.mp second with rfl | ⟨guest, known, unrevoked, _⟩
    · exact differ (sent.symm.trans received)
    · exact alone guest known unrevoked
  · exact alone guest known unrevoked

/-- What a caller finds whose transport is ready. -/
lemma readySession_spec {members : List (Option Str × Member)}
    (ready : readySession ports store now sessionId caller securityEpoch =
      .ok (session, members, member)) :
    store.sessions.get? sessionId = some session ∧ session.Live now ∧
      members = session.memberships ∧
      member ∈ session.memberships ∧
        (session.version = 2 → member.2.peerId = strip caller.peerId) := by
  simp only [readySession, ok_iff, Prod.mk.injEq] at ready
  obtain ⟨_, found, _, strict, _, resolved, _, _, _, _, _, _, rfl, rfl, rfl⟩ := ready
  obtain ⟨stored, live⟩ := sessionWhere_spec found
  obtain ⟨listed, named⟩ := resolveMembership_spec resolved
  exact ⟨stored, of_decide_eq_true live, strictMemberships_spec strict, listed, named⟩

/-- What a signal that is accepted leads to. -/
lemma pushSignal_spec {args : SignalArgs}
    (pushed : pushSignal ports store now args = .ok (reply, later)) :
    ∃ session signal, store.sessions.get? args.sessionId = some session ∧ session.revokedAt = none ∧
      reply = .pushed signal ∧
      later = { store with
        sessions := store.sessions.set session.id
          { session with signals := session.signals ++ [signal] } } ∧
      signal.recipientId = args.recipientId ∧ signal.securityEpoch = session.securityEpoch ∧
      signal.sequence = newestSequence (session.queue args.recipientId) + 1 ∧
      session.Between signal.senderId signal.recipientId := by
  unfold pushSignal at pushed
  split at pushed
  · cases pushed
  · cases pushed
  · simp only [ok_iff, Prod.mk.injEq, not_or, not_forall, not_not] at pushed
    obtain ⟨⟨session, members, sender⟩, ready, _, named, _, ⟨⟨recipient, listed, same⟩, differ⟩, _,
      _, _, _, rfl, rfl⟩ := pushed
    obtain ⟨stored, live, rfl, member, _⟩ := readySession_spec ready
    exact ⟨session, _, stored, live.1, rfl, rfl, rfl, rfl, rfl, Ne.symm differ,
      ⟨sender, member, named⟩, recipient, listed, same⟩

/-- What a poll that succeeds leads to. -/
lemma pollSignals_spec {since : Int}
    (polled : pollSignals ports store now sessionId caller since securityEpoch =
      .ok (reply, later)) :
    ∃ session peerId, store.sessions.get? sessionId = some session ∧ session.revokedAt = none ∧
    (session.version = 2 → peerId = strip caller.peerId) ∧
      0 ≤ since ∧ since ≤ newestSequence (session.queue peerId) ∧
      reply = .polled (((session.queue peerId).filter (since < ·.sequence)).mergeSort
        fun left right => left.sequence ≤ right.sequence)
        (newestSequence (session.queue peerId)) (oldestSequence (session.queue peerId) - 1)
        (since < (oldestSequence (session.queue peerId) - 1 : Nat)) ∧
      later = { store with
        sessions := store.sessions.set session.id { session with
          signals := (session.signals.filter fun signal => ¬ (signal.recipientId = peerId ∧
            signal.securityEpoch = session.securityEpoch ∧ 0 < since ∧
            signal.sequence < since)) } } := by
  simp only [pollSignals, ok_iff, Prod.mk.injEq, not_or, not_lt] at polled
  obtain ⟨_, bounds, ⟨session, members, member⟩, ready, _, ahead, rfl, rfl⟩ := polled
  obtain ⟨stored, live, _, _, named⟩ := readySession_spec ready
  exact ⟨session, _, stored, live.1, named, bounds.1, ahead, rfl, rfl⟩

section

variable (sound : Sound store.sessions now)
include sound

lemma Sound.createSession {args : CreateArgs}
    (created : createSession ports store now args = .ok (reply, later)) :
    Fences True store.sessions later.sessions now := by
  simp only [Ananta.createSession, bind_eq_ok] at created
  obtain ⟨⟨session, request⟩, prepared, _, _, created⟩ := created
  split at created
  · rename_i existing found
    -- The capability is known: the session found is activated again.
    simp only [ok_iff, Prod.mk.injEq] at created
    obtain ⟨_, _, _, _, written, set, _, rfl⟩ := created
    obtain ⟨stored, _⟩ := sound.stored (mem_of_find?_eq_some found)
    exact sound.setStored set stored (mem_memberships.mpr (.inl rfl))
  · simp only [ok_iff, Prod.mk.injEq, Option.not_isSome_iff_eq_none] at created
    obtain ⟨_, absent, _, _, written, set, _, rfl⟩ := created
    have fresh : session.guests = [] ∧ session.signals = [] ∧ session.confirmations = [] := by
      simp only [CreateArgs.prepared, ok_iff, Prod.mk.injEq] at prepared
      obtain ⟨_, _, _, _, _, _, _, _, _, _, _, _, _, _, _, _, rfl, _⟩ := prepared
      exact ⟨rfl, rfl, rfl⟩
    have fenced : session.Fenced := by
      refine ⟨?_, ?_, ?_, ?_⟩
      · rw [fresh.1]
        exact .nil
      · rw [fresh.1]
        exact forall_mem_nil _
      · rw [fresh.2.1]
        exact forall_mem_nil _
      · rw [fresh.2.2]
        exact forall_mem_nil _
    split at set
    · refine sound.setRuntime set (mem_memberships.mpr (.inl rfl)) fenced (fun earlier known => ?_)
        fun active => .inr ?_
      · cases absent.symm.trans known
      · obtain ⟨member, listed, _, rfl, rfl⟩ := active
        rcases mem_memberships.mp listed with rfl | ⟨guest, known, _⟩
        · exact ⟨rfl, rfl, rfl⟩
        · rw [fresh.1] at known
          cases known
    · cases set
      exact sound.put rfl fenced (fun known => by cases absent.symm.trans known) fun second =>
        absurd second ‹_›

lemma Sound.joinSession
    (joined : joinSession ports store now args = .ok (reply, later)) :
    Fences True store.sessions later.sessions now := by
  simp only [Ananta.joinSession, bind_eq_ok] at joined
  obtain ⟨⟨session, member⟩, target, joined⟩ := joined
  obtain ⟨listed, distinct⟩ := JoinArgs.target_spec target
  obtain ⟨stored, fenced⟩ := sound.stored listed
  dsimp only at joined
  split at joined
  · simp only [ok_iff, Prod.mk.injEq] at joined
    obtain ⟨_, _, _, _, _, _, _, _, written, activated, _, rfl⟩ := joined
    unfold activateJoined at activated
    split at activated
    · cases activated
      exact sound.written stored (.refl session) fenced fun _ _ _ => id
    · split at activated
      · cases activated
      · rename_i found
        exact sound.setStored activated stored (mem_of_find?_eq_some found)
  · simp only [ok_iff, Prod.mk.injEq, not_exists, not_and] at joined
    obtain ⟨_, alone, _, _, written, activated, _, rfl⟩ := joined
    -- A new guest raises the epoch, so old confirmations go.
    generalize made : ({ session with
      guests := session.guests ++ [{ id := args.participantId, member }],
      securityEpoch := session.securityEpoch + 1
      confirmations := [] } : PairSession) = entered at activated
    have follows : entered.Follows True session := by
      rw [← made]
      exact ⟨rfl, rfl, rfl, id, .inl ⟨Int.lt_succ _, fenced.alone alone⟩⟩
    have guests : ∀ guest ∈ entered.guests, guest.revokedAt = none → guest.member = member := by
      rw [← made]
      intro guest known unrevoked
      rcases mem_append.mp known with old | new
      · exact absurd unrevoked (alone guest old)
      · rw [mem_singleton.mp new]
    have owner : entered.owner = session.owner := by rw [← made]
    have fenced : entered.Fenced := by
      refine ⟨?_, fun guest known unrevoked => ?_, ?_, ?_⟩
      · rw [← made]
        refine pairwise_append.mpr
          ⟨fenced.single, pairwise_singleton .., fun guest old _ _ => .inl (alone guest old)⟩
      · rwa [guests guest known unrevoked, owner]
      · rw [← made]
        dsimp only
        rw [fenced.alone alone]
        exact forall_mem_nil _
      · rw [← made]
        exact forall_mem_nil _
    -- Whoever is active was so before, or is the one who joins.
    have idle : ∀ {accountId peerId}, entered.ActiveFor accountId peerId →
        session.ActiveFor accountId peerId ∨
          (accountId = member.accountId ∧ peerId = member.peerId) := by
      rintro _ _ ⟨row, listed, runtime, rfl, rfl⟩
      rcases mem_memberships.mp listed with rfl | ⟨guest, known, unrevoked, rfl⟩
      · rw [owner] at runtime ⊢
        exact .inl ⟨_, mem_memberships.mpr (.inl rfl), runtime, rfl, rfl⟩
      · rw [guests guest known unrevoked]
        exact .inr ⟨rfl, rfl⟩
    have known : ∀ earlier, store.sessions.get? entered.id = some earlier → session = earlier := by
      intro earlier known
      rw [follows.id, stored] at known
      exact Option.some.inj known
    unfold activateJoined at activated
    split at activated
    · rename_i first
      cases activated
      rw [follows.id]
      exact sound.written stored follows fenced fun second => absurd second first
    · split at activated
      · cases activated
      · rename_i found
        have named := find?_some found
        simp only [decide_eq_true_eq] at named
        have chosen := mem_of_find?_eq_some found
        refine sound.setRuntime activated chosen fenced
          (fun earlier known' => known earlier known' ▸ follows) fun active => ?_
        rcases idle active with old | ⟨rfl, rfl⟩
        · exact .inl ⟨session, by rwa [follows.id], old⟩
        · refine .inr ⟨rfl, ?_, named.symm⟩
          rcases mem_memberships.mp chosen with rfl | ⟨guest, known, unrevoked, rfl⟩
          · rw [owner] at named
            exact absurd named.symm distinct
          · rw [guests guest known unrevoked]

lemma Sound.setMembershipRuntime
    (set : setMembershipRuntime ports store now sessionId caller state = .ok (reply, later)) :
    Fences True store.sessions later.sessions now := by
  simp only [Ananta.setMembershipRuntime, ok_iff, Prod.mk.injEq] at set
  obtain ⟨session, found, member, resolved, written, set, _, rfl⟩ := set
  obtain ⟨stored, rfl, _⟩ := sound.found found
  exact sound.setStored set stored (resolveMembership_spec resolved).1

lemma Sound.leaveSession
    (left : leaveSession ports store now sessionId caller = .ok (reply, later)) :
    Fences True store.sessions later.sessions now := by
  simp only [Ananta.leaveSession, bind_eq_ok] at left
  obtain ⟨session, found, _, _, left⟩ := left
  obtain ⟨stored, rfl, fenced⟩ := sound.found found
  split at left
  · split at left
    · cases left
      exact sound.fences
    · cases left
  · cases left
  · rename_i id member resolved
    cases left
    -- Only a guest leaves; for the owner the call is refused.
    generalize made : ({ session with guests := session.guests.map fun guest =>
      if guest.id = id ∧ guest.revokedAt = none then { guest with revokedAt := some now }
        else guest } : PairSession) = parted
    have reshapes : parted.Reshapes session := by
      rw [← made]
      refine ⟨rfl, rfl, rfl, rfl, rfl, rfl, _, rfl, fun guest => ?_⟩
      split
      · exact ⟨rfl, by simp⟩
      · exact ⟨rfl, fun revoked => revoked⟩
    refine sound.written stored (reshapes.follows (.refl session) Nat.one_pos)
      (reshapes.fenced fenced 1) ?_
    rintro _ _ _ ⟨row, listed, runtime, rfl, rfl⟩
    rw [← made] at listed
    rcases mem_memberships.mp listed with rfl | ⟨guest, known, unrevoked, rfl⟩
    · exact ⟨_, mem_memberships.mpr (.inl rfl), runtime, rfl, rfl⟩
    · obtain ⟨old, held, rfl⟩ := mem_map.mp known
      split at unrevoked
      · cases unrevoked
      · rename_i other
        rw [if_neg other] at runtime ⊢
        exact ⟨_, mem_memberships.mpr (.inr ⟨old, held, unrevoked, rfl⟩), runtime, rfl, rfl⟩

lemma Sound.revokeSession
    (revoked : revokeSession ports store now sessionId caller = .ok (reply, later)) :
    Fences True store.sessions later.sessions now := by
  simp only [Ananta.revokeSession, ok_iff, Prod.mk.injEq] at revoked
  obtain ⟨session, found, _, _, _, _, _, rfl⟩ := revoked
  obtain ⟨stored, rfl, fenced⟩ := sound.found found
  exact sound.written stored ⟨rfl, rfl, rfl, by simp, .inr ⟨rfl, rfl, by simp⟩⟩
    ⟨fenced.single, fenced.distinct, by simp, by simp⟩ fun _ _ _ => id

/-- Writing other signals and confirmations between the members of a session keeps what holds
between calls. -/
lemma Sound.sent (stored : store.sessions.get? session.id = some session)
    {signals : List Signal} {confirmations : List Confirmation}
    (same : quiet → signals = session.signals)
    (first : ∀ signal ∈ signals, signal ∈ session.signals ∨
      signal.securityEpoch = session.securityEpoch ∧
        session.Between signal.senderId signal.recipientId)
    (second : ∀ row ∈ confirmations, row ∈ session.confirmations ∨
      row.epoch = session.securityEpoch ∧ session.Between row.senderPeerId row.recipientPeerId) :
    Fences quiet store.sessions
    (store.sessions.set session.id { session with signals, confirmations }) now := by
  obtain ⟨_, fenced⟩ := sound.keyed stored
  refine sound.written stored ⟨rfl, rfl, rfl, id, .inr ⟨rfl, rfl, fun calm _ => same calm⟩⟩
    ⟨fenced.single, fenced.distinct, fun signal listed => ?_, fun row listed => ?_⟩ fun _ _ _ => id
  · exact (first signal listed).elim (fenced.signals signal) id
  · exact (second row listed).elim (fenced.confirmations row) id

lemma Sound.putKeyConfirmation {args : ConfirmationArgs}
    (put : putKeyConfirmation ports store now args = .ok (reply, later)) :
    Fences True store.sessions later.sessions now := by
  simp only [Ananta.putKeyConfirmation, bind_eq_ok] at put
  obtain ⟨_, _, _, _, session, found, members, strict, sender, resolved, _, _, _, _, put⟩ := put
  obtain ⟨stored, _, _⟩ := sound.found found
  cases strictMemberships_spec strict
  split at put
  · cases put
  · rename_i recipient known
    simp only [ok_iff, Prod.mk.injEq, not_not] at put
    obtain ⟨_, differ, _, epoch, _, _, _, _, _, rfl⟩ := put
    refine sound.sent stored (fun _ => rfl) (fun _ listed => .inl listed) fun row listed => ?_
    rcases mem_append.mp listed with old | new
    · exact .inl (mem_of_mem_filter old)
    · rw [mem_singleton.mp new]
      exact .inr ⟨epoch, Ne.symm differ, ⟨sender, (resolveMembership_spec resolved).1, rfl⟩,
        recipient, mem_of_find?_eq_some known, rfl⟩

def PairCall.Quiet : PairCall → Prop
  | .pushSignal _ | .pollSignals .. => False
  | _ => True

/-- Every call that succeeds keeps what holds between calls. -/
lemma Sound.run {call : PairCall} (succeeded : call.run ports store now = .ok (reply, later)) :
    Fences call.Quiet store.sessions later.sessions now := by
  cases call with
  | createSession args => exact sound.createSession succeeded
  | joinSession args => exact sound.joinSession succeeded
  | setMembershipRuntime sessionId caller state => exact sound.setMembershipRuntime succeeded
  | leaveSession sessionId caller => exact sound.leaveSession succeeded
  | revokeSession sessionId caller => exact sound.revokeSession succeeded
  | putKeyConfirmation args => exact sound.putKeyConfirmation succeeded
  | pushSignal args =>
    obtain ⟨session, signal, stored, _, _, rfl, _, epoch, _, members⟩ := pushSignal_spec succeeded
    refine sound.sent (sound.own stored) False.elim (fun other listed => ?_) fun _ listed =>
      .inl listed
    grind
  | pollSignals sessionId caller since securityEpoch =>
    obtain ⟨session, _, stored, _, _, _, _, _, rfl⟩ := pollSignals_spec succeeded
    exact sound.sent (sound.own stored) False.elim (fun _ listed => .inl (mem_of_mem_filter listed))
      fun _ listed => .inl listed
  | cleanupExpired =>
    cases succeeded
    have kept : ∀ {id session},
        (store.sessions.filter fun _ session =>
          !(decide (session.revokedAt ≠ none ∨ session.expiresAt ≤ now)
        : Bool)).get? id = some session → store.sessions.get? id = some session := by
      intro id session found
      rw [get?_filter] at found
      exact (Option.filter_eq_some_iff.mp found).1
    refine ⟨⟨fun found => sound.keyed (kept found), fun stored also => sound.exclusive (kept stored)
      (kept also)⟩, ?_⟩
    intro id earlier session known found
    cases known.symm.trans (kept found)
    exact .refl _

/-- Every step keeps what holds between calls. -/
lemma Sound.step (call : PairCall) :
    Fences call.Quiet store.sessions
      ((rendezvous ports).step store (now, call)).2.sessions now := by
  unfold rendezvous
  dsimp only
  split
  · rename_i succeeded
    exact sound.run succeeded
  · exact sound.fences

end

/-- Every run whose clock does not go back keeps it. -/
lemma Sound.after : ∀ {inputs : List (Int × PairCall)} {store : PairStore} {before : Int},
    Sound store.sessions before →
    inputs.Pairwise (·.1 ≤ ·.1) → (∀ input ∈ inputs, before ≤ input.1) →
      (∀ input ∈ inputs, input.1 ≤ now) → before ≤ now →
      Sound ((rendezvous ports).after store inputs).sessions now
  | [], _, _, sound, _, _, _, latest => sound.later latest
  | input :: rest, _, _, sound, ordered, since, latest, _ => by
    rw [pairwise_cons] at ordered
    rw [forall_mem_cons] at since latest
    rw [Machine.after_cons]
    exact Sound.after ((sound.later since.1).step input.2).sound ordered.2 ordered.1
      latest.2 latest.1

/-- Whatever a run whose clock does not go back leads to is sound from its last reading on. -/
lemma sound_after {inputs : List (Int × PairCall)} (ordered : inputs.Pairwise (·.1 ≤ ·.1))
    (latest : ∀ input ∈ inputs, input.1 ≤ now) :
    Sound ((rendezvous ports).after (rendezvous ports).initial inputs).sessions now := by
  have empty : ∀ start, Sound (rendezvous ports).initial.sessions start :=
    fun start => ⟨nofun, nofun⟩
  cases inputs with
  | nil => exact empty now
  | cons first rest =>
    rw [pairwise_cons] at ordered
    have since : ∀ input ∈ first :: rest, first.1 ≤ input.1 :=
      forall_mem_cons.mpr ⟨le_rfl, ordered.1⟩
    exact (empty first.1).after (pairwise_cons.mpr ordered)
      since latest (latest first (mem_cons_self ..))

/-- A device is active in one live session at most, nothing outlives the epoch of a session, and
epochs only grow. -/
theorem rendezvous_fences (ports : PairPorts) (inputs : List (Int × PairCall))
    (input : Int × PairCall) (ordered : (inputs ++ [input]).Pairwise (·.1 ≤ ·.1)) (now : Int)
    (latest : ∀ input ∈ inputs, input.1 ≤ now) :
    let store := (rendezvous ports).after (rendezvous ports).initial inputs
    (∀ id other session another, store.sessions.get? id = some session →
      store.sessions.get? other = some another →
        session.version = 2 → another.version = 2 → session.Live now → another.Live now →
        ∀ member ∈ session.memberships, ∀ rival ∈ another.memberships, member.2.runtime = .active →
          rival.2.runtime = .active →
          member.2.accountId = rival.2.accountId → member.2.peerId = rival.2.peerId → id = other ∧
            member = rival) ∧
      (∀ id session, store.sessions.get? id = some session → session.version = 2 →
        session.Live now →
        (∀ signal ∈ session.signals, signal.securityEpoch = session.securityEpoch ∧
          session.Between signal.senderId signal.recipientId) ∧
        (∀ row ∈ session.confirmations, row.epoch = session.securityEpoch ∧
          session.Between row.senderPeerId row.recipientPeerId) ∧ session.memberships.length ≤ 2) ∧
      ∀ id earlier session, store.sessions.get? id = some earlier →
        ((rendezvous ports).step store input).2.sessions.get? id = some session →
        earlier.securityEpoch ≤ session.securityEpoch ∧
          (session.memberships.filter (·.2.runtime = .active) ≠
            earlier.memberships.filter (·.2.runtime = .active) →
            earlier.securityEpoch < session.securityEpoch) := by
  intro store
  obtain ⟨past, _, before⟩ := pairwise_append.mp ordered
  have sound : Sound store.sessions now := sound_after past latest
  refine ⟨?_, fun id session stored _ _ => ?_, fun id earlier session known found => ?_⟩
  · intro id other session another stored also second second' live alive member listed rival listed'
      active active' account peer
    by_cases same : id = other
    · refine ⟨same, ?_⟩
      rw [same] at stored
      cases stored.symm.trans also
      obtain ⟨_, fenced⟩ := sound.keyed stored
      rcases mem_memberships.mp listed with rfl | ⟨guest, known, unrevoked, rfl⟩
      · rcases mem_memberships.mp listed' with rfl | ⟨guest, known, unrevoked, rfl⟩
        · rfl
        · exact absurd peer.symm (fenced.distinct guest known unrevoked)
      · rcases mem_memberships.mp listed' with rfl | ⟨other, known', unrevoked', rfl⟩
        · exact absurd peer (fenced.distinct guest known unrevoked)
        · rw [fenced.unique known known' unrevoked unrevoked']
    · exact absurd ⟨⟨member, listed, active, account, peer⟩, rival, listed', active', rfl, rfl⟩
        (sound.exclusive stored also same second second' live alive rival.2.accountId
          rival.2.peerId)
  · obtain ⟨_, fenced⟩ := sound.keyed stored
    exact ⟨fenced.signals, fenced.confirmations, fenced.pair⟩
  · have current : Sound store.sessions input.1 :=
      sound_after past fun old listed => before old listed input (mem_singleton_self _)
    rcases ((current.step input.2).follows known found).fence with new | same
    · exact ⟨new.1.le, fun _ => new.1⟩
    · refine ⟨same.1.ge, fun differ => absurd ?_ differ⟩
      rw [same.2.1]

/-- Ports whose digests are the texts themselves, as far as they have to be digests. -/
def plainPairPorts : PairPorts where
  peerDigest _ fingerprint := fingerprint
  spkiFingerprint := .ok
  capabilityDigest _ _ _ capability := (capability ++ capability).take 64
  lookupDigest accountId _ capability := accountId ++ capability
  requestDigest request := request.title
  subjectHash issuer sub := issuer ++ sub
  packageId _ recipient _ := recipient.fingerprint
  upper := id
  sessionMaxDuration := 3600

def sampleDevice (digit : Char) : DeviceArgs where
  userId := "oidc:" ++ replicate 64 (codePoint digit)
  userSub := "sub"
  deviceId := "device"
  fingerprint := replicate 64 (codePoint digit)
  publicKey := replicate 64 (codePoint digit)
  oidcIssuer := "issuer"
  capability := replicate 43 (codePoint digit)

def sampleCaller (digit : Char) : Caller :=
  ⟨(sampleDevice digit).userId, "peer:" ++ (sampleDevice digit).fingerprint,
    (sampleDevice digit).capability⟩

def sampleCreate (sid : String) : PairCall :=
  .createSession { sampleDevice 'a' with
    title := "title", permissions := [], requestedExpiresAt := none, version := 2,
    media := .ok 0, sid := text sid
    code := text sid }

def sampleJoin (sid participantId : String) : PairCall :=
  .joinSession { sampleDevice 'b' with
    inviteCode := text sid, expectedSessionId := [], expectedVersion := some 2, media := .ok 0
    participantId := text participantId }

def sampleConfirm (sid : String) (sender recipient : Char) (epoch : Int) : PairCall :=
  .putKeyConfirmation
    { sessionId := text sid, sender := sampleCaller sender,
      recipientPeerId := (sampleCaller recipient).peerId
      packageId := (sampleDevice recipient).fingerprint, epoch, tag := "tag", tagBytes := some 32 }

def sampleOffer (sid : String) (sender recipient : Char) (epoch : Int) : PairCall :=
  .pushSignal
    { sessionId := text sid, sender := sampleCaller sender,
      recipientId := (sampleCaller recipient).peerId
      signalType := some .offer, payload := some (text "sdp"), securityEpoch := some epoch,
      id := "signal" }

/-- A session with a guest and an offer. -/
def sampleRun : List (Int × PairCall) :=
  [(1, sampleCreate "one"), (2, sampleJoin "one" "guest"), (3, sampleConfirm "one" 'a' 'b' 2),
    (4, sampleConfirm "one" 'b' 'a' 2), (5, sampleOffer "one" 'a' 'b' 2)]

/-- The offer carries the epoch of the session when the guest leaves. -/
theorem rendezvous_fences_offer :
    ∃ session, ((rendezvous plainPairPorts).after (rendezvous plainPairPorts).initial
      sampleRun).sessions.get? "one" = some session ∧ session.signals.length = 1 ∧
        ∀ signal ∈ session.signals, signal.securityEpoch = session.securityEpoch ∧
          session.Between signal.senderId signal.recipientId := by
  have reached : (((rendezvous plainPairPorts).after (rendezvous plainPairPorts).initial
      sampleRun).sessions.get?
      "one").any (fun session => session.version = 2 ∧ session.Live 6 ∧
        session.signals.length = 1) = true := by
    decide +kernel
  obtain ⟨session, stored, holds⟩ := (Option.any_eq_true ..).mp reached
  obtain ⟨second, live, offers⟩ := of_decide_eq_true holds
  have fences := rendezvous_fences plainPairPorts sampleRun
    (6, .leaveSession "one" (sampleCaller 'b')) (by decide) 6 (by decide)
  exact ⟨session, stored, offers, (fences.2.1 _ session stored second live).1⟩

end Ananta
