import Ananta.Library.Consecutive
import Ananta.Rendezvous.Fences

/-! Within an epoch, signals are numbered without gaps and reach a recipient that follows its cursor
once and in order. -/

namespace Ananta

open List

variable {ports : PairPorts} {store : PairStore} {now : Int} {id recipient : Str} {epoch : Int}

/-- What an observer of one recipient has seen: the accepted signals, and what the recipient
received up to its cursor. -/
structure SignalView where
  accepted : List Signal := []
  received : List Signal := []
  cursor : Nat := 0

/-- A poll of the recipient in the session, and the cursor that it acknowledges. -/
def PairCall.pollsSince (id recipient : Str) : PairCall → Option Int
  | .pollSignals sessionId caller since _ => if sessionId = id ∧ strip caller.peerId = recipient
      then some since else none
  | _ => none

def SignalView.next (view : SignalView) (id recipient : Str) (call : PairCall)
    (answer : Except String PairReply) : SignalView :=
  match call, answer with
  | .pushSignal args, .ok (.pushed signal) =>
    if args.sessionId = id ∧ args.recipientId = recipient
      then { view with accepted := view.accepted ++ [signal] } else view
  | call, .ok (.polled signals cursor _ _) =>
    if (call.pollsSince id recipient).isSome
      then { view with received := view.received ++ signals, cursor } else view
  | _, _ => view

/-- The service under observation. -/
def watched (ports : PairPorts) (id recipient : Str) : Machine (PairStore × SignalView)
    (Int × PairCall) (Except String PairReply) where
  initial := ((rendezvous ports).initial, {})
  step state input :=
    let (answer, store) := (rendezvous ports).step state.1 input
    (answer, store, state.2.next id recipient input.2 answer)

def PairStore.HasEpoch (store : PairStore) (id : Str) (epoch : Int) : Prop :=
  (store.sessions.get? id).map (·.securityEpoch) = some epoch

/-- The recipient polls with the cursor of its last answer. -/
def SignalView.Followed (view : SignalView) (id recipient : Str) (call : PairCall) : Prop :=
  ∀ since ∈ call.pollsSince id recipient, since = view.cursor

variable {view : SignalView} {session : PairSession}

/-- The queue of a recipient holds the accepted signals but for the first ones, which have been
acknowledged. -/
structure Threaded (id recipient : Str) (epoch : Int) (gone : Nat) (store : PairStore)
    (view : SignalView) : Prop where
  numbered : Consecutive Signal.sequence 1 view.accepted
  sentinel : gone = 0 ∨ gone < view.accepted.length
  stored : ∃ session, store.sessions.get? id = some session ∧ session.version = 2 ∧
    session.securityEpoch = epoch ∧
    (session.revokedAt = none → session.queue recipient = view.accepted.drop gone)

variable {gone : Nat}

lemma Threaded.newest (threaded : Threaded id recipient epoch gone store view) :
    newestSequence (view.accepted.drop gone) = view.accepted.length := by
  rw [newestSequence, (threaded.numbered.drop gone).foldl_max]
  have sentinel := threaded.sentinel
  split
  · rename_i empty
    have short := drop_eq_nil_iff.mp empty
    omega
  grind

lemma Threaded.oldest (threaded : Threaded id recipient epoch gone store view) :
    oldestSequence (view.accepted.drop gone) - 1 = gone := by
  rw [oldestSequence, (threaded.numbered.drop gone).min?]
  have sentinel := threaded.sentinel
  split
  · rename_i empty
    have short := drop_eq_nil_iff.mp empty
    simp only [Option.getD_none]
    omega
  · simp only [Option.getD_some]
    omega

variable {reply : PairReply} {later : PairStore}

variable {caller : Caller} {since : Int} {securityEpoch : Option Int} {call : PairCall}

section

variable (threaded : Threaded id recipient epoch gone store view)
include threaded

/-- What a poll of the recipient answers. -/
lemma Threaded.polled (named : strip caller.peerId = recipient)
    (polled : pollSignals ports store now id caller since securityEpoch = .ok (reply, later)) :
    0 ≤ since ∧ since ≤ view.accepted.length ∧
      reply = .polled (view.accepted.drop (max gone since.toNat))
        view.accepted.length gone (since < gone) := by
  obtain ⟨session, peerId, stored, live, peer, nonneg, bounded, rfl, _⟩ := pollSignals_spec polled
  obtain ⟨known, found, second, rfl, queue⟩ := threaded.stored
  cases stored.symm.trans found
  rw [peer second, named, queue live, threaded.newest] at bounded
  refine ⟨nonneg, bounded, ?_⟩
  rw [peer second, named, queue live, threaded.newest, threaded.oldest]
  have above : (view.accepted.drop gone).filter (fun signal => decide (since < signal.sequence)) =
      view.accepted.drop (max gone since.toNat) := by
    have numbered := (threaded.numbered.drop gone).filter_lt since.toNat
    rw [drop_drop, show gone + (since.toNat + 1 - (1 + gone)) =
      max gone since.toNat by omega] at numbered
    rw [← numbered]
    refine filter_congr fun signal _ => decide_eq_decide.mpr ?_
    omega
  rw [above, (threaded.numbered.drop _).mergeSort_eq]

omit threaded in
lemma queue_congr {other : PairSession} (signals : session.signals = other.signals)
    (same : session.securityEpoch = other.securityEpoch) :
    session.queue recipient = other.queue recipient := by
  unfold PairSession.queue
  rw [signals, same]

omit threaded in
/-- A call that neither sends nor acknowledges adds nothing to the view. -/
lemma SignalView.next_quiet (quiet : call.Quiet) (answer : Except String PairReply) :
    view.next id recipient call answer = view := by
  unfold SignalView.next
  split
  · exact quiet.elim
  · have none : call.pollsSince id recipient = none := by
      cases call <;> first | rfl | exact quiet.elim
    rw [none]
    rfl
  · rfl

/-- Such a call keeps the thread, as long as the epoch stays. -/
lemma Threaded.quiet
    (fences : Fences True store.sessions later.sessions now) (steady : later.HasEpoch id epoch) :
    Threaded id recipient epoch gone later view := by
  obtain ⟨session, stored, second, rfl, queue⟩ := threaded.stored
  obtain ⟨altered, found, same⟩ := Option.map_eq_some_iff.mp steady
  have follows := fences.follows stored found
  refine ⟨threaded.numbered, threaded.sentinel, altered, found, follows.version.trans second, same,
    fun unrevoked => ?_⟩
  rcases follows.fence with new | old
  · exact absurd same new.1.ne'
  · rw [queue_congr (old.2.2 trivial unrevoked) same]
    exact queue (follows.revoked unrevoked)

/-- An accepted signal continues the thread of its recipient. -/
lemma Threaded.pushed (sound : Sound store.sessions now)
    {args : SignalArgs} (pushed : pushSignal ports store now args = .ok (reply, later)) :
    Threaded id recipient epoch gone later
      (view.next id recipient (.pushSignal args) (.ok reply)) := by
  obtain ⟨session, signal, stored, live, rfl, rfl, addressed, dated, sequence, _⟩ :=
    pushSignal_spec pushed
  obtain ⟨known, found, second, rfl, queue⟩ := threaded.stored
  dsimp only [SignalView.next]
  have keyed := (sound.keyed stored).1
  rw [← keyed] at stored ⊢
  by_cases here : session.id = id
  · subst here
    cases stored.symm.trans found
    have written : ({ session with signals := session.signals ++ [signal] } : PairSession).queue
        recipient =
        session.queue recipient ++ if args.recipientId = recipient then [signal] else [] := by
      simp only [PairSession.queue, filter_append, filter_singleton, addressed, dated, and_true]
      by_cases same : args.recipientId = recipient <;> simp [same]
    by_cases same : args.recipientId = recipient
    · rw [if_pos ⟨rfl, same⟩]
      rw [same, queue live, threaded.newest] at sequence
      refine ⟨threaded.numbered.append (by omega), ?_, _, get?_set_self .., second, rfl,
        fun _ => ?_⟩
      · rw [length_append, length_singleton]
        have sentinel := threaded.sentinel
        omega
      · rw [written, if_pos same, queue live, drop_append_of_le_length]
        have sentinel := threaded.sentinel
        omega
    · rw [if_neg fun both => same both.2]
      refine ⟨threaded.numbered, threaded.sentinel, _, get?_set_self .., second, rfl, fun _ => ?_⟩
      rw [written, if_neg same, append_nil]
      exact queue live
  · rw [if_neg fun both => here both.1]
    refine ⟨threaded.numbered, threaded.sentinel, known, ?_, second, rfl, queue⟩
    rwa [get?_set_ne _ (Ne.symm here)]

/-- A poll of the recipient takes away what it acknowledges but the last, and a poll of another
takes nothing. -/
lemma Threaded.acknowledged (sound : Sound store.sessions now) {sessionId : Str}
    (polled : pollSignals ports store now sessionId caller since securityEpoch =
      .ok (reply, later)) :
    Threaded id recipient epoch (if sessionId = id ∧ strip caller.peerId = recipient
      then max gone (since - 1).toNat else gone)
      later { view with received := [], cursor := 0 } := by
  obtain ⟨session, peerId, stored, live, peer, nonneg, bounded, _, rfl⟩ := pollSignals_spec polled
  obtain ⟨rfl, _⟩ := sound.keyed stored
  obtain ⟨known, found, second, rfl, queue⟩ := threaded.stored
  have sentinel := threaded.sentinel
  by_cases here : session.id = id
  · subst here
    cases stored.symm.trans found
    cases peer second
    -- The signals that are left are those of the queue that are not acknowledged.
    have written : ({ session with
          signals := (session.signals.filter fun signal =>
            ¬ (signal.recipientId = strip caller.peerId ∧
              signal.securityEpoch = session.securityEpoch ∧ 0 < since ∧
              signal.sequence < since)) } : PairSession).queue recipient =
        (session.queue recipient).filter fun signal =>
          ¬ (recipient = strip caller.peerId ∧ 0 < since ∧ signal.sequence < since) := by
      simp only [PairSession.queue, filter_filter]
      refine filter_congr fun signal _ => ?_
      rw [Bool.eq_iff_iff]
      constructor
      · grind
      · grind
    by_cases same : strip caller.peerId = recipient
    · rw [if_pos ⟨rfl, same⟩]
      rw [same, queue live, threaded.newest] at bounded
      refine ⟨threaded.numbered, ?_, _, get?_set_self .., second, rfl, fun _ => ?_⟩
      · dsimp only
        omega
      · have numbered := (threaded.numbered.drop gone).filter_lt (since - 1).toNat
        rw [written, queue live]
        by_cases first : since = 0
        · subst first
          simp
        · rw [drop_drop, show gone + ((since - 1).toNat + 1 - (1 + gone)) =
            max gone (since - 1).toNat by omega] at numbered
          rw [← numbered]
          refine filter_congr fun signal _ => decide_eq_decide.mpr ?_
          simp only [same, true_and]
          omega
    · rw [if_neg fun both => same both.2]
      refine ⟨threaded.numbered, sentinel, _, get?_set_self .., second, rfl, fun _ => ?_⟩
      rw [written, filter_eq_self.mpr]
      · exact queue live
      · intro signal _
        exact decide_eq_true fun both => same both.1.symm
  · rw [if_neg fun both => here both.1]
    refine ⟨threaded.numbered, sentinel, known, ?_, second, rfl, queue⟩
    rwa [get?_set_ne _ (Ne.symm here)]

lemma Threaded.congr {other : SignalView}
    (same : other.accepted = view.accepted) : Threaded id recipient epoch gone store other := by
  obtain ⟨numbered, sentinel, stored⟩ := threaded
  rw [← same] at numbered sentinel stored
  exact ⟨numbered, sentinel, stored⟩

/-- The recipient has received the accepted signals up to its cursor, and acknowledged none behind
it. -/
structure SignalView.Complete (view : SignalView) (gone : Nat) : Prop where
  received : view.received = view.accepted.take view.cursor
  bounded : view.cursor ≤ view.accepted.length
  pending : gone ≤ view.cursor - 1

/-- One call keeps the thread, as long as the epoch stays, and what a recipient that follows its
cursor has received. -/
lemma Threaded.step (sound : Sound store.sessions now)
    (steady : ((rendezvous ports).step store (now, call)).2.HasEpoch id epoch) :
    let outcome := (rendezvous ports).step store (now, call)
    ∃ next, Threaded id recipient epoch next outcome.2 (view.next id recipient call outcome.1) ∧
      (view.Followed id recipient call → view.Complete gone →
        (view.next id recipient call outcome.1).Complete next) := by
  have fences : Fences call.Quiet store.sessions
    ((rendezvous ports).step store (now, call)).2.sessions now := sound.step call
  dsimp only
  by_cases quiet : call.Quiet
  · rw [SignalView.next_quiet quiet]
    rw [eq_true quiet] at fences
    exact ⟨gone, threaded.quiet fences steady, fun _ complete => complete⟩
  · rcases run : call.run ports store now with reason | ⟨reply, later⟩
    · have same : view.next id recipient call (.error reason) = view := by
        cases call <;> rfl
      rw [step_of_error call run] at steady ⊢
      grind
    · rw [step_of_ok call run] at fences steady ⊢
      cases call with
      | pushSignal args =>
        refine ⟨gone, threaded.pushed sound run, fun _ complete => ?_⟩
        obtain ⟨_, signal, _, _, rfl, _⟩ := pushSignal_spec run
        dsimp only [SignalView.next]
        split
        · refine ⟨?_, ?_, complete.pending⟩
          · rw [take_append_of_le_length complete.bounded]
            exact complete.received
          · rw [length_append]
            exact complete.bounded.trans (Nat.le_add_right ..)
        · exact complete
      | pollSignals sessionId caller since securityEpoch =>
        refine ⟨_, (threaded.acknowledged sound run).congr ?_, fun followed complete => ?_⟩
        · obtain ⟨_, _, _, _, _, _, _, rfl, _⟩ := pollSignals_spec run
          dsimp only [SignalView.next]
          split <;> rfl
        · by_cases own : sessionId = id ∧ strip caller.peerId = recipient
          · rw [if_pos own]
            obtain ⟨rfl, named⟩ := own
            obtain ⟨_, bounded, rfl⟩ := threaded.polled named run
            have mine : (PairCall.pollSignals sessionId caller since securityEpoch).pollsSince
              sessionId recipient = some since :=
              if_pos ⟨rfl, named⟩
            -- What the poll skips was received before, as the cursor stands there.
            have cursor := followed since mine
            subst cursor
            have pending := complete.pending
            simp only [SignalView.next, mine, Option.isSome_some, if_true, Int.toNat_natCast]
            refine ⟨?_, le_rfl, ?_⟩
            · rw [complete.received, show max gone view.cursor = view.cursor by omega,
                take_append_drop, take_length]
            · dsimp only
              omega
          · rw [if_neg own]
            have other : (PairCall.pollSignals sessionId caller since securityEpoch).pollsSince id
              recipient = none := if_neg own
            obtain ⟨_, _, _, _, _, _, _, rfl, _⟩ := pollSignals_spec run
            simp only [SignalView.next, other]
            exact complete
      | _ => exact absurd trivial quiet

end

/-- A run keeps the thread, as long as the epoch stays. -/
lemma Threaded.after : ∀ {more : List (Int × PairCall)} {gone : Nat} {store : PairStore}
    {view : SignalView} {before : Int},
    Threaded id recipient epoch gone store view → Sound store.sessions before →
      more.Pairwise (·.1 ≤ ·.1) →
      (∀ input ∈ more, before ≤ input.1) →
        (watched ports id recipient).Throughout (fun state input =>
        ((rendezvous ports).step state.1 input).2.HasEpoch id epoch) (store, view) more →
      ∃ next, Threaded id recipient epoch next
        ((watched ports id recipient).after (store, view) more).1
          ((watched ports id recipient).after (store, view) more).2 ∧
        ((watched ports id recipient).Throughout
          (fun state input => state.2.Followed id recipient input.2) (store, view) more →
          view.Complete gone → ((watched ports id recipient).after (store, view) more).2.Complete
            next)
  | [], gone, _, _, _, threaded, _, _, _, _ => ⟨gone, threaded, fun _ complete => complete⟩
  | (now, call) :: rest, _, _, _, _, threaded, sound, ordered, since, steady => by
    rw [pairwise_cons] at ordered
    rw [forall_mem_cons] at since
    have current := sound.later since.1
    obtain ⟨next, here, complete⟩ := threaded.step current steady.1
    obtain ⟨last, there, completes⟩ :=
      here.after (current.step call).sound ordered.2 ordered.1 steady.2
    exact ⟨last, there, fun followed before => completes followed.2 (complete followed.1 before)⟩

lemma strictMemberships_ne_ahead (requirePair : Bool) :
    strictMemberships ports session requirePair ≠ .error "signal_cursor_ahead" := by
  have each : ∀ members : List (Option Str × Member),
      (members.forM fun member => member.2.check ports session.version) ≠
        .error "signal_cursor_ahead" := by
    intro members
    induction members with
    | nil => nofun
    | cons member rest ih =>
      refine bind_ne_error ?_ fun _ _ => ih
      iterate 4 refine bind_ne_error (raiseIf_ne_error (by decide)) fun _ _ => ?_
      refine bind_ne_error ?_ fun _ _ => raiseIf_ne_error (by decide)
      cases ports.spkiFingerprint member.2.publicKey with
      | ok fingerprint => nofun
      | error error => cases error <;> exact fun same => absurd (Except.error.inj same) (by decide)
  iterate 2 refine bind_ne_error (raiseIf_ne_error (by decide)) fun _ _ => ?_
  refine bind_ne_error (each _) fun _ _ => ?_
  iterate 2 refine bind_ne_error (raiseIf_ne_error (by decide)) fun _ _ => ?_
  nofun

/-- A caller is not told that its cursor is ahead before the queue is looked at. -/
lemma readySession_ne_ahead :
    readySession ports store now id caller securityEpoch ≠ .error "signal_cursor_ahead" := by
  refine bind_ne_error ?_ fun session _ => bind_ne_error (strictMemberships_ne_ahead true)
    fun _ _ => bind_ne_error ?_ fun _ _ => ?_
  · unfold sessionWhere
    grind
  · refine bind_ne_error (strictMemberships_ne_ahead false) fun _ _ => ?_
    iterate 2 refine bind_ne_error (raiseIf_ne_error (by decide)) fun _ _ => ?_
    split
    · exact fun same => absurd (Except.error.inj same) (by decide)
    · iterate 4 refine bind_ne_error (raiseIf_ne_error (by decide)) fun _ _ => ?_
      rintro ⟨⟩
  · iterate 2 refine bind_ne_error (raiseIf_ne_error (by decide)) fun _ _ => ?_
    refine bind_ne_error ?_ fun _ _ => by rintro ⟨⟩
    exact bind_ne_error (raiseIf_ne_error (by decide)) fun _ _ => raiseIf_ne_error (by decide)

section

variable {view : SignalView} {gone : Nat} (threaded : Threaded id recipient epoch gone store view)
  (named : strip caller.peerId = recipient) (bounded : since ≤ view.accepted.length)
include threaded named bounded

/-- A cursor that is not above the newest sequence is not ahead. -/
lemma Threaded.ne_ahead :
    ((rendezvous ports).step store (now, .pollSignals id caller since securityEpoch)).1 ≠
    .error "signal_cursor_ahead" := by
  refine refused_iff.not.mpr ?_
  refine bind_ne_error (raiseIf_ne_error (by decide)) fun _ _ => ?_
  refine bind_ne_error readySession_ne_ahead fun found ready => ?_
  obtain ⟨stored, live, _, _, peer⟩ := readySession_spec ready
  obtain ⟨known, found, second, rfl, queue⟩ := threaded.stored
  cases stored.symm.trans found
  dsimp only
  rw [peer second, named, queue live.1, threaded.newest, bind_of_passed (not_lt.mpr bounded)]
  rintro ⟨⟩

/-- A member that is ready is answered as long as its cursor is not ahead. -/
lemma Threaded.answered (valid : 0 ≤ since ∧ since ≤ 2 ^ 63 - 1)
    {found : PairSession × List (Option Str × Member) × (Option Str × Member)}
    (ready : readySession ports store now id caller securityEpoch = .ok found) :
    ∃ signals cursor floor truncated,
      ((rendezvous ports).step store (now, .pollSignals id caller since securityEpoch)).1 =
        .ok (.polled signals cursor floor truncated) := by
  obtain ⟨stored, live, _, _, peer⟩ := readySession_spec ready
  obtain ⟨known, held, second, rfl, queue⟩ := threaded.stored
  cases stored.symm.trans held
  simp only [answered_iff, PairCall.run, pollSignals]
  rw [bind_of_passed (by omega), bind_of_ok ready, peer second, named, queue live.1,
    threaded.newest]
  exact ⟨_, _, _, _, _, bind_of_passed (not_lt.mpr bounded) _⟩

end

/-- Nothing is queued for the recipient, or the last call has begun another epoch of the session. -/
def EpochBegun (ports : PairPorts) (id recipient : Str) (inputs : List (Int × PairCall))
    (session : PairSession) : Prop :=
  session.queue recipient = [] ∨ ∃ before input, inputs = before ++ [input] ∧
    ∃ earlier ∈ ((rendezvous ports).after (rendezvous ports).initial before).sessions.get? id,
      earlier.securityEpoch < session.securityEpoch

/-- An epoch begins with an empty queue. -/
lemma EpochBegun.queue {inputs : List (Int × PairCall)}
    (begun : EpochBegun ports id recipient inputs session) (ordered : inputs.Pairwise (·.1 ≤ ·.1))
    (stored : ((rendezvous ports).after (rendezvous ports).initial inputs).sessions.get? id =
      some session) :
    session.queue recipient = [] := by
  rcases begun with empty | ⟨before, input, rfl, earlier, known, raised⟩
  · exact empty
  obtain ⟨past, _, latest⟩ := pairwise_append.mp ordered
  have sound : Sound ((rendezvous ports).after (rendezvous ports).initial before).sessions
    input.1 :=
    sound_after past fun old listed => latest old listed input (mem_singleton_self _)
  rw [Machine.after_append] at stored
  rcases ((sound.step input.2).follows known stored).fence with ⟨_, none⟩ | ⟨same, _⟩
  · rw [PairSession.queue, none, filter_nil]
  · omega

/-- Signals of an epoch are numbered from one, and reach a recipient that follows its cursor once,
in order, and unabridged. -/
theorem signals_exactly_once (ports : PairPorts) (id recipient : Str)
    (inputs more : List (Int × PairCall)) (session : PairSession)
    (ordered : (inputs ++ more).Pairwise (·.1 ≤ ·.1))
    (stored : ((rendezvous ports).after (rendezvous ports).initial inputs).sessions.get? id =
      some session) (second : session.version = 2)
    (begun : EpochBegun ports id recipient inputs session)
    (steady : (watched ports id recipient).Throughout (fun state input =>
      ((rendezvous ports).step state.1 input).2.HasEpoch id session.securityEpoch)
      ((rendezvous ports).after (rendezvous ports).initial inputs, {}) more) :
    let start : PairStore × SignalView :=
      ((rendezvous ports).after (rendezvous ports).initial inputs, {})
    let state := (watched ports id recipient).after start more
    Consecutive Signal.sequence 1 state.2.accepted ∧
      ((watched ports id recipient).Throughout
        (fun state input => state.2.Followed id recipient input.2) start more →
        state.2.received = state.2.accepted.take state.2.cursor ∧
        ∀ now caller securityEpoch, strip caller.peerId = recipient →
          ((rendezvous ports).step state.1
            (now, .pollSignals id caller state.2.cursor securityEpoch)).1 ≠
            .error "signal_cursor_ahead" ∧
          (∀ found, readySession ports state.1 now id caller securityEpoch = .ok found →
            state.2.cursor < 2 ^ 63 → ∃ signals cursor floor truncated,
              ((rendezvous ports).step state.1
                (now, .pollSignals id caller state.2.cursor securityEpoch)).1 =
                .ok (.polled signals cursor floor truncated)) ∧
          ∀ signals cursor floor truncated,
            ((rendezvous ports).step state.1
              (now, .pollSignals id caller state.2.cursor securityEpoch)).1 =
              .ok (.polled signals cursor floor truncated) →
            truncated = false ∧ state.2.received ++ signals = state.2.accepted) ∧
      ∀ now caller since securityEpoch signals cursor floor truncated,
        strip caller.peerId = recipient →
        ((rendezvous ports).step state.1 (now, .pollSignals id caller since securityEpoch)).1 =
          .ok (.polled signals cursor floor truncated) →
        (truncated = true ↔ ∃ signal ∈ state.2.accepted, since < signal.sequence ∧
          ∀ session, state.1.sessions.get? id = some session →
            signal ∉ session.queue recipient) := by
  intro start state
  obtain ⟨past, onward, between⟩ := pairwise_append.mp ordered
  have first : Threaded id recipient session.securityEpoch 0 start.1 start.2 :=
    ⟨.nil, .inl rfl, session, stored, second, rfl, fun _ => begun.queue past stored⟩
  obtain ⟨gone, threaded, completes⟩ :
      ∃ next, Threaded id recipient session.securityEpoch next state.1 state.2 ∧
      ((watched ports id recipient).Throughout
        (fun state input => state.2.Followed id recipient input.2) start more →
        start.2.Complete 0 → state.2.Complete next) := by
    cases more with
    | nil => exact ⟨0, first, fun _ complete => complete⟩
    | cons input rest =>
      have sound : Sound start.1.sessions input.1 :=
        sound_after past fun old listed => between old listed input (mem_cons_self ..)
      exact first.after sound onward (forall_mem_cons.mpr ⟨le_rfl, (pairwise_cons.mp onward).1⟩)
        steady
  refine ⟨threaded.numbered, fun followed => ?_, ?_⟩
  · have complete := completes followed ⟨rfl, le_rfl, le_rfl⟩
    refine ⟨complete.received, fun now caller securityEpoch named =>
      ⟨?_, fun found ready small => ?_, ?_⟩⟩
    · exact threaded.ne_ahead named (Int.ofNat_le.mpr complete.bounded)
    · exact threaded.answered named (Int.ofNat_le.mpr complete.bounded) ⟨by omega, by omega⟩ ready
    · intro signals cursor floor truncated answered
      obtain ⟨_, polled⟩ := answered_iff.mp answered
      obtain ⟨_, _, same⟩ := threaded.polled named polled
      have pending := complete.pending
      cases same
      refine ⟨decide_eq_false (by omega), ?_⟩
      rw [complete.received, Int.toNat_natCast, show max gone state.2.cursor =
        state.2.cursor by omega, take_append_drop]
  · intro now caller since securityEpoch signals cursor floor truncated named answered
    obtain ⟨_, polled⟩ := answered_iff.mp answered
    obtain ⟨nonneg, bounded, same⟩ := threaded.polled named polled
    obtain ⟨session, _, found, live, _⟩ := pollSignals_spec polled
    obtain ⟨known, held, _, _, queue⟩ := threaded.stored
    cases found.symm.trans held
    have left : ∀ signal ∈ state.2.accepted, signal ∈ session.queue recipient ↔
        gone < signal.sequence := by
      intro signal listed
      have numbered := threaded.numbered.filter_lt gone
      rw [Nat.add_sub_cancel] at numbered
      rw [queue live, ← numbered, mem_filter, decide_eq_true_eq]
      exact and_iff_right listed
    cases same
    rw [decide_eq_true_eq]
    constructor
    · intro deleted
      have sentinel := threaded.sentinel
      obtain ⟨signal, listed, sequence⟩ :=
        threaded.numbered.exists_number (show 1 ≤ gone by omega) (by omega)
      refine ⟨signal, listed, by omega, fun other found' => ?_⟩
      cases found.symm.trans found'
      rw [left signal listed]
      omega
    grind

/-- The guest polls for the offer from the start. -/
def sampleTraffic : List (Int × PairCall) :=
  [(5, sampleOffer "one" 'a' 'b' 2), (6, .pollSignals "one" (sampleCaller 'b') 0 (some 2))]

/-- The guest has received what was accepted up to its cursor. -/
theorem signals_exactly_once_offer :
    let start : PairStore × SignalView :=
      ((rendezvous plainPairPorts).after (rendezvous plainPairPorts).initial (sampleRun.take 4), {})
    let state := (watched plainPairPorts "one" (sampleCaller 'b').peerId).after start sampleTraffic
    state.2.received = state.2.accepted.take state.2.cursor := by
  have facts : (((rendezvous plainPairPorts).after (rendezvous plainPairPorts).initial
      (sampleRun.take 4)).sessions.get?
      "one").map (fun session =>
        (session.version, session.securityEpoch, session.queue (sampleCaller 'b').peerId)) =
        some (2, 2, []) := by
    decide +kernel
  obtain ⟨session, stored, same⟩ := Option.map_eq_some_iff.mp facts
  simp only [Prod.mk.injEq] at same
  obtain ⟨second, epoch, fresh⟩ := same
  refine ((signals_exactly_once plainPairPorts "one" (sampleCaller 'b').peerId (sampleRun.take 4)
    sampleTraffic session (by decide) stored second (.inl fresh) ?_).2.1 ⟨nofun, ?_, trivial⟩).1
  · rw [epoch]
    refine ⟨?_, ?_, trivial⟩ <;> unfold PairStore.HasEpoch <;> decide +kernel
  · intro since polled
    have zero : PairCall.pollsSince "one" (sampleCaller 'b').peerId
        (.pollSignals "one" (sampleCaller 'b') 0 (some 2)) = some 0 := by
      decide
    cases zero.symm.trans polled
    decide +kernel

/-- The offer has arrived indeed. -/
example : ((watched plainPairPorts "one" (sampleCaller 'b').peerId).after
    ((rendezvous plainPairPorts).after (rendezvous plainPairPorts).initial (sampleRun.take 4), {})
      sampleTraffic).2.received.map (·.sequence) = [1] := by
  decide +kernel

end Ananta
