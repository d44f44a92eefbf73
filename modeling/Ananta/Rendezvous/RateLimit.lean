import Ananta.Library.Machine

/-! The rate limiter of the public rendezvous: an exact sliding window whose backoff is minimal. -/

namespace Ananta

open List

/-- The times observed for each bucket key, and the time of the last cleanup. -/
structure RateEvents (Key : Type) where
  (observed : Key → List ℚ) (lastCleanup : ℚ)

inductive RateCall (Key : Type)
  | check (bucket : Key)
  | cleanup
  deriving DecidableEq

/-- The limit and the window of each bucket, the largest window in use, and the time between two
cleanups. -/
structure RateConfig (Key : Type) where
  (limit window : Key → Int) (largest : Int) (interval : ℚ)

namespace RateConfig

variable {Key : Type} [DecidableEq Key] (config : RateConfig Key) (events : RateEvents Key)
  (now : ℚ) (bucket : Key)

/-- Consumes one slot of the bucket, or returns the backoff. -/
def rateCheckWithRetry : (Bool × Int) × RateEvents Key :=
  if config.limit bucket ≤ 0 then ((true, 0), events) else
    let kept := (events.observed bucket).filter (now - config.window bucket < ·)
    if config.limit bucket ≤ kept.length then
      -- The rows are read in the order of their times, so that the first one is the oldest.
      ((false, max 1 ⌈config.window bucket - (now - kept.min?.getD now)⌉),
        { events with observed := Function.update events.observed bucket kept })
    else ((true, 0), { events with
      observed := Function.update events.observed bucket (kept ++ [now]) })

/-- Drops what the largest window does not reach, at most once per interval. -/
def cleanupExpired : RateEvents Key :=
  if now - events.lastCleanup < config.interval then events
  else ⟨fun bucket => (events.observed bucket).filter (now - config.largest < ·), now⟩

/-- The limiter with an empty table, called at explicit times. -/
def limiter : Machine (RateEvents Key) (ℚ × RateCall Key) (Option (Bool × Int)) where
  initial := ⟨fun _ => [], 0⟩
  step events
    | (now, .check bucket) => (config.rateCheckWithRetry events now bucket).map some id
    | (now, .cleanup) => (none, config.cleanupExpired events now)

/-- The times of the calls of a run that the bucket allows. -/
def admissions : RateEvents Key → List (ℚ × RateCall Key) → List ℚ
  | _, [] => []
  | events, call :: rest =>
    (if call.2 = .check bucket ∧ (config.rateCheckWithRetry events call.1 bucket).1.1 then [call.1]
      else []) ++ admissions (config.limiter.step events call).2 rest

/-- The allowed times inside the window that ends now. -/
def inWindow (admitted : List ℚ) : List ℚ :=
  admitted.filter fun time => now - config.window bucket < time ∧ time ≤ now

/-- From now on the rows count as the allowed times do, and they never exceed the limit. -/
structure Tracks (rows admitted : List ℚ) : Prop where
  recent : ∀ time, now ≤ time →
    rows.filter (time - config.window bucket < ·) = config.inWindow time bucket admitted
  bounded : (rows.length : Int) ≤ config.limit bucket

variable {config events now bucket} {rows admitted : List ℚ} {time : ℚ}
  {history idle : List (ℚ × RateCall Key)}

/-- A cut that the window does not reach changes nothing inside it. -/
lemma filter_filter_cut {cut window : ℚ} (early : cut ≤ window) :
    (rows.filter (cut < ·)).filter (window < ·) = rows.filter (window < ·) := by
  rw [filter_filter]
  refine filter_congr fun row _ => ?_
  simpa using early.trans_lt

omit [DecidableEq Key] in
/-- Rows that the window no longer reaches may go. -/
lemma Tracks.cut (tracks : config.Tracks now bucket rows admitted) {cut : ℚ}
    (early : cut ≤ now - config.window bucket) :
    config.Tracks now bucket (rows.filter (cut < ·)) admitted where
  recent time later := (filter_filter_cut (early.trans (sub_le_sub_right later _))).trans
    (tracks.recent time later)
  bounded := (Int.ofNat_le.mpr (length_filter_le ..)).trans tracks.bounded

section

variable (positive : ¬ config.limit bucket ≤ 0)
include positive

/-- One call keeps the rows and the allowed times together. -/
lemma Tracks.step {call : ℚ × RateCall Key}
    (tracks : config.Tracks call.1 bucket (events.observed bucket) admitted)
    (within : config.window bucket ≤ config.largest) :
    config.Tracks call.1 bucket ((config.limiter.step events call).2.observed bucket)
      (admitted ++ config.admissions bucket events [call]) := by
  obtain ⟨now, used | _⟩ := call
  case cleanup =>
    simp only [limiter, cleanupExpired, admissions]
    split <;> simp only [reduceCtorEq, false_and, if_false, append_nil]
    · exact tracks
    · exact tracks.cut (sub_le_sub_left (Int.cast_le.mpr within) _)
  case check =>
    by_cases own : used = bucket
    case neg =>
      simp only [limiter, rateCheckWithRetry, admissions, RateCall.check.injEq, own, false_and,
        if_false, append_nil]
      split_ifs <;> simpa [Function.update_of_ne (Ne.symm own)] using tracks
    subst own
    have pruned := tracks.cut le_rfl
    simp only [limiter, admissions, rateCheckWithRetry, if_neg positive, true_and, append_nil]
    split <;> rename_i full
    · simpa using pruned
    · constructor
      · intro time later
        have kept := pruned.recent time later
        simp_all [inWindow, filter_append, filter_singleton]
      · simpa using full

/-- A run keeps the rows and the allowed times together. -/
lemma Tracks.run (within : config.window bucket ≤ config.largest)
    (ordered : (history.map (·.1) ++ [time]).Pairwise (· ≤ ·))
    (tracks : ∀ now ∈ (history.map (·.1) ++ [time]).head?,
      config.Tracks now bucket (events.observed bucket) admitted) :
    config.Tracks time bucket ((config.limiter.after events history).observed bucket)
      (admitted ++ config.admissions bucket events history) := by
  induction history generalizing events admitted with
  | nil => simpa [admissions] using tracks time rfl
  | cons call rest ih =>
    obtain ⟨first, ordered⟩ := pairwise_cons.mp ordered
    have stepped := (tracks _ rfl).step positive within
    rw [admissions, admissions, append_nil] at stepped
    rw [admissions, ← append_assoc]
    refine ih ordered fun next member => ?_
    have later := first next (mem_of_mem_head? member)
    exact ⟨fun time reached => stepped.recent time (later.trans reached), stepped.bounded⟩

/-- A call is allowed while fewer than the limit were allowed in the window. -/
lemma Tracks.allowed_iff (tracks : config.Tracks now bucket (events.observed bucket) admitted) :
    (config.rateCheckWithRetry events now bucket).1.1 ↔
      (config.inWindow now bucket admitted).length < config.limit bucket := by
  simp only [rateCheckWithRetry, if_neg positive, ← tracks.recent now le_rfl]
  split <;> rename_i full <;> simpa using full

/-- After a denial the window has room again once the backoff has passed, and not before. -/
lemma Tracks.retry_iff (tracks : config.Tracks now bucket (events.observed bucket) admitted)
    (denied : (config.rateCheckWithRetry events now bucket).1.1 = false) {wait : Int}
    (ahead : now ≤ now + wait) :
    (config.inWindow (now + wait) bucket admitted).length < config.limit bucket ↔
      (config.rateCheckWithRetry events now bucket).1.2 ≤ wait := by
  rw [← tracks.recent _ ahead, ← filter_filter_cut (sub_le_sub_right ahead _)]
  simp only [rateCheckWithRetry, if_neg positive] at denied ⊢
  split at denied
  case isFalse => cases denied
  case isTrue full =>
    rw [if_pos full, full.antisymm (tracks.cut le_rfl).bounded]
    have inside : ∀ row ∈ (events.observed bucket).filter (now - config.window bucket < ·),
        now - config.window bucket < row := by
      simp
    generalize (events.observed bucket).filter (now - config.window bucket < ·) = kept at *
    -- The oldest row alone decides whether a row has left the window.
    cases oldest : kept.min? with
    | none => simp [min?_eq_none_iff.mp oldest, positive] at full
    | some first =>
      obtain ⟨member, least⟩ := min?_eq_some_iff.mp oldest
      have recent := inside first member
      rw [Int.ofNat_lt, length_filter_lt_length_iff_exists, Option.getD_some, max_le_iff,
        Int.ceil_le]
      constructor
      · rintro ⟨row, listed, gone⟩
        have older := least row listed
        rw [decide_eq_true_eq, not_lt] at gone
        have passed : (0 : ℚ) < wait := by linarith
        exact ⟨Int.cast_pos.mp passed, by linarith⟩
      · rintro ⟨_, passed⟩
        exact ⟨first, member, by simpa using by linarith⟩

end

/-- Calls that do not use the bucket are not allowed by it. -/
lemma admissions_idle (unused : ∀ call ∈ idle, call.2 ≠ .check bucket) :
    config.admissions bucket events idle = [] := by
  induction idle generalizing events with
  | nil => rfl
  | cons call rest ih =>
    rw [forall_mem_cons] at unused
    rw [admissions, ih unused.2, if_neg (unused.1 ·.1)]
    rfl

/-- A call is allowed exactly while the window has room, and a denied one is told the least wait
after which it has. -/
theorem rate_check_exact_window (positive : 1 ≤ config.limit bucket)
    (within : config.window bucket ≤ config.largest)
    (ordered : (history.map (·.1) ++ [now]).Pairwise (· ≤ ·)) :
    let decision (calls : List (ℚ × RateCall Key)) (time : ℚ) :=
      (config.rateCheckWithRetry (config.limiter.after config.limiter.initial calls) time bucket).1
    let admitted := config.admissions bucket config.limiter.initial history
    ((decision history now).1 ↔
      (config.inWindow now bucket admitted).length < config.limit bucket) ∧
    ((decision history now).1 = false → ∀ (idle : List (ℚ × RateCall Key)) (wait : Int),
      (∀ call ∈ idle, call.2 ≠ .check bucket) →
        (now :: idle.map (·.1) ++ [now + wait]).Pairwise (· ≤ ·) →
      ((decision (history ++ (now, .check bucket) :: idle) (now + wait)).1 ↔
        (decision history now).2 ≤ wait)) := by
  intro decision admitted
  have positive : ¬ config.limit bucket ≤ 0 := by omega
  have tracks : config.Tracks now bucket
      ((config.limiter.after config.limiter.initial history).observed bucket)
      ([] ++ admitted) := .run positive within ordered fun _ _ =>
        ⟨fun _ _ => rfl, (not_le.mp positive).le⟩
  rw [nil_append] at tracks
  refine ⟨tracks.allowed_iff positive, fun denied idle wait unused apart => ?_⟩
  have ahead := (pairwise_cons.mp apart).1 _ mem_concat_self
  refine (Tracks.allowed_iff positive ?_).trans (tracks.retry_iff positive denied ahead)
  -- The denied call and those of other buckets leave the allowed times as they are.
  have still : config.admissions bucket (config.limiter.after config.limiter.initial history)
      ((now, .check bucket) :: idle) = [] := by
    rw [admissions, admissions_idle unused, append_nil]
    exact if_neg fun allowed => Bool.false_ne_true (denied.symm.trans allowed.2)
  rw [Machine.after_append, ← append_nil admitted, ← still]
  refine .run positive within apart fun _ own => ?_
  cases own
  exact tracks

/-- With one slot in ten seconds, a call a quarter of a second after the allowed one is told to wait
for ten. -/
theorem rate_check_exact_window_denied :
    let config : RateConfig Unit := ⟨fun _ => 1, fun _ => 10, 10, 60⟩
    let after := config.limiter.after config.limiter.initial
    (config.rateCheckWithRetry (after [(1, .check ())]) (5 / 4) ()).1 = (false, 10) ∧
      (config.rateCheckWithRetry (after [(1, .check ()), (5 / 4, .check ()), (11, .cleanup)])
        (5 / 4 + (10 : Int)) ()).1.1 := by
  intro config after
  have denied : (config.rateCheckWithRetry (after [(1, .check ())]) (5 / 4) ()).1 =
    (false, 10) := by decide +kernel
  have exact := @rate_check_exact_window Unit _ config (5 / 4) () [(1, .check ())] (by decide)
    (by decide) (by decide +kernel)
  have waited := exact.2 (congrArg Prod.fst denied) [(11, .cleanup)] 10 (by decide)
    (by decide +kernel)
  exact ⟨denied, waited.mpr (congrArg Prod.snd denied).le⟩

end RateConfig

end Ananta
