import Mathlib

/-! Calls on a mutable object, where raising does not undo what was already written. -/

namespace Ananta

open List

/-- Raise an error when a condition holds. -/
def raiseIf {ε : Type} (bad : Prop) [Decidable bad] (error : ε) : Except ε Unit :=
  if bad then .error error else .ok ()

variable {ε α β : Type} {bad : Prop} [Decidable bad] {error : ε} {value : α} {first : Except ε α}
  {next : α → Except ε β} {values : List α} {compute : α → Except ε β}

/-- A guard passes exactly when its condition fails. -/
@[simp] lemma raiseIf_eq_ok {result : Unit} : raiseIf bad error = .ok result ↔ ¬ bad := by
  unfold raiseIf
  split <;> simp_all

/-- A computation that only returns has its value as its only outcome. -/
lemma pure_eq_ok {result : α} : (pure value : Except ε α) = .ok result ↔ result = value := by
  simp only [Pure.pure, Except.pure, Except.ok.injEq, eq_comm]

/-- A sequence of computations returns exactly when each of them does. -/
lemma bind_eq_ok {result : β} :
    (first >>= next) = .ok result ↔ ∃ value, first = .ok value ∧ next value = .ok result := by
  cases first <;> simp [Bind.bind, Except.bind]

/-- When a computation returns, as one set of rules. -/
lemma ok_iff : (∀ {ε : Type} {bad : Prop} [Decidable bad] {error : ε} {result : Unit},
    raiseIf bad error = .ok result ↔ ¬ bad) ∧
    (∀ {ε α : Type} {value result : α}, (pure value : Except ε α) = .ok result ↔ result = value) ∧
    ∀ {ε α β : Type} {first : Except ε α} {next : α → Except ε β} {result : β},
      (first >>= next) = .ok result ↔ ∃ value, first = .ok value ∧ next value = .ok result :=
  ⟨raiseIf_eq_ok, pure_eq_ok, bind_eq_ok⟩

lemma ite_eq_ok {bad : Prop} [Decidable bad] {error : ε} {value : α} :
    ((if bad then .error error else first) = .ok value ↔ ¬ bad ∧ first = .ok value) ∧
      ((if bad then first else .error error) = .ok value ↔ bad ∧ first = .ok value) := by
  constructor <;> split <;> simp [*]

/-- A sequence of computations does not raise what none of them raises. -/
lemma bind_ne_error (head : first ≠ .error error)
    (tail : ∀ value, first = .ok value → next value ≠ .error error) :
    (first >>= next) ≠ .error error := by
  cases first with
  | error raised => exact fun same => head (Except.error.inj same ▸ rfl)
  | ok value => exact tail value rfl

/-- A guard does not raise another error than its own. -/
lemma raiseIf_ne_error {raised : ε} (differ : raised ≠ error) :
    raiseIf bad raised ≠ .error error := by
  unfold raiseIf
  split
  · exact fun same => differ (Except.error.inj same)
  · nofun

/-- A computation that returned hands its value on. -/
lemma bind_of_ok (returned : first = .ok value)
    (next : α → Except ε β) : (first >>= next) = next value := by
  rw [returned]
  rfl

/-- A guard whose condition holds ends the computation. -/
lemma bind_of_raised (holds : bad)
    (next : Unit → Except ε β) : (raiseIf bad error >>= next) = .error error := by
  rw [raiseIf, if_pos holds]
  rfl

/-- A guard whose condition fails is passed. -/
lemma bind_of_passed (fails : ¬ bad)
    (next : Unit → Except ε β) : (raiseIf bad error >>= next) = next () :=
  bind_of_ok (raiseIf_eq_ok.mpr fails) next

/-- A discarded result does not matter, but a raised error does. -/
lemma discard_eq_ok {computation : Except ε α} {result : PUnit} :
    (discard computation : Except ε PUnit) = .ok result ↔ ∃ value, computation = .ok value := by
  cases computation <;> simp [discard, Functor.discard, Functor.mapConst, Except.map]

/-- A check of every element passes exactly when each element passes. -/
lemma forM_eq_ok {check : α → Except ε PUnit} {result : PUnit} :
    values.forM check = .ok result ↔ ∀ value ∈ values, check value = .ok () := by
  -- The elements are checked from the front, and the first error ends the loop.
  induction values with
  | nil => simp [forM_eq_forM, forM_nil, Pure.pure, Except.pure]
  | cons value rest ih =>
    rw [forM_eq_forM] at ih
    simp only [forM_eq_forM, forM_cons, bind_eq_ok, ih, forall_mem_cons]
    exact ⟨fun ⟨_, first, others⟩ => ⟨first, others⟩, fun ⟨first, others⟩ => ⟨_, first, others⟩⟩

/-- The results for the elements of a list, in their order. -/
lemma mapM_eq_ok {results : List β} :
    values.mapM compute = .ok results ↔
      Forall₂ (fun value result => compute value = .ok result) values results := by
  induction values generalizing results with
  | nil =>
    rw [mapM_nil, pure_eq_ok]
    constructor
    · rintro rfl
      exact .nil
    · rintro ⟨⟩
      rfl
  | cons value rest ih =>
    rw [mapM_cons, bind_eq_ok]
    constructor
    · rintro ⟨first, computed, others⟩
      obtain ⟨later, run, made⟩ := bind_eq_ok.mp others
      rw [pure_eq_ok.mp made]
      exact .cons computed (ih.mp run)
    · rintro (_ | ⟨computed, others⟩)
      exact ⟨_, computed, bind_eq_ok.mpr ⟨_, ih.mpr others, rfl⟩⟩

/-- The results of a list are those of its elements. -/
lemma mem_mapM {results : List β} (run : values.mapM compute = .ok results) (result : β) :
    result ∈ results ↔ ∃ value ∈ values, compute value = .ok result := by
  rw [mapM_eq_ok] at run
  induction run with
  | nil => simp
  | cons computed _ ih => simp [ih, computed, eq_comm]

/-- A list has results exactly when each of its elements has one. -/
lemma mapM_returns_iff :
    (∃ results, values.mapM compute = .ok results) ↔
      ∀ value ∈ values, ∃ result, compute value = .ok result := by
  induction values with
  | nil => simp [Pure.pure, Except.pure]
  | cons value rest ih =>
    rw [forall_mem_cons, ← ih]
    constructor
    · rintro ⟨results, run⟩
      rw [mapM_eq_ok] at run
      rcases run with _ | ⟨computed, others⟩
      exact ⟨⟨_, computed⟩, _, mapM_eq_ok.mpr others⟩
    · rintro ⟨⟨result, computed⟩, results, run⟩
      exact ⟨result :: results, mapM_eq_ok.mpr (.cons computed (mapM_eq_ok.mp run))⟩

/-- Check a value that may be missing. -/
def checkSome {ε α : Type} (value : Option α) (check : α → Except ε Unit) : Except ε Unit :=
  match value with
  | some value => check value
  | none => .ok ()

/-- A missing value passes every check. -/
@[simp] lemma checkSome_eq_ok {value : Option α} {check : α → Except ε Unit} {result : Unit} :
    checkSome value check = .ok result ↔ ∀ present ∈ value, check present = .ok () := by
  cases value <;> simp [checkSome]

/-- Pair a value with the fact that it passed its own check. -/
def checked {ε α : Type} (check : α → Except ε Unit) (value : α) :
    Except ε { passed : α // check passed = .ok () } :=
  match verdict : check value with
  | .error error => .error error
  | .ok () => .ok ⟨value, verdict⟩

/-- Checking returns the checked value itself. -/
lemma checked_eq_ok {check : α → Except ε Unit} {passed : { passed : α // check passed = .ok () }} :
    checked check value = .ok passed ↔ passed.val = value := by
  unfold checked
  split
  · rename_i error verdict
    constructor
    · intro impossible
      cases impossible
    · intro same
      rw [← same, passed.property] at verdict
      cases verdict
  · rw [Except.ok.injEq, Subtype.ext_iff, eq_comm]

/-- A call returns or raises, and leaves a state behind in either case. -/
def Call (ε σ α : Type) : Type := σ → Except ε α × σ

namespace Call

variable {ε σ α β : Type}

/-- Return without touching the state. -/
def returns (value : α) : Call ε σ α := fun state => (.ok value, state)

/-- Raise without touching the state. -/
def raises (error : ε) : Call ε σ α := fun state => (.error error, state)

/-- Continue after a call that returned, in the state it left behind. -/
def andThen (call : Call ε σ α) (next : α → Call ε σ β) : Call ε σ β := fun state =>
  match call state with
  | (.ok value, after) => next value after
  | (.error error, after) => (.error error, after)

instance : Monad (Call ε σ) where
  pure := returns
  bind := andThen

/-- Evaluate a computation that cannot reach the state. -/
def evaluate (computation : Except ε α) : Call ε σ α := fun state => (computation, state)

instance : MonadLift (Except ε) (Call ε σ) := ⟨evaluate⟩

/-- Read the whole state. -/
def read : Call ε σ σ := fun state => (.ok state, state)

/-- Replace the state. -/
def write (update : σ → σ) : Call ε σ Unit := fun state => (.ok (), update state)

/-- Make a call on one part of the state. -/
def focus {τ : Type} (part : σ → τ) (put : σ → τ → σ) (call : Call ε τ α) : Call ε σ α :=
  fun state =>
  ((call (part state)).1, put state (call (part state)).2)

/-- Go on after a call, unless it raised an error that is not caught. -/
def suppress (caught : ε → Bool) (call : Call ε σ α) : Call ε σ Unit := fun state =>
  match call state with
  | (.ok _, after) => (.ok (), after)
  | (.error error, after) => (if caught error then .ok () else .error error, after)

/-- A call whose errors are noted in the state. -/
def noting (note : ε → σ → σ) (call : Call ε σ α) : Call ε σ α := fun state =>
  match call state with
  | (.error error, after) => (.error error, note error after)
  | (.ok value, after) => (.ok value, after)

/-- Visit the elements from the front until one of them asks to stop. -/
def visit (body : α → Call ε σ Bool) : List α → Call ε σ Unit
  | [] => returns ()
  | value :: rest => andThen (body value) fun goOn => if goOn then visit body rest else returns ()

/-- Calls made in sequence may be grouped in any way. -/
lemma bind_assoc {γ : Type} (first : Call ε σ α) (second : α → Call ε σ β)
    (third : β → Call ε σ γ) :
    (first >>= second) >>= third = first >>= fun value => second value >>= third := by
  funext state
  show andThen (andThen first second) third state =
    andThen first (fun value => andThen (second value) third) state
  unfold andThen
  rcases first state with ⟨_ | _, _⟩ <;> rfl

/-- A computation that cannot reach the state leaves it alone. -/
lemma run_lift (computation : Except ε α) (state : σ) :
    (liftM computation : Call ε σ α) state = (computation, state) := rfl

variable {computation : Except ε α} {error : ε} {call : Call ε σ α} {first : Call ε σ β}
    {next : β → Call ε σ α} {body : β → Call ε σ Bool} {values : List β}

/-- A computation that returns hands its value on. -/
lemma run_evaluate {value : α} (returned : computation = .ok value) (next : α → Call ε σ β)
    (state : σ) : ((liftM computation : Call ε σ α) >>= next) state = next value state := by
  subst returned
  rfl

/-- A computation that raises ends the call. -/
lemma run_evaluate_raised (raised : computation = .error error) (next : α → Call ε σ β)
    (state : σ) : ((liftM computation : Call ε σ α) >>= next) state = (.error error, state) := by
  subst raised
  rfl

/-- A guard whose condition fails is passed. -/
lemma run_guard {bad : Prop} [Decidable bad] (fine : ¬ bad) (next : Unit → Call ε σ β)
    (state : σ) : ((liftM (raiseIf bad error) : Call ε σ Unit) >>= next) state = next () state :=
  run_evaluate (raiseIf_eq_ok.mpr fine) next state

/-- Reading hands the state on. -/
lemma run_read (next : σ → Call ε σ β) (state : σ) : (read >>= next) state = next state state := rfl

/-- Writing goes on in the updated state. -/
lemma run_write (update : σ → σ) (next : Unit → Call ε σ β) (state : σ) :
    (write update >>= next) state = next () (update state) := rfl

/-- Translating what a call returns changes nothing else. -/
lemma bind_pure_run (call : Call ε σ α) (translate : α → β) (state : σ) :
    (call >>= fun value => pure (translate value)) state =
      ((call state).1.map translate, (call state).2) := by
  show andThen call (fun value => returns (translate value)) state = _
  unfold andThen
  rcases call state with ⟨_ | _, _⟩ <;> rfl

/-- What holds of the outcome of a call and of the state it leaves behind. -/
def Ensures (call : Call ε σ α) (before : σ) (post : Except ε α → σ → Prop) : Prop :=
  post (call before).1 (call before).2

variable {before : σ} {post : Except ε α → σ → Prop}

/-- What a call ensures may be weakened. -/
lemma Ensures.mono {known : Except ε α → σ → Prop} (ensured : Ensures call before known)
    (weaker : ∀ outcome after, known outcome after → post outcome after) :
    Ensures call before post :=
  weaker _ _ ensured

/-- A sequence of calls is followed through the state the first one leaves behind. -/
lemma ensures_bind (raised : ∀ error after, first before = (.error error, after) →
    post (.error error) after) (returned : ∀ value after, first before = (.ok value, after) →
      Ensures (next value) after post) :
    Ensures (first >>= next) before post := by
  -- The outcome of the first call decides whether the second one runs.
  show post (andThen first next before).1 (andThen first next before).2
  rcases run : first before with ⟨outcome, after⟩
  cases outcome with
  | error error => simpa only [andThen, run] using raised error after run
  | ok value => simpa only [andThen, run, Ensures] using returned value after run

/-- A sequence of calls is followed through what is known of the first one. -/
lemma ensures_sequence {between : Except ε β → σ → Prop} (spec : Ensures first before between)
    (raised : ∀ error after, between (.error error) after → post (.error error) after)
    (returned : ∀ value after, between (.ok value) after → Ensures (next value) after post) :
    Ensures (first >>= next) before post := by
  apply ensures_bind
  · intro error after run
    rw [Ensures, run] at spec
    exact raised error after spec
  · intro value after run
    rw [Ensures, run] at spec
    exact returned value after spec

/-- A pure computation leaves the state alone, whether it returns or raises. -/
lemma ensures_evaluate {computation : Except ε β}
    (raised : ∀ error, computation = .error error → post (.error error) before)
    (returned : ∀ value, computation = .ok value → Ensures (next value) before post) :
    Ensures ((liftM computation : Call ε σ β) >>= next) before post := by
  apply ensures_bind
  · intro error after run
    cases run
    exact raised error rfl
  · intro value after run
    cases run
    exact returned value rfl

/-- A guard is passed when its condition fails, and raises its error otherwise. -/
lemma ensures_guard {bad : Prop} [Decidable bad] {next : Unit → Call ε σ α}
    (raised : bad → post (.error error) before) (returned : ¬ bad → Ensures (next ()) before post) :
    Ensures ((liftM (raiseIf bad error) : Call ε σ Unit) >>= next) before post := by
  apply ensures_evaluate
  · intro error' refused
    unfold raiseIf at refused
    split at refused
    · rename_i holds
      cases refused
      exact raised holds
    · cases refused
  · intro _ passed
    exact returned (raiseIf_eq_ok.mp passed)

/-- Reading hands over the state itself. -/
lemma ensures_read {next : σ → Call ε σ α} (returned : Ensures (next before) before post) :
    Ensures ((read : Call ε σ σ) >>= next) before post := returned

/-- Writing moves on to the updated state. -/
lemma ensures_write {update : σ → σ} {next : Unit → Call ε σ α}
    (returned : Ensures (next ()) (update before) post) :
    Ensures ((write update : Call ε σ Unit) >>= next) before post := returned

/-- One fact where a call returns, and another one where it raises. -/
def Post (inv : σ → Prop) (err : ε → σ → Prop) : Except ε α → σ → Prop
  | .ok _, after => inv after
  | .error error, after => err error after

/-- What holds where a call returns may be weakened by itself. -/
lemma Ensures.onward {inv later : σ → Prop} {err : ε → σ → Prop}
    (ensured : Ensures call before (Post inv err)) (leads : ∀ after, inv after → later after) :
    Ensures call before (Post later err) :=
  ensured.mono fun outcome after kept => by
    cases outcome with
    | error _ => exact kept
    | ok _ => exact leads after kept

/-- A call that returns where an invariant holds, and raises where something else does. -/
def Keeps (inv : σ → Prop) (err : ε → σ → Prop) (call : Call ε σ α) : Prop :=
  ∀ before, inv before → Ensures call before (Post inv err)

variable {inv : σ → Prop} {err : ε → σ → Prop}

/-- A sequence of calls, where the second one starts where the first one returned. -/
lemma ensures_then (kept :
    Ensures first before (Post inv fun error after => post (.error error) after))
    (others : ∀ value after, inv after → Ensures (next value) after post) :
    Ensures (first >>= next) before post :=
  ensures_sequence kept (fun _ _ => id) others

/-- Visiting keeps what the visit of each element keeps. -/
lemma keeps_visit (each : ∀ value ∈ values, Keeps inv err (body value)) :
    Keeps inv err (visit body values) := by
  induction values with
  | nil => exact fun _ => id
  | cons value rest ih =>
    rw [forall_mem_cons] at each
    intro before holds
    refine ensures_then (each.1 before holds) fun goOn after again => ?_
    cases goOn with
    | true => exact ih each.2 after again
    | false => exact again

/-- A call on a part of the state is followed through that part. -/
lemma ensures_focus {τ : Type} {part : σ → τ} {put : σ → τ → σ} {call : Call ε τ α}
    (spec : Ensures call (part before) fun outcome after => post outcome (put before after)) :
    Ensures (focus part put call) before post := spec

/-- What a noted error leads to is what it led to before it was noted. -/
lemma ensures_noting {note : ε → σ → σ}
    (spec : Ensures call before fun outcome after => match outcome with
      | .ok value => post (.ok value) after
      | .error error => post (.error error) (note error after)) :
    Ensures (noting note call) before post := by
  unfold Ensures at spec ⊢
  unfold noting
  generalize call before = result at spec ⊢
  rcases result with ⟨error | value, after⟩ <;> exact spec

/-- A suppressed error is a return. -/
lemma ensures_suppress {caught : ε → Bool} {call : Call ε σ β} {post : Except ε Unit → σ → Prop}
    (spec : Ensures call before fun outcome after => match outcome with
      | .ok _ => post (.ok ()) after
      | .error error => if caught error then post (.ok ()) after else post (.error error) after) :
    Ensures (suppress caught call) before post := by
  unfold Ensures at spec ⊢
  unfold suppress
  generalize call before = result at spec ⊢
  rcases result with ⟨error | value, after⟩
  · by_cases known : caught error <;> simpa [known] using spec
  · exact spec

/-- Two facts about a call hold together. -/
lemma Ensures.and {left right : Except ε α → σ → Prop} (first : Ensures call before left)
    (second : Ensures call before right) : Ensures call before fun outcome after =>
      left outcome after ∧ right outcome after :=
  ⟨first, second⟩

/-- Where the visit of one element leaves off: before the next one, at the end, or with an error. -/
def Visited (next done : σ → Prop) (err : ε → σ → Prop) : Except ε Bool → σ → Prop
  | .ok true, after => next after
  | .ok false, after => done after
  | .error error, after => err error after

/-- Visiting, where the invariant speaks of the elements that are still to be visited. -/
lemma ensures_visit (inv : List β → σ → Prop) {done : σ → Prop} {err : ε → σ → Prop}
    (finished : ∀ after, inv [] after → done after)
    (each : ∀ value rest before, inv (value :: rest) before →
      Ensures (body value) before (Visited (inv rest) done err)) (holds : inv values before) :
    Ensures (visit body values) before (Post done err) := by
  induction values generalizing before with
  | nil => exact finished before holds
  | cons value rest ih =>
    refine ensures_sequence (each value rest before holds) (fun _ _ => id) fun goOn after kept => ?_
    cases goOn with
    | true => exact ih kept
    | false => exact kept

end Call

end Ananta
