import Ananta.Hub.Tasks
import Ananta.Library.Readiness

/-! Reconciling the status of the Hub's tasks with the status of what they depend on. -/

namespace Ananta

open List Option

/-- Whether a status is one of some names. -/
def oneOf (names : List String) (status : Str) : Prop := ∃ name ∈ names, status = text name
  deriving Decidable

def statusAliases : List (String × String) :=
  [("to-do", "todo"), ("backlog", "todo"), ("in-progress", "in_progress"),
    ("in progress", "in_progress"), ("done", "completed"), ("complete", "completed"),
    ("canceled", "cancelled"), ("blocked", "blocked_by_dependency"),
    ("needs_review", "waiting_for_review")]

/-- `normalize_task_status`. -/
def normalizeTaskStatus (status default : Str) : Str :=
  let raw := lower (strip status)
  if raw = [] then default
  else match statusAliases.find? fun entry => text entry.1 = raw with
    | some entry => text entry.2
    | none => raw.map fun point => if point = codePoint '-' ∨ point = codePoint ' '
        then codePoint '_' else point

def activeStatuses : List String :=
  ["todo", "reserved", "created", "assigned", "in_progress", "delegated", "waiting_for_review",
    "blocked_by_dependency", "paused", "proposing", "updated", "blocked"]

/-- `_ACTION_TRANSITIONS`, as the statuses that an action leads from and the one that it leads
to. -/
def actionTransitions : List (List String × String) :=
  [(activeStatuses.erase "paused", "paused"), (["paused"], "todo"), (activeStatuses, "cancelled"),
    (["assigned", "created", "proposing"], "todo"),
      (["failed", "cancelled", "verification_failed"], "todo"),
    (["waiting_for_review"], "todo"), (["in_progress", "delegated"], "waiting_for_review"),
    (["in_progress", "delegated"], "verification_failed"),
    (activeStatuses.erase "blocked_by_dependency", "blocked_by_dependency"),
      (["blocked_by_dependency"], "todo")]

/-- The statuses that a task takes up its work along. -/
def progression : List String := ["todo", "created", "assigned", "proposing", "in_progress"]

/-- `can_transition_to`. -/
def canTransitionTo (current next : Str) : Prop :=
  let current := normalizeTaskStatus current "todo"
  let target := normalizeTaskStatus next "todo"
  current = target ∨ (current = "reserved" ∧ target = "created") ∨
    (oneOf ["blocked", "blocked_by_dependency"] current ∧ target = "todo") ∨
    (oneOf ["cancelled", "paused"] target ∧ oneOf activeStatuses current) ∨
    (oneOf ["assigned", "in_progress", "delegated"] target ∧
      oneOf ["todo", "created", "assigned", "proposing", "updated", "paused", "failed", "cancelled",
        "verification_failed", "waiting_for_review", "blocked_by_dependency"] current) ∨
    (oneOf ["completed", "verification_failed", "failed"] target ∧
      oneOf ["todo", "created", "assigned", "in_progress", "delegated", "waiting_for_review",
        "proposing"] current) ∨
    (target = "failed" ∧ current = "blocked_by_dependency") ∨
    (∃ rule ∈ actionTransitions, target = text rule.2 ∧ oneOf rule.1 current) ∨
    (oneOf ["assigned", "proposing"] current ∧ target = "waiting_for_review") ∨
    (oneOf progression current ∧ oneOf progression target ∧
      (progression.map text).idxOf current < (progression.map text).idxOf target)
  deriving Decidable

/-- `update_local_task_status` of the status of an ordinary task, which is left alone where the
change is not allowed. -/
def updateTaskStatus (statuses : Dict Str Str) (id status : Str) : Dict Str Str :=
  let old := (statuses.get? id).getD "todo"
  let target := normalizeTaskStatus status "todo"
  if old ≠ [] ∧ ¬ canTransitionTo old target ∧ old ≠ target then statuses
    else statuses.set id target

section

/-- What a task has to end in for the ones behind it. -/
def dependencySuccesses : List String := ["completed"]

/-- What a task ended in that the ones behind it do not wait for any longer. -/
def dependencyFailures : List String :=
  ["failed", "verification_failed", "cancelled", "aborted", "timeout", "skipped", "archived"]

/-- The statuses from which a task is handed out. -/
def dispatchable : List String := ["todo", "created", "assigned"]

/-- The statuses in which a task waits for others. -/
def blocked : List String := ["blocked", "blocked_by_dependency"]

/-- An entry of the answer of `reconcile_dependencies`. -/
structure DependencyTransition where
  taskId : Str
  eventType : String
  dependsOn : List Str
  reason : String
  failedDependencyIds : List Str := []

variable (resolver : Str → List Str)

/-- `_normalized_dependency_ids`. -/
def normalizedDependencyIds (id : Str) : List Str := normalizeDependsOn (resolver id) (strip id)

def statusOf (statuses : Dict Str Str) (id default : Str) : Str :=
  match statuses.get? id with
  | some status => normalizeTaskStatus status default
  | none => "missing"

/-- What becomes of one ordinary task, and what is answered about it. -/
def reconcileTask (statuses : Dict Str Str) (id : Str) : Option (Str × DependencyTransition) :=
  let deps := normalizedDependencyIds resolver id
  let mine := normalizeTaskStatus ((statuses.get? id).getD []) "todo"
  let allDone := deps ≠ [] ∧ ∀ dep ∈ deps, oneOf dependencySuccesses (statusOf statuses dep [])
  let failed := deps.filter fun dep => oneOf dependencyFailures (statusOf statuses dep [])
  if deps = [] then
    if oneOf blocked mine
      then some ("todo", ⟨id, "dependency_unblocked", [], "no_valid_dependencies", []⟩) else none
  else if oneOf blocked mine ∧ allDone then
    some ("todo", ⟨id, "dependency_unblocked", deps, "all_dependencies_completed", []⟩)
  else if oneOf blocked mine ∧ failed ≠ [] then
    some ("failed", ⟨id, "dependency_failed", deps, "dependency_failed", failed⟩)
  else if oneOf dispatchable mine ∧ ¬ allDone then
    some ("blocked_by_dependency", ⟨id, "dependency_blocked", deps, "waiting_for_dependencies", []⟩)
  else none

/-- `reconcile_dependencies` for ordinary tasks, each of which is judged by what the ones before it
were changed to. -/
def reconcileDependencies (statuses : Dict Str Str) : List Str →
    List DependencyTransition × Dict Str Str
  | [] => ([], statuses)
  | id :: rest =>
    match reconcileTask resolver statuses id with
    | none => reconcileDependencies statuses rest
    | some (status, transition) =>
      let (later, last) := reconcileDependencies (updateTaskStatus statuses id status) rest
      (transition :: later, last)

end

section

open Readiness

variable {resolver : Str → List Str} {statuses : Dict Str Str} {id : Str}

def kindOf (status : Str) : Kind :=
  if oneOf dispatchable status then .ready
  else if oneOf blocked status then .waiting
  else if oneOf dependencySuccesses status then .completed
  else if oneOf dependencyFailures status then .failed
  else .other

def kindsOf (statuses : Dict Str Str) (id : Str) : Kind :=
  match statuses.get? id with
  | some status => kindOf (normalizeTaskStatus status "todo")
  | none => .other

/-- No status is of two kinds. -/
lemma statuses_apart {left right : List String} {status : Str}
    (first : left ∈ [dispatchable, blocked, dependencySuccesses, dependencyFailures])
    (second : right ∈ [dispatchable, blocked, dependencySuccesses, dependencyFailures])
    (differ : left ≠ right) (here : oneOf left status) : ¬ oneOf right status := by
  have disjoint : ∀ left ∈ [dispatchable, blocked, dependencySuccesses, dependencyFailures],
      ∀ right ∈ [dispatchable, blocked, dependencySuccesses, dependencyFailures], left ≠ right →
        ∀ name ∈ left, ∀ other ∈ right, text name ≠ text other := by decide
  obtain ⟨name, listed, rfl⟩ := here
  rintro ⟨other, member, same⟩
  exact disjoint left first right second differ name listed other member same

/-- The kind of a status says which of the statuses it is one of. -/
lemma kindOf_eq {status : Str} : (kindOf status = .ready ↔ oneOf dispatchable status) ∧
    (kindOf status = .waiting ↔ oneOf blocked status) ∧
      (kindOf status = .completed ↔ oneOf dependencySuccesses status) ∧
    (kindOf status = .failed ↔ oneOf dependencyFailures status) := by
  have first := @statuses_apart dispatchable blocked status (by decide) (by decide) (by decide)
  have second := @statuses_apart dispatchable dependencySuccesses status (by decide) (by decide)
    (by decide)
  have third := @statuses_apart dispatchable dependencyFailures status (by decide) (by decide)
    (by decide)
  have fourth := @statuses_apart blocked dependencySuccesses status (by decide) (by decide)
    (by decide)
  have fifth := @statuses_apart blocked dependencyFailures status (by decide) (by decide)
    (by decide)
  have sixth := @statuses_apart dependencySuccesses dependencyFailures status (by decide)
    (by decide) (by decide)
  unfold kindOf
  grind

/-- A normalized status is not the old name of the blocked one. -/
lemma normalizeTaskStatus_ne_blocked (status : Str) {default : Str}
    (other : default ≠ text "blocked") : normalizeTaskStatus status default ≠ text "blocked" := by
  unfold normalizeTaskStatus
  dsimp only
  split
  · exact other
  · split
    · rename_i found
      have renamed : ∀ entry ∈ statusAliases, text entry.2 ≠ text "blocked" := by decide
      exact renamed _ (mem_of_find?_eq_some found)
    · rename_i missing
      intro same
      -- No point was replaced, so the name stood there already and has another one.
      have kept : lower (strip status) = text "blocked" := by
        rw [← same]
        refine ((map_congr_left fun point listed => ?_).trans (map_id _)).symm
        have spelled : codePoint '_' ∉ text "blocked" := by decide
        have member := mem_map_of_mem (f := fun point =>
          if point = codePoint '-' ∨ point = codePoint ' ' then codePoint '_' else point) listed
        rw [same] at member
        exact if_neg fun replaced => spelled (by rwa [if_pos replaced] at member)
      rw [find?_eq_none] at missing
      exact missing ("blocked", "blocked_by_dependency") (by decide) (by simp [kept])

/-- A blocked task has the new name of the status. -/
lemma eq_of_blocked (status : Str) (waiting : oneOf blocked (normalizeTaskStatus status "todo")) :
    normalizeTaskStatus status "todo" = "blocked_by_dependency" := by
  obtain ⟨name, listed, same⟩ := waiting
  have other := normalizeTaskStatus_ne_blocked status (by decide : text "todo" ≠ text "blocked")
  simp only [blocked, mem_cons, not_mem_nil, or_false] at listed
  rcases listed with rfl | rfl
  · exact absurd same other
  · exact same

/-- What a dependency is judged by does not depend on the name of a missing status. -/
lemma judged (statuses : Dict Str Str) (id : Str) :
    (oneOf dependencySuccesses (statusOf statuses id []) ↔ kindsOf statuses id = .completed) ∧
      (oneOf dependencyFailures (statusOf statuses id []) ↔ kindsOf statuses id = .failed) := by
  unfold statusOf kindsOf
  cases statuses.get? id with
  | none => decide
  | some status =>
    simp only [kindOf_eq.2.2.1, kindOf_eq.2.2.2]
    unfold normalizeTaskStatus
    dsimp only
    split
    · decide
    · exact ⟨.rfl, .rfl⟩

lemma allDone_iff : AllDone (normalizedDependencyIds resolver) (kindsOf statuses) id ↔
    ∀ dep ∈ normalizedDependencyIds resolver id,
      oneOf dependencySuccesses (statusOf statuses dep []) :=
  forall₂_congr fun dep _ => (judged statuses dep).1.symm

lemma updateTaskStatus_eq {raw target : Str} (found : statuses.get? id = some raw)
    (same : normalizeTaskStatus target "todo" = target) (allowed : canTransitionTo raw target) :
    updateTaskStatus statuses id target = statuses.set id target := by
  unfold updateTaskStatus
  simp_all

def writtenStatuses : List String := ["todo", "failed", "blocked_by_dependency"]

/-- What the answer about a task says: it stays of its kind, or is written with a status of the next
one. -/
def Reconciled (resolver : Str → List Str) (statuses : Dict Str Str) (id : Str) :
    Option (Str × DependencyTransition) → Prop
  | none => next (normalizedDependencyIds resolver) (kindsOf statuses) id = kindsOf statuses id
  | some (status, _) => oneOf writtenStatuses status ∧
      updateTaskStatus statuses id status = statuses.set id status ∧
      next (normalizedDependencyIds resolver) (kindsOf statuses) id = kindOf status ∧
        kindOf status ≠ kindsOf statuses id

/-- What becomes of a task, by the kinds of the statuses. -/
lemma reconcileTask_spec (known : id ∈ statuses.keys) :
    Reconciled resolver statuses id (reconcileTask resolver statuses id) := by
  obtain ⟨raw, found⟩ := isSome_iff_exists.mp (Dict.mem_keys.mp known)
  generalize mine : normalizeTaskStatus raw "todo" = status
  have kind : kindsOf statuses id = kindOf status := by rw [kindsOf, found, ← mine]
  have waits := mine ▸ eq_of_blocked raw
  generalize listed : normalizedDependencyIds resolver id = deps
  have failing : (∃ dep ∈ deps, kindsOf statuses dep = .failed) ↔
      deps.filter (fun dep => oneOf dependencyFailures (statusOf statuses dep [])) ≠ [] := by
    simp only [ne_eq, filter_eq_nil_iff, decide_eq_true_eq, (judged statuses _).2, not_forall,
      not_not, exists_prop]
  have becomes := next_eq (normalizedDependencyIds resolver) (kindsOf statuses) id
  simp only [kind, kindOf_eq.1, kindOf_eq.2.1, allDone_iff, listed, failing] at becomes
  -- Both branches of the source that write todo come here.
  have unblocked : oneOf blocked status →
      (∀ dep ∈ deps, oneOf dependencySuccesses (statusOf statuses dep [])) →
      ∀ transition, Reconciled resolver statuses id (some ("todo", transition)) := by
    intro waiting finished transition
    rw [if_pos ⟨waiting, finished⟩] at becomes
    refine ⟨by decide, updateTaskStatus_eq found (by decide) ?_, becomes.trans (by decide), ?_⟩
    · exact .inr (.inr (.inl ⟨mine ▸ waiting, by decide⟩))
    · rw [kind, kindOf_eq.2.1.mpr waiting]
      decide
  unfold reconcileTask
  rw [found, getD_some, mine, listed]
  dsimp only
  split
  · rename_i empty
    have vacuous : ∀ dep ∈ deps,
      oneOf dependencySuccesses (statusOf statuses dep []) := by simp [empty]
    split
    · exact unblocked ‹_› vacuous _
    · rename_i moving
      rw [if_neg fun both => moving both.1, if_neg fun both => moving both.1, if_neg fun both =>
        both.2 vacuous] at becomes
      exact becomes.trans kind.symm
  · rename_i nonempty
    split
    · rename_i finished
      exact unblocked finished.1 finished.2.2 _
    · rename_i unfinished
      rw [if_neg fun both => unfinished ⟨both.1, nonempty, both.2⟩] at becomes
      split
      · rename_i lost
        rw [if_pos lost] at becomes
        refine ⟨by decide, updateTaskStatus_eq found (by decide) ?_, becomes.trans (by decide), ?_⟩
        · refine .inr (.inr (.inr (.inr (.inr (.inr (.inl ⟨by decide, ?_⟩))))))
          rw [mine, waits lost.1]
        · rw [kind, kindOf_eq.2.1.mpr lost.1]
          decide
      · rename_i sound
        rw [if_neg sound] at becomes
        split
        · rename_i halted
          rw [if_pos ⟨halted.1, fun all => halted.2 ⟨nonempty, all⟩⟩] at becomes
          refine ⟨by decide, updateTaskStatus_eq found (by decide) ?_, becomes.trans (by decide),
            ?_⟩
          · refine .inr (.inr (.inr (.inr (.inr (.inr (.inr (.inl
              ⟨(activeStatuses.erase "blocked_by_dependency",
                "blocked_by_dependency"), by decide, by decide, ?_⟩)))))))
            obtain ⟨name, member, same⟩ := halted.1
            have active : ∀ name ∈ dispatchable,
              name ∈ activeStatuses.erase "blocked_by_dependency" := by decide
            exact ⟨name, active name member, mine.trans same⟩
          · rw [kind, kindOf_eq.1.mpr halted.1]
            decide
        · rename_i resting
          rw [if_neg fun both => resting ⟨both.1, fun all => both.2 all.2⟩] at becomes
          exact becomes.trans kind.symm

/-- What the reconciliation leaves alone: all but tasks that were ready or waiting. -/
def Followed (statuses later : Dict Str Str) : Prop :=
  ∀ id, later.get? id = statuses.get? id ∨
    (kindsOf statuses id = .ready ∨ kindsOf statuses id = .waiting) ∧
    ∃ status, oneOf writtenStatuses status ∧ later.get? id = some status

lemma Followed.trans {first second third : Dict Str Str} (one : Followed first second)
    (two : Followed second third) : Followed first third := by
  intro id
  rcases one id with same | changed
  · have kind : kindsOf second id = kindsOf first id := by rw [kindsOf, kindsOf, same]
    exact (two id).imp (fun later => later.trans same) fun later => ⟨kind ▸ later.1, later.2⟩
  · refine .inr ⟨changed.1, ?_⟩
    rcases two id with same | again
    · rw [same]
      exact changed.2
    · exact again.2

lemma Followed.known {later : Dict Str Str} (followed : Followed statuses later)
    (known : id ∈ statuses.keys) : id ∈ later.keys := by
  rw [Dict.mem_keys] at known ⊢
  rcases followed id with same | ⟨_, _, _, written⟩
  · rwa [same]
  · rw [written]
    rfl

/-- A reconciliation is a pass over the kinds of the statuses. -/
lemma reconcile_pass (resolver : Str → List Str) {order : List Str}
    (known : ∀ id ∈ order, id ∈ statuses.keys) :
    kindsOf (reconcileDependencies resolver statuses order).2 =
      pass (normalizedDependencyIds resolver) (kindsOf statuses) order ∧
    Followed statuses (reconcileDependencies resolver statuses order).2 := by
  induction order generalizing statuses with
  | nil => exact ⟨rfl, fun _ => .inl rfl⟩
  | cons id rest ih =>
    rw [forall_mem_cons] at known
    have spec : Reconciled resolver statuses id (reconcileTask resolver statuses id) :=
      reconcileTask_spec known.1
    rw [reconcileDependencies]
    change _ = pass _ (changed (normalizedDependencyIds resolver) (kindsOf statuses) id) rest ∧ _
    rw [changed]
    cases answer : reconcileTask resolver statuses id with
    | none =>
      rw [answer] at spec
      rw [show next _ _ _ = _ from spec, Function.update_eq_self]
      exact ih known.2
    | some written =>
      obtain ⟨status, transition⟩ := written
      rw [answer] at spec
      obtain ⟨named, update, becomes, differs⟩ := spec
      have plain : ∀ name ∈ writtenStatuses, normalizeTaskStatus (text name) "todo" =
        text name := by decide
      have kinds : kindsOf (statuses.set id status) = Function.update (kindsOf statuses)
          id (kindOf status) := by
        obtain ⟨name, listed, rfl⟩ := named
        funext other
        rw [kindsOf, get?_set]
        by_cases same : other = id
        · rw [if_pos same, same, Function.update_self]
          exact congrArg kindOf (plain name listed)
        · rw [if_neg same, Function.update_of_ne same, kindsOf]
      -- A status is written only where one of the three rules applies.
      have first : Followed statuses (statuses.set id status) := by
        intro other
        rw [get?_set]
        split
        · rename_i same
          refine .inr ⟨?_, status, named, rfl⟩
          rw [same]
          have stays := next_eq (normalizedDependencyIds resolver) (kindsOf statuses) id
          split_ifs at stays with done failing undone
          · exact .inr done.1
          · exact .inr failing.1
          · exact .inl undone.1
          · exact absurd (becomes.symm.trans stays) differs
        · exact .inl rfl
      dsimp only
      rw [update, becomes, ← kinds]
      obtain ⟨same, further⟩ := ih fun other listed => first.known (known.2 other listed)
      exact ⟨same, first.trans further⟩

/-- A reconciliation of tasks none of which changes its kind writes nothing. -/
lemma reconcile_rests {order : List Str} (known : ∀ id ∈ order, id ∈ statuses.keys)
    (stays : ∀ id ∈ order, next (normalizedDependencyIds resolver) (kindsOf statuses) id =
      kindsOf statuses id) :
    reconcileDependencies resolver statuses order = ([], statuses) := by
  induction order with
  | nil => rfl
  | cons id rest ih =>
    rw [forall_mem_cons] at known stays
    have spec : Reconciled resolver statuses id (reconcileTask resolver statuses id) :=
      reconcileTask_spec known.1
    rw [reconcileDependencies]
    cases answer : reconcileTask resolver statuses id with
    | none => exact ih known.2 stays.2
    | some written =>
      rw [answer] at spec
      exact absurd (spec.2.2.1.symm.trans stays.1) spec.2.2.2

end

def reconciledStatuses : List String := dispatchable ++ blocked

open Readiness in
/-- However the tasks are ordered, the reconciliation comes to rest after two passes for each task
and one more. At rest every task that was ready or waiting is what its dependencies make of it, and
no other one has changed. And after each pass a task that is handed out has completed dependencies
only. -/
theorem reconciliation_converges (resolver : Str → List Str) (statuses : Dict Str Str)
    (order : List Str) (all : order.Perm statuses.keys) :
    let pass := fun statuses => (reconcileDependencies resolver statuses order).2
    let final := pass^[2 * statuses.keys.length + 1] statuses
    reconcileDependencies resolver final order = ([], final) ∧
      (∀ id ∈ statuses.keys, oneOf reconciledStatuses (statusOf statuses id "todo") →
        let failing := ∃ dep ∈ normalizedDependencyIds resolver id,
          oneOf dependencyFailures (statusOf final dep [])
        let completed := ∀ dep ∈ normalizedDependencyIds resolver id,
          oneOf dependencySuccesses (statusOf final dep [])
        (statusOf final id "todo" = "failed" ↔ failing) ∧
          (oneOf dispatchable (statusOf final id "todo") ↔ completed) ∧
          (statusOf final id "todo" = "blocked_by_dependency" ↔ ¬ failing ∧ ¬ completed)) ∧
      (∀ id ∈ statuses.keys, ¬ oneOf reconciledStatuses (statusOf statuses id "todo") →
        final.get? id = statuses.get? id) ∧
      ∀ count, 1 ≤ count → ∀ id ∈ statuses.keys,
        oneOf dispatchable (statusOf (pass^[count] statuses) id "todo") →
          ∀ dep ∈ normalizedDependencyIds resolver id,
            oneOf dependencySuccesses (statusOf (pass^[count] statuses) dep []) := by
  intro pass final
  have passes : ∀ count, kindsOf (pass^[count] statuses) =
      (fun kinds => Readiness.pass (normalizedDependencyIds resolver) kinds order)^[count]
        (kindsOf statuses) ∧
      Followed statuses (pass^[count] statuses) ∧
      Onward (normalizedDependencyIds resolver) (kindsOf statuses)
        (kindsOf (pass^[count] statuses)) := by
    intro count
    induction count with
    | zero => exact ⟨rfl, fun _ => .inl rfl, .refl _⟩
    | succ count ih =>
      obtain ⟨kinds, followed, onward⟩ := ih
      obtain ⟨same, further⟩ :=
        reconcile_pass resolver fun id listed => followed.known (all.mem_iff.mp listed)
      rw [Function.iterate_succ_apply', Function.iterate_succ_apply', ← kinds]
      refine ⟨same, followed.trans further, onward.trans ?_⟩
      show Onward _ _ (kindsOf (reconcileDependencies resolver (pass^[count] statuses) order).2)
      rw [same]
      exact onward_pass _ _ _
  obtain ⟨kinds, followed, onward⟩ := passes (2 * statuses.keys.length + 1)
  have rests :
      Readiness.pass (normalizedDependencyIds resolver) (kindsOf final) order = kindsOf final := by
    rw [kinds]
    refine pass_rests _ order _ _ ((total_le _ _ _).trans ?_)
    rw [all.length_eq]
    omega
  have started : ∀ id ∈ statuses.keys, oneOf reconciledStatuses (statusOf statuses id "todo") ↔
      kindsOf statuses id = .ready ∨ kindsOf statuses id = .waiting := by
    intro id known
    obtain ⟨raw, found⟩ := isSome_iff_exists.mp (Dict.mem_keys.mp known)
    rw [statusOf, kindsOf, found]
    dsimp only
    rw [kindOf_eq.1, kindOf_eq.2.1]
    simp only [oneOf, reconciledStatuses, mem_append, or_and_right, exists_or]
  refine ⟨?_, fun id known ready => ?_, fun id known settled => ?_,
    fun count once id known ready => ?_⟩
  · refine reconcile_rests (fun id listed => followed.known (all.mem_iff.mp listed)) ?_
    exact (pass_total _ _ fun _ => id).2 (by rw [rests])
  · have begun := (started id known).mp ready
    obtain ⟨failed, idle, waiting⟩ := rests_iff onward rests (all.mem_iff.mpr known) begun
    obtain ⟨raw, found⟩ := isSome_iff_exists.mp (Dict.mem_keys.mp (followed.known known))
    have kind : kindsOf final id =
      kindOf (statusOf final id "todo") := by rw [kindsOf, statusOf, found]
    have failing : (∃ dep ∈ normalizedDependencyIds resolver id, kindsOf final dep = .failed) ↔
        ∃ dep ∈ normalizedDependencyIds resolver id,
          oneOf dependencyFailures (statusOf final dep []) :=
      exists_congr fun dep => and_congr_right fun _ => (judged final dep).2.symm
    rw [kind, failing] at failed
    rw [kind, allDone_iff] at idle
    rw [kind, failing, allDone_iff] at waiting
    refine ⟨?_, kindOf_eq.1.symm.trans idle, ?_⟩
    · -- A task that was ready or waiting fails under one name only.
      refine ⟨fun same => failed.mp (by rw [same]; decide), fun fails => ?_⟩
      have lost := failed.mpr fails
      rcases followed id with same | ⟨_, status, ⟨name, listed, rfl⟩, written⟩
      · rw [← kind, kindsOf, same, ← kindsOf] at lost
        rcases begun with other | other <;> exact nomatch lost.symm.trans other
      · have only : ∀ name ∈ writtenStatuses, kindOf (normalizeTaskStatus (text name) "todo") =
            .failed → normalizeTaskStatus (text name) "todo" = "failed" := by decide
        rw [statusOf, written] at lost ⊢
        exact only name listed lost
    · refine Iff.trans ⟨fun same => by rw [same]; decide, fun waits => ?_⟩ waiting
      rw [statusOf, found] at waits ⊢
      exact eq_of_blocked raw (kindOf_eq.2.1.mp waits)
  · refine (followed id).resolve_right fun changed => settled ?_
    exact (started id known).mpr changed.1
  · obtain ⟨count, rfl⟩ : ∃ earlier, count = earlier + 1 := ⟨count - 1, by omega⟩
    obtain ⟨_, before, _⟩ := passes count
    obtain ⟨_, after, _⟩ := passes (count + 1)
    obtain ⟨same, _⟩ := reconcile_pass resolver fun id listed =>
      before.known (all.mem_iff.mp listed)
    obtain ⟨raw, found⟩ := isSome_iff_exists.mp (Dict.mem_keys.mp (after.known known))
    rw [Function.iterate_succ_apply'] at found ready ⊢
    have kind : kindsOf (pass (pass^[count] statuses)) id = .ready := by
      rw [statusOf, found] at ready
      rw [kindsOf, found]
      exact kindOf_eq.1.mpr ready
    intro dep listed
    rw [(judged _ dep).1]
    change kindsOf (reconcileDependencies resolver (pass^[count] statuses) order).2 id =
      .ready at kind
    show kindsOf (reconcileDependencies resolver (pass^[count] statuses) order).2 dep = .completed
    rw [same] at kind ⊢
    exact ((onward_pass _ _ _).completed dep).mpr
      (allDone_of_pass _ _ (all.mem_iff.mpr known) kind dep listed)

theorem reconciliation_converges_failure :
    let resolver := fun id => if id = text "b" then [text "a"] else []
    let statuses := (Dict.empty.set (text "b") (text "todo")).set (text "a") (text "cancelled")
    let pass := fun statuses => (reconcileDependencies resolver statuses [text "b", text "a"]).2
    statusOf (pass^[5] statuses) (text "b") (text "todo") = text "failed" := by
  intro resolver statuses pass
  have settled := reconciliation_converges resolver statuses [text "b", text "a"]
    (.of_eq (by decide))
  exact (settled.2.1 (text "b") (by decide) (by decide)).1.mpr ⟨text "a", by decide, by decide⟩

end Ananta
