import Mathlib

/-! Nodes that become ready, wait or fail by what they depend on, one after another, until nothing
changes any more. -/

namespace Ananta

open Function List

namespace Readiness

/-- Ready to be handed out, waiting for others, failed, completed, or none of these. -/
inductive Kind where
  | ready | waiting | failed | completed | other
  deriving DecidableEq

variable {α : Type} [DecidableEq α] (deps : α → List α)

/-- What a node becomes. -/
def next (kinds : α → Kind) (node : α) : Kind :=
  match kinds node with
  | .waiting =>
    if ∀ dep ∈ deps node, kinds dep = .completed then .ready
    else if ∃ dep ∈ deps node, kinds dep = .failed then .failed
    else .waiting
  | .ready => if ∀ dep ∈ deps node, kinds dep = .completed then .ready else .waiting
  | kind => kind

/-- What one node after another becomes. -/
def pass (kinds : α → Kind) (order : List α) : α → Kind :=
  order.foldl (fun kinds node => update kinds node (next deps kinds node)) kinds

variable {deps} {kinds later : α → Kind} {node : α} {order : List α}

/-- What every node keeps to from the start on. -/
structure Onward (deps : α → List α) (kinds later : α → Kind) : Prop where
  completed : ∀ node, later node = .completed ↔ kinds node = .completed
  settled : ∀ node, kinds node ≠ .ready → kinds node ≠ .waiting → later node = kinds node
  failed : ∀ node, later node = .failed → kinds node = .failed ∨
    ∃ dep ∈ deps node, later dep = .failed
  known : ∀ node, later node = .other → kinds node = .other

omit [DecidableEq α] in
lemma Onward.refl (kinds : α → Kind) : Onward deps kinds kinds :=
  ⟨fun _ => .rfl, fun _ _ _ => rfl, fun _ failed => .inl failed, fun _ => id⟩

omit [DecidableEq α] in
lemma Onward.trans {middle : α → Kind} (first : Onward deps kinds middle)
    (second : Onward deps middle later) : Onward deps kinds later := by
  refine ⟨fun node => (second.completed node).trans (first.completed node),
    fun node notReady notWaiting => ?_, fun node failed => ?_, fun node other =>
      first.known node (second.known node other)⟩
  · have same := first.settled node notReady notWaiting
    rw [second.settled node (same ▸ notReady) (same ▸ notWaiting), same]
  · rcases second.failed node failed with before | dep
    · refine (first.failed node before).imp_right fun ⟨dep, listed, failed⟩ => ⟨dep, listed, ?_⟩
      rw [second.settled dep (by rw [failed]; nofun) (by rw [failed]; nofun), failed]
    · exact .inr dep

variable (deps kinds)

/-- All that a node waits for is completed. -/
abbrev AllDone (node : α) : Prop := ∀ dep ∈ deps node, kinds dep = .completed

omit [DecidableEq α] in
/-- When a node changes, and when it does not. -/
lemma next_eq (node : α) : next deps kinds node =
    if kinds node = .waiting ∧ AllDone deps kinds node then .ready
    else if kinds node = .waiting ∧ ∃ dep ∈ deps node, kinds dep = .failed then .failed
    else if kinds node = .ready ∧ ¬ AllDone deps kinds node then .waiting
    else kinds node := by
  by_cases done : AllDone deps kinds node <;> cases kind :
    kinds node <;> simp [-not_forall, next, kind, done]

/-- One node changes. -/
abbrev changed (node : α) : α → Kind := update kinds node (next deps kinds node)

lemma changed_self (node : α) : changed deps kinds node node = next deps kinds node :=
  update_self ..

variable {deps kinds} in
lemma changed_ne {other : α} (differ : other ≠ node) :
    changed deps kinds node other = kinds other :=
  update_of_ne differ ..

/-- A change goes on from where the nodes were. -/
lemma onward_changed (node : α) : Onward deps kinds (changed deps kinds node) := by
  have failedStays : ∀ dep, kinds dep = .failed → changed deps kinds node dep = .failed := by
    intro dep failed
    rcases eq_or_ne dep node with rfl | differ
    · rw [changed_self, next, failed]
    · rw [changed_ne differ, failed]
  have becomes := next_eq deps kinds node
  refine ⟨fun other => ?_, fun other notReady notWaiting => ?_, fun other failed => ?_,
    fun other unknown => ?_⟩ <;>
    rcases eq_or_ne other node with rfl | differ
  · rw [changed_self, becomes]
    split_ifs <;> simp_all
  · rw [changed_ne differ]
  · rw [changed_self, becomes]
    split_ifs <;> simp_all
  · exact changed_ne differ
  · rw [changed_self, becomes] at failed
    split_ifs at failed with _ failing
    · obtain ⟨_, dep, listed, lost⟩ := failing
      exact .inr ⟨dep, listed, failedStays dep lost⟩
    · exact .inl failed
  · rw [changed_ne differ] at failed
    exact .inl failed
  · rw [changed_self, becomes] at unknown
    split_ifs at unknown
    exact unknown
  · rwa [changed_ne differ] at unknown

/-- A pass goes on from where the nodes were. -/
lemma onward_pass (order : List α) : Onward deps kinds (pass deps kinds order) := by
  induction order generalizing kinds with
  | nil => exact .refl kinds
  | cons node rest ih => exact (onward_changed deps kinds node).trans (ih _)

/-- The number of changes that a node has ahead of it at most. -/
def rank (node : α) : Nat :=
  match kinds node with
  | .waiting => 1
  | .ready => if AllDone deps kinds node then 0 else 2
  | _ => 0

variable {deps kinds} in
omit [DecidableEq α] in
/-- Whether all is done does not change. -/
lemma Onward.allDone (onward : Onward deps kinds later) (node : α) : AllDone deps later node ↔
    AllDone deps kinds node :=
  forall₂_congr fun dep _ => onward.completed dep

/-- The rank of a node falls if it changes, and that of the others stays. -/
lemma rank_changed (node other : α) :
    rank deps (changed deps kinds node) other ≤ rank deps kinds other ∧
      (next deps kinds node ≠ kinds node →
        rank deps (changed deps kinds node) node < rank deps kinds node) := by
  have same := (onward_changed deps kinds node).allDone
  have falls : next deps kinds node = kinds node ∨
      rank deps (changed deps kinds node) node < rank deps kinds node := by
    unfold rank
    simp only [changed_self, same]
    have becomes := next_eq deps kinds node
    split_ifs at becomes with done failing undone
    · simp [becomes, done.1, if_pos done.2]
    · simp [becomes, failing.1]
    · simp [becomes, undone.1, if_neg undone.2]
    · exact .inl becomes
  refine ⟨?_, falls.resolve_left⟩
  rcases eq_or_ne other node with rfl | differ
  · rcases falls with stays | falls
    · unfold rank
      simp only [changed_self, same, stays]
      exact le_rfl
    · exact falls.le
  · unfold rank
    simp only [changed_ne differ, same]
    exact le_rfl

/-- The changes that all nodes have ahead of them at most. -/
def total (order : List α) : Nat := (order.map (rank deps kinds)).sum

variable {deps kinds} in
/-- A pass over nodes that do not change changes nothing. -/
lemma pass_eq_self (stays : ∀ node ∈ order, next deps kinds node = kinds node) :
    pass deps kinds order = kinds := by
  induction order with
  | nil => rfl
  | cons node rest ih =>
    rw [forall_mem_cons] at stays
    show pass deps (changed deps kinds node) rest = kinds
    rw [changed, stays.1, update_eq_self]
    exact ih stays.2

/-- A pass that leaves the total alone changes no node. -/
lemma pass_total {all : List α} (within : ∀ node ∈ order, node ∈ all) :
    total deps (pass deps kinds order) all ≤ total deps kinds all ∧
      (total deps (pass deps kinds order) all = total deps kinds all →
        ∀ node ∈ order, next deps kinds node = kinds node) := by
  induction order generalizing kinds with
  | nil => exact ⟨le_rfl, nofun⟩
  | cons node rest ih =>
    rw [forall_mem_cons] at within
    obtain ⟨least, fixed⟩ := ih (changed deps kinds node) within.2
    have first : total deps (changed deps kinds node) all ≤ total deps kinds all :=
      sum_le_sum fun other _ => (rank_changed deps kinds node other).1
    refine ⟨least.trans first, fun same => ?_⟩
    change total deps (pass deps (changed deps kinds node) rest) all = _ at same
    -- The first node did not change, or the total would have fallen with it.
    have unchanged : next deps kinds node = kinds node := by
      by_contra differs
      have falls : total deps (changed deps kinds node) all < total deps kinds all :=
        sum_lt_sum _ _ (fun other _ => (rank_changed deps kinds node other).1)
          ⟨node, within.1, (rank_changed deps kinds node node).2 differs⟩
      omega
    rw [changed, unchanged, update_eq_self] at fixed same
    exact forall_mem_cons.mpr ⟨unchanged, fixed same⟩

/-- Passes come to rest after as many of them as there are changes ahead. -/
lemma pass_rests (order : List α) : ∀ (count : Nat) (kinds : α → Kind),
    total deps kinds order ≤ count →
    let last := (fun kinds => pass deps kinds order)^[count] kinds
    pass deps last order = last := by
  intro count
  induction count with
  | zero =>
    intro kinds none
    obtain ⟨least, fixed⟩ := pass_total deps kinds fun (node : α) (listed : node ∈ order) => listed
    exact pass_eq_self (fixed (by omega))
  | succ count ih =>
    intro kinds bound
    obtain ⟨least, fixed⟩ := pass_total deps kinds fun (node : α) (listed : node ∈ order) => listed
    rw [iterate_succ_apply]
    by_cases same : pass deps kinds order = kinds
    · rwa [same, iterate_fixed same]
    · have differs : total deps (pass deps kinds order) order ≠ total deps kinds order :=
        fun equal => same (pass_eq_self (fixed equal))
      exact ih _ (by omega)

omit [DecidableEq α] in
/-- Every node has two changes ahead of it at most. -/
lemma total_le (order : List α) : total deps kinds order ≤ 2 * order.length := by
  have each : ∀ node, rank deps kinds node ≤ 2 := by
    intro node
    unfold rank
    split <;> [omega; split <;> omega; omega]
  induction order with
  | nil => exact Nat.zero_le _
  | cons node rest ih =>
    have first := each node
    simp only [total, map_cons, sum_cons, length_cons] at ih ⊢
    omega

variable {deps kinds}

omit [DecidableEq α] in
/-- A node that becomes ready has nothing to wait for. -/
lemma allDone_of_next (ready : next deps kinds node = .ready) : AllDone deps kinds node := by
  rw [next_eq] at ready
  split_ifs at ready with done _ undone
  · exact done.2
  · exact by_contra fun left => undone ⟨ready, left⟩

/-- A node that was passed and is ready has nothing to wait for. -/
lemma allDone_of_pass (deps : α → List α) (kinds : α → Kind) (listed : node ∈ order)
    (ready : pass deps kinds order node = .ready) : AllDone deps kinds node := by
  -- A node that is ready because of the last change of it, or was so before, has nothing to wait
  -- for.
  suffices general : ∀ rest kinds, node ∈ rest ∨ (kinds node = .ready → AllDone deps kinds node) →
      pass deps kinds rest node = .ready →
        AllDone deps kinds node from general order kinds (.inl listed) ready
  intro rest
  induction rest with
  | nil => exact fun kinds holds ready => (holds.resolve_left nofun) ready
  | cons other rest ih =>
    intro kinds holds ready
    have same := (onward_changed deps kinds other).allDone node
    refine same.mp (ih _ ?_ ready)
    rw [same]
    rcases eq_or_ne node other with rfl | differ
    · rw [changed_self]
      exact .inr allDone_of_next
    · rw [changed_ne differ]
      exact holds.imp_left fun listed => (mem_cons.mp listed).resolve_left differ

/-- A node at rest is what its dependencies make of it. -/
lemma rests_iff (onward : Onward deps kinds later) (rests : pass deps later order = later)
    (listed : node ∈ order) (started : kinds node = .ready ∨ kinds node = .waiting) :
    (later node = .failed ↔ ∃ dep ∈ deps node, later dep = .failed) ∧
      (later node = .ready ↔ AllDone deps later node) ∧
      (later node = .waiting ↔ (¬ ∃ dep ∈ deps node, later dep = .failed) ∧
        ¬ AllDone deps later node) := by
  have stays := (pass_total deps later fun _ => id).2 (by rw [rests]) node listed
  have both : AllDone deps later node → ¬ ∃ dep ∈ deps node, later dep = .failed :=
    fun done ⟨dep, listed, failed⟩ => nomatch (done dep listed).symm.trans failed
  have failing : later node = .failed → ∃ dep ∈ deps node, later dep = .failed := fun failed =>
    (onward.failed node failed).resolve_left fun before => by simp [before] at started
  -- It is still one of the three, and none of them is left by another change.
  rw [next_eq] at stays
  cases kind : later node with
  | ready =>
    have done : AllDone deps later node := by simpa [kind] using stays
    exact ⟨⟨nofun, fun failed => absurd failed (both done)⟩, ⟨fun _ => done, fun _ => rfl⟩, nofun,
      fun neither => absurd done neither.2⟩
  | waiting =>
    have undone : ¬ AllDone deps later node := fun done => by simp [kind, if_pos done] at stays
    have sound : ¬ ∃ dep ∈ deps node, later dep = .failed :=
      fun failed => by simp [kind, undone, failed] at stays
    exact ⟨⟨nofun, fun failed => absurd failed sound⟩, ⟨nofun, fun done => absurd done undone⟩,
      fun _ => ⟨sound, undone⟩, fun _ => rfl⟩
  | failed => exact ⟨⟨fun _ => failing kind, fun _ => rfl⟩,
      ⟨nofun, fun done => absurd (failing kind) (both done)⟩,
      nofun, fun neither => absurd (failing kind) neither.1⟩
  | completed => simp [(onward.completed node).mp kind] at started
  | other => simp [onward.known node kind] at started

end Readiness

end Ananta
