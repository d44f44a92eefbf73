import Ananta.Library.DepthFirst
import Ananta.Library.Machine
import Ananta.Plan.Plan

/-! The tasks of the Hub and what they wait for: creating, changing and deleting them keeps the
dependencies free of cycles unless a parent is named that waits for the task. -/

namespace Ananta

open List

structure HubTask where
  dependsOn : List Str := []
  parentTaskId : Option Str := none
  deriving DecidableEq

/-- The tasks under their identifiers, and the identifiers of the archived ones. -/
structure TaskStore where
  tasks : Dict Str HubTask := Dict.empty
  archived : List Str := []

/-- What a refused request is answered with. -/
structure TaskError where
  error : Str
  code : Nat
  deriving DecidableEq

/-- `normalize_depends_on`. -/
def normalizeDependsOn (dependsOn : List Str) (tid : Str) : List Str :=
  dependsOn.foldl (fun vals item =>
    let dep := strip item
    if item = [] ∨ dep = [] ∨ (tid ≠ [] ∧ dep = tid) ∨ dep ∈ vals then vals else vals ++ [dep]) []

/-- `effective_dependencies`. -/
def effectiveDependencies (id : Str) (task : HubTask) : List Str :=
  let deps := normalizeDependsOn task.dependsOn id
  let parent := task.parentTaskId.getD []
  if parent ≠ [] ∧ parent ∉ deps ∧ parent ≠ id then deps ++ [parent] else deps

/-- The nodes of a graph that a node leads to, as far as the graph has them. -/
def successors (graph : Dict Str (List Str)) (node : Str) : List Str :=
  ((graph.get? node).getD []).filter (· ∈ graph.keys)

/-- `validate_dependency_graph`. -/
def validateDependencyGraph (graph : Dict Str (List Str)) : Except Str Unit :=
  let normalized := graph.map fun tid dependsOn => normalizeDependsOn dependsOn tid
  if DepthFirst.hasCycle (successors normalized) normalized.keys
    then .error "dependency_cycle_detected" else .ok ()

/-- `validate_dependencies_and_cycles`. -/
def validateDependenciesAndCycles (tasks : Dict Str HubTask) (tid : Str) (dependsOn : List Str) :
    Except Str Unit :=
  let missing := dependsOn.filter (· ∉ tasks.keys)
  if missing ≠ [] then
    .error ("missing_dependencies:" ++ joined missing)
  else
    validateDependencyGraph
      ((tasks.map effectiveDependencies).set tid (normalizeDependsOn dependsOn tid))

section

structure TaskFields where
  dependsOn : Option (List Str) := none
  parentTaskId : Option Str := none
  status : Option Str := none

/-- A request to the task management, where the identifier of a new task is drawn if none is
given. -/
inductive TaskCall where
  | create (id : Option Str) (uuid : Str) (fields : TaskFields)
  | patch (taskId : Str) (fields : TaskFields)
  | delete (taskId : Str)
  | archive (taskId : Str)

/-- The checks that do not look at the dependencies: of reserved markers, of the task and its
instructions, and of the change of its status, without which nothing is written. -/
structure TaskGuards where
  ingress : TaskCall → Option TaskError
  conflict : TaskStore → TaskCall → Option TaskError
  settles : TaskStore → TaskCall → Bool

variable (guards : TaskGuards)

/-- Go on unless a check answers with an error. -/
def passing (answer : Option TaskError) : Except TaskError Unit :=
  match answer with
  | some error => .error error
  | none => .ok ()

/-- Go on unless something is wrong. -/
def rejectIf (wrong : Prop) [Decidable wrong] (error : String) (code : Nat) :
    Except TaskError Unit :=
  passing (if wrong then some ⟨text error, code⟩ else none)

def badRequest (answer : Except Str Unit) : Except TaskError Unit := answer.mapError (⟨·, 400⟩)

/-- `update_local_task_status` of the fields that are given. -/
def TaskStore.updated (store : TaskStore) (taskId : Str) (fields : TaskFields) : TaskStore :=
  let task := (store.tasks.get? taskId).getD {}
  let next : HubTask :=
    ⟨fields.dependsOn.getD task.dependsOn, fields.parentTaskId.or task.parentTaskId⟩
  { store with tasks := store.tasks.set taskId next }

/-- `data.id or str(uuid.uuid4())`. -/
def newTaskId (id : Option Str) (uuid : Str) : Str := orElse (id.getD []) uuid

/-- `create_task`. -/
def createTask (store : TaskStore) (id : Option Str) (uuid : Str) (fields : TaskFields) :
    Except TaskError TaskStore := do
  let call := TaskCall.create id uuid fields
  passing (guards.ingress call)
  let taskId := newTaskId id uuid
  rejectIf (id.getD [] ≠ [] ∧ (taskId ∈ store.tasks.keys ∨ taskId ∈ store.archived))
    "task_id_already_exists" 409
  passing (guards.conflict store call)
  let dependsOn := normalizeDependsOn (fields.dependsOn.getD []) taskId
  badRequest (validateDependenciesAndCycles store.tasks taskId dependsOn)
  return if guards.settles store call
    then store.updated taskId { fields with dependsOn := some dependsOn } else store

/-- `patch_task`. -/
def patchTask (store : TaskStore) (taskId : Str) (fields : TaskFields) :
    Except TaskError TaskStore := do
  let call := TaskCall.patch taskId fields
  passing (guards.ingress call)
  rejectIf (taskId ∉ store.tasks.keys) "not_found" 404
  passing (guards.conflict store call)
  let dependsOn := fields.dependsOn.map (normalizeDependsOn · taskId)
  badRequest (match dependsOn with
    | some listed => validateDependenciesAndCycles store.tasks taskId listed
    | none => .ok ())
  return if guards.settles store call then store.updated taskId { fields with dependsOn } else store

/-- Answer a request. -/
def TaskCall.run (store : TaskStore) : TaskCall → Except TaskError TaskStore
  | .create id uuid fields => createTask guards store id uuid fields
  | .patch taskId fields => patchTask guards store taskId fields
  | .delete taskId => .ok { store with tasks := store.tasks.erase taskId }
  | .archive taskId =>
    .ok { tasks := store.tasks.erase taskId, archived := taskId :: store.archived }

def taskMachine : Machine TaskStore TaskCall (Except TaskError Unit) where
  initial := {}
  step store call :=
    match call.run guards store with
    | .ok later => (.ok (), later)
    | .error error => (.error error, store)

end

variable {tasks : Dict Str HubTask} {id tid source target : Str} {task : HubTask}

/-- What is left of a list of dependencies. -/
lemma mem_normalizeDependsOn {dependsOn : List Str} :
    target ∈ normalizeDependsOn dependsOn tid ↔ target ≠ [] ∧ target ≠ tid ∧
      ∃ item ∈ dependsOn, strip item = target := by
  unfold normalizeDependsOn
  -- Generalized over what the loop has collected.
  suffices general : ∀ vals : List Str, target ∈ dependsOn.foldl (fun vals item =>
      let dep := strip item
      if item = [] ∨ dep = [] ∨ (tid ≠ [] ∧ dep = tid) ∨ dep ∈ vals then vals else vals ++ [dep])
        vals ↔
      target ∈ vals ∨ target ≠ [] ∧ target ≠ tid ∧ ∃ item ∈ dependsOn, strip item = target by
    simpa using general []
  induction dependsOn with
  | nil => simp
  | cons item rest ih =>
    intro vals
    rw [foldl_cons, ih]
    have empty : strip [] = [] := rfl
    dsimp only
    split
    · rename_i dropped
      constructor
      · grind
      · rintro (old | ⟨solid, other, found, listed, same⟩)
        · exact .inl old
        · rcases mem_cons.mp listed with rfl | later
          · rcases dropped with none | none | own | known
            · exact absurd (by rw [← same, none, empty]) solid
            · exact absurd (same.symm.trans none) solid
            · exact absurd (same.symm.trans own.2) other
            · exact .inl (same ▸ known)
          · exact .inr ⟨solid, other, found, later, same⟩
    · rename_i kept
      rw [mem_append, mem_singleton]
      constructor
      · rintro ((old | rfl) | ⟨solid, other, found, listed, same⟩)
        · exact .inl old
        · grind
        · exact .inr ⟨solid, other, found, .tail _ listed, same⟩
      grind

/-- A task waits for what it lists and for its parent, but never for itself. -/
lemma mem_effectiveDependencies : target ∈ effectiveDependencies id task ↔
    target ∈ normalizeDependsOn task.dependsOn id ∨ target ≠ [] ∧ target ≠ id ∧
      task.parentTaskId = some target := by
  have parent : ∀ {value : Str}, value ≠ [] →
      (task.parentTaskId.getD [] = value ↔ task.parentTaskId = some value) := by
    intro value solid
    cases task.parentTaskId with
    | none => simpa using solid.symm
    | some _ => simp
  unfold effectiveDependencies
  dsimp only
  split
  · rename_i added
    rw [mem_append, mem_singleton]
    refine or_congr .rfl ⟨?_, fun ⟨solid, _, named⟩ => ((parent solid).mpr named).symm⟩
    rintro rfl
    exact ⟨added.1, added.2.2, (parent added.1).mp rfl⟩
  · rename_i known
    refine ⟨.inl, fun either => either.elim (fun listed => listed) fun ⟨solid, other, named⟩ => ?_⟩
    rw [(parent solid).mpr named] at known
    by_contra missing
    exact known ⟨solid, missing, other⟩

/-- A task waits for another one, whether that one exists or not. -/
def WaitsFor (tasks : Dict Str HubTask) (source target : Str) : Prop :=
  ∃ task, tasks.get? source = some task ∧ target ∈ effectiveDependencies source task

def TaskStore.DependsOn (store : TaskStore) (source target : Str) : Prop :=
  WaitsFor store.tasks source target ∧ target ∈ store.tasks.keys

/-- No task waits for itself in the end. -/
def Acyclic (edge : Str → Str → Prop) : Prop := ∀ node, ¬ Relation.TransGen edge node node

/-- The edges of one node are changed, and none of the new ones leads back to it along the old
ones. -/
lemma Acyclic.changed {edge later : Str → Str → Prop} (acyclic : Acyclic edge) (changed : Str)
    (others : ∀ source target, source ≠ changed → later source target → edge source target)
    (forth : ∀ target, later changed target → ¬ Relation.ReflTransGen edge target changed) :
    Acyclic later := by
  -- A path to the node can be cut where it first comes there, before any of its own edges.
  have back : ∀ {source}, Relation.ReflTransGen later source changed →
      Relation.ReflTransGen edge source changed := by
    intro source path
    induction path using Relation.ReflTransGen.head_induction_on with
    | refl => exact .refl
    | @head source middle step _ ih =>
      by_cases same : source = changed
      · exact same ▸ .refl
      · exact .head (others source middle same step) ih
  have through : ∀ {source target}, Relation.TransGen later source target →
      Relation.TransGen edge source target ∨
      Relation.ReflTransGen later source changed ∧ ∃ first, later changed first ∧
        Relation.ReflTransGen later first target := by
    intro source target path
    induction path with
    | @single target step =>
      grind
    | @tail middle target path step ih =>
      rcases ih with along | ⟨lead, first, out, rest⟩
      · by_cases same : middle = changed
        · exact .inr ⟨same ▸ path.to_reflTransGen, target, same ▸ step, .refl⟩
        · exact .inl (along.tail (others middle target same step))
      · exact .inr ⟨lead, first, out, rest.tail step⟩
  intro node cycle
  rcases through cycle with along | ⟨lead, first, out, rest⟩
  · exact acyclic node along
  · exact forth first out (back (rest.trans lead))

/-- A parent is written without white space around it. -/
def Tidy (tasks : Dict Str HubTask) : Prop :=
  ∀ id task, tasks.get? id = some task → ∀ parent, task.parentTaskId = some parent →
    strip parent = parent

/-- What is normalized stays so. -/
lemma mem_normalize_again {dependsOn : List Str} :
    target ∈ normalizeDependsOn (normalizeDependsOn dependsOn tid) tid ↔
      target ∈ normalizeDependsOn dependsOn tid := by
  refine ⟨fun listed => ?_, fun listed => ?_⟩
  · obtain ⟨_, _, item, found, same⟩ := mem_normalizeDependsOn.mp listed
    obtain ⟨_, _, raw, _, stripped⟩ := mem_normalizeDependsOn.mp found
    rw [← stripped, strip_strip, stripped] at same
    exact same ▸ found
  · obtain ⟨solid, other, item, found, same⟩ := mem_normalizeDependsOn.mp listed
    exact mem_normalizeDependsOn.mpr ⟨solid, other, target, listed, by rw [← same, strip_strip]⟩

/-- Normalizing what a task waits for drops nothing. -/
lemma mem_normalize_effective (tidy : ∀ parent, task.parentTaskId = some parent →
    strip parent = parent) (waits : target ∈ effectiveDependencies id task) :
    target ∈ normalizeDependsOn (effectiveDependencies id task) id := by
  have solid : target ≠ [] ∧ target ≠ id ∧ strip target = target := by
    rcases mem_effectiveDependencies.mp waits with listed | ⟨solid, other, parent⟩
    · obtain ⟨solid, other, item, _, same⟩ := mem_normalizeDependsOn.mp listed
      exact ⟨solid, other, by rw [← same, strip_strip]⟩
    · exact ⟨solid, other, tidy target parent⟩
  exact mem_normalizeDependsOn.mpr ⟨solid.1, solid.2.1, target, waits, solid.2.2⟩

/-- The search answers for the graph that it is given. -/
lemma acyclic_of_validateDependencyGraph {graph : Dict Str (List Str)}
    (passed : validateDependencyGraph graph = .ok ()) :
    ¬ DepthFirst.Cyclic (successors
      (graph.map fun tid dependsOn => normalizeDependsOn dependsOn tid)) := by
  intro cyclic
  unfold validateDependencyGraph at passed
  rw [if_pos ((DepthFirst.hasCycle_iff ?_ ?_).mpr cyclic)] at passed
  · cases passed
  · intro source _ target leads
    exact of_decide_eq_true (mem_filter.mp leads).2
  · intro source leads
    rw [Dict.mem_keys, Option.isSome_iff_ne_none]
    intro absent
    exact leads (by rw [successors, absent]; rfl)

/-- What a passed check says: none of what is listed waits for the task. -/
lemma checked_of_validate (tidy : Tidy tasks) {dependsOn : List Str}
    (passed : validateDependenciesAndCycles tasks tid (normalizeDependsOn dependsOn tid) = .ok ())
    (listed : target ∈ normalizeDependsOn dependsOn tid) :
    ¬ Relation.ReflTransGen (WaitsFor tasks) target tid := by
  unfold validateDependenciesAndCycles at passed
  dsimp only at passed
  split at passed
  · cases passed
  rename_i none
  have acyclic := acyclic_of_validateDependencyGraph passed
  generalize checks : ((tasks.map effectiveDependencies).set tid
    (normalizeDependsOn (normalizeDependsOn dependsOn tid) tid)).map
    (fun tid dependsOn => normalizeDependsOn dependsOn tid) = graph at acyclic
  have entry : ∀ source, graph.get? source = if source = tid then
      some (normalizeDependsOn (normalizeDependsOn (normalizeDependsOn dependsOn tid) tid) source)
      else (tasks.get? source).map fun task =>
        normalizeDependsOn (effectiveDependencies source task) source := by
    intro source
    rw [← checks, get?_map, get?_set, get?_map]
    split
    · rfl
    · rw [Option.map_map]
      rfl
  have known : ∀ {source}, source = tid ∨ source ∈ tasks.keys → source ∈ graph.keys := by
    intro source either
    rw [Dict.mem_keys, entry]
    split
    · rfl
    · rename_i other
      rw [Option.isSome_map]
      exact Dict.mem_keys.mp (either.resolve_left other)
  have stored : target ∈ tasks.keys := by
    by_contra absent
    exact none (ne_nil_of_mem (mem_filter.mpr ⟨listed, by simpa using absent⟩))
  -- Up to where a path first comes to the task, it runs along edges of the graph that was searched.
  have along : ∀ {source}, Relation.ReflTransGen (WaitsFor tasks) source tid →
      Relation.ReflTransGen (fun source target => target ∈ successors graph source) source tid := by
    intro source path
    induction path using Relation.ReflTransGen.head_induction_on with
    | refl => exact .refl
    | @head source middle step rest ih =>
      by_cases same : source = tid
      · exact same ▸ .refl
      obtain ⟨task, found, waits⟩ := step
      have there : middle ∈ graph.keys := by
        rcases Relation.ReflTransGen.cases_head rest with rfl | ⟨_, ⟨_, stored, _⟩, _⟩
        · exact known (.inl rfl)
        · exact known (.inr (Dict.mem_keys.mpr (by rw [stored]; rfl)))
      refine .head (mem_filter.mpr ⟨?_, by simpa using there⟩) ih
      rw [entry, if_neg same, found]
      exact mem_normalize_effective (tidy source task found) waits
  intro path
  refine acyclic ⟨tid, Relation.TransGen.head' ?_ (along path)⟩
  refine mem_filter.mpr ⟨?_, by simpa using known (.inr stored)⟩
  rw [entry, if_pos rfl]
  exact mem_normalize_again.mpr (mem_normalize_again.mpr listed)

variable {guards : TaskGuards} {store : TaskStore} {taskId : Str} {fields : TaskFields}

/-- What holds between requests. -/
structure TaskStore.Ordered (store : TaskStore) : Prop where
  tidy : Tidy store.tasks
  acyclic : Acyclic (WaitsFor store.tasks)

/-- A parent that is given is written without white space around it, and does not wait for the
task. -/
def TaskFields.ParentIndependent (fields : TaskFields) (store : TaskStore) (taskId : Str) : Prop :=
  ∀ parent, fields.parentTaskId = some parent →
    strip parent = parent ∧
      (parent = taskId ∨ ¬ Relation.TransGen (WaitsFor store.tasks) parent taskId)

def TaskCall.ParentIndependent (store : TaskStore) : TaskCall → Prop
  | .create id uuid fields => fields.ParentIndependent store (newTaskId id uuid)
  | .patch taskId fields => fields.ParentIndependent store taskId
  | .delete _ | .archive _ => True

/-- What a task waited for before does not wait for it. -/
lemma TaskStore.Ordered.free (ordered : store.Ordered)
    (waited : target ∈ effectiveDependencies taskId ((store.tasks.get? taskId).getD {})) :
    ¬ Relation.ReflTransGen (WaitsFor store.tasks) target taskId := by
  intro path
  cases found : store.tasks.get? taskId with
  | none =>
    rw [found] at waited
    exact nomatch waited
  | some task =>
    rw [found] at waited
    exact ordered.acyclic taskId (.head' ⟨task, found, waited⟩ path)

/-- Writing the fields of a task keeps the order, where what is newly listed does not wait for the
task. -/
lemma TaskStore.Ordered.updated (ordered : store.Ordered)
    (independent : fields.ParentIndependent store taskId)
    (checked : ∀ listed, fields.dependsOn = some listed →
      ∀ target ∈ normalizeDependsOn listed taskId,
      ¬ Relation.ReflTransGen (WaitsFor store.tasks) target taskId) :
    (store.updated taskId fields).Ordered := by
  have entry : ∀ source, (store.updated taskId fields).tasks.get? source = if source = taskId then
      some ⟨fields.dependsOn.getD ((store.tasks.get? taskId).getD {}).dependsOn,
        fields.parentTaskId.or ((store.tasks.get? taskId).getD {}).parentTaskId⟩
          else store.tasks.get? source :=
    fun source => get?_set _ _ _ _
  refine ⟨fun source task found parent named => ?_,
    ordered.acyclic.changed taskId (fun source target other waits => ?_) fun target waits => ?_⟩
  · rw [entry] at found
    split at found
    · cases found
      cases given : fields.parentTaskId with
      | some chosen =>
        rw [given] at named
        cases named
        exact (independent parent given).1
      | none =>
        rw [given, Option.none_or] at named
        cases old : store.tasks.get? taskId with
        | none =>
          rw [old] at named
          cases named
        | some task => exact ordered.tidy taskId task old parent (by rwa [old] at named)
    · exact ordered.tidy source task found parent named
  · obtain ⟨task, found, listed⟩ := waits
    rw [entry, if_neg other] at found
    exact ⟨task, found, listed⟩
  · obtain ⟨task, found, waits⟩ := waits
    rw [entry, if_pos rfl] at found
    cases found
    rcases mem_effectiveDependencies.mp waits with listed | ⟨solid, other, parent⟩
    -- A field that is not given keeps its old value, which is free of cycles.
    · cases given : fields.dependsOn with
      | some chosen =>
        rw [given] at listed
        exact checked chosen given target listed
      | none =>
        rw [given] at listed
        exact ordered.free (mem_effectiveDependencies.mpr (.inl listed))
    · cases given : fields.parentTaskId with
      | some chosen =>
        rw [given] at parent
        cases parent
        intro path
        have free := (independent target given).2.resolve_left other
        exact free ((Relation.reflTransGen_iff_eq_or_transGen.mp path).resolve_left fun same =>
          other same.symm)
      | none =>
        rw [given] at parent
        exact ordered.free (mem_effectiveDependencies.mpr (.inr ⟨solid, other, parent⟩))

/-- Removing a task keeps the order. -/
lemma TaskStore.Ordered.erased (ordered : store.Ordered) (archived : List Str) :
    TaskStore.Ordered ⟨store.tasks.erase taskId, archived⟩ := by
  have kept : ∀ {source task}, (store.tasks.erase taskId).get? source = some task →
      store.tasks.get? source = some task := by
    intro source task found
    rw [get?_erase] at found
    split at found
    · cases found
    · exact found
  refine ⟨fun source task found => ordered.tidy source task (kept found), fun node cycle =>
    ordered.acyclic node ?_⟩
  exact cycle.lift id fun _ _ edge => edge.imp fun _ both => ⟨kept both.1, both.2⟩

/-- An answered request keeps the order. -/
lemma run_ordered (ordered : store.Ordered) {call : TaskCall}
    (independent : call.ParentIndependent store) {later : TaskStore}
    (ran : call.run guards store = .ok later) : later.Ordered := by
  have passed : ∀ {answer : Except Str Unit}, badRequest answer = .ok () → answer = .ok () := by
    intro answer fine
    cases answer with
    | error _ => cases fine
    | ok _ => rfl
  cases call with
  | create id uuid fields =>
    simp only [TaskCall.run, createTask, ok_iff] at ran
    obtain ⟨_, _, _, _, _, _, _, checked, rfl⟩ := ran
    split
    · refine ordered.updated independent fun listed given target member => ?_
      cases given
      exact checked_of_validate ordered.tidy (passed checked) (mem_normalize_again.mp member)
    · exact ordered
  | patch taskId fields =>
    simp only [TaskCall.run, patchTask, ok_iff] at ran
    obtain ⟨_, _, _, _, _, _, _, checked, rfl⟩ := ran
    split
    · refine ordered.updated independent fun listed given target member => ?_
      obtain ⟨raw, named, rfl⟩ := Option.map_eq_some_iff.mp given
      rw [named] at checked
      exact checked_of_validate ordered.tidy (passed checked) (mem_normalize_again.mp member)
    · exact ordered
  | delete taskId | archive taskId =>
    cases ran
    exact ordered.erased _

/-- Where every parent that is given is independent of its task, no sequence of requests leads to
tasks that wait for each other in a circle. -/
theorem hub_dependencies_acyclic (guards : TaskGuards) (calls : List TaskCall)
    (independent : (taskMachine guards).Throughout (fun store call => call.ParentIndependent store)
      (taskMachine guards).initial calls) :
    Acyclic ((taskMachine guards).after (taskMachine guards).initial calls).DependsOn := by
  have ordered : ((taskMachine guards).after (taskMachine guards).initial calls).Ordered := by
    refine (taskMachine guards).after_of_throughout _ TaskStore.Ordered
      (fun store call ordered independent => ?_) calls _ ⟨nofun, fun node cycle => ?_⟩ independent
    · show TaskStore.Ordered (match call.run guards store with
        | .ok later => (Except.ok (), later)
        | .error error => (.error error, store)).2
      split
      · rename_i ran
        exact run_ordered ordered independent ran
      · exact ordered
    · obtain ⟨_, ⟨_, impossible, _⟩, _⟩ := Relation.TransGen.head'_iff.mp cycle
      exact nomatch impossible
  exact fun node cycle => ordered.acyclic node (cycle.lift id fun _ _ depends => depends.1)

/-- Checks that let every request pass but a patch without a status. -/
def openGuards : TaskGuards where
  ingress _ := none
  conflict _ _ := none
  settles
    | _, .patch _ fields => fields.status.isSome
    | _, _ => true

theorem hub_dependencies_acyclic_parent :
    let calls := [.create (some (text "a")) [] {}, .create (some (text "b")) []
      { dependsOn := some ["a"] },
      .patch "b" { parentTaskId := some (text "a"), status := some (text "assigned") }]
    let store := (taskMachine openGuards).after (taskMachine openGuards).initial calls
    store.tasks.get? "b" = some ⟨["a"], some (text "a")⟩ ∧ Acyclic store.DependsOn := by
  intro calls store
  refine ⟨by decide, hub_dependencies_acyclic openGuards calls
    ⟨nofun, nofun, fun parent given => ?_, trivial⟩⟩
  cases given
  refine ⟨by decide, .inr fun path => ?_⟩
  -- The parent waits for nothing.
  obtain ⟨_, ⟨task, found, waits⟩, _⟩ := Relation.TransGen.head'_iff.mp path
  obtain rfl : ({} : HubTask) = task :=
    Option.some.inj ((by decide : _ = some ({} : HubTask)).symm.trans found)
  exact nomatch waits

/-- Two tasks that are created with each other as parent wait for each other. -/
theorem parents_wait_for_each_other :
    ¬ Acyclic ((taskMachine openGuards).after (taskMachine openGuards).initial
      [.create (some (text "a")) [] { parentTaskId := some (text "b") },
        .create (some (text "b")) [] { parentTaskId := some (text "a") }]).DependsOn := by
  intro acyclic
  refine acyclic (text "a") (.tail (.single (b := text "b") ?_) ?_)
  · exact ⟨⟨⟨[], some (text "b")⟩, by decide, by decide⟩, by decide⟩
  · exact ⟨⟨⟨[], some (text "a")⟩, by decide, by decide⟩, by decide⟩

end Ananta
