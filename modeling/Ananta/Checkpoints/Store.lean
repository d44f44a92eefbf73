import Ananta.Checkpoints.Signatures

/-! The checkpoint store in memory: histories of checkpoints, and their identities. -/

namespace Ananta

open SignedCheckpoint Call List

abbrev HistoryKey := Str × Str × Str

def SignedCheckpoint.historyKey (checkpoint : SignedCheckpoint) : HistoryKey :=
  (checkpoint.tenantId, checkpoint.runId, checkpoint.taskId)

def SignedCheckpoint.identity (checkpoint : SignedCheckpoint) : Str × Str :=
  (checkpoint.tenantId, checkpoint.checkpointId)

/-- `InMemoryCheckpointStore`. -/
structure CheckpointStore where
  histories : Dict HistoryKey (List SignedCheckpoint)
  ids : Dict (Str × Str) SignedCheckpoint

namespace CheckpointStore

/-- The store without checkpoints. -/
def empty : CheckpointStore := ⟨Dict.empty, Dict.empty⟩

def history (store : CheckpointStore) (key : HistoryKey) : List SignedCheckpoint :=
  (store.histories.get? key).getD []

/-- Append a checkpoint to its history and record its identity. -/
def file (store : CheckpointStore) (stored : SignedCheckpoint) : CheckpointStore :=
  { histories := store.histories.set stored.historyKey (store.history stored.historyKey ++ [stored])
    ids := store.ids.set stored.identity stored }

/-- `get_latest`. -/
def getLatest (store : CheckpointStore) (upcaster : Upcaster) (key : HistoryKey) :
    Except Fault (Option SignedCheckpoint) :=
  match (store.history key).getLast? with
  | none => .ok none
  | some checkpoint => (checkpoint.clone upcaster).map some

end CheckpointStore

def currentRevision (history : List SignedCheckpoint) : Int :=
  (history.getLast?.map (·.revision)).getD 0

def currentFence (history : List SignedCheckpoint) : Int :=
  (history.getLast?.map (·.fencingToken)).getD 0

/-- The arguments of `save`. -/
structure SaveCall where
  checkpoint : SignedCheckpoint
  expectedRevision : Int

namespace SaveCall

/-- The answer to a checkpoint whose identity is known. -/
def resave (upcaster : Upcaster) (call : SaveCall) (duplicate : SignedCheckpoint) :
    Except Fault SignedCheckpoint := do
  let stored ← duplicate.toDict
  let known ← canonicalJson (.dict stored)
  let mapping ← call.checkpoint.toDict
  let given ← canonicalJson (.dict mapping)
  raiseIf (known ≠ given) ⟨.optimisticConcurrencyError, "checkpoint_id_payload_conflict"⟩
  duplicate.clone upcaster

/-- The checks of a checkpoint against the end of its history. -/
def assertNext (call : SaveCall) (history : List SignedCheckpoint) : Except Fault Unit := do
  raiseIf (call.expectedRevision ≠ currentRevision history ∨
      call.checkpoint.revision ≠ currentRevision history + 1)
    ⟨.optimisticConcurrencyError, "checkpoint_revision_conflict:expected=" ++
      toString call.expectedRevision ++ ":actual=" ++ toString (currentRevision history)⟩
  raiseIf (call.checkpoint.fencingToken < currentFence history)
    ⟨.fencingTokenError, "checkpoint_fencing_token_stale"⟩

/-- `save`. -/
def save (upcaster : Upcaster) (call : SaveCall) : Call Fault CheckpointStore SignedCheckpoint := do
  call.checkpoint.assertStructure
  let store ← read
  match store.ids.get? call.checkpoint.identity with
  | some duplicate => call.resave upcaster duplicate
  | none => do
    call.assertNext (store.history call.checkpoint.historyKey)
    let stored ← call.checkpoint.clone upcaster
    write fun store => store.file stored
    stored.clone upcaster

end SaveCall

/-- The store behind its `save`. -/
def checkpointMachine (upcaster : Upcaster) :
    Machine CheckpointStore SaveCall (Except Fault SignedCheckpoint) where
  initial := .empty
  step store call := call.save upcaster store

variable {upcaster : Upcaster}

structure Next (call : SaveCall) (store : CheckpointStore) : Prop where
  structured : call.checkpoint.assertStructure = .ok ()
  fresh : store.ids.get? call.checkpoint.identity = none
  expected : call.expectedRevision = currentRevision (store.history call.checkpoint.historyKey)
  revision : call.checkpoint.revision =
    currentRevision (store.history call.checkpoint.historyKey) + 1
  fence : currentFence (store.history call.checkpoint.historyKey) ≤ call.checkpoint.fencingToken

/-- What a call of `save` can do. -/
inductive SaveEffect (upcaster : Upcaster) (store : CheckpointStore) (call : SaveCall) :
    Except Fault SignedCheckpoint → CheckpointStore → Prop
  | raised {fault : Fault} : SaveEffect upcaster store call (.error fault) store
  | known {duplicate returned : SignedCheckpoint}
      (structured : call.checkpoint.assertStructure = .ok ())
      (found : store.ids.get? call.checkpoint.identity = some duplicate)
      (resaved : call.resave upcaster duplicate = .ok returned) :
        SaveEffect upcaster store call (.ok returned) store
  | filed (next : Next call store) :
      SaveEffect upcaster store call (.ok (call.checkpoint.kept .exact))
        (store.file (call.checkpoint.kept .exact))

/-- What holds of a checkpoint that was filed. -/
structure Canonical (checkpoint : SignedCheckpoint) : Prop extends checkpoint.Sound where
  clean : checkpoint.state.Clean

lemma Canonical.clone {stored : SignedCheckpoint} (canonical : Canonical stored) :
    stored.clone upcaster = .ok stored := by
  rw [clone_eq canonical.toSound, kept_exact_iff.mpr canonical.clean]

lemma SignedCheckpoint.kept_kept (checkpoint : SignedCheckpoint) :
    (checkpoint.kept .exact).kept .exact = checkpoint.kept .exact := by
  refine kept_exact_iff.mpr ⟨?_, ?_, ?_⟩ <;> exact cleanTuple_cleanTuple _

lemma canonical_kept {checkpoint : SignedCheckpoint}
    (structured : checkpoint.assertStructure = .ok ()) : Canonical (checkpoint.kept .exact) := by
  have sound := sound_of_assertStructure structured
  exact ⟨{ sound with safe := sound.safe.kept .exact }, kept_exact_iff.mp (kept_kept _)⟩

/-- A call of `save` has one of the effects. -/
lemma save_effect (upcaster : Upcaster) (store : CheckpointStore) (call : SaveCall) :
    SaveEffect upcaster store call ((checkpointMachine upcaster).step store call).1
      ((checkpointMachine upcaster).step store call).2 := by
  refine ensures_evaluate (fun _ _ => .raised) fun _ structured => ?_
  apply ensures_read
  cases found : store.ids.get? call.checkpoint.identity with
  | some duplicate =>
    show SaveEffect upcaster store call (call.resave upcaster duplicate) store
    cases resaved : call.resave upcaster duplicate with
    | error fault => exact .raised
    | ok returned => exact .known structured found resaved
  | none =>
    refine ensures_evaluate (fun _ _ => .raised) fun _ checked => ?_
    simp only [SaveCall.assertNext, ok_iff, not_or, not_not, ne_eq, not_lt] at checked
    obtain ⟨_, ⟨expected, revision⟩, fence⟩ := checked
    refine ensures_evaluate (fun _ _ => .raised) fun stored cloned => ?_
    rw [clone_eq (sound_of_assertStructure structured)] at cloned
    cases cloned
    -- Cloning the clone cannot raise after the store was written.
    rw [(canonical_kept structured).clone]
    exact .filed ⟨structured, found, expected, revision, fence⟩

variable {store : CheckpointStore} {stored : SignedCheckpoint}

lemma history_file (key : HistoryKey) : (store.file stored).history key =
      if key = stored.historyKey then store.history stored.historyKey ++ [stored]
        else store.history key := by
  unfold CheckpointStore.history CheckpointStore.file
  rw [get?_set]
  split <;> rfl

/-- The revisions of a history are counted up from one. -/
def Numbered (history : List SignedCheckpoint) : Prop :=
  history.map (·.revision) = (range history.length).map fun position : Nat => (position : Int) + 1

variable {history : List SignedCheckpoint} {call : SaveCall}

lemma numbered_concat :
    Numbered (history ++ [stored]) ↔ Numbered history ∧ stored.revision = history.length + 1 := by
  unfold Numbered
  rw [length_append, length_singleton, range_succ, map_append, map_append]
  simp_all

lemma currentRevision_eq (numbered : Numbered history) :
    currentRevision history = history.length := by
  induction history using reverseRecOn with
  | nil => rfl
  | append_singleton front last _ =>
    simp [currentRevision, (numbered_concat.mp numbered).2]

def Fenced (history : List SignedCheckpoint) : Prop :=
  history.Pairwise fun earlier later => earlier.fencingToken ≤ later.fencingToken

/-- The last token of a history is its largest one. -/
lemma le_currentFence (fenced : Fenced history) :
    ∀ checkpoint ∈ history, checkpoint.fencingToken ≤ currentFence history := by
  induction history using reverseRecOn with
  | nil => exact nofun
  | append_singleton front last _ =>
    have tip : currentFence (front ++ [last]) = last.fencingToken := by simp [currentFence]
    rw [tip]
    intro checkpoint member
    rcases mem_append.mp member with before | now
    · exact (pairwise_append.mp fenced).2.2 checkpoint before last mem_cons_self
    · rw [mem_singleton.mp now]

lemma fenced_concat (fenced : Fenced history)
    (fresh : currentFence history ≤ stored.fencingToken) : Fenced (history ++ [stored]) := by
  refine pairwise_append.mpr ⟨fenced, pairwise_singleton _ _, fun checkpoint before last now => ?_⟩
  rw [mem_singleton.mp now]
  exact (le_currentFence fenced checkpoint before).trans fresh

/-- What the store keeps right. -/
structure CheckpointsFiled (store : CheckpointStore) : Prop where
  numbered : ∀ key, Numbered (store.history key)
  fenced : ∀ key, Fenced (store.history key)
  owned : ∀ key, ∀ checkpoint ∈ store.history key,
    checkpoint.historyKey = key ∧ store.ids.get? checkpoint.identity = some checkpoint
  canonical : ∀ identity checkpoint, store.ids.get? identity = some checkpoint →
    Canonical checkpoint

lemma checkpointsFiled_empty : CheckpointsFiled .empty :=
  ⟨fun _ => rfl, fun _ => .nil, nofun, nofun⟩

/-- Filing the next checkpoint keeps the store right. -/
lemma CheckpointsFiled.file (filed : CheckpointsFiled store) (next : Next call store) :
    CheckpointsFiled (store.file (call.checkpoint.kept .exact)) := by
  refine ⟨fun key => ?_, fun key => ?_, fun key checkpoint member => ?_,
    fun identity checkpoint found => ?_⟩
  · rw [history_file]
    split
    · refine numbered_concat.mpr ⟨filed.numbered _, ?_⟩
      rw [← currentRevision_eq (filed.numbered _)]
      exact next.revision
    · exact filed.numbered key
  · rw [history_file]
    split
    · exact fenced_concat (filed.fenced _) next.fence
    · exact filed.fenced key
  · -- An earlier checkpoint has another identity than the one that is filed.
    have earlier : ∀ key, ∀ checkpoint ∈ store.history key, checkpoint.historyKey = key ∧
        (store.file (call.checkpoint.kept .exact)).ids.get? checkpoint.identity =
          some checkpoint := by
      intro key checkpoint member
      obtain ⟨own, known⟩ := filed.owned key checkpoint member
      refine ⟨own, ?_⟩
      rw [CheckpointStore.file, get?_set_ne _ ?_, known]
      intro same
      rw [same] at known
      exact absurd (next.fresh.symm.trans known) (by simp)
    rw [history_file] at member
    split at member
    · rename_i same
      rcases mem_append.mp member with before | now
      · rw [same]
        exact earlier _ checkpoint before
      · rw [mem_singleton.mp now]
        exact ⟨same.symm, get?_set_self _ _ _⟩
    · exact earlier key checkpoint member
  · rw [CheckpointStore.file, get?_set] at found
    split at found
    · cases found
      exact canonical_kept next.structured
    · exact filed.canonical identity checkpoint found

/-- A call of `save` keeps the store right. -/
lemma CheckpointsFiled.step (filed : CheckpointsFiled store) (call : SaveCall) :
    CheckpointsFiled ((checkpointMachine upcaster).step store call).2 := by
  have effect := save_effect upcaster store call
  generalize (checkpointMachine upcaster).step store call = stepped at effect ⊢
  obtain ⟨_, _⟩ := stepped
  cases effect with
  | raised => exact filed
  | known => exact filed
  | filed next => exact filed.file next

lemma checkpointsFiled_after (calls : List SaveCall) :
    CheckpointsFiled ((checkpointMachine upcaster).after .empty calls) :=
  (checkpointMachine upcaster).after_of_step CheckpointsFiled (fun _ call filed => filed.step call)
    calls _ checkpointsFiled_empty

/-- Identities are never forgotten. -/
lemma ids_kept {identity : Str × Str} (found : store.ids.get? identity = some stored)
    (calls : List SaveCall) :
    ((checkpointMachine upcaster).after store calls).ids.get? identity = some stored := by
  refine (checkpointMachine upcaster).after_of_step
    (fun store => store.ids.get? identity = some stored)
    (fun store call found => ?_) calls store found
  have effect := save_effect upcaster store call
  generalize ((checkpointMachine upcaster).step store call).1 = outcome at effect
  generalize ((checkpointMachine upcaster).step store call).2 = after at effect ⊢
  cases effect with
  | raised => exact found
  | known => exact found
  | filed next =>
    rw [CheckpointStore.file, get?_set_ne _ ?_, found]
    intro same
    rw [same] at found
    exact absurd (next.fresh.symm.trans found) (by simp)

/-- Two places of the histories that hold the same identity are the same place. -/
lemma CheckpointsFiled.unique (filed : CheckpointsFiled store) {key other : HistoryKey}
    {position place : Nat} {checkpoint found : SignedCheckpoint}
    (first : (store.history key)[position]? = some checkpoint)
    (second : (store.history other)[place]? = some found)
    (same : checkpoint.identity = found.identity) :
    key = other ∧ position = place := by
  obtain ⟨own, known⟩ := filed.owned key checkpoint (mem_of_getElem? first)
  obtain ⟨owned, knownToo⟩ := filed.owned other found (mem_of_getElem? second)
  rw [same, knownToo] at known
  obtain rfl : found = checkpoint := Option.some.inj known
  have keys : key = other := own.symm.trans owned
  have numbers : ∀ {position : Nat}, (store.history key)[position]? = some found →
      found.revision = (position : Int) + 1 := by
    intro position there
    have numbered := congrArg (·[position]?) (filed.numbered key)
    obtain ⟨bound, here⟩ := List.getElem?_eq_some_iff.mp there
    simpa [here, bound] using numbered
  grind

/-- A checkpoint that the store keeps as it is, and that has a canonical text. -/
structure Restorable (checkpoint : SignedCheckpoint) : Prop where
  clean : checkpoint.state.Clean
  rendered : ∃ rendered, canonicalJson (.dict checkpoint.fields) = .ok rendered

lemma step_known (structured : call.checkpoint.assertStructure = .ok ())
    (found : store.ids.get? call.checkpoint.identity = some stored) :
    (checkpointMachine upcaster).step store call = (call.resave upcaster stored, store) := by
  show call.save upcaster store = _
  rw [SaveCall.save, run_evaluate structured, run_read]
  simp only [found]
  rfl

/-- A checkpoint that was filed is saved again exactly when it is restorable. -/
lemma resave_iff (structured : call.checkpoint.assertStructure = .ok ()) :
    call.resave upcaster (call.checkpoint.kept .exact) = .ok call.checkpoint ↔
      Restorable call.checkpoint := by
  have safe := (sound_of_assertStructure structured).safe
  simp only [SaveCall.resave, ok_iff, toDict_eq_ok, (canonical_kept structured).clone]
  constructor
  · rintro ⟨_, _, _, _, _, ⟨_, rfl⟩, given, rendered, _, _, same⟩
    rw [Except.ok.injEq] at same
    exact ⟨kept_exact_iff.mp same, given, rendered⟩
  · rintro ⟨clean, given, rendered⟩
    rw [kept_exact_iff.mpr clean]
    exact ⟨_, ⟨safe, rfl⟩, given, rendered, _, ⟨safe, rfl⟩, given, rendered, (), fun differ =>
      differ rfl, rfl⟩

/-- What a call that was accepted answers when it is made again later. -/
lemma saved_again {returned : SignedCheckpoint}
    (accepted : ((checkpointMachine upcaster).step store call).1 = .ok returned)
    (later : List SaveCall) (expectedRevision : Int) :
    let machine := checkpointMachine upcaster
    let after := machine.after (machine.step store call).2 later
    if store.ids.get? call.checkpoint.identity = none then
      machine.step after ⟨call.checkpoint, expectedRevision⟩ = (.ok call.checkpoint, after) ↔
        Restorable call.checkpoint
    else machine.step after ⟨call.checkpoint, expectedRevision⟩ = (.ok returned, after) := by
  intro machine after
  have effect := save_effect upcaster store call
  rw [accepted] at effect
  -- What the call left under its identity stays there.
  generalize left : ((checkpointMachine upcaster).step store call).2 = next at effect
  have again : ∀ {stored}, call.checkpoint.assertStructure = .ok () →
      next.ids.get? call.checkpoint.identity = some stored →
      machine.step after ⟨call.checkpoint, expectedRevision⟩ =
        (call.resave upcaster stored, after) := by
    intro stored structured found
    rw [← left] at found
    exact step_known structured (ids_kept found later)
  cases effect with
  | known structured found resaved =>
    rw [if_neg (by simp [found]), again structured found, resaved]
  | filed fresh =>
    rw [if_pos fresh.fresh, again fresh.structured (get?_set_self _ _ _), Prod.mk.injEq,
      and_iff_left rfl]
    exact resave_iff fresh.structured

/-- The store in memory keeps its histories numbered, fenced and apart, and a call that raises
changes nothing. A checkpoint that was filed is saved again exactly when it is restorable, and one
that was recognized as filed already is recognized again. -/
theorem checkpoint_store_consistent (upcaster : Upcaster) (calls : List SaveCall) :
    let machine := checkpointMachine upcaster
    let store := machine.after .empty calls
    (∀ key, Numbered (store.history key) ∧ Fenced (store.history key) ∧
      store.getLatest upcaster key = .ok (store.history key).getLast?) ∧
    (∀ key (position : Nat) (checkpoint : SignedCheckpoint) other (place : Nat)
      (found : SignedCheckpoint), (store.history key)[position]? = some checkpoint →
      (store.history other)[place]? = some found → checkpoint.tenantId = found.tenantId →
      checkpoint.checkpointId = found.checkpointId → key = other ∧ position = place) ∧
    (∀ call fault, (machine.step store call).1 = .error fault →
      (machine.step store call).2 = store) ∧
    ∀ before call later returned, calls = before ++ call :: later →
      (machine.step (machine.after .empty before) call).1 = .ok returned → ∀ expectedRevision,
        if (machine.after .empty before).ids.get? call.checkpoint.identity = none then
          machine.step store ⟨call.checkpoint, expectedRevision⟩ = (.ok call.checkpoint, store) ↔
            Restorable call.checkpoint
        else machine.step store ⟨call.checkpoint, expectedRevision⟩ = (.ok returned, store) := by
  intro machine store
  have filed : CheckpointsFiled store := checkpointsFiled_after calls
  refine ⟨fun key => ⟨filed.numbered key, filed.fenced key, ?_⟩, ?_, fun call fault raised => ?_,
    ?_⟩
  · unfold CheckpointStore.getLatest
    cases last : (store.history key).getLast? with
    | none => rfl
    | some checkpoint =>
      obtain ⟨_, known⟩ := filed.owned key checkpoint (mem_of_getLast? last)
      simp only [(filed.canonical _ _ known).clone]
      rfl
  · intro key position checkpoint other place found first second tenant identity
    exact filed.unique first second (Prod.ext tenant identity)
  · have effect := save_effect upcaster store call
    generalize ((checkpointMachine upcaster).step store call).1 = outcome at effect raised
    generalize ((checkpointMachine upcaster).step store call).2 = after at effect ⊢
    cases effect with
    | raised => rfl
    | known => cases raised
    | filed => cases raised
  · rintro before call later returned rfl accepted expectedRevision
    have runs : store = machine.after (machine.step (machine.after .empty before) call).2 later :=
      machine.after_append _ _ _
    rw [runs]
    exact saved_again accepted later expectedRevision

def gateCheckpoint (openGates : List Str) : SignedCheckpoint :=
  { checkpointId := "c", tenantId := "t", workflowId := "w", runId := "r", taskId := "n",
    planHash := "p", policyVersion := "v", runtimeId := "native", runtimeVersion := "1",
    state := { openGates }, revision := 1, fencingToken := 1, createdAt := 1, keyId := "k",
    signature := "s" }

/-- A checkpoint with sorted references is saved again. -/
theorem checkpoint_store_consistent_clean :
    let machine := checkpointMachine fun _ _ => .ok []
    let call : SaveCall := ⟨gateCheckpoint ["a", "b"], 0⟩
    let store := machine.after .empty [call]
    machine.step store call = (.ok call.checkpoint, store) := by
  intro machine call store
  have exact : ∀ {α : Type} (result : Except Fault α), result.isOk = true →
      ∃ value, result = .ok value := by
    intro α result passed
    cases result <;> simp_all [Except.isOk, Except.toBool]
  obtain ⟨returned, accepted⟩ :=
    exact (machine.step (machine.after .empty []) call).1 (by decide +kernel)
  have again := (checkpoint_store_consistent (fun _ _ => .ok []) [call]).2.2.2 [] call []
    returned rfl accepted 0
  rw [if_pos (by decide +kernel)] at again
  exact again.mpr ⟨⟨by decide +kernel, by decide +kernel, by decide +kernel⟩,
    exact _ (by decide +kernel)⟩

theorem checkpoint_resave_conflicts : ((checkpointMachine fun _ _ => .ok []).answers .empty
      [⟨gateCheckpoint ["b", "a"], 0⟩, ⟨gateCheckpoint ["b", "a"], 0⟩]).map
        (·.map fun _ => ()) =
      [.ok (), .error ⟨.optimisticConcurrencyError, "checkpoint_id_payload_conflict"⟩] := by
  decide +kernel

end Ananta
