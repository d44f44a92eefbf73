import Ananta.Library.Dict
import Ananta.Python.Text

/-! A mail transaction over several files is all or nothing, however often it and its recovery are
interrupted. -/

namespace Ananta

open List

inductive ManifestState where
  | prepared
  | committing
  | committed
  | rolledBack
  | recovered

/-- An entry of the manifest. -/
structure MailTarget where
  path : Str
  (existed delete : Bool)

structure MailManifest where
  state : ManifestState
  targets : List MailTarget

/-- A target, and its preimage and staged file in the transaction's directory. -/
inductive MailFile where
  | target (path : Str)
  | preimage (path : Str)
  | staged (path : Str)
  deriving DecidableEq

structure MailDisk where
  files : MailFile → Option (List UInt8)
  manifest : Option MailManifest

/-- The file operations, each done as a whole or not at all: a file is written or replaced, or
unlinked where there is no content, and the manifest is written. -/
inductive FileOp where
  | put (file : MailFile) (content : Option (List UInt8))
  | mark (manifest : MailManifest)

def FileOp.apply (disk : MailDisk) : FileOp → MailDisk
  | .put file content => { disk with files := Function.update disk.files file content }
  | .mark manifest => { disk with manifest := some manifest }

variable (disk : MailDisk) (files : Dict Str (Option (List UInt8)))

def MailDisk.run (ops : List FileOp) : MailDisk := ops.foldl FileOp.apply disk

def puts (contents : List (MailFile × Option (List UInt8))) : List FileOp :=
  contents.map fun pair => .put pair.1 pair.2

/-- `_restore`, followed by the manifest in its next state. -/
def MailDisk.restore (state : ManifestState) (targets : List MailTarget) : List FileOp :=
  puts (targets.reverse.map fun item =>
    (.target item.path, if item.existed then disk.files (.preimage item.path) else none)) ++
      [.mark ⟨state, targets⟩]

/-- `recover_if_needed`. -/
def MailDisk.recoverIfNeeded : List FileOp :=
  match disk.manifest with
  | some ⟨.prepared, targets⟩ | some ⟨.committing, targets⟩ => disk.restore .recovered targets
  | _ => []

/-- The preimages, and the staged files of the targets that are not deleted. -/
def preparations : List (MailFile × Option (List UInt8)) :=
  files.entries.flatMap fun entry =>
    (.preimage entry.1, some ((disk.files (.target entry.1)).getD [])) ::
      entry.2.toList.map fun content => (.staged entry.1, some content)

/-- What the manifest says of the files, which come in the order of their paths. -/
def manifestTargets : List MailTarget :=
  files.entries.map fun entry => ⟨entry.1, (disk.files (.target entry.1)).isSome, entry.2.isNone⟩

/-- What `commit` does before its `try`. -/
def beforeTry : List FileOp := puts (preparations disk files) ++
  [.mark ⟨.prepared, manifestTargets disk files⟩, .mark ⟨.committing, manifestTargets disk files⟩]

/-- A target is deleted, or replaced by its staged file. -/
def placements : List (MailFile × Option (List UInt8)) :=
  (manifestTargets disk files).map fun item =>
  (.target item.path, if item.delete then none
    else (disk.run (beforeTry disk files)).files (.staged item.path))

def commitOps : List FileOp :=
  beforeTry disk files ++ puts (placements disk files) ++
    [.mark ⟨.committed, manifestTargets disk files⟩]

/-- How `commit` ends: it returns, it is stopped after some operations, or an operation behind some
others of its `try` fails and the rollback is stopped after some operations. -/
inductive CommitEnd where
  | returned
  | stopped (count : Nat)
  | failed (count rollback : Nat)

/-- The disk that `commit` leaves. -/
def MailDisk.commit : CommitEnd → MailDisk
  | .returned => disk.run (commitOps disk files)
  | .stopped count => disk.run ((commitOps disk files).take count)
  | .failed count rollback =>
    let failed := disk.run (beforeTry disk files ++ puts ((placements disk files).take count))
    failed.run ((failed.restore .rolledBack (manifestTargets disk files)).take rollback)

/-- The manifest was marked as committed. -/
def CommitEnd.Marked : CommitEnd → Prop
  | .returned => True
  | .stopped count => (commitOps disk files).length ≤ count
  | .failed .. => False

/-- Recoveries that are each stopped after some operations, and one that is not. -/
def MailDisk.recovered (stops : List Nat) : MailDisk :=
  let last := stops.foldl (fun disk count => disk.run (disk.recoverIfNeeded.take count)) disk
  last.run last.recoverIfNeeded

/-- No transaction is under way. -/
def MailDisk.Settled : Prop := ∀ manifest ∈ disk.manifest, manifest.state ≠ .prepared ∧
    manifest.state ≠ .committing

/-- No transaction is under way, and the targets have some contents. -/
structure Rests (content : Str → Option (List UInt8)) (now : MailDisk) : Prop where
  settled : now.Settled
  targets : ∀ path ∈ files.keys, now.files (.target path) = content path

/-- A transaction is under way whose preimages tell how the targets were. -/
structure UnderWay (now : MailDisk) : Prop where
  manifest : now.manifest = some ⟨.prepared, manifestTargets disk files⟩ ∨
    now.manifest = some ⟨.committing, manifestTargets disk files⟩
  preimages : ∀ path ∈ files.keys,
    now.files (.preimage path) = some ((disk.files (.target path)).getD [])

variable {disk files} {now : MailDisk} {content : Str → Option (List UInt8)}

lemma MailDisk.run_append (first second : List FileOp) :
    disk.run (first ++ second) = (disk.run first).run second :=
  foldl_append

lemma take_puts (contents : List (MailFile × Option (List UInt8))) (count : Nat) :
    (puts contents).take count = puts (contents.take count) := by
  simp [puts, map_take]

/-- A file holds what all writes to it agree on, if there is one or it held that before. -/
lemma run_puts (contents : List (MailFile × Option (List UInt8))) :
    (disk.run (puts contents)).manifest = disk.manifest ∧
    ∀ {file content}, (∀ pair ∈ contents, pair.1 = file → pair.2 = content) →
      file ∈ contents.map Prod.fst ∨ disk.files file = content →
        (disk.run (puts contents)).files file = content := by
  induction contents generalizing disk with
  | nil => exact ⟨rfl, fun _ held => held.resolve_left (not_mem_nil)⟩
  | cons pair rest ih =>
    obtain ⟨same, held⟩ := @ih ((FileOp.put pair.1 pair.2).apply disk)
    refine ⟨same, fun {file content} agree written =>
      held (fun other member => agree other (.tail _ member)) ?_⟩
    by_cases own : pair.1 = file
    · exact .inr (by simp [FileOp.apply, ← own, ← agree pair (.head _) own])
    · simpa [FileOp.apply, Function.update_of_ne (Ne.symm own), Ne.symm own] using written

/-- A transaction stays under way while targets are written. -/
lemma UnderWay.puts (underWay : UnderWay disk files now)
    {contents : List (MailFile × Option (List UInt8))}
    (targets : ∀ pair ∈ contents, ∃ path, pair.1 = .target path) :
    UnderWay disk files (now.run (puts contents)) := by
  obtain ⟨manifest, held⟩ := @run_puts now contents
  refine ⟨manifest.symm ▸ underWay.manifest, fun path known => held (fun pair member same => ?_)
    (.inr (underWay.preimages path known))⟩
  obtain ⟨other, target⟩ := targets pair member
  exact nomatch target.symm.trans same

/-- A restoration that is stopped leaves the transaction under way, and one that is not makes the
targets what they were. -/
lemma UnderWay.restore (underWay : UnderWay disk files now) (state : ManifestState)
    (closed : state ≠ .prepared ∧ state ≠ .committing) :
    (∀ count, UnderWay disk files
      (now.run ((now.restore state (manifestTargets disk files)).take count)) ∨
      Rests files (disk.files ∘ .target)
        (now.run ((now.restore state (manifestTargets disk files)).take count))) ∧
    Rests files (disk.files ∘ .target)
      (now.run (now.restore state (manifestTargets disk files))) := by
  have contents : (manifestTargets disk files).reverse.map (fun item => (MailFile.target item.path,
        if item.existed then now.files (.preimage item.path) else none)) =
      files.keys.reverse.map fun path => (.target path, disk.files (.target path)) := by
    simp only [manifestTargets, Dict.keys, ← map_reverse, map_map]
    refine map_congr_left fun entry member => ?_
    have known := underWay.preimages entry.1 (mem_map_of_mem (mem_reverse.mp member))
    cases held : disk.files (.target entry.1) <;> simp_all
  have whole : Rests files (disk.files ∘ .target)
      (now.run (now.restore state (manifestTargets disk files))) := by
    rw [MailDisk.restore, contents, MailDisk.run_append]
    refine ⟨fun manifest found => ?_, fun path known => run_puts _ |>.2 (fun pair member same => ?_)
      (.inl ?_)⟩
    · cases found
      exact closed
    · obtain ⟨other, _, rfl⟩ := mem_map.mp member
      cases same
      rfl
    · simpa using known
  refine ⟨fun count => ?_, whole⟩
  by_cases all : (now.restore state (manifestTargets disk files)).length ≤ count
  · rw [take_of_length_le all]
    exact .inr whole
  · rw [MailDisk.restore, length_append, length_singleton] at all
    rw [MailDisk.restore, take_append_of_le_length (by omega), take_puts]
    refine .inl (underWay.puts fun pair member => ?_)
    obtain ⟨item, _, rfl⟩ := mem_map.mp (mem_of_mem_take member)
    exact ⟨_, rfl⟩

lemma Rests.recovered (rests : Rests files content now) (stops : List Nat) :
    now.recovered stops = now := by
  have nothing : now.recoverIfNeeded = [] := by
    unfold MailDisk.recoverIfNeeded
    split
    · exact absurd rfl (rests.settled _ ‹_›).1
    · exact absurd rfl (rests.settled _ ‹_›).2
    · rfl
  unfold MailDisk.recovered
  induction stops with
  | nil => simp [nothing, MailDisk.run]
  | cons count stops ih => simpa [nothing, MailDisk.run] using ih

/-- However often it is stopped, the recovery of a transaction under way makes the targets what they
were. -/
lemma UnderWay.recovered (underWay : UnderWay disk files now) (stops : List Nat) :
    Rests files (disk.files ∘ .target) (now.recovered stops) := by
  have ops : ∀ {now}, UnderWay disk files now →
      now.recoverIfNeeded = now.restore .recovered (manifestTargets disk files) := by
    intro now underWay
    unfold MailDisk.recoverIfNeeded
    rcases underWay.manifest with same | same <;> rw [same]
  induction stops generalizing now with
  | nil =>
    show Rests _ _ (now.run now.recoverIfNeeded)
    rw [ops underWay]
    exact (underWay.restore .recovered ⟨nofun, nofun⟩).2
  | cons count stops ih =>
    show Rests _ _ ((now.run (now.recoverIfNeeded.take count)).recovered stops)
    rw [ops underWay]
    rcases (underWay.restore .recovered ⟨nofun, nofun⟩).1 count with still | done
    · exact ih still
    · rwa [done.recovered]

/-- The preparations leave the targets and the manifest alone, and write the preimages and the
staged files. -/
lemma prepared (count : Nat) : (disk.run (puts ((preparations disk files).take count))).manifest =
    disk.manifest ∧
    (∀ path, (disk.run (puts ((preparations disk files).take count))).files (.target path) =
      disk.files (.target path)) ∧
    (∀ path ∈ files.keys, (disk.run (puts (preparations disk files))).files (.preimage path) =
      some ((disk.files (.target path)).getD [])) ∧
    ∀ entry ∈ files.entries, entry.2.isSome →
      (disk.run (puts (preparations disk files))).files (.staged entry.1) = entry.2 := by
  have each : ∀ pair ∈ preparations disk files, ∃ path,
      pair = (.preimage path, some ((disk.files (.target path)).getD [])) ∨
      ∃ content, files.get? path = some (some content) ∧ pair = (.staged path, some content) := by
    intro pair member
    obtain ⟨entry, _, listed⟩ := mem_flatMap.mp member
    rcases mem_cons.mp listed with rfl | staged
    · exact ⟨entry.1, .inl rfl⟩
    · obtain ⟨content, given, rfl⟩ := mem_map.mp staged
      exact ⟨entry.1, .inr ⟨_, get?_eq_some_iff.mpr (Option.mem_toList.mp given ▸ ‹_›), rfl⟩⟩
  refine ⟨(run_puts _).1, fun path => (run_puts _).2 (fun pair member same => ?_) (.inr rfl),
    fun path known => (run_puts _).2 (fun pair member same => ?_) (.inl ?_),
    fun entry listed given => (run_puts _).2 (fun pair member same => ?_) (.inl ?_)⟩
  · obtain ⟨other, rfl | ⟨_, _, rfl⟩⟩ := each pair (mem_of_mem_take member) <;> cases same
  · obtain ⟨other, rfl | ⟨_, _, rfl⟩⟩ := each pair member <;> cases same
    rfl
  · obtain ⟨entry, member, rfl⟩ := mem_map.mp known
    exact mem_map.mpr ⟨_, mem_flatMap.mpr ⟨entry, member, mem_cons_self⟩, rfl⟩
  · obtain ⟨other, rfl | ⟨_, found, rfl⟩⟩ := each pair member <;> cases same
    exact Option.some.inj (found.symm.trans (get?_eq_some_iff.mpr listed))
  · obtain ⟨content, new⟩ := Option.isSome_iff_exists.mp given
    refine mem_map.mpr ⟨(_, some content), mem_flatMap.mpr ⟨entry, listed, ?_⟩, rfl⟩
    simp [new]

/-- The targets are given their new contents. -/
lemma placements_eq : placements disk files = files.entries.map fun entry =>
    (.target entry.1, entry.2) := by
  rw [placements, manifestTargets, map_map]
  refine map_congr_left fun entry member => ?_
  cases new : entry.2 with
  | none => simp [new]
  | some content =>
    have staged := (@prepared disk files 0).2.2.2 entry member (by simp [new])
    simpa [new, beforeTry, MailDisk.run, FileOp.apply] using staged

/-- The manifest is written once the preimages tell how the targets were. -/
lemma beforeTry_underWay (count : Nat) :
    UnderWay disk files (disk.run
      (beforeTry disk files ++ puts ((placements disk files).take count))) := by
  rw [MailDisk.run_append]
  refine UnderWay.puts ?_ fun pair member => ?_
  · rw [beforeTry, MailDisk.run_append]
    exact ⟨.inr rfl, (prepared 0).2.2.1⟩
  · obtain ⟨entry, _, rfl⟩ := mem_map.mp (mem_of_mem_take member)
    exact ⟨_, rfl⟩

/-- A commit that is stopped before the manifest is marked leaves the targets as they were, or the
transaction under way. -/
lemma commit_stopped (settled : disk.Settled) {count : Nat}
    (early : count < (commitOps disk files).length) :
    UnderWay disk files (disk.run ((commitOps disk files).take count)) ∨
      Rests files (disk.files ∘ .target) (disk.run ((commitOps disk files).take count)) := by
  simp only [commitOps, beforeTry, append_assoc, cons_append, nil_append, length_append,
    length_cons, length_nil] at early ⊢
  rcases Nat.lt_or_ge (puts (preparations disk files)).length count with more | few
  · obtain ⟨count, rfl⟩ := Nat.exists_eq_add_of_lt more
    rw [Nat.add_assoc, take_length_add_append, take_succ_cons, MailDisk.run_append]
    left
    cases count with
    | zero => exact ⟨.inl rfl, (prepared 0).2.2.1⟩
    | succ count =>
      rw [take_succ_cons, take_append_of_le_length (by omega), take_puts]
      have underWay := @beforeTry_underWay disk files count
      rwa [beforeTry, append_assoc, MailDisk.run_append] at underWay
  · rw [take_append_of_le_length few, take_puts]
    obtain ⟨manifest, targets, _⟩ := @prepared disk files count
    exact .inr ⟨fun found member => settled found (manifest ▸ member), fun path _ => targets path⟩

/-- Whatever interrupts a commit and its recoveries, the last recovery leaves all targets new if the
manifest was marked as committed, as it is when the commit returns, and all targets old if not. -/
theorem mail_transaction_atomic (disk : MailDisk) (files : Dict Str (Option (List UInt8)))
    (fate : CommitEnd) (stops : List Nat) (settled : disk.Settled) :
    let now := (disk.commit files fate).recovered stops
    (fate.Marked disk files → ∀ entry ∈ files.entries, now.files (.target entry.1) = entry.2) ∧
      (¬ fate.Marked disk files →
        ∀ entry ∈ files.entries, now.files (.target entry.1) = disk.files (.target entry.1)) := by
  -- Before the mark the recovery restores the targets, if there is anything to restore.
  have old : ∀ {now}, UnderWay disk files now ∨ Rests files (disk.files ∘ .target) now →
      ∀ entry ∈ files.entries, (now.recovered stops).files (.target entry.1) =
        disk.files (.target entry.1) := by
    intro now either entry member
    rcases either with underWay | rests
    · exact (underWay.recovered stops).targets entry.1 (mem_map_of_mem member)
    · rw [rests.recovered]
      exact rests.targets entry.1 (mem_map_of_mem member)
  have new : ∀ entry ∈ files.entries,
      ((disk.run (commitOps disk files)).recovered stops).files (.target entry.1) = entry.2 := by
    have rests : Rests files (fun path => (files.get? path).getD none)
        (disk.run (commitOps disk files)) := by
      rw [commitOps, placements_eq, MailDisk.run_append, MailDisk.run_append]
      refine ⟨fun manifest found => ?_, fun path known =>
        run_puts _ |>.2 (fun pair member same => ?_) (.inl ?_)⟩
      · cases found
        simp
      · obtain ⟨entry, placed, rfl⟩ := mem_map.mp member
        cases same
        simp [get?_eq_some_iff.mpr placed]
      · obtain ⟨entry, member, rfl⟩ := mem_map.mp known
        exact mem_map.mpr ⟨_, mem_map_of_mem member, rfl⟩
    intro entry member
    rw [rests.recovered, rests.targets entry.1 (mem_map_of_mem member), get?_eq_some_iff.mpr member]
    rfl
  cases fate with
  | returned => exact ⟨fun _ => new, fun unmarked => absurd trivial unmarked⟩
  | stopped count =>
    refine ⟨fun marked => ?_, fun unmarked => old (commit_stopped settled (not_le.mp unmarked))⟩
    rwa [MailDisk.commit, take_of_length_le marked]
  | failed count rollback =>
    exact ⟨False.elim, fun _ =>
      old (((beforeTry_underWay count).restore .rolledBack (by simp)).1 rollback)⟩

theorem mail_transaction_atomic_stopped :
    ∃ (disk : MailDisk) (files : Dict Str (Option (List UInt8))),
    disk.Settled ∧ disk.files (.target "accounts") = some [1] ∧
      files.get? "accounts" = some (some [2]) ∧ ∀ entry ∈ files.entries,
        ((disk.commit files (.stopped 7)).recovered [1]).files (.target entry.1) =
          disk.files (.target entry.1) := by
  let disk : MailDisk := ⟨fun file => if file = .target "accounts" then some [1] else none, none⟩
  let files : Dict Str (Option (List UInt8)) :=
    (Dict.empty.set (text "metadata") (some [3])).set (text "accounts") (some [2])
  refine ⟨disk, files, nofun, by decide, by decide, ?_⟩
  exact (mail_transaction_atomic disk files (.stopped 7) [1] nofun).2
    (show ¬ (commitOps disk files).length ≤ 7 by decide)

end Ananta
