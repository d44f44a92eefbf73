import Ananta.Library.Dict
import Ananta.Library.Machine

/-! Values that callers read, change and put back, where a swap goes by the version of the value
that was read. -/

namespace Ananta

open List

/-- How calls read and change the values under their keys. -/
structure Protocol (κ ν ι ε : Type) where
  version : ν → Int
  key : ι → κ
  -- The value that a call goes by, if it goes by one, and the value that it wants to store.
  plan : ι → Option ν → Except ε (Option ν × ν)
  settle : ι → ν → Except ε ν
  conflict : ι → Option ν → ν → Except ε ν

namespace Protocol

variable {κ ν ι ε : Type} [DecidableEq κ] (protocol : Protocol κ ν ι ε)

/-- A call that has read, and has not swapped yet. -/
structure Draft (ν ι : Type) where
  call : ι
  read : Option ν
  value : ν

/-- The stored values, and the calls under way. -/
structure Shared (κ ν ι : Type) [DecidableEq κ] where
  values : Dict κ ν := Dict.empty
  drafts : List (Draft ν ι) := []

/-- A call reads, or one of the calls under way swaps. -/
inductive Access (ι : Type) where
  | start (call : ι)
  | finish (index : Nat)

/-- The version under which a value is to be replaced is that of the stored one. -/
def Swaps (values : Dict κ ν) (draft : Draft ν ι) : Prop :=
  (values.get? (protocol.key draft.call)).map protocol.version = draft.read.map protocol.version
  deriving Decidable

/-- The calls as a machine that interleaves their reads and their swaps. -/
def machine : Machine (Shared κ ν ι) (Access ι) (Except ε (Option ν)) where
  initial := {}
  step state input :=
    match input with
    | .start call =>
      match protocol.plan call (state.values.get? (protocol.key call)) with
      | .error reason => (.error reason, state)
      | .ok (read, value) =>
          (.ok none, { state with drafts := state.drafts ++ [⟨call, read, value⟩] })
    | .finish index =>
      match state.drafts[index]? with
      | none => (.ok none, state)
      | some draft =>
        let drafts := state.drafts.eraseIdx index
        let key := protocol.key draft.call
        if protocol.Swaps state.values draft then
          ((protocol.settle draft.call draft.value).map some,
            ⟨state.values.set key draft.value, drafts⟩)
        else ((protocol.conflict draft.call (state.values.get? key) draft.value).map some,
          ⟨state.values, drafts⟩)

/-- A call goes by the value that it reads or by none, and replaces a value by one of a higher
version. -/
structure Lawful (condition : ι → Prop) (next : ι → Option ν → ν → Prop) : Prop where
  plan : ∀ {call current read value}, condition call →
    protocol.plan call current = .ok (read, value) →
    (read = none ∨ read = current) ∧ next call read value
  grows : ∀ {call old value}, next call (some old) value →
    protocol.version old < protocol.version value

/-- The call of an input meets a condition. -/
def Access.Meets (condition : ι → Prop) : Access ι → Prop
  | .start call => condition call
  | .finish _ => True

/-- What calls under way know: the value that they read is stored still, or one of a higher version
is. -/
structure Shared.Sound (next : ι → Option ν → ν → Prop) (state : Shared κ ν ι) : Prop where
  planned : ∀ draft ∈ state.drafts, next draft.call draft.read draft.value
  known : ∀ draft ∈ state.drafts, ∀ old ∈ draft.read, ∃ now,
    state.values.get? (protocol.key draft.call) = some now ∧
    (now = old ∨ protocol.version old < protocol.version now)

variable {protocol} {condition : ι → Prop} {next : ι → Option ν → ν → Prop} {state : Shared κ ν ι}
  {input : Access ι}

/-- A swap that goes through replaces the value that was read. -/
lemma Shared.Sound.read_eq (sound : state.Sound protocol next) {draft : Draft ν ι}
    (listed : draft ∈ state.drafts) (swaps : protocol.Swaps state.values draft) :
    draft.read = state.values.get? (protocol.key draft.call) := by
  unfold Protocol.Swaps at swaps
  cases read : draft.read with
  | none =>
    rw [read] at swaps
    exact (Option.map_eq_none_iff.mp swaps).symm
  | some old =>
    obtain ⟨now, stored, same | grown⟩ := sound.known draft listed old read
    · rw [stored, same]
    · rw [read, stored] at swaps
      exact absurd (Option.some.inj swaps) grown.ne'

/-- What an input can do to the values: nothing, or what the call planned from the value stored. -/
lemma Shared.Sound.step_cases (sound : state.Sound protocol next) (input : Access ι) :
    (protocol.machine.step state input).2.values = state.values ∨
      ∃ draft ∈ state.drafts, draft.read = state.values.get? (protocol.key draft.call) ∧
        next draft.call (state.values.get? (protocol.key draft.call)) draft.value ∧
        (protocol.machine.step state input).2.values = state.values.set (protocol.key draft.call)
          draft.value := by
  unfold machine
  dsimp only
  split
  · split
    · exact .inl rfl
    · exact .inl rfl
  · split
    · exact .inl rfl
    · rename_i draft found
      have listed := mem_of_getElem? found
      split
      · rename_i swaps
        have same := sound.read_eq listed swaps
        exact .inr ⟨draft, listed, same, same ▸ sound.planned draft listed, rfl⟩
      · exact .inl rfl

/-- Every input keeps what calls under way know. -/
lemma Shared.Sound.step (lawful : protocol.Lawful condition next)
    (sound : state.Sound protocol next) (meets : input.Meets condition) :
    (protocol.machine.step state input).2.Sound protocol next := by
  unfold machine
  dsimp only
  split
  · split
    · exact sound
    · rename_i read value planned
      obtain ⟨source, follows⟩ := lawful.plan meets planned
      refine ⟨fun draft listed => ?_, fun draft listed old reads => ?_⟩
      · rcases mem_append.mp listed with earlier | new
        · exact sound.planned draft earlier
        · rwa [mem_singleton.mp new]
      · rcases mem_append.mp listed with earlier | new
        · exact sound.known draft earlier old reads
        · rw [mem_singleton.mp new] at reads ⊢
          rcases source with none | same
          · rw [none] at reads
            exact nomatch reads
          · exact ⟨old, same.symm.trans reads, .inl rfl⟩
  · split
    · exact sound
    · rename_i index _ draft found
      have listed := mem_of_getElem? found
      split
      · rename_i swaps
        refine ⟨fun other left => sound.planned other (mem_of_mem_eraseIdx left),
          fun other left old reads => ?_⟩
        obtain ⟨now, stored, since⟩ := sound.known other (mem_of_mem_eraseIdx left) old reads
        rw [get?_set]
        split
        · rename_i same
          -- The value that is replaced is the one that the other call knows, or a later one.
          refine ⟨draft.value, rfl, .inr ?_⟩
          have replaced := sound.planned draft listed
          rw [sound.read_eq listed swaps, ← same, stored] at replaced
          have grown := lawful.grows replaced
          rcases since with rfl | earlier
          · exact grown
          · exact earlier.trans grown
        · exact ⟨now, stored, since⟩
      · exact ⟨fun other left => sound.planned other (mem_of_mem_eraseIdx left),
          fun other left => sound.known other (mem_of_mem_eraseIdx left)⟩

/-- At first no call is under way. -/
lemma sound_initial : (protocol.machine.initial).Sound protocol next := ⟨nofun, nofun⟩

@[simp] lemma initial_get? (key : κ) : (protocol.machine.initial).values.get? key = none := rfl

end Protocol

end Ananta
