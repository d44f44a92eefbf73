import Ananta.Library.Dict
import Ananta.Library.Machine
import Ananta.Python.Text

/-! The store of the originals of compressed contexts, and the tool that hands them back. -/

namespace Ananta

open List

/-- `CCREntry`, as far as it is read again. -/
structure CcrEntry where
  (ref contentType : Str)
  expiresAt : ℚ

/-- The index of a store, and the contents of its data files. -/
structure CcrStore where
  index : Dict Str CcrEntry := .empty
  contents : Dict Str Str := .empty

/-- `CCRStore.retrieve`. -/
def CcrStore.retrieve (store : CcrStore) (ref : Str) (now : ℚ) : Option Str :=
  (store.index.get? ref).bind fun entry => if entry.expiresAt < now then none
    else store.contents.get? ref

/-- `CCRStore.expire_old`. -/
def CcrStore.expireOld (store : CcrStore) (now : ℚ) : CcrStore where
  index := store.index.filter fun _ entry => now ≤ entry.expiresAt
  contents := store.contents.filter fun ref _ => (store.index.get? ref).all fun entry =>
    now ≤ entry.expiresAt

/-- `CCRRetrievalResult`, as far as it tells what was found. -/
structure CcrRetrievalResult where
  found : Bool
  content : Option Str
  contentType : Str
  decision : Str
  deriving DecidableEq

/-- `getattr(value, name, default)` on a text, which has none of the attributes that are asked
for. -/
def textAttribute (_value : Str) (_name : String) (default : Str) : Str := default

/-- `CCRRetrievalTool.retrieve`. -/
def ccrRetrieve (tool : Option CcrStore) (ref : Str) (allowedContentTypes : List Str) (now : ℚ) :
    CcrRetrievalResult :=
  match tool with
  | none => ⟨false, none, [], "store_disabled"⟩
  | some store => match store.retrieve ref now with
    | none => ⟨false, none, [], "not_found"⟩
    | some entry =>
      let contentType := textAttribute entry "content_type" []
      if allowedContentTypes ≠ [] ∧ contentType ∉ allowedContentTypes then
        ⟨false, none, contentType, "type_not_allowed"⟩
      else ⟨true, some (textAttribute entry "content" []), contentType, "found"⟩

/-- A call on a store or on its adapter, whose gates accept a compression or not. -/
inductive CcrCall where
  | compress (accepted : Bool) (content contentType : Str)
  | store (content contentType : Str)
  | expireOld

/-- What a call has to store. -/
def CcrCall.original : CcrCall → Option (Str × Str)
  | .compress accepted content contentType => if accepted then some (content, contentType) else none
  | .store content contentType => some (content, contentType)
  | .expireOld => none

structure CcrConfig where
  ttlSeconds : ℚ
  maxBytes : Nat
  sha256 : List UInt8 → Str

namespace CcrConfig

variable (config : CcrConfig)

/-- What a call writes, unless there is nothing to store or `CCRStore.store` raises. -/
def written (input : ℚ × CcrCall) : Option (CcrEntry × Str) := do
  let (content, contentType) ← input.2.original
  let rawBytes ← encodeUtf8 content
  if config.maxBytes < rawBytes.length then none
  else some (⟨(config.sha256 rawBytes).take 24, contentType, input.1 + config.ttlSeconds⟩, content)

/-- The store, where every call comes with the reading of the clock and is answered by a reference
that is not empty. -/
def ccrMachine : Machine CcrStore (ℚ × CcrCall) (Option Str) where
  initial := {}
  step before input := match config.written input with
    | some (entry, content) =>
      (some entry.ref, ⟨before.index.set entry.ref entry, before.contents.set entry.ref content⟩)
    | none => (none, if input.2 matches .expireOld then before.expireOld input.1 else before)

/-- What a run has written last under a reference. -/
def latest (ref : Str) (inputs : List (ℚ × CcrCall)) : Option (CcrEntry × Str) :=
  ((inputs.filterMap config.written).filter (·.1.ref = ref)).getLast?

variable {config} {before : CcrStore} {input : ℚ × CcrCall} {inputs : List (ℚ × CcrCall)}
  {ref : Str}

lemma latest_append : config.latest ref (inputs ++ [input]) =
    ((config.written input).filter (·.1.ref = ref)).or (config.latest ref inputs) := by
  rw [latest, filterMap_append, filter_append, getLast?_append]
  congr 1
  cases wrote : config.written input with
  | none => simp [wrote]
  | some pair => by_cases same : pair.1.ref = ref <;> simp [wrote, same, Option.filter_some]

/-- What a run has written last under a reference is in the store until it expires. -/
def Retains (config : CcrConfig) (inputs : List (ℚ × CcrCall)) (store : CcrStore) : Prop :=
  ∀ {ref entry content time}, config.latest ref inputs = some (entry, content) →
    (∀ input ∈ inputs, input.1 ≤ time) →
    time ≤ entry.expiresAt → store.index.get? ref = some entry ∧
      store.contents.get? ref = some content

lemma retains_step (kept : config.Retains inputs before) :
    config.Retains (inputs ++ [input]) (config.ccrMachine.step before input).2 := by
  intro ref entry content time last later unexpired
  obtain ⟨earlier, now⟩ := forall_mem_append.mp later
  rw [latest_append] at last
  unfold ccrMachine
  dsimp only
  split
  · rename_i other value wrote
    rw [wrote, Option.filter_some] at last
    rw [get?_set, get?_set]
    by_cases same : ref = other.ref
    · simp_all
    · rw [if_neg same, if_neg same]
      exact kept (by simpa [Ne.symm same] using last) earlier unexpired
  · rename_i none
    rw [none] at last
    obtain ⟨indexed, filed⟩ := kept last earlier unexpired
    have live : input.1 ≤ entry.expiresAt := (now input (mem_singleton_self _)).trans unexpired
    split
    · simp [CcrStore.expireOld, get?_filter, indexed, filed, live]
    · exact ⟨indexed, filed⟩

end CcrConfig

/-- What was stored last under a reference is handed back exactly if it is an empty text of the
empty type, and refused for its type exactly if the empty type would be refused as well. -/
theorem compressed_context_recoverable_iff (config : CcrConfig) (inputs : List (ℚ × CcrCall))
    (ref content : Str) (entry : CcrEntry) (last : config.latest ref inputs = some (entry, content))
    (time : ℚ) (later : ∀ input ∈ inputs, input.1 ≤ time) (unexpired : time ≤ entry.expiresAt)
    (allowed : List Str) :
    let result := ccrRetrieve (some (config.ccrMachine.after {} inputs)) ref allowed time
    ((allowed = [] ∨ entry.contentType ∈ allowed →
      result = ⟨true, some content, entry.contentType, "found"⟩) ∧
        (allowed ≠ [] → entry.contentType ∉ allowed → result.found = false)) ↔
      (allowed = [] ∨ entry.contentType ∈ allowed → content = [] ∧ entry.contentType = []) ∧
        (allowed ≠ [] → entry.contentType ∉ allowed → [] ∉ allowed) := by
  intro result
  have kept : config.Retains inputs (config.ccrMachine.after {} inputs) :=
    Machine.after_of_history config.Retains nofun (fun _ _ => CcrConfig.retains_step) inputs
  obtain ⟨indexed, filed⟩ := kept last later unexpired
  simp only [result, ccrRetrieve, CcrStore.retrieve, indexed, filed, Option.bind_some,
    if_neg (not_lt.mpr unexpired)]
  split <;> grind [textAttribute]

def plainCcrConfig : CcrConfig where
  ttlSeconds := 259200
  maxBytes := 5242880
  sha256 bytes := bytes.map fun byte => Fin.ofNat 0x110000 byte.toNat

/-- A list of types without the empty one refuses every content. -/
theorem compressed_context_recoverable_refused :
    ((ccrRetrieve (some (plainCcrConfig.ccrMachine.after {} [(0, .compress true "a" "log")])) "a"
      ["code"] 1).found = false) :=
  ((compressed_context_recoverable_iff plainCcrConfig [(0, .compress true "a" "log")] "a" "a"
    ⟨"a", "log", 0 + 259200⟩ rfl 1 (by simp) (by norm_num) ["code"]).mpr (by decide)).2 (by decide)
      (by decide)

/-- The tool finds the reference of a content, and hands back an empty text of the empty type. -/
theorem compressed_context_lost :
    plainCcrConfig.ccrMachine.answers {} [(0, .compress true "a" "log")] = [some (text "a")] ∧
      ccrRetrieve (some (plainCcrConfig.ccrMachine.after {} [(0, .compress true "a" "log")])) "a" []
        1 = ⟨true, some [], [], "found"⟩ := by
  decide +kernel

end Ananta
