import Ananta.Index.Heads
import Ananta.Library.Machine

/-! Garbage collection beside publishing: live layers stay as long as no collection overlaps with a
run that publishes. -/

namespace Ananta

open List

/-- What a coordinator run does with the layers that it has built. -/
inductive PublishMode where
  | apply (append : Bool)
  | compact

/-- An `apply` or `compact` run that has read the head: the layers that it has yet to store, and
those to be published. -/
structure Publisher where
  profileId : Str
  mode : PublishMode
  expectedGeneration : Option Nat
  unstored : List (Str × Str)
  published : LayerSet

/-- A `collect` run: the profiles that it has yet to read, what it has marked, and what it is about
to delete. -/
structure Collector where
  unread : List Str
  reachable : List Str
  doomed : Option (List Str)

/-- The heads by the names of their files, the stored layers, and the runs under way. -/
structure IndexState where
  heads : Dict Str LayerHead := Dict.empty
  layers : List Str := []
  publishers : List Publisher := []
  collectors : List Collector := []

/-- A step of a run, which names the bodies of the layers that it has built, or the end of one that
raises. -/
inductive IndexStep where
  | begin (profileId : Str) (mode : PublishMode) (layers : List (Str × Str))
  | storeLayer (index : Nat)
  | publish (index : Nat) (locked : Bool)
  | abandon (index : Nat)
  | listProfiles
  | readHead (index : Nat)
  | listLayers (index : Nat)
  | deleteLayer (index : Nat)
  | breakOff (index : Nat)

section

variable (headDigest : Str → Str)

/-- The file of the head of a profile. -/
def headFile (profileId : Str) : Str := headDigest (orElse profileId "default")

/-- The file that older versions kept the head of a profile in. -/
def legacyFile (profileId : Str) : Str :=
  (orElse profileId "default").map fun point => if point = codePoint '/'
    then codePoint '_' else point

/-- `LayerHeadRegistry.get_head` -/
def getHead (heads : Dict Str LayerHead) (profileId : Str) : Option LayerHead :=
  (heads.get? (headFile headDigest profileId)).or (heads.get? (legacyFile profileId))

end

/-- `LayerHeadRegistry.list_profiles` -/
def listProfiles (heads : Dict Str LayerHead) : List Str :=
  (((heads.values.map fun head => strip head.profileId).filter (· ≠ [])).dedup).insertionSort (· ≤
    ·)

/-- What `collect` marks of one head: its layers, and those of its latest updates. -/
def LayerHead.marks (head : LayerHead) : List Str :=
  (head.layerIds ++ head.history.flatMap fun item => item.1 :: item.2.values).filter (· ≠ [])

/-- The head that a run ends in: `create_head` where it has read none, and `update_head` by its
generation otherwise. -/
def Publisher.write (run : Publisher) (current : Option LayerHead) : Option LayerHead :=
  let last := run.published.values.getLastD []
  match run.expectedGeneration, current with
  | none, none => (createdHead run.profileId last run.published).toOption
  | some expected, some current =>
    if current.generation ≠ expected then none
    else match run.mode with
      | .apply append =>
        some (current.updated last run.published append (if append then [] else run.published.keys))
      | .compact =>
        some (current.updated (run.published.values.headD [])
          run.published false run.published.keys)
  | _, _ => none

/-- The coordinator and the collector as a machine that interleaves the steps of their runs. -/
def layerIndex (headDigest digest : Str → Str) : Machine IndexState IndexStep Unit where
  initial := {}
  step state input := ((), match input with
    | .begin profileId mode layers =>
      let expectedGeneration := (getHead headDigest state.heads profileId).map (·.generation)
      { state with publishers := state.publishers ++
        [⟨profileId, mode, expectedGeneration, layers, Dict.empty⟩] }
    | .storeLayer index =>
      match state.publishers[index]? with
      | some { profileId, mode, expectedGeneration, unstored := (kind, body) :: unstored,
               published } =>
        -- A layer that is stored already is left as it is.
        { state with
          layers := state.layers.insert (digest body)
          publishers := state.publishers.set index
            ⟨profileId, mode, expectedGeneration, unstored, published.set kind (digest body)⟩ }
      | _ => state
    | .publish index locked =>
      match state.publishers[index]? with
      | some run =>
        if run.unstored ≠ [] ∨ run.published.entries = [] then state
        else
          -- Nothing is written while another run holds the lock of the profile.
          let written := if locked then none
            else run.write (getHead headDigest state.heads run.profileId)
          { state with
            heads := (written.map (state.heads.set (headFile headDigest run.profileId))).getD
              state.heads
            publishers := state.publishers.eraseIdx index }
      | none => state
    | .abandon index => { state with publishers := state.publishers.eraseIdx index }
    | .listProfiles => { state with collectors := state.collectors ++
        [⟨listProfiles state.heads, [], none⟩] }
    | .readHead index =>
      match state.collectors[index]? with
      | some { unread := profile :: unread, reachable, doomed := none } =>
        let marks := ((getHead headDigest state.heads profile).map LayerHead.marks).getD []
        { state with collectors := state.collectors.set index ⟨unread, reachable ++ marks, none⟩ }
      | _ => state
    | .listLayers index =>
      match state.collectors[index]? with
      | some { unread := [], reachable, doomed := none } =>
        let doomed := (state.layers.insertionSort (· ≤ ·)).filter (· ∉ reachable)
        { state with collectors := state.collectors.set index ⟨[], reachable, some doomed⟩ }
      | _ => state
    | .deleteLayer index =>
      match state.collectors[index]? with
      | some { unread, reachable, doomed := some (id :: doomed) } =>
        { state with
          layers := state.layers.filter (· ≠ id)
          collectors := state.collectors.set index ⟨unread, reachable, some doomed⟩ }
      | some { doomed := some [], .. } =>
          { state with collectors := state.collectors.eraseIdx index }
      | _ => state
    | .breakOff index => { state with collectors := state.collectors.eraseIdx index })

def ProperProfile (profileId : Str) : Prop := strip profileId = profileId ∧ profileId ≠ []

/-- No run publishes beside a collection, profiles are properly named, and a run that finds a head
finds that of its own profile. -/
def Apart (headDigest : Str → Str) (state : IndexState) : IndexStep → Prop
  | .begin profileId _ _ => state.collectors = [] ∧ ProperProfile profileId ∧
      ∀ head ∈ getHead headDigest state.heads profileId, head.profileId = profileId
  | .listProfiles => state.publishers = []
  | _ => True

variable {headDigest digest : Str → Str} {state : IndexState} {head : LayerHead} {run : Publisher}

/-- A collector has yet to read the head of a profile, or has marked a layer and is not about to
delete it. -/
def Collector.Spares (run : Collector) (profileId id : Str) : Prop :=
  profileId ∈ run.unread ∧ run.doomed = none ∨ id ∈ run.reachable ∧
    ∀ doomed ∈ run.doomed, id ∉ doomed

/-- A head in the file of its profile, whose layers are all stored. -/
structure LayerHead.Stored (headDigest : Str → Str) (head : LayerHead) (file : Str)
    (layers : List Str) : Prop where
  filed : file = headFile headDigest head.profileId
  proper : ProperProfile head.profileId
  named : ∀ id ∈ head.layerIds, id ≠ [] ∧ id ∈ layers

/-- A run whose layers are stored so far, and that was begun on the head of its profile if on
any. -/
structure Publisher.Backed (headDigest : Str → Str) (run : Publisher) (heads : Dict Str LayerHead)
    (layers : List Str) : Prop where
  proper : ProperProfile run.profileId
  based : run.expectedGeneration ≠ none →
    ∃ head, heads.get? (headFile headDigest run.profileId) = some head ∧
      head.profileId = run.profileId
  held : ∀ id ∈ run.published.values, id ≠ [] ∧ id ∈ layers

/-- What holds between steps: heads and runs have their layers, and no collector is about to delete
one that is named. -/
structure IndexState.Live (headDigest : Str → Str) (state : IndexState) : Prop where
  heads : ∀ file head, state.heads.get? file = some head → head.Stored headDigest file state.layers
  runs : ∀ run ∈ state.publishers, run.Backed headDigest state.heads state.layers
  apart : state.publishers = [] ∨ state.collectors = []
  spared : ∀ run ∈ state.collectors, ∀ file head, state.heads.get? file = some head →
    ∀ id ∈ head.layerIds, run.Spares head.profileId id

/-- What a run writes belongs to its profile, and names what the run and the old head name. -/
lemma write_spec {current : Option LayerHead} (nonempty : run.published.entries ≠ [])
    (based : run.expectedGeneration ≠ none → ∀ old ∈ current, old.profileId = run.profileId)
    (written : run.write current = some head) :
    head.profileId = run.profileId ∧ (∀ old ∈ current, old.profileId = run.profileId) ∧
      ∀ id ∈ head.layerIds, id ∈ run.published.values ∨ ∃ old ∈ current, id ∈ old.layerIds := by
  unfold Publisher.write at written
  split at written
  · -- A first head names the published layers.
    simp only [createdHead, resolvedSet, if_neg nonempty] at written
    split at written <;> cases written
    exact ⟨rfl, by simp, fun id named => .inl (by simpa [LayerHead.layerIds] using named)⟩
  · -- Another head names what it named before as well.
    rename_i begun
    have own := based (by simp [begun])
    have same := own _ rfl
    split at written
    · cases written
    · split at written <;> cases written <;> refine ⟨same, own, fun id named => ?_⟩ <;>
        exact (mem_layerIds_updated nonempty named).symm.imp_right fun old => ⟨_, rfl, old⟩
  · cases written

/-- The file of a profile goes before its legacy name. -/
lemma getHead_of_file {profileId : Str}
    (stored : state.heads.get? (headFile headDigest profileId) = some head) :
    getHead headDigest state.heads profileId = some head := by
  rw [getHead, stored, Option.some_or]

/-- A head that is found lies in the file of the profile that it names. -/
lemma IndexState.Live.found (live : state.Live headDigest) {profileId : Str}
    (found : getHead headDigest state.heads profileId = some head) :
    state.heads.get? (headFile headDigest head.profileId) = some head := by
  rw [getHead, Option.or_eq_some_iff] at found
  rcases found with here | ⟨_, legacy⟩
  · rwa [← (live.heads _ head here).filed]
  · rwa [← (live.heads _ head legacy).filed]

/-- A run publishes. -/
lemma IndexState.Live.published {index : Nat} (live : state.Live headDigest)
    (listed : run ∈ state.publishers) (nonempty : run.published.entries ≠ [])
    (written : run.write (getHead headDigest state.heads run.profileId) = some head) :
    IndexState.Live headDigest { state with
      heads := state.heads.set (headFile headDigest run.profileId) head
      publishers := state.publishers.eraseIdx index } := by
  have backed := live.runs run listed
  have quiet := live.apart.resolve_left (ne_nil_of_mem listed)
  have based (begun : run.expectedGeneration ≠ none) :
      ∀ old ∈ getHead headDigest state.heads run.profileId, old.profileId = run.profileId := by
    obtain ⟨own, stored, same⟩ := backed.based begun
    rw [getHead_of_file stored]
    rintro _ ⟨⟩
    exact same
  obtain ⟨own, before, origin⟩ := write_spec nonempty based written
  refine ⟨fun file other found => ?_, fun other member => ?_, .inr quiet, by simp [quiet]⟩
  · rw [get?_set] at found
    split at found
    · rename_i same
      cases found
      refine ⟨by rw [same, own], own ▸ backed.proper, fun id named => ?_⟩
      rcases origin id named with new | ⟨old, known, kept⟩
      · exact backed.held id new
      · exact (live.heads _ old (live.found known)).named id kept
    · exact live.heads file other found
  · -- The runs on the same file were begun on a head of the same profile.
    have still := live.runs other (mem_of_mem_eraseIdx member)
    refine { still with based := fun begun => ?_ }
    obtain ⟨base, stored, same⟩ := still.based begun
    by_cases shared : headFile headDigest other.profileId = headFile headDigest run.profileId
    · rw [shared] at stored ⊢
      exact ⟨head, get?_set_self _ _ _,
        own.trans ((before base (getHead_of_file stored)).symm.trans same)⟩
    · exact ⟨base, by rwa [get?_set_ne _ shared], same⟩

/-- A collector goes on, and spares what it spared. -/
lemma IndexState.Live.collecting {layers : List Str} {index : Nat} {before after : Collector}
    (live : state.Live headDigest) (found : state.collectors[index]? = some before)
    (kept : ∀ file head, state.heads.get? file = some head → ∀ id ∈ head.layerIds,
      before.Spares head.profileId id → after.Spares head.profileId id ∧ id ∈ layers) :
    IndexState.Live headDigest
    { state with layers, collectors := state.collectors.set index after } := by
  have member := mem_of_getElem? found
  have quiet := live.apart.resolve_right (ne_nil_of_mem member)
  have goes : ∀ file head, state.heads.get? file = some head → ∀ id ∈ head.layerIds, _ :=
    fun file head stored id named =>
      kept file head stored id named (live.spared _ member file head stored id named)
  refine ⟨fun key head stored => ?_, by simp [quiet], .inl quiet,
    fun run listed key head stored id named => ?_⟩
  · have old := live.heads key head stored
    exact { old with named := fun id named =>
      ⟨(old.named id named).1, (goes key head stored id named).2⟩ }
  · rcases mem_or_eq_of_mem_set listed with old | rfl
    · exact live.spared run old key head stored id named
    · exact (goes key head stored id named).1

/-- A publishing run ends. -/
lemma IndexState.Live.abandoned (live : state.Live headDigest) (index : Nat) :
    IndexState.Live headDigest { state with publishers := state.publishers.eraseIdx index } :=
  { live with
    runs := fun other member => live.runs other (mem_of_mem_eraseIdx member)
    apart := live.apart.imp_left fun none => by rw [none, eraseIdx_nil] }

/-- A collection ends. -/
lemma IndexState.Live.brokenOff (live : state.Live headDigest) (index : Nat) :
    IndexState.Live headDigest { state with collectors := state.collectors.eraseIdx index } :=
  { live with
    apart := live.apart.imp_right fun none => by rw [none, eraseIdx_nil]
    spared := fun run listed => live.spared run (mem_of_mem_eraseIdx listed) }

/-- One step that keeps runs apart keeps everything alive. -/
lemma IndexState.Live.step (filled : ∀ body, digest body ≠ []) {input : IndexStep}
    (live : state.Live headDigest) (apart : Apart headDigest state input) :
    ((layerIndex headDigest digest).step state input).2.Live headDigest := by
  cases input with
  | begin profileId mode layers =>
    refine ⟨live.heads, fun run listed => ?_, .inr apart.1, live.spared⟩
    rcases mem_append.mp listed with old | new
    · exact live.runs run old
    · rw [mem_singleton.mp new]
      refine ⟨apart.2.1, fun begun => ?_, by simp [Dict.values, Dict.empty]⟩
      cases found : getHead headDigest state.heads profileId with
      | none => simp [found] at begun
      | some head =>
        have own := apart.2.2 head found
        have stored := live.found found
        rw [own] at stored
        exact ⟨head, stored, own⟩
  | storeLayer index =>
    dsimp only [layerIndex]
    split
    · rename_i kind body unstored published found
      have member := mem_of_getElem? found
      -- No layer goes away, and the one in hand is there afterwards.
      have more : ∀ id, id ≠ [] ∧ id ∈ state.layers → id ≠ [] ∧
        id ∈ state.layers.insert (digest body) :=
        fun id held => ⟨held.1, mem_insert_of_mem held.2⟩
      refine ⟨fun key head stored => ?_, fun run listed => ?_,
        .inr (live.apart.resolve_left (ne_nil_of_mem member)), live.spared⟩
      · have old := live.heads key head stored
        exact { old with named := fun id named => more id (old.named id named) }
      · rcases mem_or_eq_of_mem_set listed with old | rfl
        · have backed := live.runs run old
          exact { backed with held := fun id named => more id (backed.held id named) }
        · have backed := live.runs _ member
          refine ⟨backed.proper, backed.based, fun id named => ?_⟩
          obtain ⟨other, stored⟩ := mem_values.mp named
          rw [get?_set] at stored
          split at stored
          · cases stored
            exact ⟨filled body, mem_insert_self ..⟩
          · exact more id (backed.held id (mem_values.mpr ⟨other, stored⟩))
    · exact live
  | publish index locked =>
    dsimp only [layerIndex]
    split
    · rename_i run found
      split
      · exact live
      · rename_i ready
        cases locked with
        | true => exact live.abandoned index
        | false =>
          cases written : run.write (getHead headDigest state.heads run.profileId) with
          | none => exact live.abandoned index
          | some head => exact live.published (mem_of_getElem? found) (not_or.mp ready).2 written
    · exact live
  | abandon index => exact live.abandoned index
  | listProfiles =>
    refine ⟨live.heads, live.runs, .inl apart, fun run listed key head stored id named => ?_⟩
    rcases mem_append.mp listed with old | new
    · exact live.spared run old key head stored id named
    · -- Every head is listed under the name of its profile.
      obtain ⟨rfl, ⟨trimmed, nonempty⟩, _⟩ := live.heads key head stored
      rw [mem_singleton.mp new]
      refine .inl ⟨?_, rfl⟩
      simp only [listProfiles, mem_insertionSort, mem_dedup, mem_filter, mem_map, decide_eq_true_eq]
      exact ⟨⟨head, mem_values.mpr ⟨_, stored⟩, trimmed⟩, nonempty⟩
  | readHead index =>
    dsimp only [layerIndex]
    split
    · rename_i profile unread reachable found
      refine live.collecting found fun key head stored id named spares => ?_
      obtain ⟨rfl, proper, held⟩ := live.heads key head stored
      refine ⟨?_, (held id named).2⟩
      rcases spares with ⟨waiting, _⟩ | ⟨marked, _⟩
      · rcases mem_cons.mp waiting with same | later
        · -- The head that is read is the one that names the layer.
          rw [← same, getHead_of_file stored]
          refine .inr ⟨mem_append_right _ (mem_filter.mpr ⟨mem_append_left _ named, ?_⟩), by simp⟩
          simpa using (held id named).1
        · exact .inl ⟨later, rfl⟩
      · exact .inr ⟨mem_append_left _ marked, by simp⟩
    · exact live
  | listLayers index =>
    dsimp only [layerIndex]
    split
    · rename_i reachable found
      refine live.collecting found fun file head stored id named spares =>
        ⟨.inr ?_, ((live.heads file head stored).named id named).2⟩
      have marked := (spares.resolve_left fun waiting => not_mem_nil waiting.1).1
      exact ⟨marked, fun doomed same => by simp [← Option.some.inj same, marked]⟩
    · exact live
  | deleteLayer index =>
    dsimp only [layerIndex]
    split
    · rename_i unread reachable victim doomed found
      refine live.collecting found fun key head stored id named spares => ?_
      obtain ⟨marked, safe⟩ := spares.resolve_left fun waiting => by cases waiting.2
      obtain ⟨differs, rest⟩ := not_or.mp (mt mem_cons.mpr (safe _ rfl))
      refine ⟨.inr ⟨marked, fun doomed same => Option.some.inj same ▸ rest⟩, ?_⟩
      exact mem_filter.mpr ⟨((live.heads key head stored).named id named).2, by simpa using differs⟩
    · exact live.brokenOff index
    · exact live
  | breakOff index => exact live.brokenOff index

/-- As long as no run publishes beside a collection, every layer that a head names is stored. -/
theorem live_layers_stored (headDigest digest : Str → Str) (filled : ∀ body, digest body ≠ [])
    (steps : List IndexStep)
    (apart : (layerIndex headDigest digest).Throughout (Apart headDigest)
      (layerIndex headDigest digest).initial steps) (file : Str) (head : LayerHead)
    (stored : ((layerIndex headDigest digest).after (layerIndex headDigest digest).initial
      steps).heads.get? file = some head) :
    ∀ id ∈ head.layerIds,
      id ∈ ((layerIndex headDigest digest).after (layerIndex headDigest digest).initial
        steps).layers := by
  have initially : IndexState.Live headDigest {} := by constructor <;> simp
  have live := (layerIndex headDigest digest).after_of_throughout _ (IndexState.Live headDigest)
    (fun _ _ live apart => live.step filled apart) steps _ initially apart
  exact fun id named => ((live.heads file head stored).named id named).2

def sampleDigest (body : Str) : Str := codePoint '=' :: body

def sampleIndex : Machine IndexState IndexStep Unit := layerIndex sampleDigest sampleDigest

/-- The layer of a profile stays when the index is collected, also after a run that was
abandoned. -/
theorem live_layers_stored_main :
    text "=one" ∈ (sampleIndex.after sampleIndex.initial
      [.begin "main" (.apply false) [("graph", "one")], .storeLayer 0, .publish 0 false,
        .begin "main" .compact [("graph", "two")], .storeLayer 0, .abandon 0, .listProfiles,
        .readHead 0, .listLayers 0, .deleteLayer 0]).layers := by
  refine live_layers_stored sampleDigest sampleDigest nofun _ ?_ (text "=main") ⟨text "main",
    ⟨[(text "graph", text "=one")], by decide⟩, [], 1,
      [(text "=one", ⟨[(text "graph", text "=one")], by decide⟩)]⟩
    (by decide +kernel) _ (by decide +kernel)
  exact ⟨⟨rfl, ⟨by decide, by decide⟩, by decide⟩, trivial, trivial,
    ⟨rfl, ⟨by decide, by decide⟩, by decide⟩, trivial,
    trivial, rfl, trivial, trivial, trivial, trivial⟩

/-- A collection that reads the heads before a layer is published, and lists the layers after it was
stored, deletes it. -/
theorem published_layer_collected :
    let state := sampleIndex.after sampleIndex.initial
      [.begin "main" (.apply false) [("graph", "one")], .listProfiles, .storeLayer 0, .listLayers 0,
        .deleteLayer 0, .publish 0 false]
    (state.heads.get? (text "=main")).map LayerHead.layerIds = some [text "=one"] ∧
      state.layers = [] := by
  decide +kernel

end Ananta
