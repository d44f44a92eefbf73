import Ananta.Library.Call
import Ananta.Library.Dict
import Ananta.Library.Machine
import Ananta.Python.Text

/-! Egress windows are billed once, if a node that restarts enters a new boot and goes on behind its
last window. -/

namespace Ananta

open List

/-- `SfuEgressAccountingWindow`, without the signature. -/
structure EgressWindow where
  (tenantId roomId publicationId nodeId bootId : Str)
  (sequence windowStartedAtMs windowEndedAtMs routeEpoch topologyEpoch fencingToken : Int)
  (actualEgressBytes estimatedEgressBytes routedEgressBytes : Option Int)
  deliveredLayerBytes : List (Str × Int)
  (sharedProcessingBytesSaved receiverCount : Int)
  deriving DecidableEq

/-- `SfuEgressAccountingRecord`, without the amounts and notes, which are not read again. -/
structure EgressRecord where
  windowDigest : Str
  window : EgressWindow

/-- The answers of `ingest`, and the exception on a text that cannot be encoded. -/
inductive EgressResult where
  | accepted (record : EgressRecord)
  | duplicate (record : EgressRecord)
  | rejected (reasonCode : String) (retryable : Bool := false)
  | raised

/-- A call of `ingest`: the size of the signature, whether it is correct, and the clock. -/
structure IngestCall where
  window : EgressWindow
  signatureFields : Nat
  verified : Bool
  nowMs : Int

/-- `_handle`. -/
def egressHandle (value : Str) : Except EgressResult Unit :=
  match encodeUtf8 value with
  | none => .error .raised
  | some bytes => raiseIf (¬ (1 ≤ bytes.length ∧ bytes.length ≤ 128) ∨
      value.any fun point => point.val ≤ 0x20 ∨ point.val = 0x7F)
        (.rejected "sfu_accounting_scope_invalid")

/-- `_validate`. -/
def IngestCall.validate (call : IngestCall) : Except EgressResult Unit := do
  let window := call.window
  [window.tenantId, window.roomId, window.publicationId, window.nodeId, window.bootId].forM
    egressHandle
  raiseIf ((∃ value ∈ [window.sequence, window.windowStartedAtMs, window.windowEndedAtMs,
    window.routeEpoch,
      window.topologyEpoch, window.fencingToken, window.sharedProcessingBytesSaved,
        window.receiverCount], value < 0) ∨
    window.sequence < 1 ∨ window.routeEpoch < 1 ∨ window.topologyEpoch < 1 ∨
      window.fencingToken < 1)
    (.rejected "sfu_accounting_bounds_invalid")
  let duration := window.windowEndedAtMs - window.windowStartedAtMs
  raiseIf (¬ (100 ≤ duration ∧ duration ≤ 60000) ∨ call.nowMs + 5000 < window.windowEndedAtMs)
    (.rejected "sfu_accounting_window_invalid")
  raiseIf (∃ bytes ∈ [window.actualEgressBytes, window.estimatedEgressBytes,
    window.routedEgressBytes].reduceOption,
    ¬ (0 ≤ bytes ∧ bytes ≤ 9007199254740991)) (.rejected "sfu_accounting_bytes_invalid")
  raiseIf (4 < window.deliveredLayerBytes.length ∨ ∃ layer ∈ window.deliveredLayerBytes,
    layer.1 ∉ ["spatial_0", "spatial_1", "spatial_2", "spatial_3"].map text ∨ layer.2 < 0)
    (.rejected "sfu_accounting_layer_breakdown_invalid")
  raiseIf (3 < call.signatureFields) (.rejected "sfu_accounting_signature_invalid")

/-- The digest of the service and the bounds of the in-memory repository. -/
structure EgressService where
  digest : EgressWindow → Str
  (windowsMax nodesMax windowsPerNodeMax : Nat)
  valid : (1 ≤ windowsMax ∧ windowsMax ≤ 65536) ∧ (1 ≤ nodesMax ∧ nodesMax ≤ 4096) ∧
    1 ≤ windowsPerNodeMax ∧ windowsPerNodeMax ≤ 1024

/-- The repository, and the windows that were accepted so far. -/
structure EgressState where
  records : Dict (Str × Str × Int × Int × Int) EgressRecord
  latest : Dict Str EgressRecord
  accepted : List EgressWindow

/-- The latest window of a node refuses the next one, unless it goes on in the same boot or begins
another one. -/
def EgressWindow.follows (window : EgressWindow) : Option EgressRecord → Except EgressResult Unit
  | none => pure ()
  | some ⟨_, predecessor⟩ =>
    if predecessor.bootId = window.bootId then do
      raiseIf (window.sequence ≤ predecessor.sequence)
        (.rejected "sfu_accounting_counter_regression")
      raiseIf (window.windowStartedAtMs < predecessor.windowEndedAtMs)
        (.rejected "sfu_accounting_window_overlap")
    else raiseIf (window.sequence ≠ 1) (.rejected "sfu_accounting_restart_sequence_invalid")

def EgressWindow.key (window : EgressWindow) : Str × Str × Int × Int × Int :=
  (window.nodeId, window.bootId, window.sequence, window.windowStartedAtMs, window.windowEndedAtMs)

variable (service : EgressService) (state : EgressState)

/-- `save`: the oldest windows of the node and of all nodes make room, but the latest of each node
is kept. -/
def EgressService.save (record : EgressRecord) : Option EgressState :=
  let nodeId := record.window.nodeId
  if state.latest.get? nodeId = none ∧ service.nodesMax ≤ state.latest.entries.length then none
  else
    let records := (state.records.erase record.window.key).set record.window.key record
    let nodeKeys := (records.entries.filter (·.2.window.nodeId = nodeId)).map Prod.fst
    let stale := nodeKeys.take (nodeKeys.length - service.windowsPerNodeMax)
    some { records := (records.filter fun key _ => key ∉ stale).newest service.windowsMax
           latest := (state.latest.erase nodeId).set nodeId record
           accepted := state.accepted ++ [record.window] }

/-- `ingest`, up to the answer for a window that is saved. -/
def EgressService.ingest (call : IngestCall) :
    Except EgressResult (EgressRecord × EgressState) := do
  call.validate
  raiseIf (call.verified = false) (.rejected "sfu_accounting_signature_invalid")
  let record : EgressRecord := ⟨service.digest call.window, call.window⟩
  match state.records.get? call.window.key with
  | some existing => .error (if existing.windowDigest ≠ record.windowDigest
      then .rejected "sfu_accounting_window_conflict"
      else .duplicate existing)
  | none => do
    call.window.follows (state.latest.get? call.window.nodeId)
    match service.save state record with
    | some saved => pure (record, saved)
    | none => .error (.rejected "sfu_accounting_cardinality_exceeded" true)

def egressAccounting : Machine EgressState IngestCall EgressResult where
  initial := ⟨.empty, .empty, []⟩
  step state call := match service.ingest state call with
    | .ok (record, saved) => (.accepted record, saved)
    | .error result => (result, state)

/-- A first window under another boot than the latest one of its node, unless a copy of it is
stored, is of a boot that is new to the node, and starts when that window has ended. -/
def Restarts (call : IngestCall) : Prop :=
  state.records.get? call.window.key = none → call.window.sequence = 1 →
  ∀ previous ∈ state.latest.get? call.window.nodeId, previous.window.bootId ≠ call.window.bootId →
    previous.window.windowEndedAtMs ≤ call.window.windowStartedAtMs ∧
    ∀ earlier ∈ state.accepted, earlier.nodeId = call.window.nodeId →
      earlier.bootId ≠ call.window.bootId
  deriving Decidable

/-- A window of a node is billed before another one. -/
def EgressWindow.Precedes (earlier later : EgressWindow) : Prop :=
  earlier.nodeId = later.nodeId → earlier.windowEndedAtMs ≤ later.windowStartedAtMs ∧
    (earlier.bootId = later.bootId → earlier.sequence < later.sequence)

/-- The latest window of a node is the last one of it that was accepted. -/
structure EgressState.Billed : Prop where
  ordered : state.accepted.Pairwise EgressWindow.Precedes
  long : ∀ window ∈ state.accepted, window.windowStartedAtMs < window.windowEndedAtMs
  latest : ∀ window ∈ state.accepted, ∃ record ∈ state.latest.get? window.nodeId,
    window.windowEndedAtMs ≤ record.window.windowEndedAtMs ∧
    (window.bootId = record.window.bootId → window.sequence ≤ record.window.sequence)

variable {service state} {saved : EgressState} {call : IngestCall} {record : EgressRecord}

/-- What is known of a window that is accepted. -/
lemma EgressService.ingest_spec (ingested : service.ingest state call = .ok (record, saved)) :
    call.window.windowStartedAtMs < call.window.windowEndedAtMs ∧
      (∀ previous ∈ state.latest.get? call.window.nodeId,
        previous.window.bootId = call.window.bootId →
        previous.window.sequence < call.window.sequence ∧
          previous.window.windowEndedAtMs ≤ call.window.windowStartedAtMs) ∧
      (∀ previous ∈ state.latest.get? call.window.nodeId,
        previous.window.bootId ≠ call.window.bootId →
        state.records.get? call.window.key = none ∧ call.window.sequence = 1) ∧
      record.window = call.window ∧ saved.accepted = state.accepted ++ [call.window] ∧
      saved.latest = (state.latest.erase call.window.nodeId).set call.window.nodeId record := by
  simp only [EgressService.ingest, ok_iff] at ingested
  obtain ⟨_, valid, _, _, rest⟩ := ingested
  split at rest
  · cases rest
  · rename_i absent
    obtain ⟨_, followed, rest⟩ := bind_eq_ok.mp rest
    split at rest
    · rename_i stored
      cases rest
      refine ⟨?_, fun previous found same => ?_, fun previous found other => ⟨absent, ?_⟩, rfl, ?_⟩
      · simp only [IngestCall.validate, ok_iff] at valid
        omega
      · rw [Option.mem_def.mp found] at followed
        simp only [EgressWindow.follows, if_pos same, ok_iff] at followed
        omega
      · rw [Option.mem_def.mp found] at followed
        simpa only [EgressWindow.follows, if_neg other, ok_iff, not_not] using followed
      · unfold EgressService.save at stored
        dsimp only at stored
        split at stored
        · cases stored
        · cases stored
          exact ⟨rfl, rfl⟩
    · cases rest

/-- An accepted window comes behind all windows of its node. -/
lemma EgressState.Billed.step (billed : state.Billed) (restarts : Restarts state call) :
    ((egressAccounting service).step state call).2.Billed := by
  simp only [egressAccounting]
  split
  · rename_i record saved ingested
    obtain ⟨long, follows, restarted, window, accepted, latest⟩ :=
      EgressService.ingest_spec ingested
    have behind : ∀ earlier ∈ state.accepted, earlier.Precedes call.window := by
      intro earlier member same
      obtain ⟨previous, found, ended, counted⟩ := billed.latest earlier member
      rw [same] at found
      -- Within a boot the counters order the windows, across boots the clock.
      by_cases boot : previous.window.bootId = call.window.bootId
      · have next := follows previous found boot
        refine ⟨ended.trans next.2, fun equal => lt_of_le_of_lt (counted (equal.trans boot.symm))
          next.1⟩
      · obtain ⟨absent, first⟩ := restarted previous found boot
        obtain ⟨later, new⟩ := restarts absent first previous found boot
        exact ⟨ended.trans later, fun equal => absurd equal (new earlier member same)⟩
    refine ⟨?_, ?_, ?_⟩ <;> rw [accepted]
    · exact pairwise_append.mpr
        ⟨billed.ordered, pairwise_singleton _ _, fun earlier member later single => by
        rw [mem_singleton.mp single]
        exact behind earlier member⟩
    · exact forall_mem_append.mpr ⟨billed.long, forall_mem_singleton.mpr long⟩
    · refine forall_mem_append.mpr ⟨fun earlier member => ?_, forall_mem_singleton.mpr ⟨record, ?_⟩⟩
      · rw [latest, get?_set]
        split
        · rename_i same
          have order := behind earlier member same
          exact ⟨record, rfl, by rw [window]; omega,
            fun boot => by rw [window] at boot ⊢; exact (order.2 boot).le⟩
        · rename_i other
          rw [get?_erase, if_neg other]
          exact billed.latest earlier member
      · rw [latest, window]
        exact ⟨get?_set_self _ _ _, le_rfl, fun _ => le_rfl⟩
  · exact billed

/-- No window is accepted twice, and those of a node follow each other in time and, within a boot,
in number. -/
theorem egress_billed_once (service : EgressService) (calls : List IngestCall)
    (restarts : (egressAccounting service).Throughout Restarts
      (egressAccounting service).initial calls) :
    let accepted := ((egressAccounting service).after (egressAccounting service).initial
      calls).accepted
    accepted.Nodup ∧ accepted.Pairwise EgressWindow.Precedes := by
  have billed := (egressAccounting service).after_of_throughout Restarts EgressState.Billed
    (fun _ _ billed restarts => billed.step restarts)
      calls _ ⟨.nil, by simp [egressAccounting], by simp [egressAccounting]⟩
    restarts
  refine ⟨?_, billed.ordered⟩
  refine billed.ordered.imp_of_mem fun {earlier later} member _ precedes same => ?_
  have long := billed.long earlier member
  have apart := (precedes (congrArg EgressWindow.nodeId same)).1
  rw [← same] at apart
  omega

/-- A call with a window of a boot of one node. -/
def sampleIngest (bootId : String) (windowStartedAtMs : Int) : IngestCall where
  window := ⟨"t", "r", "p", "n", text bootId, 1, windowStartedAtMs, windowStartedAtMs + 100, 1, 1,
    1, none, none, none, [], 0, 0⟩
  signatureFields := 3
  verified := true
  nowMs := 0

/-- A repository that keeps one window of one node. -/
def sampleEgress : EgressService := ⟨fun window => window.bootId, 1, 1, 1, by decide⟩

/-- A restarted node goes on. -/
theorem egress_billed_once_restarted :
    ∃ accepted, ((egressAccounting sampleEgress).after (egressAccounting sampleEgress).initial
      [sampleIngest "a" 0, sampleIngest "b" 100]).accepted = accepted ∧ accepted.length = 2 ∧
        accepted.Nodup := by
  refine ⟨_, rfl, by decide +kernel,
    (egress_billed_once sampleEgress [sampleIngest "a" 0, sampleIngest "b" 100] ?_).1⟩
  exact ⟨by simp [Restarts, egressAccounting], by decide +kernel, trivial⟩

/-- A window is billed again when its node has been in another boot, whose window covers the same
time. -/
theorem egress_billed_twice :
    ((egressAccounting sampleEgress).after (egressAccounting sampleEgress).initial
    [sampleIngest "a" 0, sampleIngest "b" 0, sampleIngest "a" 0]).accepted =
      [(sampleIngest "a" 0).window, (sampleIngest "b" 0).window, (sampleIngest "a" 0).window] := by
  decide +kernel

end Ananta
