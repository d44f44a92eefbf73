import Ananta.Events.Reload
import Ananta.Security.Checkpoint

/-! Copies of structured values that stores make, and what such a copy leaves of a checkpoint. -/

namespace Ananta

open List

namespace Value

lemma dumpsFields_eq_map (fields : Fields) :
    dumpsFields fields = fields.map fun field => (field.1, field.2.dumps) := by
  induction fields with
  | nil => rfl
  | cons field rest ih => simp only [dumpsFields, ih, map_cons]

lemma dumpsFields_sortFields (fields : Fields) :
    dumpsFields (sortFields fields) = sortFields (dumpsFields fields) := by
  rw [dumpsFields_eq_map, dumpsFields_eq_map, sortFields_map]
  exact fun _ => rfl

mutual

lemma dumps_reloaded : ∀ value : Value, value.reloaded.dumps = value.dumps
  | .dict fields => by
    simp only [reloaded, dumps, dumpsFields_sortFields, dumpsFields_reloadedFields fields,
      objectText, sortFields_sortFields]
  | .list items | .tuple items => by simp only [reloaded, dumps, dumpsItems_reloadedItems items]
  | .none | .bool _ | .int _ | .float _ | .str _ | .object _ => by simp only [reloaded]

lemma dumpsItems_reloadedItems : ∀ items : List Value, dumpsItems (reloadedItems items) =
    dumpsItems items
  | [] => rfl
  | item :: rest => by
    simp only [reloadedItems, dumpsItems, dumps_reloaded item, dumpsItems_reloadedItems rest]

lemma dumpsFields_reloadedFields : ∀ fields : Fields,
    dumpsFields (reloadedFields fields) = dumpsFields fields
  | [] => rfl
  | (key, value) :: rest => by
    simp only [reloadedFields, dumpsFields, dumps_reloaded value, dumpsFields_reloadedFields rest]

end

end Value

open Value

/-- A way to copy structured values that keeps what JSON can tell about them. -/
structure JsonCopy where
  value : Value → Value
  fields : Fields → Fields
  str : ∀ content, value (.str content) = .str content
  int : ∀ number, value (.int number) = .int number
  float : ∀ number, value (.float number) = .float number
  texts : ∀ contents : List Str, value (.list (contents.map .str)) = .list (contents.map .str)
  dict : ∀ entries, value (.dict entries) = .dict (fields entries)
  member : ∀ {entries key content}, (key, content) ∈ entries → (key, value content) ∈ fields entries
  distinct : ∀ {entries}, (entries.map Prod.fst).Nodup → ((fields entries).map Prod.fst).Nodup
  redact : ∀ entries, redactFields (fields entries) = fields (redactFields entries)
  dumps : ∀ entries, (Value.dict (fields entries)).dumps = (Value.dict entries).dumps

def JsonCopy.exact : JsonCopy where
  value := id
  fields := id
  str _ := rfl
  int _ := rfl
  float _ := rfl
  texts _ := rfl
  dict _ := rfl
  member := id
  distinct := id
  redact _ := rfl
  dumps _ := rfl

lemma reloadedItems_texts (contents : List Str) :
    reloadedItems (contents.map .str) = contents.map .str := by
  induction contents with
  | nil => rfl
  | cons content rest ih => simp only [map_cons, reloadedItems, reloaded, ih]

def JsonCopy.reloaded : JsonCopy where
  value := Value.reloaded
  fields entries := sortFields (reloadedFields entries)
  str _ := by rw [Value.reloaded]
  int _ := by rw [Value.reloaded]
  float _ := by rw [Value.reloaded]
  texts contents := by rw [Value.reloaded, reloadedItems_texts]
  dict _ := by rw [Value.reloaded]
  member {entries key content} listed := by
    rw [sortFields, mem_insertionSort, reloadedFields_eq_map]
    exact mem_map_of_mem listed
  distinct {entries} once := by
    have keys : (reloadedFields entries).map Prod.fst = entries.map Prod.fst := by
      rw [reloadedFields_eq_map, map_map]
      rfl
    rwa [sortFields, ((perm_insertionSort _ _).map _).nodup_iff, keys]
  redact entries := by rw [redactFields_sortFields, redactFields_reloadedFields]
  dumps entries := by
    have same := dumps_reloaded (.dict entries)
    rwa [Value.reloaded] at same

inductive CheckpointBackend where
  | memory
  | sqlite
  | sqlalchemy
  deriving DecidableEq

/-- How a store copies the mapping of a checkpoint: a JSON text with sorted keys, or a value. -/
def CheckpointBackend.copy : CheckpointBackend → JsonCopy
  | .sqlite => .reloaded
  | .memory | .sqlalchemy => .exact

lemma mem_cleanTuple {values : List Str} {value : Str} :
    value ∈ cleanTuple values ↔ value ≠ [] ∧ ∃ raw ∈ values, strip raw = value := by
  simp only [cleanTuple, mem_insertionSort, mem_dedup, mem_filter, mem_map, decide_eq_true_eq]
  tauto

/-- Cleaning cleaned references changes nothing. -/
@[simp] lemma cleanTuple_cleanTuple (values : List Str) :
    cleanTuple (cleanTuple values) = cleanTuple values := by
  have trimmed : (cleanTuple values).map strip = cleanTuple values := by
    refine (map_congr_left fun value member => ?_).trans (map_id _)
    obtain ⟨_, raw, _, rfl⟩ := mem_cleanTuple.mp member
    exact strip_strip raw
  have given : (cleanTuple values).filter (· ≠ []) = cleanTuple values :=
    filter_eq_self.mpr fun value member => decide_eq_true (mem_cleanTuple.mp member).1
  have distinct : (cleanTuple values).Nodup := by
    rw [cleanTuple, (perm_insertionSort _ _).nodup_iff]
    exact nodup_dedup _
  rw [cleanTuple.eq_def (cleanTuple values), trimmed, given, distinct.dedup]
  exact Pairwise.insertionSort_eq (pairwise_insertionSort _ _)

/-- Dropping blanks from the front keeps what has none. -/
lemma infix_dropWhile {part value : Str} (solid : ∀ point ∈ part, isSpace point = false)
    (inside : part <:+: value) : part <:+: value.dropWhile isSpace := by
  induction value with
  | nil => exact inside
  | cons point rest ih =>
    rw [dropWhile_cons]
    split
    · rename_i blank
      rcases infix_cons_iff.mp inside with front | later
      · cases part with
        | nil => exact nil_infix
        | cons first others =>
          -- The part would begin with a blank.
          simp_all
      · exact ih later
    · exact inside

lemma infix_strip {part value : Str} (solid : ∀ point ∈ part, isSpace point = false)
    (inside : part <:+: value) : part <:+: strip value := by
  refine infix_dropWhile solid ?_
  rw [rdropWhile, ← reverse_infix, reverse_reverse]
  refine infix_dropWhile (fun point member => solid point (mem_reverse.mp member)) ?_
  exact reverse_infix.mpr inside

end Ananta
