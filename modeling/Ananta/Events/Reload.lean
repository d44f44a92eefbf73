import Ananta.Events.EventLaws
import Ananta.Events.Sqlite

/-! Reading an event back from its JSON text sorts its payload and changes nothing else. -/

namespace Ananta

namespace Value

lemma sortFields_map {α β : Type} (fields : List (Str × α)) (rewrite : Str × α → Str × β)
    (keeps : ∀ field, (rewrite field).1 = field.1) :
    sortFields (fields.map rewrite) = (sortFields fields).map rewrite := by
  refine (List.map_insertionSort _ _ _ _ ?_).symm
  intro left _ right _
  rw [keeps, keeps]

lemma sortFields_sortFields {α : Type} (fields : List (Str × α)) :
    sortFields (sortFields fields) = sortFields fields := by
  exact List.Pairwise.insertionSort_eq (List.pairwise_insertionSort _ fields)

lemma reloadedFields_eq_map (fields : Fields) :
    reloadedFields fields = fields.map fun field => (field.1, field.2.reloaded) := by
  induction fields with
  | nil => rfl
  | cons field rest ih => simp only [reloadedFields, ih, List.map_cons]

lemma reloadedFields_sortFields (fields : Fields) :
    reloadedFields (sortFields fields) = sortFields (reloadedFields fields) := by
  rw [reloadedFields_eq_map, reloadedFields_eq_map, sortFields_map]
  exact fun _ => rfl

mutual

lemma reloaded_reloaded : ∀ value : Value, value.reloaded.reloaded = value.reloaded
  | .dict fields => by
    simp only [reloaded, reloadedFields_sortFields, reloadedFields_reloadedFields fields,
      sortFields_sortFields]
  | .list items => by simp only [reloaded, reloadedItems_reloadedItems items]
  | .tuple items => by simp only [reloaded, reloadedItems_reloadedItems items]
  | .none | .bool _ | .int _ | .float _ | .str _ | .object _ => by simp only [reloaded]

lemma reloadedItems_reloadedItems : ∀ items : List Value, reloadedItems (reloadedItems items) =
    reloadedItems items
  | [] => rfl
  | item :: rest => by
    simp only [reloadedItems, reloaded_reloaded item, reloadedItems_reloadedItems rest]

lemma reloadedFields_reloadedFields : ∀ fields : Fields,
    reloadedFields (reloadedFields fields) = reloadedFields fields
  | [] => rfl
  | (key, value) :: rest => by
    simp only [reloadedFields, reloaded_reloaded value, reloadedFields_reloadedFields rest]

end

end Value

open Value

lemma redactFields_eq_map (fields : Fields) : redactFields fields = fields.map fun field =>
      (field.1, if isSensitive field.1 then redacted else redactJson field.2) := by
  induction fields with
  | nil => rfl
  | cons field rest ih => simp only [redactFields, ih, List.map_cons]

lemma redactFields_sortFields (fields : Fields) :
    redactFields (sortFields fields) = sortFields (redactFields fields) := by
  rw [redactFields_eq_map, redactFields_eq_map, sortFields_map]
  exact fun _ => rfl

mutual

lemma redactJson_reloaded : ∀ value : Value, redactJson value.reloaded = (redactJson value).reloaded
  | .dict fields => by
    simp only [reloaded, redactJson, redactFields_sortFields, redactFields_reloadedFields fields]
  | .list items | .tuple items => by
    simp only [reloaded, redactJson, redactItems_reloadedItems items]
  | .none | .bool _ | .int _ | .float _ | .str _ | .object _ => by simp only [reloaded, redactJson]

lemma redactItems_reloadedItems : ∀ items : List Value,
    redactItems (reloadedItems items) = reloadedItems (redactItems items)
  | [] => rfl
  | item :: rest => by
    simp only [reloadedItems, redactItems, redactJson_reloaded item, redactItems_reloadedItems rest]

lemma redactFields_reloadedFields : ∀ fields : Fields,
    redactFields (reloadedFields fields) = reloadedFields (redactFields fields)
  | [] => rfl
  | (key, value) :: rest => by
    simp only [reloadedFields, redactFields, redactFields_reloadedFields rest]
    -- The replacement of a sensitive value is a text, which is read back as it is.
    split
    · rfl
    · rw [redactJson_reloaded value]

end

namespace CanonicalWorkflowEvent

variable {event : CanonicalWorkflowEvent}

@[simp] lemma reloaded_reloaded (event : CanonicalWorkflowEvent) :
    event.reloaded.reloaded = event.reloaded := by
  simp only [reloaded, reloadedFields_sortFields, reloadedFields_reloadedFields,
    sortFields_sortFields]

/-- A canonical event is still canonical after it was read back. -/
lemma Canonical.reloaded (canonical : event.Canonical) : event.reloaded.Canonical := by
  refine ⟨{ canonical with }, ?_⟩
  -- Only the payload differs, and it is redacted already.
  have payload : redactFields event.payload = event.payload :=
    congrArg CanonicalWorkflowEvent.payload canonical.unchanged
  have kept : redactFields event.reloaded.payload = event.reloaded.payload := by
    show redactFields (sortFields (reloadedFields event.payload)) =
      sortFields (reloadedFields event.payload)
    rw [redactFields_sortFields, redactFields_reloadedFields, payload]
  have same : event.reloaded.parsed =
    { event.parsed with payload := redactFields event.reloaded.payload } := rfl
  rw [same, canonical.unchanged, kept]
  rfl

lemma Canonical.fromMapping (canonical : event.Canonical) :
    event.reloaded.fromMapping = .ok event.reloaded :=
  canonical.reloaded.clone

end CanonicalWorkflowEvent

end Ananta
