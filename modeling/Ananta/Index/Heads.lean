import Ananta.Library.Dict
import Ananta.Python.Text

/-! The heads of the layered index, which name the layers of every artifact kind of a profile. -/

namespace Ananta

open List

abbrev LayerSet := Dict Str Str

/-- A head: a base layer for each kind, the deltas on top of them, and the latest updates. -/
structure LayerHead where
  profileId : Str
  baseLayerSet : LayerSet
  orderedDeltaSets : List LayerSet
  generation : Nat
  history : List (Str × LayerSet)
  deriving DecidableEq

def LayerHead.layerIds (head : LayerHead) : List Str :=
  head.baseLayerSet.values ++ head.orderedDeltaSets.flatMap Dict.values

/-- `dict(layer_set or {"default": layer_id})` -/
def resolvedSet (layerId : Str) (layerSet : LayerSet) : LayerSet :=
  if layerSet.entries = [] then Dict.empty.set "default" layerId else layerSet

/-- The layer that a head is known by: `layer_id or next(iter(resolved_set.values()), "")`. -/
def primaryLayer (layerId : Str) (resolved : LayerSet) : Str :=
  orElse layerId (resolved.values.headD [])

/-- The head that `create_head` writes for a profile that has none. -/
def createdHead (profileId layerId : Str) (layerSet : LayerSet) : Except String LayerHead :=
  let resolved := resolvedSet layerId layerSet
  if ∃ entry ∈ resolved.entries, entry.1 = [] ∨ entry.2 = [] then .error "layer_set_invalid"
  else .ok ⟨profileId, resolved, [], 1, [(primaryLayer layerId resolved, resolved)]⟩

/-- `dict.update` -/
def LayerSet.update (base later : LayerSet) : LayerSet :=
  later.entries.foldl (fun base entry => base.set entry.1 entry.2) base

/-- The head that `update_head` writes in place of another. -/
def LayerHead.updated (head : LayerHead) (newLayerId : Str) (newLayerSet : LayerSet)
    (appendDelta : Bool) (replaceArtifactKinds : List Str) : LayerHead :=
  let resolved := resolvedSet newLayerId newLayerSet
  let replace := if replaceArtifactKinds = [] then resolved.keys else replaceArtifactKinds
  let retained := (head.orderedDeltaSets.map (·.filter fun kind _ => kind ∉ replace)).filter
    (·.entries ≠ [])
  let history := head.history ++ [(primaryLayer newLayerId resolved, resolved)]
  { head with
    baseLayerSet := if appendDelta then head.baseLayerSet else head.baseLayerSet.update resolved
    orderedDeltaSets := if appendDelta then head.orderedDeltaSets ++ [resolved] else retained
    generation := head.generation + 1
    history := history.drop (history.length - 50) }

lemma LayerSet.get?_update (base later : LayerSet) (kind : Str) :
    (base.update later).get? kind = (later.get? kind).or (base.get? kind) := by
  -- Later pairs are written one by one, and each key is written once.
  have written : ∀ (entries : List (Str × Str)) (base : LayerSet), (entries.map Prod.fst).Nodup →
      (entries.foldl (fun base entry => base.set entry.1 entry.2) base).get? kind =
        (Dict.find kind entries).or (base.get? kind) := by
    intro entries
    induction entries with
    | nil => simp [Dict.find]
    | cons entry rest ih =>
      intro base distinct
      rw [map_cons, nodup_cons] at distinct
      rw [foldl_cons, ih _ distinct.2, Dict.find, get?_set]
      by_cases same : entry.1 = kind
      · have absent : Dict.find kind rest = none := by
          rw [Option.eq_none_iff_forall_ne_some]
          intro value found
          rw [Dict.find_eq_some_iff distinct.2] at found
          exact distinct.1 (same ▸ mem_map.mpr ⟨_, found, rfl⟩)
        simp [same, absent]
      · simp [same, Ne.symm same]
  exact written later.entries base later.distinct

/-- An update names no layers but those that the head named and those of the new set. -/
lemma mem_layerIds_updated {head : LayerHead} {newLayerId : Str} {newLayerSet : LayerSet}
    {appendDelta : Bool} {replace : List Str} {id : Str} (filled : newLayerSet.entries ≠ [])
    (named : id ∈ (head.updated newLayerId newLayerSet appendDelta replace).layerIds) :
    id ∈ head.layerIds ∨ id ∈ newLayerSet.values := by
  have resolved : resolvedSet newLayerId newLayerSet = newLayerSet := if_neg filled
  simp only [LayerHead.layerIds, LayerHead.updated, resolved, mem_append, mem_flatMap] at named ⊢
  cases appendDelta with
  | true =>
    simp only [if_true, mem_append, mem_singleton] at named
    rcases named with base | ⟨delta, old | rfl, listed⟩
    · exact .inl (.inl base)
    · exact .inl (.inr ⟨delta, old, listed⟩)
    · exact .inr listed
  | false =>
    rw [if_neg Bool.false_ne_true, if_neg Bool.false_ne_true] at named
    rcases named with base | ⟨delta, retained, listed⟩
    · obtain ⟨kind, found⟩ := mem_values.mp base
      rw [LayerSet.get?_update, Option.or_eq_some_iff] at found
      rcases found with new | ⟨_, old⟩
      · exact .inr (mem_values.mpr ⟨kind, new⟩)
      · exact .inl (.inl (mem_values.mpr ⟨kind, old⟩))
    · simp only [mem_filter, mem_map] at retained
      obtain ⟨⟨whole, old, rfl⟩, _⟩ := retained
      obtain ⟨entry, kept, rfl⟩ := mem_map.mp listed
      exact .inl (.inr ⟨whole, old, mem_map.mpr ⟨entry, (mem_filter.mp kept).1, rfl⟩⟩)

end Ananta
