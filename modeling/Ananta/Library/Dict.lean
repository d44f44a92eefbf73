import Mathlib

/-! Insertion-ordered dictionaries whose keys are distinct by construction. -/

namespace Ananta

open List

/-- A test passed by one of several distinctly labelled values leaves that value alone. -/
lemma filter_eq_singleton {α β : Type} {values : List α} {label : α → β} (test : α → Prop)
    [DecidablePred test] {value : α} (distinct : (values.map label).Nodup) (member : value ∈ values)
    (passes : test value) (only : ∀ other ∈ values, test other → label other = label value) :
    values.filter test = [value] := by
  have same : ∀ other ∈ values.filter test, other = value := by
    intro other kept
    obtain ⟨stored, passed⟩ := mem_filter.mp kept
    exact inj_on_of_nodup_map distinct stored member (only other stored (by simpa using passed))
  -- A list without repetitions that repeats one value has length one.
  have once : (values.filter test).Nodup := (Nodup.of_map label distinct).filter _
  rw [eq_replicate_of_mem same] at once ⊢
  have kept : 0 < (values.filter test).length :=
    length_pos_of_mem (mem_filter.mpr ⟨member, by simpa using passes⟩)
  rw [show (values.filter test).length = 1 by have := nodup_replicate.mp once; omega]
  rfl

/-- Pairs in insertion order, each key occurring once. -/
@[ext] structure Dict (κ ν : Type) where
  entries : List (κ × ν)
  distinct : (entries.map Prod.fst).Nodup

namespace Dict

variable {κ ν : Type} [DecidableEq κ]

omit [DecidableEq κ] in
/-- The dictionary without entries. -/
def empty : Dict κ ν := ⟨[], nodup_nil⟩

instance [DecidableEq ν] : DecidableEq (Dict κ ν) := fun left right =>
  decidable_of_iff (left.entries = right.entries) Dict.ext_iff.symm

/-- The value stored under a key in a list of pairs. -/
def find (key : κ) : List (κ × ν) → Option ν
  | [] => none
  | (other, value) :: rest => if other = key then some value else find key rest

/-- The value stored under a key. -/
def get? (dict : Dict κ ν) (key : κ) : Option ν := find key dict.entries

/-- Overwrite the pair of a key in place, or append a new pair. -/
def put (key : κ) (value : ν) : List (κ × ν) → List (κ × ν)
  | [] => [(key, value)]
  | (other, old) :: rest =>
    if other = key then (key, value) :: rest else (other, old) :: put key value rest

variable {key other : κ} {value : ν} {entries : List (κ × ν)} {dict : Dict κ ν}

/-- Writing a key adds no other key. -/
lemma mem_keys_put : other ∈ (put key value entries).map Prod.fst ↔ other = key ∨
    other ∈ entries.map Prod.fst := by
  induction entries with
  | nil => simp [put]
  | cons entry rest ih =>
    obtain ⟨first, old⟩ := entry
    by_cases same : first = key
    · simp [put, same]
    · simp only [put, if_neg same, map_cons, mem_cons, ih]
      tauto

/-- Writing a key keeps the keys distinct. -/
lemma put_distinct (distinct : (entries.map Prod.fst).Nodup) :
    ((put key value entries).map Prod.fst).Nodup := by
  -- An existing key keeps its place, and a new key comes last.
  induction entries with
  | nil => simp [put]
  | cons entry rest ih =>
    obtain ⟨first, old⟩ := entry
    simp only [map_cons, nodup_cons] at distinct
    by_cases same : first = key
    · subst same
      simpa [put] using distinct
    · simp only [put, if_neg same, map_cons, nodup_cons, mem_keys_put, not_or]
      exact ⟨⟨same, distinct.1⟩, ih distinct.2⟩

/-- The dictionary after `dict[key] = value`. -/
def set (dict : Dict κ ν) (key : κ) (value : ν) : Dict κ ν :=
  ⟨put key value dict.entries, put_distinct dict.distinct⟩

omit [DecidableEq κ] in
/-- The keys in insertion order. -/
def keys (dict : Dict κ ν) : List κ := dict.entries.map Prod.fst

omit [DecidableEq κ] in
/-- The values in insertion order. -/
def values (dict : Dict κ ν) : List ν := dict.entries.map Prod.snd

omit [DecidableEq κ] in
/-- The dictionary comprehension that keeps the pairs passing a test. -/
def filter (dict : Dict κ ν) (keep : κ → ν → Bool) : Dict κ ν :=
  ⟨dict.entries.filter fun entry => keep entry.1 entry.2,
    dict.distinct.sublist (filter_sublist.map Prod.fst)⟩

@[simp] lemma get?_empty (key : κ) : (empty : Dict κ ν).get? key = none := rfl

/-- Looking up a pair list after a write. -/
lemma find_put (key other : κ) (value : ν) (entries : List (κ × ν)) :
    find other (put key value entries) = if other = key then some value
      else find other entries := by
  induction entries with
  | nil => simp [put, find, eq_comm]
  | cons entry rest ih =>
    obtain ⟨first, old⟩ := entry
    by_cases same : first = key
    · subst same
      by_cases asked : other = first
      · simp [put, find, asked]
      · simp [put, find, asked, Ne.symm asked]
    · simp only [put, if_neg same, find, ih]
      by_cases asked : first = other
      · subst asked
        simp [same]
      · simp [asked]

/-- Looking up any key after a write. -/
lemma get?_set (dict : Dict κ ν) (key other : κ) (value : ν) :
    (dict.set key value).get? other = if other = key then some value else dict.get? other :=
  find_put key other value dict.entries

@[simp] lemma get?_set_self (dict : Dict κ ν) (key : κ) (value : ν) :
    (dict.set key value).get? key = some value := by
  simp [get?_set]

lemma get?_set_ne (dict : Dict κ ν) (differ : other ≠ key) (value : ν) :
    (dict.set key value).get? other = dict.get? other := by
  simp [get?_set, differ]

/-- A lookup in a list with distinct keys succeeds on exactly its pairs. -/
lemma find_eq_some_iff (distinct : (entries.map Prod.fst).Nodup) :
    find key entries = some value ↔ (key, value) ∈ entries := by
  induction entries with
  | nil => simp [find]
  | cons entry rest ih =>
    obtain ⟨first, old⟩ := entry
    simp only [map_cons, nodup_cons] at distinct
    by_cases same : first = key
    · subst same
      have absent : (first, value) ∉ rest := fun member =>
        distinct.1 (mem_map.mpr ⟨_, member, rfl⟩)
      simp [find, absent, eq_comm]
    · simp [find, same, Ne.symm same, ih distinct.2]

/-- The stored pairs are exactly the successful lookups. -/
lemma get?_eq_some_iff : dict.get? key = some value ↔ (key, value) ∈ dict.entries :=
  find_eq_some_iff dict.distinct

/-- The values are what the lookups return. -/
lemma mem_values : value ∈ dict.values ↔ ∃ key, dict.get? key = some value := by
  simp only [values, mem_map, Prod.exists, exists_eq_right, get?_eq_some_iff]

/-- The keys are where the lookups succeed. -/
lemma mem_keys : key ∈ dict.keys ↔ (dict.get? key).isSome := by
  simp only [keys, mem_map, Prod.exists, exists_and_right, exists_eq_right,
    Option.isSome_iff_exists, get?_eq_some_iff]

/-- When only one stored value passes a test, filtering leaves that value. -/
lemma filter_values {test : ν → Prop} [DecidablePred test]
    (found : dict.get? key = some value) (passes : test value)
    (only : ∀ other candidate, dict.get? other = some candidate → test candidate → other = key) :
    dict.values.filter test = [value] := by
  have pairs := filter_eq_singleton (fun entry : κ × ν => test entry.2) dict.distinct
    (get?_eq_some_iff.mp found) passes
    fun other stored passed => only other.1 other.2 (get?_eq_some_iff.mpr stored) passed
  rw [values, filter_map]
  exact congrArg (map Prod.snd) pairs

/-- Filtering keeps a lookup when its value passes the test. -/
lemma get?_filter (dict : Dict κ ν) (keep : κ → ν → Bool) (key : κ) :
    (dict.filter keep).get? key = (dict.get? key).filter (keep key) := by
  -- Both sides succeed on the stored pairs that pass the test.
  apply Option.ext
  intro value
  simp only [Option.filter_eq_some_iff, get?_eq_some_iff, filter, mem_filter]

/-- The dictionary after `dict.pop(key, None)`. -/
def erase (dict : Dict κ ν) (key : κ) : Dict κ ν := dict.filter fun other _ => other ≠ key

@[simp] lemma get?_erase (dict : Dict κ ν) (key other : κ) :
    (dict.erase key).get? other = if other = key then none else dict.get? other := by
  rw [erase, get?_filter]
  by_cases same : other = key
  · simp [same]
  · cases dict.get? other <;> simp [same]

/-- The dictionary with its pairs in the order of their keys. -/
def sorted (order : κ → κ → Prop) [DecidableRel order] (dict : Dict κ ν) : Dict κ ν :=
  ⟨dict.entries.insertionSort fun left right => order left.1 right.1,
    ((perm_insertionSort _ _).map Prod.fst).nodup_iff.mpr dict.distinct⟩

@[simp] lemma get?_sorted (order : κ → κ → Prop) [DecidableRel order] (dict : Dict κ ν) (key : κ) :
    (dict.sorted order).get? key = dict.get? key := by
  -- Both lookups succeed on the same pairs.
  apply Option.ext
  intro value
  simp only [get?_eq_some_iff, sorted, mem_insertionSort]

omit [DecidableEq κ] in
/-- The dictionary comprehension that keeps the keys. -/
def map {μ : Type} (change : κ → ν → μ) (dict : Dict κ ν) : Dict κ μ :=
  ⟨dict.entries.map fun entry => (entry.1, change entry.1 entry.2), by
    rw [map_map]
    exact dict.distinct⟩

omit [DecidableEq κ] in
/-- The loop that keeps the pairs whose value can be read. -/
def filterMap {μ : Type} (read : ν → Option μ) (dict : Dict κ ν) : Dict κ μ :=
  ⟨dict.entries.filterMap fun entry => (read entry.2).map (entry.1, ·), by
    refine dict.distinct.sublist ?_
    induction dict.entries with
    | nil => exact .slnil
    | cons entry rest ih =>
      rw [filterMap_cons]
      cases read entry.2 with
      | none => exact ih.cons _
      | some value => exact ih.cons_cons _⟩

omit [DecidableEq κ] in
/-- The pairs that were added last. -/
def newest (dict : Dict κ ν) (count : Nat) : Dict κ ν :=
  ⟨dict.entries.drop (dict.entries.length - count),
    dict.distinct.sublist ((drop_sublist ..).map Prod.fst)⟩

lemma get?_map {μ : Type} (change : κ → ν → μ) (dict : Dict κ ν) (key : κ) :
    (dict.map change).get? key = (dict.get? key).map (change key) := by
  apply Option.ext
  intro value
  simp only [get?_eq_some_iff, map, mem_map, Option.map_eq_some_iff, Prod.exists, Prod.mk.injEq]
  constructor
  · rintro ⟨_, old, listed, rfl, rfl⟩
    exact ⟨old, listed, rfl⟩
  · rintro ⟨old, listed, rfl⟩
    exact ⟨key, old, listed, rfl, rfl⟩

/-- A new key is written behind the others. -/
lemma put_new (absent : find key entries = none) :
    put key value entries = entries ++ [(key, value)] := by
  induction entries with
  | nil => rfl
  | cons entry rest ih =>
    simp only [find] at absent
    split at absent
    · cases absent
    · rename_i differs
      simp only [put, if_neg differs, ih absent, cons_append]

/-- The value under a new key comes last. -/
lemma values_set_new (absent : dict.get? key = none) (value : ν) :
    (dict.set key value).values = dict.values ++ [value] := by
  simp only [values, set, put_new absent, map_append, map_cons, map_nil]

/-- A written list of pairs is never empty. -/
lemma put_ne_nil (key : κ) (value : ν) (entries : List (κ × ν)) : put key value entries ≠ [] := by
  cases entries with
  | nil => simp [put]
  | cons entry rest =>
    rw [put]
    split <;> simp

/-- The dictionary that files each value of a list under its label, where later values win. -/
def collect (label : ν → κ) (values : List ν) : Dict κ ν :=
  values.foldl (fun dict value => dict.set (label value) value) empty

/-- Nothing is filed exactly when there is nothing to file. -/
lemma values_collect_eq_nil {label : ν → κ} {values : List ν} :
    (collect label values).values = [] ↔ values = [] := by
  rcases eq_nil_or_concat values with rfl | ⟨earlier, last, rfl⟩
  · simp [collect, Dict.values, empty]
  · simp [collect, Dict.values, set, put_ne_nil]

@[simp] lemma values_collect_singleton (label : ν → κ) (value : ν) :
    (collect label [value]).values = [value] := rfl

omit [DecidableEq κ] in
/-- The sum of a weight over all pairs. -/
def total (dict : Dict κ ν) (weight : κ → ν → Int) : Int :=
  (dict.entries.map fun entry => weight entry.1 entry.2).sum

/-- Overwriting a pair replaces its weight in the sum over a pair list. -/
lemma sum_put (weight : κ → ν → Int) (key : κ) (value : ν) (entries : List (κ × ν)) :
    ((put key value entries).map fun entry => weight entry.1 entry.2).sum =
      (entries.map fun entry => weight entry.1 entry.2).sum -
        ((find key entries).map (weight key)).getD 0 + weight key value := by
  -- The overwritten pair is met once on the way through the list, or never.
  induction entries with
  | nil => simp [put, find]
  | cons entry rest ih =>
    obtain ⟨first, old⟩ := entry
    by_cases same : first = key
    · subst same
      simp [put, find]
      ring
    · simp only [put, if_neg same, find, map_cons, sum_cons, ih]
      ring

/-- A write replaces the weight of the old value by that of the new one. -/
lemma total_set (dict : Dict κ ν) (weight : κ → ν → Int) (key : κ) (value : ν) :
    (dict.set key value).total weight =
      dict.total weight - ((dict.get? key).map (weight key)).getD 0 + weight key value :=
  sum_put weight key value dict.entries

omit [DecidableEq κ] in
/-- A weight that is never negative has a total that is never negative. -/
lemma total_nonneg {weight : κ → ν → Int}
    (nonneg : ∀ entry ∈ dict.entries, 0 ≤ weight entry.1 entry.2) : 0 ≤ dict.total weight := by
  apply sum_nonneg
  intro part member
  obtain ⟨entry, stored, rfl⟩ := mem_map.mp member
  exact nonneg entry stored

omit [DecidableEq κ] in
omit [DecidableEq κ] in
/-- Totals add up weight by weight. -/
lemma total_add (dict : Dict κ ν) (left right : κ → ν → Int) :
    dict.total (fun key value => left key value + right key value) =
      dict.total left + dict.total right := by
  simp [total, sum_map_add]

/-- A total is a sum over the distinct keys. -/
lemma total_eq_sum (dict : Dict κ ν) (weight : κ → ν → Int) :
    dict.total weight = ∑ key ∈ dict.keys.toFinset, ((dict.get? key).map (weight key)).getD 0 := by
  rw [keys, sum_toFinset _ dict.distinct, total, map_map]
  congr 1
  apply map_congr_left
  intro entry member
  simp [get?_eq_some_iff.mpr member]

/-- Weights bounded key by key have bounded totals, even across dictionaries. -/
lemma total_le_of_get? {μ : Type} {lighter : Dict κ ν} {heavier : Dict κ μ} {light : κ → ν → Int}
    {heavy : κ → μ → Int} (nonneg : ∀ key value, heavier.get? key = some value →
      0 ≤ heavy key value) (bounded : ∀ key value, lighter.get? key = some value →
      light key value ≤ ((heavier.get? key).map (heavy key)).getD 0) :
    lighter.total light ≤ heavier.total heavy := by
  rw [total_eq_sum, total_eq_sum]
  have nonneg' : ∀ key, 0 ≤ ((heavier.get? key).map (heavy key)).getD 0 := by
    intro key
    cases found : heavier.get? key with
    | none => simp
    | some value => simpa using nonneg key value found
  -- Keys of either dictionary are summed up, where those missing in the heavier one weigh nothing.
  calc ∑ key ∈ lighter.keys.toFinset, ((lighter.get? key).map (light key)).getD 0
      ≤ ∑ key ∈ lighter.keys.toFinset, ((heavier.get? key).map (heavy key)).getD 0 := by
        refine Finset.sum_le_sum fun key _ => ?_
        cases found : lighter.get? key with
        | none => simpa using nonneg' key
        | some value => simpa using bounded key value found
    _ ≤ ∑ key ∈ lighter.keys.toFinset ∪ heavier.keys.toFinset,
          ((heavier.get? key).map (heavy key)).getD 0 :=
        Finset.sum_le_sum_of_subset_of_nonneg Finset.subset_union_left fun key _ _ => nonneg' key
    _ = ∑ key ∈ heavier.keys.toFinset, ((heavier.get? key).map (heavy key)).getD 0 := by
        refine (Finset.sum_subset Finset.subset_union_right fun key _ missing => ?_).symm
        rw [mem_toFinset, mem_keys, Option.not_isSome_iff_eq_none] at missing
        simp [missing]

omit [DecidableEq κ] in
/-- The number of keys that pass a test, as a total. -/
lemma total_indicator (dict : Dict κ ν) (test : κ → Prop) [DecidablePred test] :
    dict.total (fun key _ => if test key then 1 else 0) = (dict.keys.filter test).length := by
  unfold total keys
  induction dict.entries with
  | nil => rfl
  | cons entry rest ih =>
    simp only [map_cons, sum_cons, ih, filter_cons, decide_eq_true_eq]
    split <;> simp [add_comm]

end Dict

export Dict (get?_set get?_set_self get?_set_ne get?_erase get?_filter get?_map get?_sorted
    get?_eq_some_iff mem_values)

end Ananta
