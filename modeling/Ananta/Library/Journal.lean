import Ananta.Library.Dict

/-! Journals that keep the current value of each key beside every value it ever had. -/

namespace Ananta

open Option List

/-- The latest value and the whole history of each key. -/
@[ext] structure Journal (κ α : Type) where
  current : Dict κ α
  history : Dict κ (List α)

/-- A sequence in which every value is admitted after the one before it. -/
inductive Lineage {α : Type} (admits : Option α → α → Prop) : List α → Prop where
  | nil : Lineage admits []
  | snoc {earlier : List α} {value : α} (lineage : Lineage admits earlier)
      (admitted : admits earlier.getLast? value) : Lineage admits (earlier ++ [value])

namespace Lineage

variable {α : Type} {admits : Option α → α → Prop} {values : List α}

section

variable (lineage : Lineage admits values)
include lineage

/-- What every admitted value has is had by the whole sequence. -/
lemma forall_mem (property : α → Prop)
    (each : ∀ prior value, admits prior value → property value) : ∀ value ∈ values,
      property value := by
  induction lineage with
  | nil => simp
  | snoc lineage admitted ih =>
    simp only [mem_append, mem_singleton, or_imp, forall_and, forall_eq]
    exact ⟨ih, each _ _ admitted⟩

/-- Values numbered one after another are numbered from one to the length of the sequence. -/
lemma map_number {number : α → Int}
    (next : ∀ prior value, admits prior value → number value = ((prior.map number).getD 0) + 1) :
    values.map number = (range values.length).map fun i : Nat => (i : Int) + 1 := by
  -- The last number so far is the length of the sequence, also when it is empty.
  have both : values.map number = ((range values.length).map fun i : Nat => (i : Int) + 1) ∧
      (values.getLast?.map number).getD 0 = values.length := by
    induction lineage with
    | nil => simp
    | snoc lineage admitted ih =>
      have numbered := next _ _ admitted
      rw [ih.2] at numbered
      simp [range_succ, ih.1, numbered]
  exact both.1

/-- A relation between each value and its successor holds along the whole sequence. -/
lemma isChain {related : α → α → Prop}
    (next : ∀ prior value, admits (some prior) value → related prior value) :
    values.IsChain related := by
  induction lineage with
  | nil => exact isChain_nil
  | snoc lineage admitted ih =>
    rw [isChain_append]
    refine ⟨ih, isChain_singleton _, ?_⟩
    intro prior last value first
    cases first
    rw [mem_def.mp last] at admitted
    exact next _ _ admitted

/-- A value that admits no successor is the last one. -/
lemma getLast?_of_final {final : α → Prop}
    (stops : ∀ prior value, admits (some prior) value → ¬ final prior) {value : α}
    (member : value ∈ values) (isFinal : final value) : values.getLast? = some value := by
  induction lineage with
  | nil => cases member
  | snoc lineage admitted ih =>
    rcases mem_append.mp member with earlier | last
    · rw [ih earlier] at admitted
      exact absurd isFinal (stops _ _ admitted)
    · rw [mem_singleton.mp last, getLast?_concat]

variable (rank : α → Int) (rises : ∀ prior value, admits (some prior) value →
  rank prior ≤ rank value)
include rises

/-- Ranks that never fall are bounded by the last rank. -/
lemma rank_le_last : ∀ value ∈ values, ∀ last ∈ values.getLast?, rank value ≤ rank last := by
  induction lineage with
  | nil => simp
  | @snoc earlier next lineage admitted ih =>
    intro value member last isLast
    simp only [getLast?_concat, mem_def, some.injEq] at isLast
    subst isLast
    rcases mem_append.mp member with before | same
    · cases found : earlier.getLast? with
      | none => simp_all
      | some prior =>
        rw [found] at admitted ih
        exact (ih value before prior rfl).trans (rises _ _ admitted)
    · rw [mem_singleton.mp same]

variable {ρ : Type} (label : α → ρ)
  (relabels : ∀ prior value, admits (some prior) value → label value ≠ label prior →
    rank prior < rank value)
include relabels

/-- When a new label always comes with a higher rank, values of equal rank have equal labels. -/
lemma label_eq_of_rank_eq :
    ∀ left ∈ values, ∀ right ∈ values, rank left = rank right → label left = label right := by
  induction lineage with
  | nil => simp
  | @snoc earlier next lineage admitted ih =>
    -- An earlier value of the newest rank shares it with the predecessor, so no label changed.
    have newest : ∀ value ∈ earlier, rank value = rank next → label value = label next := by
      intro value member same
      cases found : earlier.getLast? with
      | none => simp_all
      | some prior =>
        rw [found] at admitted
        have bounded := lineage.rank_le_last rank rises value member prior found
        have kept : label next = label prior := by
          by_contra changed
          have := relabels _ _ admitted changed
          omega
        have level : rank value = rank prior := by
          have := rises _ _ admitted
          omega
        rw [kept]
        exact ih value member prior (mem_of_getLast? found) level
    intro left memberLeft right memberRight same
    simp only [mem_append, mem_singleton] at memberLeft memberRight
    rcases memberLeft with earlierLeft | rfl <;> rcases memberRight with earlierRight | rfl
    · exact ih left earlierLeft right earlierRight same
    · exact newest left earlierLeft same
    · exact (newest right earlierRight same.symm).symm
    · rfl

/-- When every label but the first comes with a higher rank, the last rank counts the labels. -/
lemma card_labels_le [DecidableEq ρ] (starts : ∀ value, admits none value → 1 ≤ rank value) :
    ∀ last ∈ values.getLast?, ((values.map label).toFinset.card : Int) ≤ rank last := by
  induction lineage with
  | nil => simp
  | @snoc earlier next lineage admitted ih =>
    intro last isLast
    simp only [getLast?_concat, mem_def, some.injEq] at isLast
    subst isLast
    have grown : ((earlier ++ [next]).map label).toFinset = insert (label next)
        (earlier.map label).toFinset := by
      ext other
      simp
    rw [grown]
    cases found : earlier.getLast? with
    | none =>
      rw [found] at admitted
      rw [getLast?_eq_none_iff.mp found]
      simpa using starts _ admitted
    | some prior =>
      rw [found] at admitted
      have counted := ih prior found
      by_cases changed : label next = label prior
      · -- The label of the predecessor is not counted again.
        have known : label next ∈ (earlier.map label).toFinset := by
          rw [changed]
          simpa using ⟨prior, mem_of_getLast? found, rfl⟩
        rw [Finset.insert_eq_of_mem known]
        exact counted.trans (rises _ _ admitted)
      · have fewer := Finset.card_insert_le (label next) (earlier.map label).toFinset
        have higher := relabels _ _ admitted changed
        omega

end

end Lineage

namespace Journal

variable {κ α : Type} [DecidableEq κ]

omit [DecidableEq κ] in
/-- The journal without entries. -/
def empty : Journal κ α := ⟨Dict.empty, Dict.empty⟩

/-- Every value a key ever had, oldest first. -/
def entries (journal : Journal κ α) (key : κ) : List α := (journal.history.get? key).getD []

/-- Make a value the current one and append it to the history. -/
def save (journal : Journal κ α) (key : κ) (value : α) : Journal κ α :=
  ⟨journal.current.set key value, journal.history.set key (journal.entries key ++ [value])⟩

lemma current_save (journal : Journal κ α) (key other : κ) (value : α) :
    (journal.save key value).current.get? other =
      if other = key then some value else journal.current.get? other :=
  get?_set _ _ _ _

lemma entries_save (journal : Journal κ α) (key other : κ) (value : α) :
    (journal.save key value).entries other =
      if other = key then journal.entries key ++ [value] else journal.entries other := by
  unfold entries save
  simp only [get?_set]
  split <;> rfl

@[simp] lemma entries_save_self (journal : Journal κ α) (key : κ) (value : α) :
    (journal.save key value).entries key = journal.entries key ++ [value] := by
  simp [entries_save]

/-- The current value is the last entry, and every entry was admitted after the one before it. -/
structure Coherent (journal : Journal κ α) (admits : κ → Option α → α → Prop) : Prop where
  current : ∀ key, journal.current.get? key = (journal.entries key).getLast?
  lineage : ∀ key, Lineage (admits key) (journal.entries key)

/-- The empty journal is coherent. -/
lemma coherent_empty (admits : κ → Option α → α → Prop) : (empty : Journal κ α).Coherent admits :=
  ⟨fun _ => rfl, fun _ => .nil⟩

/-- Saving a value admitted after the current one keeps a journal coherent. -/
lemma Coherent.save {journal : Journal κ α} {admits : κ → Option α → α → Prop}
    (coherent : journal.Coherent admits) {key : κ} {value : α}
    (admitted : admits key (journal.current.get? key) value) :
    (journal.save key value).Coherent admits := by
  constructor
  · intro other
    rw [current_save, entries_save]
    split
    · rw [getLast?_concat]
    · exact coherent.current other
  · intro other
    rw [entries_save]
    split
    · rename_i same
      subst same
      rw [coherent.current] at admitted
      exact .snoc (coherent.lineage _) admitted
    · exact coherent.lineage other

/-- One journal arises from another by saving at most one admitted value. -/
inductive Extends (admits : κ → Option α → α → Prop) (journal : Journal κ α) : Journal κ α →
    Prop where
  | same : Extends admits journal journal
  | saved {key : κ} {value : α} (admitted : admits key (journal.current.get? key) value) :
      Extends admits journal (journal.save key value)

variable {admits : κ → Option α → α → Prop} {journal after : Journal κ α}

/-- Extending a journal keeps it coherent. -/
lemma Coherent.extends (coherent : journal.Coherent admits)
    (extension : Extends admits journal after) : after.Coherent admits := by
  cases extension with
  | same => exact coherent
  | saved admitted => exact coherent.save admitted

/-- A current value that admits no successor stays, and so does the history behind it. -/
lemma Extends.of_final (extension : Extends admits journal after) {key : κ} {value : α}
    (found : journal.current.get? key = some value)
    (final : ∀ next, ¬ admits key (some value) next) :
    after.current.get? key = some value ∧ after.entries key = journal.entries key := by
  cases extension with
  | same => exact ⟨found, rfl⟩
  | @saved other next admitted =>
    have differs : key ≠ other := by
      rintro rfl
      rw [found] at admitted
      exact final next admitted
    rw [current_save, entries_save, if_neg differs, if_neg differs]
    exact ⟨found, rfl⟩

end Journal

end Ananta
