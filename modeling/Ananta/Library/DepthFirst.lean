import Mathlib

/-! Depth-first search for a cycle, with the colours of the nodes passed along. -/

namespace Ananta

open Function Finset

namespace DepthFirst

variable {α : Type} [DecidableEq α]

/-- How far the search is with a node: not begun, on the current path, or done with. -/
inductive Color where
  | white | gray | black
  deriving DecidableEq

/-- Visit some nodes in turn, until one visit finds a cycle. -/
def visitEach (visit : α → (α → Color) → Bool × (α → Color)) : List α → (α → Color) →
    Bool × (α → Color)
  | [], colors => (false, colors)
  | node :: rest, colors =>
    match visit node colors with
    | (true, later) => (true, later)
    | (false, later) => visitEach visit rest later

/-- Visit a node and what it leads to, where each call that goes deeper takes one of the steps. -/
def visit (next : α → List α) : Nat → α → (α → Color) → Bool × (α → Color)
  | 0, _, colors => (true, colors)
  | steps + 1, node, colors =>
    match colors node with
    | .gray => (true, colors)
    | .black => (false, colors)
    | .white =>
      match visitEach (visit next steps) (next node) (update colors node .gray) with
      | (true, later) => (true, later)
      | (false, later) => (false, update later node .black)

/-- Whether the search from each of the nodes that it has not come across finds a cycle. -/
def hasCycle (next : α → List α) (nodes : List α) : Bool :=
  (visitEach (fun node colors => if colors node = .white
    then visit next (nodes.length + 1) node colors else (false, colors)) nodes fun _ => .white).1

variable {next : α → List α} {nodes : List α} {colors later : α → Color} {node : α}

/-- Some node leads back to itself. -/
def Cyclic (next : α → List α) : Prop :=
  ∃ node, Relation.TransGen (fun source target => target ∈ next source) node node

/-- The nodes that the search has not begun with. -/
def whites (nodes : List α) (colors : α → Color) : Finset α :=
  nodes.toFinset.filter (colors · = .white)

/-- What a search keeps: from a node that it is done with no path goes on for ever. -/
def Finished (next : α → List α) (colors : α → Color) : Prop :=
  ∀ node, colors node = .black → Acc (fun target source => target ∈ next source) node

/-- What a search without a find leads to: it is done with some more nodes, and the path is the
same. -/
structure Onward (next : α → List α) (colors later : α → Color) : Prop where
  finished : Finished next later
  path : ∀ node, later node = .gray ↔ colors node = .gray
  blacks : ∀ node, colors node = .black → later node = .black

omit [DecidableEq α] in
lemma Onward.trans {middle : α → Color} (first : Onward next colors middle)
    (second : Onward next middle later) : Onward next colors later :=
  ⟨second.finished, fun node => (second.path node).trans (first.path node),
    fun node done => second.blacks node (first.blacks node done)⟩

/-- What was not begun with later was not begun with before. -/
lemma Onward.whites_subset (onward : Onward next colors later) :
    whites nodes later ⊆ whites nodes colors := by
  intro other member
  rw [whites, mem_filter] at member ⊢
  refine ⟨member.1, ?_⟩
  cases before : colors other with
  | white => rfl
  | gray =>
    rw [(onward.path other).mpr before] at member
    exact nomatch member.2
  | black =>
    rw [onward.blacks other before] at member
    exact nomatch member.2

/-- What the visit of a node answers: it is done with, or there is a cycle. -/
def Answers (next : α → List α) (node : α) (colors : α → Color) : Bool × (α → Color) → Prop
  | (true, _) => Cyclic next
  | (false, later) => Onward next colors later ∧ later node = .black

omit [DecidableEq α] in
/-- Visits of some nodes in turn, each of which is done with or closes a cycle. -/
lemma visitEach_answers {visit : α → (α → Color) → Bool × (α → Color)} {values : List α}
    (each : ∀ value ∈ values, ∀ middle, Onward next colors middle →
      Answers next value middle (visit value middle)) (finished : Finished next colors) :
    match visitEach visit values colors with
    | (true, _) => Cyclic next
    | (false, later) => Onward next colors later ∧ ∀ value ∈ values, later value = .black := by
  have refl : Onward next colors colors := ⟨finished, fun _ => .rfl, fun _ => id⟩
  -- The colours so far are behind those at the start.
  suffices general : ∀ rest middle, (∀ value ∈ rest, value ∈ values) → Onward next colors middle →
      match visitEach visit rest middle with
      | (true, _) => Cyclic next
      | (false, later) => Onward next middle later ∧ ∀ value ∈ rest, later value = .black from
    general values colors (fun _ => id) refl
  intro rest
  induction rest with
  | nil => exact fun middle _ onward => ⟨⟨onward.finished, fun _ => .rfl, fun _ => id⟩, nofun⟩
  | cons value rest ih =>
    intro middle listed onward
    have answer := each value (listed value (.head _)) middle onward
    rw [visitEach]
    revert answer
    generalize visit value middle = outcome
    intro answer
    obtain ⟨found, later⟩ := outcome
    cases found with
    | true => exact answer
    | false =>
      obtain ⟨further, done⟩ := answer
      have others := ih later (fun other member => listed other (.tail _ member))
        (onward.trans further)
      revert others
      dsimp only
      generalize visitEach visit rest later = outcome
      intro others
      obtain ⟨found, last⟩ := outcome
      cases found with
      | true => exact others
      | false =>
        refine ⟨further.trans others.1, fun other member => ?_⟩
        rcases List.mem_cons.mp member with rfl | member
        · exact others.1.blacks other done
        · exact others.2 other member

/-- A visit with a step for each node that was not begun with answers, where the path leads to the
node. -/
lemma visit_answers (closed : ∀ source ∈ nodes, ∀ target ∈ next source, target ∈ nodes) :
    ∀ steps node colors, (whites nodes colors).card < steps → node ∈ nodes → Finished next colors →
      (∀ other, colors other = .gray →
        Relation.TransGen (fun source target => target ∈ next source) other node) →
      Answers next node colors (visit next steps node colors) := by
  intro steps
  induction steps with
  | zero => exact nofun
  | succ steps ih =>
    intro node colors enough known finished path
    rw [visit]
    cases color : colors node with
    | gray => exact ⟨node, path node color⟩
    | black => exact ⟨⟨finished, fun _ => .rfl, fun _ => id⟩, color⟩
    | white =>
      have begun : Finished next (update colors node .gray) := by
        intro other done
        by_cases same : other = node
        · rw [same, update_self] at done
          cases done
        · rw [update_of_ne same] at done
          exact finished other done
      have fewer : (whites nodes (update colors node .gray)).card < (whites nodes colors).card := by
        refine card_lt_card (ssubset_iff_of_subset ?_ |>.mpr ⟨node, ?_, ?_⟩)
        · intro other member
          rw [whites, mem_filter] at member ⊢
          by_cases same : other = node
          · exact ⟨member.1, same ▸ color⟩
          · rwa [update_of_ne same] at member
        · exact mem_filter.mpr ⟨List.mem_toFinset.mpr known, color⟩
        · simp [whites]
      have each : ∀ value ∈ next node, ∀ middle, Onward next (update colors node .gray) middle →
          Answers next value middle (visit next steps value middle) := by
        intro value listed middle onward
        refine ih value middle ?_ (closed node known value listed)
          onward.finished fun other gray => ?_
        · have least : (whites nodes middle).card ≤ _ := card_le_card onward.whites_subset
          omega
        · -- The path goes on from the node to what it leads to.
          have before := (onward.path other).mp gray
          by_cases same : other = node
          · exact same ▸ .single listed
          · rw [update_of_ne same] at before
            exact (path other before).tail listed
      have answer := visitEach_answers each begun
      revert answer
      generalize visitEach (visit next steps) (next node) (update colors node .gray) = outcome
      intro answer
      obtain ⟨found, later⟩ := outcome
      cases found with
      | true => exact answer
      | false =>
        obtain ⟨onward, done⟩ := answer
        refine ⟨⟨fun other black => ?_, fun other => ?_, fun other black => ?_⟩, update_self ..⟩
        · by_cases same : other = node
          · exact same ▸ .intro _ fun target listed => onward.finished target (done target listed)
          · rw [update_of_ne same] at black
            exact onward.finished other black
        · by_cases same : other = node
          · rw [same, update_self, color]
            exact ⟨nofun, nofun⟩
          · rw [update_of_ne same, onward.path other, update_of_ne same]
        · by_cases same : other = node
          · rw [same, update_self]
          · rw [update_of_ne same]
            exact onward.blacks other (by rwa [update_of_ne same])

omit [DecidableEq α] in
/-- Where no path goes on for ever, none leads back. -/
lemma not_transGen_of_acc (accessible : Acc (fun target source => target ∈ next source) node) :
    ¬ Relation.TransGen (fun source target => target ∈ next source) node node := by
  have ordered := Acc.transGen accessible
  intro back
  have forth : Relation.TransGen (fun target source => target ∈ next source) node node := by
    rwa [← Relation.transGen_swap] at back
  clear accessible back
  induction ordered with
  | intro other _ ih => exact ih other forth forth

/-- The search finds a cycle exactly where there is one. -/
lemma hasCycle_iff (closed : ∀ source ∈ nodes, ∀ target ∈ next source, target ∈ nodes)
    (known : ∀ source, next source ≠ [] → source ∈ nodes) : hasCycle next nodes = true ↔
      Cyclic next := by
  have each : ∀ value ∈ nodes, ∀ middle, Onward next (fun _ => .white) middle →
      Answers next value middle
        (if middle value = .white then visit next (nodes.length + 1) value middle
          else (false, middle)) := by
    intro value listed middle onward
    -- Between the searches no node is on the path.
    have settled : ∀ other, middle other ≠ .gray :=
      fun other gray => nomatch (onward.path other).mp gray
    split
    · refine visit_answers closed _ value middle ?_ listed onward.finished fun other gray =>
        absurd gray (settled other)
      exact Nat.lt_succ_of_le ((card_filter_le _ _).trans (List.toFinset_card_le nodes))
    · rename_i begun
      refine ⟨⟨onward.finished, fun _ => .rfl, fun _ => id⟩, ?_⟩
      cases color : middle value with
      | white => exact absurd color begun
      | gray => exact absurd color (settled value)
      | black => rfl
  have answer := visitEach_answers each nofun
  unfold hasCycle
  revert answer
  generalize visitEach _ nodes _ = outcome
  intro answer
  obtain ⟨found, later⟩ := outcome
  cases found with
  | true => exact ⟨fun _ => answer, fun _ => rfl⟩
  | false =>
    refine ⟨nofun, fun ⟨node, back⟩ => ?_⟩
    have leads : next node ≠ [] := by
      obtain ⟨target, first, _⟩ := Relation.TransGen.head'_iff.mp back
      exact List.ne_nil_of_mem first
    exact absurd back (not_transGen_of_acc
      (answer.1.finished node (answer.2 node (known node leads))))

end DepthFirst

end Ananta
