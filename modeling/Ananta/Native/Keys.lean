import Ananta.Native.State
import Ananta.Security.Endpoint

/-! The dedupe keys of a Native run, and when two of them are the same. -/

namespace Ananta

open Nat List

lemma val_codePoint (character : Char) : (codePoint character).val = character.toNat := by
  have bound : character.toNat < 0x110000 := by
    rcases character.valid with small | ⟨_, large⟩
    · exact lt_trans small (by decide)
    · exact large
  exact mod_eq_of_lt bound

lemma codePoint_injective : Function.Injective codePoint := fun left right same => by
  have values := congrArg Fin.val same
  rw [val_codePoint, val_codePoint] at values
  exact Char.ext (UInt32.toNat_inj.mp values)

lemma decimal_of_nonneg {value : Int} (nonneg : 0 ≤ value) :
    decimal value = (toDigits 10 value.toNat).map codePoint := by
  show (Int.repr value).toList.map codePoint = _
  rw [Int.repr_eq_if, if_pos nonneg, toList_repr]

/-- A number is written in digits, and with a sign if it is negative. -/
lemma mem_decimal {value : Int} {point : CodePoint} (member : point ∈ decimal value) :
    point = codePoint '-' ∨ ∃ digit : Char, digit.isDigit = true ∧ point = codePoint digit := by
  have digits : ∀ number : Nat, point ∈ (toDigits 10 number).map codePoint →
      ∃ digit : Char, digit.isDigit = true ∧ point = codePoint digit := fun number listed => by
    obtain ⟨digit, occurs, rfl⟩ := mem_map.mp listed
    exact ⟨digit, isDigit_of_mem_toDigits (by decide) (by decide) occurs, rfl⟩
  change point ∈ (Int.repr value).toList.map codePoint at member
  rw [Int.repr_eq_if] at member
  split at member
  · rw [toList_repr] at member
    exact .inr (digits _ member)
  · rw [String.toList_append, toList_repr, map_append, mem_append] at member
    grind

lemma decimal_inj {left right : Int} (first : 0 ≤ left) (second : 0 ≤ right)
    (same : decimal left = decimal right) :
    left = right := by
  rw [decimal_of_nonneg first, decimal_of_nonneg second] at same
  have digits := (map_injective_iff.mpr codePoint_injective) same
  have values := congrArg (ofDigitChars 10 · 0) digits
  simp only [ofDigitChars_toDigits (show 1 < 10 by decide) (show 10 ≤ 10 by decide)] at values
  omega

def colonPoint : CodePoint := codePoint ':'

/-- A text without colons and without space, which is not empty. -/
structure IsWord (value : Str) : Prop where
  nonempty : value ≠ []
  solid : ∀ point ∈ value, point ≠ colonPoint ∧ isSpace point = false

instance (value : Str) : Decidable (IsWord value) :=
  decidable_of_iff (value ≠ [] ∧
    (value.all fun point => point ≠ colonPoint && !isSpace point) = true)
    ⟨fun both => ⟨both.1, by simpa using both.2⟩, fun word =>
      ⟨word.nonempty, by simpa using word.solid⟩⟩

/-- What stands behind the last colon is determined. -/
lemma eq_of_last_colon {left right first second : Str} (one : IsWord first) (two : IsWord second)
    (same : left ++ colonPoint :: first = right ++ colonPoint :: second) :
    left = right ∧ first = second := by
  -- A colon of one side that is not its last one would stand in the word of the other side.
  rcases append_eq_append_iff.mp same with ⟨more, rfl, rest⟩ | ⟨more, rfl, rest⟩
  all_goals
    rcases more with _ | ⟨point, others⟩
    · simp_all
    simp only [cons_append, cons.injEq] at rest
  · exact absurd rfl (one.solid colonPoint (by rw [rest.2]; simp)).1
  · exact absurd rfl (two.solid colonPoint (by rw [rest.2]; simp)).1

/-- A number is a word. -/
lemma isWord_decimal (value : Int) : IsWord (decimal value) := by
  constructor
  · intro empty
    change (Int.repr value).toList.map codePoint = [] at empty
    rw [Int.repr_eq_if] at empty
    split at empty
    · simp_all
    · simp at empty
  · intro point member
    rcases mem_decimal member with rfl | ⟨digit, numeric, rfl⟩
    · decide
    · have range : 0x30 ≤ (codePoint digit).val ∧ (codePoint digit).val ≤ 0x39 := by
        rw [val_codePoint]
        simpa [Char.isDigit, UInt32.le_iff_toNat_le] using numeric
      constructor
      · rintro equal
        rw [equal] at range
        exact absurd range (by decide)
      · simp only [isSpace]
        simp
        omega

def startsNumber (value : Str) : Bool :=
  value.head?.any fun point => point == codePoint '-' || (0x30 ≤ point.val && point.val ≤ 0x39)

lemma startsNumber_decimal (value : Int) : startsNumber (decimal value) = true := by
  cases written : decimal value with
  | nil => exact absurd written (isWord_decimal value).nonempty
  | cons point rest =>
    have member : point ∈ decimal value := by rw [written]; exact .head _
    simp only [startsNumber, head?_cons, Option.any_some, Bool.or_eq_true, beq_iff_eq,
      Bool.and_eq_true,
      decide_eq_true_eq]
    rcases mem_decimal member with same | ⟨digit, numeric, rfl⟩
    · exact .inl same
    · refine .inr ?_
      rw [val_codePoint]
      simpa [Char.isDigit, UInt32.le_iff_toNat_le] using numeric

lemma not_decimal {value : Int} {word : Str} (letter : startsNumber word = false) :
    decimal value ≠ word := by
  rintro rfl
  rw [startsNumber_decimal] at letter
  cases letter

/-- A text that starts and ends with something else than space is kept by trimming. -/
lemma strip_of_word {lead word : Str} (first : ∀ point ∈ lead.head?, isSpace point = false)
    (nonempty : lead ≠ []) (last : IsWord word) : strip (lead ++ word) = lead ++ word := by
  refine strip_eq_self_of_ends ?_ ?_
  · rwa [head?_append_of_ne_nil _ nonempty]
  · intro point ends
    rw [getLast?_append_of_ne_nil _ last.nonempty] at ends
    exact (last.solid point (mem_of_getLast? ends)).2

/-- The words that stand behind the last colon of a key, apart from numbers. -/
inductive KeyWord where
  | started | completed | delegated | retry | failed | routeSkipped | merged | checkpointNode
  | requested | paused | rejected | granted | resumed | cancelled | planEdited
  deriving DecidableEq

instance : Fintype KeyWord :=
  .ofList [.started, .completed, .delegated, .retry, .failed, .routeSkipped, .merged,
    .checkpointNode, .requested, .paused, .rejected, .granted, .resumed, .cancelled, .planEdited]
      fun word => by cases word <;> decide

def KeyWord.text : KeyWord → Str
  | started => "started"
  | completed => "completed"
  | delegated => "delegated"
  | retry => "retry"
  | failed => "failed"
  | routeSkipped => "route-skipped"
  | merged => "merged"
  | checkpointNode => "checkpoint-node"
  | requested => "requested"
  | paused => "paused"
  | rejected => "rejected"
  | granted => "granted"
  | resumed => "resumed"
  | cancelled => "cancelled"
  | planEdited => "plan-edited"

lemma KeyWord.text_injective : Function.Injective KeyWord.text := by decide +kernel

lemma KeyWord.isWord (word : KeyWord) : IsWord word.text := by
  revert word
  decide +kernel

lemma KeyWord.startsNumber (word : KeyWord) : startsNumber word.text = false := by
  revert word
  decide +kernel

namespace EmissionKey

/-- What stands behind the last colon of a key. -/
def ending : EmissionKey → KeyWord ⊕ Int
  | started => .inl .started
  | completed | attempt .completed _ _ => .inl .completed
  | failed sequence => .inr sequence
  | checkpoint revision => .inr revision
  | attempt .delegated _ _ => .inl .delegated
  | attempt .retry _ _ | command .retry _ => .inl .retry
  | attempt .failed _ _ => .inl .failed
  | node .routeSkipped _ => .inl .routeSkipped
  | node .merged _ => .inl .merged
  | node .checkpointNode _ => .inl .checkpointNode
  | gate .requested _ => .inl .requested
  | gate .paused _ | command .paused _ => .inl .paused
  | command .rejected _ => .inl .rejected
  | command .granted _ => .inl .granted
  | command .resumed _ => .inl .resumed
  | command .cancelled _ => .inl .cancelled
  | command .planEdited _ => .inl .planEdited

lemma word_eq (key : EmissionKey) : key.word = Sum.elim KeyWord.text decimal key.ending := by
  rcases key with _ | _ | _ | _ | ⟨_ | _ | _ | _, _, _⟩ | ⟨_ | _ | _, _⟩ | ⟨_ | _,
    _⟩ | ⟨_ | _ | _ | _ | _ | _ | _, _⟩ <;>
    rfl

variable {runId : Str} {key left right : EmissionKey}

lemma isWord_word (key : EmissionKey) : IsWord key.word := by
  rw [word_eq]
  cases key.ending with
  | inl word => exact word.isWord
  | inr number => exact isWord_decimal number

/-- What stands in front of it ends with a colon, if it is anything at all. -/
lemma stem_ends (key : EmissionKey) : ∃ lead, ":" ++ key.stem = lead ++ [colonPoint] := by
  cases key with
  | started => exact ⟨[], rfl⟩
  | completed => exact ⟨[], rfl⟩
  | failed _ => exact ⟨":failed", rfl⟩
  | checkpoint _ => exact ⟨":checkpoint", rfl⟩
  | attempt _ nodeId attemptId =>
    exact ⟨":" ++ nodeId ++ ":" ++ attemptId, by simp [stem, text, colonPoint]⟩
  | node _ nodeId => exact ⟨":" ++ nodeId, by simp [stem, text, colonPoint]⟩
  | gate _ gateId => exact ⟨":" ++ gateId, by simp [stem, text, colonPoint]⟩
  | command _ commandId => exact ⟨":" ++ commandId, by simp [stem, text, colonPoint]⟩

lemma render_split (runId : Str) (key : EmissionKey) :
    ∃ lead, key.render runId = lead ++ colonPoint :: key.word ∧
    lead ++ [colonPoint] = "native:" ++ runId ++ (":" ++ key.stem) := by
  obtain ⟨lead, ends⟩ := stem_ends key
  refine ⟨"native:" ++ runId ++ lead, ?_, by rw [ends]; simp⟩
  rw [render, append_assoc _ (text ":"), ends]
  simp

lemma parts_of_render (same : left.render runId = right.render runId) :
    left.stem = right.stem ∧ left.word = right.word := by
  obtain ⟨first, split, stem⟩ := render_split runId left
  obtain ⟨second, other, stems⟩ := render_split runId right
  rw [split, other] at same
  obtain ⟨rfl, words⟩ := eq_of_last_colon (isWord_word left) (isWord_word right) same
  simp_all

lemma strip_render (runId : Str) (key : EmissionKey) :
    strip (key.render runId) = key.render runId :=
  @strip_of_word ("native:" ++ runId ++ ":" ++ key.stem) _
    (by simp [text, isSpace, codePoint]) (by simp [text]) (isWord_word key)

/-- Only failures and checkpoints end with a number. -/
lemma number_of_ending {number : Int} (ends : key.ending = .inr number) :
    key = failed number ∨ key = checkpoint number := by
  unfold ending at ends
  split at ends <;> simp_all

/-- Two endings that read alike. -/
lemma endings_of_words (words : left.word = right.word) : left.ending = right.ending ∨
    ∃ one two, left.ending = .inr one ∧ right.ending = .inr two ∧ decimal one = decimal two := by
  rw [word_eq, word_eq] at words
  cases first : left.ending with
  | inl word =>
    cases second : right.ending with
    | inl other =>
      rw [first, second] at words
      exact .inl (congrArg _ (KeyWord.text_injective words))
    | inr number =>
      rw [first, second] at words
      exact absurd words.symm (not_decimal word.startsNumber)
  | inr number =>
    cases second : right.ending with
    | inl other =>
      rw [first, second] at words
      exact absurd words (not_decimal other.startsNumber)
    | inr other =>
      simp_all

/-- Two keys that may be rendered alike. -/
inductive Collides : EmissionKey → EmissionKey → Prop where
  | same (key : EmissionKey) : Collides key key
  | failures {one two : Int} (digits : decimal one = decimal two) :
      Collides (.failed one) (.failed two)
  | checkpoints {one two : Int} (digits : decimal one = decimal two) :
      Collides (.checkpoint one) (.checkpoint two)
  | attempts {event : AttemptEvent} {node other one two : Str}
      (joined : node ++ ":" ++ one = other ++ ":" ++ two) :
      Collides (.attempt event node one) (.attempt event other two)
  -- A command may be named like an attempt of a node, or like a gate.
  | retryOf (node attempt : Str) :
      Collides (.command .retry (node ++ ":" ++ attempt)) (.attempt .retry node attempt)
  | ofRetry (node attempt : Str) :
      Collides (.attempt .retry node attempt) (.command .retry (node ++ ":" ++ attempt))
  | pauseOf (gate : Str) : Collides (.command .paused gate) (.gate .paused gate)
  | ofPause (gate : Str) : Collides (.gate .paused gate) (.command .paused gate)

/-- There are no other ways in which two keys are rendered alike. -/
lemma collides_of_render (same : left.render runId = right.render runId) : Collides left right := by
  obtain ⟨stems, words⟩ := parts_of_render same
  rcases endings_of_words words with same | ⟨one, two, first, second, digits⟩
  · -- With the same ending, the kinds of the keys agree up to the pairs that share a word.
    rcases left with _ | _ | _ | _ | ⟨_ | _ | _ | _, _, _⟩ | ⟨_ | _ | _, _⟩ | ⟨_ | _,
      _⟩ | ⟨_ | _ | _ | _ | _ | _ | _, _⟩ <;>
      rcases right with _ | _ | _ | _ | ⟨_ | _ | _ | _, _, _⟩ | ⟨_ | _ | _, _⟩ | ⟨_ | _, _⟩ |
        ⟨_ | _ | _ | _ | _ | _ | _, _⟩ <;>
      simp only [ending, Sum.inl.injEq, Sum.inr.injEq, reduceCtorEq] at same <;>
      simp only [stem, append_cancel_right_eq] at stems <;>
      first
        | exact .same _
        | (subst stems; constructor)
        | (refine .attempts ?_; exact stems)
        | (refine .failures ?_; exact words)
        | (refine .checkpoints ?_; exact words)
        | exact absurd stems (by decide +kernel)
        | exact absurd stems (by simp [text])
  · -- Two numbers stand behind different stems, unless both are failures or both are checkpoints.
    rcases number_of_ending first with rfl | rfl <;> rcases number_of_ending second with rfl | rfl
    · exact .failures digits
    · exact absurd stems (by simp only [stem]; decide +kernel)
    · exact absurd stems (by simp only [stem]; decide +kernel)
    · exact .checkpoints digits

end EmissionKey

def sideEffectKey (operationId : Str) (revision : Int) : Str :=
  "side-effect:" ++ operationId ++ ":" ++ decimal revision

lemma strip_sideEffectKey (operationId : Str) (revision : Int) :
    strip (sideEffectKey operationId revision) = sideEffectKey operationId revision :=
  @strip_of_word ("side-effect:" ++ operationId ++ ":") _ (by simp [text, isSpace, codePoint])
    (by simp [text]) (isWord_decimal revision)

lemma operation_of_sideEffectKey {one two : Str} {first second : Int}
    (same : sideEffectKey one first = sideEffectKey two second) : one = two := by
  have split : ∀ operationId revision, sideEffectKey operationId revision =
      ("side-effect:" ++ operationId) ++ colonPoint :: decimal revision := fun _ _ => by
    simp [sideEffectKey, text, colonPoint]
  rw [split, split] at same
  exact append_cancel_left (eq_of_last_colon (isWord_decimal first) (isWord_decimal second) same).1

lemma sideEffectKey_ne_render (operationId : Str) (revision : Int) (runId : Str)
    (key : EmissionKey) : sideEffectKey operationId revision ≠ key.render runId := by
  intro same
  have first := congrArg head? same
  simp [sideEffectKey, EmissionKey.render, text, codePoint] at first

end Ananta
