import Ananta.Library.Call
import Ananta.Python.Json

/-! Which values have a JSON text, and that this text can be encoded. -/

namespace Ananta.Value

mutual

/-- A value of finite floats and encodable strings, without foreign objects. -/
def Plain : Value → Prop
  | .none | .bool _ | .int _ => True
  | .float value => value.IsFinite
  | .str value => Encodable value
  | .list items | .tuple items => PlainItems items
  | .dict fields => PlainFields fields
  | .object _ => False

def PlainItems : List Value → Prop
  | [] => True
  | item :: rest => item.Plain ∧ PlainItems rest

def PlainFields : Fields → Prop
  | [] => True
  | (key, value) :: rest => Encodable key ∧ value.Plain ∧ PlainFields rest

end

lemma isSurrogate_hexDigit : ∀ value < 16, isSurrogate (hexDigit value) = false := by
  decide

/-- Escaping keeps a text encodable. -/
lemma encodable_quote {value : Str} (encodable : Encodable value) : Encodable (quote value) := by
  -- Each code point becomes a literal escape, a numeric escape, or itself.
  have escaped : ∀ point ∈ value, Encodable (escapePoint point) := by
    intro point member
    unfold escapePoint
    split_ifs with _ _ _ _ _ _ _ control
    all_goals first | exact encodable_text _ | skip
    · simp [isSurrogate_hexDigit (point.val / 16) (by omega),
        isSurrogate_hexDigit (point.val % 16) (Nat.mod_lt _ (by decide))]
    · simp [encodable point member]
  simp [quote, encodable_flatMap escaped]

/-- Separating encodable parts by commas gives an encodable text. -/
lemma encodable_commaSeparated {parts : List Str} (each : ∀ part ∈ parts, Encodable part) :
    Encodable (commaSeparated parts) := by
  induction parts with
  | nil => simp [commaSeparated]
  | cons part rest ih =>
    have first := each part (by simp)
    have others := ih fun other member => each other (by simp [member])
    cases rest with
    | nil => simpa [commaSeparated] using first
    | cons next rest => simp [commaSeparated, first, others]

/-- Rendered fields are written when every key and every rendered value is encodable. -/
lemma objectText_ok {fields : List (Str × Except JsonFault Str)}
    (each : ∀ field ∈ fields, Encodable field.1 ∧ ∃ body, field.2 = .ok body ∧ Encodable body) :
    ∃ rendered, objectText fields = .ok rendered ∧ Encodable rendered := by
  -- Sorting permutes the fields, so each sorted field is one of the given ones.
  have sorted : ∀ field ∈ sortFields fields,
      Encodable field.1 ∧ ∃ body, field.2 = .ok body ∧ Encodable body := fun field member =>
    each field ((List.perm_insertionSort _ fields).mem_iff.mp member)
  suffices parts : ∀ entries : List (Str × Except JsonFault Str),
      (∀ field ∈ entries, Encodable field.1 ∧ ∃ body, field.2 = .ok body ∧ Encodable body) →
      ∃ parts, (entries.mapM fun entry => do
          let body ← entry.2
          return quote entry.1 ++ ":" ++ body : Except JsonFault (List Str)) = .ok parts ∧
        ∀ part ∈ parts, Encodable part by
    obtain ⟨parts, written, encodable⟩ := parts _ sorted
    refine ⟨"\x7b" ++ commaSeparated parts ++ "\x7d", ?_, ?_⟩
    · simp only [objectText, written]
      rfl
    · simp [encodable_commaSeparated encodable]
  intro entries
  induction entries with
  | nil => exact fun _ => ⟨[], rfl, by simp⟩
  | cons field rest ih =>
    intro every
    obtain ⟨key, outcome⟩ := field
    obtain ⟨encodableKey, body, rfl, encodableBody⟩ := every (key, outcome) (by simp)
    obtain ⟨parts, written, encodable⟩ := ih fun other member => every other (by simp [member])
    refine ⟨(quote key ++ ":" ++ body) :: parts, ?_, ?_⟩
    · simp only [List.mapM_cons, written]
      rfl
    · simp only [List.mem_cons, forall_eq_or_imp]
      exact ⟨by simp [encodable_quote encodableKey, encodableBody], encodable⟩

mutual

/-- A plain value has an encodable JSON text. -/
lemma dumps_plain : ∀ {value : Value}, value.Plain → ∃ rendered, value.dumps = .ok rendered ∧
    Encodable rendered
  | .none, _ => ⟨_, rfl, encodable_text _⟩
  | .bool value, _ => ⟨_, rfl, by cases value <;> exact encodable_text _⟩
  | .int value, _ => ⟨_, rfl, encodable_text _⟩
  | .float value, plain => by
    obtain ⟨rendered, written⟩ :=
      Option.isSome_iff_exists.mp ((Float64.finiteText_isSome value).mpr plain)
    exact ⟨rendered, by simp only [dumps, written], Float64.encodable_finiteText written⟩
  | .str value, plain => ⟨_, rfl, encodable_quote plain⟩
  | .list items, plain | .tuple items, plain => by
    obtain ⟨parts, written, encodable⟩ := dumpsItems_plain plain
    refine ⟨"[" ++ commaSeparated parts ++ "]", ?_, by simp [encodable_commaSeparated encodable]⟩
    simp only [dumps, written]
    rfl
  | .dict fields, plain => by
    simp only [dumps]
    exact objectText_ok (dumpsFields_plain plain)

/-- Plain items have encodable JSON texts. -/
lemma dumpsItems_plain : ∀ {items : List Value}, PlainItems items →
    ∃ parts, dumpsItems items = .ok parts ∧ ∀ part ∈ parts, Encodable part
  | [], _ => ⟨[], rfl, by simp⟩
  | item :: rest, plain => by
    obtain ⟨rendered, written, encodable⟩ := dumps_plain plain.1
    obtain ⟨parts, others, every⟩ := dumpsItems_plain plain.2
    refine ⟨rendered :: parts, ?_, by simpa using ⟨encodable, every⟩⟩
    simp only [dumpsItems, written, others]
    rfl

lemma dumpsFields_plain : ∀ {fields : Fields}, PlainFields fields →
    ∀ field ∈ dumpsFields fields, Encodable field.1 ∧ ∃ body, field.2 = .ok body ∧ Encodable body
  | [], _ => by simp [dumpsFields]
  | (key, value) :: rest, plain => by
    simp only [dumpsFields, List.mem_cons, forall_eq_or_imp]
    exact ⟨⟨plain.1, dumps_plain plain.2.1⟩, dumpsFields_plain plain.2.2⟩

end

/-- A string whose literal can be encoded can be encoded itself. -/
lemma encodable_of_quote {value : Str} (encodable : Encodable (quote value)) : Encodable value := by
  simp only [quote, encodable_append] at encodable
  -- Surrogates are not among the escaped code points, so they would stand in the literal.
  intro point member
  by_contra surrogate
  rw [Bool.not_eq_false] at surrogate
  have large : 0xD800 ≤ point.val := by
    simp only [isSurrogate, decide_eq_true_eq] at surrogate
    omega
  have itself : escapePoint point = [point] := by
    have differs : ∀ other : CodePoint, other.val < 0xD800 → point ≠ other := by
      rintro other small rfl
      omega
    simp only [escapePoint, differs _ (show (codePoint '"').val < 0xD800 by decide),
      differs _ (show (codePoint '\\').val < 0xD800 by decide),
      differs _ (show (codePoint '\n').val < 0xD800 by decide),
      differs _ (show (codePoint '\r').val < 0xD800 by decide),
      differs _ (show (codePoint '\t').val < 0xD800 by decide), if_false]
    rw [if_neg (by omega), if_neg (by omega), if_neg (by omega)]
  have written : point ∈ value.flatMap escapePoint :=
    List.mem_flatMap.mpr ⟨point, member, by simp [itself]⟩
  rw [encodable.1.2 point written] at surrogate
  cases surrogate

/-- Each part stands in the separated text. -/
lemma sublist_commaSeparated {parts : List Str} {part : Str} (member : part ∈ parts) :
    part.Sublist (commaSeparated parts) := by
  induction parts with
  | nil => cases member
  | cons first rest ih =>
    cases rest with
    | nil =>
      rw [List.mem_singleton.mp member]
      exact List.Sublist.refl _
    | cons next others =>
      simp only [commaSeparated, List.append_assoc]
      grind

/-- The parts that a list of fields was rendered to. -/
lemma parts_of_mapM {fields : List (Str × Except JsonFault Str)} {parts : List Str}
    (written : (fields.mapM fun (key, rendered) => do
      let body ← rendered
      return quote key ++ ":" ++ body : Except JsonFault (List Str)) = .ok parts) :
    ∀ field ∈ fields, ∃ body, field.2 = .ok body ∧ quote field.1 ++ ":" ++ body ∈ parts := by
  induction fields generalizing parts with
  | nil => simp
  | cons first rest ih =>
    simp only [List.mapM_cons, ok_iff] at written
    grind

/-- An encodable object text has encodable keys and values. -/
lemma encodable_of_objectText {fields : List (Str × Except JsonFault Str)} {rendered : Str}
    (written : objectText fields = .ok rendered) (encodable : Encodable rendered) :
    ∀ field ∈ fields, Encodable field.1 ∧ ∃ body, field.2 = .ok body ∧ Encodable body := by
  simp only [objectText, ok_iff] at written
  obtain ⟨parts, mapped, rfl⟩ := written
  simp only [encodable_append] at encodable
  -- Sorting permutes the fields, so each given field was written.
  intro field member
  obtain ⟨body, same, listed⟩ :=
    parts_of_mapM mapped field ((List.perm_insertionSort _ _).mem_iff.mpr member)
  have part := encodable.1.2.sublist (sublist_commaSeparated listed)
  simp only [encodable_append] at part
  exact ⟨encodable_of_quote part.1.1, body, same, part.2⟩

mutual

/-- A value with an encodable JSON text is plain. -/
lemma plain_of_dumps : ∀ {value : Value} {rendered : Str}, value.dumps = .ok rendered →
    Encodable rendered → value.Plain
  | .none, _, _, _ | .bool _, _, _, _ | .int _, _, _, _ => trivial
  | .float value, _, written, _ => by
    simp only [dumps] at written
    split at written
    · rename_i found
      exact (Float64.finiteText_isSome value).mp (by rw [found]; rfl)
    · cases written
  | .str _, _, written, encodable => by
    cases written
    exact encodable_of_quote encodable
  | .list items, _, written, encodable | .tuple items, _, written, encodable => by
    simp only [dumps, ok_iff] at written
    obtain ⟨parts, mapped, rfl⟩ := written
    simp only [encodable_append] at encodable
    exact plainItems_of_dumps mapped fun part listed =>
      encodable.1.2.sublist (sublist_commaSeparated listed)
  | .dict fields, _, written, encodable => by
    simp only [dumps] at written
    exact plainFields_of_dumps (encodable_of_objectText written encodable)
  | .object _, _, written, _ => by cases written

/-- Items with encodable JSON texts are plain. -/
lemma plainItems_of_dumps : ∀ {items : List Value} {parts : List Str},
    dumpsItems items = .ok parts → (∀ part ∈ parts, Encodable part) → PlainItems items
  | [], _, _, _ => trivial
  | item :: rest, _, written, encodable => by
    simp only [dumpsItems, ok_iff] at written
    obtain ⟨first, rendered, others, mapped, rfl⟩ := written
    exact ⟨plain_of_dumps rendered (encodable _ List.mem_cons_self),
      plainItems_of_dumps mapped fun part listed => encodable part (List.mem_cons_of_mem _ listed)⟩

/-- Fields rendered to encodable texts are plain. -/
lemma plainFields_of_dumps : ∀ {fields : Fields},
    (∀ field ∈ dumpsFields fields, Encodable field.1 ∧ ∃ body, field.2 = .ok body ∧
      Encodable body) →
    PlainFields fields
  | [], _ => trivial
  | (key, value) :: rest, each => by
    simp only [dumpsFields, List.forall_mem_cons] at each
    obtain ⟨⟨encodable, body, written, rendered⟩, others⟩ := each
    exact ⟨encodable, plain_of_dumps written rendered, plainFields_of_dumps others⟩

end

end Ananta.Value
