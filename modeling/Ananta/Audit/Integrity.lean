import Ananta.Library.Machine
import Ananta.Python.Text

/-! The audit log: a chain of digests that shows every change of a row, as long as the row keeps a
digest. -/

namespace Ananta

open Option List

/-- What a row is about. -/
structure AuditContent (δ : Type) where
  (username ip action : Str)
  details : δ

structure AuditRow (δ η : Type) where
  id : Nat
  content : AuditContent δ
  prevHash : Option η
  recordHash : Option η

/-- A call of `log_audit` under the name and address of its request, and whether the database takes
the row. -/
structure AuditCall (δ : Type) where
  content : AuditContent δ
  saved : Bool

/-- What `integrity_report` returns. -/
structure IntegrityReport where
  checkedRecords : Nat
  tamperEvidentOk : Bool
  (mismatchedPrevHashIds invalidRecordHashIds legacyUnhashedIds : List Nat)

section

variable {δ η : Type} [DecidableEq η] (hash : AuditContent δ → Option η → η)

/-- The digest of the last of some rows, in the order of their ids. -/
def lastHash (rows : List (AuditRow δ η)) : Option η := rows.getLast?.bind (·.recordHash)

omit [DecidableEq η] in
/-- The table after `log_audit`, whose digest covers the details and the digest of the row
before. -/
def logAudit (rows : List (AuditRow δ η)) (call : AuditCall δ) : List (AuditRow δ η) :=
  if call.saved then
    let prevHash := lastHash rows
    rows ++ [⟨(rows.getLast?.map (·.id)).getD 0 + 1, call.content, prevHash,
      some (hash call.content prevHash)⟩]
  else rows

/-- The calls as a machine. -/
def auditLog : Machine (List (AuditRow δ η)) (AuditCall δ) Unit where
  initial := []
  step rows call := ((), logAudit hash rows call)

/-- The digests in front of each row and behind the last one. -/
def links (rows : List (AuditRow δ η)) : List (Option η) := none :: rows.map (·.recordHash)

/-- `AuditLogRepository.integrity_report` -/
def integrityReport (limit : Int) (table : List (AuditRow δ η)) : IntegrityReport :=
  let rows := table.take (max 1 (min limit 20000)).toNat
  let mismatched := ((links rows).zip rows).filter fun pair => pair.2.prevHash ≠ pair.1
  let invalid := rows.filter fun row => ∃ digest ∈ row.recordHash,
    digest ≠ hash row.content row.prevHash
  { checkedRecords := rows.length
    tamperEvidentOk := mismatched = [] ∧ invalid = []
    mismatchedPrevHashIds := mismatched.map (·.2.id)
    invalidRecordHashIds := invalid.map (·.id)
    legacyUnhashedIds := (rows.filter fun row => row.recordHash = none).map (·.id) }

omit [DecidableEq η] in
/-- Every row names the digest in front of it. -/
def Linked (rows : List (AuditRow δ η)) : Prop :=
  ∀ (index : Nat) (row : AuditRow δ η), rows[index]? = some row →
    (links rows)[index]? = some row.prevHash

omit [DecidableEq η] in
/-- What holds of a log that was only appended to. -/
structure Sealed (rows : List (AuditRow δ η)) : Prop where
  linked : Linked rows
  hashed : ∀ row ∈ rows, row.recordHash = some (hash row.content row.prevHash)
  distinct : (links rows).Nodup

omit [DecidableEq η] in
def DigestsDiffer : Prop := ∀ {content other prev before}, hash content prev = hash other before →
    content = other ∧ prev = before

variable {hash} {rows altered : List (AuditRow δ η)} {limit : Int}

lemma report_ok_iff : (integrityReport hash limit altered).tamperEvidentOk = true ↔
    Linked (altered.take (max 1 (min limit 20000)).toNat) ∧
      ∀ row ∈ altered.take (max 1 (min limit 20000)).toNat,
      ∀ digest ∈ row.recordHash, digest = hash row.content row.prevHash := by
  unfold integrityReport Linked
  generalize altered.take _ = rows
  have first : ∀ (index : Nat) (row : AuditRow δ η), rows[index]? = some row →
      (links rows)[index]?.isSome := by
    intro index row found
    have within := (List.getElem?_eq_some_iff.mp found).1
    simp [links]
    omega
  simp only [decide_eq_true_eq, filter_eq_nil_iff, List.mem_iff_getElem?, getElem?_zip_eq_some,
    Prod.forall]
  refine and_congr ⟨fun linked index row found => ?_, fun linked previous row pair => ?_⟩ (by simp)
  · obtain ⟨previous, before⟩ := isSome_iff_exists.mp (first index row found)
    have same := linked previous row ⟨index, before, found⟩
    simp_all
  · obtain ⟨index, before, found⟩ := pair
    simp_all

omit [DecidableEq η] in
/-- One more row is linked to the last one, and its digest is new. -/
lemma Sealed.logAudit (free : DigestsDiffer hash) (sound : Sealed hash rows) (call : AuditCall δ) :
    Sealed hash (logAudit hash rows call) := by
  unfold Ananta.logAudit
  split
  · have last : (links rows)[rows.length]? = some (lastHash rows) := by
      rcases eq_nil_or_concat rows with rfl | ⟨earlier, last, rfl⟩ <;> simp [links, lastHash]
    have longer : ∀ row, links (rows ++ [row]) = links rows ++ [row.recordHash] :=
      fun row => by simp [links]
    refine ⟨fun index row found => ?_, ?_, ?_⟩
    · have within := (List.getElem?_eq_some_iff.mp found).1
      rw [length_append, length_singleton] at within
      rw [longer, getElem?_append_left (by simp [links]; omega)]
      rcases Nat.lt_succ_iff_lt_or_eq.mp within with earlier | rfl
      · rw [getElem?_append_left earlier] at found
        exact sound.linked index row found
      · rw [getElem?_concat_length] at found
        cases found
        exact last
    · rw [forall_mem_append, forall_mem_singleton]
      exact ⟨sound.hashed, rfl⟩
    · -- Its digest covers the last one, which no earlier row covers.
      rw [longer, ← concat_eq_append]
      refine List.Nodup.concat (fun member => ?_) sound.distinct
      rcases mem_cons.mp member with none | listed
      · cases none
      · obtain ⟨row, stored, same⟩ := mem_map.mp listed
        rw [sound.hashed row stored] at same
        obtain ⟨index, found⟩ := List.mem_iff_getElem?.mp stored
        have before := sound.linked index row found
        rw [(free (some.inj same)).2, ← last] at before
        have within := (List.getElem?_eq_some_iff.mp found).1
        have equal := (getElem?_inj (by simp [links]; omega) sound.distinct).mp before
        omega
  · exact sound

omit [DecidableEq η] in
/-- Rows whose digests are taken from the log and fit their contents are those of the log, in its
order. -/
lemma Sealed.contents (free : DigestsDiffer hash) (sound : Sealed hash rows)
    (linked : Linked altered)
    (fits : ∀ row ∈ altered, row.recordHash = some (hash row.content row.prevHash) ∧
      ∃ original ∈ rows, row.recordHash = original.recordHash) (index : Nat) :
    ∀ row, altered[index]? = some row → ∃ original, rows[index]? = some original ∧
      row.content = original.content ∧ row.recordHash = original.recordHash := by
  -- A digest that covers the digest in front of a row is that of the row.
  have agree : ∀ {index : Nat} {row}, altered[index]? = some row →
      (links rows)[index]? = some row.prevHash →
      ∃ original, rows[index]? = some original ∧ row.content = original.content ∧
        row.recordHash = original.recordHash := by
    intro index row found front
    obtain ⟨digest, original, stored, same⟩ := fits row (mem_of_getElem? found)
    obtain ⟨content, prev⟩ :=
      free (some.inj (digest.symm.trans (same.trans (sound.hashed original stored))))
    obtain ⟨place, there⟩ := List.mem_iff_getElem?.mp stored
    have before := sound.linked place original there
    rw [← prev, ← front] at before
    have within := (List.getElem?_eq_some_iff.mp there).1
    rw [(getElem?_inj (by simp [links]; omega) sound.distinct).mp before] at there
    exact ⟨original, there, content, same⟩
  induction index with
  | zero => exact fun row found => agree found (linked 0 row found)
  | succ index ih =>
    intro row found
    have within := (List.getElem?_eq_some_iff.mp found).1
    obtain ⟨original, stored, _, same⟩ := ih _ (getElem?_eq_getElem (Nat.lt_of_succ_lt within))
    refine agree found (Eq.trans ?_ (linked _ row found))
    simp [links, stored, ← same, Nat.lt_of_succ_lt within]

omit [DecidableEq η] in
lemma Linked.take (linked : Linked rows) (count : Nat) : Linked (rows.take count) := by
  intro index row found
  rw [getElem?_take, ite_none_right_eq_some] at found
  obtain ⟨within, stored⟩ := found
  have cut : links (rows.take count) = (links rows).take (count + 1) := by simp [links, map_take]
  rw [cut, getElem?_take_of_lt (by omega)]
  exact linked index row stored

omit [DecidableEq η] in
/-- The first of the rows without a digest, with nothing but contents of the log in front of it, or
only such contents. -/
lemma Sealed.contents_prefix (free : DigestsDiffer hash) (sound : Sealed hash rows)
    (linked : Linked altered)
    (fits : ∀ row ∈ altered, ∀ digest ∈ row.recordHash, digest = hash row.content row.prevHash)
    (taken : ∀ row ∈ altered, row.recordHash ∈ links rows) :
    altered.map (·.content) <+: rows.map (·.content) ∨ ∃ index row, altered[index]? = some row ∧
      row.recordHash = none ∧ (altered.take index).map (·.content) <+: rows.map (·.content) := by
  -- Rows that all have a digest are the first ones of the log.
  have whole : ∀ count, (∀ row ∈ altered.take count, row.recordHash ≠ none) →
      (altered.take count).map (·.content) <+: rows.map (·.content) := by
    intro count hashed
    have contents := sound.contents free (linked.take count) (fun row stored => ?_)
    · refine prefix_iff_getElem?.mpr fun index within => ?_
      rw [length_map] at within
      obtain ⟨original, found, content, _⟩ := contents index _ (getElem?_eq_getElem within)
      simp [found, ← content]
    · obtain ⟨digest, same⟩ := ne_none_iff_exists'.mp (hashed row stored)
      have member := mem_of_mem_take stored
      refine ⟨same.trans (congrArg some (fits row member digest same)), ?_⟩
      rcases mem_cons.mp (taken row member) with missing | listed
      · exact absurd missing (hashed row stored)
      · obtain ⟨original, found, equal⟩ := mem_map.mp listed
        exact ⟨original, found, equal.symm⟩
  rcases found : altered.findIdx? (·.recordHash.isNone) with _ | index
  · have all := findIdx?_eq_none_iff.mp found
    have begins := whole altered.length fun row stored missing => by
      have hashed := all row (mem_of_mem_take stored)
      simp [missing] at hashed
    rw [take_length] at begins
    exact Or.inl begins
  · obtain ⟨within, missing, earlier⟩ := findIdx?_eq_some_iff_getElem.mp found
    refine Or.inr ⟨index, _, getElem?_eq_getElem within, isNone_iff_eq_none.mp missing,
      whole index ?_⟩
    intro row stored absent
    obtain ⟨place, there⟩ := List.mem_iff_getElem?.mp stored
    rw [getElem?_take, ite_none_right_eq_some] at there
    obtain ⟨before, there⟩ := there
    obtain ⟨_, rfl⟩ := List.getElem?_eq_some_iff.mp there
    exact earlier place before (isNone_iff_eq_none.mpr absent)

/-- An untouched log passes the check, and a change of its contents fails it, unless a row that the
log reaches has no digest any more; in front of the first such row the contents are those of the
log. -/
theorem audit_log_tamper_evident (free : DigestsDiffer hash) (calls : List (AuditCall δ))
    (limit : Int) (covers : (((auditLog hash).after [] calls).length : Int) ≤
      max 1 (min limit 20000)) :
    let log := (auditLog hash).after [] calls
    (integrityReport hash limit log).tamperEvidentOk = true ∧
      ∀ altered : List (AuditRow δ η), log.length ≤ altered.length →
        (∀ row ∈ altered, ∀ digest, digest = row.recordHash ∨ digest = row.prevHash →
          digest = none ∨ ∃ original ∈ log, digest = original.recordHash ∨
            digest = original.prevHash) →
        ¬ log.map (·.content) <+: altered.map (·.content) →
        (integrityReport hash limit altered).tamperEvidentOk = false ∨
          ∃ index < log.length, ∃ row, altered[index]? = some row ∧ row.recordHash = none ∧
            (altered.take index).map (·.content) <+: log.map (·.content) := by
  intro log
  have sound : Sealed hash log :=
    (auditLog hash).after_of_step (Sealed hash) (fun rows call sound => sound.logAudit free call)
    calls [] ⟨nofun, nofun, nodup_singleton _⟩
  change (log.length : Int) ≤ _ at covers
  refine ⟨report_ok_iff.mpr ?_, fun altered long taken differ => ?_⟩
  · rw [take_of_length_le (by omega)]
    refine ⟨sound.linked, fun row stored digest found => ?_⟩
    rw [sound.hashed row stored] at found
    exact (some.inj found).symm
  · rw [Classical.or_iff_not_imp_left, Bool.not_eq_false, report_ok_iff]
    rintro ⟨linked, fits⟩
    have short : (altered.take (max 1 (min limit 20000)).toNat).take log.length =
        altered.take log.length := by
      rw [take_take, min_eq_left (by omega)]
    have linkedFront := linked.take log.length
    rw [short] at linkedFront
    have front := sound.contents_prefix free linkedFront
      (fun row stored => fits row (mem_of_mem_take (short ▸ stored)))
      (fun row stored => ?_)
    · rcases front with begins | ⟨index, row, found, missing, begins⟩
      · refine absurd ?_ differ
        have equal := begins.eq_of_length (by simp; omega)
        rw [← equal, map_take]
        exact take_prefix _ _
      · rw [getElem?_take, ite_none_right_eq_some] at found
        obtain ⟨within, stored⟩ := found
        rw [take_take, min_eq_left within.le] at begins
        exact ⟨index, within, row, stored, missing, begins⟩
    · -- Also a digest that the log only has as that of the row before is one of its own.
      rcases taken row (mem_of_mem_take stored) _ (Or.inl rfl)
        with none | ⟨original, found, same | same⟩
      · rw [none]
        exact mem_cons_self
      · rw [same]
        exact mem_cons_of_mem _ (mem_map_of_mem found)
      · obtain ⟨index, there⟩ := List.mem_iff_getElem?.mp found
        rw [same]
        exact mem_of_getElem? (sound.linked index original there)

end

/-- Digests without collisions: what they cover. -/
inductive Seal where
  | first (username ip action : Str)
  | next (username ip action : Str) (prev : Seal)
  deriving DecidableEq

def sealOf (content : AuditContent Unit) : Option Seal → Seal
  | none => .first content.username content.ip content.action
  | some prev => .next content.username content.ip content.action prev

lemma sealOf_free : DigestsDiffer sealOf := by
  rintro ⟨_, _, _, _⟩ ⟨_, _, _, _⟩ (_ | prev) (_ | before) same <;> simp_all [sealOf]

/-- The deletion of a user, as a call of `log_audit`. -/
def deletion : AuditCall Unit := ⟨⟨"admin", "10.0.0.1", "user_deleted", ()⟩, true⟩

/-- The row of the call with another action. -/
def forgery : AuditRow Unit Seal :=
  ⟨1, ⟨"admin", "10.0.0.1", "login", ()⟩, none, some (sealOf deletion.content none)⟩

/-- The changed row fails the check. -/
theorem audit_log_tamper_evident_forged :
    (integrityReport sealOf 5000 [forgery]).tamperEvidentOk = false := by
  refine ((audit_log_tamper_evident sealOf_free [deletion] 5000 (by decide)).2 [forgery]
    (by decide) ?_ ?_).resolve_right ?_
  · rintro row stored digest taken
    rw [mem_singleton.mp stored] at taken
    exact taken.elim (fun digest => Or.inr ⟨_, mem_singleton_self _, Or.inl digest⟩) Or.inl
  · rintro ⟨rest, same⟩
    have action : some (text "user_deleted") = some (text "login") :=
      congrArg (fun rows => rows.head?.map (·.action)) same
    exact absurd action (by decide)
  · rintro ⟨index, within, row, found, missing, _⟩
    rw [mem_singleton.mp (mem_of_getElem? found)] at missing
    cases missing

/-- Without its digests the changed row passes the check. -/
theorem unhashed_row_accepted :
    (auditLog sealOf).after [] [deletion] =
      [⟨1, deletion.content, none, some (sealOf deletion.content none)⟩] ∧
    (integrityReport sealOf 5000 [{ forgery with recordHash := none }]).tamperEvidentOk = true ∧
    forgery.content ≠ deletion.content := by
  refine ⟨rfl, by decide, fun same => ?_⟩
  have := congrArg AuditContent.action same
  revert this
  decide

end Ananta
