import Ananta.Python.Text

/-! Chains of shell commands, split into segments and run segment by segment. -/

namespace Ananta

open List

inductive ChainOperator where
  | both
  | either
  | sequence
  deriving DecidableEq

structure CommandChainSegment where
  index : Nat
  raw : Str
  (operatorBefore operatorAfter : Option ChainOperator)
  deriving DecidableEq

/-- The variables of `parse`. -/
structure ChainScan where
  (inSingle inDouble escaped : Bool := false)
  operatorBefore : Option ChainOperator := none
  buffer : Str := []
  segments : List CommandChainSegment := []
  unsupported : List Str := []

def ChainOperator.spelling : ChainOperator → Str
  | .both => "&&"
  | .either => "||"
  | .sequence => ";"

/-- The operator that a text starts with. -/
def operatorAt (rest : Str) : Option ChainOperator :=
  [.both, .either, .sequence].find? fun operator : ChainOperator => operator.spelling <+: rest

/-- The unsupported token that a text without an operator at its start starts with. -/
def unsupportedAt (rest : Str) : Option Str :=
  ["<<", "|", "&", "`", "$(", "$\x7b"].map text |>.find? (· <+: rest)

namespace ChainScan

variable (scan : ChainScan)

def push (char : CodePoint) : ChainScan := { scan with buffer := scan.buffer ++ [char] }

def note (rest : Str) : ChainScan :=
  { scan with unsupported := scan.unsupported ++
    (unsupportedAt rest).toList.filter (· ∉ scan.unsupported) }

/-- The segment that ends before an operator, or before the end of the text. -/
def segment (operatorAfter : Option ChainOperator) : CommandChainSegment :=
  ⟨scan.segments.length + 1, strip scan.buffer, scan.operatorBefore, operatorAfter⟩

/-- An operator ends a segment, or raises the unsupported tokens so far where there is none. -/
def close (operator : ChainOperator) : Except (List Str) ChainScan :=
  if strip scan.buffer = [] then .error scan.unsupported
  else .ok { scan with
    buffer := [], operatorBefore := some operator,
    segments := scan.segments ++ [scan.segment operator] }

/-- One turn of the loop, which also tells whether it consumes a second character. -/
def step (char : CodePoint) (rest : Str) : Except (List Str) (ChainScan × Bool) :=
  if scan.escaped then .ok ({ scan.push char with escaped := false }, false)
  else if char = codePoint '\\' ∧ ¬ scan.inSingle
    then .ok ({ scan.push char with escaped := true }, false)
  else if char = codePoint '\'' ∧ ¬ scan.inDouble
    then .ok ({ scan.push char with inSingle := ¬ scan.inSingle }, false)
  else if char = codePoint '"' ∧ ¬ scan.inSingle
    then .ok ({ scan.push char with inDouble := ¬ scan.inDouble }, false)
  else if scan.inSingle ∨ scan.inDouble then .ok (scan.push char, false)
  else match operatorAt (char :: rest) with
    | none => .ok ((scan.note (char :: rest)).push char, false)
    | some operator => (scan.close operator).map fun next => (next, operator ≠ .sequence)

/-- The loop, which may have to pass over the second character of an operator. -/
def run : ChainScan → Bool → Str → Except (List Str) ChainScan
  | scan, _, [] => .ok scan
  | scan, true, _ :: rest => run scan false rest
  | scan, false, char :: rest => match scan.step char rest with
    | .error unsupported => .error unsupported
    | .ok (next, two) => run next two rest

end ChainScan

section

-- What running a segment gives, if anything, and whether the preflight allows it.
variable (exit : CommandChainSegment → Option Int) (allows : CommandChainSegment → Bool)

/-- The operator before a segment makes it depend on whether what was run before has succeeded. -/
def CommandChainSegment.skipped (segment : CommandChainSegment) (succeeded : Bool) : Bool :=
  segment.operatorBefore = some .both ∧ ¬ succeeded ∨ segment.operatorBefore = some .either ∧
    succeeded

end

/-- Segments that are joined by operators, the first of them to what comes before. -/
def Joined : Option ChainOperator → List CommandChainSegment → Prop
  | _, [] => True
  | before, segment :: rest => segment.operatorBefore = before ∧
      (segment.operatorAfter = none ↔ rest = []) ∧ Joined segment.operatorAfter rest

/-- The segments found so far, followed by any that go on from there, are joined. -/
def ChainScan.Open (scan : ChainScan) : Prop :=
  ∀ rest ≠ [], Joined scan.operatorBefore rest → Joined none (scan.segments ++ rest)

lemma ChainScan.Open.step {scan next : ChainScan} (joined : scan.Open) {char : CodePoint}
    {rest : Str} {two : Bool} (done : scan.step char rest = .ok (next, two)) : next.Open := by
  unfold ChainScan.step at done
  split_ifs at done
  iterate 5 exact (Prod.mk.inj (Except.ok.inj done)).1 ▸ joined
  split at done
  · exact (Prod.mk.inj (Except.ok.inj done)).1 ▸ joined
  · unfold ChainScan.close at done
    split at done <;> cases done
    intro rest more goesOn
    rw [append_assoc]
    exact joined _ (cons_ne_nil _ _) ⟨rfl, by simp [ChainScan.segment, more], goesOn⟩

lemma ChainScan.Open.run {scan last : ChainScan} {skip : Bool} {rest : Str} (joined : scan.Open)
    (done : scan.run skip rest = .ok last) : last.Open := by
  induction rest generalizing scan skip with
  | nil => exact Except.ok.inj done ▸ joined
  | cons char rest ih =>
    cases skip with
    | true => exact ih joined done
    | false =>
      rw [ChainScan.run] at done
      split at done
      · cases done
      · exact ih (joined.step ‹_›) done

variable {exit : CommandChainSegment → Option Int}

end Ananta
