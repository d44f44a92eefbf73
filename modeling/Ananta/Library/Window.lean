import Mathlib

/-! A sliding window over the numbers that have been seen: the highest one, and a bitmap of those
just below it. -/

namespace Ananta

/-- The highest number seen, and a bit for each of the numbers from it downwards. -/
structure Window where
  highest : Int
  bitmap : Nat
  deriving DecidableEq

namespace Window

variable {width : Nat} {seen : Int → Prop} {window : Window} {number : Int}

/-- The window after one more number. -/
def mark (width : Nat) (window : Window) (number : Int) : Window :=
  if window.highest < number then
    let shift := (number - window.highest).toNat
    ⟨number, ((window.bitmap <<< shift) ||| 1) &&& ((1 <<< width) - 1)⟩
  else { window with bitmap := window.bitmap ||| (1 <<< (window.highest - number).toNat) }

/-- The window represents a set of numbers, as far as it is wide. -/
structure Tracks (width : Nat) (seen : Int → Prop) (window : Window) : Prop where
  top : seen window.highest
  most : ∀ number, seen number → number ≤ window.highest
  bits : ∀ offset < width, window.bitmap.testBit offset ↔ seen (window.highest - offset)
  bounded : window.bitmap < 2 ^ width

/-- The first number opens a window. -/
lemma tracks_first (wide : 0 < width) (number : Int) : Tracks width (· = number) ⟨number, 1⟩ where
  top := rfl
  most _ same := same.le
  bits offset _ := by
    rw [Nat.testBit_one_eq_true_iff_self_eq_zero]
    dsimp only
    omega
  bounded := Nat.one_lt_two_pow wide.ne'

/-- Only the numbers that are represented matter. -/
lemma Tracks.congr {other : Int → Prop} (tracks : Tracks width seen window)
    (same : ∀ number, seen number ↔ other number) : Tracks width other window := by
  have equal : seen = other := funext fun number => propext (same number)
  exact equal ▸ tracks

/-- A number within reach of the window is added to what it represents. -/
lemma Tracks.mark (tracks : Tracks width seen window) (near : window.highest - number < width) :
    Tracks width (fun other => seen other ∨ other = number) (window.mark width number) := by
  unfold Window.mark
  split
  · -- The bitmap moves up, so that the new highest number comes to its first place.
    rename_i above
    refine ⟨.inr rfl, ?_, fun offset inside => ?_, ?_⟩
    · rintro other (old | same)
      · exact (tracks.most other old).trans above.le
      · exact same.le
    · dsimp only
      rw [Nat.one_shiftLeft, Nat.testBit_and, Nat.testBit_two_pow_sub_one, decide_eq_true inside,
        Bool.and_true, Nat.testBit_or, Nat.testBit_shiftLeft, Bool.or_eq_true,
          Nat.testBit_one_eq_true_iff_self_eq_zero, Bool.and_eq_true, decide_eq_true_eq]
      have place : offset = 0 ↔ number - (offset : Int) = number := by
        omega
      rw [← place]
      refine or_congr_left ?_
      by_cases reached : (number - window.highest).toNat ≤ offset
      · rw [tracks.bits _ (by omega)]
        have same : window.highest - ((offset - (number - window.highest).toNat : Nat) : Int) =
            number - offset := by
          omega
        rw [same]
        exact and_iff_right reached
      · refine iff_of_false (fun both => reached both.1) fun old => ?_
        have most := tracks.most _ old
        omega
    · rw [Nat.one_shiftLeft]
      exact Nat.and_lt_two_pow _ (Nat.sub_lt (Nat.two_pow_pos width) Nat.one_pos)
  · rename_i below
    refine ⟨.inl tracks.top, ?_, fun offset inside => ?_, ?_⟩
    · rintro other (old | rfl)
      · exact tracks.most other old
      · exact not_lt.mp below
    · dsimp only
      rw [Nat.one_shiftLeft, Nat.testBit_or, Bool.or_eq_true, tracks.bits offset inside,
        Nat.testBit_two_pow, decide_eq_true_eq]
      refine or_congr_right ?_
      omega
    · rw [Nat.one_shiftLeft]
      refine Nat.or_lt_two_pow tracks.bounded (Nat.pow_lt_pow_right (by decide) ?_)
      omega

/-- A window that represents something is not empty. -/
lemma Tracks.pos (tracks : Tracks width seen window) (wide : 0 < width) : 0 < window.bitmap := by
  refine Nat.pos_of_ne_zero fun zero => ?_
  have first := (tracks.bits 0 wide).mpr (by simpa using tracks.top)
  rw [zero, Nat.zero_testBit] at first
  cases first

end Window

end Ananta
