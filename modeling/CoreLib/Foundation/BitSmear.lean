/-
Smearing the set bits of a number to the right.

One stage ors a number with itself shifted; a cascade applies several stages in
order.  `Windowed` says how far a cascade has come: a bit of the result is set when
one of the next bits of the original is.  A cascade rounds up to a power of two exactly
when the original has no gap longer than its reach.  Nothing here fixes a word size or
a particular list of shifts.
-/

import Mathlib

set_option autoImplicit false

namespace CoreLib.Foundation

def smearStage (value shift : Nat) : Nat :=
  value ||| (value >>> shift)

def smear (shifts : List Nat) (value : Nat) : Nat :=
  shifts.foldl smearStage value

theorem le_smearStage (value shift : Nat) : value ≤ smearStage value shift :=
  Nat.left_le_or

theorem smearStage_lt {value bits : Nat} (bounded : value < 2 ^ bits) (shift : Nat) :
    smearStage value shift < 2 ^ bits := by
  have shifted : value >>> shift < 2 ^ bits :=
    Nat.lt_of_le_of_lt (Nat.shiftRight_le value shift) bounded
  exact Nat.or_lt_two_pow bounded shifted

theorem le_smear (shifts : List Nat) (value : Nat) : value ≤ smear shifts value := by
  induction shifts generalizing value with
  | nil => exact Nat.le_refl value
  | cons shift rest ih =>
      exact Nat.le_trans (le_smearStage value shift) (ih (smearStage value shift))

theorem smear_lt {bits : Nat} (shifts : List Nat) {value : Nat} (bounded : value < 2 ^ bits) :
    smear shifts value < 2 ^ bits := by
  induction shifts generalizing value with
  | nil => exact bounded
  | cons shift rest ih => exact ih (smearStage_lt bounded shift)

/-! ### Reach of a cascade -/

theorem testBit_smearStage (value shift position : Nat) :
    (smearStage value shift).testBit position =
      (value.testBit position || value.testBit (shift + position)) := by
  rw [smearStage, Nat.testBit_or, Nat.testBit_shiftRight]

/-- A bit of `smeared` is set exactly when one of the `window` bits of `value` from that
position upwards is. -/
def Windowed (window value smeared : Nat) : Prop :=
  ∀ position, smeared.testBit position = true ↔
    ∃ offset < window, value.testBit (position + offset) = true

theorem Windowed.refl (value : Nat) : Windowed 1 value value := by
  intro position
  constructor
  · intro here
    exact ⟨0, Nat.zero_lt_one, here⟩
  · rintro ⟨offset, near, there⟩
    have zero : offset = 0 := by omega
    subst offset
    exact there

/-- A stage that shifts by no more than the window leaves no gap. -/
theorem Windowed.stage {window value smeared shift : Nat} (windowed : Windowed window value smeared)
    (near : shift ≤ window) : Windowed (window + shift) value (smearStage smeared shift) := by
  intro position
  rw [testBit_smearStage, Bool.or_eq_true, windowed position, windowed (shift + position)]
  constructor
  · rintro (⟨offset, within, here⟩ | ⟨offset, within, there⟩)
    · exact ⟨offset, by omega, here⟩
    · refine ⟨shift + offset, by omega, ?_⟩
      rw [← there]
      congr 1
      omega
  · rintro ⟨offset, within, here⟩
    by_cases close : offset < window
    · exact Or.inl ⟨offset, close, here⟩
    · refine Or.inr ⟨offset - shift, by omega, ?_⟩
      rw [← here]
      congr 1
      omega

/-- No stage shifts by more than the window that the stages before it have reached. -/
def Gapless : Nat → List Nat → Prop
  | _, [] => True
  | window, shift :: rest => shift ≤ window ∧ Gapless (window + shift) rest

theorem Windowed.smear {window value smeared : Nat} {shifts : List Nat}
    (windowed : Windowed window value smeared) (gapless : Gapless window shifts) :
    Windowed (window + shifts.sum) value (smear shifts smeared) := by
  induction shifts generalizing window smeared with
  | nil => exact windowed
  | cons shift rest ih =>
      obtain ⟨near, later⟩ := gapless
      rw [List.sum_cons, ← Nat.add_assoc]
      exact ih (windowed.stage near) later

theorem eq_two_pow_sub_one_iff {bits value : Nat} (bounded : value < 2 ^ bits) :
    value = 2 ^ bits - 1 ↔ ∀ position < bits, value.testBit position = true := by
  constructor
  · intro same position within
    rw [same, Nat.testBit_two_pow_sub_one]
    exact decide_eq_true within
  · intro full
    apply Nat.eq_of_testBit_eq
    intro position
    rw [Nat.testBit_two_pow_sub_one]
    by_cases within : position < bits
    · rw [full position within, decide_eq_true within]
    · have outside : value < 2 ^ position :=
        Nat.lt_of_lt_of_le bounded (Nat.pow_le_pow_right (by decide) (by omega))
      rw [Nat.testBit_lt_two_pow outside, decide_eq_false within]

/-! ### Rounding up to a power of two -/

def IsNextPowerOfTwo (value result : Nat) : Prop :=
  IsLeast {power | Nat.isPowerOfTwo power ∧ value ≤ power} result

/-- Among any `window` positions that start below the length of `value`, one is set. -/
def Dense (window value : Nat) : Prop :=
  ∀ position < value.size, ∃ offset < window, value.testBit (position + offset) = true

theorem isNextPowerOfTwo_size (value : Nat) : IsNextPowerOfTwo (value + 1) (2 ^ value.size) := by
  constructor
  · exact ⟨⟨value.size, rfl⟩, Nat.lt_size_self value⟩
  · intro power member
    obtain ⟨⟨exponent, same⟩, above⟩ := member
    subst power
    exact Nat.pow_le_pow_right (by decide) (Nat.size_le.mpr above)

theorem two_mul_le_of_isPowerOfTwo {smaller larger : Nat} (left : Nat.isPowerOfTwo smaller)
    (right : Nat.isPowerOfTwo larger) (below : smaller < larger) : 2 * smaller ≤ larger := by
  obtain ⟨first, same⟩ := left
  obtain ⟨second, equal⟩ := right
  subst smaller larger
  have exponents : first < second := (Nat.pow_lt_pow_iff_right (by decide)).mp below
  rw [← Nat.pow_succ']
  exact Nat.pow_le_pow_right (by decide) exponents

/-- A number that fits into the window has no gap as long as the window. -/
theorem dense_of_size_le {window value : Nat} (short : value.size ≤ window) :
    Dense window value := by
  intro position within
  have nonzero : value ≠ 0 := by
    intro zero
    rw [zero, Nat.size_zero] at within
    contradiction
  have top := Nat.testBit_log2 nonzero
  have length : value.log2 < value.size := Nat.lt_size.mpr (Nat.log2_self_le nonzero)
  have reach : position ≤ value.log2 := by
    have covered : value < 2 ^ (value.log2 + 1) := Nat.lt_log2_self
    have bounded := Nat.size_le.mpr covered
    omega
  refine ⟨value.log2 - position, by omega, ?_⟩
  rw [Nat.add_sub_cancel' reach]
  exact top

section Rounding

variable {shifts : List Nat} (gapless : Gapless 1 shifts)
include gapless

/-- A cascade fills all positions below the highest bit exactly when no gap is longer
than its reach. -/
theorem smear_full_iff (value : Nat) :
    smear shifts value = 2 ^ value.size - 1 ↔ Dense (1 + shifts.sum) value := by
  have windowed := (Windowed.refl value).smear gapless
  rw [eq_two_pow_sub_one_iff (smear_lt shifts (Nat.lt_size_self value))]
  constructor
  · intro full position within
    exact (windowed position).mp (full position within)
  · intro dense position within
    exact (windowed position).mpr (dense position within)

/-- One more than the smeared value is the next power of two or no power of two at all. -/
theorem isPowerOfTwo_smear_iff (value : Nat) :
    Nat.isPowerOfTwo (smear shifts value + 1) ↔ Dense (1 + shifts.sum) value := by
  rw [← smear_full_iff gapless]
  have upper := smear_lt shifts (Nat.lt_size_self value)
  constructor
  · intro rounded
    obtain ⟨exponent, power⟩ := rounded
    have lower := le_smear shifts value
    have covered : value.size ≤ exponent := Nat.size_le.mpr (by omega)
    have room : 2 ^ value.size ≤ 2 ^ exponent := Nat.pow_le_pow_right (by decide) covered
    omega
  · intro full
    exact ⟨value.size, by omega⟩

theorem isNextPowerOfTwo_smear_iff (value : Nat) :
    IsNextPowerOfTwo (value + 1) (smear shifts value + 1) ↔ Dense (1 + shifts.sum) value := by
  constructor
  · intro next
    exact (isPowerOfTwo_smear_iff gapless value).mp next.1.1
  · intro dense
    have full := (smear_full_iff gapless value).mpr dense
    have filled : smear shifts value + 1 = 2 ^ value.size := by
      have positive := Nat.two_pow_pos value.size
      omega
    rw [filled]
    exact isNextPowerOfTwo_size value

end Rounding

end CoreLib.Foundation
