import FlowTemplate.Document.Atom
import Mathlib.Tactic.Linarith
/-!
# Whole numbers

A double without a fraction is equal to one integer, and compares with other integers as that one
does.
-/

namespace FlowTemplate

theorem twoTo_pos (n : Nat) : (0 : Int) < twoTo n := by
  exact_mod_cast Nat.two_pow_pos n

namespace Quantity

/-- A finite number and an integer over one exponent. -/
theorem align_ofInt (m q i : Int) :
    align m q i 0 = (m * twoTo q.toNat, i * twoTo (-q).toNat) := by
  rw [align]
  rcases Int.le_total q 0 with hq | hq
  · rw [Int.min_eq_left hq, Int.sub_self, Int.zero_sub, show q.toNat = 0 by omega]
    rfl
  · rw [Int.min_eq_right hq, Int.sub_self, Int.sub_zero, show (-q).toNat = 0 by omega]
    rfl

/-- A number that is equal to an integer compares with integers as that one does. -/
theorem lt_ofInt_iff {x : Quantity} {i : Int} (h : x.eq (.ofInt i) = true) (n : Int) :
    x.lt (.ofInt n) = true ↔ i < n := by
  cases x with
  | nan => cases h
  | infinite negative => cases h
  | finite m q =>
    have hpos := twoTo_pos (-q).toNat
    simp only [Quantity.eq, Quantity.lt, ofInt, align_ofInt, beq_iff_eq, decide_eq_true_eq] at h ⊢
    rw [h]
    exact ⟨fun hlt => lt_of_mul_lt_mul_right hlt hpos.le,
      fun hlt => mul_lt_mul_of_pos_right hlt hpos⟩

theorem eq_ofInt (i j : Int) : (ofInt i).eq (.ofInt j) = true ↔ i = j := by
  simp [Quantity.eq, ofInt, align_ofInt, twoTo]

end Quantity

/-- A double has no fraction exactly if it is equal to an integer. -/
theorem Binary64.isInteger_iff (x : Binary64) :
    x.isInteger = true ↔ ∃ i, (Quantity.ofBinary64 x).eq (.ofInt i) = true := by
  rw [isInteger, toInt?, parts?, Quantity.ofBinary64]
  cases x.kind with
  | nan => simp [Quantity.eq]
  | infinite negative => simp [Quantity.eq, Quantity.ofInt]
  | finite negative m q =>
    simp only [Quantity.eq, Quantity.ofInt, Quantity.align_ofInt, beq_iff_eq]
    generalize (if negative = true then -(m : Int) else m) = n
    by_cases hq : q ≥ 0
    · rw [if_pos hq, show (-q).toNat = 0 by omega]
      simp [twoTo]
    · have hone : n * (twoTo q.toNat : Int) = n := by
        rw [show q.toNat = 0 by omega]
        exact Int.mul_one n
      have hdivides : n % (twoTo (-q).toNat : Int) = 0 ↔ ∃ i, n = i * twoTo (-q).toNat := by
        rw [← Int.dvd_iff_emod_eq_zero]
        exact dvd_iff_exists_eq_mul_left
      rw [if_neg hq, hone, ← hdivides]
      by_cases hn : n % (twoTo (-q).toNat : Int) = 0 <;> simp [hn]

end FlowTemplate
