import FlowTemplate.Number.Binary64
import Mathlib.Algebra.Order.Field.Power
import Mathlib.Data.Rat.Cast.Order
import Mathlib.Tactic.Linarith
import Mathlib.Tactic.LinearCombination
import Mathlib.Tactic.NormNum
import Mathlib.Tactic.Positivity
/-!
# The nearest double

A positive ratio is rounded to the double whose neighbourhood it lies in: the reals that are nearer
to the double than to both of its neighbours, with the two ends if the significand is even. Above a
power of two the neighbours are twice as far as below it, so there the neighbourhood is not
symmetric.
-/

namespace FlowTemplate.Binary64

/-- The significand and the exponent of a finite double. -/
structure IsFinite (m : Nat) (q : Int) : Prop where
  fits : m < 2 ^ 53
  least : -1074 ≤ q
  greatest : q ≤ 971
  normal : 2 ^ 52 ≤ m ∨ q = -1074

/-- The distance to the lower end of the neighbourhood, in quarters of the last place. -/
def quartersBelow (m : Nat) (q : Int) : Nat := if m = 2 ^ 52 ∧ -1074 < q then 1 else 2

/-- The ratio lies in the neighbourhood of `m · 2^q`. -/
structure IsNear (x : Rat) (m : Nat) (q : Int) : Prop where
  low : ((4 * m : Rat) - quartersBelow m q) * 2 ^ q ≤ 4 * x
  high : 4 * x ≤ (4 * m + 2) * 2 ^ q
  isOpen : m % 2 = 1 → ((4 * m : Rat) - quartersBelow m q) * 2 ^ q ≠ 4 * x ∧
    4 * x ≠ (4 * m + 2) * 2 ^ q

/-! ## Rounding a quotient -/

/-- A quotient is rounded to the integer it is at most a half away from; if it is a half, to the
even one. -/
theorem roundDiv_eq {num den k : Nat} (hden : 0 < den) (hlow : 2 * k * den ≤ 2 * num + den)
    (hhigh : 2 * num ≤ 2 * k * den + den)
    (htie : 2 * k * den = 2 * num + den ∨ 2 * num = 2 * k * den + den → k % 2 = 0) :
    roundDiv num den = k := by
  have hnum := Nat.div_add_mod num den
  have hmod := Nat.mod_lt num hden
  unfold roundDiv
  generalize num / den = c at *
  generalize num % den = r at *
  have hle : c < k + 1 := Nat.lt_of_mul_lt_mul_left (a := 2 * den) (by linarith)
  have hge : k < c + 2 := Nat.lt_of_mul_lt_mul_left (a := 2 * den) (by linarith)
  simp only [Bool.or_eq_true, Bool.and_eq_true, decide_eq_true_eq, beq_iff_eq]
  obtain hk | hk : k = c ∨ k = c + 1 := by omega
  · subst hk
    have hr : 2 * r ≤ den := by linarith
    have heven : 2 * r = den → k % 2 = 0 := fun h => htie (.inr (by linarith))
    rw [if_neg (by omega)]
  · subst hk
    have hr : den ≤ 2 * r := by linarith
    have heven : 2 * r = den → (c + 1) % 2 = 0 := fun h => htie (.inl (by linarith))
    rw [if_pos (by omega)]

/-! ## Powers of two -/

theorem two_zpow_pos (e : Int) : (0 : Rat) < 2 ^ e := zpow_pos (by norm_num) e

theorem two_zpow_lt {e f : Int} : (2 : Rat) ^ e < 2 ^ f ↔ e < f :=
  zpow_lt_zpow_iff_right₀ (by norm_num)

theorem two_zpow_le {e f : Int} : (2 : Rat) ^ e ≤ 2 ^ f ↔ e ≤ f :=
  zpow_le_zpow_iff_right₀ (by norm_num)

theorem two_zpow_add (e f : Int) : (2 : Rat) ^ (e + f) = 2 ^ e * 2 ^ f :=
  zpow_add₀ (by norm_num) e f

theorem cast_twoTo (n : Nat) : ((twoTo n : Nat) : Rat) = 2 ^ (n : Int) := by
  rw [zpow_natCast, show twoTo n = 2 ^ n from rfl, Nat.cast_pow]
  rfl

/-! ## Neighbourhoods -/

variable {m : Nat} {q : Int} {x : Rat}

/-- Nothing of a neighbourhood is further off than half a unit of the last place. -/
theorem IsNear.halves (h : IsNear x m q) : (2 * m - 1 : Rat) * 2 ^ q ≤ 2 * x ∧
    2 * x ≤ (2 * m + 1) * 2 ^ q := by
  have hquarters : (quartersBelow m q : Rat) ≤ 2 := by
    unfold quartersBelow
    split <;> norm_num
  have hscaled := mul_le_mul_of_nonneg_right hquarters (two_zpow_pos q).le
  exact ⟨by linarith [h.low], by linarith [h.high]⟩

theorem IsNear.halves_ne (h : IsNear x m q) (hodd : m % 2 = 1) :
    (2 * m - 1 : Rat) * 2 ^ q ≠ 2 * x ∧ 2 * x ≠ (2 * m + 1) * 2 ^ q := by
  have hbelow : quartersBelow m q = 2 := if_neg fun heven => by rw [heven.1] at hodd; omega
  obtain ⟨hlow, hhigh⟩ := h.isOpen hodd
  rw [hbelow] at hlow
  refine ⟨fun heq => hlow ?_, fun heq => hhigh ?_⟩
  · push_cast
    linarith
  · linarith

theorem IsNear.pos (h : IsNear x m q) (hm : 0 < m) : 0 < x := by
  have hone : (1 : Rat) ≤ m := by exact_mod_cast hm
  have hscaled := mul_le_mul_of_nonneg_right hone (two_zpow_pos q).le
  linarith [h.halves.1, two_zpow_pos q]

/-! ## The exponent of a ratio -/

variable {num den : Nat}

/-- The two numbers of a scaled ratio are in the ratio divided by the power. -/
theorem scaled_spec (num : Nat) (hden : 0 < den) (e : Int) : 0 < (scaled num den e).2 ∧
    ((scaled num den e).1 : Rat) * 2 ^ e = num / den * (scaled num den e).2 := by
  have hdenRat : (den : Rat) ≠ 0 := by exact_mod_cast hden.ne'
  unfold scaled
  by_cases he : e ≥ 0
  · rw [if_pos he]
    refine ⟨Nat.mul_pos hden (Nat.two_pow_pos _), ?_⟩
    dsimp only
    rw [Nat.cast_mul, cast_twoTo, Int.toNat_of_nonneg he, ← mul_assoc, div_mul_cancel₀ _ hdenRat]
  · rw [if_neg he]
    refine ⟨hden, ?_⟩
    dsimp only
    rw [Nat.cast_mul, cast_twoTo, Int.toNat_of_nonneg (by omega), mul_assoc, ← two_zpow_add,
      Int.add_left_neg, zpow_zero, mul_one, div_mul_cancel₀ _ hdenRat]

/-- The ratio has its leading bit where the lengths of its numbers put it, or one below. -/
theorem ratio_bounds (hnum : 0 < num) (hden : 0 < den) :
    (2 : Rat) ^ ((num.log2 : Int) - den.log2 - 1) < num / den ∧
      (num : Rat) / den < 2 ^ ((num.log2 : Int) - den.log2 + 1) := by
  have hpos : (0 : Rat) < den := by exact_mod_cast hden
  have hnumLow : (2 : Rat) ^ (num.log2 : Int) ≤ num := by
    rw [zpow_natCast]
    exact_mod_cast Nat.log2_self_le hnum.ne'
  have hnumHigh : (num : Rat) < 2 ^ ((num.log2 : Int) + 1) := by
    exact_mod_cast (Nat.lt_log2_self : num < 2 ^ (num.log2 + 1))
  have hdenLow : (2 : Rat) ^ (den.log2 : Int) ≤ den := by
    rw [zpow_natCast]
    exact_mod_cast Nat.log2_self_le hden.ne'
  have hdenHigh : (den : Rat) < 2 ^ ((den.log2 : Int) + 1) := by
    exact_mod_cast (Nat.lt_log2_self : den < 2 ^ (den.log2 + 1))
  constructor
  · rw [lt_div_iff₀ hpos]
    calc (2 : Rat) ^ ((num.log2 : Int) - den.log2 - 1) * den
        < 2 ^ ((num.log2 : Int) - den.log2 - 1) * 2 ^ ((den.log2 : Int) + 1) :=
          mul_lt_mul_of_pos_left hdenHigh (two_zpow_pos _)
      _ = 2 ^ (num.log2 : Int) := by rw [← two_zpow_add]; congr 1; omega
      _ ≤ num := hnumLow
  · rw [div_lt_iff₀ hpos]
    calc (num : Rat) < 2 ^ ((num.log2 : Int) + 1) := hnumHigh
      _ = 2 ^ ((num.log2 : Int) - den.log2 + 1) * 2 ^ (den.log2 : Int) := by
          rw [← two_zpow_add]; congr 1; omega
      _ ≤ 2 ^ ((num.log2 : Int) - den.log2 + 1) * den :=
          mul_le_mul_of_nonneg_left hdenLow (two_zpow_pos _).le

/-- At its exponent the ratio has a significand of fifty-three bits, or fewer at the least one. -/
theorem exponentFor_spec (hnum : 0 < num) (hden : 0 < den) : -1074 ≤ exponentFor num den ∧
    (num : Rat) / den < 2 ^ (exponentFor num den + 53) ∧
    (exponentFor num den = -1074 ∨ (2 : Rat) ^ (exponentFor num den + 52) ≤ num / den) := by
  obtain ⟨hlow, hhigh⟩ := ratio_bounds hnum hden
  unfold exponentFor
  dsimp only
  generalize hguess : (num.log2 : Int) - den.log2 - 52 = guess
  obtain ⟨hpos, hscaled⟩ := scaled_spec num hden guess
  have hposRat : (0 : Rat) < (scaled num den guess).2 := by exact_mod_cast hpos
  -- Whether the whole part has too few bits tells on which side of a power the ratio lies.
  have hwhole : (scaled num den guess).1 / (scaled num den guess).2 < twoTo 52 ↔
      (num : Rat) / den < 2 ^ (guess + 52) := by
    rw [Nat.div_lt_iff_lt_mul hpos, ← Nat.cast_lt (α := Rat), Nat.cast_mul, cast_twoTo,
      ← mul_lt_mul_iff_left₀ (two_zpow_pos guess), hscaled, Int.add_comm, two_zpow_add,
      mul_right_comm, mul_lt_mul_iff_left₀ hposRat]
    rfl
  obtain ⟨e, he, hbelow, habove⟩ : ∃ e : Int,
      (if (scaled num den guess).1 / (scaled num den guess).2 < twoTo 52 then guess - 1
        else guess) = e ∧ (num : Rat) / den < 2 ^ (e + 53) ∧
        (2 : Rat) ^ (e + 52) ≤ num / den := by
    by_cases h : (scaled num den guess).1 / (scaled num den guess).2 < twoTo 52
    · refine ⟨guess - 1, if_pos h, ?_, ?_⟩
      · rw [show guess - 1 + 53 = guess + 52 by omega]
        exact hwhole.mp h
      · rw [show guess - 1 + 52 = (num.log2 : Int) - den.log2 - 1 by omega]
        exact hlow.le
    · refine ⟨guess, if_neg h, ?_, not_lt.mp fun hlt => h (hwhole.mpr hlt)⟩
      rw [show guess + 53 = (num.log2 : Int) - den.log2 + 1 by omega]
      exact hhigh
  rw [he]
  refine ⟨Int.le_max_right _ _, lt_of_lt_of_le hbelow (two_zpow_le.mpr (by omega)), ?_⟩
  rcases Int.le_total e (-1074) with hle | hge
  · exact .inl (Int.max_eq_right hle)
  · rw [Int.max_eq_left hge]
    exact .inr habove

/-! ## Rounding a ratio -/

theorem roundDiv_scaled (num : Nat) (hden : 0 < den) {e : Int} {k : Nat}
    (hlow : (2 * k - 1 : Rat) * 2 ^ e ≤ 2 * (num / den))
    (hhigh : 2 * ((num : Rat) / den) ≤ (2 * k + 1) * 2 ^ e)
    (hopen : k % 2 = 1 → (2 * k - 1 : Rat) * 2 ^ e ≠ 2 * (num / den) ∧
      2 * ((num : Rat) / den) ≠ (2 * k + 1) * 2 ^ e) :
    roundDiv (scaled num den e).1 (scaled num den e).2 = k := by
  obtain ⟨hpos, hscaled⟩ := scaled_spec num hden e
  generalize (scaled num den e).1 = n at *
  generalize (scaled num den e).2 = d at *
  generalize (num : Rat) / den = x at *
  have hd : (0 : Rat) < d := by exact_mod_cast hpos
  have he := two_zpow_pos e
  refine roundDiv_eq hpos ?_ ?_ fun htie => ?_
  · have hmul : (2 * k * d : Rat) * 2 ^ e ≤ (2 * n + d) * 2 ^ e := by
      nlinarith [mul_le_mul_of_nonneg_right hlow hd.le]
    exact_mod_cast le_of_mul_le_mul_right hmul he
  · have hmul : (2 * n : Rat) * 2 ^ e ≤ (2 * k * d + d) * 2 ^ e := by
      nlinarith [mul_le_mul_of_nonneg_right hhigh hd.le]
    exact_mod_cast le_of_mul_le_mul_right hmul he
  · by_contra hk
    obtain ⟨hneLow, hneHigh⟩ := hopen (by omega)
    rcases htie with h | h
    · refine hneLow (mul_right_cancel₀ hd.ne' ?_)
      have hcast : (2 * k * d : Rat) = 2 * n + d := by exact_mod_cast h
      linear_combination (2 ^ e : Rat) * hcast + 2 * hscaled
    · refine hneHigh (mul_right_cancel₀ hd.ne' ?_)
      have hcast : (2 * n : Rat) = 2 * k * d + d := by exact_mod_cast h
      linear_combination (2 ^ e : Rat) * hcast - 2 * hscaled

/-- A ratio near a double has the exponent of the double, or the one below if the double is the
power of two where the exponent changes. -/
theorem exponentFor_of_isNear (hfinite : IsFinite m q) (hnum : 0 < num) (hden : 0 < den)
    (hnear : IsNear (num / den) m q) : exponentFor num den = q ∨
      exponentFor num den = q - 1 ∧ m = 2 ^ 52 ∧ -1074 < q := by
  obtain ⟨hleast, hbelow, habove⟩ := exponentFor_spec hnum hden
  obtain ⟨hlow, hhigh⟩ := hnear.halves
  generalize exponentFor num den = e at *
  generalize (num : Rat) / den = x at *
  have hq := two_zpow_pos q
  have hle : e ≤ q := by
    by_contra hlt
    have hlower := habove.resolve_left (by have := hfinite.least; omega)
    have hpower : (2 : Rat) ^ 53 * 2 ^ q ≤ 2 ^ (e + 52) := by
      rw [← zpow_natCast, ← two_zpow_add]
      exact two_zpow_le.mpr (by push_cast; omega)
    have hfits : (m : Rat) + 1 ≤ 2 ^ 53 := by exact_mod_cast hfinite.fits
    have hscaled := mul_le_mul_of_nonneg_right hfits hq.le
    linarith
  rcases Int.lt_or_eq_of_le hle with hlt | heq
  · have hnormal : 2 ^ 52 ≤ m := hfinite.normal.resolve_right (by omega)
    have hpower : (2 : Rat) ^ (e + 53) ≤ 2 ^ 52 * 2 ^ q := by
      rw [← zpow_natCast (2 : Rat) 52, ← two_zpow_add]
      exact two_zpow_le.mpr (by push_cast; omega)
    have hsmall : (m : Rat) < 2 ^ 52 + 1 := lt_of_mul_lt_mul_right (by linarith) hq.le
    have hmeq : m = 2 ^ 52 := by
      have : m < 2 ^ 52 + 1 := by exact_mod_cast hsmall
      omega
    have hstep : (2 : Rat) ^ (q + 51) < 2 ^ (e + 53) := by
      rw [hmeq] at hlow
      rw [two_zpow_add]
      push_cast at hlow
      linarith
    have := two_zpow_lt.mp hstep
    exact .inr ⟨by omega, hmeq, by omega⟩
  · exact .inl heq

/-- A ratio is rounded to the double it is near. -/
theorem ofRatio_of_isNear (hfinite : IsFinite m q) (hm : 0 < m) (hden : 0 < den)
    (hnear : IsNear (num / den) m q) (negative : Bool) :
    ofRatio negative num den = ofMagnitude negative ((q + 1074).toNat * 2 ^ 52 + m) := by
  have hnum : 0 < num := by
    have hratio := (div_pos_iff_of_pos_right (by exact_mod_cast hden)).mp (hnear.pos hm)
    exact_mod_cast hratio
  have hmagnitude : (exponentFor num den + 1074).toNat * 2 ^ 52 +
      roundDiv (scaled num den (exponentFor num den)).1 (scaled num den (exponentFor num den)).2 =
      (q + 1074).toNat * 2 ^ 52 + m := by
    rcases exponentFor_of_isNear hfinite hnum hden hnear with he | ⟨he, hmeq, hleast⟩
    · rw [he, roundDiv_scaled num hden hnear.halves.1 hnear.halves.2 hnear.halves_ne]
    · -- The ratio lies below the power of two, where a unit of the last place is half as big.
      have hbound := (exponentFor_spec hnum hden).2.1
      have hlow := hnear.low
      have hround := roundDiv_scaled num (e := q - 1) (k := 2 ^ 53) hden
      generalize (num : Rat) / den = x at *
      have hhalf : (2 : Rat) ^ q = 2 * 2 ^ (q - 1) := by
        rw [mul_comm, ← zpow_add_one₀ (by norm_num), Int.sub_add_cancel]
      rw [he, Int.add_comm, two_zpow_add] at hbound
      rw [show quartersBelow m q = 1 from if_pos ⟨hmeq, hleast⟩, hmeq, hhalf] at hlow
      push_cast at hlow hround
      rw [he, hround (by linarith) (by linarith [two_zpow_pos (q - 1)])
        fun hodd => absurd hodd (by decide), hmeq]
      omega
  have hfits : (q + 1074).toNat * 2 ^ 52 + m < 2047 * 2 ^ 52 := by
    have := hfinite.fits
    have := hfinite.least
    have := hfinite.greatest
    omega
  rw [ofRatio, if_neg hnum.ne']
  dsimp only
  rw [show twoTo 52 = 2 ^ 52 from rfl, hmagnitude, if_neg (by omega)]

/-! ## The bits of a double -/

variable {d : Binary64} {negative : Bool}

/-- The sign and the bits below it make up a double. -/
theorem ofMagnitude_isNegative {magnitude : Nat} (h : magnitude = d.bits.toNat % 2 ^ 63) :
    ofMagnitude d.isNegative magnitude = d := by
  have hbits : d.bits.toNat < 2 ^ 64 := d.bits.toNat_lt
  have hsum : (if d.isNegative = true then magnitude + twoTo 63 else magnitude) =
      d.bits.toNat := by
    rw [isNegative, show twoTo 63 = 2 ^ 63 from rfl]
    by_cases hsign : d.bits.toNat ≥ 2 ^ 63
    · rw [if_pos (decide_eq_true hsign)]
      omega
    · rw [decide_eq_false hsign, if_neg Bool.false_ne_true]
      omega
  rw [ofMagnitude, hsum, UInt64.ofNat_toNat]

/-- The parts of a finite double say which double it is. -/
theorem of_kind_eq_finite (h : d.kind = .finite negative m q) :
    IsFinite m q ∧ ofMagnitude negative ((q + 1074).toNat * 2 ^ 52 + m) = d := by
  have hexponent : d.exponentField = d.bits.toNat / 2 ^ 52 % 2 ^ 11 := rfl
  have hfraction : d.fractionField = d.bits.toNat % 2 ^ 52 := rfl
  have hhidden : twoTo 52 = 2 ^ 52 := rfl
  unfold kind at h
  split at h
  · split at h <;> cases h
  · split at h
    · obtain ⟨rfl, rfl, rfl⟩ := Kind.finite.inj h
      exact ⟨⟨by omega, by omega, by omega, .inr rfl⟩, ofMagnitude_isNegative (by omega)⟩
    · obtain ⟨rfl, rfl, rfl⟩ := Kind.finite.inj h
      exact ⟨⟨by omega, by omega, by omega, .inl (by omega)⟩, ofMagnitude_isNegative (by omega)⟩

/-- There is one infinite double of each sign. -/
theorem of_kind_eq_infinite (h : d.kind = .infinite negative) : infinity negative = d := by
  have hexponent : d.exponentField = d.bits.toNat / 2 ^ 52 % 2 ^ 11 := rfl
  have hfraction : d.fractionField = d.bits.toNat % 2 ^ 52 := rfl
  have hhidden : twoTo 52 = 2 ^ 52 := rfl
  unfold kind at h
  split at h
  · split at h
    · obtain rfl := Kind.infinite.inj h
      exact ofMagnitude_isNegative (by omega)
    · cases h
  · split at h <;> cases h

end FlowTemplate.Binary64
