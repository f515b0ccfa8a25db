import FlowTemplate.Number.Shortest
import FlowTemplate.Proofs.Number.Nearest
import Mathlib.Tactic.Ring
/-!
# The shortest decimal of a double

The decimal that is found for a double lies in the neighbourhood of the double, so it reads back as
the double. A grid that is seventeen places finer than the leading digit always holds one, for it is
finer than the doubles.
-/

namespace FlowTemplate.Binary64

variable {m : Nat} {q : Int}

/-- The number that digits and an exponent stand for. -/
def decimal (n : Nat) (e : Int) : Rat := n * 10 ^ e

/-! ## Powers of ten -/

theorem ten_zpow_pos (e : Int) : (0 : Rat) < 10 ^ e := zpow_pos (by norm_num) e

theorem tenTo_pos (n : Nat) : 0 < tenTo n := Nat.pow_pos (by decide)

/-- Of a power with a negative exponent the other half is the divisor. -/
theorem cast_halves (base : Nat) (hbase : 0 < base) (e : Int) :
    ((Nat.pow base e.toNat : Nat) : Rat) = (base : Rat) ^ e * (Nat.pow base (-e).toNat : Nat) := by
  have hne : (base : Rat) ≠ 0 := by exact_mod_cast hbase.ne'
  have hcast (n : Nat) : ((Nat.pow base n : Nat) : Rat) = (base : Rat) ^ (n : Int) := by
    rw [zpow_natCast, ← Nat.cast_pow]
    rfl
  rw [hcast, hcast, ← zpow_add₀ hne]
  congr 1
  omega

theorem cast_tenTo (e : Int) : (tenTo e.toNat : Rat) = 10 ^ e * tenTo (-e).toNat :=
  cast_halves 10 (by decide) e

/-! ## Neighbourhoods and grids -/

/-- What the numbers of a neighbourhood stand for, over their denominator. -/
theorem rounding_spec (hm : 0 < m) : 0 < (rounding m q).den ∧
    (4 * (rounding m q).value : Rat) = 4 * m * 2 ^ q * (rounding m q).den ∧
    (4 * (rounding m q).low : Rat) = (4 * m - quartersBelow m q) * 2 ^ q * (rounding m q).den ∧
    (4 * (rounding m q).high : Rat) = (4 * m + 2) * 2 ^ q * (rounding m q).den := by
  have hpower : (4 * twoTo (q - 2).toNat : Rat) = 2 ^ q * twoTo (2 - q).toNat := by
    have h := cast_halves 2 (by decide) (q - 2)
    rw [zpow_sub₀ (by norm_num)] at h
    rw [show 2 - q = -(q - 2) by omega]
    change (4 * (Nat.pow 2 (q - 2).toNat : Nat) : Rat) = 2 ^ q * (Nat.pow 2 (-(q - 2)).toNat : Nat)
    rw [h]
    push_cast
    ring
  have hbelow : (if (decide (m = twoTo 52) && decide (q > -1074)) = true then 1 else 2) =
      quartersBelow m q := by
    simp only [quartersBelow, Bool.and_eq_true, decide_eq_true_eq]
    rfl
  have hle : quartersBelow m q ≤ 4 * m := by
    unfold quartersBelow
    split <;> omega
  refine ⟨Nat.two_pow_pos _, ?_, ?_, ?_⟩
  · simp only [rounding]
    push_cast
    linear_combination (4 * m : Rat) * hpower
  · simp only [rounding, hbelow]
    push_cast [Nat.cast_sub hle]
    linear_combination (4 * m - quartersBelow m q : Rat) * hpower
  · simp only [rounding]
    push_cast
    linear_combination (4 * m + 2 : Rat) * hpower

/-- A decimal that counts as one that reads back lies in the neighbourhood. -/
theorem isNear_of_holds (hm : 0 < m) {n : Nat} {e : Int} (h : (rounding m q).holds n e = true) :
    IsNear (decimal n e) m q := by
  obtain ⟨hden, -, hlow, hhigh⟩ := rounding_spec (q := q) hm
  have hclosed : (rounding m q).closed = (m % 2 == 0) := rfl
  generalize rounding m q = r at *
  have hscale : (0 : Rat) < r.den * tenTo (-e).toNat := by
    exact_mod_cast Nat.mul_pos hden (tenTo_pos _)
  have hpoint : ((n * tenTo e.toNat * r.den : Nat) : Rat) =
      decimal n e * (r.den * tenTo (-e).toNat) := by
    rw [decimal]
    push_cast
    rw [cast_tenTo]
    ring
  have hends : (4 * (r.low * tenTo (-e).toNat : Nat) : Rat) =
        (4 * m - quartersBelow m q) * 2 ^ q * (r.den * tenTo (-e).toNat) ∧
      (4 * (r.high * tenTo (-e).toNat : Nat) : Rat) =
        (4 * m + 2) * 2 ^ q * (r.den * tenTo (-e).toNat) := by
    push_cast
    exact ⟨by linear_combination (tenTo (-e).toNat : Rat) * hlow,
      by linear_combination (tenTo (-e).toNat : Rat) * hhigh⟩
  unfold Rounding.holds at h
  dsimp only at h
  generalize hl : r.low * tenTo (-e).toNat = low at *
  generalize hh : r.high * tenTo (-e).toNat = high at *
  generalize n * tenTo e.toNat * r.den = point at *
  have hle : low ≤ point ∧ point ≤ high ∧ (m % 2 = 1 → low ≠ point ∧ point ≠ high) := by
    rw [hclosed] at h
    split at h <;> simp only [Bool.and_eq_true, decide_eq_true_eq, beq_iff_eq] at *
    all_goals omega
  obtain ⟨hlower, hupper, hopen⟩ := hle
  have hlowerRat : (low : Rat) ≤ point := by exact_mod_cast hlower
  have hupperRat : (point : Rat) ≤ high := by exact_mod_cast hupper
  refine ⟨le_of_mul_le_mul_right (a := (r.den * tenTo (-e).toNat : Rat)) (by linarith) hscale,
    le_of_mul_le_mul_right (a := (r.den * tenTo (-e).toNat : Rat)) (by linarith) hscale,
    fun hodd => ⟨fun heq => (hopen hodd).1 ?_, fun heq => (hopen hodd).2 ?_⟩⟩
  · rw [heq] at hends
    have : (low : Rat) = point := by linarith
    exact_mod_cast this
  · rw [← heq] at hends
    have : (point : Rat) = high := by linarith
    exact_mod_cast this

/-- A grid point is the last one that is not above the double. -/
theorem gridFloor_spec (hm : 0 < m) (e : Int) :
    decimal ((rounding m q).gridFloor e) e ≤ m * 2 ^ q ∧
      (m : Rat) * 2 ^ q < decimal ((rounding m q).gridFloor e + 1) e := by
  obtain ⟨hden, hvalue, -, -⟩ := rounding_spec (q := q) hm
  generalize rounding m q = r at *
  have hscale : (0 : Rat) < r.den * tenTo (-e).toNat := by
    exact_mod_cast Nat.mul_pos hden (tenTo_pos _)
  have hstep : ((r.den * tenTo e.toNat : Nat) : Rat) =
      10 ^ e * (r.den * tenTo (-e).toNat) := by
    push_cast
    rw [cast_tenTo]
    ring
  have hwhole : ((r.value * tenTo (-e).toNat : Nat) : Rat) =
      m * 2 ^ q * (r.den * tenTo (-e).toNat) := by
    push_cast
    linear_combination (tenTo (-e).toNat / 4 : Rat) * hvalue
  have hpos : 0 < r.den * tenTo e.toNat := Nat.mul_pos hden (tenTo_pos _)
  have hfloor : ((r.gridFloor e : Nat) : Rat) * (r.den * tenTo e.toNat : Nat) ≤
      (r.value * tenTo (-e).toNat : Nat) := by
    exact_mod_cast Nat.div_mul_le_self _ _
  have habove : ((r.value * tenTo (-e).toNat : Nat) : Rat) <
      (r.gridFloor e + 1 : Nat) * (r.den * tenTo e.toNat : Nat) := by
    have hlt : r.value * tenTo (-e).toNat < (r.gridFloor e + 1) * (r.den * tenTo e.toNat) := by
      rw [Rounding.gridFloor, Nat.mul_comm (_ + 1)]
      exact Nat.lt_mul_div_succ _ hpos
    exact_mod_cast hlt
  rw [hstep, hwhole] at hfloor habove
  rw [decimal, decimal]
  exact ⟨le_of_mul_le_mul_right (by linarith) hscale, lt_of_mul_lt_mul_right (by linarith) hscale.le⟩

/-- A grid reaches down to the double exactly if its step is not above the double. -/
theorem gridFloor_ne_zero_iff (hm : 0 < m) (e : Int) :
    (rounding m q).gridFloor e ≠ 0 ↔ (10 : Rat) ^ e ≤ m * 2 ^ q := by
  obtain ⟨hle, hlt⟩ := gridFloor_spec (q := q) hm e
  generalize (rounding m q).gridFloor e = n at *
  have hstep := ten_zpow_pos e
  rw [decimal] at hle hlt
  constructor
  · intro hn
    have hone : (1 : Rat) ≤ n := by exact_mod_cast Nat.one_le_iff_ne_zero.mpr hn
    have hscaled := mul_le_mul_of_nonneg_right hone hstep.le
    linarith
  · rintro h rfl
    push_cast at hlt
    linarith

/-! ## The search -/

theorem holds_of_onGrid? {r : Rounding} {n : Nat} {e : Int} (h : r.onGrid? e = some n) :
    r.holds n e = true := by
  unfold Rounding.onGrid? at h
  dsimp only at h
  split at h
  · rename_i hlower hupper
    split at h <;> cases h
    · exact hlower
    · exact hupper
  · rename_i hlower hupper
    cases h
    exact hlower
  · rename_i hlower hupper
    cases h
    exact hupper
  · cases h

/-- What is found reads back, or is the last grid point on the finest grid. -/
theorem search_spec (r : Rounding) (steps : Nat) (e : Int) :
    r.holds (r.search steps e).1 (r.search steps e).2 = true ∨
      r.search steps e = (r.gridFloor (e - steps), e - steps) := by
  induction steps generalizing e with
  | zero =>
    refine .inr ?_
    rw [Rounding.search, Int.natCast_zero, Int.sub_zero]
  | succ steps ih =>
    rw [Rounding.search]
    cases hgrid : r.onGrid? e with
    | some n => exact .inl (holds_of_onGrid? hgrid)
    | none =>
      have hsteps : e - 1 - (steps : Int) = e - (steps + 1 : Nat) := by omega
      rw [← hsteps]
      exact ih (e - 1)

/-- Seventeen places behind the leading digit the grid is finer than the doubles. -/
theorem isNear_gridFloor (hfinite : IsFinite m q) (hm : 0 < m) {top : Int}
    (htop : (10 : Rat) ^ top ≤ m * 2 ^ q) :
    IsNear (decimal ((rounding m q).gridFloor (top - 17)) (top - 17)) m q := by
  obtain ⟨hle, hlt⟩ := gridFloor_spec (q := q) hm (top - 17)
  generalize (rounding m q).gridFloor (top - 17) = n at *
  have hq := two_zpow_pos q
  have hstep : (10 : Rat) ^ (top - 17) * 10 ^ 17 = 10 ^ top := by
    rw [← zpow_natCast, ← zpow_add₀ (by norm_num)]
    congr 1
    omega
  have hfits : (m : Rat) * 2 ^ q ≤ 2 ^ 53 * 2 ^ q := by
    refine mul_le_mul_of_nonneg_right ?_ hq.le
    exact_mod_cast hfinite.fits.le
  have hbelow : (1 : Rat) * 2 ^ q ≤ quartersBelow m q * 2 ^ q := by
    refine mul_le_mul_of_nonneg_right ?_ hq.le
    unfold quartersBelow
    split <;> norm_num
  rw [decimal] at hle
  have hlower : (m : Rat) * 2 ^ q - 10 ^ (top - 17) < n * 10 ^ (top - 17) := by
    rw [decimal] at hlt
    push_cast at hlt
    linarith
  rw [decimal]
  exact ⟨by linarith, by linarith, fun _ => ⟨by linarith, by linarith⟩⟩

theorem leading_spec (r : Rounding) (steps : Nat) {e : Int} (h : r.gridFloor e ≠ 0) :
    r.gridFloor (r.leading steps e) ≠ 0 := by
  induction steps generalizing e with
  | zero => exact h
  | succ steps ih =>
    rw [Rounding.leading]
    by_cases hnext : r.gridFloor (e + 1) = 0
    · rw [if_pos hnext]
      exact h
    · rw [if_neg hnext]
      exact ih hnext

/-- The fraction in the guess is a little less than the logarithm of two. -/
theorem powers_around : 10 ^ 1233 ≤ 2 ^ 4096 ∧ 2 ^ 4096 ≤ 10 ^ 1234 := by decide +kernel

/-- A power of two is at least the power of ten of the exponent that is guessed for it. -/
theorem ten_zpow_guess_le {k : Int} (hk : -8192 ≤ k) :
    (10 : Rat) ^ (k * 1233 / 4096 - 2) ≤ 2 ^ k := by
  have hpower (base : Rat) (e : Int) : (base ^ e) ^ 4096 = base ^ (e * 4096) := by
    rw [← zpow_natCast, ← zpow_mul]
    rfl
  refine (pow_le_pow_iff_left₀ (ten_zpow_pos _).le (two_zpow_pos _).le
    (by norm_num : (4096 : Nat) ≠ 0)).mp ?_
  rw [hpower, hpower]
  have hmono {e f : Int} (h : e ≤ f) : (10 : Rat) ^ e ≤ 10 ^ f := zpow_le_zpow_right₀ (by norm_num) h
  have habove : (10 : Rat) ^ 1233 ≤ 2 ^ 4096 := by exact_mod_cast powers_around.1
  have hbelow : (2 : Rat) ^ 4096 ≤ 10 ^ 1234 := by exact_mod_cast powers_around.2
  obtain ⟨n, rfl | rfl⟩ := Int.eq_nat_or_neg k
  · calc (10 : Rat) ^ (((n : Int) * 1233 / 4096 - 2) * 4096)
        ≤ 10 ^ ((1233 * n : Nat) : Int) := hmono (by push_cast; omega)
      _ = (10 ^ 1233) ^ n := by rw [zpow_natCast, pow_mul]
      _ ≤ (2 ^ 4096) ^ n := pow_le_pow_left₀ (by positivity) habove n
      _ = 2 ^ ((4096 * n : Nat) : Int) := by rw [zpow_natCast, pow_mul]
      _ = 2 ^ ((n : Int) * 4096) := by rw [Nat.cast_mul, Int.mul_comm]; rfl
  · calc (10 : Rat) ^ ((-(n : Int) * 1233 / 4096 - 2) * 4096)
        ≤ 10 ^ (-((1234 * n : Nat) : Int)) := hmono (by push_cast; omega)
      _ = ((10 ^ 1234) ^ n)⁻¹ := by rw [zpow_neg, zpow_natCast, pow_mul]
      _ ≤ ((2 ^ 4096) ^ n)⁻¹ :=
        inv_anti₀ (by positivity) (pow_le_pow_left₀ (by positivity) hbelow n)
      _ = 2 ^ (-((4096 * n : Nat) : Int)) := by rw [zpow_neg, zpow_natCast, pow_mul]
      _ = 2 ^ (-(n : Int) * 4096) := by rw [Nat.cast_mul, Int.mul_comm, Int.neg_mul]; rfl

/-- Zeros at the end go into the exponent and leave the number as it is. -/
theorem decimal_trimZeros (steps n : Nat) (e : Int) :
    decimal (trimZeros steps n e).1 (trimZeros steps n e).2 = decimal n e := by
  induction steps generalizing n e with
  | zero => rfl
  | succ steps ih =>
    rw [trimZeros]
    split
    · rename_i h
      simp only [bne_iff_ne, Bool.and_eq_true, beq_iff_eq] at h
      have hn : (n : Rat) = 10 * (n / 10 : Nat) := by
        exact_mod_cast (Nat.mul_div_cancel' (Nat.dvd_of_mod_eq_zero h.2)).symm
      rw [ih, decimal, decimal, hn, zpow_add_one₀ (by norm_num)]
      ring
    · rfl

/-- The shortest decimal of a double lies in its neighbourhood. -/
theorem isNear_shortest (hfinite : IsFinite m q) (hm : 0 < m) :
    IsNear (decimal (shortest m q).1 (shortest m q).2) m q := by
  have hguess : (10 : Rat) ^ (((m.log2 : Int) + q) * 1233 / 4096 - 2) ≤ m * 2 ^ q := by
    refine (ten_zpow_guess_le (by have := hfinite.least; omega)).trans ?_
    rw [two_zpow_add, zpow_natCast]
    refine mul_le_mul_of_nonneg_right ?_ (two_zpow_pos q).le
    exact_mod_cast Nat.log2_self_le hm.ne'
  have htop := (gridFloor_ne_zero_iff hm _).mp
    (leading_spec _ 5 ((gridFloor_ne_zero_iff (q := q) hm _).mpr hguess))
  unfold shortest
  dsimp only
  generalize (rounding m q).leading 5 _ = top at *
  rw [decimal_trimZeros]
  rcases search_spec (rounding m q) 17 top with h | h
  · exact isNear_of_holds hm h
  · rw [h]
    exact isNear_gridFloor hfinite hm htop

/-! ## Reading decimals -/

/-- What is near a double is within the range of doubles. -/
theorem IsNear.in_range {x : Rat} (h : IsNear x m q) (hfinite : IsFinite m q) (hm : 0 < m) :
    (2 : Rat) ^ (-1075 : Int) ≤ x ∧ x ≤ 2 ^ (1024 : Int) := by
  obtain ⟨hlow, hhigh⟩ := h.halves
  have hone : (1 : Rat) * 2 ^ q ≤ (2 * m - 1) * 2 ^ q := by
    have hcast : (1 : Rat) ≤ m := by exact_mod_cast hm
    exact mul_le_mul_of_nonneg_right (by linarith) (two_zpow_pos q).le
  have hfits : (2 * m + 1 : Rat) * 2 ^ q ≤ 2 ^ 54 * 2 ^ q := by
    have hcast : (m : Rat) + 1 ≤ 2 ^ 53 := by exact_mod_cast hfinite.fits
    exact mul_le_mul_of_nonneg_right (by linarith) (two_zpow_pos q).le
  have hleast : (2 : Rat) * 2 ^ (-1075 : Int) ≤ 2 ^ q := by
    rw [mul_comm, ← zpow_add_one₀ (by norm_num)]
    exact two_zpow_le.mpr hfinite.least
  have hgreatest : (2 : Rat) ^ 54 * 2 ^ q ≤ 2 * 2 ^ (1024 : Int) := by
    rw [← zpow_natCast, ← two_zpow_add, mul_comm, ← zpow_add_one₀ (by norm_num)]
    exact two_zpow_le.mpr (by have := hfinite.greatest; push_cast; omega)
  exact ⟨by linarith, by linarith⟩

/-- The reader takes an exponent beyond a bound for an infinity; no decimal in range has one. -/
theorem exponent_le_of_decimal_le {n : Nat} {e : Int} (hn : 0 < n)
    (h : decimal n e ≤ 2 ^ (1024 : Int)) : e ≤ 400 := by
  by_contra he
  have hone : (1 : Rat) ≤ n := by exact_mod_cast hn
  have hbases : (8 : Rat) ^ e ≤ 10 ^ e :=
    zpow_le_zpow_left₀ (by omega) (by norm_num) (by norm_num)
  have height : (8 : Rat) ^ e = 2 ^ (3 * e) := by
    rw [zpow_mul]
    norm_num
  have hlt : (2 : Rat) ^ (1024 : Int) < 2 ^ (3 * e) := two_zpow_lt.mpr (by omega)
  have hscaled := mul_le_mul_of_nonneg_right hone (ten_zpow_pos e).le
  rw [decimal] at h
  linarith

/-- The reader takes an exponent below a bound for a zero; no decimal in range has one. -/
theorem le_exponent_of_le_decimal {n : Nat} {e : Int} (h : (2 : Rat) ^ (-1075 : Int) ≤ decimal n e) :
    -1500 ≤ e + (n.log2 : Int) := by
  by_contra he
  have hlog : (n : Rat) < 2 ^ ((n.log2 : Int) + 1) := by
    exact_mod_cast (Nat.lt_log2_self : n < 2 ^ (n.log2 + 1))
  have hbases : (10 : Rat) ^ e ≤ 2 ^ e := by
    have hflipped : (2 : Rat) ^ (-e) ≤ 10 ^ (-e) :=
      zpow_le_zpow_left₀ (by omega) (by norm_num) (by norm_num)
    have hinverse := inv_anti₀ (two_zpow_pos (-e)) hflipped
    rwa [← zpow_neg, ← zpow_neg, Int.neg_neg] at hinverse
  have hlt : (2 : Rat) ^ ((n.log2 : Int) + 1 + e) < 2 ^ (-1075 : Int) :=
    two_zpow_lt.mpr (by omega)
  have hdecimal : decimal n e ≤ 2 ^ ((n.log2 : Int) + 1 + e) := by
    rw [two_zpow_add, decimal]
    exact mul_le_mul hlog.le hbases (ten_zpow_pos e).le (two_zpow_pos _).le
  linarith

/-- A decimal is read as the double it is near. -/
theorem ofDecimal_of_isNear (hfinite : IsFinite m q) (hm : 0 < m) {n : Nat} {e : Int}
    (hnear : IsNear (decimal n e) m q) (negative : Bool) :
    ofDecimal negative n e = ofMagnitude negative ((q + 1074).toNat * 2 ^ 52 + m) := by
  have hn : 0 < n := by
    have hpos := (mul_pos_iff_of_pos_right (ten_zpow_pos e)).mp (hnear.pos hm)
    exact_mod_cast hpos
  obtain ⟨hlow, hhigh⟩ := hnear.in_range hfinite hm
  have hgreatest := exponent_le_of_decimal_le hn hhigh
  have hleast := le_exponent_of_le_decimal hlow
  rw [ofDecimal, if_neg hn.ne', if_neg (by omega), if_neg (by omega)]
  by_cases he : e ≥ 0
  · rw [if_pos he]
    refine ofRatio_of_isNear hfinite hm Nat.one_pos ?_ negative
    have hratio : ((n * tenTo e.toNat : Nat) : Rat) / (1 : Nat) = decimal n e := by
      rw [decimal, Nat.cast_mul, cast_tenTo, show (-e).toNat = 0 by omega]
      simp [tenTo]
    rwa [hratio]
  · rw [if_neg he]
    refine ofRatio_of_isNear hfinite hm (tenTo_pos _) ?_ negative
    have hratio : (n : Rat) / tenTo (-e).toNat = decimal n e := by
      rw [decimal, cast_tenTo (-e), Int.neg_neg, show e.toNat = 0 by omega, zpow_neg]
      simp [tenTo]
    rwa [hratio]

end FlowTemplate.Binary64
