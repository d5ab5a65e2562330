import BuildHost.Number.Binary64
import Mathlib.Algebra.Order.Ring.Nat

/-!
# Counting in floating point

Every natural number up to `2 ^ 53` is a number of the format (`toNat?_ofNat`),
and adding one to such a number gives the next of them, except that counting
ends at `2 ^ 53` (`mulAdd_one_ofNat`).
-/

namespace BuildHost
namespace Binary64

/-! ## Powers of two -/

theorem log2_mul_two_pow {n : Nat} (hn : n ≠ 0) (k : Nat) :
    (n * 2 ^ k).log2 = n.log2 + k := by
  have hbounds := (Nat.log2_eq_iff hn).1 rfl
  have hexponent : n.log2 + k + 1 = n.log2 + 1 + k := by omega
  rw [Nat.log2_eq_iff (Nat.mul_ne_zero hn (Nat.two_pow_pos k).ne'), hexponent,
    Nat.pow_add, Nat.pow_add]
  constructor
  · exact Nat.mul_le_mul_right _ hbounds.1
  · exact Nat.mul_lt_mul_of_pos_right hbounds.2 (Nat.two_pow_pos k)

/-! ## Rounding quotients -/

theorem roundDiv_mul_right (num den : Nat) {c : Nat} (hc : 0 < c) :
    roundDiv (num * c) (den * c) = roundDiv num den := by
  have htwice : 2 * (num % den * c) = 2 * (num % den) * c := by
    rw [Nat.mul_assoc]
  unfold roundDiv
  simp only [Nat.mul_div_mul_right _ _ hc, Nat.mul_mod_mul_right, htwice,
    Nat.mul_lt_mul_right hc]

theorem roundDiv_one (num : Nat) : roundDiv num 1 = num := by
  unfold roundDiv
  simp only [Nat.div_one, Nat.mod_one]
  rfl

theorem ofRatio_mul_two_pow (negative : Bool) (num k : Nat) :
    ofRatio negative (num * 2 ^ k) (2 ^ k) = ofRatio negative num 1 := by
  have hpow := Nat.two_pow_pos k
  unfold ofRatio
  -- the powers of the format are never evaluated
  generalize 1074 = e
  simp only [Nat.pow_eq]
  have hleast := (Nat.two_pow_pos e).ne'
  generalize 2 ^ e = least at hleast ⊢
  by_cases hnum : num = 0
  · rw [if_pos hnum, hnum, Nat.zero_mul, if_pos rfl]
  have hscaled : num * 2 ^ k * least = num * least * 2 ^ k :=
    Nat.mul_right_comm _ _ _
  have hguess : (num * least * 2 ^ k).log2 - (2 ^ k).log2
      = (num * least).log2 - Nat.log2 1 := by
    have hone : Nat.log2 1 = 0 := by decide
    rw [log2_mul_two_pow (Nat.mul_ne_zero hnum hleast), Nat.log2_two_pow, hone]
    omega
  have hbelow : ∀ guess, num * least * 2 ^ k < 2 ^ k * 2 ^ guess ↔
      num * least < 1 * 2 ^ guess := by
    intro guess
    rw [Nat.mul_comm (2 ^ k), Nat.mul_lt_mul_right hpow, Nat.one_mul]
  have hround : ∀ scale, roundDiv (num * least * 2 ^ k) (2 ^ k * 2 ^ scale)
      = roundDiv (num * least) (1 * 2 ^ scale) := by
    intro scale
    rw [Nat.mul_comm (2 ^ k), roundDiv_mul_right _ _ hpow, Nat.one_mul]
  rw [if_neg (Nat.mul_ne_zero hnum hpow.ne'), if_neg hnum]
  simp only [hscaled, hguess, hbelow, hround]

/-! ## Natural numbers -/

/-- A natural number is rounded at the scale of its first bit. -/
theorem ofNat_eq {n L : Nat} (hn : 2 ^ L ≤ n) (hlt : n < 2 ^ (L + 1)) :
    ofNat n = ofParts false (roundDiv (n * 2 ^ 52) (2 ^ L)) (L + 1022) := by
  have hne : n ≠ 0 := (Nat.lt_of_lt_of_le (Nat.two_pow_pos L) hn).ne'
  have hone : Nat.log2 1 = 0 := by decide
  rw [ofNat, ofRatio, if_neg hne]
  generalize he : 1074 = e
  simp only [Nat.pow_eq]
  have hscaled : (n * 2 ^ e).log2 = L + e := by
    rw [log2_mul_two_pow hne, (Nat.log2_eq_iff hne).2 ⟨hn, hlt⟩]
  have hguess : ¬ n * 2 ^ e < 1 * 2 ^ (L + e) := by
    rw [Nat.one_mul, Nat.pow_add, Nat.not_lt]
    exact Nat.mul_le_mul_right _ hn
  have hscale : L + e - 52 = L + (e - 52) := by omega
  have hround : roundDiv (n * 2 ^ e) (1 * 2 ^ (L + (e - 52)))
      = roundDiv (n * 2 ^ 52) (2 ^ L) := by
    have hleast : 2 ^ e = 2 ^ 52 * 2 ^ (e - 52) := by
      rw [← Nat.pow_add]
      congr 1
      omega
    rw [hleast, ← Nat.mul_assoc, Nat.one_mul, Nat.pow_add,
      roundDiv_mul_right _ _ (Nat.two_pow_pos _)]
  simp only [hscaled, hone, Nat.sub_zero, if_neg hguess, hscale, hround]
  rw [← he]

/-- A number of 53 bits is held as it is. -/
theorem toNat?_ofParts {m scale n : Nat} (hm : fractionSize ≤ m)
    (hlt : m < 2 * fractionSize) (hscale : scale < 2046)
    (hn : m * 2 ^ (scale - 1074) = n * 2 ^ (1074 - scale)) :
    (ofParts false m scale).toNat? = some n := by
  have hparts : ofParts false m scale
      = ⟨false, Fin.ofNat _ (scale + 1), Fin.ofNat _ (m - fractionSize)⟩ := by
    rw [ofParts, if_neg (Nat.not_lt.2 hm), if_neg (Nat.ne_of_lt hlt)]
    simp only
    rw [if_pos (by omega)]
  have hexponent : (Fin.ofNat 2048 (scale + 1)).val = scale + 1 :=
    Nat.mod_eq_of_lt (by omega)
  have hfraction : (Fin.ofNat 0x10000000000000 (m - fractionSize)).val
      = m - fractionSize :=
    Nat.mod_eq_of_lt (by unfold fractionSize at *; omega)
  have hne : Fin.ofNat 2048 (scale + 1) ≠ 0 := by
    intro hzero
    have hval := congrArg Fin.val hzero
    rw [hexponent] at hval
    exact Nat.succ_ne_zero _ hval
  have hfinite : Fin.ofNat 2048 (scale + 1) ≠ 2047 := by
    intro htop
    have hval : scale + 1 = 2047 := by
      rw [← hexponent, htop]
      rfl
    omega
  have hratio : (ofParts false m scale).ratio
      = (n * 2 ^ (1074 - scale), 2 ^ (1074 - scale)) := by
    rw [hparts, ratio, significand, Binary64.scale, if_neg hne, if_neg hne,
      hexponent, hfraction, Nat.pow_eq, Nat.pow_eq, Nat.add_sub_cancel, ← hn,
      Nat.add_sub_cancel' hm]
  have hwhole : (ofParts false m scale).isFinite = true ∧
      (ofParts false m scale).negative = false := by
    rw [hparts]
    exact ⟨decide_eq_true hfinite, rfl⟩
  rw [toNat?, hratio, hwhole.1, hwhole.2,
    Nat.mul_div_cancel _ (Nat.two_pow_pos _)]
  exact if_pos (decide_eq_true (Nat.mul_mod_left _ _))

theorem toNat?_zero : (zero false).toNat? = some 0 := by
  have hratio : (zero false).ratio.1 = 0 := Nat.zero_mul _
  rw [toNat?, hratio, Nat.zero_mod, Nat.zero_div]
  rfl

/-- The natural numbers of the format that lie one beside the other. -/
theorem toNat?_ofNat {n : Nat} (h : n ≤ 2 * fractionSize) :
    (ofNat n).toNat? = some n := by
  by_cases hzero : n = 0
  · rw [hzero, ofNat, ofRatio, if_pos rfl]
    exact toNat?_zero
  have hbounds := (Nat.log2_eq_iff hzero).1 rfl
  rw [ofNat_eq hbounds.1 hbounds.2]
  by_cases hlog : n.log2 ≤ 52
  · -- all bits fit, and those that are left are zeros
    have hpow : 2 ^ 52 = 2 ^ (52 - n.log2) * 2 ^ n.log2 := by
      rw [← Nat.pow_add, Nat.sub_add_cancel hlog]
    have hsize : fractionSize = 2 ^ n.log2 * 2 ^ (52 - n.log2) := by
      rw [Nat.mul_comm, ← hpow]
      rfl
    have hround : roundDiv (n * 2 ^ 52) (2 ^ n.log2)
        = n * 2 ^ (52 - n.log2) := by
      have hscaled :=
        roundDiv_mul_right (n * 2 ^ (52 - n.log2)) 1 (Nat.two_pow_pos n.log2)
      rw [Nat.one_mul, roundDiv_one] at hscaled
      rw [hpow, ← Nat.mul_assoc, hscaled]
    have hexponent : 1074 - (n.log2 + 1022) = 52 - n.log2 := by omega
    have hleast : n.log2 + 1022 - 1074 = 0 := Nat.sub_eq_zero_of_le (by omega)
    rw [hround]
    apply toNat?_ofParts
    · rw [hsize]
      exact Nat.mul_le_mul_right _ hbounds.1
    · have hdouble : 2 * fractionSize
          = 2 ^ (n.log2 + 1) * 2 ^ (52 - n.log2) := by
        rw [hsize, Nat.add_comm n.log2, Nat.pow_add, Nat.mul_assoc]
      rw [hdouble]
      exact Nat.mul_lt_mul_of_pos_right hbounds.2 (Nat.two_pow_pos _)
    · omega
    · rw [hexponent, hleast]
      exact Nat.mul_one _
  · -- the last of them has one bit more, and that is a zero
    obtain rfl : n = 2 * fractionSize := by
      have hlower : 2 ^ 53 ≤ n :=
        Nat.le_trans (Nat.pow_le_pow_right (by decide) (by omega)) hbounds.1
      exact Nat.le_antisymm h hlower
    have hlast : (2 * fractionSize).log2 = 53 :=
      (Nat.log2_eq_iff (by decide)).2 ⟨by decide, by decide⟩
    have hround : roundDiv (2 * fractionSize * 2 ^ 52) (2 ^ 53)
        = fractionSize := by
      decide
    rw [hlast, hround]
    exact toNat?_ofParts (Nat.le_refl _) (by decide) (by decide) (by decide)

/-- The first natural number that is no number of the format is rounded down. -/
theorem ofNat_saturated :
    ofNat (2 * fractionSize + 1) = ofNat (2 * fractionSize) := by
  have hround : roundDiv ((2 * fractionSize + 1) * 2 ^ 52) (2 ^ 53)
      = roundDiv (2 * fractionSize * 2 ^ 52) (2 ^ 53) := by
    decide
  rw [ofNat_eq (L := 53) (by decide) (by decide), hround,
    ← ofNat_eq (L := 53) (by decide) (by decide)]

/-- One more than a natural number, rounded. -/
theorem mulAdd_one {x : Binary64} {n : Nat} (h : x.toNat? = some n) :
    x.mulAdd 1 1 = ofNat (n + 1) := by
  rw [toNat?] at h
  split at h
  next hwhole =>
    rw [Bool.and_eq_true, Bool.and_eq_true, decide_eq_true_iff] at hwhole
    have hnum : x.ratio.1 = n * x.ratio.2 := by
      rw [← Option.some_inj.1 h,
        Nat.div_mul_cancel (Nat.dvd_of_mod_eq_zero hwhole.2)]
    have hsum : x.ratio.1 * 1 + 1 * x.ratio.2 = (n + 1) * x.ratio.2 := by
      rw [hnum, Nat.mul_one, ← Nat.add_mul]
    rw [mulAdd, if_pos hwhole.1.1, hsum]
    exact ofRatio_mul_two_pow false (n + 1) _
  next => cases h

/-- The number that is counted behind `n`; counting ends where the numbers of
the format do. -/
def countOn (n : Nat) : Nat :=
  min (n + 1) (2 * fractionSize)

theorem mulAdd_one_ofNat {n : Nat} (h : n ≤ 2 * fractionSize) :
    (ofNat n).mulAdd 1 1 = ofNat (countOn n) := by
  rw [mulAdd_one (toNat?_ofNat h), countOn]
  by_cases hlast : n = 2 * fractionSize
  · rw [hlast, ofNat_saturated, Nat.min_eq_right (Nat.le_succ _)]
  · rw [Nat.min_eq_left (by omega)]

end Binary64
end BuildHost
