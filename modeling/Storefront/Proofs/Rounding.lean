import Mathlib.Data.Int.Log
import Mathlib.Data.Rat.Floor
import Mathlib.Tactic.FieldSimp
import Mathlib.Tactic.Linarith
import Mathlib.Tactic.NormNum
import Mathlib.Tactic.Positivity
import Storefront.Number.Binary64

/-!
# When the nearest double is infinite

Doubles are computed in natural numbers; what they are nearest to is a rational number. A quotient
is rounded to an infinity exactly if it lies at least half a unit above the greatest double: the tie
at that very place would go to an even significand, which is one that no double has. The bound is
the same for decimals, of which those far away are not even turned into quotients.

## Main definitions

* `Binary64.overflow` — the least number that no finite double is nearest to
* `Decimal.value` — the number that a finite decimal writes

## Main results

* `floorLog2_eq_log` — the exponent of a quotient is its logarithm
* `succ_le_roundHalfEven_iff` — which quotients are rounded up from an odd number
* `Binary64.ofRatio_of_lt_overflow`, `Binary64.ofRatio_of_overflow_le` — which quotients become
  infinite
* `Binary64.ofScientific_of_lt_overflow`, `Binary64.ofScientific_of_overflow_le` — and which
  decimals do
-/

namespace Storefront

/-! ### Powers with a sign in the exponent -/

/-- A power with an integer exponent as a quotient of two powers with natural ones. -/
theorem pow_toNat_div_pow_toNat {b : ℚ} (exponent : ℤ) :
    b ^ exponent.toNat / b ^ (-exponent).toNat = b ^ exponent := by
  obtain ⟨n, rfl | rfl⟩ := exponent.eq_nat_or_neg
  · simp
  · simp

theorem two_zpow_le_iff {q : ℚ} (pos : 0 < q) (k : ℤ) : (2 : ℚ) ^ k ≤ q ↔ k ≤ Int.log 2 q := by
  exact_mod_cast Int.zpow_le_iff_le_log (b := 2) (by decide) pos

theorem lt_two_zpow_iff {q : ℚ} (pos : 0 < q) (k : ℤ) : q < (2 : ℚ) ^ k ↔ Int.log 2 q < k := by
  exact_mod_cast Int.lt_zpow_iff_log_lt (b := 2) (by decide) pos

/-- The absolute value of a finite double. -/
theorem Binary64.ratio_eq_value (significand : Nat) (exponent : ℤ) :
    ((ratio significand exponent).1 / (ratio significand exponent).2 : ℚ) =
      significand * 2 ^ exponent := by
  unfold ratio
  rw [← pow_toNat_div_pow_toNat, Nat.pow_eq, Nat.pow_eq]
  push_cast
  rw [mul_div_assoc]

section Ratio

variable {num den : Nat}

/-- How many units of a power of two a quotient has. -/
theorem ratio_div_zpow (exponent : ℤ) :
    ((num * Nat.pow 2 (-exponent).toNat : ℕ) / (den * Nat.pow 2 exponent.toNat : ℕ) : ℚ) =
      num / den / 2 ^ exponent := by
  rw [← pow_toNat_div_pow_toNat, div_div_div_eq, Nat.pow_eq, Nat.pow_eq]
  push_cast
  rfl

/-- A quotient is at least a power of two when the natural numbers say so that it is compared by. -/
theorem pow_le_ratio_iff (pos : 0 < den) (k : ℤ) :
    den * Nat.pow 2 k.toNat ≤ num * Nat.pow 2 (-k).toNat ↔ (2 : ℚ) ^ k ≤ num / den := by
  have two : (0 : ℚ) < 2 ^ (-k).toNat := by positivity
  have pos : (0 : ℚ) < den := by exact_mod_cast pos
  rw [← pow_toNat_div_pow_toNat, div_le_div_iff₀ two pos, Nat.pow_eq, Nat.pow_eq, mul_comm den]
  exact_mod_cast Iff.rfl

/-- The exponent of a quotient is its logarithm. -/
theorem floorLog2_eq_log (hn : 0 < num) (hd : 0 < den) :
    floorLog2 num den = Int.log 2 (num / den : ℚ) := by
  have num_pos : (0 : ℚ) < num := by exact_mod_cast hn
  have den_pos : (0 : ℚ) < den := by exact_mod_cast hd
  have ratio_pos : (0 : ℚ) < num / den := by positivity
  -- Either number lies between two powers of two, and so does the quotient.
  have num_le : (2 : ℚ) ^ num.log2 ≤ num := by exact_mod_cast Nat.log2_self_le hn.ne'
  have lt_num : (num : ℚ) < 2 ^ (num.log2 + 1) := by exact_mod_cast Nat.lt_log2_self
  have den_le : (2 : ℚ) ^ den.log2 ≤ den := by exact_mod_cast Nat.log2_self_le hd.ne'
  have lt_den : (den : ℚ) < 2 ^ (den.log2 + 1) := by exact_mod_cast Nat.lt_log2_self
  have lower : (2 : ℚ) ^ ((num.log2 : ℤ) - den.log2 - 1) ≤ num / den := by
    have split : (2 : ℚ) ^ ((num.log2 : ℤ) - den.log2 - 1) = 2 ^ num.log2 / 2 ^ (den.log2 + 1) := by
      rw [sub_sub, zpow_sub₀ two_ne_zero]
      norm_cast
    rw [split]
    exact div_le_div₀ num_pos.le num_le den_pos lt_den.le
  have upper : (num / den : ℚ) < 2 ^ ((num.log2 : ℤ) - den.log2 + 1) := by
    have split : (2 : ℚ) ^ ((num.log2 : ℤ) - den.log2 + 1) = 2 ^ (num.log2 + 1) / 2 ^ den.log2 := by
      rw [sub_add_eq_add_sub, zpow_sub₀ two_ne_zero]
      norm_cast
    rw [split]
    exact div_lt_div₀ lt_num den_le (by positivity) (by positivity)
  have above := (two_zpow_le_iff ratio_pos _).1 lower
  have below := (lt_two_zpow_iff ratio_pos _).1 upper
  unfold floorLog2
  dsimp only
  split
  next reached =>
    have reached := (two_zpow_le_iff ratio_pos _).1 ((pow_le_ratio_iff hd _).1 reached)
    omega
  next missed =>
    rw [pow_le_ratio_iff hd, not_le, lt_two_zpow_iff ratio_pos] at missed
    omega

/-! ### Rounded quotients -/

/-- What does not exceed a natural number does not exceed it when rounded. -/
theorem roundHalfEven_le_of_le {n : Nat} (pos : 0 < den) (le : num ≤ den * n) :
    roundHalfEven num den ≤ n := by
  have near := roundHalfEven_le num den
  -- One more would be further off than the half unit by which rounding moves a quotient.
  by_contra above
  have next : den * (n + 1) ≤ den * roundHalfEven num den :=
    Nat.mul_le_mul_left den (Nat.not_le.1 above)
  rw [Nat.mul_add] at next
  omega

/-- From an odd number a quotient is rounded up when it lies at least half a unit above, since a tie
goes to the even one. -/
theorem succ_le_roundHalfEven_iff {n : Nat} (odd : n % 2 = 1) (pos : 0 < den) :
    n + 1 ≤ roundHalfEven num den ↔ den * (2 * n + 1) ≤ 2 * num := by
  have division := Nat.div_add_mod num den
  have small := Nat.mod_lt num pos
  rcases Nat.lt_trichotomy (num / den) n with less | same | greater
  · -- Below the odd number nothing is rounded beyond it.
    have far : den * (num / den + 1) ≤ den * n := Nat.mul_le_mul_left den less
    have stays : roundHalfEven num den ≤ n := by
      refine roundHalfEven_le_of_le pos ?_
      rw [Nat.mul_add] at far
      omega
    rw [Nat.mul_add] at far
    rw [Nat.mul_add, Nat.mul_left_comm]
    omega
  · -- Here the rest decides, and a tie goes up to the even number.
    unfold roundHalfEven
    dsimp only
    rw [same] at division ⊢
    rw [Nat.mul_add, Nat.mul_left_comm]
    split
    · omega
    · split <;> omega
  · have near : den * (n + 1) ≤ den * (num / den) := Nat.mul_le_mul_left den greater
    have beyond : n + 1 ≤ roundHalfEven num den := by
      unfold roundHalfEven
      dsimp only
      split
      · omega
      · split <;> omega
    rw [Nat.mul_add] at near
    rw [Nat.mul_add, Nat.mul_left_comm]
    omega

end Ratio

/-- The number that a finite decimal writes; for what is not finite it is zero. -/
def Decimal.value : Decimal → ℚ
  | .finite negative coefficient exponent =>
    (if negative then -1 else 1) * (coefficient * 10 ^ exponent)
  | _ => 0

namespace Binary64

/-- The least number that no finite double is nearest to. It lies half a unit above the greatest
one. -/
def overflow : ℚ := (2 ^ 54 - 1) * 2 ^ 970

theorem overflow_pos : 0 < overflow := by
  unfold overflow
  norm_num

/-- The bound is less than the power of two that comes after the greatest double. -/
theorem overflow_lt : overflow < (2 : ℚ) ^ (1024 : ℤ) := by
  have split : (2 : ℚ) ^ (1024 : ℤ) = 2 ^ 54 * 2 ^ 970 := by
    rw [show (1024 : ℤ) = 54 + 970 from rfl, zpow_add₀ two_ne_zero, zpow_ofNat, zpow_ofNat]
  rw [split, overflow]
  refine mul_lt_mul_of_pos_right ?_ (by positivity)
  norm_num

theorem lt_overflow : (2 : ℚ) ^ (1023 : ℤ) < overflow := by
  have split : (2 : ℚ) ^ (1023 : ℤ) = 2 ^ 53 * 2 ^ 970 := by
    rw [show (1023 : ℤ) = 53 + 970 from rfl, zpow_add₀ two_ne_zero, zpow_ofNat, zpow_ofNat]
  rw [split, overflow]
  refine mul_lt_mul_of_pos_right ?_ (by positivity)
  norm_num

section Ratio

variable {num den : Nat}

/-- The significand of a quotient at the exponent of the greatest doubles. -/
def topSignificand (num den : Nat) : Nat :=
  roundHalfEven (num * Nat.pow 2 (-maxExponent).toNat) (den * Nat.pow 2 maxExponent.toNat)

/-- For an exponent above zero it is the denominator that grows. -/
theorem roundHalfEven_of_exponent {exponent : ℤ} {n : Nat} (above : exponent = n + 1) :
    roundHalfEven (num * Nat.pow 2 (-exponent).toNat) (den * Nat.pow 2 exponent.toNat) =
      roundHalfEven num (den * (2 * 2 ^ n)) := by
  have none : (-exponent).toNat = 0 := by omega
  have some : exponent.toNat = n + 1 := by omega
  rw [none, some, Nat.pow_eq, Nat.pow_eq, pow_zero, Nat.mul_one, Nat.pow_succ']

theorem topSignificand_eq (num den : Nat) :
    topSignificand num den = roundHalfEven num (den * (2 * 2 ^ 970)) :=
  roundHalfEven_of_exponent rfl

/-- A quotient that lies half a unit above a number of units. -/
theorem le_ratio_iff (hd : 0 < den) (unit n : Nat) :
    den * (2 * unit) * (2 * n + 1) ≤ 2 * num ↔ (2 * n + 1 : ℚ) * unit ≤ num / den := by
  have den_pos : (0 : ℚ) < den := by exact_mod_cast hd
  rw [le_div_iff₀ den_pos, ← Nat.cast_le (α := ℚ)]
  push_cast
  constructor <;> intro le <;> linarith

/-- At the exponent of the greatest doubles it is the bound that makes a significand too great. -/
theorem topSignificand_eq_iff (hd : 0 < den) (lt : (num / den : ℚ) < 2 ^ (1024 : ℤ)) :
    topSignificand num den = Nat.pow 2 precision ↔ overflow ≤ num / den := by
  have den_pos : (0 : ℚ) < den := by exact_mod_cast hd
  have pos : 0 < den * (2 * 2 ^ 970) := by positivity
  -- Rounding may carry into one more bit, but not beyond that.
  have most : topSignificand num den ≤ Nat.pow 2 precision := by
    rw [topSignificand_eq]
    refine roundHalfEven_le_of_le pos ?_
    rw [show (1024 : ℤ) = 971 + 53 from rfl, zpow_add₀ two_ne_zero, zpow_ofNat, zpow_ofNat,
      div_lt_iff₀' den_pos, pow_succ'] at lt
    have le := lt.le
    rw [← mul_assoc] at le
    exact_mod_cast le
  have beyond : Nat.pow 2 precision ≤ topSignificand num den ↔ overflow ≤ num / den := by
    have odd : (2 ^ 53 - 1) % 2 = 1 := rfl
    have bound : overflow = (2 * (2 ^ 53 - 1 : ℕ) + 1 : ℚ) * (2 ^ 970 : ℕ) := by
      rw [overflow, Nat.cast_pow]
      norm_num
    rw [topSignificand_eq, bound, ← le_ratio_iff hd]
    exact succ_le_roundHalfEven_iff odd pos
  rw [← beyond]
  exact ⟨fun same => same.ge, fun least => le_antisymm most least⟩

/-- The exponent of the last place of a quotient that is no smaller than the doubles are. -/
theorem exponent_eq {k : ℤ} (large : -1022 ≤ k) :
    max (k - (precision - 1)) minExponent = k - 52 := by
  unfold precision minExponent
  omega

/-- From the bound on a quotient is rounded to an infinity. -/
theorem ofRatio_of_overflow_le (negative : Bool) (hd : 0 < den) (le : overflow ≤ num / den) :
    ofRatio negative num den = .infinite negative := by
  have ratio_pos : (0 : ℚ) < num / den := overflow_pos.trans_le le
  have hn : num ≠ 0 := by
    rintro rfl
    simp at ratio_pos
  have least := (two_zpow_le_iff ratio_pos _).1 (lt_overflow.le.trans le)
  unfold ofRatio
  rw [if_neg hn, floorLog2_eq_log (Nat.pos_of_ne_zero hn) hd]
  dsimp only
  rw [exponent_eq (by omega)]
  rcases lt_or_ge (num / den : ℚ) (2 ^ (1024 : ℤ)) with lt | ge
  · -- Among the greatest doubles the significand is rounded to one bit more than it has.
    have most := (lt_two_zpow_iff ratio_pos _).1 lt
    have top : Int.log 2 (num / den : ℚ) - 52 = maxExponent := by
      unfold maxExponent
      omega
    have carries := (topSignificand_eq_iff hd lt).2 le
    unfold topSignificand at carries
    rw [top, if_pos carries, if_neg (lt_irrefl _)]
  · -- Above them the exponent is too great, carry or not.
    have beyond := (two_zpow_le_iff ratio_pos _).1 ge
    have high : maxExponent < Int.log 2 (num / den : ℚ) - 52 := by
      unfold maxExponent
      omega
    split
    · exact if_neg (by omega)
    · exact if_neg (by omega)

/-- Below the bound a quotient is rounded to a finite double. -/
theorem ofRatio_of_lt_overflow (negative : Bool) (hd : 0 < den) (lt : (num / den : ℚ) < overflow) :
    ∃ significand exponent, ofRatio negative num den = .finite negative significand exponent := by
  unfold ofRatio
  split
  · exact ⟨0, minExponent, rfl⟩
  next hn =>
    have hn := Nat.pos_of_ne_zero hn
    have ratio_pos : (0 : ℚ) < num / den := by positivity
    have most := (lt_two_zpow_iff ratio_pos _).1 (lt.trans overflow_lt)
    rw [floorLog2_eq_log hn hd]
    dsimp only
    rcases lt_or_ge (Int.log 2 (num / den : ℚ)) 1023 with less | ge
    · -- Below the greatest doubles there is room for a carry.
      have low : max (Int.log 2 (num / den : ℚ) - (precision - 1)) minExponent < maxExponent := by
        unfold precision minExponent maxExponent
        omega
      rw [if_pos low, if_pos low.le]
      split
      · exact ⟨_, _, rfl⟩
      · exact ⟨_, _, rfl⟩
    · -- Among them it is the bound that rules out a carry.
      have top : Int.log 2 (num / den : ℚ) - 52 = maxExponent := by
        unfold maxExponent
        omega
      have stays : topSignificand num den ≠ Nat.pow 2 precision := fun carries =>
        not_le.2 lt ((topSignificand_eq_iff hd (lt.trans overflow_lt)).1 carries)
      unfold topSignificand at stays
      rw [exponent_eq (by omega), top, if_neg stays]
      exact ⟨_, _, if_pos le_rfl⟩

end Ratio

/-! ### Decimals -/

/-- A positive number lies between two powers of ten that its digits count. -/
theorem pow_digitCount {n : Nat} (pos : 0 < n) :
    10 ^ (digitCount n - 1) ≤ n ∧ n < 10 ^ digitCount n := by
  have count := digitCount_pos n
  constructor
  · rcases Nat.eq_or_lt_of_le count with one | more
    · rw [← one]
      exact pos
    · have long : ¬(Nat.toDigits 10 n).length ≤ digitCount n - 1 := by
        change ¬digitCount n ≤ digitCount n - 1
        omega
      rw [Nat.length_toDigits_le_iff (by decide) (by omega)] at long
      exact Nat.not_lt.1 long
  · exact (Nat.length_toDigits_le_iff (by decide) count).1 le_rfl

section Scientific

variable {coefficient : Nat} {exponent : ℤ}

/-- A decimal lies between two powers of ten. -/
theorem pow_place (pos : 0 < coefficient) :
    (10 : ℚ) ^ (exponent + digitCount coefficient - 1) ≤ coefficient * 10 ^ exponent ∧
      (coefficient * 10 ^ exponent : ℚ) < 10 ^ (exponent + digitCount coefficient) := by
  have scale : (0 : ℚ) < 10 ^ exponent := zpow_pos (by norm_num) _
  have count := digitCount_pos coefficient
  obtain ⟨least, most⟩ := pow_digitCount pos
  have least : (10 : ℚ) ^ (digitCount coefficient - 1) ≤ coefficient := by exact_mod_cast least
  have most : (coefficient : ℚ) < 10 ^ digitCount coefficient := by exact_mod_cast most
  have shifted : exponent + digitCount coefficient - 1 =
      ((digitCount coefficient - 1 : ℕ) : ℤ) + exponent := by
    omega
  constructor
  · rw [shifted, zpow_add₀ (by norm_num), zpow_natCast]
    exact mul_le_mul_of_nonneg_right least scale.le
  · rw [add_comm, zpow_add₀ (by norm_num), zpow_natCast]
    exact mul_lt_mul_of_pos_right most scale

/-- The quotient that a decimal is rounded as has its value. -/
theorem ratio_eq :
    ((coefficient * Nat.pow 10 exponent.toNat : ℕ) / (Nat.pow 10 (-exponent).toNat : ℕ) : ℚ) =
      coefficient * 10 ^ exponent := by
  rw [← pow_toNat_div_pow_toNat]
  push_cast
  rw [mul_div_assoc]
  norm_cast

/-- What is too great to be turned into a quotient is beyond the bound. -/
theorem overflow_lt_pow : overflow < (10 : ℚ) ^ (310 : ℤ) := by
  have le : 2 ^ 1024 ≤ 10 ^ 310 := by decide +kernel
  have le := (Nat.cast_le (α := ℚ)).2 le
  rw [Nat.cast_pow, Nat.cast_pow, Nat.cast_ofNat, Nat.cast_ofNat] at le
  rw [zpow_ofNat]
  refine overflow_lt.trans_le ?_
  rwa [zpow_ofNat]

theorem one_lt_overflow : 1 < overflow :=
  (one_le_zpow₀ one_le_two (by decide)).trans_lt lt_overflow

/-- From the bound on a decimal is rounded to an infinity. -/
theorem ofScientific_of_overflow_le (negative : Bool)
    (le : overflow ≤ coefficient * 10 ^ exponent) :
    ofScientific negative coefficient exponent = .infinite negative := by
  have nonzero : coefficient ≠ 0 := by
    rintro rfl
    rw [Nat.cast_zero, zero_mul] at le
    exact absurd le overflow_pos.not_ge
  unfold ofScientific
  dsimp only
  rw [if_neg nonzero]
  split
  · rfl
  next within =>
    -- So far down everything is below one.
    have near : ¬exponent + digitCount coefficient < -330 := by
      intro small
      have less : (coefficient * 10 ^ exponent : ℚ) < 10 ^ (0 : ℤ) :=
        (pow_place (Nat.pos_of_ne_zero nonzero)).2.trans_le
          (zpow_le_zpow_right₀ (by norm_num) (by omega))
      rw [zpow_zero] at less
      exact absurd le (less.trans one_lt_overflow).not_ge
    rw [if_neg near]
    exact ofRatio_of_overflow_le negative (Nat.pos_of_ne_zero (by simp)) (ratio_eq ▸ le)

/-- Below the bound a decimal is rounded to a finite double. -/
theorem ofScientific_of_lt_overflow (negative : Bool)
    (lt : coefficient * 10 ^ exponent < overflow) :
    ∃ significand place, ofScientific negative coefficient exponent =
      .finite negative significand place := by
  unfold ofScientific
  dsimp only
  split
  · exact ⟨0, minExponent, rfl⟩
  next nonzero =>
    -- So far up everything is beyond the bound.
    have within : ¬310 < exponent + digitCount coefficient := by
      intro great
      have least : (10 : ℚ) ^ (310 : ℤ) ≤ coefficient * 10 ^ exponent :=
        (zpow_le_zpow_right₀ (by norm_num) (by omega)).trans
          (pow_place (Nat.pos_of_ne_zero nonzero)).1
      exact absurd least (lt.trans overflow_lt_pow).not_ge
    rw [if_neg within]
    split
    · exact ⟨0, minExponent, rfl⟩
    · exact ofRatio_of_lt_overflow negative (Nat.pos_of_ne_zero (by simp)) (ratio_eq ▸ lt)

end Scientific

end Binary64

end Storefront
