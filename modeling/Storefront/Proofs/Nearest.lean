import Storefront.Proofs.Rounding

/-!
# The nearest double

What a quotient or a decimal is rounded to depends on its value and not on how it is written. The
double is off by half a unit of its last place at most, and a number that the format has is its own
nearest double.

## Main definitions

* `Binary64.IsCanonical` — the significands and exponents that the format has
* `Binary64.lastPlace` — the power of two of the last place that is kept of a number
* `Binary64.rounded` — the significand that is rounded to, before a carry

## Main results

* `Binary64.ofRatio_congr`, `Binary64.ofScientific_congr` — only the value counts
* `Binary64.isCanonical_ofRatio`, `Binary64.abs_ofScientific_sub_le` — a finite double that
  something has been rounded to, and how far off it is
* `Binary64.ofScientific_of_isCanonical` — what the format has is not rounded
-/

namespace Storefront

section Ratio

variable {num den num' den' : Nat}

/-! ### Rounded quotients -/

/-- A common factor makes no difference. -/
theorem roundHalfEven_mul_left {n : Nat} (pos : 0 < n) (num den : Nat) :
    roundHalfEven (n * num) (n * den) = roundHalfEven num den := by
  unfold roundHalfEven
  dsimp only
  rw [Nat.mul_div_mul_left _ _ pos, Nat.mul_mod_mul_left, Nat.mul_left_comm]
  simp only [Nat.mul_lt_mul_left pos]

/-- A quotient is rounded by its value. -/
theorem roundHalfEven_congr (hd : 0 < den) (hd' : 0 < den')
    (same : (num / den : ℚ) = num' / den') :
    roundHalfEven num den = roundHalfEven num' den' := by
  have den_ne : (den : ℚ) ≠ 0 := by exact_mod_cast hd.ne'
  have den_ne' : (den' : ℚ) ≠ 0 := by exact_mod_cast hd'.ne'
  rw [div_eq_div_iff den_ne den_ne'] at same
  have cross : num * den' = num' * den := by exact_mod_cast same
  calc roundHalfEven num den = roundHalfEven (den' * num) (den' * den) :=
        (roundHalfEven_mul_left hd' num den).symm
    _ = roundHalfEven (den * num') (den * den') := by
        rw [Nat.mul_comm den' num, cross, Nat.mul_comm num' den, Nat.mul_comm den' den]
    _ = roundHalfEven num' den' := roundHalfEven_mul_left hd num' den'

/-- Rounding moves a quotient by half a unit at most. -/
theorem abs_roundHalfEven_sub_le (num : Nat) (hd : 0 < den) :
    |(roundHalfEven num den : ℚ) - num / den| ≤ 1 / 2 := by
  have den_pos : (0 : ℚ) < den := by exact_mod_cast hd
  have below : (2 * num : ℚ) ≤ 2 * (den * roundHalfEven num den) + den := by
    exact_mod_cast le_roundHalfEven hd
  have above : (2 * (den * roundHalfEven num den) : ℚ) ≤ 2 * num + den := by
    exact_mod_cast roundHalfEven_le num den
  have lower : (num / den : ℚ) ≤ roundHalfEven num den + 1 / 2 := by
    rw [div_le_iff₀ den_pos]
    linarith
  have upper : (roundHalfEven num den - 1 / 2 : ℚ) ≤ num / den := by
    rw [le_div_iff₀ den_pos]
    linarith
  rw [abs_le]
  constructor <;> linarith

/-- A quotient that is less than half a unit away from a natural number is rounded to it. -/
theorem roundHalfEven_eq_of_near {n : Nat} (hd : 0 < den) (near : |(num / den : ℚ) - n| < 1 / 2) :
    roundHalfEven num den = n := by
  have rounded := abs_roundHalfEven_sub_le num hd
  have close : |(roundHalfEven num den : ℚ) - n| < 1 := by
    calc |(roundHalfEven num den : ℚ) - n|
        ≤ |(roundHalfEven num den : ℚ) - num / den| + |(num / den : ℚ) - n| := abs_sub_le _ _ _
      _ < 1 := by linarith
  have close : |(roundHalfEven num den : ℤ) - n| < 1 := by exact_mod_cast close
  rw [Int.abs_lt_one_iff] at close
  omega

/-- What lies between natural numbers stays between them when it is rounded. -/
theorem roundHalfEven_le_of_ratio_le {n : Nat} (hd : 0 < den) (le : (num / den : ℚ) ≤ n) :
    roundHalfEven num den ≤ n := by
  have rounded := (abs_le.1 (abs_roundHalfEven_sub_le num hd)).2
  have lt : (roundHalfEven num den : ℚ) < n + 1 := by linarith
  have lt : roundHalfEven num den < n + 1 := by exact_mod_cast lt
  exact Nat.lt_succ_iff.1 lt

theorem le_roundHalfEven_of_le_ratio {n : Nat} (hd : 0 < den) (le : n ≤ (num / den : ℚ)) :
    n ≤ roundHalfEven num den := by
  have rounded := (abs_le.1 (abs_roundHalfEven_sub_le num hd)).1
  have lt : (n : ℚ) < roundHalfEven num den + 1 := by linarith
  have lt : n < roundHalfEven num den + 1 := by exact_mod_cast lt
  exact Nat.lt_succ_iff.1 lt

end Ratio

namespace Binary64

/-! ### Quotients -/

/-- The significands and exponents that the format has. All but the smallest numbers have as many
bits as there are. -/
structure IsCanonical (significand : Nat) (exponent : ℤ) : Prop where
  lt : significand < 2 ^ 53
  least : minExponent ≤ exponent
  most : exponent ≤ maxExponent
  full : exponent = minExponent ∨ 2 ^ 52 ≤ significand

/-- The power of two of the last place that is kept of a number. -/
def lastPlace (q : ℚ) : ℤ := max (Int.log 2 q - 52) minExponent

section Ratio

variable {num den num' den' : Nat} {q : ℚ}

theorem lt_pow_lastPlace (pos : 0 < q) : q / 2 ^ lastPlace q < 2 ^ 53 := by
  have unit : (0 : ℚ) < 2 ^ lastPlace q := zpow_pos two_pos _
  rw [div_lt_iff₀ unit, ← zpow_natCast, ← zpow_add₀ two_ne_zero, lt_two_zpow_iff pos]
  unfold lastPlace
  omega

theorem lastPlace_eq_or_pow_le (pos : 0 < q) :
    lastPlace q = minExponent ∨ 2 ^ 52 ≤ q / 2 ^ lastPlace q := by
  have unit : (0 : ℚ) < 2 ^ lastPlace q := zpow_pos two_pos _
  rw [le_div_iff₀ unit, ← zpow_natCast, ← zpow_add₀ two_ne_zero, two_zpow_le_iff pos]
  unfold lastPlace
  omega

/-- The last place of a number that the format has. -/
theorem lastPlace_of_isCanonical {significand : Nat} {exponent : ℤ} (pos : 0 < significand)
    (canonical : IsCanonical significand exponent) :
    lastPlace (significand * 2 ^ exponent) = exponent := by
  have unit : (0 : ℚ) < 2 ^ exponent := zpow_pos two_pos _
  have value_pos : (0 : ℚ) < significand * 2 ^ exponent := by positivity
  have above : (significand * 2 ^ exponent : ℚ) < 2 ^ (53 + exponent) := by
    have lt : (significand : ℚ) < 2 ^ 53 := by exact_mod_cast canonical.lt
    rw [zpow_add₀ two_ne_zero]
    exact mul_lt_mul_of_pos_right lt unit
  rw [lt_two_zpow_iff value_pos] at above
  have least := canonical.least
  unfold lastPlace
  rcases canonical.full with small | full
  · omega
  · have below : (2 : ℚ) ^ (52 + exponent) ≤ significand * 2 ^ exponent := by
      have le : (2 : ℚ) ^ 52 ≤ significand := by exact_mod_cast full
      rw [zpow_add₀ two_ne_zero]
      exact mul_le_mul_of_nonneg_right le unit.le
    rw [two_zpow_le_iff value_pos] at below
    omega

/-- The significand of a quotient before a carry. -/
def rounded (num den : Nat) : Nat :=
  let place := lastPlace (num / den)
  roundHalfEven (num * Nat.pow 2 (-place).toNat) (den * Nat.pow 2 place.toNat)

theorem den_mul_pow_pos (hd : 0 < den) (exponent : ℤ) : 0 < den * Nat.pow 2 exponent.toNat :=
  Nat.mul_pos hd (Nat.pow_pos (by decide))

theorem rounded_congr (hd : 0 < den) (hd' : 0 < den') (same : (num / den : ℚ) = num' / den') :
    rounded num den = rounded num' den' := by
  unfold rounded
  dsimp only
  rw [same]
  refine roundHalfEven_congr (den_mul_pow_pos hd _) (den_mul_pow_pos hd' _) ?_
  rw [ratio_div_zpow, ratio_div_zpow, same]

/-- The definition of the nearest double, by the value of the quotient. -/
theorem ofRatio_eq (hn : 0 < num) (hd : 0 < den) (negative : Bool) :
    ofRatio negative num den =
      let place := lastPlace (num / den)
      if rounded num den = Nat.pow 2 precision then
        if place < maxExponent then .finite negative (Nat.pow 2 (precision - 1)) (place + 1)
        else .infinite negative
      else if place ≤ maxExponent then .finite negative (rounded num den) place
      else .infinite negative := by
  unfold ofRatio
  rw [if_neg hn.ne', floorLog2_eq_log hn hd]
  rfl

/-- A quotient is rounded to a double by its value. -/
theorem ofRatio_congr (hd : 0 < den) (hd' : 0 < den') (same : (num / den : ℚ) = num' / den')
    (negative : Bool) : ofRatio negative num den = ofRatio negative num' den' := by
  have zero_iff {n d : Nat} (pos : 0 < d) : (n / d : ℚ) = 0 ↔ n = 0 := by
    have ne : (d : ℚ) ≠ 0 := by exact_mod_cast pos.ne'
    simp [ne]
  rcases Nat.eq_zero_or_pos num with zero | pos
  · have zero' : num' = 0 := (zero_iff hd').1 (same ▸ (zero_iff hd).2 zero)
    rw [zero, zero']
    rfl
  · have pos' : 0 < num' := by
      refine Nat.pos_of_ne_zero fun zero => pos.ne' ?_
      exact (zero_iff hd).1 (same ▸ (zero_iff hd').2 zero)
    rw [ofRatio_eq pos hd, ofRatio_eq pos' hd', rounded_congr hd hd' same, same]

theorem rounded_le (pos : (0 : ℚ) < num / den) (hd : 0 < den) : rounded num den ≤ 2 ^ 53 := by
  refine roundHalfEven_le_of_ratio_le (den_mul_pow_pos hd _) ?_
  rw [ratio_div_zpow]
  exact_mod_cast (lt_pow_lastPlace pos).le

theorem lastPlace_eq_or_le_rounded (pos : (0 : ℚ) < num / den) (hd : 0 < den) :
    lastPlace (num / den) = minExponent ∨ 2 ^ 52 ≤ rounded num den := by
  refine (lastPlace_eq_or_pow_le pos).imp_right fun le => ?_
  refine le_roundHalfEven_of_le_ratio (den_mul_pow_pos hd _) ?_
  rw [ratio_div_zpow]
  exact_mod_cast le

/-- Before a carry a quotient is off by half a unit of its last place at most. -/
theorem abs_rounded_mul_sub_le (num : Nat) (hd : 0 < den) :
    |(rounded num den * 2 ^ lastPlace (num / den) : ℚ) - num / den| ≤
      2 ^ lastPlace (num / den) / 2 := by
  have unit : (0 : ℚ) < 2 ^ lastPlace (num / den : ℚ) := zpow_pos two_pos _
  have half := abs_roundHalfEven_sub_le (num * Nat.pow 2 (-lastPlace (num / den)).toNat)
    (den_mul_pow_pos hd (lastPlace (num / den)))
  rw [ratio_div_zpow] at half
  have apart : (rounded num den * 2 ^ lastPlace (num / den) : ℚ) - num / den =
      (rounded num den - num / den / 2 ^ lastPlace (num / den)) * 2 ^ lastPlace (num / den) := by
    rw [sub_mul, div_mul_cancel₀ _ unit.ne']
  rw [apart, abs_mul, abs_of_pos unit]
  calc _ ≤ 1 / 2 * 2 ^ lastPlace (num / den : ℚ) := mul_le_mul_of_nonneg_right half unit.le
    _ = 2 ^ lastPlace (num / den : ℚ) / 2 := by ring

/-- A finite double that a quotient is rounded to is one that the format has, and it is off by half
a unit of the last place at most. -/
theorem isCanonical_ofRatio (hn : 0 < num) (hd : 0 < den) {negative sign : Bool}
    {significand : Nat} {exponent : ℤ}
    (h : ofRatio negative num den = .finite sign significand exponent) :
    sign = negative ∧ IsCanonical significand exponent ∧
      |(significand * 2 ^ exponent : ℚ) - num / den| ≤ 2 ^ lastPlace (num / den) / 2 := by
  have pos : (0 : ℚ) < num / den := by positivity
  have near := abs_rounded_mul_sub_le num hd
  have least : minExponent ≤ lastPlace (num / den : ℚ) := le_max_right _ _
  rw [ofRatio_eq hn hd] at h
  dsimp only at h
  split at h
  next carried =>
    split at h
    next room =>
      -- The carried significand has one more bit, so the number is the same.
      have same : ((Nat.pow 2 (precision - 1) : ℕ) * 2 ^ (lastPlace (num / den) + 1) : ℚ) =
          rounded num den * 2 ^ lastPlace (num / den) := by
        rw [carried, zpow_add_one₀ two_ne_zero, Nat.pow_eq, Nat.pow_eq]
        push_cast [precision]
        ring
      cases h
      rw [same]
      exact ⟨rfl, ⟨by decide, by omega, room, .inr le_rfl⟩, near⟩
    next => cases h
  next kept =>
    split at h
    next room =>
      cases h
      exact ⟨rfl, ⟨lt_of_le_of_ne (rounded_le pos hd) kept, least, room,
        lastPlace_eq_or_le_rounded pos hd⟩, near⟩
    next => cases h

/-- A quotient that the format has is not rounded. -/
theorem ofRatio_of_isCanonical {significand : Nat} {exponent : ℤ} (pos : 0 < significand)
    (canonical : IsCanonical significand exponent) (hd : 0 < den)
    (same : (num / den : ℚ) = significand * 2 ^ exponent) (negative : Bool) :
    ofRatio negative num den = .finite negative significand exponent := by
  have unit : (0 : ℚ) < 2 ^ exponent := zpow_pos two_pos _
  have hn : 0 < num := by
    refine Nat.pos_of_ne_zero fun zero => ?_
    have value_pos : (0 : ℚ) < significand * 2 ^ exponent := by positivity
    rw [← same, zero, Nat.cast_zero, zero_div] at value_pos
    exact lt_irrefl _ value_pos
  have place : lastPlace (num / den) = exponent := by
    rw [same]
    exact lastPlace_of_isCanonical pos canonical
  have exact : rounded num den = significand := by
    refine roundHalfEven_eq_of_near (den_mul_pow_pos hd _) ?_
    rw [ratio_div_zpow, place, same, mul_div_cancel_right₀ _ unit.ne', sub_self, abs_zero]
    norm_num
  have uncarried : significand ≠ Nat.pow 2 precision := canonical.lt.ne
  rw [ofRatio_eq hn hd, exact, place]
  dsimp only
  rw [if_neg uncarried, if_pos canonical.most]

end Ratio

/-! ### Decimals -/

section Scientific

variable {coefficient coefficient' significand : Nat} {place place' exponent : ℤ}

/-- The power of ten of the first digit of a decimal depends on its value. -/
theorem firstPlace_congr (pos : 0 < coefficient) (pos' : 0 < coefficient')
    (same : (coefficient * 10 ^ place : ℚ) = coefficient' * 10 ^ place') :
    place + digitCount coefficient = place' + digitCount coefficient' := by
  obtain ⟨least, most⟩ := @pow_place _ place pos
  obtain ⟨least', most'⟩ := @pow_place _ place' pos'
  rw [same] at least most
  have le := (zpow_lt_zpow_iff_right₀ (by norm_num)).1 (least.trans_lt most')
  have ge := (zpow_lt_zpow_iff_right₀ (by norm_num)).1 (least'.trans_lt most)
  omega

/-- A decimal is rounded to a double by its value. -/
theorem ofScientific_congr (same : (coefficient * 10 ^ place : ℚ) = coefficient' * 10 ^ place')
    (negative : Bool) :
    ofScientific negative coefficient place = ofScientific negative coefficient' place' := by
  have ten (n : ℤ) : (10 : ℚ) ^ n ≠ 0 := zpow_ne_zero _ (by norm_num)
  have zero_iff : coefficient = 0 ↔ coefficient' = 0 := by
    rw [← Nat.cast_eq_zero (R := ℚ), ← mul_eq_zero_iff_right (ten place), same,
      mul_eq_zero_iff_right (ten place'), Nat.cast_eq_zero]
  unfold ofScientific
  dsimp only
  by_cases zero : coefficient = 0
  · rw [if_pos zero, if_pos (zero_iff.1 zero)]
  · have zero' : coefficient' ≠ 0 := fun zero' => zero (zero_iff.2 zero')
    rw [if_neg zero, if_neg zero',
      firstPlace_congr (Nat.pos_of_ne_zero zero) (Nat.pos_of_ne_zero zero') same]
    have ratio : ofRatio negative (coefficient * Nat.pow 10 place.toNat)
        (Nat.pow 10 (-place).toNat) =
        ofRatio negative (coefficient' * Nat.pow 10 place'.toNat) (Nat.pow 10 (-place').toNat) :=
      ofRatio_congr (Nat.pow_pos (by decide)) (Nat.pow_pos (by decide))
        (ratio_eq.trans (same.trans ratio_eq.symm)) negative
    rw [ratio]

/-- A finite double that a decimal is rounded to is one that the format has, with the sign of the
decimal. -/
theorem isCanonical_ofScientific {negative sign : Bool}
    (h : ofScientific negative coefficient place = .finite sign significand exponent) :
    sign = negative ∧ IsCanonical significand exponent := by
  have none : IsCanonical 0 minExponent := ⟨by decide, le_rfl, by decide, .inl rfl⟩
  unfold ofScientific at h
  dsimp only at h
  split at h
  · cases h
    exact ⟨rfl, none⟩
  next nonzero =>
    split at h
    · cases h
    · split at h
      · cases h
        exact ⟨rfl, none⟩
      · have pos : 0 < coefficient * Nat.pow 10 place.toNat :=
          Nat.mul_pos (Nat.pos_of_ne_zero nonzero) (Nat.pow_pos (by decide))
        obtain ⟨sign, canonical, -⟩ := isCanonical_ofRatio pos (Nat.pow_pos (by decide)) h
        exact ⟨sign, canonical⟩

/-- What is taken for zero without a look at its digits is less than half the smallest double. -/
theorem pow_le_half_unit : (10 : ℚ) ^ (-330 : ℤ) ≤ 2 ^ minExponent / 2 := by
  have le : 2 ^ 1075 ≤ 10 ^ 330 := by decide +kernel
  have le := (Nat.cast_le (α := ℚ)).2 le
  rw [Nat.cast_pow, Nat.cast_pow, Nat.cast_ofNat, Nat.cast_ofNat] at le
  have half : (2 : ℚ) ^ minExponent / 2 = 2 ^ (-1075 : ℤ) := by
    rw [minExponent, show (-1075 : ℤ) = -1074 - 1 from rfl, zpow_sub_one₀ two_ne_zero]
    rfl
  rw [half, zpow_neg, zpow_neg, zpow_ofNat, zpow_ofNat]
  exact inv_anti₀ (pow_pos two_pos _) le

/-- A finite double that a decimal is rounded to is off by half a unit of the last place at most. -/
theorem abs_ofScientific_sub_le {negative sign : Bool}
    (h : ofScientific negative coefficient place = .finite sign significand exponent) :
    |(significand * 2 ^ exponent : ℚ) - coefficient * 10 ^ place| ≤
      2 ^ lastPlace (coefficient * 10 ^ place) / 2 := by
  unfold ofScientific at h
  dsimp only at h
  split at h
  next zero =>
    cases h
    rw [zero, Nat.cast_zero, zero_mul, zero_mul, sub_self, abs_zero]
    exact (half_pos (zpow_pos two_pos _)).le
  next nonzero =>
    have pos : 0 < coefficient := Nat.pos_of_ne_zero nonzero
    split at h
    · cases h
    · split at h
      next below =>
        -- What counts as zero is less than half the smallest double.
        cases h
        have tiny : (coefficient * 10 ^ place : ℚ) < 10 ^ (-330 : ℤ) :=
          (pow_place pos).2.trans_le (zpow_le_zpow_right₀ (by norm_num) below.le)
        have nonneg : (0 : ℚ) ≤ coefficient * 10 ^ place :=
          mul_nonneg (Nat.cast_nonneg _) (zpow_nonneg (by norm_num) _)
        rw [Nat.cast_zero, zero_mul, zero_sub, abs_neg, abs_of_nonneg nonneg]
        refine tiny.le.trans (pow_le_half_unit.trans ?_)
        have least : minExponent ≤ lastPlace (coefficient * 10 ^ place) := le_max_right _ _
        have unit : (2 : ℚ) ^ minExponent ≤ 2 ^ lastPlace (coefficient * 10 ^ place) :=
          zpow_le_zpow_right₀ one_le_two least
        linarith only [unit]
      next =>
        have num_pos : 0 < coefficient * Nat.pow 10 place.toNat :=
          Nat.mul_pos pos (Nat.pow_pos (by decide))
        have den_pos : 0 < Nat.pow 10 (-place).toNat := Nat.pow_pos (by decide)
        obtain ⟨-, -, near⟩ := isCanonical_ofRatio num_pos den_pos h
        rwa [ratio_eq] at near

/-- Every number that the format has is below the bound. -/
theorem IsCanonical.value_lt (canonical : IsCanonical significand exponent) :
    (significand * 2 ^ exponent : ℚ) < overflow := by
  have bits : (significand : ℚ) ≤ 2 ^ 53 - 1 := by
    rw [le_sub_iff_add_le]
    exact_mod_cast canonical.lt
  have most : (2 : ℚ) ^ exponent ≤ 2 * 2 ^ 970 := by
    have split : (2 : ℚ) ^ (971 : ℤ) = 2 * 2 ^ 970 := by
      rw [show (971 : ℤ) = 1 + 970 from rfl, zpow_add₀ two_ne_zero, zpow_one, zpow_ofNat]
    exact split ▸ zpow_le_zpow_right₀ one_le_two canonical.most
  unfold overflow
  generalize (2 : ℚ) ^ 970 = unit at most ⊢
  have pos : (0 : ℚ) < 2 ^ exponent := zpow_pos two_pos _
  have unit_pos : 0 < unit := by linarith
  calc (significand * 2 ^ exponent : ℚ)
      ≤ (2 ^ 53 - 1) * (2 * unit) := mul_le_mul bits most pos.le (by norm_num)
    _ = (2 ^ 54 - 2) * unit := by ring
    _ < (2 ^ 54 - 1) * unit := mul_lt_mul_of_pos_right (by norm_num) unit_pos

/-- A positive number of the format is not so small that it would be taken for zero. -/
theorem IsCanonical.le_value (canonical : IsCanonical significand exponent)
    (pos : 0 < significand) : (10 : ℚ) ^ (-330 : ℤ) ≤ significand * 2 ^ exponent := by
  have one : (1 : ℚ) ≤ significand := by exact_mod_cast pos
  have unit : (0 : ℚ) < 2 ^ minExponent := zpow_pos two_pos _
  calc (10 : ℚ) ^ (-330 : ℤ)
      ≤ 2 ^ minExponent / 2 := pow_le_half_unit
    _ ≤ 2 ^ minExponent := half_le_self unit.le
    _ ≤ 2 ^ exponent := zpow_le_zpow_right₀ one_le_two canonical.least
    _ ≤ significand * 2 ^ exponent := le_mul_of_one_le_left (zpow_nonneg zero_le_two _) one

/-- A decimal that the format has is not rounded. -/
theorem ofScientific_of_isCanonical (pos : 0 < significand)
    (canonical : IsCanonical significand exponent)
    (same : (coefficient * 10 ^ place : ℚ) = significand * 2 ^ exponent) (negative : Bool) :
    ofScientific negative coefficient place = .finite negative significand exponent := by
  have unit : (0 : ℚ) < 2 ^ exponent := zpow_pos two_pos _
  have nonzero : coefficient ≠ 0 := by
    rintro rfl
    have value_pos : (0 : ℚ) < significand * 2 ^ exponent := by positivity
    rw [← same, Nat.cast_zero, zero_mul] at value_pos
    exact lt_irrefl _ value_pos
  obtain ⟨least, most⟩ := @pow_place _ place (Nat.pos_of_ne_zero nonzero)
  rw [same] at least most
  have below := (zpow_lt_zpow_iff_right₀ (by norm_num)).1
    (least.trans_lt (canonical.value_lt.trans overflow_lt_pow))
  have above := (zpow_lt_zpow_iff_right₀ (by norm_num)).1 ((canonical.le_value pos).trans_lt most)
  unfold ofScientific
  dsimp only
  rw [if_neg nonzero, if_neg (by omega), if_neg (by omega)]
  exact ofRatio_of_isCanonical pos canonical (Nat.pow_pos (by decide)) (ratio_eq.trans same)
    negative

end Scientific

end Binary64

end Storefront
