import Storefront.Number.Significant
import Storefront.Proofs.Rounding
import Storefront.Proofs.Strings

/-!
# The digits of a double

The numeral that a column of texts keeps of a double is computed with numbers of 64 bits, and every
operation on them is rounded. How far off the digits are does not matter here: an operation that is
off by a factor of two at most is good enough for every loop to end in time, and for every digit to
be written as a character of ASCII.

## Main definitions

* `Binary64.IsDouble` — the finite numbers that the format has, the infinities and NaN
* `Extended.value` — what a number of 64 bits stands for

## Main results

* `Extended.value_ofRatio_le`, `Extended.le_value_ofRatio` — what an operation may be off
* `Extended.value_scaled_le` — a number is scaled to one of few digits before its point
* `Binary64.isAscii_numeral` — the numeral of a double is written in ASCII
-/

namespace Storefront

/-- A number of the format: a finite one has a significand of 53 bits and an exponent within the
bounds. -/
def Binary64.IsDouble : Binary64 → Prop
  | .finite _ significand exponent =>
    significand < 2 ^ 53 ∧ minExponent ≤ exponent ∧ exponent ≤ maxExponent
  | _ => True

namespace Extended

variable {x y factor bound : Extended} {num den : Nat}

/-- What a number stands for. -/
def value (x : Extended) : ℚ := x.significand * 2 ^ x.exponent

theorem value_nonneg (x : Extended) : 0 ≤ x.value :=
  mul_nonneg (Nat.cast_nonneg _) (zpow_nonneg zero_le_two _)

theorem ratio_snd_pos (x : Extended) : 0 < x.ratio.2 := Nat.pow_pos (by decide)

theorem ratio_eq_value (x : Extended) : (x.ratio.1 / x.ratio.2 : ℚ) = x.value :=
  Binary64.ratio_eq_value x.significand x.exponent

@[simp] theorem value_ofNat (n : Nat) : (ofNat n).value = n := by
  simp [ofNat, value]

theorem isAtMost_iff : x.isAtMost y = true ↔ x.value ≤ y.value := by
  have hx : (0 : ℚ) < x.ratio.2 := by exact_mod_cast x.ratio_snd_pos
  have hy : (0 : ℚ) < y.ratio.2 := by exact_mod_cast y.ratio_snd_pos
  rw [isAtMost, decide_eq_true_eq, ← ratio_eq_value, ← ratio_eq_value, div_le_div_iff₀ hx hy]
  exact_mod_cast Iff.rfl

/-! ### Rounding -/

/-- A quotient of at least one half is rounded to a number between its half and its double. -/
theorem roundHalfEven_bounds (hd : 0 < den) (le : den ≤ num) :
    (num / den : ℚ) / 2 ≤ roundHalfEven num den ∧
      (roundHalfEven num den : ℚ) ≤ 2 * (num / den : ℚ) := by
  have den_pos : (0 : ℚ) < den := by exact_mod_cast hd
  have near : (2 * num : ℚ) ≤ 2 * (den * roundHalfEven num den) + den := by
    exact_mod_cast le_roundHalfEven hd
  have near' : (2 * (den * roundHalfEven num den) : ℚ) ≤ 2 * num + den := by
    exact_mod_cast roundHalfEven_le num den
  have le : (den : ℚ) ≤ num := by exact_mod_cast le
  constructor
  · rw [div_div, div_le_iff₀ (by positivity)]
    linarith
  · rw [mul_div_assoc', le_div_iff₀ den_pos]
    linarith

/-- A quotient is rounded to a number between its half and its double. -/
theorem value_ofRatio_bounds (num : Nat) (hd : 0 < den) :
    (num / den : ℚ) / 2 ≤ (ofRatio num den).value ∧
      (ofRatio num den).value ≤ 2 * (num / den : ℚ) := by
  unfold ofRatio
  split
  next zero =>
    subst zero
    simp [value]
  next hn =>
    have hn := Nat.pos_of_ne_zero hn
    have num_pos : (0 : ℚ) < num := by exact_mod_cast hn
    have den_pos : (0 : ℚ) < den := by exact_mod_cast hd
    have ratio_pos : (0 : ℚ) < num / den := by positivity
    have least : (2 : ℚ) ^ floorLog2 num den ≤ num / den := by
      rw [floorLog2_eq_log hn hd]
      exact (two_zpow_le_iff ratio_pos _).2 le_rfl
    dsimp only
    generalize exponent_eq : floorLog2 num den - ((precision : ℤ) - 1) = exponent
    have unit_pos : (0 : ℚ) < 2 ^ exponent := zpow_pos two_pos _
    -- The quotient has one unit at least, and what is rounded is how many units it has.
    have unit_le : (2 : ℚ) ^ exponent ≤ num / den := by
      refine le_trans (zpow_le_zpow_right₀ one_le_two ?_) least
      unfold precision at exponent_eq
      omega
    have above := (pow_le_ratio_iff hd exponent).2 unit_le
    have positive : 0 < den * Nat.pow 2 exponent.toNat :=
      Nat.mul_pos hd (Nat.pow_pos (by decide))
    have bounds := roundHalfEven_bounds positive above
    rw [ratio_div_zpow] at bounds
    unfold value
    constructor
    · rw [← div_le_iff₀ unit_pos, div_right_comm]
      exact bounds.1
    · rw [← le_div_iff₀ unit_pos, mul_div_assoc]
      exact bounds.2

theorem value_mul_bounds (x y : Extended) :
    x.value * y.value / 2 ≤ (x.mul y).value ∧ (x.mul y).value ≤ 2 * (x.value * y.value) := by
  have bounds := value_ofRatio_bounds (x.ratio.1 * y.ratio.1)
    (Nat.mul_pos x.ratio_snd_pos y.ratio_snd_pos)
  rw [← x.ratio_eq_value, ← y.ratio_eq_value, div_mul_div_comm]
  exact_mod_cast bounds

theorem value_div_le (x : Extended) (pos : 0 < y.value) :
    (x.div y).value ≤ 2 * (x.value / y.value) := by
  have significant : 0 < y.ratio.1 := by
    refine Nat.pos_of_ne_zero fun zero => ?_
    rw [← y.ratio_eq_value, zero, Nat.cast_zero, zero_div] at pos
    exact lt_irrefl _ pos
  have bounds := value_ofRatio_bounds (x.ratio.1 * y.ratio.2)
    (Nat.mul_pos x.ratio_snd_pos significant)
  rw [← x.ratio_eq_value, ← y.ratio_eq_value, div_div_div_eq]
  exact_mod_cast bounds.2

theorem value_add_le (x y : Extended) : (x.add y).value ≤ 2 * (x.value + y.value) := by
  have hx : (x.ratio.2 : ℚ) ≠ 0 := by exact_mod_cast x.ratio_snd_pos.ne'
  have hy : (y.ratio.2 : ℚ) ≠ 0 := by exact_mod_cast y.ratio_snd_pos.ne'
  have bounds := value_ofRatio_bounds (x.ratio.1 * y.ratio.2 + y.ratio.1 * x.ratio.2)
    (Nat.mul_pos x.ratio_snd_pos y.ratio_snd_pos)
  rw [← x.ratio_eq_value, ← y.ratio_eq_value, div_add_div _ _ hx hy, mul_comm (x.ratio.2 : ℚ)]
  exact_mod_cast bounds.2

/-! ### Digits -/

theorem floor_le (x : Extended) : (x.floor : ℚ) ≤ x.value := by
  rw [← x.ratio_eq_value]
  rw [le_div_iff₀ (by exact_mod_cast x.ratio_snd_pos)]
  exact_mod_cast Nat.div_mul_le_self x.ratio.1 x.ratio.2

/-- What is left of a number without its whole part is less than two, however it is rounded. -/
theorem value_sub_floor_le (x : Extended) : (x.sub (ofNat x.floor)).value ≤ 2 := by
  have pos := x.ratio_snd_pos
  have small := Nat.mod_lt x.ratio.1 pos
  have rest : x.sub (ofNat x.floor) = ofRatio (x.ratio.1 % x.ratio.2) x.ratio.2 := by
    rw [sub, ratio_ofNat, floor, Nat.mul_one, Nat.mul_one, Nat.div_mul_self_eq_mod_sub_self]
    congr 1
    have := Nat.mod_le x.ratio.1 x.ratio.2
    omega
  have bounds := (value_ofRatio_bounds (x.ratio.1 % x.ratio.2) pos).2
  have lt : ((x.ratio.1 % x.ratio.2 : ℕ) / x.ratio.2 : ℚ) ≤ 1 := by
    rw [div_le_one (by exact_mod_cast pos)]
    exact_mod_cast small.le
  rw [rest]
  linarith

/-- The digits of a number that has few of them before its point are written in ASCII. -/
theorem isAscii_digits (count : Nat) (small : x.value < 80) : (digits count x).IsAscii := by
  induction count generalizing x with
  | zero => exact .nil
  | succ count ih =>
    have digit : x.floor < 80 := by exact_mod_cast x.floor_le.trans_lt small
    refine .cons ?_ (ih ?_)
    · rw [CodePoint.toNat_ofNat (by omega)]
      omega
    · -- The next digits are those of ten times what is left.
      have rest := x.value_sub_floor_le
      have next := (value_mul_bounds (x.sub (ofNat x.floor)) (ofNat 10)).2
      rw [value_ofNat] at next
      push_cast at next
      linarith

/-! ### Scaling -/

/-- The scale ends up so great that one more factor would take it beyond the number, unless it has
run out of steps, which a number that is small enough for them does not let it. -/
theorem lt_value_raise (power : Nat) {most : Nat} {scale : Extended × Int}
    (grows : 1 ≤ factor.value)
    (lt : x.value < scale.1.value * (factor.value / 2) ^ most) :
    x.value < 2 * factor.value * (raise x factor power most scale).1.value := by
  -- By induction on the steps that are left, each of which multiplies the scale.
  induction most generalizing scale with
  | zero =>
    have nonneg := scale.1.value_nonneg
    rw [pow_zero, mul_one] at lt
    change x.value < 2 * factor.value * scale.1.value
    nlinarith only [lt, grows, nonneg]
  | succ most ih =>
    obtain ⟨next_ge, next_le⟩ := value_mul_bounds factor scale.1
    unfold raise
    dsimp only
    split
    · refine ih (lt.trans_le ?_)
      rw [pow_succ', ← mul_assoc]
      refine mul_le_mul_of_nonneg_right ?_ (by positivity)
      linarith
    next beyond =>
      rw [isAtMost_iff, not_le] at beyond
      change x.value < 2 * factor.value * scale.1.value
      linarith

/-- A number that is multiplied while it is below a bound stays below any that the product of bound
and factor keeps well away from. -/
theorem value_lift_le (power : Nat) {most : Nat} {start : Extended × Int} {limit : ℚ}
    (le : start.1.value ≤ limit) (room : 2 * (bound.value * factor.value) ≤ limit) :
    (lift bound factor power most start).1.value ≤ limit := by
  induction most generalizing start with
  | zero => exact le
  | succ most ih =>
    unfold lift
    split
    · exact le
    next below =>
      rw [isAtMost_iff, not_le] at below
      refine ih ((value_mul_bounds start.1 factor).2.trans (le_trans ?_ room))
      have factor_nonneg := factor.value_nonneg
      gcongr

/-- The product of the powers of ten that a number is divided by. -/
def scale (x : Extended) : Extended × Int :=
  let great := raise x (ofScientific 1 100) 100 scalingSteps (ofNat 1, 0)
  let middle := raise x (ofScientific 1 10) 10 scalingSteps great
  raise x (ofNat 10) 1 scalingSteps middle

theorem value_tenth : (ofScientific 1 10).value = 10 ^ 10 := by
  rw [show ofScientific 1 10 = ⟨5242880000000000, -19⟩ by decide +kernel]
  norm_num [value]

theorem value_hundredth_bounds :
    2 ^ 17 ≤ (ofScientific 1 100).value ∧ 2 * (ofScientific 1 100).value ≤ 2 ^ (32 * 64) := by
  have le : 2 ^ 17 ≤ 5147557589468029 * 2 ^ 280 ∧
      2 * (5147557589468029 * 2 ^ 280) ≤ 2 ^ (32 * 64) := by
    decide +kernel
  rw [show ofScientific 1 100 = ⟨5147557589468029, 280⟩ by decide +kernel]
  unfold value
  dsimp only
  rw [show ((280 : ℤ) = (280 : ℕ)) from rfl, zpow_natCast]
  exact_mod_cast le

/-- A scale that is multiplied in all the steps that there are goes beyond a number that is at most
so many times as great. -/
theorem lt_value_raise_of_le {limit : ℚ} {n : Nat} {factor : Extended} (power : Nat)
    {scale : Extended × Int} (grows : 2 ^ (n + 1) ≤ factor.value) (enough : limit ≤ 2 ^ (n * 64))
    (lt : x.value < limit * scale.1.value) :
    x.value < 2 * factor.value * (raise x factor power scalingSteps scale).1.value := by
  have half : 2 ^ n ≤ factor.value / 2 := by
    rw [pow_succ] at grows
    linarith
  have steps : 2 ^ (n * 64) ≤ (factor.value / 2) ^ scalingSteps := by
    rw [pow_mul]
    exact pow_le_pow_left₀ (by positivity) half 64
  apply lt_value_raise
  · exact (one_le_pow₀ one_le_two).trans grows
  · have nonneg := scale.1.value_nonneg
    rw [mul_comm]
    refine lt.trans_le ?_
    gcongr
    exact enough.trans steps

/-- No loop runs out of steps for a number below the bound of the doubles. -/
theorem lt_value_scale (lt : x.value < 2 ^ 1024) : x.value < 20 * (scale x).1.value := by
  obtain ⟨hundredth_ge, hundredth_le⟩ := value_hundredth_bounds
  have tenth_ge : 2 ^ 33 ≤ (ofScientific 1 10).value := by
    rw [value_tenth]
    norm_num
  have tenth_le : 2 * (ofScientific 1 10).value ≤ 2 ^ (1 * 64) := by
    rw [value_tenth]
    norm_num
  have ten_ge : 2 ^ 2 ≤ (ofNat 10).value := by
    rw [value_ofNat]
    norm_num
  let first : Extended × ℤ := (ofNat 1, 0)
  have start : x.value < 2 ^ (16 * 64) * first.1.value := by
    rw [value_ofNat, Nat.cast_one, mul_one]
    exact lt
  -- What is left after one loop is little enough for the next.
  have hundredths := lt_value_raise_of_le 100 hundredth_ge le_rfl start
  have tenths := lt_value_raise_of_le 10 tenth_ge hundredth_le hundredths
  have ones := lt_value_raise_of_le 1 ten_ge tenth_le tenths
  rw [value_ofNat] at ones
  norm_num at ones
  exact ones

theorem scaled_eq (x : Extended) :
    scaled x = lift (ofNat 1) (ofNat 10) 1 scalingSteps
      (lift (ofScientific 1 (-8)) (ofScientific 1 8) 8 scalingSteps
        (x.div (scale x).1, (scale x).2)) := by
  unfold scaled scale
  dsimp only

/-- A number below the bound of the doubles is scaled to one with few digits before its point. -/
theorem value_scaled_le (lt : x.value < 2 ^ 1024) : (scaled x).1.value ≤ 40 := by
  have eighth : (ofScientific 1 (-8)).value * (ofScientific 1 8).value ≤ 2 := by
    rw [show ofScientific 1 (-8) = ⟨6044629098073146, -79⟩ by decide +kernel,
      show ofScientific 1 8 = ⟨6710886400000000, -26⟩ by decide +kernel]
    norm_num [value]
  have below := lt_value_scale lt
  have pos : 0 < (scale x).1.value := by
    have nonneg := x.value_nonneg
    linarith
  have quotient : (x.div (scale x).1).value ≤ 40 := by
    refine (value_div_le x pos).trans ?_
    rw [← le_div_iff₀' two_pos, div_le_iff₀ pos]
    linarith
  have lifted : (lift (ofScientific 1 (-8)) (ofScientific 1 8) 8 scalingSteps
      (x.div (scale x).1, (scale x).2)).1.value ≤ 40 := by
    apply value_lift_le
    · dsimp only
      exact quotient
    · linarith
  rw [scaled_eq]
  apply value_lift_le
  · exact lifted
  · rw [value_ofNat, value_ofNat]
    norm_num

theorem value_halfUnit_le : Binary64.halfUnit.value ≤ 1 := by
  rw [show Binary64.halfUnit = ⟨6338253001141148, -100⟩ by decide +kernel]
  norm_num [value]

end Extended

/-! ### Numerals -/

namespace Binary64

variable {digits : Text}

theorem isAscii_signText (negative : Bool) : (Decimal.signText negative).IsAscii := by
  cases negative <;> decide

theorem isAscii_withoutEndZeros (h : digits.IsAscii) : (withoutEndZeros digits).IsAscii := by
  intro c mem
  have mem := (List.dropWhile_sublist _).subset (List.mem_reverse.1 mem)
  exact h c (List.mem_reverse.1 mem)

theorem isAscii_positionalText (h : digits.IsAscii) (place : Int) :
    (positionalText digits place).IsAscii := by
  have fill (n : Nat) : Text.IsAscii (List.replicate n ('0' : CodePoint)) := by
    intro c mem
    rw [List.eq_of_mem_replicate mem]
    decide
  unfold positionalText
  dsimp only
  split
  · exact ((by decide : Text.IsAscii (Text.ofString "0.")).append (fill _)).append h
  · split
    · exact (h.append (fill _)).append (by decide)
    · refine .append (fun c mem => h c (List.mem_of_mem_take mem)) (.cons (by decide) ?_)
      exact fun c mem => h c (List.mem_of_mem_drop mem)

theorem isAscii_exponentText (exponent : Int) : (exponentText exponent).IsAscii := by
  have numeral := Text.IsAscii.ofNat exponent.natAbs
  unfold exponentText
  refine .cons (by decide) (.cons ?_ ?_)
  · split <;> decide
  · split
    · exact .cons (by decide) numeral
    · exact numeral

/-- Every finite double is below a power of two. -/
theorem IsDouble.value_lt {negative : Bool} {significand : Nat} {exponent : Int}
    (h : IsDouble (.finite negative significand exponent)) :
    (⟨significand, exponent⟩ : Extended).value < 2 ^ 1024 := by
  obtain ⟨bits, -, le⟩ := h
  have bits : (significand : ℚ) < 2 ^ 53 := by exact_mod_cast bits
  have le : (2 : ℚ) ^ exponent ≤ 2 ^ (971 : ℤ) := zpow_le_zpow_right₀ one_le_two le
  have pos : (0 : ℚ) < 2 ^ exponent := zpow_pos two_pos _
  calc (significand : ℚ) * 2 ^ exponent
      < 2 ^ 53 * 2 ^ exponent := by gcongr
    _ ≤ 2 ^ 53 * 2 ^ (971 : ℤ) := by gcongr
    _ = 2 ^ 1024 := by rw [zpow_ofNat, ← pow_add]

/-- The digits that are kept of a double are written in ASCII. -/
theorem isAscii_significant {significand : Nat} {exponent : Int}
    (lt : (⟨significand, exponent⟩ : Extended).value < 2 ^ 1024) :
    (significant significand exponent).1.IsAscii := by
  have scaled := Extended.value_scaled_le lt
  have half := Extended.value_halfUnit_le
  unfold significant
  generalize Extended.scaled ⟨significand, exponent⟩ = start at scaled
  obtain ⟨x, power⟩ := start
  dsimp only at scaled ⊢
  have sum := Extended.value_add_le x halfUnit
  split
  · -- A number of two digits before its point is divided by ten.
    have tenth : (Extended.ofScientific 1 (-1)).value ≤ 1 / 5 := by
      rw [show Extended.ofScientific 1 (-1) = ⟨7205759403792794, -56⟩ by decide +kernel]
      norm_num [Extended.value]
    have product := (Extended.value_mul_bounds (x.add halfUnit) (Extended.ofScientific 1 (-1))).2
    have nonneg := (x.add halfUnit).value_nonneg
    refine Extended.isAscii_digits _ ?_
    nlinarith only [product, tenth, nonneg, sum, scaled, half]
  next below =>
    rw [Extended.isAtMost_iff, not_le, Extended.value_ofNat] at below
    exact Extended.isAscii_digits _ (below.trans (by norm_num))

/-- The numeral of a double is written in ASCII. -/
theorem isAscii_numeral {x : Binary64} {t : Text} (isDouble : x.IsDouble)
    (h : x.numeral = some t) : t.IsAscii := by
  cases x with
  | nan => cases h
  | infinite negative =>
    obtain rfl := Option.some.inj h
    exact (isAscii_signText negative).append (by decide)
  | finite negative significand exponent =>
    rw [numeral] at h
    by_cases zero : significand = 0
    · rw [if_pos zero] at h
      obtain rfl := Option.some.inj h
      decide
    · rw [if_neg zero] at h
      have kept := isAscii_withoutEndZeros (isAscii_significant isDouble.value_lt)
      generalize significant significand exponent = parts at h kept
      obtain ⟨digits, power⟩ := parts
      obtain rfl := Option.some.inj h
      refine (isAscii_signText negative).append ?_
      split
      · exact isAscii_positionalText kept _
      · exact (isAscii_positionalText kept _).append (isAscii_exponentText _)

end Binary64

end Storefront
