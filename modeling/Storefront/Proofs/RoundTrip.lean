import Storefront.Number.Shortest
import Storefront.Proofs.Nearest
import Storefront.Proofs.Pointed

/-!
# Doubles read back

A finite double is written in as few digits as tell it from all other doubles. Whoever reads the
text as a decimal and rounds that to a double has the same double again, sign included, whichever of
its forms the text has.

## Main results

* `Binary64.ofScientific_shortest` — the digits of a double are rounded to it
* `Binary64.read_text` — the text of a double is read as a decimal that is rounded to it
-/

namespace Storefront

/-- Zeros at the end of a coefficient make its power of ten less. -/
theorem mul_pow_mul_zpow (n zeros : Nat) (place : ℤ) :
    ((n * 10 ^ zeros : ℕ) * 10 ^ place : ℚ) = n * 10 ^ (place + zeros) := by
  rw [zpow_add₀ (by norm_num), zpow_natCast]
  push_cast
  ring

namespace Binary64

variable {significand n coefficient : Nat} {exponent place : ℤ}

/-! ### The shortest digits -/

theorem ofScientific_of_onGrid? (h : onGrid? significand exponent place = some n) :
    ofScientific false n place = .finite false significand exponent := by
  unfold onGrid? at h
  dsimp only at h
  generalize roundHalfEven _ _ = nearest at h
  generalize (if nearest = _ then _ + 1 else _) = other at h
  split at h
  next back =>
    cases h
    exact eq_of_beq back
  next =>
    split at h
    next back =>
      cases h
      exact eq_of_beq back
    next => cases h

theorem dropCarry_value (digits n : Nat) (place : ℤ) :
    ((dropCarry digits n place).1 * 10 ^ (dropCarry digits n place).2 : ℚ) = n * 10 ^ place := by
  unfold dropCarry
  split
  next carried =>
    have shifted := mul_pow_mul_zpow 1 digits place
    rw [one_mul] at shifted
    rw [carried, Nat.pow_eq, shifted]
  next => rfl

theorem exactDigits_value (significand : Nat) (exponent : ℤ) :
    ((exactDigits significand exponent).1 * 10 ^ (exactDigits significand exponent).2 : ℚ) =
      significand * 2 ^ exponent := by
  unfold exactDigits
  split
  next whole =>
    obtain ⟨n, rfl⟩ := Int.eq_ofNat_of_zero_le whole
    simp
  next fraction =>
    obtain ⟨n, rfl⟩ : ∃ n : Nat, exponent = -n := ⟨(-exponent).toNat, by omega⟩
    have half : (5 : ℚ) ^ n * 10 ^ (-n : ℤ) = 2 ^ (-n : ℤ) := by
      rw [zpow_neg, zpow_neg, zpow_natCast, zpow_natCast, ← div_eq_mul_inv,
        show (10 : ℚ) = 5 * 2 by norm_num, mul_pow]
      field_simp
    rw [neg_neg, Int.toNat_natCast, Nat.pow_eq, Nat.cast_mul, Nat.cast_pow, mul_assoc]
    exact congrArg _ half

/-- The digits of a positive double are rounded to it, whether they are the first that were tried
successfully or all that it has. -/
theorem ofScientific_shortest (pos : 0 < significand)
    (canonical : IsCanonical significand exponent) :
    ofScientific false (shortest significand exponent).1 (shortest significand exponent).2 =
      .finite false significand exponent := by
  unfold shortest
  dsimp only
  cases hit : (List.range 17).findSome? _ with
  | none =>
    exact ofScientific_of_isCanonical pos canonical (exactDigits_value significand exponent) false
  | some found =>
    obtain ⟨more, -, tried⟩ := List.exists_of_findSome?_eq_some hit
    obtain ⟨n, onGrid, rfl⟩ := Option.map_eq_some_iff.1 tried
    rw [Option.getD_some, ofScientific_congr (dropCarry_value _ _ _) false]
    exact ofScientific_of_onGrid? onGrid

/-- Two binary digits take no more than one decimal digit. -/
theorem digitCount_two_pow_le {m n : Nat} (pos : 0 < n) (le : m ≤ 2 * n) :
    digitCount (2 ^ m) ≤ n := by
  refine (Nat.length_toDigits_le_iff (by decide) pos).2 ?_
  calc 2 ^ m ≤ 2 ^ (2 * n) := Nat.pow_le_pow_right (by decide) le
    _ = 4 ^ n := Nat.pow_mul 2 2 n
    _ < 10 ^ n := Nat.pow_lt_pow_left (by decide) pos.ne'

/-- The least power of ten that a digit of a double can stand for is that of the least power of
two. -/
theorem minExponent_le_shortest (significand : Nat) (least : minExponent ≤ exponent) :
    minExponent ≤ (shortest significand exponent).2 := by
  have den : digitCount (ratio significand exponent).2 ≤ 537 := by
    refine digitCount_two_pow_le (by decide) ?_
    unfold minExponent at least
    omega
  have num := digitCount_pos (ratio significand exponent).1
  have leading : -537 ≤ floorLog10 (ratio significand exponent).1
      (ratio significand exponent).2 := by
    unfold floorLog10
    dsimp only
    split <;> omega
  unfold shortest
  dsimp only
  cases hit : (List.range 17).findSome? _ with
  | none =>
    rw [Option.getD_none, exactDigits]
    split
    · exact (by decide : minExponent ≤ 0)
    · exact least
  | some found =>
    obtain ⟨more, mem, tried⟩ := List.exists_of_findSome?_eq_some hit
    obtain ⟨n, -, rfl⟩ := Option.map_eq_some_iff.1 tried
    have few := List.mem_range.1 mem
    rw [Option.getD_some, dropCarry, minExponent]
    split
    · dsimp only
      omega
    · dsimp only
      omega

/-! ### Rounding with a sign -/

/-- A sign makes no difference to the rest of a double. -/
theorem ofRatio_sign {num den : Nat} {sign : Bool}
    (h : ofRatio false num den = .finite sign significand exponent) (negative : Bool) :
    ofRatio negative num den = .finite negative significand exponent := by
  unfold ofRatio at h ⊢
  dsimp only at h ⊢
  split_ifs at h ⊢ with zero carried room
  all_goals cases h; rfl

theorem ofScientific_sign {sign : Bool}
    (h : ofScientific false coefficient place = .finite sign significand exponent)
    (negative : Bool) :
    ofScientific negative coefficient place = .finite negative significand exponent := by
  unfold ofScientific at h ⊢
  dsimp only at h ⊢
  split
  next zero =>
    rw [if_pos zero] at h
    cases h
    rfl
  next nonzero =>
    rw [if_neg nonzero] at h
    split
    next beyond =>
      rw [if_pos beyond] at h
      cases h
    next within =>
      rw [if_neg within] at h
      split
      next below =>
        rw [if_pos below] at h
        cases h
        rfl
      next above =>
        rw [if_neg above] at h
        exact ofRatio_sign h negative

/-- A decimal that is rounded to a positive double has a digit, and is not beyond all doubles. -/
theorem place_le_of_ofScientific (pos : 0 < significand) {negative sign : Bool}
    (h : ofScientific negative coefficient place = .finite sign significand exponent) :
    place + digitCount coefficient ≤ 310 := by
  unfold ofScientific at h
  dsimp only at h
  split at h
  · cases h
    exact absurd pos (lt_irrefl 0)
  · split at h
    · cases h
    next within => exact not_lt.1 within

/-! ### The text -/

/-- The digits of an exponent, of which there are two at least. -/
theorem exists_exponentText_eq (exponent : ℤ) :
    ∃ digits : Text, digits.IsDigits ∧ digits ≠ [] ∧
      digits.numeralValue = exponent.natAbs ∧
      exponentText exponent =
        ('e' : CodePoint) :: (if exponent < 0 then ('-' : CodePoint) else '+') :: digits := by
  have numeral : (Text.ofNat exponent.natAbs).IsDigits := fun c => Text.ascii_of_mem_ofNat
  unfold exponentText
  dsimp only
  by_cases short : (Text.ofNat exponent.natAbs).length < 2
  · rw [if_pos short]
    refine ⟨Text.zeros 1 ++ Text.ofNat exponent.natAbs, (Text.isDigits_zeros 1).append numeral,
      by simp, ?_, rfl⟩
    rw [Text.numeralValue_append, Text.numeralValue_zeros, Nat.zero_mul, Nat.zero_add,
      Text.numeralValue_ofNat]
  · rw [if_neg short]
    exact ⟨_, numeral, Text.ofNat_ne_nil _, Text.numeralValue_ofNat _, rfl⟩

theorem readExponent_exponentText (exponent : ℤ) :
    Decimal.readExponent (exponentText exponent) = some exponent := by
  obtain ⟨digits, ascii, nonempty, value, text⟩ := exists_exponentText_eq exponent
  rw [text]
  exact Decimal.readExponent_of_signed (by decide) nonempty ascii value

theorem isNumeric_exponentText (exponent : ℤ) :
    ∀ c ∈ exponentText exponent, Json.isNumeric c = true := by
  obtain ⟨digits, ascii, -, -, text⟩ := exists_exponentText_eq exponent
  intro c mem
  rw [text] at mem
  rcases List.mem_cons.1 mem with rfl | mem
  · decide
  rcases List.mem_cons.1 mem with rfl | mem
  · split <;> decide
  · exact Decimal.isNumeric_of_digit (ascii c mem)

/-- The point stands in front of the digits or among them, as in a decimal, or else there are zeros
behind them, of which one comes after the point. -/
theorem positionalText_eq (t : Text) (place : ℤ) :
    positionalText t place =
      if place ≤ 0 ∨ place < t.length then Decimal.pointedText t place
      else Text.pointed (t ++ Text.zeros (place - t.length).toNat) (Text.zeros 1) := by
  unfold positionalText Decimal.pointedText
  dsimp only
  by_cases before : place ≤ 0
  · rw [if_pos before, if_pos (.inl before), if_pos before]
  rw [if_neg before, if_neg before]
  by_cases inside : place < t.length
  · rw [if_neg (not_le.2 inside), if_pos (.inr inside)]
    split
    next none =>
      have := List.drop_eq_nil_iff.1 none
      omega
    next => rfl
  · rw [if_pos (not_lt.1 inside), if_neg (not_or.2 ⟨before, inside⟩)]
    rfl

/-- Digits that are filled up with zeros on either side of the point are read with these. -/
theorem read_positionalText {t : Text} (nonempty : t ≠ []) (digits : t.IsDigits)
    (high : max place 1 ≤ Decimal.maxExponent) (low : Decimal.minExponent ≤ place - t.length)
    (negative : Bool) :
    ∃ n last, Decimal.read (Decimal.signText negative ++ positionalText t place) =
        .ok (.finite negative n last) ∧
      (n * 10 ^ last : ℚ) = t.numeralValue * 10 ^ (place - t.length) := by
  have unscaled : Decimal.readExponent [] = some 0 := rfl
  rw [positionalText_eq]
  split
  next within =>
    have least := List.length_pos_iff.2 nonempty
    have reach : place ≤ t.length := by omega
    have read := Decimal.read_pointedText nonempty digits reach (by simp) unscaled
      (by omega) (by omega) negative
    rw [List.append_nil, zero_add] at read
    exact ⟨_, _, read, rfl⟩
  next beyond =>
    have whole : ((t ++ Text.zeros (place - t.length).toNat).length : ℤ) = place := by
      rw [List.length_append, List.length_replicate]
      omega
    have bound : Decimal.minExponent ≤ -1 := by decide
    have filled : t ++ Text.zeros (place - t.length).toNat ≠ [] :=
      List.append_ne_nil_of_left_ne_nil nonempty _
    have read := Decimal.read_pointed filled (digits.append (Text.isDigits_zeros _))
      (Text.isDigits_zeros 1) (by simp) unscaled (by rw [whole]; omega) bound negative
    rw [List.append_nil] at read
    refine ⟨_, _, read, ?_⟩
    rw [List.append_assoc, Text.numeralValue_append, Text.numeralValue_append,
      Text.numeralValue_zeros, Text.numeralValue_zeros, Nat.zero_mul, Nat.add_zero,
      mul_pow_mul_zpow, List.length_append, List.length_replicate, List.length_replicate]
    congr 2
    omega

/-- The text of a finite double is read as a decimal that is rounded to it again. -/
theorem read_text (canonical : IsCanonical significand exponent) (negative : Bool) :
    ∃ d, Decimal.read (finite negative significand exponent).text = .ok d ∧
      ofDecimal d = .finite negative significand exponent := by
  rcases Nat.eq_zero_or_pos significand with rfl | pos
  · -- There is only one zero of either sign.
    have least : exponent = minExponent := by
      rcases canonical.full with least | full
      · exact least
      · exact absurd full (by decide)
    rw [least]
    cases negative with
    | false => exact ⟨.finite false 0 (-1), rfl, rfl⟩
    | true => exact ⟨.finite true 0 (-1), rfl, rfl⟩
  have rounded := ofScientific_shortest pos canonical
  have last := minExponent_le_shortest significand canonical.least
  unfold text
  dsimp only
  rw [if_neg pos.ne']
  generalize shortest significand exponent = parts at rounded last
  obtain ⟨coefficient, place⟩ := parts
  dsimp only at rounded last ⊢
  have bound := place_le_of_ofScientific pos rounded
  have signed := ofScientific_sign rounded negative
  have digits : (Text.ofNat coefficient).IsDigits := fun c => Text.ascii_of_mem_ofNat
  have count := digitCount_pos coefficient
  have low : Decimal.minExponent ≤ minExponent := by decide
  have high : 310 ≤ Decimal.maxExponent := by decide
  generalize point : place + ((Text.ofNat coefficient).length : ℤ) = first
  rw [Text.length_ofNat] at point
  have power : first - digitCount coefficient = place := by omega
  have most : max first 1 ≤ Decimal.maxExponent := by omega
  split
  · obtain ⟨n, scale, read, value⟩ := read_positionalText (Text.ofNat_ne_nil coefficient) digits
      most (by rw [Text.length_ofNat]; omega) negative
    refine ⟨_, read, (ofScientific_congr ?_ negative).trans signed⟩
    rw [value, Text.numeralValue_ofNat, Text.length_ofNat, power]
  · have within : 1 ≤ ((Text.ofNat coefficient).length : ℤ) := by
      rw [Text.length_ofNat]
      omega
    have read := Decimal.read_pointedText (Text.ofNat_ne_nil coefficient) digits within
      (isNumeric_exponentText (first - 1)) (readExponent_exponentText _) (by omega)
      (by rw [Text.length_ofNat]; omega) negative
    rw [Text.length_ofNat, Text.numeralValue_ofNat, sub_add_cancel, power] at read
    exact ⟨_, read, signed⟩

end Binary64

end Storefront
