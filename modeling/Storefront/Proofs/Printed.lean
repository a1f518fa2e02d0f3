import Storefront.Proofs.Pointed

/-!
# Numbers read back from their texts

The text of a decimal that was read is read as that decimal again: sign, coefficient and exponent
are kept, be it written with an exponent or without. The numeral of an integer that was read is
short enough to be read again.

## Main definitions

* `Decimal.IsInBounds` — finite decimals that can be read

## Main results

* `Integer.read_ofInt_of_read` — an integer that was read is read back from its numeral
* `Decimal.isInBounds_of_read` — a finite decimal that was read is within bounds
* `Decimal.read_text` — a decimal within bounds is read back from its text
-/

namespace Storefront

/-- The value of a digit of any script is a digit. -/
theorem CodePoint.digit?_le {c : CodePoint} {d : Nat} (h : c.digit? = some d) : d ≤ 9 := by
  unfold digit? at h
  split at h
  · unfold asciiDigit? at h
    split at h
    next range =>
      simp only [Bool.and_eq_true, decide_eq_true_eq] at range
      have := Option.some.inj h
      omega
    next => cases h
  · obtain ⟨base, found, rfl⟩ := Option.map_eq_some_iff.1 h
    have range := List.find?_some found
    simp only [Bool.and_eq_true, decide_eq_true_eq] at range
    omega

/-- The digits of a text write a number that has no more digits than they are. -/
theorem Text.valueOfDigits_filterMap_lt (t : Text) :
    valueOfDigits (t.filterMap CodePoint.digit?) <
      10 ^ (t.filterMap CodePoint.digit?).length := by
  refine valueOfDigits_lt fun d mem => ?_
  obtain ⟨c, -, found⟩ := List.mem_filterMap.1 mem
  exact CodePoint.digit?_le found

namespace Integer

variable {t : Text} {n : Int}

/-- An integer that was read has no more digits than the numerals that are read. -/
theorem digitCount_of_read (h : read t = .ok n) : digitCount n.natAbs ≤ maxDigits := by
  unfold read at h
  dsimp only at h
  split at h
  · cases h
  split at h
  · cases h
  next short =>
    split at h
    · obtain rfl := Except.ok.inj h
      have value {negative : Bool} {m : Nat} :
          (if negative then -(m : Int) else m).natAbs = m := by
        split <;> simp
      rw [value]
      refine (Nat.length_toDigits_le_iff (by decide) (by decide)).2 ?_
      exact (Text.valueOfDigits_filterMap_lt _).trans_le
        (Nat.pow_le_pow_right (by decide) (not_lt.1 short))
    · cases h

/-- An integer that was read is read back from its numeral. -/
theorem read_ofInt_of_read (h : read t = .ok n) (nonneg : 0 ≤ n) :
    read (Text.ofInt n) = .ok n := by
  obtain ⟨m, rfl⟩ := Int.eq_ofNat_of_zero_le nonneg
  exact read_ofNat (digitCount_of_read h)

end Integer

namespace Decimal

variable {t : Text} {d : Decimal} {negative : Bool} {coefficient : Nat} {exponent : Int}

/-- A finite decimal with an exponent that can be read. -/
def IsInBounds : Decimal → Prop
  | finite negative coefficient exponent =>
    ofParts negative coefficient exponent = .ok (.finite negative coefficient exponent)
  | _ => False

/-! ### What is read -/

theorem isInBounds_of_ofParts (h : ofParts negative coefficient exponent = .ok d) :
    d.IsInBounds := by
  have made := h
  unfold ofParts at h
  generalize (if coefficient = 0 then exponent else _) = leading at h
  dsimp only at h
  split at h
  · cases h
  · obtain rfl := Except.ok.inj h
    exact made

theorem isInBounds_of_readFinite (h : readFinite negative t = .ok d) : d.IsInBounds := by
  unfold readFinite at h
  dsimp only at h
  split at h
  · cases h
  · cases h
  · exact isInBounds_of_ofParts h

/-- What is written as a word is not finite. -/
theorem isFinite_of_readSpecial (h : readSpecial negative t = some d) : d.isFinite = false := by
  unfold readSpecial at h
  dsimp only at h
  split at h
  · obtain rfl := Option.some.inj h
    rfl
  split at h
  · obtain ⟨payload, -, rfl⟩ := Option.map_eq_some_iff.1 h
    rfl
  split at h
  · obtain ⟨payload, -, rfl⟩ := Option.map_eq_some_iff.1 h
    rfl
  · cases h

/-- A finite decimal that was read is within bounds. -/
theorem isInBounds_of_read (h : read t = .ok d) (finite : d.isFinite = true) : d.IsInBounds := by
  unfold read at h
  dsimp only at h
  split at h
  next special =>
    obtain rfl := Except.ok.inj h
    rw [isFinite_of_readSpecial special] at finite
    cases finite
  next => exact isInBounds_of_readFinite h

/-- Blanks write no decimal. -/
theorem isBlank_of_read (h : read t = .ok d) : t.isBlank = false := by
  rw [← Bool.not_eq_true, ← Text.strip_eq_nil_iff]
  intro blank
  unfold read at h
  rw [blank] at h
  cases h

/-! ### What is written -/

theorem readExponent_exponentText (exponent : Int) :
    readExponent (exponentText exponent) = some exponent :=
  readExponent_of_signed (by decide) (Text.ofNat_ne_nil _) (fun _ => Text.ascii_of_mem_ofNat)
    (Text.numeralValue_ofNat _)

theorem isNumeric_exponentText (exponent : Int) :
    ∀ c ∈ exponentText exponent, Json.isNumeric c = true := by
  intro c mem
  rcases List.mem_cons.1 mem with rfl | mem
  · decide
  rcases List.mem_cons.1 mem with rfl | mem
  · split <;> decide
  · exact isNumeric_of_digit (Text.ascii_of_mem_ofNat mem)

/-- A decimal within bounds is read back from its text, with its sign, its coefficient and its
exponent. -/
theorem read_text (h : d.IsInBounds) : read d.text = .ok d := by
  cases d with
  | finite negative coefficient exponent =>
    have nonempty := Text.ofNat_ne_nil coefficient
    have digits : (Text.ofNat coefficient).IsDigits := fun _ => Text.ascii_of_mem_ofNat
    have filled := digitCount_pos coefficient
    unfold text
    dsimp only
    split
    next plain =>
      -- The point stands in front of, behind or among the digits.
      have unscaled : readExponent [] = some 0 := rfl
      have within :
          exponent + (Text.ofNat coefficient).length ≤ (Text.ofNat coefficient).length := by
        omega
      have back := read_pointedText_eq_ofParts nonempty digits within (by simp) unscaled negative
      rw [List.append_nil, Text.numeralValue_ofNat, zero_add, add_sub_cancel_right] at back
      exact back.trans h
    next scaled =>
      -- The point stands behind the first digit, and the exponent makes up for it.
      have within : (1 : Int) ≤ (Text.ofNat coefficient).length := by
        rw [Text.length_ofNat]
        omega
      have back := read_pointedText_eq_ofParts nonempty digits within (isNumeric_exponentText _)
        (readExponent_exponentText (exponent + (Text.ofNat coefficient).length - 1)) negative
      rw [Text.numeralValue_ofNat, sub_add_cancel, add_sub_cancel_right] at back
      exact back.trans h
  | infinite negative => cases h
  | nan negative signaling payload => cases h

end Decimal

end Storefront
