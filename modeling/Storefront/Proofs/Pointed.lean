import Mathlib.Data.List.Induction
import Mathlib.Tactic.Ring
import Storefront.Json.Reader
import Storefront.Proofs.Numeral

/-!
# Numerals with a point

A row of ASCII digits, with or without a point in it, behind a sign or none and in front of an
exponent or none, is read as the decimal whose coefficient is the number of all its digits. Nothing
is trimmed or left out on the way.

## Main definitions

* `Text.numeralValue` — the number that ASCII digits write
* `Text.pointed` — digits with a point among them

## Main results

* `Decimal.splitDigits_append` — digits are split off up to what is none
* `Decimal.readExponent_of_signed` — an exponent with a sign is read
* `Decimal.read_pointed_eq_ofParts` — a numeral with a point is read
* `Decimal.read_pointedText_eq_ofParts` — digits that are written with a point are read back
-/

namespace Storefront

/-! ### The values of digits -/

/-- Digits that follow others make these count for more. -/
theorem valueOfDigits_append (first second : List Nat) :
    valueOfDigits (first ++ second) =
      valueOfDigits first * 10 ^ second.length + valueOfDigits second := by
  induction second using List.reverseRecOn with
  | nil => simp [valueOfDigits]
  | append_singleton rest d ih =>
    rw [← List.append_assoc, valueOfDigits_append_singleton, valueOfDigits_append_singleton, ih,
      List.length_append, List.length_singleton, pow_succ]
    ring

theorem valueOfDigits_lt {digits : List Nat} (small : ∀ d ∈ digits, d ≤ 9) :
    valueOfDigits digits < 10 ^ digits.length := by
  induction digits using List.reverseRecOn with
  | nil => decide
  | append_singleton rest d ih =>
    have before := ih fun digit mem => small digit (List.mem_append_left _ mem)
    have last := small d (by simp)
    rw [valueOfDigits_append_singleton, List.length_append, List.length_singleton, pow_succ]
    omega

/-- Only a letter itself and its capital have it as their small letter. -/
theorem CodePoint.eq_or_of_toLower {c d : CodePoint} (small : c.toLower = d) :
    c = d ∨ c.toNat + 0x20 = d.toNat := by
  unfold toLower at small
  split at small
  next capital =>
    simp only [Bool.and_eq_true, decide_eq_true_eq] at capital
    rw [← small, toNat_ofNat (by omega)]
    exact .inr rfl
  next => exact .inl small

namespace Text

/-- A text of ASCII digits. -/
abbrev IsDigits (t : Text) : Prop := ∀ c ∈ t, 0x30 ≤ c.toNat ∧ c.toNat ≤ 0x39

/-- The number that ASCII digits write. -/
def numeralValue (t : Text) : Nat := valueOfDigits (t.map (·.toNat - 0x30))

@[simp] theorem numeralValue_ofNat (n : Nat) : numeralValue (ofNat n) = n := valueOfDigits_ofNat n

theorem numeralValue_append (s t : Text) :
    numeralValue (s ++ t) = numeralValue s * 10 ^ t.length + numeralValue t := by
  rw [numeralValue, List.map_append, valueOfDigits_append, List.length_map]
  rfl

/-- A row of zeros. -/
abbrev zeros (n : Nat) : Text := List.replicate n ('0' : CodePoint)

@[simp] theorem numeralValue_zeros (n : Nat) : numeralValue (zeros n) = 0 := by
  induction n with
  | zero => rfl
  | succ n ih =>
    rw [zeros, List.replicate_succ', numeralValue_append, ih]
    rfl

theorem isDigits_zeros (n : Nat) : (zeros n).IsDigits := by
  intro c mem
  rw [List.eq_of_mem_replicate mem]
  decide

theorem IsDigits.append {s t : Text} (hs : s.IsDigits) (ht : t.IsDigits) : (s ++ t).IsDigits :=
  fun c mem => (List.mem_append.1 mem).elim (hs c) (ht c)

theorem numeralValue_lt {t : Text} (digits : t.IsDigits) : numeralValue t < 10 ^ t.length := by
  have small : ∀ d ∈ t.map (·.toNat - 0x30), d ≤ 9 := by
    rintro _ mem
    obtain ⟨c, found, rfl⟩ := List.mem_map.1 mem
    have := digits c found
    omega
  have lt := valueOfDigits_lt small
  rwa [List.length_map] at lt

/-- Digits with a point in front of the last of them, or without a point if none is to follow. -/
def pointed (whole fraction : Text) : Text :=
  whole ++ (if fraction.isEmpty then [] else ('.' : CodePoint) :: fraction)

end Text

namespace Decimal

variable {t whole fraction rest : Text} {exponent : Int}

/-! ### What is left out of a numeral -/

theorem bounds_of_isNumeric {c : CodePoint} (numeric : Json.isNumeric c = true) :
    0x2B ≤ c.toNat ∧ c.toNat ≤ 0x65 ∧ c.toNat ≠ 0x5F := by
  simp only [Json.isNumeric, Bool.or_eq_true, decide_eq_true_eq] at numeric
  have known : ∀ mark ∈ (['-', '+', '.', 'e', 'E'] : Text),
      0x2B ≤ mark.toNat ∧ mark.toNat ≤ 0x65 ∧ mark.toNat ≠ 0x5F := by
    decide
  rcases numeric with ((((digit | rfl) | rfl) | rfl) | rfl) | rfl
  · unfold CodePoint.asciiDigit? at digit
    split at digit
    next range =>
      simp only [Bool.and_eq_true, decide_eq_true_eq] at range
      omega
    next => cases digit
  all_goals exact known _ (by simp)

theorem isNumeric_of_digit {c : CodePoint} (digit : 0x30 ≤ c.toNat ∧ c.toNat ≤ 0x39) :
    Json.isNumeric c = true := by
  simp [Json.isNumeric, CodePoint.asciiDigit?, digit]

theorem isBlank_of_isNumeric {c : CodePoint} (numeric : Json.isNumeric c = true) :
    c.isBlank = false := by
  have bounds := bounds_of_isNumeric numeric
  have low : ¬c.toNat ≤ 0x20 := by omega
  have high : c.toNat < 0x85 := by omega
  simp [CodePoint.isBlank, blankRanges, Text.Ranges.contains]
  omega

theorem plainDigit_of_isNumeric {c : CodePoint} (numeric : Json.isNumeric c = true) :
    plainDigit c = c := by
  have bounds := bounds_of_isNumeric numeric
  unfold plainDigit CodePoint.digit?
  rw [if_pos (by omega), CodePoint.asciiDigit?]
  split
  next d value =>
    split at value
    next range =>
      simp only [Bool.and_eq_true, decide_eq_true_eq] at range
      have back : 0x30 + d = c.toNat := by
        have := Option.some.inj value
        omega
      rw [back, CodePoint.ofNat_toNat]
    next => cases value
  next => rfl

/-- A text without blanks has nothing to trim. -/
theorem strip_of_isBlank (unblank : ∀ c ∈ t, c.isBlank = false) : t.strip = t := by
  have start {s : Text} (unblank : ∀ c ∈ s, c.isBlank = false) : s.stripStart = s := by
    cases s with
    | nil => rfl
    | cons c rest => exact Text.stripStart_eq_self (unblank c List.mem_cons_self)
  unfold Text.strip
  rw [start unblank, start fun c mem => unblank c (List.mem_reverse.1 mem), List.reverse_reverse]

/-- Nothing that numerals are made of is trimmed, left out or written in another way. -/
theorem plain_of_isNumeric (numeric : ∀ c ∈ t, Json.isNumeric c = true) :
    (t.strip.filter (· != ('_' : CodePoint))).map plainDigit = t := by
  have kept : t.filter (· != ('_' : CodePoint)) = t := by
    refine List.filter_eq_self.2 fun c mem => ?_
    rw [bne_iff_ne]
    rintro rfl
    exact absurd (numeric _ mem) (by decide)
  rw [strip_of_isBlank fun c mem => isBlank_of_isNumeric (numeric c mem), kept,
    List.map_congr_left fun c mem => plainDigit_of_isNumeric (numeric c mem)]
  exact List.map_id t

/-! ### The parts of a numeral -/

/-- Digits are split off up to what is none. -/
theorem splitDigits_append (digits : t.IsDigits)
    (stops : ∀ c, rest.head? = some c → c.asciiDigit? = none) :
    splitDigits (t ++ rest) = (t.map (·.toNat - 0x30), rest) := by
  have isDigit : ∀ c ∈ t, c.asciiDigit?.isSome = true := fun c mem => by
    simp [CodePoint.asciiDigit?, digits c mem]
  have run : (t ++ rest).takeWhile (fun c => c.asciiDigit?.isSome) = t := by
    rw [List.takeWhile_append_of_pos isDigit]
    cases rest with
    | nil => simp
    | cons c more => simp [stops c rfl]
  unfold splitDigits
  dsimp only
  rw [run, List.drop_left, Text.filterMap_asciiDigit?_of_ascii digits]

theorem splitDigits_of_isDigits (digits : t.IsDigits) :
    splitDigits t = (t.map (·.toNat - 0x30), []) := by
  have split := splitDigits_append digits
    fun c (start : ([] : Text).head? = some c) => nomatch start
  rwa [List.append_nil] at split

/-- An exponent is read that is written as its letter, its sign and its digits. -/
theorem readExponent_of_signed {letter : CodePoint} (small : letter.toLower = ('e' : CodePoint))
    (nonempty : t ≠ []) (digits : t.IsDigits) (value : t.numeralValue = exponent.natAbs) :
    readExponent (letter :: (if exponent < 0 then ('-' : CodePoint) else '+') :: t) =
      some exponent := by
  obtain ⟨c, more, rfl⟩ := List.exists_cons_of_ne_nil nonempty
  have sign : Integer.splitSign
      ((if exponent < 0 then ('-' : CodePoint) else '+') :: c :: more) =
        (decide (exponent < 0), c :: more) := by
    split
    next below =>
      rw [decide_eq_true below]
      rfl
    next above =>
      rw [decide_eq_false above]
      rfl
  change valueOfDigits ((c.toNat - 0x30) :: more.map (·.toNat - 0x30)) = _ at value
  rw [readExponent, if_pos small, sign]
  dsimp only
  rw [splitDigits_of_isDigits digits, List.map_cons]
  dsimp only
  rw [value]
  simp only [decide_eq_true_eq]
  congr 1
  split <;> omega

/-- The letter of an exponent may be small or a capital. -/
theorem eq_or_eq_of_toLower {c : CodePoint} (small : c.toLower = ('e' : CodePoint)) :
    c = ('e' : CodePoint) ∨ c = ('E' : CodePoint) := by
  rcases CodePoint.eq_or_of_toLower small with rfl | capital
  · exact .inl rfl
  · change c.toNat + 0x20 = 0x65 at capital
    exact .inr (CodePoint.ext (show c.toNat = 0x45 by omega))

/-- It is beyond the digits. -/
theorem le_of_toLower {c : CodePoint} (small : c.toLower = ('e' : CodePoint)) :
    0x45 ≤ c.toNat := by
  rcases eq_or_eq_of_toLower small with rfl | rfl <;> decide

/-- What writes an exponent starts with its letter, if with anything. -/
theorem le_of_readExponent (read : readExponent rest = some exponent) {c : CodePoint}
    (start : rest.head? = some c) : 0x45 ≤ c.toNat := by
  cases rest with
  | nil => cases start
  | cons d more =>
    obtain rfl : d = c := Option.some.inj start
    by_cases letter : d.toLower = ('e' : CodePoint)
    · exact le_of_toLower letter
    · rw [readExponent, if_neg letter] at read
      cases read

/-- Digits with a point and an exponent are taken apart at these. -/
theorem readFinite_pointed (nonempty : whole ≠ []) (digits : whole.IsDigits)
    (places : fraction.IsDigits) (read : readExponent rest = some exponent) (negative : Bool) :
    readFinite negative (Text.pointed whole fraction ++ rest) =
      ofParts negative (Text.numeralValue (whole ++ fraction)) (exponent - fraction.length) := by
  have stops : ∀ c, rest.head? = some c → c.asciiDigit? = none := fun c start => by
    have letter := le_of_readExponent read start
    rw [CodePoint.asciiDigit?, if_neg]
    simp only [Bool.and_eq_true, decide_eq_true_eq]
    omega
  -- Behind the first digits there is the point, or else the exponent.
  have split : ∃ after, splitDigits (Text.pointed whole fraction ++ rest) =
      (whole.map (·.toNat - 0x30), after) ∧
      splitFraction after = (fraction.map (·.toNat - 0x30), rest) := by
    cases fraction with
    | nil =>
      refine ⟨rest, ?_, ?_⟩
      · rw [Text.pointed, List.isEmpty_nil, if_pos rfl, List.append_nil]
        exact splitDigits_append digits stops
      · cases rest with
        | nil => rfl
        | cons c more =>
          have other : c ≠ ('.' : CodePoint) := by
            rintro rfl
            exact absurd (le_of_readExponent read rfl) (by decide)
          exact if_neg other
    | cons d more =>
      refine ⟨('.' : CodePoint) :: (d :: more ++ rest), ?_, splitDigits_append places stops⟩
      rw [Text.pointed, List.isEmpty_cons, if_neg Bool.false_ne_true, List.append_assoc]
      refine splitDigits_append digits fun c start => ?_
      rw [← Option.some.inj start]
      decide
  obtain ⟨after, first, second⟩ := split
  obtain ⟨c, more, rfl⟩ := List.exists_cons_of_ne_nil nonempty
  unfold readFinite
  rw [first]
  dsimp only
  rw [second]
  dsimp only
  rw [read, Text.numeralValue, List.map_append, List.length_map]
  rfl

/-- A coefficient with few digits and an exponent that is not far from zero make a decimal. -/
theorem ofParts_of_bounds {coefficient n : Nat} (lt : coefficient < 10 ^ n)
    (high : exponent + n ≤ maxExponent) (low : minExponent ≤ exponent) (negative : Bool) :
    ofParts negative coefficient exponent = .ok (.finite negative coefficient exponent) := by
  unfold ofParts
  dsimp only
  refine if_neg ?_
  rw [Bool.or_eq_true, decide_eq_true_eq, decide_eq_true_eq, not_or, not_lt, not_lt]
  refine ⟨?_, low⟩
  split
  next => omega
  next nonzero =>
    have pos : 0 < n := by
      refine Nat.pos_of_ne_zero fun zero => ?_
      rw [zero, pow_zero] at lt
      omega
    have few : digitCount coefficient ≤ n := (Nat.length_toDigits_le_iff (by decide) pos).2 lt
    omega

theorem splitSign_signText {c : CodePoint} (digit : 0x30 ≤ c.toNat) (negative : Bool) (t : Text) :
    Integer.splitSign (signText negative ++ c :: t) = (negative, c :: t) := by
  cases negative with
  | true => rfl
  | false =>
    have notSign (mark : CodePoint) (low : mark.toNat < 0x30) : c ≠ mark := by
      rintro rfl
      omega
    change Integer.splitSign (c :: t) = _
    rw [Integer.splitSign, if_neg (notSign '-' (by decide)), if_neg (notSign '+' (by decide))]

/-- What starts with a digit is no word. -/
theorem readSpecial_of_digit {c : CodePoint} (digit : c.toNat ≤ 0x39) (negative : Bool) (t : Text) :
    readSpecial negative (c :: t) = none := by
  have kept : c.toLower = c := by
    rw [CodePoint.toLower, if_neg]
    simp only [Bool.and_eq_true, decide_eq_true_eq]
    omega
  have name : Text.toLower (c :: t) = c :: t.toLower := by
    rw [Text.toLower, List.map_cons, kept]
    rfl
  -- All words start with a letter.
  have other {word : Text} (letter : ∃ d rest, word = d :: rest ∧ 0x39 < d.toNat) :
      ¬word <+: c :: t.toLower := by
    obtain ⟨d, rest, rfl, high⟩ := letter
    rw [List.cons_prefix_cons]
    rintro ⟨rfl, -⟩
    omega
  have different {word : Text} (letter : ∃ d rest, word = d :: rest ∧ 0x39 < d.toNat) :
      c :: t.toLower ≠ word := fun same => other letter (same ▸ List.prefix_rfl)
  have inf : c :: t.toLower ≠ Text.ofString "inf" := different ⟨'i', _, rfl, by decide⟩
  have infinity : c :: t.toLower ≠ Text.ofString "infinity" := different ⟨'i', _, rfl, by decide⟩
  have nan : ¬Text.ofString "nan" <+: c :: t.toLower := other ⟨'n', _, rfl, by decide⟩
  have snan : ¬Text.ofString "snan" <+: c :: t.toLower := other ⟨'s', _, rfl, by decide⟩
  unfold readSpecial
  dsimp only
  rw [name, if_neg (by simp [inf, infinity]), if_neg nan, if_neg snan]

/-- Numerals are made of nothing else. -/
theorem isNumeric_of_mem_pointed (digits : whole.IsDigits) (places : fraction.IsDigits)
    (numeric : ∀ c ∈ rest, Json.isNumeric c = true) (negative : Bool) :
    ∀ c ∈ signText negative ++ (Text.pointed whole fraction ++ rest),
      Json.isNumeric c = true := by
  intro c mem
  rcases List.mem_append.1 mem with sign | mem
  · cases negative with
    | false => cases sign
    | true =>
      obtain rfl := List.mem_singleton.1 sign
      decide
  rcases List.mem_append.1 mem with pointed | mem
  · rcases List.mem_append.1 pointed with before | behind
    · exact isNumeric_of_digit (digits c before)
    · split at behind
      next => cases behind
      next =>
        rcases List.mem_cons.1 behind with rfl | behind
        · decide
        · exact isNumeric_of_digit (places c behind)
  · exact numeric c mem

/-- Digits with or without a point, behind a sign or none and in front of an exponent or none, are
read as the decimal that has all of them in its coefficient, if its exponent is within bounds. -/
theorem read_pointed_eq_ofParts (nonempty : whole ≠ []) (digits : whole.IsDigits)
    (places : fraction.IsDigits) (numeric : ∀ c ∈ rest, Json.isNumeric c = true)
    (read : readExponent rest = some exponent) (negative : Bool) :
    Decimal.read (signText negative ++ (Text.pointed whole fraction ++ rest)) =
      ofParts negative (Text.numeralValue (whole ++ fraction)) (exponent - fraction.length) := by
  have plain := isNumeric_of_mem_pointed digits places numeric negative
  rw [← readFinite_pointed nonempty digits places read negative]
  -- The digits start behind the sign, so they are neither a sign nor a word.
  obtain ⟨c, more, rfl⟩ := List.exists_cons_of_ne_nil nonempty
  have first := digits c List.mem_cons_self
  obtain ⟨tail, body⟩ : ∃ tail, Text.pointed (c :: more) fraction ++ rest = c :: tail := ⟨_, rfl⟩
  unfold Decimal.read
  dsimp only
  rw [plain_of_isNumeric plain, body, splitSign_signText first.1]
  dsimp only
  rw [readSpecial_of_digit first.2]

theorem read_pointed (nonempty : whole ≠ []) (digits : whole.IsDigits)
    (places : fraction.IsDigits) (numeric : ∀ c ∈ rest, Json.isNumeric c = true)
    (read : readExponent rest = some exponent) (high : exponent + whole.length ≤ maxExponent)
    (low : minExponent ≤ exponent - fraction.length) (negative : Bool) :
    Decimal.read (signText negative ++ (Text.pointed whole fraction ++ rest)) =
      .ok (.finite negative (Text.numeralValue (whole ++ fraction))
        (exponent - fraction.length)) := by
  rw [read_pointed_eq_ofParts nonempty digits places numeric read]
  refine ofParts_of_bounds (Text.numeralValue_lt (digits.append places)) ?_ low negative
  rw [List.length_append]
  omega

/-- The numeral of a number is read as that number, if it is not too long. -/
theorem read_ofNat {n : Nat} (short : digitCount n ≤ maxExponent) :
    Decimal.read (Text.ofNat n) = .ok (.finite false n 0) := by
  have unscaled : readExponent [] = some 0 := rfl
  have none : Text.IsDigits [] := fun _ mem => nomatch mem
  have read := read_pointed (Text.ofNat_ne_nil n) (fun c => Text.ascii_of_mem_ofNat) none (by simp)
    unscaled (by rwa [zero_add, Text.length_ofNat]) (by decide) false
  rw [Text.pointed, List.isEmpty_nil, if_pos rfl, List.append_nil, List.append_nil,
    Text.numeralValue_ofNat] at read
  exact read

/-! ### Digits that are written with a point -/

/-- The point stands behind a digit, be it a zero that is written for it. -/
theorem pointedText_eq (nonempty : t ≠ []) (place : Int) :
    pointedText t place =
      if place ≤ 0 then Text.pointed (Text.zeros 1) (Text.zeros (-place).toNat ++ t)
      else Text.pointed (t.take place.toNat) (t.drop place.toNat) := by
  unfold pointedText
  split
  · obtain ⟨c, more, rfl⟩ := List.exists_cons_of_ne_nil nonempty
    rw [Text.pointed, if_neg (by simp), List.append_assoc]
    rfl
  · split
    next whole =>
      have all : t.take place.toNat = t := List.take_of_length_le (List.drop_eq_nil_iff.1 whole)
      rw [whole, all, Text.pointed, List.isEmpty_nil, if_pos rfl, List.append_nil]
    next before behind =>
      rw [Text.pointed, if_neg (by rwa [List.isEmpty_iff])]

/-- Digits that are written with a point are read as their number, with the power of ten that the
place of the point and the exponent make of it, if that is within bounds. -/
theorem read_pointedText_eq_ofParts (nonempty : t ≠ []) (digits : t.IsDigits) {place : Int}
    (within : place ≤ t.length) (numeric : ∀ c ∈ rest, Json.isNumeric c = true)
    (read : readExponent rest = some exponent) (negative : Bool) :
    Decimal.read (signText negative ++ (pointedText t place ++ rest)) =
      ofParts negative t.numeralValue (exponent + place - t.length) := by
  rw [pointedText_eq nonempty]
  split
  next before =>
    -- The zeros in front do not count.
    have value : Text.numeralValue (Text.zeros 1 ++ (Text.zeros (-place).toNat ++ t)) =
        t.numeralValue := by
      rw [Text.numeralValue_append, Text.numeralValue_append, Text.numeralValue_zeros,
        Text.numeralValue_zeros, Nat.zero_mul, Nat.zero_mul, Nat.zero_add, Nat.zero_add]
    have same : exponent + place - t.length =
        exponent - (Text.zeros (-place).toNat ++ t).length := by
      rw [List.length_append, List.length_replicate]
      omega
    rw [same, ← value]
    exact read_pointed_eq_ofParts (by simp) (Text.isDigits_zeros 1)
      ((Text.isDigits_zeros _).append digits) numeric read negative
  next inside =>
    have same : exponent + place - t.length = exponent - (t.drop place.toNat).length := by
      rw [List.length_drop]
      omega
    have value : Text.numeralValue (t.take place.toNat ++ t.drop place.toNat) =
        t.numeralValue := by
      rw [List.take_append_drop]
    have filled : t.take place.toNat ≠ [] := by
      rw [Ne, List.take_eq_nil_iff, not_or]
      exact ⟨by omega, nonempty⟩
    rw [same, ← value]
    exact read_pointed_eq_ofParts filled (fun c mem => digits c (List.mem_of_mem_take mem))
      (fun c mem => digits c (List.mem_of_mem_drop mem)) numeric read negative

theorem read_pointedText (nonempty : t ≠ []) (digits : t.IsDigits) {place : Int}
    (within : place ≤ t.length) (numeric : ∀ c ∈ rest, Json.isNumeric c = true)
    (read : readExponent rest = some exponent) (high : exponent + max place 1 ≤ maxExponent)
    (low : minExponent ≤ exponent + place - t.length) (negative : Bool) :
    Decimal.read (signText negative ++ (pointedText t place ++ rest)) =
      .ok (.finite negative t.numeralValue (exponent + place - t.length)) := by
  rw [read_pointedText_eq_ofParts nonempty digits within numeric read]
  exact ofParts_of_bounds (Text.numeralValue_lt digits) (by omega) low negative

end Decimal

end Storefront
