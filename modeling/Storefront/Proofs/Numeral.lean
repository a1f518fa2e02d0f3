import Storefront.Shop.Accounts

/-!
# Numerals read back

The numeral of a natural number is read as that number, unless it is too long to be read at all. A
session that the shop itself has written holds such a numeral, and every number that a row can have
is short enough.

## Main results

* `Integer.read_ofNat` — a numeral is read as its number
* `userNumber_ofNat` — a session with the number of a row stands for that number
-/

namespace Storefront

theorem CodePoint.toNat_ofNat {n : Nat} (h : n < 0x110000) : (ofNat n).toNat = n := by
  simp [ofNat, h]

theorem CodePoint.ofNat_toNat (c : CodePoint) : ofNat c.toNat = c := by
  simp [ofNat, c.isLt]

/-- An ASCII digit is a digit with the value that it has among these. -/
theorem CodePoint.digit?_of_ascii {c : CodePoint} (h : 0x30 ≤ c.toNat ∧ c.toNat ≤ 0x39) :
    c.digit? = some (c.toNat - 0x30) := by
  rw [digit?, if_pos (by omega), asciiDigit?, if_pos (by simp [h])]

/-- A text without the separator is one piece. -/
theorem Text.splitAll_of_notMem {separator : CodePoint} {t : Text} (h : separator ∉ t) :
    t.splitAll separator = [t] := by
  -- The pieces found before play no part, so they are kept arbitrary in the induction.
  have run (piece : Text) (done : List Text) :
      splitAll.go separator t piece done = ((t.reverse ++ piece).reverse :: done).reverse := by
    induction t generalizing piece with
    | nil => simp [splitAll.go]
    | cons c rest ih =>
      rw [List.mem_cons, not_or] at h
      rw [splitAll.go, if_neg (Ne.symm h.1), ih h.2]
      simp
  simp [splitAll, run]

/-- What only has code points of a class is its own longest start of that class. -/
theorem Text.takeWhile_eq_self {isIn : CodePoint → Bool} {t : Text} (h : ∀ c ∈ t, isIn c = true) :
    t.takeWhile isIn = t := by
  have whole : (t ++ []).takeWhile isIn = t ++ [].takeWhile isIn :=
    List.takeWhile_append_of_pos h
  simpa using whole

/-- The digit values of ASCII digits. -/
theorem Text.filterMap_digit?_of_ascii {t : Text}
    (h : ∀ c ∈ t, 0x30 ≤ c.toNat ∧ c.toNat ≤ 0x39) :
    t.filterMap CodePoint.digit? = t.map (·.toNat - 0x30) := by
  induction t with
  | nil => rfl
  | cons c rest ih =>
    rw [List.filterMap_cons_some (CodePoint.digit?_of_ascii (h c List.mem_cons_self)),
      ih fun d hd => h d (List.mem_cons_of_mem c hd), List.map_cons]

theorem Text.filterMap_asciiDigit?_of_ascii {t : Text}
    (h : ∀ c ∈ t, 0x30 ≤ c.toNat ∧ c.toNat ≤ 0x39) :
    t.filterMap CodePoint.asciiDigit? = t.map (·.toNat - 0x30) := by
  induction t with
  | nil => rfl
  | cons c rest ih =>
    have value : c.asciiDigit? = some (c.toNat - 0x30) := by
      simp [CodePoint.asciiDigit?, h c List.mem_cons_self]
    rw [List.filterMap_cons_some value, List.map_cons,
      ih fun d mem => h d (List.mem_cons_of_mem c mem)]

theorem Text.ofNat_ne_nil (n : Nat) : Text.ofNat n ≠ [] := by
  simp [Text.ofNat]

/-- A numeral is made of ASCII digits. -/
theorem Text.ascii_of_mem_ofNat {n : Nat} {c : CodePoint} (h : c ∈ Text.ofNat n) :
    0x30 ≤ c.toNat ∧ c.toNat ≤ 0x39 := by
  obtain ⟨digit, mem, rfl⟩ := List.mem_map.1 h
  have isDigit := Nat.isDigit_of_mem_toDigits (by decide) (by decide) mem
  simp only [Char.isDigit, Bool.and_eq_true, decide_eq_true_eq, ge_iff_le,
    UInt32.le_iff_toNat_le] at isDigit
  exact isDigit

/-- Only the numeral of zero starts with a zero. -/
theorem Text.exists_ofNat_eq_cons {n : Nat} (pos : 0 < n) :
    ∃ c rest, Text.ofNat n = c :: rest ∧ c.toNat ≠ 0x30 := by
  -- By induction on the number: the first digit is that of the number without its last digit.
  induction n using Nat.strongRecOn with
  | ind n ih =>
    rw [Text.ofNat, Nat.toDigits_eq_if (by decide)]
    split
    next small =>
      refine ⟨n.digitChar, [], rfl, ?_⟩
      have all : ∀ d : Fin 10, 0 < d.val → (CodePoint.ofChar d.val.digitChar).toNat ≠ 0x30 := by
        decide
      exact all ⟨n, small⟩ pos
    next large =>
      obtain ⟨c, rest, same, nonzero⟩ := ih (n / 10) (by omega) (by omega)
      refine ⟨c, rest ++ [CodePoint.ofChar (n % 10).digitChar], ?_, nonzero⟩
      rw [List.map_append, ← Text.ofNat, same]
      rfl

/-- The digits of a numeral write its number. -/
theorem valueOfDigits_ofNat (n : Nat) :
    valueOfDigits ((Text.ofNat n).map (·.toNat - 0x30)) = n := by
  rw [Text.ofNat, List.map_map, valueOfDigits, List.foldl_map]
  exact Nat.ofDigitChars_ten_toDigits

namespace Integer

variable {t : Text} {n : Nat}

/-- A row of ASCII digits is read as the number that it writes. -/
theorem read_of_ascii (ne : t ≠ []) (digits : ∀ c ∈ t, 0x30 ≤ c.toNat ∧ c.toNat ≤ 0x39)
    (short : t.length ≤ maxDigits) :
    read t = .ok (valueOfDigits (t.map (·.toNat - 0x30)) : Nat) := by
  have isDigit : ∀ c ∈ t, c.isDigit = true := fun c hc => by
    rw [CodePoint.isDigit, CodePoint.digit?_of_ascii (digits c hc)]
    rfl
  obtain ⟨first, rest, rfl⟩ := List.exists_cons_of_ne_nil ne
  -- The first digit is neither a blank nor a sign, so nothing is cut off in front of it.
  have bounds := digits first List.mem_cons_self
  have start : (first :: rest).dropWhile isMargin = first :: rest := by
    have unblank : first.isBlank = false := by
      have low : ¬first.toNat ≤ 0x20 := by omega
      have high : first.toNat < 0x85 := by omega
      simp [CodePoint.isBlank, blankRanges, Text.Ranges.contains]
      omega
    simp [isMargin, unblank]
  have unsigned : splitSign (first :: rest) = (false, first :: rest) := by
    have notSign (c : CodePoint) (h : c.toNat < 0x30) : first ≠ c := by
      rintro rfl
      omega
    rw [splitSign, if_neg (notSign '-' (by decide)), if_neg (notSign '+' (by decide))]
  -- All digits make one group, and nothing is left behind it.
  have run : (first :: rest).takeWhile (fun c => c.isDigit || c = ('_' : CodePoint)) =
      first :: rest :=
    Text.takeWhile_eq_self fun c hc => by simp [isDigit c hc]
  have grouped : isGrouped (first :: rest) = true := by
    have plain : ('_' : CodePoint) ∉ first :: rest := fun mem => by
      have := digits _ mem
      revert this
      decide
    simp [isGrouped, Text.splitAll_of_notMem plain]
  have fits : ¬maxDigits < ((first :: rest).map (·.toNat - 0x30)).length := by
    rw [List.length_map]
    omega
  unfold read
  rw [start, unsigned]
  dsimp only
  rw [run, grouped, Text.filterMap_digit?_of_ascii digits, if_neg fits, List.drop_length]
  simp

theorem read_ofNat (short : digitCount n ≤ maxDigits) : read (Text.ofNat n) = .ok n := by
  rw [read_of_ascii (Text.ofNat_ne_nil n) fun c => Text.ascii_of_mem_ofNat]
  · rw [valueOfDigits_ofNat]
  · rwa [Text.length_ofNat]

end Integer

/-- The number of every row is short enough to be read back. -/
theorem digitCount_le_of_le_maxId {n : Nat} (h : n ≤ Store.maxId) :
    digitCount n ≤ Integer.maxDigits := by
  have short : digitCount n ≤ 19 :=
    (Nat.length_toDigits_le_iff (by decide) (by decide)).2 (Nat.lt_of_le_of_lt h (by decide))
  exact Nat.le_trans short (by decide)

theorem userNumber_ofNat {n : Nat} (h : n ≤ Store.maxId) :
    userNumber (.str (Text.ofNat n)) = .ok n := by
  simp [userNumber, Integer.read_ofNat (digitCount_le_of_le_maxId h)]

/-- The numbers that fit are those that a row can have. -/
theorem Cell.fits_natCast_iff {n : Nat} : Cell.fits n = true ↔ n ≤ Store.maxId := by
  rw [Cell.fits_iff, Cell.minInteger, Cell.maxInteger, Store.maxId]
  omega

theorem Cell.fits_ofNat {n : Nat} (h : n ≤ Store.maxId) : Cell.fits n = true :=
  Cell.fits_natCast_iff.2 h

end Storefront
