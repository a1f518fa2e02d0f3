import Storefront.Json.Printer
import Storefront.Proofs.Grammar

/-!
# Strings as they are written

What is written of a text is a JSON string of that text. Each letter is written as itself, by an
escape of its own or by its number, and a letter beyond the sixteen-bit ones by the two escapes of
its surrogate pair, which together are one letter. That is also why texts with surrogates are left
aside: two of these in a row may be one code point.

## Main definitions

* `Text.IsAscii` — texts without code points beyond the ASCII ones

## Main results

* `Json.exists_writes_printCodePoint` — however a letter is written, it stands for itself
* `Json.writesString_printText` — what is written of a text is a string of it
* `Json.isAscii_printText` — it is written in ASCII
-/

namespace Storefront

/-! ### ASCII -/

/-- A text without code points beyond the ASCII ones. -/
def Text.IsAscii (t : Text) : Prop := ∀ c ∈ t, c.toNat < 0x80

instance (t : Text) : Decidable t.IsAscii := inferInstanceAs (Decidable (∀ c ∈ t, c.toNat < 0x80))

namespace Text.IsAscii

variable {s t : Text} {c : CodePoint}

theorem nil : IsAscii [] := nofun

theorem cons (h : c.toNat < 0x80) (rest : t.IsAscii) : IsAscii (c :: t) :=
  List.forall_mem_cons.2 ⟨h, rest⟩

theorem append (h : s.IsAscii) (h' : t.IsAscii) : IsAscii (s ++ t) :=
  List.forall_mem_append.2 ⟨h, h'⟩

theorem singleton (h : c.toNat < 0x80) : IsAscii [c] := .cons h .nil

theorem flatMap {f : CodePoint → Text} (h : ∀ c, IsAscii (f c)) (t : Text) :
    IsAscii (t.flatMap f) := by
  intro c mem
  obtain ⟨d, -, mem⟩ := List.mem_flatMap.1 mem
  exact h d c mem

theorem intercalate {texts : List Text} (h : s.IsAscii) (each : ∀ t ∈ texts, IsAscii t) :
    IsAscii (s.intercalate texts) := by
  induction texts with
  | nil => exact .nil
  | cons first rest ih =>
    have others := ih fun t mem => each t (List.mem_cons_of_mem first mem)
    have ascii := each first List.mem_cons_self
    cases rest with
    | nil =>
      rw [List.intercalate_singleton]
      exact ascii
    | cons second more =>
      rw [List.intercalate_cons_cons]
      exact (ascii.append h).append others

theorem ofNat (n : Nat) : IsAscii (Text.ofNat n) := by
  intro c mem
  have digit := Text.ascii_of_mem_ofNat mem
  omega

theorem ofInt (n : Int) : IsAscii (Text.ofInt n) := by
  cases n with
  | ofNat m => exact .ofNat m
  | negSucc m => exact .cons (by decide) (.ofNat _)

theorem hex (width n : Nat) : IsAscii (Text.hex width n) := by
  have all : ∀ d : Fin 16, (Text.hexDigit d).toNat < 0x80 := by decide
  induction width generalizing n with
  | zero => exact .nil
  | succ width ih => exact (ih _).append (.singleton (all ⟨n % 16, Nat.mod_lt n (by decide)⟩))

/-- A text in ASCII has no surrogates. -/
theorem hasSurrogate (h : t.IsAscii) : t.hasSurrogate = false := by
  rw [Text.hasSurrogate, List.any_eq_false]
  intro c mem
  have low := h c mem
  simp only [CodePoint.isSurrogate, Bool.and_eq_true, decide_eq_true_eq]
  omega

end Text.IsAscii

namespace Json

variable {c : CodePoint} {t : Text}

/-! ### Letters of strings -/

/-- The value of a digit that was written. -/
theorem hexDigit?_hexDigit {d : Nat} (h : d < 16) : (Text.hexDigit d).hexDigit? = some d := by
  have all : ∀ d : Fin 16, (Text.hexDigit d).hexDigit? = some d.val := by decide
  exact all ⟨d, h⟩

/-- The four digits of an escape stand for the number that they were written for. -/
theorem writesLetter_unicodeEscape {n : Nat} (h : n < 0x10000) :
    WritesLetter (.ofNat n) true (unicodeEscape n) := by
  have small (m : Nat) : m % 16 < 16 := Nat.mod_lt m (by decide)
  have number : 16 * (16 * (16 * (n / 16 / 16 / 16 % 16) + n / 16 / 16 % 16) + n / 16 % 16) +
      n % 16 = n := by omega
  have written := WritesLetter.number (hexDigit?_hexDigit (small (n / 16 / 16 / 16)))
    (hexDigit?_hexDigit (small (n / 16 / 16))) (hexDigit?_hexDigit (small (n / 16)))
    (hexDigit?_hexDigit (small n))
  rwa [number] at written

/-- A code point beyond the sixteen-bit ones is that of its surrogate pair. -/
theorem ofPair_halves (beyond : 0x10000 ≤ c.toNat) :
    CodePoint.ofPair (.ofNat (0xD800 + (c.toNat - 0x10000) / 0x400))
      (.ofNat (0xDC00 + (c.toNat - 0x10000) % 0x400)) = c := by
  have bound := c.isLt
  have high : (CodePoint.ofNat (0xD800 + (c.toNat - 0x10000) / 0x400)).toNat =
      0xD800 + (c.toNat - 0x10000) / 0x400 := CodePoint.toNat_ofNat (by omega)
  have low : (CodePoint.ofNat (0xDC00 + (c.toNat - 0x10000) % 0x400)).toNat =
      0xDC00 + (c.toNat - 0x10000) % 0x400 := CodePoint.toNat_ofNat (by omega)
  apply CodePoint.ext
  rw [CodePoint.ofPair, high, low, CodePoint.toNat_ofNat (by omega)]
  omega

/-- The two escapes of a surrogate pair are one letter. -/
theorem joined_halves (beyond : 0x10000 ≤ c.toNat) (rest : List (CodePoint × Bool)) :
    joined ((.ofNat (0xD800 + (c.toNat - 0x10000) / 0x400), true) ::
      (.ofNat (0xDC00 + (c.toNat - 0x10000) % 0x400), true) :: rest) = c :: joined rest := by
  have bound := c.isLt
  have isHigh :
      (CodePoint.ofNat (0xD800 + (c.toNat - 0x10000) / 0x400)).isHighSurrogate = true := by
    rw [CodePoint.isHighSurrogate, CodePoint.toNat_ofNat (by omega)]
    simp only [Bool.and_eq_true, decide_eq_true_eq]
    omega
  have isLow : (CodePoint.ofNat (0xDC00 + (c.toNat - 0x10000) % 0x400)).isLowSurrogate = true := by
    rw [CodePoint.isLowSurrogate, CodePoint.toNat_ofNat (by omega)]
    simp only [Bool.and_eq_true, decide_eq_true_eq]
    omega
  rw [joined, isHigh, isLow, Bool.and_true, if_pos rfl, ofPair_halves beyond]

theorem isHighSurrogate_of_isSurrogate (whole : c.isSurrogate = false) :
    c.isHighSurrogate = false := by
  rw [← Bool.not_eq_true] at whole ⊢
  intro high
  apply whole
  simp only [CodePoint.isHighSurrogate, CodePoint.isSurrogate, Bool.and_eq_true,
    decide_eq_true_eq] at high ⊢
  omega

/-- However a letter is written, it stands for itself. -/
theorem exists_writes_printCodePoint (whole : c.isSurrogate = false) :
    ∃ letters, WritesLetters letters (printCodePoint c) ∧
      ∀ rest, joined (letters ++ rest) = c :: joined rest := by
  have single {byNumber : Bool} {t : Text} (letter : WritesLetter c byNumber t) :
      ∃ letters, WritesLetters letters t ∧
        ∀ rest, joined (letters ++ rest) = c :: joined rest := by
    have row := WritesLetters.cons letter .nil
    rw [List.append_nil] at row
    exact ⟨_, row, joined_cons_of_not_isHighSurrogate (isHighSurrogate_of_isSurrogate whole) _⟩
  -- A letter with an escape of its own is the one that the escape stands for.
  have own {n : Nat} {e : CodePoint} (same : c.toNat = n)
      (escaped : escapeLetter? e = some (.ofNat n)) : WritesLetter c false ['\\', e] := by
    rw [← same, CodePoint.ofNat_toNat] at escaped
    exact .escape escaped
  -- The cases are those of the writing: seven escapes, the letter as it is, and numbers.
  unfold printCodePoint
  dsimp only
  split
  next quote => exact single (own (congrArg CodePoint.toNat quote) rfl)
  split
  next backslash => exact single (own (congrArg CodePoint.toNat backslash) rfl)
  split
  next n => exact single (own n rfl)
  split
  next n => exact single (own n rfl)
  split
  next n => exact single (own n rfl)
  split
  next n => exact single (own n rfl)
  split
  next n => exact single (own n rfl)
  next noQuote noBackslash _ _ _ _ _ =>
  split
  next plain =>
    simp only [Bool.and_eq_true, decide_eq_true_eq] at plain
    exact single (.plain noQuote noBackslash plain.1)
  split
  next short =>
    have letter := writesLetter_unicodeEscape short
    rw [CodePoint.ofNat_toNat] at letter
    exact single letter
  next long =>
    have bound := c.isLt
    have high := writesLetter_unicodeEscape
      (show 0xD800 + (c.toNat - 0x10000) / 0x400 < 0x10000 by omega)
    have low := writesLetter_unicodeEscape
      (show 0xDC00 + (c.toNat - 0x10000) % 0x400 < 0x10000 by omega)
    have row := WritesLetters.cons high (.cons low .nil)
    rw [List.append_nil] at row
    exact ⟨_, row, joined_halves (Nat.not_lt.1 long)⟩

/-! ### Strings -/

theorem exists_writes_flatMap (whole : t.hasSurrogate = false) :
    ∃ letters, WritesLetters letters (t.flatMap printCodePoint) ∧ joined letters = t := by
  -- By induction on the text; no letter of it is the first half of a pair with the next one.
  induction t with
  | nil => exact ⟨[], .nil, rfl⟩
  | cons c rest ih =>
    simp only [Text.hasSurrogate, List.any_cons, Bool.or_eq_false_iff] at whole
    obtain ⟨first, written, one⟩ := exists_writes_printCodePoint whole.1
    obtain ⟨others, row, same⟩ := ih whole.2
    refine ⟨first ++ others, written.append row, ?_⟩
    rw [one, same]

/-- What is written of a text is a string of it. -/
theorem writesString_printText (whole : t.hasSurrogate = false) : WritesString t (printText t) := by
  obtain ⟨letters, row, same⟩ := exists_writes_flatMap whole
  exact ⟨letters, _, row, same, rfl⟩

/-! ### ASCII of strings -/

theorem isAscii_unicodeEscape (n : Nat) : (unicodeEscape n).IsAscii :=
  .cons (by decide) (.cons (by decide) (.hex 4 n))

/-- However a letter is written, that is in ASCII. -/
theorem isAscii_printCodePoint (c : CodePoint) : (printCodePoint c).IsAscii := by
  have escape {e : CodePoint} (h : e.toNat < 0x80) : Text.IsAscii ['\\', e] :=
    .cons (by decide) (.singleton h)
  unfold printCodePoint
  dsimp only
  split
  · exact escape (by decide)
  split
  · exact escape (by decide)
  split
  · exact escape (by decide)
  split
  · exact escape (by decide)
  split
  · exact escape (by decide)
  split
  · exact escape (by decide)
  split
  · exact escape (by decide)
  split
  next plain =>
    simp only [Bool.and_eq_true, decide_eq_true_eq] at plain
    exact .singleton (by omega)
  split
  · exact isAscii_unicodeEscape _
  · exact (isAscii_unicodeEscape _).append (isAscii_unicodeEscape _)

theorem isAscii_printText (t : Text) : (printText t).IsAscii :=
  (Text.IsAscii.cons (by decide) (.flatMap isAscii_printCodePoint t)).append
    (.singleton (by decide))

end Json

end Storefront
