import Storefront.Text.Basic

/-!
# Blank characters

Blank characters are those that separate words: the white space of Unicode and the four
information separators of ASCII. What is not blank, such as the zero width space or the byte order
mark, stays in a text when its ends are trimmed.

## Main definitions

* `CodePoint.isBlank` — the class
* `Text.strip` — a text without the blanks at its two ends

## Main results

* `Text.strip_eq_nil_iff` — only a text of blanks is trimmed away
* `Text.strip_strip` — a trimmed text has nothing to trim
-/

namespace Storefront

/-- The intervals of blank code points. -/
def blankRanges : Text.Ranges :=
  [(0x09, 0x0D), (0x1C, 0x20), (0x85, 0x85), (0xA0, 0xA0), (0x1680, 0x1680), (0x2000, 0x200A),
   (0x2028, 0x2029), (0x202F, 0x202F), (0x205F, 0x205F), (0x3000, 0x3000)]

/-- Whether a code point is blank. -/
def CodePoint.isBlank (c : CodePoint) : Bool := blankRanges.contains c.toNat

namespace Text

/-- The text from its first code point that is not blank. -/
def stripStart (t : Text) : Text := t.dropWhile CodePoint.isBlank

/-- The text without the blanks at its two ends. -/
def strip (t : Text) : Text := (stripStart (stripStart t).reverse).reverse

/-- Whether nothing is left once the blanks at the ends are gone. -/
def isBlank (t : Text) : Bool := t.all CodePoint.isBlank

theorem stripStart_eq_nil_iff {t : Text} : stripStart t = [] ↔ t.isBlank = true := by
  unfold stripStart isBlank
  induction t with
  | nil => simp
  | cons c rest ih => by_cases h : c.isBlank <;> simp [h, ih]

/-- What is left starts with a code point that is not blank. -/
theorem stripStart_eq_self {c : CodePoint} {t : Text} (h : c.isBlank = false) :
    stripStart (c :: t) = c :: t := by
  simp [stripStart, h]

@[simp] theorem stripStart_stripStart (t : Text) : stripStart (stripStart t) = stripStart t := by
  induction t with
  | nil => rfl
  | cons c rest ih =>
    cases h : c.isBlank with
    | true => simpa [stripStart, h] using ih
    | false => rw [stripStart_eq_self h, stripStart_eq_self h]

/-- A text of blanks is exactly one that stripping leaves empty. -/
theorem strip_eq_nil_iff {t : Text} : t.strip = [] ↔ t.isBlank = true := by
  constructor
  · intro h
    have blank : isBlank (stripStart t).reverse = true :=
      stripStart_eq_nil_iff.1 (List.reverse_eq_nil_iff.1 h)
    have blank' : isBlank (stripStart t) = true := by simpa [isBlank] using blank
    exact stripStart_eq_nil_iff.1 (stripStart_stripStart t ▸ stripStart_eq_nil_iff.2 blank')
  · intro h
    rw [strip, stripStart_eq_nil_iff.2 h]
    rfl

/-- A text that starts with no blank still does so when its end is trimmed. -/
theorem stripStart_reverse_stripStart_reverse {t : Text} (h : stripStart t = t) :
    stripStart (stripStart t.reverse).reverse = (stripStart t.reverse).reverse := by
  cases ht : (stripStart t.reverse).reverse with
  | nil => rfl
  | cons c rest =>
    have suffix : stripStart t.reverse <:+ t.reverse := List.dropWhile_suffix _
    have initial : (stripStart t.reverse).reverse <+: t := by
      simpa using List.reverse_prefix.2 suffix
    rw [ht] at initial
    obtain ⟨more, rfl⟩ := initial
    cases hc : c.isBlank with
    | false => exact stripStart_eq_self hc
    | true =>
      have shorter : (stripStart (rest ++ more)).length ≤ (rest ++ more).length :=
        (List.dropWhile_suffix _).length_le
      have same : stripStart (rest ++ more) = c :: (rest ++ more) := by
        simpa [stripStart, hc] using h
      rw [same, List.length_cons] at shorter
      omega

/-- A trimmed text has no blanks at its ends. -/
@[simp] theorem strip_strip (t : Text) : t.strip.strip = t.strip := by
  have h := stripStart_reverse_stripStart_reverse (stripStart_stripStart t)
  simp only [strip]
  rw [h]
  simp

@[simp] theorem isBlank_strip (t : Text) : t.strip.isBlank = t.isBlank := by
  rw [Bool.eq_iff_iff, ← strip_eq_nil_iff, ← strip_eq_nil_iff, strip_strip]

end Text

end Storefront
