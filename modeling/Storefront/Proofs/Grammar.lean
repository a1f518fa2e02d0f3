import Storefront.Proofs.Pointed

/-!
# The grammar of JSON

What a JSON text is, said without the machine that reads it: the grammar of RFC 8259, with the words
`NaN`, `Infinity` and `-Infinity` for numbers besides. One value has many texts, since blanks may
stand between all parts, a letter may be written as it is or by an escape, and a member may be
written several times, of which the last one counts.

## Main definitions

* `Json.WritesLetter`, `Json.joined`, `Json.WritesString` — strings and what they stand for
* `Json.WritesNumber` — numbers
* `Json.Phrase`, `Json.Writes` — values, and what the texts of arrays and objects are made of
* `Json.IsTextOf` — the texts of a value

## Main results

* `Json.foldl_push` — letters are joined one by one
* `Json.writes_blank` — blanks may stand in front of what an array or an object is made of
-/

namespace Storefront.Json

/-- A text of blanks. -/
abbrev IsSpaces (t : Text) : Prop := ∀ c ∈ t, isSpace c = true

/-! ### Strings -/

/-- A letter of a string as it is written: as it is, by an escape of its own, or by an escape with
the four hexadecimal digits of its number, which is kept in mind. -/
inductive WritesLetter : CodePoint → (byNumber : Bool) → Text → Prop
  | plain {c : CodePoint} (noQuote : c ≠ ('"' : CodePoint)) (noBackslash : c ≠ ('\\' : CodePoint))
      (noControl : 0x20 ≤ c.toNat) : WritesLetter c false [c]
  | escape {mark c : CodePoint} (escaped : escapeLetter? mark = some c) :
    WritesLetter c false ['\\', mark]
  | number {p q r s : CodePoint} {i j k l : Nat} (first : p.hexDigit? = some i)
      (second : q.hexDigit? = some j) (third : r.hexDigit? = some k)
      (last : s.hexDigit? = some l) :
    WritesLetter (.ofNat (16 * (16 * (16 * i + j) + k) + l)) true ['\\', 'u', p, q, r, s]

/-- Letters in a row, each as it is written. -/
inductive WritesLetters : List (CodePoint × Bool) → Text → Prop
  | nil : WritesLetters [] []
  | cons {c : CodePoint} {byNumber : Bool} {letters : List (CodePoint × Bool)} {s t : Text}
      (first : WritesLetter c byNumber s) (rest : WritesLetters letters t) :
    WritesLetters ((c, byNumber) :: letters) (s ++ t)

/-- The text of some letters: the two halves of a surrogate pair, written by their numbers one after
the other, are one code point. -/
def joined : List (CodePoint × Bool) → Text
  | (high, true) :: (low, true) :: rest =>
    if high.isHighSurrogate && low.isLowSurrogate then .ofPair high low :: joined rest
    else high :: joined ((low, true) :: rest)
  | (c, _) :: rest => c :: joined rest
  | [] => []

/-- A string between its marks. -/
def WritesString (t written : Text) : Prop :=
  ∃ letters body, WritesLetters letters body ∧ joined letters = t ∧
    written = ('"' : CodePoint) :: (body ++ [('"' : CodePoint)])

/-! ### Numbers -/

/-- The digits after a point, or nothing. -/
inductive WritesFraction : Option (List Nat) → Text → Prop
  | none : WritesFraction none []
  | some {digits : Text} (nonempty : digits ≠ []) (ascii : digits.IsDigits) :
    WritesFraction (some (digits.map (·.toNat - 0x30))) (('.' : CodePoint) :: digits)

/-- The signs of an exponent, which may be left out, and whether they negate it. -/
def exponentSigns : List (Text × Bool) := [([], false), (['+'], false), (['-'], true)]

/-- An exponent, or nothing. -/
inductive WritesExponent : Option Int → Text → Prop
  | none : WritesExponent none []
  | some {letter : CodePoint} {sign digits : Text} {negative : Bool}
      (marked : letter.toLower = ('e' : CodePoint)) (signed : (sign, negative) ∈ exponentSigns)
      (nonempty : digits ≠ []) (ascii : digits.IsDigits) :
    WritesExponent
      (some (if negative then -(digits.numeralValue : Int) else digits.numeralValue))
      (letter :: (sign ++ digits))

/-- A number: a sign or none, digits of which the first is no zero unless it is the only one, and
perhaps a fraction and an exponent. It must be one that has a value. -/
inductive WritesNumber : Json → Text → Prop
  | mk {negative : Bool} {whole fraction exponent : Text} {places : Option (List Nat)}
      {size : Option Int} {value : Json} (nonempty : whole ≠ []) (ascii : whole.IsDigits)
      (alone : whole.head? = some ('0' : CodePoint) → whole = [('0' : CodePoint)])
      (fractioned : WritesFraction places fraction) (scaled : WritesExponent size exponent)
      (valued : numberOf negative (whole.map (·.toNat - 0x30)) places size = .ok value) :
    WritesNumber value (Decimal.signText negative ++ (whole ++ (fraction ++ exponent)))

/-! ### Values -/

/-- The words and the values that they stand for. -/
def words : List (Text × Json) :=
  [(Text.ofString "null", .null), (Text.ofString "true", .bool true),
   (Text.ofString "false", .bool false), (Text.ofString "NaN", .float .nan),
   (Text.ofString "Infinity", .float (.infinite false)),
   (Text.ofString "-Infinity", .float (.infinite true))]

/-- What a text can be a text of: a value, or a part of an array or an object. -/
inductive Phrase
  | value (value : Json)
  /-- The items of an array, up to its end. -/
  | items (items : List Json)
  /-- The members of an object from a name on up to its end, with those before them. Together they
  are all. -/
  | members (before all : Members)
  /-- The same from behind the colon of a name. -/
  | member (before : Members) (name : Text) (all : Members)

/-- The texts of values and of parts of arrays and objects. -/
inductive Writes : Phrase → Text → Prop
  | word {t : Text} {value : Json} (known : (t, value) ∈ words) : Writes (.value value) t
  | number {t : Text} {value : Json} (written : WritesNumber value t) : Writes (.value value) t
  | string {t written : Text} (string : WritesString t written) : Writes (.value (.str t)) written
  | emptyArray {s : Text} (spaces : IsSpaces s) :
    Writes (.value (.arr [])) (('[' : CodePoint) :: (s ++ [(']' : CodePoint)]))
  | array {items : List Json} {t : Text} (rest : Writes (.items items) t) :
    Writes (.value (.arr items)) (('[' : CodePoint) :: t)
  | emptyObject {s : Text} (spaces : IsSpaces s) :
    Writes (.value (.obj [])) (('\x7b' : CodePoint) :: (s ++ [('\x7d' : CodePoint)]))
  | object {all : Members} {t : Text} (rest : Writes (.members [] all) t) :
    Writes (.value (.obj all)) (('\x7b' : CodePoint) :: t)
  | lastItem {value : Json} {s t u : Text} (before : IsSpaces s) (item : Writes (.value value) t)
      (behind : IsSpaces u) : Writes (.items [value]) (s ++ (t ++ (u ++ [(']' : CodePoint)])))
  | item {value : Json} {items : List Json} {s t u v : Text} (before : IsSpaces s)
      (item : Writes (.value value) t) (behind : IsSpaces u) (rest : Writes (.items items) v) :
    Writes (.items (value :: items)) (s ++ (t ++ (u ++ (',' : CodePoint) :: v)))
  | name {before all : Members} {name s t u v : Text} (blank : IsSpaces s)
      (named : WritesString name t) (behind : IsSpaces u)
      (rest : Writes (.member before name all) v) :
    Writes (.members before all) (s ++ (t ++ (u ++ (':' : CodePoint) :: v)))
  | lastMember {before : Members} {name s t u : Text} {value : Json} (blank : IsSpaces s)
      (valued : Writes (.value value) t) (behind : IsSpaces u) :
    Writes (.member before name (before.set name value))
      (s ++ (t ++ (u ++ [('\x7d' : CodePoint)])))
  | member {before all : Members} {name s t u v : Text} {value : Json} (blank : IsSpaces s)
      (valued : Writes (.value value) t) (behind : IsSpaces u)
      (rest : Writes (.members (before.set name value) all) v) :
    Writes (.member before name all) (s ++ (t ++ (u ++ (',' : CodePoint) :: v)))

/-- A JSON text of a value: the value with blanks around it. -/
def IsTextOf (t : Text) (value : Json) : Prop :=
  ∃ s u v, t = s ++ (u ++ v) ∧ IsSpaces s ∧ Writes (.value value) u ∧ IsSpaces v

/-! ### Blanks -/

variable {s t : Text} {c : CodePoint} {phrase : Phrase}

theorem isSpaces_nil : IsSpaces [] := nofun

theorem IsSpaces.append (spaces : IsSpaces s) (more : IsSpaces t) : IsSpaces (s ++ t) :=
  List.forall_mem_append.2 ⟨spaces, more⟩

theorem IsSpaces.cons (blank : isSpace c = true) (spaces : IsSpaces t) : IsSpaces (c :: t) :=
  List.forall_mem_cons.2 ⟨blank, spaces⟩

theorem isSpaces_singleton (blank : isSpace c = true) : IsSpaces [c] := .cons blank isSpaces_nil

/-- Blanks may stand in front of what an array or an object is made of. -/
theorem writes_blank (part : ∀ value, phrase ≠ .value value) (written : Writes phrase t)
    (blank : isSpace c = true) : Writes phrase (c :: t) := by
  cases written with
  | lastItem before item behind => exact .lastItem (.cons blank before) item behind
  | item before item behind rest => exact .item (.cons blank before) item behind rest
  | name before named behind rest => exact .name (.cons blank before) named behind rest
  | lastMember before valued behind => exact .lastMember (.cons blank before) valued behind
  | member before valued behind rest => exact .member (.cons blank before) valued behind rest
  | word | number | string | emptyArray | array | emptyObject | object => exact (part _ rfl).elim

/-! ### Letters one by one -/

/-- One more letter of a string, of which there is the text so far with its last letter first, and
whether that was written by its number. -/
def push : Text × Bool → CodePoint × Bool → Text × Bool
  | (high :: rest, true), (low, true) =>
    if high.isHighSurrogate && low.isLowSurrogate then (.ofPair high low :: rest, true)
    else (low :: high :: rest, true)
  | (letters, _), (c, byNumber) => (c :: letters, byNumber)

theorem WritesLetters.append {letters others : List (CodePoint × Bool)} {t s : Text}
    (written : WritesLetters letters t) (more : WritesLetters others s) :
    WritesLetters (letters ++ others) (t ++ s) := by
  induction written with
  | nil => exact more
  | cons first rest ih =>
    rw [List.append_assoc]
    exact .cons first ih

/-- The code point of a surrogate pair is no surrogate itself. -/
theorem isHighSurrogate_ofPair {high low : CodePoint} (first : high.isHighSurrogate = true)
    (second : low.isLowSurrogate = true) : (CodePoint.ofPair high low).isHighSurrogate = false := by
  simp only [CodePoint.isHighSurrogate, CodePoint.isLowSurrogate, Bool.and_eq_true,
    decide_eq_true_eq] at first second
  rw [CodePoint.ofPair, CodePoint.isHighSurrogate, CodePoint.toNat_ofNat (by omega)]
  simp only [Bool.and_eq_false_iff, decide_eq_false_iff_not]
  omega

theorem joined_cons_of_not_isHighSurrogate {c : CodePoint} (whole : c.isHighSurrogate = false)
    (byNumber : Bool) (rest : List (CodePoint × Bool)) :
    joined ((c, byNumber) :: rest) = c :: joined rest := by
  cases byNumber with
  | false => simp [joined]
  | true =>
    cases rest with
    | nil => simp [joined]
    | cons next more =>
      obtain ⟨d, _ | _⟩ := next
      · simp [joined]
      · simp [joined, whole]

/-- The text of letters is that which comes of them one by one. What has been written before counts
only if it may be the first half of a pair. -/
theorem foldl_push (letters : List (CodePoint × Bool)) (before : Text) :
    (letters.foldl push (before, false)).1 = (joined letters).reverse ++ before ∧
      ∀ c, (letters.foldl push (c :: before, true)).1 =
        (joined ((c, true) :: letters)).reverse ++ before := by
  induction letters generalizing before with
  | nil => simp [joined]
  | cons letter rest ih =>
    obtain ⟨d, byNumber⟩ := letter
    constructor
    · cases byNumber with
      | false => simp [push, joined, (ih _).1]
      | true => simp [push, (ih _).2]
    · intro c
      cases byNumber with
      | false => simp [push, joined, (ih _).1]
      | true =>
        rw [List.foldl_cons, push, joined]
        split
        next pair =>
          rw [Bool.and_eq_true] at pair
          rw [(ih _).2, joined_cons_of_not_isHighSurrogate (isHighSurrogate_ofPair pair.1 pair.2)]
        next => simp [(ih _).2]

end Storefront.Json
