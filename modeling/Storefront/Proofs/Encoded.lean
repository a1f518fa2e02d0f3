import Storefront.Json.Encoding
import Storefront.Proofs.Decoded
import Storefront.Proofs.Recognized

/-!
# JSON texts as bytes

A JSON text begins with a character of ASCII, and no character of it is a control character but for
the blanks. So in the bytes of its UTF-8 form there is neither a byte order mark nor a zero, and
they are taken for what they are. Other bytes may be JSON in the encoding that they show.

## Main definitions

* `Json.IsVisible` — texts without control characters other than blanks
* `Json.IsWrittenBy` — bytes that are JSON for a value

## Main results

* `Json.readBytes?_eq_some_iff` — exactly those bytes are read as the value
* `Json.isVisible_of_isTextOf`, `Json.exists_cons_of_isTextOf` — what JSON texts are made of and
  begin with
* `Json.Encoding.detect_utf8` — the UTF-8 form of such a text is taken as such
* `Json.isWrittenBy_utf8` — a JSON text of a value is JSON for it once it is sent
-/

namespace Storefront.Json

variable {t : Text} {c : CodePoint} {value : Json} {bytes : Bytes}

/-! ### Bytes that are JSON -/

/-- Some bytes are JSON for a value: in the encoding that they show, they are a text of it. -/
def IsWrittenBy (bytes : Bytes) (value : Json) : Prop :=
  ∃ t, (Encoding.detect bytes).1.decode? (Encoding.detect bytes).2 = some t ∧ IsTextOf t value

/-- Exactly the bytes that are JSON for a value are read as that value. -/
theorem readBytes?_eq_some_iff : readBytes? bytes = some value ↔ IsWrittenBy bytes value := by
  unfold readBytes? IsWrittenBy
  dsimp only
  rw [Option.bind_eq_bind, Option.bind_eq_some_iff]
  refine exists_congr fun t => and_congr_right fun _ => ?_
  rw [← read_eq_ok_iff]
  cases read t <;> simp [Except.toOption]

/-! ### What JSON texts are made of -/

/-- A text without control characters other than blanks. -/
abbrev IsVisible (t : Text) : Prop := ∀ c ∈ t, isSpace c = true ∨ 0x20 ≤ c.toNat

theorem IsVisible.append {s : Text} (first : IsVisible s) (second : IsVisible t) :
    IsVisible (s ++ t) :=
  List.forall_mem_append.2 ⟨first, second⟩

theorem IsVisible.cons (high : 0x20 ≤ c.toNat) (rest : IsVisible t) : IsVisible (c :: t) :=
  List.forall_mem_cons.2 ⟨.inr high, rest⟩

theorem isVisible_nil : IsVisible [] := nofun

theorem IsSpaces.isVisible (spaces : IsSpaces t) : IsVisible t := fun c mem => .inl (spaces c mem)

theorem le_of_hexDigit? {d : Nat} (digit : c.hexDigit? = some d) : 0x20 ≤ c.toNat := by
  by_contra low
  unfold CodePoint.hexDigit? at digit
  simp only [Bool.and_eq_true, decide_eq_true_eq] at digit
  rw [if_neg (by omega), if_neg (by omega), if_neg (by omega)] at digit
  cases digit

theorem le_of_escapeLetter? {letter : CodePoint} (escaped : escapeLetter? c = some letter) :
    0x20 ≤ c.toNat := by
  unfold escapeLetter? at escaped
  split_ifs at escaped with own b f n r t
  · simp only [Bool.or_eq_true, decide_eq_true_eq] at own
    rcases own with (rfl | rfl) | rfl <;> decide
  all_goals
    subst c
    decide

theorem isVisible_of_writesLetter {byNumber : Bool} (letter : WritesLetter c byNumber t) :
    IsVisible t := by
  cases letter with
  | plain noQuote noBackslash noControl => exact .cons noControl isVisible_nil
  | escape escaped => exact .cons (by decide) (.cons (le_of_escapeLetter? escaped) isVisible_nil)
  | number first second third last =>
    exact .cons (by decide) (.cons (by decide) (.cons (le_of_hexDigit? first)
      (.cons (le_of_hexDigit? second) (.cons (le_of_hexDigit? third)
        (.cons (le_of_hexDigit? last) isVisible_nil)))))

theorem isVisible_of_writesString {s : Text} (string : WritesString s t) : IsVisible t := by
  obtain ⟨letters, body, row, -, rfl⟩ := string
  refine .cons (by decide) (.append ?_ (.cons (by decide) isVisible_nil))
  induction row with
  | nil => exact isVisible_nil
  | cons first rest ih => exact (isVisible_of_writesLetter first).append ih

/-- Whatever the grammar makes has no control characters but blanks. -/
theorem isVisible_of_writes {phrase : Phrase} (written : Writes phrase t) : IsVisible t := by
  induction written with
  | word known =>
    exact (by decide : ∀ entry ∈ words, IsVisible entry.1) _ known
  | number number =>
    intro c mem
    have bounds := Decimal.bounds_of_isNumeric (Reader.isNumeric_of_writesNumber number c mem)
    exact .inr (by omega)
  | string string => exact isVisible_of_writesString string
  | emptyArray spaces | emptyObject spaces =>
    exact .cons (by decide) (spaces.isVisible.append (.cons (by decide) isVisible_nil))
  | array rest ih | object rest ih => exact .cons (by decide) ih
  | lastItem before item behind ih | lastMember before item behind ih =>
    exact before.isVisible.append (ih.append (behind.isVisible.append
      (.cons (by decide) isVisible_nil)))
  | item before item behind rest ih others | member before item behind rest ih others =>
    exact before.isVisible.append (ih.append (behind.isVisible.append (.cons (by decide) others)))
  | name before named behind rest ih =>
    exact before.isVisible.append ((isVisible_of_writesString named).append
      (behind.isVisible.append (.cons (by decide) ih)))

theorem isVisible_of_isTextOf (text : IsTextOf t value) : IsVisible t := by
  obtain ⟨s, u, v, rfl, before, written, behind⟩ := text
  exact before.isVisible.append ((isVisible_of_writes written).append behind.isVisible)

/-- The text of a value begins with a character of ASCII. -/
theorem exists_cons_of_writes (written : Writes (.value value) t) :
    ∃ c rest, t = c :: rest ∧ c.toNat < 0x80 := by
  cases written with
  | word known =>
    simp only [words, List.mem_cons, Prod.mk.injEq, List.not_mem_nil, or_false] at known
    rcases known with ⟨rfl, -⟩ | ⟨rfl, -⟩ | ⟨rfl, -⟩ | ⟨rfl, -⟩ | ⟨rfl, -⟩ | ⟨rfl, -⟩ <;>
      exact ⟨_, _, rfl, by decide⟩
  | number number =>
    obtain ⟨c, rest, rfl, -⟩ := Reader.exists_cons_of_writesNumber number
    have bounds := Decimal.bounds_of_isNumeric
      (Reader.isNumeric_of_writesNumber number c List.mem_cons_self)
    exact ⟨c, rest, rfl, by omega⟩
  | string string =>
    obtain ⟨letters, body, -, -, rfl⟩ := string
    exact ⟨_, _, rfl, by decide⟩
  | emptyArray | array | emptyObject | object => exact ⟨_, _, rfl, by decide⟩

/-- A JSON text begins with a character of ASCII. -/
theorem exists_cons_of_isTextOf (text : IsTextOf t value) :
    ∃ c rest, t = c :: rest ∧ c.toNat < 0x80 := by
  obtain ⟨s, u, v, rfl, before, written, -⟩ := text
  cases s with
  | nil =>
    obtain ⟨c, rest, rfl, ascii⟩ := exists_cons_of_writes written
    exact ⟨c, rest ++ v, rfl, ascii⟩
  | cons c rest =>
    have blank := before c List.mem_cons_self
    simp only [isSpace, Bool.or_eq_true, decide_eq_true_eq] at blank
    exact ⟨c, rest ++ (u ++ v), rfl, by omega⟩

/-! ### The encoding of a JSON text -/

namespace Encoding

variable {b : UInt8} {rest : Bytes}

/-- A byte order mark starts with a zero or with a byte that is none of ASCII. -/
theorem find?_marks (nonzero : b ≠ 0) (ascii : b.toNat < 0x80) :
    marks.find? (·.1.isPrefixOf (b :: rest)) = none := by
  have differs {a : UInt8} (high : 0x80 ≤ a.toNat) : (a == b) = false := by
    rw [beq_eq_false_iff_ne]
    rintro rfl
    omega
  have zero : ((0 : UInt8) == b) = false := beq_eq_false_iff_ne.2 nonzero.symm
  simp [marks, List.isPrefixOf, zero, differs]

/-- Bytes without zeros are taken for UTF-8 if they do not begin with a mark. -/
theorem ofZeros_eq (nonzero : ∀ b ∈ bytes, b ≠ 0) : ofZeros bytes = utf8 := by
  match bytes, nonzero with
  | [], _ | [_], _ | [_, _, _], _ => rfl
  | [a, b], nonzero =>
    rw [ofZeros, if_neg (nonzero a (by simp)), if_neg (nonzero b (by simp))]
  | a :: b :: c :: d :: _, nonzero =>
    rw [ofZeros, if_neg (nonzero a (by simp)), if_neg (nonzero b (by simp))]

/-- The UTF-8 form of a text is taken as such if the text begins with a character of ASCII and has
no control characters but blanks. -/
theorem detect_utf8 (visible : IsVisible (c :: t)) (ascii : c.toNat < 0x80) :
    detect (Text.utf8 (c :: t)) = (utf8, Text.utf8 (c :: t)) := by
  have nonzero : ∀ b ∈ Text.utf8 (c :: t), b ≠ 0 := by
    intro b mem zero
    obtain ⟨d, among, byte⟩ := List.mem_flatMap.1 mem
    have high : d.toNat ≠ 0 := by
      rcases visible d among with blank | visible
      · simp only [isSpace, Bool.or_eq_true, decide_eq_true_eq] at blank
        omega
      · omega
    -- A byte is either a character of its own or beyond ASCII.
    rcases (Utf8.form_utf8 d).byte_of_mem byte with same | beyond
    · rw [zero] at same
      exact high same.symm
    · rw [zero] at beyond
      exact absurd beyond (by decide)
  have bytes : Text.utf8 (c :: t) = .ofNat c.toNat :: Text.utf8 t := by
    rw [Text.utf8, List.flatMap_cons, CodePoint.utf8, if_pos ascii]
    rfl
  have first : (UInt8.ofNat c.toNat).toNat < 0x80 := by
    rwa [Utf8.toNat_byte (by omega)]
  -- The first byte begins no mark, and so the zeros decide, of which there are none.
  rw [detect, bytes, find?_marks (nonzero _ (by simp [bytes])) first]
  dsimp only
  rw [← bytes, ofZeros_eq nonzero]

end Encoding

/-- A JSON text of a value is JSON for that value once it is sent. -/
theorem isWrittenBy_utf8 (whole : t.hasSurrogate = false) (text : IsTextOf t value) :
    IsWrittenBy t.utf8 value := by
  have visible := isVisible_of_isTextOf text
  obtain ⟨c, rest, rfl, ascii⟩ := exists_cons_of_isTextOf text
  refine ⟨c :: rest, ?_, text⟩
  rw [Encoding.detect_utf8 visible ascii]
  exact Utf8.decode?_utf8 whole true

end Storefront.Json
