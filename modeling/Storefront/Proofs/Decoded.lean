import Mathlib.Data.List.SplitBy
import Storefront.Proofs.Numeral
import Storefront.Text.Percent

/-!
# Bytes read back

The bytes of a text without surrogates are read as that text, unit by unit, and none of them is
stray. No byte of a code point beyond ASCII is one of ASCII, so only a percent sign itself has the
byte that percent notation looks for, and a text without one is left as it is by those who decode
the notation.

## Main definitions

* `Utf8.Form` — the shortest forms of numbers: a first byte, and six bits in each of the others

## Main results

* `Utf8.form_utf8` — a code point is written in its shortest form
* `Utf8.units_utf8`, `Utf8.decode?_utf8`, `Utf8.decodeReplacing_utf8` — the bytes of a text are read
  as that text
* `Text.percentDecode_of_plain` — a text without percent signs has nothing to decode
-/

namespace Storefront

namespace Utf8

theorem toNat_byte {n : Nat} (h : n < 0x100) : (UInt8.ofNat n).toNat = n := by
  rw [UInt8.toNat_ofNat', Nat.mod_eq_of_lt h]

/-- The shortest forms of numbers: a first byte, and six bits in each of the others. -/
inductive Form (n : Nat) : Bytes → Prop
  | one (lt : n < 0x80) : Form n [.ofNat n]
  | two {high low : Nat} (eq : n = high * 0x40 + low) (ge : 2 ≤ high) (lt : high < 0x20)
      (low_lt : low < 0x40) : Form n [.ofNat (0xC0 + high), .ofNat (0x80 + low)]
  | three {high mid low : Nat} (eq : n = high * 0x1000 + mid * 0x40 + low) (ge : 0x800 ≤ n)
      (lt : high < 0x10) (mid_lt : mid < 0x40) (low_lt : low < 0x40) :
    Form n [.ofNat (0xE0 + high), .ofNat (0x80 + mid), .ofNat (0x80 + low)]
  | four {high upper mid low : Nat} (eq : n = high * 0x40000 + upper * 0x1000 + mid * 0x40 + low)
      (ge : 0x10000 ≤ n) (lt : n < 0x110000) (upper_lt : upper < 0x40) (mid_lt : mid < 0x40)
      (low_lt : low < 0x40) :
    Form n [.ofNat (0xF0 + high), .ofNat (0x80 + upper), .ofNat (0x80 + mid), .ofNat (0x80 + low)]

/-- A code point is written in its shortest form. -/
theorem form_utf8 (c : CodePoint) : Form c.toNat c.utf8 := by
  have lt := c.isLt
  unfold CodePoint.utf8
  dsimp only
  split
  next lt => exact .one lt
  split
  next => exact .two (by omega) (by omega) (by omega) (by omega)
  split
  next => exact .three (by omega) (by omega) (by omega) (by omega) (by omega)
  next => exact .four (by omega) (by omega) lt (by omega) (by omega) (by omega)

/-- Only the form of a number in ASCII has a byte of ASCII, and that is the number itself. -/
theorem Form.byte_of_mem {n : Nat} {bytes : Bytes} (form : Form n bytes) {b : UInt8}
    (mem : b ∈ bytes) : b.toNat = n ∨ 0x80 ≤ b.toNat := by
  have beyond {m : Nat} (ge : 0x80 ≤ m) (lt : m < 0x100) : 0x80 ≤ (UInt8.ofNat m).toNat := by
    rwa [toNat_byte lt]
  cases form <;> simp only [List.mem_cons, List.not_mem_nil, or_false] at mem
  case one lt => exact .inl (mem ▸ toNat_byte (by omega))
  case two =>
    right
    rcases mem with rfl | rfl <;> exact beyond (by omega) (by omega)
  case three =>
    right
    rcases mem with rfl | rfl | rfl <;> exact beyond (by omega) (by omega)
  case four =>
    right
    rcases mem with rfl | rfl | rfl | rfl <;> exact beyond (by omega) (by omega)

theorem tail?_byte {low : Nat} (lt : low < 0x40) : tail? (.ofNat (0x80 + low)) = some low := by
  rw [tail?, toNat_byte (by omega), if_pos (by simp; omega)]
  simp

/-- The first code point of some bytes is the one whose form they start with. -/
theorem Form.first? {c : CodePoint} {bytes : Bytes} (form : Form c.toNat bytes)
    (plain : c.isSurrogate = false) (surrogates : Bool) :
    ∃ a more, bytes = a :: more ∧
      ∀ rest, Utf8.first? surrogates a (more ++ rest) = some (c, more.length) := by
  have same {n : Nat} (eq : c.toNat = n) : CodePoint.ofNat n = c := by
    rw [← eq, CodePoint.ofNat_toNat]
  cases form with
  | one lt =>
    refine ⟨_, _, rfl, fun rest => ?_⟩
    unfold Utf8.first?
    rw [toNat_byte (by omega), if_pos lt, same rfl]
    rfl
  | @two high low eq ge lt low_lt =>
    refine ⟨_, _, rfl, fun rest => ?_⟩
    unfold Utf8.first?
    rw [toNat_byte (by omega), if_neg (by omega), if_neg (by omega), if_pos (by omega)]
    simp only [List.cons_append, List.nil_append, tail?_byte low_lt, Nat.add_sub_cancel_left,
      Option.bind_eq_bind, Option.bind_some, same eq]
    rfl
  | @three high mid low eq ge lt mid_lt low_lt =>
    have halves : ¬(0xD800 ≤ c.toNat ∧ c.toNat ≤ 0xDFFF) := by
      simpa [CodePoint.isSurrogate] using plain
    refine ⟨_, _, rfl, fun rest => ?_⟩
    unfold Utf8.first?
    rw [toNat_byte (by omega), if_neg (by omega), if_neg (by omega), if_neg (by omega),
      if_pos (by omega)]
    simp only [List.cons_append, List.nil_append, tail?_byte mid_lt, tail?_byte low_lt,
      Nat.add_sub_cancel_left, Option.bind_eq_bind, Option.bind_some, ← eq, same rfl]
    rw [if_neg (by omega), if_neg (by simpa using fun _ => halves)]
    rfl
  | @four high upper mid low eq ge lt upper_lt mid_lt low_lt =>
    refine ⟨_, _, rfl, fun rest => ?_⟩
    unfold Utf8.first?
    rw [toNat_byte (by omega), if_neg (by omega), if_neg (by omega), if_neg (by omega),
      if_neg (by omega), if_pos (by omega)]
    dsimp only [List.cons_append, List.nil_append]
    -- One bind at a time: the kernel would otherwise count up to the numbers compared below.
    rw [tail?_byte upper_lt, Option.bind_eq_bind, Option.bind_some, tail?_byte mid_lt,
      Option.bind_some, tail?_byte low_lt, Option.bind_some, Nat.add_sub_cancel_left, ← eq,
      if_neg (by simp; omega), same rfl]
    rfl

/-- The bytes after the first of a code point are passed over. -/
theorem unitsFrom_skip (surrogates : Bool) (more rest : Bytes) (done : List Unit) :
    unitsFrom surrogates (more ++ rest) more.length done =
      unitsFrom surrogates rest 0 done := by
  induction more with
  | nil => rfl
  | cons b more ih => exact ih

/-- The bytes of a text are read as its code points, one unit each. -/
theorem units_utf8 {t : Text} (plain : t.hasSurrogate = false) (surrogates : Bool) :
    units surrogates t.utf8 = t.map .point := by
  -- What has been read before plays no part, so it is kept arbitrary in the induction.
  have run (done : List Unit) :
      unitsFrom surrogates t.utf8 0 done = done.reverse ++ t.map .point := by
    induction t generalizing done with
    | nil => simp [Text.utf8, unitsFrom]
    | cons c rest ih =>
      simp only [Text.hasSurrogate, List.any_cons, Bool.or_eq_false_iff] at plain
      obtain ⟨a, more, bytes, first⟩ := (form_utf8 c).first? plain.1 surrogates
      have written : Text.utf8 (c :: rest) = a :: (more ++ Text.utf8 rest) := by
        rw [Text.utf8, List.flatMap_cons, bytes]
        rfl
      rw [written, unitsFrom, first (Text.utf8 rest)]
      dsimp only
      rw [unitsFrom_skip, ih plain.2]
      simp
  exact run []

/-- The bytes of a text are read as that text, whatever would stand for stray bytes. -/
theorem decodeReplacing_utf8 {t : Text} (plain : t.hasSurrogate = false) :
    decodeReplacing t.utf8 = t := by
  rw [decodeReplacing, units_utf8 plain, List.flatMap_map]
  exact List.flatMap_singleton' t

/-- The bytes of a text have no stray ones among them. -/
theorem decode?_utf8 {t : Text} (plain : t.hasSurrogate = false) (surrogates : Bool) :
    decode? surrogates t.utf8 = some t := by
  rw [decode?, units_utf8 plain]
  clear plain
  induction t with
  | nil => rfl
  | cons c rest ih =>
    rw [List.map_cons, List.mapM_cons, ih]
    rfl

end Utf8

/-! ### Nothing to decode -/

/-- Bytes without a percent sign are left as they are. -/
theorem Bytes.percentDecode_of_notMem {bytes : Bytes} (plain : (0x25 : UInt8) ∉ bytes) :
    Bytes.percentDecode bytes = bytes := by
  have run (done : Bytes) : Bytes.percentDecodeFrom bytes done = done.reverse ++ bytes := by
    fun_induction Bytes.percentDecodeFrom bytes done with
    | case1 done => simp
    | case2 a done => simp
    | case3 a b done => simp
    | case4 a b c rest done value pair ih =>
      have other : a ≠ 0x25 := fun same => plain (same ▸ List.mem_cons_self)
      rw [if_neg other] at pair
      cases pair
    | case5 a b c rest done pair ih =>
      rw [ih fun mem => plain (List.mem_cons_of_mem a mem)]
      simp
  exact run []

/-- A text without percent signs and surrogates has nothing to decode. -/
theorem Text.percentDecode_of_plain {t : Text} (whole : t.hasSurrogate = false)
    (plain : ('%' : CodePoint) ∉ t) : t.percentDecode = t := by
  cases t with
  | nil => rfl
  | cons c rest =>
  have unmarked : (0x25 : UInt8) ∉ Text.utf8 (c :: rest) := by
    intro mem
    obtain ⟨d, among, byte⟩ := List.mem_flatMap.1 mem
    rcases (Utf8.form_utf8 d).byte_of_mem byte with same | beyond
    · have percent : d = ('%' : CodePoint) := CodePoint.ext same.symm
      exact plain (percent ▸ among)
    · exact absurd beyond (by decide)
  have one : (c :: rest).splitBy (fun a b => a.isSurrogate == b.isSurrogate) = [c :: rest] := by
    refine List.splitBy_of_isChain (by simp) (List.Pairwise.isChain ?_)
    refine List.pairwise_of_forall_mem_list fun a inA b inB => ?_
    have plainOf := List.any_eq_false.1 whole
    simp [plainOf a inA, plainOf b inB]
  rw [Text.percentDecode, one, List.flatMap_singleton, whole, if_neg Bool.false_ne_true,
    Bytes.percentDecode_of_notMem unmarked, Utf8.decodeReplacing_utf8 whole]

end Storefront
