import Storefront.Proofs.Grammar

/-!
# JSON texts are read

Every text of a value is read as that value. The machine that reads goes through the text of a
value, wherever that stands, without a look at what is open around it, and so it is followed through
the texts of the grammar one construction at a time. A number alone does not show where it ends, and
so the machine may be behind its letters without having ended it.

## Main definitions

* `Json.Reader.Reads` — the machine before and after a text
* `Json.Reader.Awaits`, `Json.Reader.Holds` — the machine in front of a value and behind it
* `Json.Reader.Follows` — what the machine makes of a text of the grammar

## Main results

* `Json.Reader.reads_string` — a string is read up to its closing mark
* `Json.Reader.number_of_writesNumber` — the letters of a number are read as its value
* `Json.Reader.follows_of_writes` — the machine follows the grammar
* `Json.read_of_isTextOf` — a text of a value is read as that value
-/

namespace Storefront.Json

namespace Reader

variable {start mid after : Reader} {c : CodePoint} {s t : Text} {mode : Mode}
variable {frames outer : List Frame} {value : Json} {opened : Opened} {place : Nat}

/-! ### Going through a text -/

/-- The machine goes through a text. -/
def Reads (start : Reader) (t : Text) (after : Reader) : Prop :=
  t.foldlM Reader.step start = .ok after

theorem Reads.nil (reader : Reader) : reader.Reads [] reader := rfl

theorem step_of_next (next : start.next c = .ok (mode, frames)) :
    start.step c = .ok ⟨mode, frames, start.place + 1⟩ := by
  rw [step, next]
  rfl

theorem Reads.cons (next : start.next c = .ok (mode, frames))
    (rest : Reads ⟨mode, frames, start.place + 1⟩ t after) : start.Reads (c :: t) after := by
  unfold Reads
  rw [List.foldlM_cons, step_of_next next]
  exact rest

theorem Reads.of_cons (reads : start.Reads (c :: t) after) : ∃ mode frames,
    start.next c = .ok (mode, frames) ∧ Reads ⟨mode, frames, start.place + 1⟩ t after := by
  unfold Reads at reads
  rw [List.foldlM_cons, step] at reads
  cases next : start.next c with
  | error why =>
    rw [next] at reads
    cases reads
  | ok found =>
    rw [next] at reads
    exact ⟨found.1, found.2, rfl, reads⟩

theorem Reads.append (first : start.Reads s mid) (second : mid.Reads t after) :
    start.Reads (s ++ t) after := by
  unfold Reads at *
  rw [List.foldlM_append, first]
  exact second

theorem Reads.single (next : start.next c = .ok (mode, frames)) :
    start.Reads [c] ⟨mode, frames, start.place + 1⟩ := .cons next (.nil _)

/-! ### Strings -/

/-- The letters of a string so far, the last one first, and whether that was written by its
number. -/
def written (opened : Opened) : Text × Bool := (opened.letters, opened.escaped.isSome)

theorem written_add (opened : Opened) (c : CodePoint) :
    written (opened.add c) = push (written opened) (c, false) := by
  obtain ⟨purpose, first, letters, escaped⟩ := opened
  cases letters <;> cases escaped <;> rfl

theorem written_addEscaped (opened : Opened) (index : Nat) (c : CodePoint) :
    written (opened.addEscaped index c) = push (written opened) (c, true) := by
  obtain ⟨purpose, first, letters, escaped⟩ := opened
  cases escaped with
  | none => cases letters <;> rfl
  | some i =>
    cases letters with
    | nil => rfl
    | cons high rest =>
      simp only [Opened.addEscaped, written, push, Option.isSome_some]
      split <;> rfl

theorem purpose_addEscaped (opened : Opened) (index : Nat) (c : CodePoint) :
    (opened.addEscaped index c).purpose = opened.purpose := by
  unfold Opened.addEscaped
  dsimp only
  split
  · split <;> rfl
  · rfl

theorem next_unicode {first digits value d : Nat} (digit : c.hexDigit? = some d) :
    Reader.next ⟨.unicode opened first digits value, frames, place⟩ c =
      if digits = 3 then .ok (.string (opened.addEscaped first (.ofNat (16 * value + d))), frames)
      else .ok (.unicode opened first (digits + 1) (16 * value + d), frames) := by
  simp only [Reader.next, digit]

/-- A letter is read as it is written. -/
theorem reads_letter {byNumber : Bool} (letter : WritesLetter c byNumber t) (opened : Opened)
    (frames : List Frame) (place : Nat) :
    ∃ read place', Reads ⟨.string opened, frames, place⟩ t ⟨.string read, frames, place'⟩ ∧
      read.purpose = opened.purpose ∧ written read = push (written opened) (c, byNumber) := by
  cases letter with
  | plain noQuote noBackslash noControl =>
    have next : Reader.next ⟨.string opened, frames, place⟩ c =
        .ok (.string (opened.add c), frames) := by
      simp only [Reader.next, if_neg noQuote, if_neg noBackslash, if_neg (Nat.not_lt.2 noControl)]
    exact ⟨_, _, .single next, rfl, written_add opened c⟩
  | @escape mark c escaped =>
    have noNumber : mark ≠ ('u' : CodePoint) := by
      rintro rfl
      have none : escapeLetter? 'u' = none := by decide
      rw [none] at escaped
      cases escaped
    have next : Reader.next ⟨.escape opened, frames, place + 1⟩ mark =
        .ok (.string (opened.add c), frames) := by
      simp only [Reader.next, if_neg noNumber, escaped]
    exact ⟨_, _, .cons rfl (.single next), rfl, written_add opened c⟩
  | number first second third last =>
    -- The number is put together digit by digit, beginning with zero.
    refine ⟨_, place + 1 + 1 + 1 + 1 + 1 + 1, .cons rfl (.cons rfl (.cons (next_unicode first)
      (.cons (next_unicode second) (.cons (next_unicode third) (.single ?_))))),
      purpose_addEscaped opened (place + 1) _, written_addEscaped ..⟩
    rw [next_unicode last, if_pos rfl, Nat.mul_zero, Nat.zero_add]

/-- Letters are read one by one. -/
theorem reads_letters {letters : List (CodePoint × Bool)} (row : WritesLetters letters t)
    (opened : Opened) (frames : List Frame) (place : Nat) :
    ∃ read place', Reads ⟨.string opened, frames, place⟩ t ⟨.string read, frames, place'⟩ ∧
      read.purpose = opened.purpose ∧ written read = letters.foldl push (written opened) := by
  induction row generalizing opened place with
  | nil => exact ⟨opened, place, .nil _, rfl, rfl⟩
  | cons first rest ih =>
    obtain ⟨one, next, reads, purpose, letter⟩ := reads_letter first opened frames place
    obtain ⟨read, place', others, same, letters⟩ := ih one next
    refine ⟨read, place', reads.append others, same.trans purpose, ?_⟩
    rw [letters, letter]
    rfl

/-- What may come next when a string has ended. -/
def closed : Purpose → Text → Mode
  | .value, t => .done (.str t)
  | .name members, t => .colon members t

theorem close_eq (opened : Opened) :
    opened.close = closed opened.purpose opened.letters.reverse := by
  unfold Opened.close
  cases opened.purpose <;> rfl

/-- A string is read up to its closing mark. -/
theorem reads_string (string : WritesString s t) :
    ∃ rest, t = ('"' : CodePoint) :: rest ∧ ∀ purpose first frames place, ∃ place',
      Reads ⟨.string { purpose, start := first }, frames, place⟩ rest
        ⟨closed purpose s, frames, place'⟩ := by
  obtain ⟨letters, body, row, rfl, rfl⟩ := string
  refine ⟨_, rfl, fun purpose first frames place => ?_⟩
  obtain ⟨read, last, reads, same, fold⟩ :=
    reads_letters row { purpose, start := first } frames place
  have text : read.letters.reverse = joined letters := by
    have reversed : read.letters = (joined letters).reverse ++ [] :=
      (congrArg Prod.fst fold).trans (foldl_push letters []).1
    rw [reversed, List.append_nil, List.reverse_reverse]
  have ends : Reader.next ⟨.string read, frames, last⟩ '"' =
      .ok (closed purpose (joined letters), frames) := by
    have purposed : read.purpose = purpose := same
    rw [← text, ← purposed, ← close_eq]
    rfl
  exact ⟨_, reads.append (.single ends)⟩

/-! ### Numbers -/

theorem noDigit_of_lt (beyond : 0x39 < c.toNat) : c.asciiDigit? = none := by
  rw [CodePoint.asciiDigit?, if_neg]
  simp only [Bool.and_eq_true, decide_eq_true_eq]
  omega

section Number

variable {places : Option (List Nat)} {size : Option Int} {whole fraction exponent rest : Text}

/-- An exponent starts with its letter, if with anything. -/
theorem le_of_writesExponent (scaled : WritesExponent size exponent) :
    ∀ c, exponent.head? = some c → 0x45 ≤ c.toNat := by
  rintro c start
  cases scaled with
  | none => cases start
  | some marked =>
    obtain rfl := Option.some.inj start
    exact Decimal.le_of_toLower marked

theorem splitWhole_append (nonempty : whole ≠ []) (ascii : whole.IsDigits)
    (alone : whole.head? = some ('0' : CodePoint) → whole = [('0' : CodePoint)])
    (stops : ∀ c, rest.head? = some c → c.asciiDigit? = none) :
    splitWhole (whole ++ rest) = (whole.map (·.toNat - 0x30), rest) := by
  obtain ⟨c, more, rfl⟩ := List.exists_cons_of_ne_nil nonempty
  unfold splitWhole
  rw [Decimal.splitDigits_append ascii stops, List.map_cons]
  split
  next zero =>
    -- After a zero nothing more belongs to the whole part, so there is nothing more.
    have bounds := ascii c List.mem_cons_self
    have value : c.toNat - 0x30 = 0 := (List.cons.inj (Prod.mk.inj zero).1).1
    have digit : c = ('0' : CodePoint) := CodePoint.ext (show c.toNat = 0x30 by omega)
    subst digit
    obtain rfl : more = [] := (List.cons.inj (alone rfl)).2
    rfl
  next => rfl

theorem splitFraction_append (fractioned : WritesFraction places fraction)
    (scaled : WritesExponent size exponent) :
    splitFraction (fraction ++ exponent) = (places, exponent) := by
  have letter := le_of_writesExponent scaled
  cases fractioned with
  | none =>
    cases exponent with
    | nil => rfl
    | cons c rest =>
      have noPoint : c ≠ ('.' : CodePoint) := by
        rintro rfl
        exact absurd (letter _ rfl) (by decide)
      exact if_neg noPoint
  | @some digits nonempty ascii =>
    obtain ⟨c, more, rfl⟩ := List.exists_cons_of_ne_nil nonempty
    have split := Decimal.splitDigits_append ascii fun c start =>
      noDigit_of_lt (Nat.lt_of_lt_of_le (by decide) (letter c start))
    rw [List.cons_append, splitFraction, if_pos rfl, split, List.map_cons]

theorem splitExponent_eq (scaled : WritesExponent size exponent) :
    splitExponent exponent = (size, []) := by
  cases scaled with
  | none => rfl
  | @some letter sign digits negative marked signed nonempty ascii =>
    obtain ⟨c, more, rfl⟩ := List.exists_cons_of_ne_nil nonempty
    have split : Integer.splitSign (sign ++ c :: more) = (negative, c :: more) := by
      simp only [exponentSigns, List.mem_cons, Prod.mk.injEq, List.not_mem_nil, or_false] at signed
      rcases signed with ⟨rfl, rfl⟩ | ⟨rfl, rfl⟩ | ⟨rfl, rfl⟩
      · exact Decimal.splitSign_signText (ascii c List.mem_cons_self).1 false more
      · rfl
      · rfl
    rw [splitExponent, if_pos marked, split]
    dsimp only
    rw [Decimal.splitDigits_of_isDigits ascii, List.map_cons]
    rfl

end Number

/-- The number of a sign and the letters behind it, by its parts. -/
def numberBehind (first : Nat) (negative : Bool) (body : Text) (frames : List Frame) :
    Except Misread Json :=
  match splitWhole body with
  | ([], _) => .error (.flawed .noValue first)
  | (whole, rest) => do
    let value ← numberOf negative whole (splitFraction rest).1
      (splitExponent (splitFraction rest).2).1
    match (splitExponent (splitFraction rest).2).2 with
    | [] => return value
    | c :: _ => do
      let _ ← Reader.after value frames (first + ((Decimal.signText negative ++ body).length -
        (splitExponent (splitFraction rest).2).2.length)) c
      return value

/-- A number is read behind its sign. -/
theorem number_eq {body : Text} {negative : Bool}
    (unsigned : negative = false → body.head? ≠ some ('-' : CodePoint)) (first : Nat)
    (frames : List Frame) :
    Reader.number first (Decimal.signText negative ++ body) frames =
      numberBehind first negative body frames := by
  cases negative with
  | true => rfl
  | false =>
    cases body with
    | nil => rfl
    | cons c rest =>
      have noMinus : c ≠ ('-' : CodePoint) := fun minus => unsigned rfl (congrArg some minus)
      change Reader.number first (c :: rest) frames = _
      simp only [Reader.number, if_neg noMinus]
      rfl

/-- The letters of a number are read as its value. -/
theorem number_of_writesNumber (number : WritesNumber value t) (first : Nat)
    (frames : List Frame) : Reader.number first t frames = .ok value := by
  obtain ⟨nonempty, ascii, alone, fractioned, scaled, valued⟩ := number
  next negative whole fraction exponent places size =>
  have stops : ∀ c, (fraction ++ exponent).head? = some c → c.asciiDigit? = none := by
    cases fractioned with
    | none =>
      exact fun c start => noDigit_of_lt
        (Nat.lt_of_lt_of_le (by decide) (le_of_writesExponent scaled c start))
    | some nonempty ascii =>
      rintro c start
      obtain rfl := Option.some.inj start
      decide
  have split := splitWhole_append nonempty ascii alone stops
  obtain ⟨c, more, rfl⟩ := List.exists_cons_of_ne_nil nonempty
  have unsigned : (c :: more ++ (fraction ++ exponent)).head? ≠ some ('-' : CodePoint) := by
    intro minus
    obtain rfl := Option.some.inj minus
    exact absurd (ascii _ List.mem_cons_self) (by decide)
  rw [List.map_cons] at split valued
  rw [number_eq fun _ => unsigned, numberBehind, split]
  simp only [splitFraction_append fractioned scaled, splitExponent_eq scaled, valued]
  rfl

theorem isNumeric_of_writesNumber (number : WritesNumber value t) :
    ∀ c ∈ t, isNumeric c = true := by
  obtain ⟨nonempty, ascii, alone, fractioned, scaled, valued⟩ := number
  next negative whole fraction exponent places size =>
  have digits {u : Text} (ascii : u.IsDigits) : ∀ c ∈ u, isNumeric c = true := fun c mem =>
    Decimal.isNumeric_of_digit (ascii c mem)
  have sign : ∀ c ∈ Decimal.signText negative, isNumeric c = true := by
    cases negative <;> decide
  have fractionNumeric : ∀ c ∈ fraction, isNumeric c = true := by
    cases fractioned with
    | none => nofun
    | some nonempty ascii => exact List.forall_mem_cons.2 ⟨by decide, digits ascii⟩
  have exponentNumeric : ∀ c ∈ exponent, isNumeric c = true := by
    cases scaled with
    | none => nofun
    | some marked signed nonempty ascii =>
      refine List.forall_mem_cons.2 ⟨?_, List.forall_mem_append.2 ⟨?_, digits ascii⟩⟩
      · rcases Decimal.eq_or_eq_of_toLower marked with rfl | rfl <;> decide
      · exact (by decide : ∀ entry ∈ exponentSigns, ∀ c ∈ entry.1, isNumeric c = true) _ signed
  exact List.forall_mem_append.2 ⟨sign, List.forall_mem_append.2 ⟨digits ascii,
    List.forall_mem_append.2 ⟨fractionNumeric, exponentNumeric⟩⟩⟩

/-! ### In front of a value and behind it -/

/-- The machine in front of a value. An array that has just been opened may end instead. -/
def Awaits (reader : Reader) : Prop := reader.mode = .value ∨ reader.mode = .firstItem

/-- The machine behind a value, or behind the letters of a number that is one. -/
inductive Holds (value : Json) (frames : List Frame) : Reader → Prop
  | done {place : Nat} : Holds value frames ⟨.done value, frames, place⟩
  | number {first place : Nat} {letters : Text}
      (written : Reader.number first letters.reverse frames = .ok value) :
    Holds value frames ⟨.number first letters, frames, place⟩

theorem next_of_awaits (awaits : start.Awaits) (noSpace : isSpace c = false)
    (noEnd : c ≠ (']' : CodePoint)) : start.next c = begin start.frames start.place c := by
  obtain ⟨mode, frames, place⟩ := start
  rcases awaits with rfl | rfl
  · simp [Reader.next, noSpace]
  · simp [Reader.next, noSpace, noEnd]

/-- What follows a value is taken in the same way whether or not a number had to be ended. -/
theorem next_of_holds (holds : start.Holds value frames) (noNumber : isNumeric c = false)
    (noWord : c ≠ ('I' : CodePoint)) : start.next c = Reader.after value frames start.place c := by
  cases holds with
  | done => rfl
  | number written =>
    simp only [Reader.next, noNumber, noWord, written]
    rfl

theorem finish_of_holds (holds : start.Holds value []) : start.finish = .ok value := by
  cases holds with
  | done => rfl
  | number written =>
    simp only [Reader.finish, written]
    rfl

/-- What may come next is the same after a blank. -/
def Stays (mode : Mode) : Prop := ∀ frames c place, isSpace c = true →
  Reader.next ⟨mode, frames, place⟩ c = .ok (mode, frames)

theorem stays_done : Stays (.done value) := fun frames c place blank => by
  rw [Reader.next, Reader.after.eq_def, if_pos blank]

theorem stays_colon {members : Members} {name : Text} : Stays (.colon members name) :=
  fun frames c place blank => by simp only [Reader.next, blank, if_true]

theorem Awaits.stays (awaits : start.Awaits) : Stays start.mode := fun frames c place blank => by
  rcases awaits with same | same <;> rw [same] <;> simp only [Reader.next, blank, if_true]

theorem Stays.reads (stays : Stays mode) (spaces : IsSpaces t) (frames : List Frame)
    (place : Nat) :
    ∃ place', Reads ⟨mode, frames, place⟩ t ⟨mode, frames, place'⟩ := by
  induction t generalizing place with
  | nil => exact ⟨place, .nil _⟩
  | cons c rest ih =>
    obtain ⟨blank, others⟩ := List.forall_mem_cons.1 spaces
    obtain ⟨place', reads⟩ := ih others (place + 1)
    exact ⟨place', .cons (stays frames c place blank) reads⟩

/-- Blanks are no letters of a number, nor the first one of a word. -/
theorem noNumber_of_isSpace (blank : isSpace c = true) :
    isNumeric c = false ∧ c ≠ ('I' : CodePoint) := by
  simp only [isSpace, Bool.or_eq_true, decide_eq_true_eq] at blank
  constructor
  · rw [← Bool.not_eq_true]
    intro numeric
    have bounds := Decimal.bounds_of_isNumeric numeric
    omega
  · rintro rfl
    revert blank
    decide

/-- Blanks behind a value change nothing; the first one ends a number. -/
theorem reads_spaces (holds : start.Holds value frames) (spaces : IsSpaces t) :
    ∃ after, start.Reads t after ∧ after.Holds value frames := by
  cases t with
  | nil => exact ⟨start, .nil start, holds⟩
  | cons c rest =>
    obtain ⟨blank, others⟩ := List.forall_mem_cons.1 spaces
    obtain ⟨noNumber, noWord⟩ := noNumber_of_isSpace blank
    have next : start.next c = .ok (.done value, frames) := by
      rw [next_of_holds holds noNumber noWord, Reader.after.eq_def, if_pos blank]
    obtain ⟨place', reads⟩ := stays_done.reads others frames (start.place + 1)
    exact ⟨_, .cons next reads, .done⟩

/-- What a value may be followed by is taken as such behind a number as well. -/
theorem reads_after (holds : start.Holds value frames)
    (mark : c = (',' : CodePoint) ∨ c = (']' : CodePoint) ∨ c = ('\x7d' : CodePoint))
    (next : ∀ place, Reader.after value frames place c = .ok (mode, outer)) :
    start.Reads [c] ⟨mode, outer, start.place + 1⟩ := by
  have plain : isNumeric c = false ∧ c ≠ ('I' : CodePoint) := by
    rcases mark with rfl | rfl | rfl <;> decide
  exact .single ((next_of_holds holds plain.1 plain.2).trans (next _))

/-! ### Values -/

/-- The machine reads a text as a value. -/
def ReadsAs (t : Text) (value : Json) : Prop :=
  ∀ start : Reader, start.Awaits →
    ∃ after, start.Reads t after ∧ after.Holds value start.frames

/-- The letters of a word are read one by one. -/
theorem reads_word (first : Nat) (value : Json) (frames : List Frame) (ne : t ≠ [])
    (place : Nat) :
    ∃ place', Reads ⟨.word first t value, frames, place⟩ t ⟨.done value, frames, place'⟩ := by
  -- By induction on the letters that are left; the last of them ends the word.
  induction t generalizing place with
  | nil => exact (ne rfl).elim
  | cons c rest ih =>
    cases rest with
    | nil =>
      have next : Reader.next ⟨.word first [c] value, frames, place⟩ c =
          .ok (.done value, frames) := by
        simp [Reader.next]
      exact ⟨_, .single next⟩
    | cons d more =>
      have next : Reader.next ⟨.word first (c :: d :: more) value, frames, place⟩ c =
          .ok (.word first (d :: more) value, frames) := by
        simp [Reader.next]
      obtain ⟨place', others⟩ := ih (by simp) (place + 1)
      exact ⟨place', .cons next others⟩

/-- A word is read from its first letter on. -/
theorem readsAs_word {rest : Text} (ne : rest ≠ []) (noSpace : isSpace c = false)
    (noEnd : c ≠ (']' : CodePoint))
    (begins : ∀ frames place, begin frames place c = .ok (.word place rest value, frames)) :
    ReadsAs (c :: rest) value := by
  intro start awaits
  obtain ⟨place', read⟩ := reads_word start.place value start.frames ne (start.place + 1)
  refine ⟨⟨.done value, start.frames, place'⟩, ?_, .done⟩
  exact .cons ((next_of_awaits awaits noSpace noEnd).trans (begins _ _)) read

/-- The word for a negative infinity starts as a number does. -/
theorem readsAs_infinity : ReadsAs (Text.ofString "-Infinity") (.float (.infinite true)) := by
  intro start awaits
  obtain ⟨place', read⟩ := reads_word start.place (.float (.infinite true)) start.frames
    (t := Text.ofString "nfinity") (by decide) (start.place + 1 + 1)
  refine ⟨⟨.done (.float (.infinite true)), start.frames, place'⟩, ?_, .done⟩
  exact .cons (next_of_awaits awaits (by decide) (by decide)) (.cons rfl read)

theorem readsAs_of_mem_words (known : (t, value) ∈ words) : ReadsAs t value := by
  simp only [words, List.mem_cons, Prod.mk.injEq, List.not_mem_nil, or_false] at known
  rcases known with ⟨rfl, rfl⟩ | ⟨rfl, rfl⟩ | ⟨rfl, rfl⟩ | ⟨rfl, rfl⟩ | ⟨rfl, rfl⟩ | ⟨rfl, rfl⟩
  case inr.inr.inr.inr.inr => exact readsAs_infinity
  all_goals exact readsAs_word (by decide) (by decide) (by decide) fun _ _ => rfl

theorem begin_of_ascii (digit : 0x30 ≤ c.toNat ∧ c.toNat ≤ 0x39) :
    begin frames place c = .ok (.number place [c], frames) := by
  -- A digit is none of the letters that other values begin with.
  have differs (d : CodePoint) (other : d.toNat < 0x30 ∨ 0x39 < d.toNat) : c ≠ d := by
    rintro rfl
    omega
  have isDigit : c.asciiDigit?.isSome = true := by simp [CodePoint.asciiDigit?, digit]
  simp only [begin, if_neg (differs '"' (by decide)), if_neg (differs '\x7b' (by decide)),
    if_neg (differs '[' (by decide)), if_neg (differs 'n' (by decide)),
    if_neg (differs 't' (by decide)), if_neg (differs 'f' (by decide)),
    if_neg (differs 'N' (by decide)), if_neg (differs 'I' (by decide)), isDigit, Bool.or_true,
    if_true]

/-- The letters of a number are gathered. -/
theorem reads_numeric (first : Nat) (frames : List Frame)
    (numeric : ∀ c ∈ t, isNumeric c = true) (letters : Text) (place : Nat) :
    ∃ place', Reads ⟨.number first letters, frames, place⟩ t
      ⟨.number first (t.reverse ++ letters), frames, place'⟩ := by
  induction t generalizing letters place with
  | nil => exact ⟨place, .nil _⟩
  | cons c rest ih =>
    have next : Reader.next ⟨.number first letters, frames, place⟩ c =
        .ok (.number first (c :: letters), frames) := by
      simp only [Reader.next, numeric c List.mem_cons_self, if_true]
    obtain ⟨place', others⟩ :=
      ih (fun d mem => numeric d (List.mem_cons_of_mem c mem)) (c :: letters) (place + 1)
    refine ⟨place', ?_⟩
    rw [List.reverse_cons, List.append_assoc]
    exact .cons next others

/-- A number starts with a minus sign or a digit. -/
theorem exists_cons_of_writesNumber (number : WritesNumber value t) :
    ∃ c rest, t = c :: rest ∧ isSpace c = false ∧ c ≠ (']' : CodePoint) ∧
      ∀ frames place, begin frames place c = .ok (.number place [c], frames) := by
  obtain ⟨nonempty, ascii, alone, fractioned, scaled, valued⟩ := number
  next negative whole fraction exponent places size =>
  cases negative with
  | true => exact ⟨'-', _, rfl, by decide, by decide, fun _ _ => rfl⟩
  | false =>
    obtain ⟨c, more, rfl⟩ := List.exists_cons_of_ne_nil nonempty
    have digit := ascii c List.mem_cons_self
    refine ⟨c, _, rfl, ?_, ?_, fun _ _ => begin_of_ascii digit⟩
    · simp only [isSpace, Bool.or_eq_false_iff, decide_eq_false_iff_not]
      omega
    · rintro rfl
      exact absurd digit (by decide)

theorem readsAs_number (number : WritesNumber value t) : ReadsAs t value := by
  intro start awaits
  have numeric := isNumeric_of_writesNumber number
  have written := number_of_writesNumber number start.place start.frames
  obtain ⟨c, rest, rfl, noSpace, noEnd, begins⟩ := exists_cons_of_writesNumber number
  obtain ⟨place', read⟩ := reads_numeric start.place start.frames
    (List.forall_mem_cons.1 numeric).2 [c] (start.place + 1)
  refine ⟨⟨.number start.place (rest.reverse ++ [c]), start.frames, place'⟩, ?_, .number ?_⟩
  · exact .cons ((next_of_awaits awaits noSpace noEnd).trans (begins _ _)) read
  · simpa using written

theorem readsAs_string (string : WritesString s t) : ReadsAs t (.str s) := by
  intro start awaits
  obtain ⟨rest, rfl, reads⟩ := reads_string string
  obtain ⟨place', read⟩ := reads .value start.place start.frames (start.place + 1)
  exact ⟨_, .cons (next_of_awaits awaits (by decide) (by decide)) read, .done⟩

/-! ### Arrays and objects -/

/-- The machine in front of a name, with the members before it. -/
def AwaitsName (reader : Reader) (before : Members) : Prop :=
  reader.mode = .name before ∨ reader.mode = .firstName ∧ before = []

theorem next_of_awaitsName {before : Members} (awaits : start.AwaitsName before) :
    start.next '"' =
      .ok (.string { purpose := .name before, start := start.place }, start.frames) := by
  obtain ⟨mode, frames, place⟩ := start
  rcases awaits with rfl | ⟨rfl, rfl⟩ <;> rfl

theorem AwaitsName.stays {before : Members} (awaits : start.AwaitsName before) :
    Stays start.mode := fun frames c place blank => by
  rcases awaits with same | ⟨same, -⟩ <;> rw [same] <;> simp only [Reader.next, blank, if_true]

/-- A value is read with the blanks around it. -/
theorem ReadsAs.spaced {u : Text} (reads : ReadsAs t value) (before : IsSpaces s)
    (behind : IsSpaces u) (awaits : start.Awaits) :
    ∃ after, start.Reads (s ++ (t ++ u)) after ∧ after.Holds value start.frames := by
  obtain ⟨place, blanks⟩ := awaits.stays.reads before start.frames start.place
  obtain ⟨mid, value, holds⟩ := reads ⟨start.mode, start.frames, place⟩ awaits
  obtain ⟨last, more, holds⟩ := reads_spaces holds behind
  exact ⟨last, blanks.append (value.append more), holds⟩

/-- What the machine makes of a text of the grammar: it reads a value, or it goes through the rest
of what has been opened and closes that. -/
def Follows : Phrase → Text → Prop
  | .value value, t => ReadsAs t value
  | .items items, t => ∀ (start : Reader) (before : List Json) (outer : List Frame),
    start.Awaits → start.frames = .array before :: outer →
      ∃ place, start.Reads t ⟨.done (.arr (before.reverse ++ items)), outer, place⟩
  | .members before all, t => ∀ start : Reader, start.AwaitsName before →
    ∃ place, start.Reads t ⟨.done (.obj all), start.frames, place⟩
  | .member before name all, t => ∀ (start : Reader) (outer : List Frame), start.mode = .value →
    start.frames = .object before name :: outer →
      ∃ place, start.Reads t ⟨.done (.obj all), outer, place⟩

/-- The machine follows the grammar, by induction on how a text is made. -/
theorem follows_of_writes {phrase : Phrase} (written : Writes phrase t) : Follows phrase t := by
  induction written with
  | word known => exact readsAs_of_mem_words known
  | number written => exact readsAs_number written
  | string string => exact readsAs_string string
  | emptyArray spaces =>
    intro start awaits
    have opens : start.next '[' = .ok (.firstItem, .array [] :: start.frames) :=
      next_of_awaits awaits (by decide) (by decide)
    have inside : Awaits ⟨.firstItem, .array [] :: start.frames, start.place + 1⟩ := .inr rfl
    obtain ⟨place, blanks⟩ := inside.stays.reads spaces _ _
    exact ⟨_, .cons opens (blanks.append (.single rfl)), .done⟩
  | array rest ih =>
    intro start awaits
    have opens : start.next '[' = .ok (.firstItem, .array [] :: start.frames) :=
      next_of_awaits awaits (by decide) (by decide)
    obtain ⟨place, reads⟩ := ih ⟨.firstItem, .array [] :: start.frames, start.place + 1⟩ []
      start.frames (.inr rfl) rfl
    exact ⟨_, .cons opens reads, .done⟩
  | emptyObject spaces =>
    intro start awaits
    -- An object is put on the stack with its first name and not before.
    have opens : start.next '\x7b' = .ok (.firstName, start.frames) :=
      next_of_awaits awaits (by decide) (by decide)
    have inside : AwaitsName ⟨.firstName, start.frames, start.place + 1⟩ [] := .inr ⟨rfl, rfl⟩
    obtain ⟨place, blanks⟩ := inside.stays.reads spaces _ _
    exact ⟨_, .cons opens (blanks.append (.single rfl)), .done⟩
  | object rest ih =>
    intro start awaits
    have opens : start.next '\x7b' = .ok (.firstName, start.frames) :=
      next_of_awaits awaits (by decide) (by decide)
    obtain ⟨place, reads⟩ := ih ⟨.firstName, start.frames, start.place + 1⟩ (.inr ⟨rfl, rfl⟩)
    exact ⟨_, .cons opens reads, .done⟩
  | lastItem before item behind ih =>
    intro start others outer awaits opened
    obtain ⟨mid, reads, holds⟩ := ih.spaced before behind awaits
    rw [opened] at holds
    -- The mark behind the last item closes the array that the item stands in.
    have closed := reads_after holds (c := ']') (by simp) fun _ => rfl
    have whole := reads.append closed
    rw [List.reverse_cons] at whole
    exact ⟨mid.place + 1, by simpa only [List.append_assoc] using whole⟩
  | item before item behind rest ih others =>
    intro start done outer awaits opened
    obtain ⟨mid, reads, holds⟩ := ih.spaced before behind awaits
    rw [opened] at holds
    have comma := reads_after holds (c := ',') (by simp) fun _ => rfl
    obtain ⟨place, more⟩ := others ⟨.value, _, mid.place + 1⟩ _ outer (.inl rfl) rfl
    have whole := reads.append (comma.append more)
    rw [List.reverse_cons, List.append_assoc] at whole
    exact ⟨place, by simpa only [List.append_assoc, List.singleton_append] using whole⟩
  | @name before all name s t u v blank named behind rest ih =>
    intro start awaits
    obtain ⟨body, rfl, reads⟩ := reads_string named
    obtain ⟨first, blanks⟩ := awaits.stays.reads blank start.frames start.place
    have inside : AwaitsName ⟨start.mode, start.frames, first⟩ before := awaits
    obtain ⟨second, string⟩ := reads (.name before) first start.frames (first + 1)
    obtain ⟨third, more⟩ := stays_colon.reads behind start.frames second
    obtain ⟨place, valued⟩ :=
      ih ⟨.value, .object before name :: start.frames, third + 1⟩ start.frames rfl rfl
    exact ⟨place, blanks.append (.cons (next_of_awaitsName inside)
      (string.append (more.append (.cons rfl valued))))⟩
  | lastMember blank valued behind ih =>
    intro start outer mode opened
    obtain ⟨mid, reads, holds⟩ := ih.spaced blank behind (.inl mode)
    rw [opened] at holds
    have closed := reads_after holds (c := '\x7d') (by simp) fun _ => rfl
    exact ⟨mid.place + 1, by simpa only [List.append_assoc] using reads.append closed⟩
  | member blank valued behind rest ih others =>
    intro start outer mode opened
    obtain ⟨mid, reads, holds⟩ := ih.spaced blank behind (.inl mode)
    rw [opened] at holds
    have comma := reads_after holds (c := ',') (by simp) fun _ => rfl
    obtain ⟨place, more⟩ := others ⟨.name _, outer, mid.place + 1⟩ (.inl rfl)
    have whole := reads.append (comma.append more)
    exact ⟨place, by simpa only [List.append_assoc, List.singleton_append] using whole⟩

end Reader

/-- A text of a value is read as that value. -/
theorem read_of_isTextOf {t : Text} {value : Json} (text : IsTextOf t value) :
    read t = .ok value := by
  obtain ⟨s, u, v, rfl, before, written, behind⟩ := text
  have awaits : Reader.Awaits ⟨.value, [], 0⟩ := .inl rfl
  obtain ⟨after, reads, holds⟩ := (Reader.follows_of_writes written).spaced before behind awaits
  -- A text that begins with a byte order mark, which would be refused, cannot be gone through.
  have unmarked : (s ++ (u ++ v)).head? ≠ some (.ofNat 0xFEFF) := by
    intro marked
    obtain ⟨rest, same⟩ : ∃ rest, s ++ (u ++ v) = .ofNat 0xFEFF :: rest :=
      List.head?_eq_some_iff.1 marked
    rw [same] at reads
    cases reads
  unfold read
  rw [if_neg unmarked, reads]
  exact Reader.finish_of_holds holds

end Storefront.Json
