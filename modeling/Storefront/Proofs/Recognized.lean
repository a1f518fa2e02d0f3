import Mathlib.Data.List.Forall2
import Mathlib.Data.List.TakeWhile
import Storefront.Proofs.Reading

/-!
# Nothing but JSON texts is read

What is read as a value is a text of that value. While the machine goes through a text, what it has
gone through leads up to where it stands: to a value inside of all that is open, to a name, or to
the middle of a string, a word or a number. Each step keeps this, and where the text ends it says
that the whole text is one of the grammar.

## Main definitions

* `Json.Reader.Leads`, `Json.Reader.LeadsToName` — texts that end where a value or a name is to come
* `Json.Reader.Explains` — texts that end where the machine stands

## Main results

* `Json.Reader.writesNumber_of_number` — what is read as a number is one
* `Json.Reader.explains_of_next` — a step keeps what has been read explained
* `Json.isTextOf_of_read` — what is read is a text of its value
* `Json.read_eq_ok_iff` — exactly the texts of a value are read as it
-/

namespace Storefront.Json

namespace Reader

variable {c : CodePoint} {s t u : Text} {mode : Mode} {frames outer : List Frame}
variable {value : Json} {opened : Opened} {place : Nat}

/-! ### Numbers -/

section Number

variable {digits : List Nat} {rest : Text}

/-- Digits that are split off are what the text starts with. -/
theorem exists_of_splitDigits (split : Decimal.splitDigits t = (digits, rest)) :
    ∃ run : Text, t = run ++ rest ∧ run.IsDigits ∧ digits = run.map (·.toNat - 0x30) := by
  obtain ⟨rfl, rfl⟩ := Prod.mk.inj split
  have ascii : Text.IsDigits (t.takeWhile fun c => c.asciiDigit?.isSome) := fun c mem => by
    have digit := List.mem_takeWhile_imp mem
    by_contra other
    have none : c.asciiDigit? = none := if_neg (by simpa using other)
    rw [none] at digit
    cases digit
  exact ⟨_, List.prefix_iff_eq_append.1 (List.takeWhile_prefix _) |>.symm, ascii,
    Text.filterMap_asciiDigit?_of_ascii ascii⟩

theorem exists_of_splitWhole (split : splitWhole t = (digits, rest)) (nonempty : digits ≠ []) :
    ∃ whole : Text, t = whole ++ rest ∧ whole ≠ [] ∧ whole.IsDigits ∧
      (whole.head? = some ('0' : CodePoint) → whole = [('0' : CodePoint)]) ∧
      digits = whole.map (·.toNat - 0x30) := by
  unfold splitWhole at split
  split at split
  next more behind zero =>
    obtain ⟨rfl, rfl⟩ := Prod.mk.inj split
    obtain ⟨run, rfl, ascii, same⟩ := exists_of_splitDigits zero
    cases run with
    | nil => cases same
    | cons c run =>
      have bounds := ascii c List.mem_cons_self
      have value : 0 = c.toNat - 0x30 := (List.cons.inj same).1
      obtain rfl : c = ('0' : CodePoint) := CodePoint.ext (show c.toNat = 0x30 by omega)
      exact ⟨['0'], rfl, by simp, List.forall_mem_singleton.2 bounds, fun _ => rfl, rfl⟩
  next noZero =>
    obtain ⟨run, rfl, ascii, same⟩ := exists_of_splitDigits split
    refine ⟨run, rfl, ?_, ascii, ?_, same⟩
    · rintro rfl
      exact nonempty same
    · intro zero
      cases run with
      | nil => cases zero
      | cons c run =>
        obtain rfl := Option.some.inj zero
        rw [same] at split
        exact (noZero _ _ split).elim

theorem exists_of_splitFraction {places : Option (List Nat)}
    (split : splitFraction t = (places, rest)) :
    ∃ fraction, t = fraction ++ rest ∧ WritesFraction places fraction := by
  unfold splitFraction at split
  split at split
  next c behind =>
    split at split
    next point =>
      subst point
      split at split
      next =>
        obtain ⟨rfl, rfl⟩ := Prod.mk.inj split
        exact ⟨[], rfl, .none⟩
      next digits after nonempty found =>
        obtain ⟨rfl, rfl⟩ := Prod.mk.inj split
        obtain ⟨run, rfl, ascii, rfl⟩ := exists_of_splitDigits found
        refine ⟨_, rfl, .some ?_ ascii⟩
        rintro rfl
        exact nonempty rfl
    next =>
      obtain ⟨rfl, rfl⟩ := Prod.mk.inj split
      exact ⟨[], rfl, .none⟩
  next =>
    obtain ⟨rfl, rfl⟩ := Prod.mk.inj split
    exact ⟨[], rfl, .none⟩

theorem exists_of_splitSign {negative : Bool} (split : Integer.splitSign t = (negative, rest)) :
    ∃ sign, t = sign ++ rest ∧ (sign, negative) ∈ exponentSigns := by
  unfold Integer.splitSign at split
  split at split
  next c behind =>
    split at split
    next minus =>
      obtain ⟨rfl, rfl⟩ := Prod.mk.inj split
      exact ⟨['-'], by rw [minus]; rfl, by simp [exponentSigns]⟩
    next =>
      split at split
      next plus =>
        obtain ⟨rfl, rfl⟩ := Prod.mk.inj split
        exact ⟨['+'], by rw [plus]; rfl, by simp [exponentSigns]⟩
      next =>
        obtain ⟨rfl, rfl⟩ := Prod.mk.inj split
        exact ⟨[], rfl, by simp [exponentSigns]⟩
  next =>
    obtain ⟨rfl, rfl⟩ := Prod.mk.inj split
    exact ⟨[], rfl, by simp [exponentSigns]⟩

theorem exists_of_splitExponent {size : Option Int} (split : splitExponent t = (size, rest)) :
    ∃ exponent, t = exponent ++ rest ∧ WritesExponent size exponent := by
  unfold splitExponent at split
  split at split
  next c behind =>
    split at split
    next marked =>
      dsimp only at split
      split at split
      next =>
        obtain ⟨rfl, rfl⟩ := Prod.mk.inj split
        exact ⟨[], rfl, .none⟩
      next digits after nonempty found =>
        obtain ⟨rfl, rfl⟩ := Prod.mk.inj split
        obtain ⟨sign, whole, signed⟩ := exists_of_splitSign (Prod.mk.eta (p := _)).symm
        obtain ⟨run, body, ascii, rfl⟩ := exists_of_splitDigits found
        have nonempty : run ≠ [] := by
          rintro rfl
          exact nonempty rfl
        refine ⟨c :: (sign ++ run), ?_, .some marked signed nonempty ascii⟩
        rw [whole, body]
        simp
    next =>
      obtain ⟨rfl, rfl⟩ := Prod.mk.inj split
      exact ⟨[], rfl, .none⟩
  next =>
    obtain ⟨rfl, rfl⟩ := Prod.mk.inj split
    exact ⟨[], rfl, .none⟩

end Number

/-- No letter of a number follows a value. -/
theorem after_of_isNumeric (numeric : isNumeric c = true) (value : Json) (frames : List Frame)
    (index : Nat) : Reader.after value frames index c =
      .error (.flawed (if frames.isEmpty then .surplus else .noComma) index) := by
  have noSpace : isSpace c = false := by
    rw [← Bool.not_eq_true]
    intro blank
    rw [(noNumber_of_isSpace blank).1] at numeric
    cases numeric
  have differs (d : CodePoint) (other : isNumeric d = false) : c ≠ d := by
    rintro rfl
    rw [other] at numeric
    cases numeric
  have noComma := differs ',' (by decide)
  unfold Reader.after
  rw [noSpace]
  rcases frames with _ | ⟨_ | _, outer⟩
  · rfl
  · simp [noComma, differs ']' (by decide)]
  · simp [noComma, differs '\x7d' (by decide)]

/-- A minus sign that a text may start with is split off. -/
theorem exists_of_signText (t : Text) : ∃ negative body,
    t = Decimal.signText negative ++ body ∧
      (negative = false → body.head? ≠ some ('-' : CodePoint)) := by
  by_cases minus : t.head? = some ('-' : CodePoint)
  · obtain ⟨rest, rfl⟩ := List.head?_eq_some_iff.1 minus
    exact ⟨true, rest, rfl, nofun⟩
  · exact ⟨false, t, rfl, fun _ => minus⟩

/-- What is read as a number is one. -/
theorem writesNumber_of_number {first : Nat} (numeric : ∀ c ∈ t, isNumeric c = true)
    (read : Reader.number first t frames = .ok value) : WritesNumber value t := by
  obtain ⟨negative, body, rfl, unsigned⟩ := exists_of_signText t
  rw [number_eq unsigned, numberBehind] at read
  split at read
  next => cases read
  next digits afterWhole nonempty whole =>
    obtain ⟨run, rfl, ne, ascii, alone, rfl⟩ := exists_of_splitWhole whole nonempty
    obtain ⟨fraction, fractionSplit, fractioned⟩ := exists_of_splitFraction
      (Prod.mk.eta (p := splitFraction afterWhole)).symm
    obtain ⟨exponent, exponentSplit, scaled⟩ := exists_of_splitExponent
      (Prod.mk.eta (p := splitExponent (splitFraction afterWhole).2)).symm
    generalize (splitExponent (splitFraction afterWhole).2).2 = rest at read exponentSplit
    cases valued : numberOf negative (run.map (·.toNat - 0x30)) (splitFraction afterWhole).1
        (splitExponent (splitFraction afterWhole).2).1 with
    | error why =>
      rw [valued] at read
      cases read
    | ok number =>
      rw [valued] at read
      cases rest with
      | nil =>
        obtain rfl : number = value := Except.ok.inj read
        rw [fractionSplit, exponentSplit, List.append_nil]
        exact .mk ne ascii alone fractioned scaled valued
      | cons c more =>
        -- A letter that is left over is one of a number, which may not follow one.
        have left : isNumeric c = true := by
          refine numeric c ?_
          rw [fractionSplit, exponentSplit]
          simp
        simp only [after_of_isNumeric left] at read
        cases read

/-- The letters of a number that has ended, the last of them first. -/
theorem writes_of_number {letters : Text} {first : Nat}
    (numeric : ∀ c ∈ letters, isNumeric c = true)
    (ended : Reader.number first letters.reverse frames = .ok value) :
    Writes (.value value) letters.reverse :=
  .number (writesNumber_of_number (fun c mem => numeric c (List.mem_reverse.1 mem)) ended)

/-! ### What has been read -/

/-- A text that a phrase behind it would make a text of a value. -/
def Completes (t : Text) (phrase : Phrase) (value : Json) : Prop :=
  ∀ u, Writes phrase u → Writes (.value value) (t ++ u)

/-- A text in front of a value inside of all that is open, the innermost first. -/
def Leads : List Frame → Text → Prop
  | [], t => IsSpaces t
  | .array items :: outer, t => ∃ s u, t = s ++ u ∧ Leads outer s ∧
    ∀ rest, Completes u (.items rest) (.arr (items.reverse ++ rest))
  | .object members name :: outer, t => ∃ s u, t = s ++ u ∧ Leads outer s ∧
    ∀ all, Completes u (.member members name all) (.obj all)

/-- A text in front of the name of one more member. -/
def LeadsToName (members : Members) (outer : List Frame) (t : Text) : Prop :=
  ∃ s u, t = s ++ u ∧ Leads outer s ∧ ∀ all, Completes u (.members members all) (.obj all)

/-- A text in front of a string. -/
def LeadsTo : Purpose → List Frame → Text → Prop
  | .value => Leads
  | .name members => LeadsToName members

/-- A text in the middle of a string. -/
inductive LeadsInto (opened : Opened) (frames : List Frame) : Text → Prop
  | mk {before body : Text} {letters : List (CodePoint × Bool)}
    (leads : LeadsTo opened.purpose frames before) (row : WritesLetters letters body)
    (same : letters.foldl push ([], false) = written opened) :
    LeadsInto opened frames (before ++ ('"' : CodePoint) :: body)

/-- Hexadecimal digits and their values. -/
abbrev HexDigits : Text → List Nat → Prop := List.Forall₂ fun c d => c.hexDigit? = some d

/-- A text that ends where the machine stands. -/
inductive Explains : Mode → List Frame → Text → Prop
  | value {frames : List Frame} {before : Text} (leads : Leads frames before) :
    Explains .value frames before
  | firstItem {frames : List Frame} {before blanks : Text} (leads : Leads frames before)
    (blank : IsSpaces blanks) :
    Explains .firstItem (.array [] :: frames) (before ++ ('[' : CodePoint) :: blanks)
  | firstName {frames : List Frame} {before blanks : Text} (leads : Leads frames before)
    (blank : IsSpaces blanks) :
    Explains .firstName frames (before ++ ('\x7b' : CodePoint) :: blanks)
  | name {frames : List Frame} {members : Members} {before : Text}
    (leads : LeadsToName members frames before) : Explains (.name members) frames before
  | colon {frames : List Frame} {members : Members} {name before string blanks : Text}
    (leads : LeadsToName members frames before) (named : WritesString name string)
    (blank : IsSpaces blanks) :
    Explains (.colon members name) frames (before ++ (string ++ blanks))
  | string {frames : List Frame} {opened : Opened} {before : Text}
    (inside : LeadsInto opened frames before) : Explains (.string opened) frames before
  | escape {frames : List Frame} {opened : Opened} {before : Text}
    (inside : LeadsInto opened frames before) :
    Explains (.escape opened) frames (before ++ [('\\' : CodePoint)])
  | unicode {frames : List Frame} {opened : Opened} {first : Nat} {digits : List Nat}
    {before hex : Text} (inside : LeadsInto opened frames before)
    (values : HexDigits hex digits) (few : hex.length < 4) :
    Explains (.unicode opened first hex.length (digits.foldl (16 * · + ·) 0)) frames
      (before ++ ('\\' : CodePoint) :: ('u' : CodePoint) :: hex)
  | word {frames : List Frame} {first : Nat} {value : Json} {before start rest : Text}
    (leads : Leads frames before) (known : (start ++ rest, value) ∈ words) :
    Explains (.word first rest value) frames (before ++ start)
  | number {frames : List Frame} {first : Nat} {before letters : Text}
    (leads : Leads frames before) (numeric : ∀ c ∈ letters, isNumeric c = true) :
    Explains (.number first letters) frames (before ++ letters.reverse)
  | done {frames : List Frame} {value : Json} {before text blanks : Text}
    (leads : Leads frames before) (valued : Writes (.value value) text)
    (blank : IsSpaces blanks) : Explains (.done value) frames (before ++ (text ++ blanks))

/-! ### Blanks -/

theorem Completes.blank {phrase : Phrase} (part : ∀ value, phrase ≠ .value value)
    (completes : Completes t phrase value) (blank : isSpace c = true) :
    Completes (t ++ [c]) phrase value := fun u written => by
  rw [List.append_assoc]
  exact completes _ (writes_blank part written blank)

theorem Leads.blank (leads : Leads frames t) (blank : isSpace c = true) :
    Leads frames (t ++ [c]) := by
  rcases frames with _ | ⟨_ | _, outer⟩
  · exact IsSpaces.append leads (isSpaces_singleton blank)
  · obtain ⟨s, u, rfl, outside, completes⟩ := leads
    exact ⟨s, u ++ [c], List.append_assoc .., outside,
      fun rest => (completes rest).blank (by simp) blank⟩
  · obtain ⟨s, u, rfl, outside, completes⟩ := leads
    exact ⟨s, u ++ [c], List.append_assoc .., outside,
      fun all => (completes all).blank (by simp) blank⟩

theorem LeadsToName.blank {members : Members} (leads : LeadsToName members frames t)
    (blank : isSpace c = true) : LeadsToName members frames (t ++ [c]) := by
  obtain ⟨s, u, rfl, outside, completes⟩ := leads
  exact ⟨s, u ++ [c], List.append_assoc .., outside,
    fun all => (completes all).blank (by simp) blank⟩

/-! ### Arrays and objects -/

/-- In front of the first item. -/
theorem leads_array (leads : Leads outer s) (blank : IsSpaces u) :
    Leads (.array [] :: outer) (s ++ ('[' : CodePoint) :: u) := by
  -- By induction on the blanks from the last one, which stands in front of the first item.
  induction u using List.reverseRecOn with
  | nil => exact ⟨s, ['['], rfl, leads, fun rest v => .array⟩
  | append_singleton u c ih =>
    obtain ⟨before, last⟩ := List.forall_mem_append.1 blank
    have longer := (ih before).blank (last c List.mem_cons_self)
    rwa [List.append_assoc] at longer

/-- In front of the first name. -/
theorem leadsToName_object (leads : Leads outer s) (blank : IsSpaces u) :
    LeadsToName [] outer (s ++ ('\x7b' : CodePoint) :: u) := by
  induction u using List.reverseRecOn with
  | nil => exact ⟨s, ['\x7b'], rfl, leads, fun all v => .object⟩
  | append_singleton u c ih =>
    obtain ⟨before, last⟩ := List.forall_mem_append.1 blank
    have longer := (ih before).blank (last c List.mem_cons_self)
    rwa [List.append_assoc] at longer

/-- Behind the colon of a name. -/
theorem LeadsToName.colon {members : Members} {name v : Text}
    (leads : LeadsToName members outer s) (named : WritesString name u) (blank : IsSpaces v) :
    Leads (.object members name :: outer) (s ++ (u ++ v) ++ [(':' : CodePoint)]) := by
  obtain ⟨before, inside, rfl, outside, completes⟩ := leads
  refine ⟨before, inside ++ (u ++ (v ++ [(':' : CodePoint)])), by simp, outside, ?_⟩
  intro all w rest
  have whole := completes all _ (.name isSpaces_nil named blank rest)
  simpa using whole

section Behind

variable {items : List Json} {members : Members} {name v : Text}

/-- Behind an item and a comma. -/
theorem leads_item (leads : Leads (.array items :: outer) s) (valued : Writes (.value value) u)
    (blank : IsSpaces v) :
    Leads (.array (value :: items) :: outer) (s ++ (u ++ v) ++ [(',' : CodePoint)]) := by
  obtain ⟨before, inside, rfl, outside, completes⟩ := leads
  refine ⟨before, inside ++ (u ++ (v ++ [(',' : CodePoint)])), by simp, outside, ?_⟩
  intro rest w others
  have whole := completes _ _ (.item isSpaces_nil valued blank others)
  simpa using whole

/-- Behind a member and a comma. -/
theorem leadsToName_member (leads : Leads (.object members name :: outer) s)
    (valued : Writes (.value value) u) (blank : IsSpaces v) :
    LeadsToName (members.set name value) outer (s ++ (u ++ v) ++ [(',' : CodePoint)]) := by
  obtain ⟨before, inside, rfl, outside, completes⟩ := leads
  refine ⟨before, inside ++ (u ++ (v ++ [(',' : CodePoint)])), by simp, outside, ?_⟩
  intro all w others
  have whole := completes _ _ (.member isSpaces_nil valued blank others)
  simpa using whole

/-- Right behind a value. -/
theorem explains_done (leads : Leads frames s) (valued : Writes (.value value) u) :
    Explains (.done value) frames (s ++ u) := by
  simpa using Explains.done leads valued isSpaces_nil

/-- Behind the end of an array. -/
theorem explains_array (leads : Leads (.array items :: outer) s)
    (valued : Writes (.value value) u) (blank : IsSpaces v) :
    Explains (.done (.arr (value :: items).reverse)) outer
      (s ++ (u ++ v) ++ [(']' : CodePoint)]) := by
  obtain ⟨before, inside, rfl, outside, completes⟩ := leads
  have whole := completes _ _ (.lastItem isSpaces_nil valued blank)
  simpa using explains_done outside whole

/-- Behind the end of an object. -/
theorem explains_object (leads : Leads (.object members name :: outer) s)
    (valued : Writes (.value value) u) (blank : IsSpaces v) :
    Explains (.done (.obj (members.set name value))) outer
      (s ++ (u ++ v) ++ [('\x7d' : CodePoint)]) := by
  obtain ⟨before, inside, rfl, outside, completes⟩ := leads
  have whole := completes _ _ (.lastMember isSpaces_nil valued blank)
  simpa using explains_done outside whole

end Behind

/-! ### Steps -/

/-- Where the machine is said to stand, it stands. -/
theorem explains_of_ok {after : Mode}
    (next : (.ok (mode, frames) : Except Misread (Mode × List Frame)) = .ok (after, outer))
    (explained : Explains mode frames t) : Explains after outer t := by
  obtain ⟨rfl, rfl⟩ := Prod.mk.inj (Except.ok.inj next)
  exact explained

/-- Behind a value may follow what `Reader.after` takes. -/
theorem explains_of_after {v : Text} {index : Nat} (leads : Leads frames s)
    (valued : Writes (.value value) u) (blank : IsSpaces v)
    (follows : Reader.after value frames index c = .ok (mode, outer)) :
    Explains mode outer (s ++ (u ++ v) ++ [c]) := by
  unfold Reader.after at follows
  split at follows
  next space =>
    refine explains_of_ok follows ?_
    simpa using Explains.done leads valued (IsSpaces.append blank (isSpaces_singleton space))
  next =>
    rcases frames with _ | ⟨items | ⟨members, name⟩, outside⟩
    · cases follows
    · dsimp only at follows
      split_ifs at follows with comma ends
      · subst comma
        exact explains_of_ok follows (.value (leads_item leads valued blank))
      · subst ends
        exact explains_of_ok follows (explains_array leads valued blank)
    · dsimp only at follows
      split_ifs at follows with comma ends
      · subst comma
        exact explains_of_ok follows (.name (leadsToName_member leads valued blank))
      · subst ends
        exact explains_of_ok follows (explains_object leads valued blank)

/-- In front of a value comes the start of one. -/
theorem explains_of_begin {index : Nat} (leads : Leads frames t)
    (starts : begin frames index c = .ok (mode, outer)) : Explains mode outer (t ++ [c]) := by
  unfold begin at starts
  dsimp only at starts
  split_ifs at starts with quote brace bracket n t f N I number
  · subst quote
    exact explains_of_ok starts (.string (.mk leads .nil rfl))
  · subst brace
    exact explains_of_ok starts (.firstName leads isSpaces_nil)
  · subst bracket
    exact explains_of_ok starts (.firstItem leads isSpaces_nil)
  · subst n
    exact explains_of_ok starts (.word leads (.head _))
  · subst t
    exact explains_of_ok starts (.word leads (.tail _ (.head _)))
  · subst f
    exact explains_of_ok starts (.word leads (.tail _ (.tail _ (.head _))))
  · subst N
    exact explains_of_ok starts (.word leads (.tail _ (.tail _ (.tail _ (.head _)))))
  · subst I
    exact explains_of_ok starts (.word leads (.tail _ (.tail _ (.tail _ (.tail _ (.head _))))))
  · have numeric : isNumeric c = true := by
      rw [Bool.or_eq_true, decide_eq_true_eq] at number
      rcases number with rfl | digit
      · decide
      · simp [isNumeric, digit]
    exact explains_of_ok starts (.number leads (List.forall_mem_singleton.2 numeric))

/-! ### Strings -/

/-- One more letter of a string, as it is written. -/
theorem LeadsInto.letter {added : Opened} {byNumber : Bool} (inside : LeadsInto opened frames t)
    (letter : WritesLetter c byNumber s) (purpose : added.purpose = opened.purpose)
    (letters : written added = push (written opened) (c, byNumber)) :
    LeadsInto added frames (t ++ s) := by
  obtain ⟨leads, row, same⟩ := inside
  rw [List.append_assoc, List.cons_append]
  have longer := row.append (.cons letter .nil)
  rw [List.append_nil] at longer
  refine .mk (by rwa [purpose]) longer ?_
  rw [List.foldl_append, same, letters]
  rfl

/-- The end of a string, which is the text of its letters. -/
theorem LeadsInto.close (inside : LeadsInto opened frames t) :
    ∃ before string, t ++ [('"' : CodePoint)] = before ++ string ∧
      LeadsTo opened.purpose frames before ∧ WritesString opened.letters.reverse string := by
  obtain ⟨leads, row, same⟩ := inside
  next before body letters =>
  refine ⟨before, ('"' : CodePoint) :: (body ++ [('"' : CodePoint)]), by simp, leads, letters,
    body, row, ?_, rfl⟩
  have reversed : opened.letters = (joined letters).reverse ++ [] :=
    (congrArg Prod.fst same).symm.trans (foldl_push letters []).1
  rw [reversed, List.append_nil, List.reverse_reverse]

/-- The mark that ends a string. -/
theorem explains_close (inside : LeadsInto opened frames t) :
    Explains opened.close frames (t ++ [('"' : CodePoint)]) := by
  obtain ⟨before, string, whole, leads, ends⟩ := inside.close
  rw [whole, close_eq]
  cases purpose : opened.purpose with
  | value =>
    rw [purpose] at leads
    exact explains_done leads (.string ends)
  | name members =>
    rw [purpose] at leads
    have named := Explains.colon leads ends isSpaces_nil
    rwa [List.append_nil] at named

/-- The fourth digit of an escape by number ends it. -/
theorem writesLetter_of_hex {digits : List Nat} {d : Nat} (values : HexDigits s digits)
    (three : s.length = 3) (last : c.hexDigit? = some d) :
    WritesLetter (.ofNat (16 * digits.foldl (16 * · + ·) 0 + d)) true
      (('\\' : CodePoint) :: ('u' : CodePoint) :: (s ++ [c])) := by
  match s, digits, values, three with
  | [p, q, r], [i, j, k], .cons first (.cons second (.cons third .nil)), _ =>
    simp only [List.foldl_cons, List.foldl_nil, Nat.mul_zero, Nat.zero_add]
    exact .number first second third last

/-- A step inside of a string. -/
theorem explains_of_string {after : Mode} (inside : LeadsInto opened frames t)
    (next : Reader.next ⟨.string opened, frames, place⟩ c = .ok (after, outer)) :
    Explains after outer (t ++ [c]) := by
  simp only [Reader.next] at next
  split_ifs at next with quote backslash control
  · subst quote
    exact explains_of_ok next (explains_close inside)
  · subst backslash
    exact explains_of_ok next (.escape inside)
  · have letter := WritesLetter.plain quote backslash (Nat.not_lt.1 control)
    exact explains_of_ok next (.string (inside.letter letter rfl (written_add ..)))

/-- A step behind the backslash of an escape. -/
theorem explains_of_escape {after : Mode} (inside : LeadsInto opened frames t)
    (next : Reader.next ⟨.escape opened, frames, place⟩ c = .ok (after, outer)) :
    Explains after outer (t ++ [('\\' : CodePoint)] ++ [c]) := by
  simp only [Reader.next] at next
  rw [List.append_assoc]
  split_ifs at next with number
  · subst number
    exact explains_of_ok next (.unicode inside .nil (by simp))
  · split at next
    next escaped =>
      exact explains_of_ok next (.string (inside.letter (.escape escaped) rfl (written_add ..)))
    next => cases next

/-- A step among the digits of an escape. -/
theorem explains_of_unicode {after : Mode} {first : Nat} {digits : List Nat} {hex : Text}
    (inside : LeadsInto opened frames t) (values : HexDigits hex digits) (few : hex.length < 4)
    (next : Reader.next ⟨.unicode opened first hex.length (digits.foldl (16 * · + ·) 0), frames,
      place⟩ c = .ok (after, outer)) :
    Explains after outer (t ++ ('\\' : CodePoint) :: ('u' : CodePoint) :: hex ++ [c]) := by
  cases digit : c.hexDigit? with
  | none =>
    simp only [Reader.next, digit] at next
    cases next
  | some d =>
    rw [next_unicode digit] at next
    rw [List.append_assoc, List.cons_append, List.cons_append]
    split_ifs at next with three
    · -- The fourth digit ends the escape, and a letter is whole.
      have ended := inside.letter (writesLetter_of_hex values three digit)
        (purpose_addEscaped opened first _) (written_addEscaped ..)
      exact explains_of_ok next (.string ended)
    · have more : HexDigits (hex ++ [c]) (digits ++ [d]) :=
        List.rel_append values (.cons digit .nil)
      have few : (hex ++ [c]).length < 4 := by
        rw [List.length_append, List.length_singleton]
        omega
      have longer : Explains (.unicode opened first _ _) frames _ := .unicode inside more few
      rw [List.length_append, List.length_singleton, List.foldl_append] at longer
      exact explains_of_ok next longer

/-- A step inside of a word. -/
theorem explains_of_word {after : Mode} {first : Nat} {start rest : Text} (leads : Leads frames s)
    (known : (start ++ rest, value) ∈ words)
    (next : Reader.next ⟨.word first rest value, frames, place⟩ c = .ok (after, outer)) :
    Explains after outer (s ++ start ++ [c]) := by
  rw [List.append_assoc]
  -- The word may be at its end, which no step leaves, at its last letter or before.
  rcases rest with _ | ⟨letter, _ | ⟨second, rest⟩⟩
  · cases next
  · simp only [Reader.next] at next
    split_ifs at next with same
    subst same
    exact explains_of_ok next (explains_done leads (.word known))
  · simp only [Reader.next] at next
    split_ifs at next with same
    subst same
    exact explains_of_ok next (.word leads (by rwa [List.append_assoc]))

/-- A step behind a letter of a number. -/
theorem explains_of_number {after : Mode} {first : Nat} {letters : Text} (leads : Leads frames s)
    (numeric : ∀ c ∈ letters, isNumeric c = true)
    (next : Reader.next ⟨.number first letters, frames, place⟩ c = .ok (after, outer)) :
    Explains after outer (s ++ letters.reverse ++ [c]) := by
  simp only [Reader.next] at next
  split_ifs at next with more infinity
  · rw [List.append_assoc, ← List.reverse_cons]
    exact explains_of_ok next (.number leads (List.forall_mem_cons.2 ⟨more, numeric⟩))
  · -- Behind a minus sign alone there may be a word.
    simp only [Bool.and_eq_true, decide_eq_true_eq] at infinity
    obtain ⟨rfl, rfl⟩ := infinity
    rw [List.append_assoc]
    exact explains_of_ok next
      (.word leads (.tail _ (.tail _ (.tail _ (.tail _ (.tail _ (.head _)))))))
  · cases ended : Reader.number first letters.reverse frames with
    | error why =>
      rw [ended] at next
      cases next
    | ok value =>
      rw [ended] at next
      have follows := explains_of_after leads (writes_of_number numeric ended) isSpaces_nil next
      rwa [List.append_nil] at follows

/-- A step keeps what has been read explained. -/
theorem explains_of_next (explained : Explains mode frames t) {after : Mode}
    (next : Reader.next ⟨mode, frames, place⟩ c = .ok (after, outer)) :
    Explains after outer (t ++ [c]) := by
  cases explained with
  | value leads =>
    simp only [Reader.next] at next
    split_ifs at next with space
    · exact explains_of_ok next (.value (leads.blank space))
    · exact explains_of_begin leads next
  | firstItem leads blank =>
    simp only [Reader.next] at next
    split_ifs at next with space ends
    · refine explains_of_ok next ?_
      simpa using Explains.firstItem leads (IsSpaces.append blank (isSpaces_singleton space))
    · subst ends
      refine explains_of_ok next ?_
      simpa using explains_done leads (.emptyArray blank)
    · exact explains_of_begin (leads_array leads blank) next
  | firstName leads blank =>
    simp only [Reader.next] at next
    split_ifs at next with space ends quote
    · refine explains_of_ok next ?_
      simpa using Explains.firstName leads (IsSpaces.append blank (isSpaces_singleton space))
    · subst ends
      refine explains_of_ok next ?_
      simpa using explains_done leads (.emptyObject blank)
    · subst quote
      exact explains_of_ok next (.string (.mk (leadsToName_object leads blank) .nil rfl))
  | name leads =>
    simp only [Reader.next] at next
    split_ifs at next with space quote
    · exact explains_of_ok next (.name (leads.blank space))
    · subst quote
      exact explains_of_ok next (.string (.mk leads .nil rfl))
  | colon leads named blank =>
    simp only [Reader.next] at next
    split_ifs at next with space colon
    · refine explains_of_ok next ?_
      simpa using Explains.colon leads named (IsSpaces.append blank (isSpaces_singleton space))
    · subst colon
      exact explains_of_ok next (.value (leads.colon named blank))
  | string inside => exact explains_of_string inside next
  | escape inside => exact explains_of_escape inside next
  | unicode inside values few => exact explains_of_unicode inside values few next
  | word leads known => exact explains_of_word leads known next
  | number leads numeric => exact explains_of_number leads numeric next
  | done leads valued blank => exact explains_of_after leads valued blank next

/-- What has been read stays explained, step by step. -/
theorem explains_of_reads {start after : Reader} (explained : Explains start.mode start.frames s)
    (reads : start.Reads t after) : Explains after.mode after.frames (s ++ t) := by
  induction t generalizing start s with
  | nil =>
    cases reads
    rwa [List.append_nil]
  | cons c rest ih =>
    obtain ⟨mode, frames, next, others⟩ := Reads.of_cons reads
    have longer := @ih _ ⟨mode, frames, start.place + 1⟩ (explains_of_next explained next) others
    rwa [List.append_assoc] at longer

/-- A value is whole only where nothing is open. -/
theorem isTextOf_of_close (leads : Leads frames s) (valued : Writes (.value value) t)
    (blank : IsSpaces u) {found : Json}
    (closed : Reader.close ⟨mode, frames, place⟩ value = .ok found) :
    IsTextOf (s ++ (t ++ u)) found := by
  unfold Reader.close at closed
  split_ifs at closed with none
  obtain rfl := Except.ok.inj closed
  obtain rfl := List.isEmpty_iff.1 none
  exact ⟨s, t, u, rfl, leads, valued, blank⟩

/-- Where the text ends with a value, it is a text of that. -/
theorem isTextOf_of_finish (explained : Explains mode frames t)
    (finished : Reader.finish ⟨mode, frames, place⟩ = .ok value) : IsTextOf t value := by
  cases explained with
  -- In front of something that is still to come no text may end.
  | value | firstItem | firstName | name | colon | escape | unicode | word => cases finished
  | @string _ opened =>
    simp only [Reader.finish] at finished
    cases escaped : opened.escaped <;> rw [escaped] at finished <;> cases finished
  | @number _ first before letters leads numeric =>
    simp only [Reader.finish] at finished
    cases ended : Reader.number first letters.reverse frames with
    | error why =>
      rw [ended] at finished
      cases finished
    | ok value =>
      rw [ended] at finished
      have written := writes_of_number numeric ended
      have text := isTextOf_of_close leads written isSpaces_nil finished
      rwa [List.append_nil] at text
  | done leads valued blank => exact isTextOf_of_close leads valued blank finished

end Reader

/-- What is read as a value is a text of it. -/
theorem isTextOf_of_read {t : Text} {value : Json} (found : read t = .ok value) :
    IsTextOf t value := by
  unfold read at found
  split at found
  next => cases found
  next =>
    cases reads : t.foldlM Reader.step ⟨.value, [], 0⟩ with
    | error why =>
      rw [reads] at found
      cases found
    | ok last =>
      rw [reads] at found
      -- Nothing has been read at first, and nothing is what leads to a value on its own.
      have before : Reader.Explains .value [] [] := .value nofun
      exact Reader.isTextOf_of_finish (Reader.explains_of_reads before reads) found

/-- Exactly the texts of a value are read as that value. -/
theorem read_eq_ok_iff {t : Text} {value : Json} : read t = .ok value ↔ IsTextOf t value :=
  ⟨isTextOf_of_read, read_of_isTextOf⟩

end Storefront.Json
