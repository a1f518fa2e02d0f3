import Storefront.Json.Basic

/-!
# Reading JSON

A JSON text is read from left to right, one code point at a time, by a machine that remembers what
may come next, which arrays and objects are still open, and how far it has come. The grammar is that
of RFC 8259 with the words `NaN`, `Infinity` and `-Infinity` for numbers besides. Of several members
with one name the last one counts. An escape may write half a surrogate pair; the two halves of a
pair, written one after the other, are one code point. A text that is no JSON is refused at the
first place where that shows, and a value, a string or an escape that has not come to its end is
refused where it starts.

## Main definitions

* `Json.Misread`, `Json.Flaw` — why a text is no JSON
* `Json.Reader` — the state of the machine
* `Json.Reader.step` — what one code point does to it
* `Json.read` — the value of a text, however deep it is nested
-/

namespace Storefront.Json

/-- What a text lacks, or has too much of, to be JSON. -/
inductive Flaw
  /-- No value starts there. -/
  | noValue
  /-- No name of a member starts there. -/
  | noName
  /-- No colon follows a name there. -/
  | noColon
  /-- Neither a comma nor the end of what is open follows a value there. -/
  | noComma
  /-- The value has ended there, and the text has not. -/
  | surplus
  /-- A string that starts there does not end. -/
  | openString
  /-- A string has a control character there. -/
  | control
  /-- No escape is written as that one. -/
  | unknownEscape
  /-- An escape by number has no number of four digits, or the text ends with it. -/
  | brokenEscape
  /-- The text starts with a byte order mark. -/
  | marked
  deriving DecidableEq, Repr

/-- Why a text was not read as JSON. -/
inductive Misread
  /-- The text is no JSON text, as its code point with some index shows. -/
  | flawed (flaw : Flaw) (index : Nat)
  /-- The text holds an integer of too many digits. -/
  | tooLong (digits : Nat)
  deriving DecidableEq, Repr

/-- An array or object that has been opened and not closed. -/
inductive Frame
  /-- An array with its items so far, the last one first. -/
  | array (items : List Json)
  /-- An object with its members so far and the name of the member that is being read. -/
  | object (members : Members) (name : Text)

/-- What a string will be once it has ended. -/
inductive Purpose
  | value
  | name (members : Members)

/-- A string that has started and not ended. -/
structure Opened where
  purpose : Purpose
  /-- The index of its first mark. -/
  start : Nat
  /-- Its letters so far, the last one first. -/
  letters : Text := []
  /-- The index of the escape by number that has just ended. -/
  escaped : Option Nat := none

/-- What may come next. The letters of a number are kept last one first. -/
inductive Mode
  | value
  | firstItem
  | firstName
  | name (members : Members)
  | colon (members : Members) (name : Text)
  | string (opened : Opened)
  | escape (opened : Opened)
  | unicode (opened : Opened) (start digits value : Nat)
  | word (start : Nat) (rest : Text) (value : Json)
  | number (start : Nat) (letters : Text)
  | done (value : Json)

/-- The state of the machine: what may come next, what is still open, innermost first, and how many
code points have been read. -/
structure Reader where
  mode : Mode
  frames : List Frame
  place : Nat

/-- The blanks between the parts of a JSON text. -/
def isSpace (c : CodePoint) : Bool :=
  c.toNat = 0x20 || c.toNat = 0x09 || c.toNat = 0x0A || c.toNat = 0x0D

/-- What numbers are made of. -/
def isNumeric (c : CodePoint) : Bool :=
  c.asciiDigit?.isSome || c = ('-' : CodePoint) || c = ('+' : CodePoint) ||
    c = ('.' : CodePoint) || c = ('e' : CodePoint) || c = ('E' : CodePoint)

/-- The integer digits that a text starts with, and the text after them. A zero stands alone. -/
def splitWhole (t : Text) : List Nat × Text :=
  match Decimal.splitDigits t with
  | (0 :: _, _) => ([0], t.drop 1)
  | split => split

/-- The digits after a point that the text starts with, and the text after them; without digits
there is no point. -/
def splitFraction (t : Text) : Option (List Nat) × Text :=
  match t with
  | c :: rest =>
    if c = ('.' : CodePoint) then
      match Decimal.splitDigits rest with
      | ([], _) => (none, t)
      | (digits, rest) => (some digits, rest)
    else (none, t)
  | [] => (none, [])

/-- The power of ten that the text starts with, and the text after it; without digits there is
none. -/
def splitExponent (t : Text) : Option Int × Text :=
  match t with
  | c :: rest =>
    if c.toLower = ('e' : CodePoint) then
      let (negative, body) := Integer.splitSign rest
      match Decimal.splitDigits body with
      | ([], _) => (none, t)
      | (digits, rest) =>
        let size : Int := valueOfDigits digits
        (some (if negative then -size else size), rest)
    else (none, t)
  | [] => (none, [])

/-- The number of a sign and digits, digits after a point and a power of ten: an integer when it has
neither point nor exponent. An integer has no more digits than any other integer may have. -/
def numberOf (negative : Bool) (whole : List Nat) (fraction : Option (List Nat))
    (exponent : Option Int) : Except Misread Json :=
  match fraction, exponent with
  | none, none =>
    if Integer.maxDigits < whole.length then .error (.tooLong whole.length)
    else
      let value : Int := valueOfDigits whole
      .ok (.int (if negative then -value else value))
  | fraction, exponent =>
    let fraction := fraction.getD []
    .ok (.float (.ofScientific negative (valueOfDigits (whole ++ fraction))
      (exponent.getD 0 - fraction.length)))

/-- What may follow a whole value: a comma or the end of what it stands in. -/
def Reader.after (value : Json) (frames : List Frame) (index : Nat) (c : CodePoint) :
    Except Misread (Mode × List Frame) :=
  if isSpace c then .ok (.done value, frames)
  else
    match frames with
    | [] => .error (.flawed .surplus index)
    | .array items :: outer =>
      if c = (',' : CodePoint) then .ok (.value, .array (value :: items) :: outer)
      else if c = (']' : CodePoint) then .ok (.done (.arr (value :: items).reverse), outer)
      else .error (.flawed .noComma index)
    | .object members name :: outer =>
      if c = (',' : CodePoint) then .ok (.name (members.set name value), outer)
      else if c = ('\x7d' : CodePoint) then .ok (.done (.obj (members.set name value)), outer)
      else .error (.flawed .noComma index)

/-- The number that some letters write. Letters that are left over follow the number. -/
def Reader.number (start : Nat) (letters : Text) (frames : List Frame) : Except Misread Json := do
  let (negative, body) : Bool × Text := match letters with
    | c :: rest => if c = ('-' : CodePoint) then (true, rest) else (false, letters)
    | [] => (false, [])
  match splitWhole body with
  | ([], _) => .error (.flawed .noValue start)
  | (whole, rest) =>
    let (fraction, rest) := splitFraction rest
    let (exponent, rest) := splitExponent rest
    let value ← numberOf negative whole fraction exponent
    match rest with
    | [] => return value
    | c :: _ => do
      let _ ← Reader.after value frames (start + (letters.length - rest.length)) c
      return value

/-- The start of a value. -/
def Reader.begin (frames : List Frame) (index : Nat) (c : CodePoint) :
    Except Misread (Mode × List Frame) :=
  let word (rest : String) (value : Json) : Except Misread (Mode × List Frame) :=
    .ok (.word index (Text.ofString rest) value, frames)
  if c = ('"' : CodePoint) then .ok (.string { purpose := .value, start := index }, frames)
  else if c = ('\x7b' : CodePoint) then .ok (.firstName, frames)
  else if c = ('[' : CodePoint) then .ok (.firstItem, .array [] :: frames)
  else if c = ('n' : CodePoint) then word "ull" .null
  else if c = ('t' : CodePoint) then word "rue" (.bool true)
  else if c = ('f' : CodePoint) then word "alse" (.bool false)
  else if c = ('N' : CodePoint) then word "aN" (.float .nan)
  else if c = ('I' : CodePoint) then word "nfinity" (.float (.infinite false))
  else if c = ('-' : CodePoint) || c.asciiDigit?.isSome then .ok (.number index [c], frames)
  else .error (.flawed .noValue index)

/-- A string that has ended. -/
def Opened.close (opened : Opened) : Mode :=
  match opened.purpose with
  | .value => .done (.str opened.letters.reverse)
  | .name members => .colon members opened.letters.reverse

/-- A string with one more letter. -/
def Opened.add (opened : Opened) (c : CodePoint) : Opened :=
  { opened with letters := c :: opened.letters, escaped := none }

/-- A string with one more letter, written by the escape with some index. The second half of a pair
joins the first half if that was written by an escape just before. -/
def Opened.addEscaped (opened : Opened) (index : Nat) (c : CodePoint) : Opened :=
  let apart : Opened := { opened with letters := c :: opened.letters, escaped := some index }
  match opened.escaped, opened.letters with
  | some _, high :: rest =>
    if high.isHighSurrogate && c.isLowSurrogate then
      { opened with letters := .ofPair high c :: rest, escaped := some index }
    else apart
  | _, _ => apart

/-- The letter that stands for a code point after a backslash. -/
def escapeLetter? (c : CodePoint) : Option CodePoint :=
  if c = ('"' : CodePoint) || c = ('\\' : CodePoint) || c = ('/' : CodePoint) then some c
  else if c = ('b' : CodePoint) then some (.ofNat 0x08)
  else if c = ('f' : CodePoint) then some (.ofNat 0x0C)
  else if c = ('n' : CodePoint) then some (.ofNat 0x0A)
  else if c = ('r' : CodePoint) then some (.ofNat 0x0D)
  else if c = ('t' : CodePoint) then some (.ofNat 0x09)
  else none

/-- What may come after one more code point, and what is still open then. -/
def Reader.next (reader : Reader) (c : CodePoint) : Except Misread (Mode × List Frame) :=
  let { mode, frames, place } := reader
  match mode with
  | .value => if isSpace c then .ok (.value, frames) else Reader.begin frames place c
  | .firstItem =>
    if isSpace c then .ok (.firstItem, frames)
    else if c = (']' : CodePoint) then .ok (.done (.arr []), frames.tail)
    else Reader.begin frames place c
  | .firstName =>
    if isSpace c then .ok (.firstName, frames)
    else if c = ('\x7d' : CodePoint) then .ok (.done (.obj []), frames)
    else if c = ('"' : CodePoint) then
      .ok (.string { purpose := .name [], start := place }, frames)
    else .error (.flawed .noName place)
  | .name members =>
    if isSpace c then .ok (.name members, frames)
    else if c = ('"' : CodePoint) then
      .ok (.string { purpose := .name members, start := place }, frames)
    else .error (.flawed .noName place)
  | .colon members name =>
    if isSpace c then .ok (.colon members name, frames)
    else if c = (':' : CodePoint) then .ok (.value, .object members name :: frames)
    else .error (.flawed .noColon place)
  | .string opened =>
    if c = ('"' : CodePoint) then .ok (opened.close, frames)
    -- Only an escape directly after one can complete a surrogate pair.
    else if c = ('\\' : CodePoint) then .ok (.escape opened, frames)
    else if c.toNat < 0x20 then .error (.flawed .control place)
    else .ok (.string (opened.add c), frames)
  | .escape opened =>
    if c = ('u' : CodePoint) then .ok (.unicode opened place 0 0, frames)
    else
      match escapeLetter? c with
      | some letter => .ok (.string (opened.add letter), frames)
      | none => .error (.flawed .unknownEscape (place - 1))
  | .unicode opened start digits value =>
    match c.hexDigit? with
    | some digit =>
      let value := 16 * value + digit
      if digits = 3 then .ok (.string (opened.addEscaped start (.ofNat value)), frames)
      else .ok (.unicode opened start (digits + 1) value, frames)
    | none => .error (.flawed .brokenEscape start)
  | .word start [] _ => .error (.flawed .noValue start)
  | .word start [last] value =>
    if c = last then .ok (.done value, frames) else .error (.flawed .noValue start)
  | .word start (next :: rest) value =>
    if c = next then .ok (.word start rest value, frames) else .error (.flawed .noValue start)
  | .number start letters =>
    if isNumeric c then .ok (.number start (c :: letters), frames)
    -- A minus sign may start the word for an infinity instead of a number.
    else if c = ('I' : CodePoint) && letters = [('-' : CodePoint)] then
      .ok (.word start (Text.ofString "nfinity") (.float (.infinite true)), frames)
    else do
      -- A number ends where its letters end, and what ended it follows the number.
      let value ← Reader.number start letters.reverse frames
      Reader.after value frames place c
  | .done value => Reader.after value frames place c

/-- The machine after one more code point. -/
def Reader.step (reader : Reader) (c : CodePoint) : Except Misread Reader :=
  (reader.next c).map fun (mode, frames) => ⟨mode, frames, reader.place + 1⟩

/-- A whole value at the end of a text, where nothing may be open. -/
def Reader.close (reader : Reader) (value : Json) : Except Misread Json :=
  if reader.frames.isEmpty then .ok value else .error (.flawed .noComma reader.place)

/-- The value that has been read when the text ends. -/
def Reader.finish (reader : Reader) : Except Misread Json :=
  match reader.mode with
  | .value | .firstItem => .error (.flawed .noValue reader.place)
  | .firstName | .name _ => .error (.flawed .noName reader.place)
  | .colon .. => .error (.flawed .noColon reader.place)
  | .string opened =>
    match opened.escaped with
    | some index => .error (.flawed .brokenEscape index)
    | none => .error (.flawed .openString opened.start)
  | .escape opened => .error (.flawed .openString opened.start)
  | .unicode _ start .. => .error (.flawed .brokenEscape start)
  | .word start .. => .error (.flawed .noValue start)
  | .number start letters => do
    reader.close (← Reader.number start letters.reverse reader.frames)
  | .done value => reader.close value

/-- The value that a JSON text writes. How deep the text is nested makes no difference here; where
there is room for so many brackets only, `Json.excess?` tells whether it is enough. -/
def read (t : Text) : Except Misread Json := do
  if t.head? = some (.ofNat 0xFEFF) then .error (.flawed .marked 0)
  let reader ← t.foldlM Reader.step ⟨.value, [], 0⟩
  reader.finish

end Storefront.Json
