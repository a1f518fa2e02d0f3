import Storefront.Text.Basic

/-!
# Punycode

The name of a host is sent in ASCII. A label of the name that has other code points is written as
its ASCII code points, a hyphen, and small letters and digits that tell which other code points
stand where: they are taken in the order of their numbers, and each is told by how far it is from
the one before, both in its number and in its place. These distances are numerals to the base 36
whose places grow at a pace that is fitted to the distances seen so far.

## Main definitions

* `Punycode.numeral`, `Punycode.readNumeral` — a distance as a numeral, and back
* `Punycode.encode`, `Punycode.decode` — a text in ASCII, and back
* `Punycode.Misread` — why a text in ASCII tells no other
-/

namespace Storefront.Punycode

/-- The digit with a value: the small letters, and then the decimal digits. -/
def digit (value : Nat) : CodePoint :=
  if value < 26 then .ofNat (0x61 + value) else .ofNat (0x30 + value - 26)

/-- The least value at a place with which a numeral goes on, for the pace it is written at. -/
def threshold (place pace : Nat) : Nat :=
  if place ≤ pace then 1 else if pace + 26 ≤ place then 26 else place - pace

theorem threshold_pos (place pace : Nat) : 0 < threshold place pace := by
  unfold threshold
  repeat' split
  all_goals omega

/-- A distance as a numeral, from its lowest place on. -/
def numeral (pace place distance : Nat) : Text :=
  let least := threshold place pace
  if distance < least then [digit distance]
  else
    digit (least + (distance - least) % (36 - least)) ::
      numeral pace (place + 36) ((distance - least) / (36 - least))
termination_by distance
decreasing_by
  have := threshold_pos place pace
  have := Nat.div_le_self (distance - threshold place pace) (36 - threshold place pace)
  omega

/-- A distance brought below the bound above which the pace grows, and the pace that this makes. -/
def scaled (distance pace : Nat) : Nat × Nat :=
  if 455 < distance then scaled (distance / 35) (pace + 36) else (distance, pace)
termination_by distance
decreasing_by exact Nat.div_lt_self (by omega) (by omega)

/-- The pace for the next distance, after one that led to the last of `count` code points. -/
def nextPace (distance count : Nat) (isFirst : Bool) : Nat :=
  let part := if isFirst then distance / 700 else distance / 2
  let (rest, pace) := scaled (part + part / count) 0
  pace + 36 * rest / (rest + 38)

/-- What has been written, and what the next numeral depends on. -/
structure Progress where
  written : Text
  /-- The distance from the last code point that was told. -/
  distance : Nat
  pace : Nat
  /-- How many code points have been told. -/
  count : Nat

/-- One code point passed, when those with the number `n` are told. -/
def pass (asciiCount n : Nat) (progress : Progress) (c : CodePoint) : Progress :=
  if c.toNat < n then { progress with distance := progress.distance + 1 }
  else if c.toNat = n then
    { written := progress.written ++ numeral progress.pace 36 progress.distance
      distance := 0
      pace := nextPace progress.distance (progress.count + 1) (progress.count = asciiCount)
      count := progress.count + 1 }
  else progress

/-- All code points told that have one of the given numbers; the first that is left is `next`. -/
def tell (t : Text) (asciiCount : Nat) : List Nat → (next : Nat) → Progress → Progress
  | [], _, progress => progress
  | n :: rest, next, progress =>
    let distance := progress.distance + (n - next) * (progress.count + 1)
    let passed := t.foldl (pass asciiCount n) { progress with distance }
    tell t asciiCount rest (n + 1) { passed with distance := passed.distance + 1 }

/-- A number among others in their order, once. -/
def insert (n : Nat) : List Nat → List Nat
  | [] => [n]
  | m :: rest => if n < m then n :: m :: rest else if n = m then m :: rest else m :: insert n rest

/-- A text in ASCII. -/
def encode (t : Text) : Text :=
  let ascii := t.filter (·.toNat < 0x80)
  let others := (t.filter (0x80 ≤ ·.toNat)).foldr (fun c numbers => insert c.toNat numbers) []
  let start : Progress := { written := [], distance := 0, pace := 72, count := ascii.length }
  ascii ++ (if ascii.isEmpty then [] else [('-' : CodePoint)]) ++
    (tell t ascii.length others 0x80 start).written

/-! ## Reading -/

/-- Why a text in ASCII tells no other. -/
inductive Misread
  /-- The text ends within a numeral. -/
  | incomplete
  /-- A numeral has something in it that is no digit. -/
  | notDigit (c : CodePoint)
  /-- A number is told that no code point has. -/
  | outOfRange (n : Nat)
  deriving DecidableEq

/-- The value of a digit, in either case. -/
def digitValue? (c : CodePoint) : Option Nat :=
  let n := c.toLower.toNat
  if 0x61 ≤ n && n ≤ 0x7A then some (n - 0x61)
  else if 0x30 ≤ n && n ≤ 0x39 then some (n - 0x30 + 26)
  else none

/-- The distance told by the numeral in front of a text, and the text after it, when the places
before this one have told `value` and a digit here stands for `weight`. -/
def readNumeral (pace place weight value : Nat) : Text → Except Misread (Nat × Text)
  | [] => .error .incomplete
  | c :: rest =>
    match digitValue? c with
    | none => .error (.notDigit c.toUpper)
    | some d =>
      let least := threshold place pace
      if d < least then .ok (value + d * weight, rest)
      else readNumeral pace (place + 36) (weight * (36 - least)) (value + d * weight) rest

/-- A numeral takes up some of the text. -/
theorem length_lt_of_readNumeral {pace place weight value distance : Nat} {t rest : Text}
    (h : readNumeral pace place weight value t = .ok (distance, rest)) :
    rest.length < t.length := by
  induction t generalizing place weight value with
  | nil => simp [readNumeral] at h
  | cons c more ih =>
    simp only [readNumeral] at h
    split at h
    · cases h
    · split at h
      · cases h
        simp
      · have shorter := ih h
        simp only [List.length_cons]
        omega

/-- Code points put into a text one after the other. Each is told by its distance from the place
`next` of the text and the number `n`. -/
def insertAll (pace n next : Nat) (shown : Text) (isFirst : Bool) (t : Text) :
    Except Misread Text :=
  match t with
  | [] => .ok shown
  | c :: rest =>
    match _h : readNumeral pace 36 1 0 (c :: rest) with
    | .error why => .error why
    | .ok (distance, left) =>
      let count := shown.length + 1
      let n := n + (next + distance) / count
      let place := (next + distance) % count
      if inRange : n < 0x110000 then
        insertAll (nextPace distance count isFirst) n (place + 1)
          (shown.take place ++ ⟨n, inRange⟩ :: shown.drop place) false left
      else .error (.outOfRange n)
termination_by t.length
decreasing_by exact length_lt_of_readNumeral _h

/-- The text that a text in ASCII tells. -/
def decode (t : Text) : Except Misread Text :=
  let (ascii, numerals) := (Text.splitLast '-' t).getD ([], t)
  insertAll 72 0x80 0 ascii true numerals

end Storefront.Punycode
