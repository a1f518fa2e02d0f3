import Storefront.Proofs.Encoded

/-!
# Texts that are nested too deep

A step of the machine that reads JSON opens one bracket at most, and only where a text has one. So
there is room for a text that has no more brackets to open than may be open at once, whatever else
is in it, and a row of more opening brackets than that is broken off at the first one too many. Such
a row is no JSON, and without that limit it would be refused as any other text that is none.

## Main definitions

* `Json.isOpening` — the brackets that open an array or an object
* `Json.brackets` — a row of brackets that open arrays

## Main results

* `Json.Reader.depth_le_of_step` — a step opens one bracket at most
* `Json.excess?_eq_none_of_countP_le` — there is room for a text with few brackets
* `Json.excess?_brackets`, `Json.not_isTextOf_brackets` — there is none for a long row of brackets,
  and no row is JSON
* `Json.excessBytes?_utf8` — a text is nested as deep as its bytes show
-/

namespace Storefront

namespace Json

/-- The brackets that open an array or an object. -/
def isOpening (c : CodePoint) : Bool := c = ('[' : CodePoint) || c = ('\x7b' : CodePoint)

/-- A row of brackets that open arrays. -/
def brackets (n : Nat) : Text := List.replicate n '['

theorem brackets_succ (n : Nat) : brackets (n + 1) = ('[' : CodePoint) :: brackets n :=
  List.replicate_succ

namespace Reader

variable {reader after : Reader} {c : CodePoint} {t : Text} {mode next : Mode}
variable {frames found : List Frame} {value : Json} {index place room : Nat}

/-! ### A step -/

/-- What follows a value opens nothing: at most it goes on to the next name of an object, for which
no frame stands any more. -/
theorem depth_le_of_after (h : Reader.after value frames index c = .ok (next, found)) :
    depth ⟨next, found, place⟩ ≤ frames.length := by
  unfold Reader.after at h
  split at h
  · cases h
    exact Nat.le_refl _
  · cases frames with
    | nil => cases h
    | cons frame outer =>
      cases frame <;>
      · dsimp only at h
        split_ifs at h <;> cases h <;> simp [depth, Mode.isNaming]

/-- The start of a value opens a bracket if it is one. -/
theorem depth_le_of_begin (h : Reader.begin frames index c = .ok (next, found)) :
    depth ⟨next, found, place⟩ ≤ frames.length + if isOpening c then 1 else 0 := by
  unfold Reader.begin at h
  dsimp only at h
  split_ifs at h with quote object array <;> cases h <;>
    simp [depth, Mode.isNaming, Purpose.isName, isOpening, *]

theorem isName_addEscaped (opened : Opened) (index : Nat) (c : CodePoint) :
    (opened.addEscaped index c).purpose.isName = opened.purpose.isName :=
  congrArg Purpose.isName (purpose_addEscaped opened index c)

theorem isNaming_close (opened : Opened) : opened.close.isNaming = opened.purpose.isName := by
  obtain ⟨purpose, start, letters, escaped⟩ := opened
  cases purpose <;> rfl

/-- A code point that leaves open what was open goes no deeper. -/
theorem depth_le_of_kept (kept : found = frames ∧ next.isNaming = mode.isNaming) :
    depth ⟨next, found, place⟩ ≤ depth ⟨mode, frames, index⟩ + if isOpening c then 1 else 0 := by
  rw [depth, depth, kept.1, kept.2]
  exact Nat.le_add_right _ _

section Kept

variable {opened : Opened} {first digits number : Nat} {letters : Text}

theorem kept_of_string (h : Reader.next ⟨.string opened, frames, index⟩ c = .ok (next, found)) :
    found = frames ∧ next.isNaming = (Mode.string opened).isNaming := by
  simp only [Reader.next] at h
  split_ifs at h <;> cases h
  · exact ⟨rfl, isNaming_close opened⟩
  · exact ⟨rfl, rfl⟩
  · exact ⟨rfl, rfl⟩

theorem kept_of_escape (h : Reader.next ⟨.escape opened, frames, index⟩ c = .ok (next, found)) :
    found = frames ∧ next.isNaming = (Mode.escape opened).isNaming := by
  simp only [Reader.next] at h
  split at h
  · cases h
    exact ⟨rfl, rfl⟩
  · split at h <;> cases h
    exact ⟨rfl, rfl⟩

theorem kept_of_unicode
    (h : Reader.next ⟨.unicode opened first digits number, frames, index⟩ c = .ok (next, found)) :
    found = frames ∧ next.isNaming = (Mode.unicode opened first digits number).isNaming := by
  simp only [Reader.next] at h
  split at h
  · split_ifs at h <;> cases h
    · exact ⟨rfl, isName_addEscaped opened first _⟩
    · exact ⟨rfl, rfl⟩
  · cases h

theorem kept_of_word
    (h : Reader.next ⟨.word first letters value, frames, index⟩ c = .ok (next, found)) :
    found = frames ∧ next.isNaming = (Mode.word first letters value).isNaming := by
  rcases letters with _ | ⟨letter, _ | ⟨more, rest⟩⟩
  · cases h
  · simp only [Reader.next] at h
    split_ifs at h
    cases h
    exact ⟨rfl, rfl⟩
  · simp only [Reader.next] at h
    split_ifs at h
    cases h
    exact ⟨rfl, rfl⟩

end Kept

/-- What may come next is at most one bracket deeper, and then the code point is that bracket. -/
theorem depth_le_of_next (h : reader.next c = .ok (next, found)) :
    depth ⟨next, found, place⟩ ≤ reader.depth + if isOpening c then 1 else 0 := by
  obtain ⟨mode, frames, start⟩ := reader
  -- Only where a value may begin is a bracket opened; all else stays as deep or goes back.
  cases mode with
  | value =>
    simp only [Reader.next] at h
    split at h
    · cases h
      exact depth_le_of_kept ⟨rfl, rfl⟩
    · exact depth_le_of_begin h
  | firstItem =>
    simp only [Reader.next] at h
    split_ifs at h
    · cases h
      exact depth_le_of_kept ⟨rfl, rfl⟩
    · cases h
      simp only [depth, Mode.isNaming, Bool.false_eq_true, if_false, List.length_tail]
      omega
    · exact depth_le_of_begin h
  | firstName =>
    simp only [Reader.next] at h
    split_ifs at h <;> cases h
    · exact depth_le_of_kept ⟨rfl, rfl⟩
    · simp only [depth, Mode.isNaming, Bool.false_eq_true, if_false, if_true]
      omega
    · exact depth_le_of_kept ⟨rfl, rfl⟩
  | name members =>
    simp only [Reader.next] at h
    split_ifs at h <;> cases h
    · exact depth_le_of_kept ⟨rfl, rfl⟩
    · exact depth_le_of_kept ⟨rfl, rfl⟩
  | colon members name =>
    simp only [Reader.next] at h
    split_ifs at h <;> cases h
    · exact depth_le_of_kept ⟨rfl, rfl⟩
    -- From here on a frame stands for the object.
    · exact Nat.le_add_right _ _
  | string opened => exact depth_le_of_kept (kept_of_string h)
  | escape opened => exact depth_le_of_kept (kept_of_escape h)
  | unicode opened first digits number => exact depth_le_of_kept (kept_of_unicode h)
  | word first letters value => exact depth_le_of_kept (kept_of_word h)
  | number first letters =>
    simp only [Reader.next] at h
    split_ifs at h
    · cases h
      exact depth_le_of_kept ⟨rfl, rfl⟩
    · cases h
      exact depth_le_of_kept ⟨rfl, rfl⟩
    · cases ended : Reader.number first letters.reverse frames with
      | error why =>
        rw [ended] at h
        cases h
      | ok value =>
        rw [ended] at h
        exact Nat.le_add_right_of_le (depth_le_of_after h)
  | done value => exact Nat.le_add_right_of_le (depth_le_of_after h)

/-- A step opens one bracket at most, where the text has one. -/
theorem depth_le_of_step (h : reader.step c = .ok after) :
    after.depth ≤ reader.depth + if isOpening c then 1 else 0 := by
  unfold step at h
  cases found : reader.next c with
  | error why =>
    rw [found] at h
    cases h
  | ok pair =>
    rw [found] at h
    cases h
    exact depth_le_of_next found

/-! ### A text -/

/-- There is room for a text with no more brackets to open than there is room for. -/
theorem excess?_eq_none_of_countP_le (few : reader.depth + t.countP isOpening ≤ room) :
    reader.excess? room t = none := by
  induction t generalizing reader with
  | nil => rfl
  | cons c rest ih =>
    rw [excess?]
    cases stepped : reader.step c with
    | error why => rfl
    | ok after =>
      have deeper := depth_le_of_step stepped
      rw [List.countP_cons] at few
      dsimp only
      rw [if_neg (by omega)]
      exact ih (by omega)

/-- In a row of arrays that are opened where a value may stand, the one is found for which there is
no room. -/
theorem excess?_brackets {n : Nat} (starts : mode = .value ∨ mode = .firstItem)
    (within : frames.length ≤ room) (long : room < frames.length + n) :
    excess? room ⟨mode, frames, place⟩ (brackets n) = some .array := by
  induction n generalizing mode frames place with
  | zero => omega
  | succ n ih =>
    have opened : step ⟨mode, frames, place⟩ '[' =
        .ok ⟨.firstItem, .array [] :: frames, place + 1⟩ := by
      rcases starts with rfl | rfl <;> rfl
    have deep : depth ⟨.firstItem, .array [] :: frames, place + 1⟩ = frames.length + 1 := rfl
    rw [brackets_succ, excess?, opened]
    dsimp only
    rw [deep]
    split
    · rfl
    · exact ih (.inr rfl) (by rw [List.length_cons]; omega) (by rw [List.length_cons]; omega)

/-- At the end of such a row a value may still stand. -/
theorem reads_brackets {n : Nat} (starts : mode = .value ∨ mode = .firstItem) :
    ∃ after, Reads ⟨mode, frames, place⟩ (brackets n) after ∧
      (after.mode = .value ∨ after.mode = .firstItem) := by
  induction n generalizing mode frames place with
  | zero => exact ⟨_, .nil _, starts⟩
  | succ n ih =>
    obtain ⟨after, reads, ends⟩ := ih (.inr rfl)
    refine ⟨after, .cons ?_ reads, ends⟩
    rcases starts with rfl | rfl <;> rfl

end Reader

section Texts

variable {t : Text} {c : CodePoint} {room n : Nat}

/-- There is room for a text with no more brackets to open than there is room for. -/
theorem excess?_eq_none_of_countP_le (few : t.countP isOpening ≤ room) :
    excess? room t = none := by
  unfold excess?
  split
  · rfl
  · exact Reader.excess?_eq_none_of_countP_le (by simpa [Reader.depth, Mode.isNaming] using few)

/-- There is no room for a row that is longer. -/
theorem excess?_brackets (long : room < n) : excess? room (brackets n) = some .array := by
  have unmarked : (brackets n).head? ≠ some (.ofNat 0xFEFF) := by
    rw [brackets, List.head?_replicate]
    split
    · nofun
    · decide
  rw [excess?, if_neg unmarked]
  exact Reader.excess?_brackets (.inl rfl) (Nat.zero_le room) (by simpa using long)

/-- No row is JSON. -/
theorem not_isTextOf_brackets (n : Nat) (value : Json) : ¬IsTextOf (brackets n) value := by
  intro text
  have found := read_eq_ok_iff.2 text
  obtain ⟨last, reads, starts⟩ : ∃ last, Reader.Reads ⟨.value, [], 0⟩ (brackets n) last ∧
      (last.mode = .value ∨ last.mode = .firstItem) := Reader.reads_brackets (.inl rfl)
  unfold read at found
  split at found
  · cases found
  · rw [show (brackets n).foldlM Reader.step ⟨.value, [], 0⟩ = .ok last from reads] at found
    -- The machine still waits for a value at the end.
    change last.finish = .ok value at found
    rcases starts with waits | waits <;>
    · rw [Reader.finish, waits] at found
      cases found

theorem hasSurrogate_brackets (n : Nat) : (brackets n).hasSurrogate = false := by
  rw [Text.hasSurrogate, brackets, List.any_replicate]
  split <;> decide

theorem isVisible_brackets (n : Nat) : IsVisible (brackets n) := by
  intro c mem
  obtain rfl := List.eq_of_mem_replicate mem
  decide

/-- How deep a text is nested, its UTF-8 form shows if the text begins with a character of ASCII and
has no control characters but blanks. -/
theorem excessBytes?_utf8 (whole : Text.hasSurrogate (c :: t) = false)
    (visible : IsVisible (c :: t)) (ascii : c.toNat < 0x80) :
    excessBytes? room (Text.utf8 (c :: t)) = excess? room (c :: t) := by
  rw [excessBytes?, Encoding.detect_utf8 visible ascii]
  dsimp only [Encoding.decode?]
  rw [Utf8.decode?_utf8 whole true]
  rfl

end Texts

end Json

end Storefront
