import Mathlib.Logic.Function.Basic
import Storefront.Text.Markup

/-!
# Text from outside in a page

Escaped text is nothing but text to a browser. None of the characters that begin or end a tag or a
quoted value stands in it, and an ampersand only at the start of an entity. A browser that puts the
characters in the place of their entities has the text again that was escaped, whatever that was:
text with entities in it comes back with its entities.

So a page that is fixed but for one escaped text, and in which that text stands outside of all tags,
has the same tags whatever the text is, and no other text makes the same page.

## Main definitions

* `Text.entities`, `Text.unescaped` — the entities, and a text with the characters in their place
* `Text.IsInert` — texts that are nothing but text to a browser
* `Page.Place`, `Page.tags` — what a browser is in the middle of, and the tags that it finds
* `Page.Frame`, `Page.Frame.page` — a page with a place for a text from outside

## Main results

* `CodePoint.escaped_cases` — a code point is escaped as its entity or stays as it is
* `Text.isInert_escaped`, `Text.unescaped_escaped` — escaped text is nothing but text
* `Page.Frame.tags_page`, `Page.Frame.page_injective` — what a text from outside changes in a page
-/

namespace Storefront

/-! ### Entities -/

namespace Text

/-- The entities, and the characters for which they stand. -/
def entities : List (Text × CodePoint) :=
  [(ofString "&amp;", '&'), (ofString "&lt;", '<'), (ofString "&gt;", '>'),
   (ofString "&#39;", '\''), (ofString "&#34;", '"')]

/-- The characters that begin or end a tag or a quoted value. -/
def delimiters : Text := ofString "<>\"'"

/-- A text with the characters in the place of their entities. -/
def unescaped : Text → Text
  | [] => []
  | c :: rest =>
    match entities.find? fun entity => entity.1.isPrefixOf (c :: rest) with
    | some entity => entity.2 :: unescaped (rest.drop (entity.1.length - 1))
    | none => c :: unescaped rest
termination_by t => t.length
decreasing_by
  · simp only [List.length_drop, List.length_cons]
    omega
  · simp only [List.length_cons]
    omega

/-- Texts that are nothing but text to a browser. -/
structure IsInert (t : Text) : Prop where
  plain : ∀ c ∈ t, c ∉ delimiters
  /-- What begins with an ampersand begins with an entity. -/
  entity : ∀ rest, ('&' : CodePoint) :: rest <:+ t →
    ∃ entity ∈ entities, entity.1 <+: ('&' : CodePoint) :: rest

end Text

/-- A code point is escaped as its entity, or it stays as it is and means nothing to a browser. -/
theorem CodePoint.escaped_cases (c : CodePoint) :
    (c.escaped, c) ∈ Text.entities ∨
      c.escaped = [c] ∧ c ≠ ('&' : CodePoint) ∧ c ∉ Text.delimiters := by
  unfold escaped
  split
  next same => exact .inl (by simp [Text.entities, same])
  next amp =>
    split
    next same => exact .inl (by simp [Text.entities, same])
    next lt =>
      split
      next same => exact .inl (by simp [Text.entities, same])
      next gt =>
        split
        next same => exact .inl (by simp [Text.entities, same])
        next apos =>
          split
          next same => exact .inl (by simp [Text.entities, same])
          next quot => exact .inr ⟨rfl, amp, by simp [Text.delimiters, Text.ofString, *]⟩

namespace Text

variable {t rest : Text} {c : CodePoint} {entity : Text × CodePoint}

theorem escaped_cons (c : CodePoint) (t : Text) : escaped (c :: t) = c.escaped ++ t.escaped :=
  List.flatMap_cons

/-- An entity begins with its only ampersand and holds no delimiter. -/
theorem exists_entity_eq (mem : entity ∈ entities) :
    ∃ tail, entity.1 = ('&' : CodePoint) :: tail ∧ ('&' : CodePoint) ∉ tail ∧
      ∀ c ∈ entity.1, c ∉ delimiters := by
  have each : ∀ entity ∈ entities, entity.1 = ('&' : CodePoint) :: entity.1.tail ∧
      ('&' : CodePoint) ∉ entity.1.tail ∧ ∀ c ∈ entity.1, c ∉ delimiters := by decide
  exact ⟨_, each entity mem⟩

/-! ### Escaped text is inert -/

theorem isInert_nil : IsInert [] where
  plain := nofun
  entity rest suffix := by simp at suffix

/-- A character that means nothing may stand before what is inert. -/
theorem IsInert.cons (h : t.IsInert) (amp : c ≠ ('&' : CodePoint)) (plain : c ∉ delimiters) :
    IsInert (c :: t) where
  plain d mem := by
    rcases List.mem_cons.1 mem with rfl | later
    · exact plain
    · exact h.plain d later
  entity rest suffix := by
    rcases List.suffix_cons_iff.1 suffix with same | later
    · exact absurd (List.cons.inj same).1.symm amp
    · exact h.entity rest later

/-- A suffix that begins with what the first part does not hold lies in the second part. -/
theorem suffix_of_suffix_append {before : Text} (fresh : c ∉ before)
    (suffix : c :: rest <:+ before ++ t) : c :: rest <:+ t := by
  induction before with
  | nil => exact suffix
  | cons d before ih =>
    rcases List.suffix_cons_iff.1 suffix with same | later
    · exact absurd (List.cons.inj same).1 fun own => fresh (own ▸ List.mem_cons_self)
    · exact ih (fun mem => fresh (List.mem_cons_of_mem d mem)) later

/-- So may an entity. -/
theorem IsInert.append_entity (h : t.IsInert) (mem : entity ∈ entities) :
    IsInert (entity.1 ++ t) := by
  obtain ⟨tail, eq, once, plain⟩ := exists_entity_eq mem
  constructor
  · intro c mem
    rcases List.mem_append.1 mem with inside | later
    · exact plain c inside
    · exact h.plain c later
  · intro rest suffix
    rw [eq, List.cons_append] at suffix
    rcases List.suffix_cons_iff.1 suffix with same | later
    · rw [same, ← List.cons_append, ← eq]
      exact ⟨entity, mem, List.prefix_append _ _⟩
    · exact h.entity rest (suffix_of_suffix_append once later)

theorem isInert_escaped (t : Text) : t.escaped.IsInert := by
  induction t with
  | nil => exact isInert_nil
  | cons c rest ih =>
    rw [escaped_cons]
    rcases c.escaped_cases with entity | ⟨same, amp, plain⟩
    · exact ih.append_entity entity
    · rw [same]
      exact ih.cons amp plain

/-! ### Escaped text is read back -/

/-- What is no ampersand stands for itself. -/
theorem unescaped_cons (amp : c ≠ ('&' : CodePoint)) (t : Text) :
    unescaped (c :: t) = c :: unescaped t := by
  have none : entities.find? (fun entity => entity.1.isPrefixOf (c :: t)) = none := by
    refine List.find?_eq_none.2 fun entity mem starts => ?_
    obtain ⟨tail, eq, -⟩ := exists_entity_eq mem
    rw [eq, List.isPrefixOf_iff_prefix, List.cons_prefix_cons] at starts
    exact amp starts.1.symm
  rw [unescaped, none]

/-- An entity stands for its character, whatever follows. -/
theorem unescaped_append (mem : entity ∈ entities) (t : Text) :
    unescaped (entity.1 ++ t) = entity.2 :: unescaped t := by
  -- No entity begins another one, so the search ends at the right one before it sees `t`.
  simp only [entities, List.mem_cons, List.not_mem_nil, or_false] at mem
  rcases mem with rfl | rfl | rfl | rfl | rfl <;>
  · rw [unescaped.eq_def]
    rfl

theorem unescaped_escaped (t : Text) : t.escaped.unescaped = t := by
  induction t with
  | nil => rw [escaped, List.flatMap_nil, unescaped]
  | cons c rest ih =>
    rw [escaped_cons]
    rcases c.escaped_cases with entity | ⟨same, amp, -⟩
    · rw [unescaped_append entity, ih]
    · rw [same, List.singleton_append, unescaped_cons amp, ih]

theorem escaped_injective : Function.Injective escaped :=
  Function.LeftInverse.injective unescaped_escaped

end Text

/-! ### Tags -/

namespace Page

/-- What a browser is in the middle of when it reads a page. -/
inductive Place
  /-- Text between two tags. -/
  | text
  /-- A tag of which some has been read. -/
  | tag (read : Text)
  /-- A value between quotes in a tag. -/
  | value (quote : CodePoint) (read : Text)
  deriving DecidableEq

namespace Place

/-- The place after a code point, and the tag that ends with it if one does. -/
def read : Place → CodePoint → Place × Option Text
  | text, c => (if c = ('<' : CodePoint) then tag [c] else text, none)
  | tag read, c =>
    if c = ('>' : CodePoint) then (text, some (read ++ [c]))
    else if c = ('"' : CodePoint) ∨ c = ('\'' : CodePoint) then (value c (read ++ [c]), none)
    else (tag (read ++ [c]), none)
  | value quote read, c =>
    (if c = quote then tag (read ++ [c]) else value quote (read ++ [c]), none)

/-- The place after a text. -/
def after (place : Place) (t : Text) : Place := t.foldl (fun place c => (place.read c).1) place

/-- The tags that end in a text. -/
def tags : Place → Text → List Text
  | _, [] => []
  | place, c :: rest => (place.read c).2.toList ++ (place.read c).1.tags rest

variable {t : Text}

theorem tags_append (place : Place) (t rest : Text) :
    place.tags (t ++ rest) = place.tags t ++ (place.after t).tags rest := by
  induction t generalizing place with
  | nil => rfl
  | cons c t ih =>
    rw [List.cons_append, tags, ih, tags, List.append_assoc]
    rfl

/-- Between two tags a browser stays there until a delimiter comes. -/
theorem read_text {c : CodePoint} (plain : c ∉ Text.delimiters) : text.read c = (text, none) := by
  have differs : c ≠ ('<' : CodePoint) := by
    rintro rfl
    exact plain (by decide)
  simp only [read, if_neg differs]

theorem after_text (plain : ∀ c ∈ t, c ∉ Text.delimiters) : text.after t = text := by
  induction t with
  | nil => rfl
  | cons c t ih =>
    rw [after, List.foldl_cons, read_text (plain c List.mem_cons_self)]
    exact ih fun d mem => plain d (List.mem_cons_of_mem c mem)

theorem tags_text (plain : ∀ c ∈ t, c ∉ Text.delimiters) : text.tags t = [] := by
  induction t with
  | nil => rfl
  | cons c t ih =>
    rw [tags, read_text (plain c List.mem_cons_self)]
    exact ih fun d mem => plain d (List.mem_cons_of_mem c mem)

end Place

/-- The tags of a page. -/
def tags (page : Text) : List Text := Place.text.tags page

/-! ### Pages with a place for a text -/

/-- What is fixed of a page with a place for a text from outside. -/
structure Frame where
  before : Text
  after : Text
  /-- The place lies between two tags. -/
  outside : Place.text.after before = .text

namespace Frame

/-- The page with a text in its place. -/
def page (frame : Frame) (t : Text) : Text := frame.before ++ t.escaped ++ frame.after

/-- A text from outside has no part in the tags. -/
theorem tags_page (frame : Frame) (t : Text) :
    tags (frame.page t) = tags frame.before ++ tags frame.after := by
  have plain := (Text.isInert_escaped t).plain
  rw [page, List.append_assoc, tags, Place.tags_append, frame.outside, Place.tags_append,
    Place.tags_text plain, Place.after_text plain, List.nil_append]
  rfl

/-- Another text makes another page. -/
theorem page_injective (frame : Frame) : Function.Injective frame.page := by
  intro t u same
  exact Text.escaped_injective (List.append_cancel_left (List.append_cancel_right same))

end Frame

end Page

end Storefront
